import ConsumerContract.Selector
import ConsumerContract.Tree.Basic

/-!
What a declaration stands for: the example document in which every matcher gives way to its example,
and the matchers, each with the steps that lead to it.
-/

namespace ConsumerContract

def Criterion.payloadSteps : Criterion → List Selector.Step
  | .atLeast _ => [.each]
  | .atMost _ => [.each]
  | .type => []
  | .pattern _ => []

def Criterion.expand (c : Criterion) (v : Json) : Json :=
  match c.count? with
  | none => v
  | some n => .array (List.replicate n.toNat v)

theorem Criterion.payloadSteps_of_count? {c : Criterion} {n : UInt64} (hn : c.count? = some n) :
    c.payloadSteps = [.each] := by
  cases c with
  | atLeast m => rfl
  | atMost m => rfl
  | _ => cases hn

theorem Criterion.payloadSteps_of_count?_none {c : Criterion} (hn : c.count? = none) :
    c.payloadSteps = [] := by
  cases c with
  | type => rfl
  | pattern p => rfl
  | _ => cases hn

structure Placed where
  steps : List Selector.Step
  depth : Nat
  matcher : Matcher
  deriving Repr

def Placed.under (steps : List Selector.Step) (p : Placed) : Placed :=
  { p with steps := steps ++ p.steps, depth := p.depth + 1 }

namespace Tree

mutual

def expansion : Tree → Json
  | .null => .null
  | .bool b => .bool b
  | .number n => .number n
  | .string s => .string s
  | .array items => .array (expandItems items)
  | .object entries => .object (expandEntries entries)
  | .matcher c payload => c.expand (expansion payload)

def expandItems : List Tree → List Json
  | [] => []
  | t :: rest => expansion t :: expandItems rest

def expandEntries : List (String × Tree) → List (String × Json)
  | [] => []
  | (k, t) :: rest => (k, expansion t) :: expandEntries rest

end

mutual

/-- The matchers of a tree in order, each behind those of its payload. -/
def placed : Tree → List Placed
  | .null => []
  | .bool _ => []
  | .number _ => []
  | .string _ => []
  | .array items => placedItems 0 items
  | .object entries => placedEntries entries
  | .matcher c payload =>
      (placed payload).map (Placed.under c.payloadSteps) ++ [⟨[], 0, ⟨c, payload⟩⟩]

def placedItems (i : Nat) : List Tree → List Placed
  | [] => []
  | t :: rest => (placed t).map (Placed.under [.index i]) ++ placedItems (i + 1) rest

def placedEntries : List (String × Tree) → List Placed
  | [] => []
  | (k, t) :: rest => (placed t).map (Placed.under [.key k]) ++ placedEntries rest

end

theorem expandItems_eq_map (items : List Tree) : expandItems items = items.map expansion := by
  induction items with
  | nil => rfl
  | cons t rest ih => rw [expandItems, ih, List.map_cons]

theorem expandEntries_eq_map (entries : List (String × Tree)) :
    expandEntries entries = entries.map fun e => (e.1, e.2.expansion) := by
  induction entries with
  | nil => rfl
  | cons e rest ih => rw [expandEntries, ih, List.map_cons]

theorem placedItems_eq_flatMap (i : Nat) (items : List Tree) :
    placedItems i items =
      (items.zipIdx i).flatMap fun e => e.1.placed.map (Placed.under [.index e.2]) := by
  induction items generalizing i with
  | nil => rfl
  | cons t rest ih => rw [placedItems, ih, List.zipIdx_cons, List.flatMap_cons]

theorem placedEntries_eq_flatMap (entries : List (String × Tree)) :
    placedEntries entries = entries.flatMap fun e => e.2.placed.map (Placed.under [.key e.1]) := by
  induction entries with
  | nil => rfl
  | cons e rest ih => rw [placedEntries, ih, List.flatMap_cons]

mutual

theorem expansion_ofJson : ∀ v : Json, (ofJson v).expansion = v
  | .null => rfl
  | .bool _ => rfl
  | .number _ => rfl
  | .string _ => rfl
  | .array items => by simp [ofJson, expansion, expandItems_ofJsonItems items]
  | .object entries => by simp [ofJson, expansion, expandEntries_ofJsonEntries entries]

theorem expandItems_ofJsonItems : ∀ items : List Json, expandItems (ofJsonItems items) = items
  | [] => rfl
  | v :: rest => by simp [ofJsonItems, expandItems, expansion_ofJson v,
      expandItems_ofJsonItems rest]

theorem expandEntries_ofJsonEntries :
    ∀ entries : List (String × Json), expandEntries (ofJsonEntries entries) = entries
  | [] => rfl
  | (k, v) :: rest => by simp [ofJsonEntries, expandEntries, expansion_ofJson v,
      expandEntries_ofJsonEntries rest]

end

mutual

theorem placed_ofJson : ∀ v : Json, (ofJson v).placed = []
  | .null => rfl
  | .bool _ => rfl
  | .number _ => rfl
  | .string _ => rfl
  | .array items => by simp [ofJson, placed, placedItems_ofJsonItems items]
  | .object entries => by simp [ofJson, placed, placedEntries_ofJsonEntries entries]

theorem placedItems_ofJsonItems :
    ∀ (items : List Json) (i : Nat), placedItems i (ofJsonItems items) = []
  | [], _ => rfl
  | v :: rest, i => by simp [ofJsonItems, placedItems, placed_ofJson v,
      placedItems_ofJsonItems rest]

theorem placedEntries_ofJsonEntries :
    ∀ entries : List (String × Json), placedEntries (ofJsonEntries entries) = []
  | [] => rfl
  | (k, v) :: rest => by simp [ofJsonEntries, placedEntries, placed_ofJson v,
      placedEntries_ofJsonEntries rest]

end

end Tree

end ConsumerContract
