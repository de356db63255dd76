import ConsumerContract.Tree.Expansion

/-!
The nodes of a tree in the order of a walk from the root: each in front of what is below it, the
items of an array by index, the entries of an object by key, and the payload of a matcher as its
only child.
-/

namespace ConsumerContract

structure Visit where
  steps : List Selector.Step
  depth : Nat
  node : Tree
  deriving Repr

def Visit.under (steps : List Selector.Step) (v : Visit) : Visit :=
  { v with steps := steps ++ v.steps, depth := v.depth + 1 }

namespace Tree

mutual

def visits : Tree → List Visit
  | .null => [⟨[], 0, .null⟩]
  | .bool b => [⟨[], 0, .bool b⟩]
  | .number n => [⟨[], 0, .number n⟩]
  | .string s => [⟨[], 0, .string s⟩]
  | .array items => ⟨[], 0, .array items⟩ :: visitItems 0 items
  | .object entries => ⟨[], 0, .object entries⟩ :: visitEntries entries
  | .matcher c payload =>
      ⟨[], 0, .matcher c payload⟩ :: (visits payload).map (Visit.under c.payloadSteps)

def visitItems (i : Nat) : List Tree → List Visit
  | [] => []
  | t :: rest => (visits t).map (Visit.under [.index i]) ++ visitItems (i + 1) rest

def visitEntries : List (String × Tree) → List Visit
  | [] => []
  | (k, t) :: rest => (visits t).map (Visit.under [.key k]) ++ visitEntries rest

end

theorem visitItems_eq_flatMap (i : Nat) (items : List Tree) :
    visitItems i items =
      (items.zipIdx i).flatMap fun e => e.1.visits.map (Visit.under [.index e.2]) := by
  induction items generalizing i with
  | nil => rfl
  | cons t rest ih => rw [visitItems, ih, List.zipIdx_cons, List.flatMap_cons]

theorem visitEntries_eq_flatMap (entries : List (String × Tree)) :
    visitEntries entries = entries.flatMap fun e => e.2.visits.map (Visit.under [.key e.1]) := by
  induction entries with
  | nil => rfl
  | cons e rest ih => rw [visitEntries, ih, List.flatMap_cons]

end Tree

end ConsumerContract
