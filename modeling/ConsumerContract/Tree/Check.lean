import ConsumerContract.Tree.Decode

/-!
The checks that a document has to pass to be read as a declaration, in the order of a walk from the
root: the items of an array by index, the entries of an object by key, and of an object that encodes
a matcher only its payload.
-/

namespace ConsumerContract

open Selector (Step)

/-- All but the last come before the payload is entered. -/
inductive Check.Aspect where
  | typeText
  | kind
  | pattern
  | bound (name : String)
  | payload
  | combination
  deriving DecidableEq, Repr

structure Check where
  steps : List Step
  depth : Nat
  members : Tree.Members
  aspect : Check.Aspect
  deriving Repr

namespace Check

def under (steps : List Step) (c : Check) : Check :=
  { c with steps := steps ++ c.steps, depth := c.depth + 1 }

def Aspect.beforePayload : List Aspect :=
  [.typeText, .kind, .pattern, .bound "min", .bound "max", .payload]

def Aspect.all : List Aspect := beforePayload ++ [.combination]

end Check

def Tree.payloadStepsOf (members : Tree.Members) : List Step :=
  if (Entries.get? "min" members).isSome || (Entries.get? "max" members).isSome then [.each] else []

namespace Json

mutual

def checks : Json → List Check
  | .array items => checkItems 0 items
  | .object entries =>
      match Entries.get? matcherKey entries with
      | none => checkEntries entries
      | some _ =>
          Check.Aspect.beforePayload.map (fun aspect => ⟨[], 0, entries, aspect⟩) ++
            (checkValue entries).map (Check.under (Tree.payloadStepsOf entries)) ++
            [⟨[], 0, entries, .combination⟩]
  | _ => []

def checkItems (i : Nat) : List Json → List Check
  | [] => []
  | v :: rest => (checks v).map (Check.under [.index i]) ++ checkItems (i + 1) rest

def checkEntries : List (String × Json) → List Check
  | [] => []
  | (k, v) :: rest => (checks v).map (Check.under [.key k]) ++ checkEntries rest

def checkValue : List (String × Json) → List Check
  | [] => []
  | (k, v) :: rest => if "value" = k then checks v else checkValue rest

end

def entered : Json → List (List Step × Json)
  | .array items => items.zipIdx.map fun e => ([.index e.2], e.1)
  | .object entries =>
      match Entries.get? matcherKey entries with
      | none => entries.map fun e => ([.key e.1], e.2)
      | some _ =>
          (Entries.get? "value" entries).toList.map fun v => (Tree.payloadStepsOf entries, v)
  | _ => []

inductive Reaches : Json → List Step → Json → Prop where
  | here (v : Json) : Reaches v [] v
  | inside {v part w : Json} {steps rest all : List Step} (hpart : (steps, part) ∈ v.entered)
      (hall : all = steps ++ rest) (h : Reaches part rest w) : Reaches v all w

theorem checkItems_eq_flatMap (i : Nat) (items : List Json) :
    checkItems i items =
      (items.zipIdx i).flatMap fun e => e.1.checks.map (Check.under [.index e.2]) := by
  induction items generalizing i with
  | nil => rfl
  | cons v rest ih => rw [checkItems, ih, List.zipIdx_cons, List.flatMap_cons]

theorem checkEntries_eq_flatMap (entries : List (String × Json)) :
    checkEntries entries = entries.flatMap fun e => e.2.checks.map (Check.under [.key e.1]) := by
  induction entries with
  | nil => rfl
  | cons e rest ih => rw [checkEntries, ih, List.flatMap_cons]

theorem checkValue_eq (entries : List (String × Json)) :
    checkValue entries = match Entries.get? "value" entries with
      | none => []
      | some v => v.checks := by
  induction entries with
  | nil => rfl
  | cons e rest ih =>
      obtain ⟨k, v⟩ := e
      rw [checkValue, Entries.get?]
      split
      · rfl
      · exact ih

end Json

end ConsumerContract
