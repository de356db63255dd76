import ConsumerContract.Tree.Check
import ConsumerContract.Tree.Expansion

namespace ConsumerContract

open Selector (Step)

namespace Json

inductive Context where
  | hole
  | item (before : List Json) (inner : Context) (after : List Json)
  | entry (before : Tree.Members) (k : String) (inner : Context) (after : Tree.Members)
  deriving Repr

namespace Context

def fill (v : Json) : Context → Json
  | .hole => v
  | .item before inner after => .array (before ++ inner.fill v :: after)
  | .entry before k inner after => .object (before ++ (k, inner.fill v) :: after)

/-- The object around the hole encodes a matcher, whatever the hole is filled with. -/
def encodesMatcher (before after : Tree.Members) : Bool :=
  (Entries.get? matcherKey (before ++ after)).isSome

def IsEntered : Context → Prop
  | .hole => True
  | .item _ inner _ => inner.IsEntered
  | .entry before k inner after =>
      (if encodesMatcher before after then k = "value" else k ≠ matcherKey) ∧ inner.IsEntered

def IsAscending : Context → Prop
  | .hole => True
  | .item _ inner _ => inner.IsAscending
  | .entry before k inner after =>
      Entries.Ascending (before ++ (k, Json.null) :: after) ∧ inner.IsAscending

def steps : Context → List Step
  | .hole => []
  | .item before inner _ => .index before.length :: inner.steps
  | .entry before k inner after =>
      (if encodesMatcher before after then Tree.payloadStepsOf (before ++ after) else [.key k]) ++
        inner.steps

end Context

end Json

namespace Tree

inductive Context where
  | hole
  | item (before : List Tree) (inner : Context) (after : List Tree)
  | entry (before : List (String × Tree)) (k : String) (inner : Context)
      (after : List (String × Tree))
  | payload (c : Criterion) (inner : Context)
  deriving Repr

namespace Context

def fill (t : Tree) : Context → Tree
  | .hole => t
  | .item before inner after => .array (before ++ inner.fill t :: after)
  | .entry before k inner after => .object (before ++ (k, inner.fill t) :: after)
  | .payload c inner => .matcher c (inner.fill t)

def steps : Context → List Step
  | .hole => []
  | .item before inner _ => .index before.length :: inner.steps
  | .entry _ k inner _ => .key k :: inner.steps
  | .payload c inner => c.payloadSteps ++ inner.steps

def depth : Context → Nat
  | .hole => 0
  | .item _ inner _ => inner.depth + 1
  | .entry _ _ inner _ => inner.depth + 1
  | .payload _ inner => inner.depth + 1

end Context

end Tree

end ConsumerContract
