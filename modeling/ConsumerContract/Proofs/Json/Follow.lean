import ConsumerContract.Json.Basic
import ConsumerContract.Proofs.List
import ConsumerContract.Selector

namespace ConsumerContract.Json

open Selector (Step)

/-- The values that the steps lead to, unless they get stuck on the way to one of them. -/
def follow? : List Step → Json → Option (List Json)
  | [], v => some [v]
  | .key k :: rest, .object entries => (Entries.get? k entries).bind (follow? rest)
  | .index i :: rest, .array items => items[i]?.bind (follow? rest)
  | .each :: rest, .array items => (items.mapM (follow? rest)).map List.flatten
  | _ :: _, _ => none

def put? : List Step → Json → Json → Option Json
  | [], _, w => some w
  | .key k :: rest, .object entries, w =>
      ((Entries.get? k entries).bind fun v => put? rest v w).map fun v =>
        .object (Entries.insert k v entries)
  | .index i :: rest, .array items, w =>
      (items[i]?.bind fun v => put? rest v w).map fun v => .array (items.set i v)
  | .each :: rest, .array items, w => (items.mapM fun v => put? rest v w).map .array
  | _ :: _, _, _ => none

theorem follow?_each_replicate {rest : List Step} {v w : Json} {m : Nat}
    (h : v.follow? rest = some (List.replicate m w)) (n : Nat) :
    (Json.array (List.replicate n v)).follow? (.each :: rest) =
      some (List.replicate (n * m) w) := by
  rw [follow?, List.mapM_replicate_eq_some h, Option.map_some, List.flatten_replicate_replicate]

end ConsumerContract.Json
