import ConsumerContract.Text.CaseTable

namespace ConsumerContract.Text

def CaseRun.covers (r : CaseRun) (n : Nat) : Bool :=
  decide (r.first ≤ n) && decide (n ≤ r.last) && decide ((n - r.first) % r.stride = 0)

def upperChars (c : Char) : List Char :=
  match upperSequences.lookup c.toNat with
  | some several => several.map Char.ofNat
  | none =>
      match upperRuns.find? (·.covers c.toNat) with
      | some run => [Char.ofNat (c.toNat + run.shift).toNat]
      | none => [c]

def uppercase (s : String) : String := .ofList (s.toList.flatMap upperChars)

end ConsumerContract.Text
