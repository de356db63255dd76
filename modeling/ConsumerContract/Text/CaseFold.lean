import ConsumerContract.Text.CaseTable
import ConsumerContract.Text.CharSet

namespace ConsumerContract.Text

def CaseRun.pairs (r : CaseRun) : List (Nat × Nat) :=
  (List.range ((r.last - r.first) / r.stride + 1)).map fun (i : Nat) =>
    let c := r.first + r.stride * i
    (c, (c + r.shift).toNat)

def foldPairs : List (Nat × Nat) := foldRuns.flatMap CaseRun.pairs

def closeUnderCase (s : CharSet) : CharSet :=
  let folded := foldPairs.filterMap fun (c, f) => if s.hasCode c then some (f, f) else none
  let t := s.union (.ofRuns folded)
  t.union (.ofRuns (foldPairs.filterMap fun (c, f) => if t.hasCode f then some (c, c) else none))

end ConsumerContract.Text
