namespace ConsumerContract

/-- A set of characters as inclusive runs of code points, ascending and apart. -/
structure CharSet where
  runs : List (Nat × Nat)
  deriving DecidableEq, Repr

namespace CharSet

def empty : CharSet := ⟨[]⟩

def scalars : CharSet := ⟨[(0, 0xD7FF), (0xE000, 0x10FFFF)]⟩

def hasCode (s : CharSet) (n : Nat) : Bool := s.runs.any fun (lo, hi) => decide (lo ≤ n ∧ n ≤ hi)

def contains (s : CharSet) (c : Char) : Bool := s.hasCode c.toNat

def isEmpty (s : CharSet) : Bool := s.runs.isEmpty

def isAscii (s : CharSet) : Bool := s.runs.all fun (_, hi) => decide (hi < 0x80)

def join : List (Nat × Nat) → List (Nat × Nat)
  | [] => []
  | (lo, hi) :: rest =>
      match join rest with
      | [] => [(lo, hi)]
      | (lo', hi') :: more =>
          if lo' ≤ hi + 1 then (lo, max hi hi') :: more else (lo, hi) :: (lo', hi') :: more

def place (r : Nat × Nat) : List (Nat × Nat) → List (Nat × Nat)
  | [] => [r]
  | q :: rest => if r.1 ≤ q.1 then r :: q :: rest else q :: place r rest

def ofRuns (runs : List (Nat × Nat)) : CharSet := ⟨join (runs.foldr place [])⟩

def singleton (c : Char) : CharSet := ⟨[(c.toNat, c.toNat)]⟩

def union (s t : CharSet) : CharSet := ofRuns (s.runs ++ t.runs)

def inter (s t : CharSet) : CharSet :=
  ⟨s.runs.flatMap fun (a, b) => t.runs.filterMap fun (c, d) =>
    if max a c ≤ min b d then some (max a c, min b d) else none⟩

def gaps (start : Nat) : List (Nat × Nat) → List (Nat × Nat)
  | [] => if start ≤ 0x10FFFF then [(start, 0x10FFFF)] else []
  | (lo, hi) :: rest =>
      if start < lo then (start, lo - 1) :: gaps (hi + 1) rest else gaps (hi + 1) rest

def compl (s : CharSet) : CharSet := scalars.inter ⟨gaps 0 s.runs⟩

def diff (s t : CharSet) : CharSet := s.inter t.compl

def symmDiff (s t : CharSet) : CharSet := (s.diff t).union (t.diff s)

def hexDigit? (c : Char) : Option Nat :=
  if '0' ≤ c ∧ c ≤ '9' then some (c.toNat - 48)
  else if 'A' ≤ c ∧ c ≤ 'F' then some (c.toNat - 55)
  else if 'a' ≤ c ∧ c ≤ 'f' then some (c.toNat - 87)
  else none

/-- Reads runs written in hexadecimal, `41-5A 5F`. -/
def scan : List Char → Nat → Option Nat → List (Nat × Nat)
  | [], n, lo? => [(lo?.getD n, n)]
  | '-' :: cs, n, _ => scan cs 0 (some n)
  | ' ' :: cs, n, lo? => (lo?.getD n, n) :: scan cs 0 none
  | c :: cs, n, lo? => scan cs (16 * n + (hexDigit? c).getD 0) lo?

def ofText (text : String) : CharSet := ⟨scan text.toList 0 none⟩

def ofLines (lines : List String) : CharSet := ⟨lines.flatMap fun l => (ofText l).runs⟩

theorem contains_singleton (c d : Char) : (singleton c).contains d = decide (d = c) := by
  simp only [singleton, contains, hasCode, List.any_cons, List.any_nil, Bool.or_false]
  by_cases h : d = c
  · simp [h]
  · have : d.toNat ≠ c.toNat := fun e => h (Char.toNat_inj.mp e)
    simp [h]; omega

end CharSet

end ConsumerContract
