import ConsumerContract.Pattern.Meaning

/-!
How much memory a pattern takes as an automaton over the bytes of UTF-8. A pattern that takes more
than ten mebibytes is refused, however short its text.
-/

namespace ConsumerContract.Pattern

/-- Splits a run of code points into runs whose encodings are the combinations of one run of bytes
at each place. -/
def alignedRuns : Nat → Nat → Nat → List (Nat × Nat)
  | 0, _, _ => []
  | fuel + 1, lo, hi =>
      let cut (last : Nat) := alignedRuns fuel lo last ++ alignedRuns fuel (last + 1) hi
      let misaligned (bits : Nat) : Option Nat :=
        let m := Nat.pow 2 bits
        if lo / m = hi / m then none
        else if lo % m ≠ 0 then some (lo / m * m + (m - 1))
        else if hi % m ≠ m - 1 then some (hi / m * m - 1)
        else none
      if hi < lo then []
      else
        match [0x7F, 0x7FF, 0xFFFF].find? fun last => decide (lo ≤ last ∧ last < hi) with
        | some last => cut last
        | none =>
            if hi < 0x80 then [(lo, hi)]
            else
              match (misaligned 6).or ((misaligned 12).or (misaligned 18)) with
              | some last => cut last
              | none => [(lo, hi)]

def utf8Bytes (n : Nat) : List Nat :=
  if n < 0x80 then [n]
  else if n < 0x800 then [0xC0 + n / 64, 0x80 + n % 64]
  else if n < 0x10000 then [0xE0 + n / 4096, 0x80 + n / 64 % 64, 0x80 + n % 64]
  else [0xF0 + n / 262144, 0x80 + n / 4096 % 64, 0x80 + n / 64 % 64, 0x80 + n % 64]

abbrev ByteRuns := List (Nat × Nat)

def byteRuns (s : CharSet) : List ByteRuns :=
  (s.inter .scalars).runs.flatMap fun (lo, hi) =>
    (alignedRuns 64 lo hi).map fun (lo, hi) => (utf8Bytes lo).zip (utf8Bytes hi)

def followers : List ByteRuns → List (List ByteRuns)
  | [] => []
  | [] :: rest => followers rest
  | (r :: tail) :: rest =>
      let same := rest.takeWhile fun q => q.head? == some r
      let others := followers rest
      (tail :: same.map List.tail) :: (if same.isEmpty then others else others.drop 1)

/-- The states of the least automaton for some encodings: the encodings that remain from each. -/
def states : Nat → List (List ByteRuns) → List (List ByteRuns)
  | 0, _ => []
  | fuel + 1, level =>
      let level := (level.filter fun s => s.any (!·.isEmpty)).eraseDups
      level ++ (if level.isEmpty then [] else states fuel (level.flatMap followers))

def commonLength : ByteRuns → ByteRuns → Nat
  | a :: as, b :: bs => if a = b then 1 + commonLength as bs else 0
  | _, _ => 0

def beginnings : ByteRuns → List ByteRuns → Nat
  | _, [] => 0
  | previous, q :: rest => q.length - commonLength previous q + beginnings q rest

def stateBytes : Nat := 32

def charsBytes (backward : Bool) (s : CharSet) : Nat :=
  match s.runs with
  | [] => stateBytes
  | [(lo, hi)] =>
      if lo = hi then stateBytes * (utf8Bytes lo).length else several
  | _ => several
where
  several : Nat :=
    if s.isAscii then 2 * stateBytes + 8 * s.runs.length
    else
      let encodings := byteRuns s
      if backward then
        2 * stateBytes + 4 * encodings.length + stateBytes * beginnings [] encodings
      else
        let all := (states 5 [encodings]).eraseDups
        all.foldl (fun n state => n + stateBytes + 8 * (followers state).length) stateBytes

mutual

def Expr.matchesEmpty : Expr → Bool
  | .empty => true
  | .chars s => s.isEmpty
  | .look _ => true
  | .repetition min _ sub => min == 0 || sub.matchesEmpty
  | .capture sub => sub.matchesEmpty
  | .concat parts => allMatchEmpty parts
  | .alternation branches => anyMatchesEmpty branches

def Expr.allMatchEmpty : List Expr → Bool
  | [] => true
  | e :: rest => e.matchesEmpty && allMatchEmpty rest

def Expr.anyMatchesEmpty : List Expr → Bool
  | [] => false
  | e :: rest => e.matchesEmpty || anyMatchesEmpty rest

end

def repetitionBytes (mayBeEmpty : Bool) (min : Nat) (max : Option Nat) (sub : Nat) : Nat :=
  match min, max with
  | 0, some 1 => sub + 2 * stateBytes + 8
  | 0, none => if mayBeEmpty then sub + 3 * stateBytes + 16 else sub + stateBytes + 8
  | n, none => n * sub + stateBytes + 8
  | n, some m =>
      if n = m then n * sub
      else n * sub + stateBytes + (m - n) * (sub + stateBytes + 8)

mutual

/-- Groups are remembered only forwards. -/
def Expr.bytes (backward : Bool) : Expr → Nat
  | .empty => stateBytes
  | .chars s => charsBytes backward s
  | .look _ => stateBytes
  | .repetition min max sub =>
      repetitionBytes sub.matchesEmpty min max (sub.bytes backward)
  | .capture sub => sub.bytes backward + if backward then 0 else 2 * stateBytes
  | .concat parts => totalBytes backward parts
  | .alternation branches =>
      totalBytes backward branches + 2 * stateBytes + 4 * branches.length

def Expr.totalBytes (backward : Bool) : List Expr → Nat
  | [] => 0
  | e :: rest => e.bytes backward + totalBytes backward rest

end

/-- What any automaton takes: a loop in front, the group of the whole match and its end. -/
def frameBytes : Nat := 6 * stateBytes + 16

def sizeLimit : Nat := 10 * 1024 * 1024

def Expr.fits (e : Expr) : Bool :=
  decide (frameBytes + e.bytes false ≤ sizeLimit) && decide (frameBytes + e.bytes true ≤ sizeLimit)

end ConsumerContract.Pattern
