import ConsumerContract.Decimal.Binary64

/-!
The fewest decimal digits that read back as a given binary number. For each count of digits the two
neighbours of the number on that decimal grid are tried; the first grid with a hit wins, and of two
hits the nearer.
-/

namespace ConsumerContract

structure Decimal where
  digits : Nat
  exponent : Int
  deriving DecidableEq, Repr

namespace Decimal

def numerator (d : Decimal) : Nat := d.digits * Nat.pow 10 d.exponent.toNat

def denominator (d : Decimal) : Nat := Nat.pow 10 (-d.exponent).toNat

def toBinary64? (negative : Bool) (d : Decimal) : Option Binary64 :=
  Binary64.ofRatio? negative d.numerator d.denominator

def readsBackAs (d : Decimal) (x : Binary64) : Bool := d.toBinary64? x.negative == some x

def dropZeros : Nat → Decimal → Decimal
  | 0, d => d
  | fuel + 1, d =>
      if d.digits ≠ 0 ∧ d.digits % 10 = 0 then
        dropZeros fuel ⟨d.digits / 10, d.exponent + 1⟩
      else d

def tenPowerLe (k : Int) (num den : Nat) : Bool :=
  decide (den * Nat.pow 10 k.toNat ≤ num * Nat.pow 10 (-k).toNat)

def decimalOrder (num den : Nat) : Int :=
  let low : Int := ((num.log2 : Int) - den.log2) * 30103 / 100000 - 1
  if tenPowerLe (low + 2) num den then low + 2
  else if tenPowerLe (low + 1) num den then low + 1
  else low

inductive Tie where
  | even
  | away
  deriving DecidableEq, Repr

/-- The neighbour of `x` on the grid of multiples of `10 ^ k` that reads back as `x`. -/
def onGrid? (tie : Tie) (x : Binary64) (k : Int) : Option Decimal :=
  let num := x.numerator * Nat.pow 10 (-k).toNat
  let den := x.denominator * Nat.pow 10 k.toNat
  let low : Decimal := ⟨num / den, k⟩
  let high : Decimal := ⟨num / den + 1, k⟩
  match low.readsBackAs x, high.readsBackAs x with
  | true, true =>
      let twice := 2 * (num % den)
      let lowWins := decide (twice < den) ||
        (decide (twice = den) && decide (tie = .even) && decide (low.digits % 2 = 0))
      some (if lowWins then low else high)
  | true, false => some low
  | false, true => some high
  | false, false => none

def shortest (tie : Tie) (x : Binary64) : Decimal :=
  if x.isZero then ⟨0, 0⟩
  else
    let top := decimalOrder x.numerator x.denominator
    let found := (List.range 17).findSome? fun (i : Nat) => onGrid? tie x (top - i)
    (found.getD ⟨0, 0⟩).dropZeros 17

end Decimal

end ConsumerContract
