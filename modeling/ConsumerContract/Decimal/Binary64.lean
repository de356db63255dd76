/-!
Finite numbers of the 64-bit binary format, held as a sign and the remaining sixty-three bits.
Arithmetic is exact on `Nat` and rounds once at the end, a half going to the even neighbour.
-/

namespace ConsumerContract

structure Binary64 where
  negative : Bool
  magnitude : Nat
  finite : magnitude < 0x7FF0000000000000 := by decide
  deriving DecidableEq, Repr

namespace Binary64

def zero : Binary64 := { negative := false, magnitude := 0 }

def isZero (x : Binary64) : Bool := x.magnitude == 0

def same (x y : Binary64) : Bool := x == y || (x.isZero && y.isZero)

theorem same_refl (x : Binary64) : x.same x = true := by simp [same]

def withSign (negative : Bool) (x : Binary64) : Binary64 := { x with negative }

/-- The least significand of a number that is not held with leading zeros, `2 ^ 52`. -/
def leadingBit : Nat := 0x10000000000000

/-- The size of a number is `significand · 2 ^ exponent`. -/
def significand (x : Binary64) : Nat :=
  if x.magnitude < leadingBit then x.magnitude else leadingBit + x.magnitude % leadingBit

def exponent (x : Binary64) : Int :=
  if x.magnitude < leadingBit then -1074 else (x.magnitude / leadingBit : Nat) - 1075

def numerator (x : Binary64) : Nat := x.significand * Nat.pow 2 x.exponent.toNat

def denominator (x : Binary64) : Nat := Nat.pow 2 (-x.exponent).toNat

/-- The nearest integer to `num / den`, a half going to the even one. -/
def roundHalfEven (num den : Nat) : Nat :=
  let low := num / den
  let rest := 2 * (num % den)
  if rest < den then low
  else if den < rest then low + 1
  else low + low % 2

def binaryOrder (num den : Nat) : Int :=
  let k : Int := (num.log2 : Int) - den.log2
  if den * Nat.pow 2 k.toNat ≤ num * Nat.pow 2 (-k).toNat then k else k - 1

/-- The magnitude bits nearest to `num / den`; at or beyond `0x7FF0…` the quotient is too large. -/
def roundRatio (num den : Nat) : Nat :=
  if num = 0 then 0
  else
    let e := max (binaryOrder num den - 52) (-1074)
    (e + 1074).toNat * leadingBit +
      roundHalfEven (num * Nat.pow 2 (-e).toNat) (den * Nat.pow 2 e.toNat)

def ofRatio? (negative : Bool) (num den : Nat) : Option Binary64 :=
  if h : roundRatio num den < 0x7FF0000000000000 then
    some ⟨negative, roundRatio num den, h⟩
  else none

def ofNat? (n : Nat) : Option Binary64 := ofRatio? false n 1

def mul? (x y : Binary64) : Option Binary64 :=
  ofRatio? x.negative (x.numerator * y.numerator) (x.denominator * y.denominator)

def div? (x y : Binary64) : Option Binary64 :=
  ofRatio? x.negative (x.numerator * y.denominator) (x.denominator * y.numerator)

def powerOfTen (k : Nat) : Binary64 := (ofNat? (Nat.pow 10 k)).getD zero

/-- `x · 10 ^ e`, by one product or quotient with a rounded power of ten, or by two quotients when
the power itself is out of range. -/
def scale? (x : Binary64) (e : Int) : Option Binary64 :=
  if 308 < e then if x.isZero then some x else none
  else if 0 ≤ e then x.mul? (powerOfTen e.toNat)
  else if -308 ≤ e then x.div? (powerOfTen (-e).toNat)
  else if -616 ≤ e then
    (x.div? (powerOfTen 308)).bind fun y => y.div? (powerOfTen (-e - 308).toNat)
  else some (zero.withSign x.negative)

end Binary64

end ConsumerContract
