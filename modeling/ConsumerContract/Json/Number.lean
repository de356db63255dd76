import ConsumerContract.Decimal.Layout

namespace ConsumerContract

/-- A number keeps the kind it was written in: `1` and `1.0` are different. -/
inductive Number where
  | natural (n : UInt64)
  | negative (n : Int64) (below : n < 0)
  | float (x : Binary64)
  deriving DecidableEq, Repr

namespace Number

def same : Number → Number → Bool
  | .float x, .float y => x.same y
  | a, b => a == b

theorem same_refl (n : Number) : n.same n = true := by
  cases n <;> simp [same, Binary64.same_refl]

def text : Number → String
  | .natural n => .ofList (Nat.toDigits 10 n.toNat)
  | .negative n _ => .ofList ('-' :: Nat.toDigits 10 n.toInt.natAbs)
  | .float x => Decimal.jsonText x

/-- Digits are values from zero to nine. -/
structure Literal where
  negative : Bool
  whole : List Nat
  fraction : List Nat
  exponent : Option Int
  deriving DecidableEq, Repr

namespace Literal

/-- Takes digits into a significand as long as it stays below `2 ^ 64`; the rest is left over. -/
def absorb : Nat → List Nat → Nat × List Nat
  | n, [] => (n, [])
  | n, d :: ds => if 10 * n + d < UInt64.size then absorb (10 * n + d) ds else (n, d :: ds)

/-- The leading digits that fit a significand, rounded to a float and then scaled by the power of
ten that their place asks for. -/
def float? (l : Literal) : Option Binary64 :=
  let (n, beyond) := absorb 0 l.whole
  let (m, unread) := absorb n l.fraction
  let place : Int := beyond.length - (l.fraction.length - unread.length : Nat)
  (Binary64.ofNat? m).bind fun x => (x.withSign l.negative).scale? (place + l.exponent.getD 0)

/-- An integer is kept as long as it fits sixty-four bits; `-0` is a float. -/
def number? (l : Literal) : Option Number :=
  if l.fraction.isEmpty && l.exponent.isNone then
    match absorb 0 l.whole with
    | (n, []) =>
        if !l.negative then some (.natural (.ofNat n))
        else
          let k := Int64.ofInt (-(n : Int))
          if h : k < 0 then
            if n ≤ 0x8000000000000000 then some (.negative k h) else l.float?.map .float
          else l.float?.map .float
    | _ => l.float?.map .float
  else l.float?.map .float

end Literal

end Number

end ConsumerContract
