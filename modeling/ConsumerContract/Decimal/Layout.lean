import ConsumerContract.Decimal.Shortest

/-!
How floats are written: the fewest digits that read back, laid out with a point or an exponent.
-/

namespace ConsumerContract.Decimal

def digitChars (d : Decimal) : List Char := Nat.toDigits 10 d.digits

def order (d : Decimal) : Int := d.exponent + d.digitChars.length - 1

def positional (d : Decimal) : List Char :=
  let ds := d.digitChars
  if 0 ≤ d.exponent then ds ++ List.replicate d.exponent.toNat '0' ++ ['.', '0']
  else if 0 ≤ d.order then
    ds.take (d.order.toNat + 1) ++ '.' :: ds.drop (d.order.toNat + 1)
  else '0' :: '.' :: (List.replicate (-d.order - 1).toNat '0' ++ ds)

def scientific (d : Decimal) : List Char :=
  let mantissa := match d.digitChars with
    | [] => []
    | [c] => [c]
    | c :: cs => c :: '.' :: cs
  let sign := if d.order < 0 then '-' else '+'
  mantissa ++ 'e' :: sign :: Nat.toDigits 10 d.order.natAbs

def signed (negative : Bool) (cs : List Char) : List Char := if negative then '-' :: cs else cs

/-- Positional from `10 ^ -5` up to, but not including, `10 ^ 16`; scientific beyond. -/
def jsonText (x : Binary64) : String :=
  let d := shortest .even x
  .ofList (signed x.negative
    (if -5 ≤ d.order ∧ d.order ≤ 15 then d.positional else d.scientific))

def plainText (x : Binary64) : String :=
  .ofList (signed x.negative (shortest .away x).positional)

end ConsumerContract.Decimal
