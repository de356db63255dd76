import ConsumerContract.Decimal.Layout
import ConsumerContract.Yaml.Node

namespace ConsumerContract.Yaml

inductive Value where
  | null
  | boolean (b : Bool)
  | integer (n : Int)
  | float (x : Binary64)
  | infinity (negative : Bool)
  | notANumber
  | string (s : String)
  deriving DecidableEq, Repr

namespace Scalar

def nullTag : String := "tag:yaml.org,2002:null"

def booleanTag : String := "tag:yaml.org,2002:bool"

def integerTag : String := "tag:yaml.org,2002:int"

def floatTag : String := "tag:yaml.org,2002:float"

def isNull (s : String) : Bool := ["null", "Null", "NULL", "~"].contains s

def boolean? (s : String) : Option Bool :=
  if ["true", "True", "TRUE"].contains s then some true
  else if ["false", "False", "FALSE"].contains s then some false
  else none

def digit? (radix : Nat) (c : Char) : Option Nat :=
  (CharSet.hexDigit? c).filter fun d => decide (d < radix)

def addDigits? (radix : Nat) : Nat → List Char → Option Nat
  | n, [] => some n
  | n, c :: cs => (digit? radix c).bind fun d => addDigits? radix (radix * n + d) cs

def natural? (radix : Nat) : List Char → Option Nat
  | [] => none
  | cs => addDigits? radix 0 cs

def radix : List Char → Nat × List Char
  | '0' :: 'x' :: cs => (16, cs)
  | '0' :: 'o' :: cs => (8, cs)
  | '0' :: 'b' :: cs => (2, cs)
  | cs => (10, cs)

def hasLeadingZero : List Char → Bool
  | '0' :: c :: cs => (c :: cs).all Char.isDigit
  | _ => false

def magnitude? (cs : List Char) : Option Nat :=
  if hasLeadingZero cs then none
  else
    let (r, digits) := radix cs
    natural? r digits

def halfRange : Nat := 0x80000000000000000000000000000000

def integer? : List Char → Option Int
  | '-' :: cs => (magnitude? cs).bind fun n => if n ≤ halfRange then some (-n) else none
  | '+' :: cs => (magnitude? cs).bind fun n => if n < 2 * halfRange then some n else none
  | cs => (magnitude? cs).bind fun n => if n < 2 * halfRange then some n else none

def count? (s : String) : Option UInt64 :=
  match s.toList with
  | '-' :: _ => none
  | cs =>
      (integer? cs).bind fun n => if n < UInt64.size then some (.ofNat n.toNat) else none

def sign : List Char → Bool × List Char
  | '-' :: cs => (true, cs)
  | '+' :: cs => (false, cs)
  | cs => (false, cs)

def exponent? : List Char → Option Int
  | [] => some 0
  | c :: cs =>
      if c = 'e' ∨ c = 'E' then
        let (negative, digits) := sign cs
        (natural? 10 digits).map fun n => if negative then -(n : Int) else n
      else none

def decimal? (cs : List Char) : Option Decimal := do
  let whole := cs.takeWhile Char.isDigit
  let rest := cs.dropWhile Char.isDigit
  let (fraction, rest) := match rest with
    | '.' :: rest => (rest.takeWhile Char.isDigit, rest.dropWhile Char.isDigit)
    | rest => ([], rest)
  let digits ← natural? 10 (whole ++ fraction)
  let e ← exponent? rest
  return { digits, exponent := e - fraction.length }

/-- The size of the number is looked at first, so that no huge power of ten is formed. -/
def nearest? (negative : Bool) (d : Decimal) : Option Binary64 :=
  let order := d.exponent + (Nat.toDigits 10 d.digits).length
  if d.digits = 0 ∨ order < -400 then some (Binary64.zero.withSign negative)
  else if 400 < order then none
  else d.toBinary64? negative

def float? (s : String) : Option Value :=
  if [".inf", ".Inf", ".INF", "+.inf", "+.Inf", "+.INF"].contains s then some (.infinity false)
  else if ["-.inf", "-.Inf", "-.INF"].contains s then some (.infinity true)
  else if [".nan", ".NaN", ".NAN"].contains s then some .notANumber
  else
    let (negative, cs) := sign s.toList
    ((decimal? cs).bind (nearest? negative)).map .float

def numeral? (s : String) : Option Value :=
  match integer? s.toList with
  | some n => some (.integer n)
  | none => if hasLeadingZero (sign s.toList).2 then none else float? s

def plainValue (s : String) : Value :=
  if s.isEmpty || isNull s then .null
  else
    match boolean? s with
    | some b => .boolean b
    | none => (numeral? s).getD (.string s)

/-- A standard tag fails on a text that it does not fit; the failure names the kind that the tag
asks for. -/
def value (s : Scalar) : Except String Value :=
  let orElse (kind : String) : Option Value → Except String Value
    | some v => .ok v
    | none => .error kind
  let untagged : Value := if s.style = .plain then plainValue s.text else .string s.text
  match s.tag with
  | none => .ok untagged
  | some tag =>
      if tag = booleanTag then orElse "a boolean" ((boolean? s.text).map .boolean)
      else if tag = integerTag then orElse "an integer" ((integer? s.text.toList).map .integer)
      else if tag = floatTag then orElse "a float" (float? s.text)
      else if tag = nullTag then orElse "null" (if isNull s.text then some .null else none)
      else .ok (if tag.startsWith "!" then untagged else .string s.text)

/-- Whether a text may be read as the kind of value that a tag stands for: plain text always,
literal text under that tag. -/
def admits (s : Scalar) (tag : String) : Bool :=
  s.style == .plain || (s.style == .literal && s.tag == some tag)

end Scalar

end ConsumerContract.Yaml
