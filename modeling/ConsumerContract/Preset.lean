import ConsumerContract.Tree.Basic

/-!
Ready-made matchers for common formats. Some examples depend on chance or on the clock; what they
depend on is given as an occasion.
-/

namespace ConsumerContract

structure Moment where
  year : Nat
  month : Nat
  day : Nat
  hour : Nat
  minute : Nat
  second : Nat
  deriving DecidableEq, Repr

structure Occasion where
  now : Moment
  /-- A natural number below `2 ^ 63`. -/
  natural : Nat
  /-- The place of a fraction among the multiples of `2 ^ -53` below one. -/
  fraction : Nat
  bits : Nat
  deriving DecidableEq, Repr

inductive Preset where
  | hexValue
  | identifier
  | integer
  | decimal
  | ipAddress
  | ipv4Address
  | ipv6Address
  | timestamp
  | date
  | time
  | uuid
  deriving DecidableEq, Repr

namespace Preset

def hexPattern : String := "[0-9a-fA-F]+"

def ipPattern : String := "(\\d\x7b1,3\x7d\\.)+\\d\x7b1,3\x7d"

def ipv6Pattern : String :=
  let group := "[0-9a-fA-F]\x7b1,4\x7d"
  let groups := "((" ++ group ++ ":)*" ++ group ++ ")?"
  "^((" ++ group ++ ":)\x7b7\x7d" ++ group ++ "|" ++ groups ++ "::" ++ groups ++ "|" ++
    groups ++ "::(" ++ group ++ ":)*(\\d\x7b1,3\x7d\\.)\x7b3\x7d\\d\x7b1,3\x7d)$"

def uuidPattern : String :=
  "[0-9a-f]\x7b8\x7d-[0-9a-f]\x7b4\x7d-[0-9a-f]\x7b4\x7d-[0-9a-f]\x7b4\x7d-[0-9a-f]\x7b12\x7d"

def timestampPattern : String :=
  "^\\d\x7b4\x7d-[01]\\d-[0-3]\\d[T\\s][0-2]\\d:[0-5]\\d:[0-5]\\d(\\.\\d+)?" ++
    "([zZ]|[+-][0-2]\\d:?[0-5]\\d)?$"

def datePattern : String := "^\\d\x7b4\x7d-[01]\\d-[0-3]\\d$"

def timePattern : String :=
  "^T[0-2]\\d:[0-5]\\d(:[0-5]\\d)?(\\.\\d+)?([zZ]|[+-][0-2]\\d:[0-5]\\d)?$"

def criterion : Preset → Criterion
  | .hexValue => .pattern hexPattern
  | .identifier => .type
  | .integer => .type
  | .decimal => .type
  | .ipAddress => .pattern ipPattern
  | .ipv4Address => .pattern ipPattern
  | .ipv6Address => .pattern ipv6Pattern
  | .timestamp => .pattern timestampPattern
  | .date => .pattern datePattern
  | .time => .pattern timePattern
  | .uuid => .pattern uuidPattern

def fixedDigits (base width n : Nat) : List Char :=
  match width with
  | 0 => []
  | width + 1 => fixedDigits base width (n / base) ++ [Nat.digitChar (n % base)]

def dateChars (m : Moment) : List Char :=
  fixedDigits 10 4 m.year ++ '-' :: fixedDigits 10 2 m.month ++ '-' :: fixedDigits 10 2 m.day

def timeChars (m : Moment) : List Char :=
  'T' :: fixedDigits 10 2 m.hour ++ ':' :: fixedDigits 10 2 m.minute ++
    ':' :: fixedDigits 10 2 m.second

/-- The thirteenth digit gives the version, the seventeenth the variant. -/
def uuidChars (bits : Nat) : List Char :=
  fixedDigits 16 8 (bits / Nat.pow 2 96) ++ '-' :: fixedDigits 16 4 (bits / Nat.pow 2 80) ++
    '-' :: '4' :: fixedDigits 16 3 (bits / Nat.pow 2 64) ++
    '-' :: Nat.digitChar (8 + bits / Nat.pow 2 60 % 4) :: fixedDigits 16 3 (bits / Nat.pow 2 48) ++
    '-' :: fixedDigits 16 12 bits

def naturalRange : Nat := 0x8000000000000000

def fractionRange : Nat := 0x20000000000000

def example_ (o : Occasion) : Preset → Tree
  | .hexValue => .string "3F"
  | .identifier => .number (.natural (.ofNat (o.natural % naturalRange)))
  | .integer => .number (.natural (.ofNat (o.natural % naturalRange)))
  | .decimal => .ofFloat? (Binary64.ofRatio? false (o.fraction % fractionRange) fractionRange)
  | .ipAddress => .string "127.0.0.1"
  | .ipv4Address => .string "127.0.0.1"
  | .ipv6Address => .string "::ffff:192.0.2.128"
  | .timestamp => .string (.ofList (dateChars o.now ++ timeChars o.now ++ ['Z']))
  | .date => .string (.ofList (dateChars o.now))
  | .time => .string (.ofList (timeChars o.now))
  | .uuid => .string (.ofList (uuidChars o.bits))

def matcher (o : Occasion) (p : Preset) : Matcher := ⟨p.criterion, p.example_ o⟩

def ofName? : String → Option Preset
  | "hex_value" => some .hexValue
  | "identifier" => some .identifier
  | "integer" => some .integer
  | "decimal" => some .decimal
  | "ip_address" => some .ipAddress
  | "ipv4_address" => some .ipv4Address
  | "ipv6_address" => some .ipv6Address
  | "timestamp" => some .timestamp
  | "date" => some .date
  | "time" => some .time
  | "uuid" => some .uuid
  | _ => none

end Preset

def Matcher.exampleFits (matches_ : String → String → Bool) (m : Matcher) : Bool :=
  match m.criterion, m.payload with
  | .pattern p, .string s => matches_ p s
  | .type, .number (.float x) => !x.negative && x.numerator < x.denominator
  | .type, .number (.natural n) => n.toNat < Preset.naturalRange
  | _, _ => false

end ConsumerContract
