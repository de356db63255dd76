import ConsumerContract.Text.CharSet

namespace ConsumerContract.Ipv6

structure Group where
  chars : List Char
  length_pos : 0 < chars.length := by decide
  length_le : chars.length ≤ 4 := by decide
  allHex : (chars.all fun c => (CharSet.hexDigit? c).isSome) = true := by decide

structure Octet where
  chars : List Char
  length_pos : 0 < chars.length := by decide
  length_le : chars.length ≤ 3 := by decide
  allDecimal : chars.all Char.isDigit = true := by decide
  value_le : Nat.ofDigitChars 10 chars 0 ≤ 255 := by decide

theorem Group.isHex (g : Group) : ∀ c ∈ g.chars, (CharSet.hexDigit? c).isSome = true :=
  List.all_eq_true.mp g.allHex

theorem Octet.isDecimal (o : Octet) : ∀ c ∈ o.chars, c.isDigit = true :=
  List.all_eq_true.mp o.allDecimal

structure Quad where
  first : Octet
  second : Octet
  third : Octet
  fourth : Octet

def Quad.chars (q : Quad) : List Char :=
  q.first.chars ++ '.' :: (q.second.chars ++ '.' :: (q.third.chars ++ '.' :: q.fourth.chars))

/-- The last two groups may be written as a quad. -/
structure Stretch where
  groups : List Group
  quad? : Option Quad := none

namespace Stretch

def width (s : Stretch) : Nat := s.groups.length + s.quad?.elim 0 fun _ => 2

def parts (s : Stretch) : List (List Char) :=
  s.groups.map Group.chars ++ s.quad?.toList.map Quad.chars

def chars (s : Stretch) : List Char := [':'].intercalate s.parts

end Stretch

/-- Eight groups, some of which may be left out at one place. -/
inductive Address where
  | full (s : Stretch) (eight : s.width = 8)
  | elided (left : List Group) (right : Stretch) (fewer : left.length + right.width < 8)

namespace Address

def chars : Address → List Char
  | .full s _ => s.chars
  | .elided left right _ => (Stretch.mk left none).chars ++ ':' :: ':' :: right.chars

def text (a : Address) : String := .ofList a.chars

example : (elided [{ chars := ['f', 'e', '8', '0'] }] { groups := [{ chars := ['1'] }] }
    (by decide)).text = "fe80::1" := rfl

def isFullWithQuad : Address → Bool
  | .full s _ => s.quad?.isSome
  | .elided _ _ _ => false

end Address

end ConsumerContract.Ipv6
