import ConsumerContract.Pattern.Property
import ConsumerContract.Pattern.Syntax

/-!
Reading what stands after a backslash. In a spaced pattern blanks and comments may stand between
any two characters of most of these.
-/

namespace ConsumerContract.Pattern

def dropSpace : Bool → List Char → List Char
  | _, [] => []
  | true, c :: cs => dropSpace (c != '\n') cs
  | false, c :: cs =>
      if Text.isBlank c then dropSpace false cs
      else if c = '#' then dropSpace true cs
      else c :: cs

def skip (spaced : Bool) (cs : List Char) : List Char := if spaced then dropSpace false cs else cs

inductive Primitive where
  | literal (c : Char) (byte : Bool)
  | anchor (a : Anchor)
  | kind (k : ClassKind) (negated : Bool)
  | property (chars : CharSet) (negated : Bool)
  deriving Repr

def isMeta (c : Char) : Bool :=
  ['\\', '.', '+', '*', '?', '(', ')', '|', '[', ']', '{', '}', '^', '$', '#', '&', '-',
    '~'].contains c

def isEscapable (c : Char) : Bool :=
  c.toNat < 0x80 && !c.isAlphanum && c != '<' && c != '>'

def scalar? (n : Nat) : Option Char := if n.isValidChar then some (Char.ofNat n) else none

def readHexDigits (spaced : Bool) : Nat → Nat → List Char → Option (Nat × List Char)
  | 0, n, cs => some (n, cs)
  | k + 1, n, cs =>
      match skip spaced cs with
      | [] => none
      | c :: cs =>
          match CharSet.hexDigit? c with
          | some d => readHexDigits spaced k (16 * n + d) cs
          | none => none

def readHexBrace (spaced : Bool) : Nat → Option Nat → List Char → Option (Nat × List Char)
  | 0, _, _ => none
  | fuel + 1, n?, cs =>
      match skip spaced cs with
      | [] => none
      | '}' :: cs => n?.map fun n => (n, cs)
      | c :: cs =>
          match CharSet.hexDigit? c with
          | some d => readHexBrace spaced fuel (some (16 * n?.getD 0 + d)) cs
          | none => none

def readHex (spaced : Bool) (digits : Nat) (cs : List Char) : Option (Primitive × List Char) :=
  match skip spaced cs with
  | '{' :: cs => do
      let (n, cs) ← readHexBrace spaced (cs.length + 1) none cs
      return (.literal (← scalar? n) false, cs)
  | cs => do
      let (n, cs) ← readHexDigits spaced digits 0 cs
      return (.literal (← scalar? n) (digits == 2), cs)

def readBraced (spaced : Bool) : Nat → List Char → Option (List Char × List Char)
  | 0, _ => none
  | fuel + 1, cs =>
      match skip spaced cs with
      | [] => none
      | '}' :: cs => some ([], cs)
      | c :: cs => (readBraced spaced fuel cs).map fun (name, cs) => (c :: name, cs)

def splitAt? (mark : List Char) : List Char → Option (List Char × List Char)
  | [] => none
  | c :: cs =>
      if mark.isPrefixOf (c :: cs) then some ([], (c :: cs).drop mark.length)
      else (splitAt? mark cs).map fun (a, b) => (c :: a, b)

def bracedProperty? (name : List Char) : Option (CharSet × Bool) :=
  match splitAt? ['!', '='] name with
  | some (k, v) => (propertyValue? k v).map (·, true)
  | none =>
      match (splitAt? [':'] name).or (splitAt? ['='] name) with
      | some (k, v) => (propertyValue? k v).map (·, false)
      | none => (propertyNamed? name).map (·, false)

def readProperty (spaced negated : Bool) (cs : List Char) : Option (Primitive × List Char) :=
  match skip spaced cs with
  | [] => none
  | '{' :: cs => do
      let (name, cs) ← readBraced spaced (cs.length + 1) cs
      let (chars, others) ← bracedProperty? name
      return (.property chars (negated != others), cs)
  | '\\' :: _ => none
  | c :: cs => (propertyNamed? [c]).map fun chars => (.property chars negated, cs)

def isBoundaryNameChar (c : Char) : Bool := c.isAlpha || c == '-'

def readBoundaryName (spaced : Bool) : Nat → List Char → List Char × List Char
  | 0, cs => ([], cs)
  | fuel + 1, cs =>
      match skip spaced cs with
      | c :: rest =>
          if isBoundaryNameChar c then
            let (name, cs) := readBoundaryName spaced fuel rest
            (c :: name, cs)
          else ([], c :: rest)
      | [] => ([], [])

/-- Braces that do not start with a name are left for a repetition. -/
def readBoundary (spaced : Bool) (cs : List Char) : Option (Primitive × List Char) :=
  match cs with
  | '{' :: inner =>
      match skip spaced inner with
      | [] => none
      | c :: _ =>
          if !isBoundaryNameChar c then some (.anchor .boundary, cs)
          else
            match readBoundaryName spaced (inner.length + 1) inner with
            | (name, '}' :: rest) =>
                if name = "start".toList then some (.anchor .wordStart, rest)
                else if name = "end".toList then some (.anchor .wordEnd, rest)
                else if name = "start-half".toList then some (.anchor .halfStart, rest)
                else if name = "end-half".toList then some (.anchor .halfEnd, rest)
                else none
            | _ => none
  | cs => some (.anchor .boundary, cs)

def readEscape (spaced : Bool) : List Char → Option (Primitive × List Char)
  | [] => none
  | 'x' :: cs => readHex spaced 2 cs
  | 'u' :: cs => readHex spaced 4 cs
  | 'U' :: cs => readHex spaced 8 cs
  | 'p' :: cs => readProperty spaced false cs
  | 'P' :: cs => readProperty spaced true cs
  | 'd' :: cs => some (.kind .digit false, cs)
  | 'D' :: cs => some (.kind .digit true, cs)
  | 's' :: cs => some (.kind .space false, cs)
  | 'S' :: cs => some (.kind .space true, cs)
  | 'w' :: cs => some (.kind .word false, cs)
  | 'W' :: cs => some (.kind .word true, cs)
  | 'a' :: cs => some (.literal '\x07' false, cs)
  | 'f' :: cs => some (.literal '\x0c' false, cs)
  | 't' :: cs => some (.literal '\t' false, cs)
  | 'n' :: cs => some (.literal '\n' false, cs)
  | 'r' :: cs => some (.literal '\r' false, cs)
  | 'v' :: cs => some (.literal '\x0b' false, cs)
  | 'A' :: cs => some (.anchor .startText, cs)
  | 'z' :: cs => some (.anchor .endText, cs)
  | 'B' :: cs => some (.anchor .notBoundary, cs)
  | '<' :: cs => some (.anchor .wordStart, cs)
  | '>' :: cs => some (.anchor .wordEnd, cs)
  | 'b' :: cs => readBoundary spaced cs
  | c :: cs => if isMeta c || isEscapable c then some (.literal c false, cs) else none

end ConsumerContract.Pattern
