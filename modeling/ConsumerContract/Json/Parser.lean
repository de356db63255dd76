import ConsumerContract.Json.Draft
import ConsumerContract.Text.CharSet

/-!
Reading JSON texts. Every reader takes characters from the front and gives back what is left.
-/

namespace ConsumerContract.Json

def isBlank (c : Char) : Bool := c == ' ' || c == '\t' || c == '\n' || c == '\r'

def skipBlanks (cs : List Char) : List Char := cs.dropWhile isBlank

def digitValues (cs : List Char) : List Nat := cs.map fun c => c.toNat - 48

def spanDigits (cs : List Char) : List Nat × List Char :=
  (digitValues (cs.takeWhile Char.isDigit), cs.dropWhile Char.isDigit)

def readWhole : List Char → Option (List Nat × List Char)
  | cs =>
      match spanDigits cs with
      | ([], _) => none
      | (0 :: _ :: _, _) => none
      | (ds, rest) => some (ds, rest)

def readFraction : List Char → Option (List Nat × List Char)
  | '.' :: cs =>
      match spanDigits cs with
      | ([], _) => none
      | (ds, rest) => some (ds, rest)
  | cs => some ([], cs)

def exponentValue (negative : Bool) (ds : List Nat) : Int :=
  let n : Nat := ds.foldl (fun n d => 10 * n + d) 0
  if negative then -n else n

def readExponentDigits (negative : Bool) (cs : List Char) : Option (Option Int × List Char) :=
  match spanDigits cs with
  | ([], _) => none
  | (ds, rest) => some (some (exponentValue negative ds), rest)

def readExponent : List Char → Option (Option Int × List Char)
  | c :: cs =>
      if c = 'e' ∨ c = 'E' then
        match cs with
        | '+' :: cs => readExponentDigits false cs
        | '-' :: cs => readExponentDigits true cs
        | cs => readExponentDigits false cs
      else some (none, c :: cs)
  | [] => some (none, [])

def readLiteral (negative : Bool) (cs : List Char) : Option (Number.Literal × List Char) := do
  let (whole, cs) ← readWhole cs
  let (fraction, cs) ← readFraction cs
  let (exponent, cs) ← readExponent cs
  return (⟨negative, whole, fraction, exponent⟩, cs)

def readNumber (negative : Bool) (cs : List Char) : Draft × Option (List Char) :=
  match readLiteral negative cs with
  | some (literal, rest) => (.number literal.number?, some rest)
  | none => (.broken, none)

def hexValue? (a b c d : Char) : Option Nat := do
  let a ← CharSet.hexDigit? a
  let b ← CharSet.hexDigit? b
  let c ← CharSet.hexDigit? c
  let d ← CharSet.hexDigit? d
  return 4096 * a + 256 * b + 16 * c + d

def simpleEscape? : Char → Option Char
  | '\x22' => some '\x22'
  | '\\' => some '\\'
  | '/' => some '/'
  | 'b' => some '\x08'
  | 'f' => some '\x0c'
  | 'n' => some '\n'
  | 'r' => some '\r'
  | 't' => some '\t'
  | _ => none

abbrev TextRest := Option (Option (List Char) × List Char)

def TextRest.push (c : Char) (r : TextRest) : TextRest :=
  r.map fun (s, rest) => (s.map (c :: ·), rest)

def TextRest.spoil (r : TextRest) : TextRest := r.map fun (_, rest) => (none, rest)

def readText : List Char → TextRest
  | [] => none
  | '\x22' :: cs => some (some [], cs)
  | '\\' :: 'u' :: a :: b :: c :: d :: cs =>
      match hexValue? a b c d with
      | none => none
      | some n =>
          if 0xD800 ≤ n ∧ n < 0xDC00 then
            match cs with
            | '\\' :: 'u' :: a' :: b' :: c' :: d' :: cs' =>
                match hexValue? a' b' c' d' with
                | none => none
                | some m =>
                    if 0xDC00 ≤ m ∧ m < 0xE000 then
                      (readText cs').push
                        (Char.ofNat (0x10000 + 1024 * (n - 0xD800) + (m - 0xDC00)))
                    else (readText ('\\' :: 'u' :: a' :: b' :: c' :: d' :: cs')).spoil
            | cs => (readText cs).spoil
          else if 0xDC00 ≤ n ∧ n < 0xE000 then (readText cs).spoil
          else (readText cs).push (Char.ofNat n)
  | '\\' :: e :: cs =>
      match simpleEscape? e with
      | none => none
      | some c => (readText cs).push c
  | ['\\'] => none
  | c :: cs => if c.toNat < 0x20 then none else (readText cs).push c

def readString (cs : List Char) : Option (Option String × List Char) :=
  (readText cs).map fun (s, rest) => (s.map String.ofList, rest)

mutual

/-- What is left is absent when the text broke off inside the value. -/
def readValue : Nat → List Char → Draft × Option (List Char)
  | 0, _ => (.broken, none)
  | fuel + 1, cs =>
      match skipBlanks cs with
      | 'n' :: 'u' :: 'l' :: 'l' :: rest => (.null, some rest)
      | 't' :: 'r' :: 'u' :: 'e' :: rest => (.bool true, some rest)
      | 'f' :: 'a' :: 'l' :: 's' :: 'e' :: rest => (.bool false, some rest)
      | '\x22' :: cs =>
          match readString cs with
          | some (s, rest) => (.string s, some rest)
          | none => (.broken, none)
      | '[' :: cs =>
          match skipBlanks cs with
          | ']' :: rest => (.array [] true, some rest)
          | cs =>
              let (items, rest) := readItems fuel cs
              (.array items rest.isSome, rest)
      | '{' :: cs =>
          match skipBlanks cs with
          | '}' :: rest => (.object [] true, some rest)
          | cs =>
              let (entries, rest) := readEntries fuel cs
              (.object entries rest.isSome, rest)
      | '-' :: cs => readNumber true cs
      | cs => readNumber false cs

def readItems : Nat → List Char → List Draft × Option (List Char)
  | 0, _ => ([], none)
  | fuel + 1, cs =>
      match readValue fuel cs with
      | (v, none) => ([v], none)
      | (v, some rest) =>
          match skipBlanks rest with
          | ',' :: cs =>
              let (items, rest) := readItems fuel cs
              (v :: items, rest)
          | ']' :: rest => ([v], some rest)
          | _ => ([v], none)

def readEntries : Nat → List Char → List (Option String × Draft) × Option (List Char)
  | 0, _ => ([], none)
  | fuel + 1, cs =>
      match skipBlanks cs with
      | '\x22' :: cs =>
          match readString cs with
          | none => ([], none)
          | some (none, _) => ([(none, .string none)], none)
          | some (some k, rest) =>
              match skipBlanks rest with
              | ':' :: cs =>
                  match readValue fuel cs with
                  | (v, none) => ([(some k, v)], none)
                  | (v, some rest) =>
                      match skipBlanks rest with
                      | ',' :: cs =>
                          let (entries, rest) := readEntries fuel cs
                          ((some k, v) :: entries, rest)
                      | '}' :: rest => ([(some k, v)], some rest)
                      | _ => ([(some k, v)], none)
              | _ => ([(some k, .broken)], none)
      | cs => ([(none, (readValue fuel cs).1)], none)

end

def drafted (text : String) : Draft × Bool :=
  let cs := text.toList
  match readValue (2 * cs.length + 2) cs with
  | (d, some rest) => (d, (skipBlanks rest).isEmpty)
  | (d, none) => (d, false)

/-- A text that is read on its own; its containers nest at most 127 deep. -/
def textSource : Source := .text 127

def ofText? (source : Source) (text : String) : Option Json :=
  match drafted text with
  | (d, true) => d.json? source
  | (_, false) => none

end ConsumerContract.Json
