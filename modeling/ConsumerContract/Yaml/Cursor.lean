import ConsumerContract.Text.CharSet

namespace ConsumerContract.Yaml

/-- Characters that a text may hold: tab, line feed, carriage return, the next-line control, and
everything that is no control character, surrogate or noncharacter of the first plane. -/
def admitted : CharSet := .ofText "9-A D 20-7E 85 A0-D7FF E000-FFFD 10000-10FFFF"

def isBlank (c : Char) : Bool := c == ' ' || c == '\t'

def isBreak (c : Char) : Bool :=
  c == '\n' || c == '\r' || c == '\u0085' || c == '\u2028' || c == '\u2029'

def isGap (c : Char) : Bool := isBlank c || isBreak c

def isNameChar (c : Char) : Bool := c.isAlphanum || c == '_' || c == '-'

def isFlowIndicator (c : Char) : Bool :=
  c == ',' || c == '[' || c == ']' || c == '{' || c == '}'

def atWordEnd : List Char → Bool
  | [] => true
  | c :: _ => isGap c

def atLineEnd : List Char → Bool
  | [] => true
  | c :: _ => isBreak c

structure Cursor where
  rest : List Char
  index : Nat := 0
  line : Nat := 0
  column : Nat := 0

namespace Cursor

def skip (c : Cursor) (n : Nat) : Cursor :=
  { c with rest := c.rest.drop n, index := c.index + n, column := c.column + n }

def along (c : Cursor) (rest : List Char) : Cursor := c.skip (c.rest.length - rest.length)

def skipWhile (c : Cursor) (p : Char → Bool) : Cursor := c.along (c.rest.dropWhile p)

def nextLine (c : Cursor) (n : Nat) : Cursor :=
  { rest := c.rest.drop n, index := c.index + n, line := c.line + 1, column := 0 }

/-- The line and paragraph separators stand for themselves, every other break for a line feed. -/
def readBreak (c : Cursor) : List Char × Cursor :=
  match c.rest with
  | '\r' :: '\n' :: _ => (['\n'], c.nextLine 2)
  | '\u2028' :: _ => (['\u2028'], c.nextLine 1)
  | '\u2029' :: _ => (['\u2029'], c.nextLine 1)
  | b :: _ => if isBreak b then (['\n'], c.nextLine 1) else ([], c)
  | [] => ([], c)

def skipBreak (c : Cursor) : Cursor := c.readBreak.2

def atMarker (c : Cursor) : Bool :=
  c.column == 0 && match c.rest with
    | '-' :: '-' :: '-' :: rest => atWordEnd rest
    | '.' :: '.' :: '.' :: rest => atWordEnd rest
    | _ => false

def finishLine? (c : Cursor) : Option Cursor :=
  let c := c.skipWhile isBlank
  let c := if c.rest.head? = some '#' then c.skipWhile fun d => !isBreak d else c
  if atLineEnd c.rest then some c.skipBreak else none

end Cursor

end ConsumerContract.Yaml
