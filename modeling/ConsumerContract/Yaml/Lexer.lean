import ConsumerContract.Yaml.Flow
import ConsumerContract.Yaml.Block
import ConsumerContract.Yaml.Property

/-!
The tokens of a YAML text. Indentation gives block collections their starts and ends, and a
mapping key is known as one only at the colon behind it: its place among the tokens is kept until
the colon comes, the line ends, or too much text has passed.
-/

namespace ConsumerContract.Yaml

structure OpenKey where
  position : Nat
  start : Cursor
  required : Bool

/-- Of the indentations of open block collections the innermost comes first, likewise of the places
outside the innermost flow collection where a key may have started. -/
structure Lexer where
  cursor : Cursor
  tokens : List Token := []
  indents : List Nat := []
  keyAllowed : Bool := true
  openKey : Option OpenKey := none
  outerKeys : List (Option OpenKey) := []

namespace Lexer

def inFlow (l : Lexer) : Bool := !l.outerKeys.isEmpty

def emit (l : Lexer) (t : Token) : Lexer := { l with tokens := l.tokens ++ [t] }

def skip (l : Lexer) (n : Nat) : Lexer := { l with cursor := l.cursor.skip n }

def leastIndent (l : Lexer) : Nat :=
  match l.indents with
  | [] => 0
  | i :: _ => i + 1

/-- Tabs are skipped only where no key may start. -/
def skipped (l : Lexer) (c : Char) : Bool := c == ' ' || (c == '\t' && (l.inFlow || !l.keyAllowed))

/-- Outside flow collections a key may start on a new line. -/
def seek : Nat → Lexer → Lexer
  | 0, l => l
  | fuel + 1, l =>
      let c := l.cursor
      let c := if c.column = 0 ∧ c.rest.head? = some '\uFEFF' then c.skip 1 else c
      let c := c.skipWhile l.skipped
      let c := if c.rest.head? = some '#' then c.skipWhile fun d => !isBreak d else c
      if c.rest.head?.any isBreak then
        seek fuel { l with cursor := c.skipBreak, keyAllowed := !l.inFlow || l.keyAllowed }
      else { l with cursor := c }

def OpenKey.isStale (here : Cursor) (k : OpenKey) : Bool :=
  decide (k.start.line < here.line) || decide (k.start.index + 1024 < here.index)

/-- Gives up a place that is too far behind; it fails if a key had to be there. -/
def refresh (here : Cursor) : Option OpenKey → Option (Option OpenKey)
  | none => some none
  | some k => if OpenKey.isStale here k then (if k.required then none else some none) else some k

def refreshKeys (l : Lexer) : Option Lexer := do
  let openKey ← refresh l.cursor l.openKey
  let outerKeys ← l.outerKeys.mapM (refresh l.cursor)
  return { l with openKey, outerKeys }

def closeBlocks (column : Nat) : List Nat → List Token × List Nat
  | [] => ([], [])
  | i :: rest =>
      if column < i then
        let (ends, left) := closeBlocks column rest
        (.blockEnd :: ends, left)
      else ([], i :: rest)

def dedent (l : Lexer) : Lexer :=
  if l.inFlow then l
  else
    let (ends, indents) := closeBlocks l.cursor.column l.indents
    { l with tokens := l.tokens ++ ends, indents }

def dedentAll (l : Lexer) : Lexer :=
  if l.inFlow then l
  else { l with tokens := l.tokens ++ l.indents.map fun _ => .blockEnd, indents := [] }

def indentAt (l : Lexer) (column position : Nat) (start : Token) : Lexer :=
  if !l.inFlow && decide (l.leastIndent ≤ column) then
    { l with tokens := l.tokens.insertIdx position start, indents := column :: l.indents }
  else l

def indent (l : Lexer) (start : Token) : Lexer :=
  l.indentAt l.cursor.column l.tokens.length start

def dropKey (l : Lexer) : Option Lexer :=
  if l.openKey.any (·.required) then none else some { l with openKey := none }

def markKey (l : Lexer) : Option Lexer :=
  if l.keyAllowed then do
    let l ← l.dropKey
    let required := !l.inFlow && l.indents.head? == some l.cursor.column
    return { l with openKey := some { position := l.tokens.length, start := l.cursor, required } }
  else some l

def allowKey (l : Lexer) (keyAllowed : Bool) : Lexer := { l with keyAllowed }

def endOfText (l : Lexer) : Option Lexer := do
  let c := if l.cursor.column = 0 then l.cursor else l.cursor.nextLine 0
  let l ← { l with cursor := c }.dedentAll.dropKey
  return (l.allowKey false).emit .streamEnd

def directive (l : Lexer) : Option Lexer := do
  let l ← l.dedentAll.dropKey
  let (t, rest) ← Property.readDirective? (l.cursor.rest.drop 1)
  let cursor ← (l.cursor.along rest).finishLine?
  return ({ l with cursor }.allowKey false).emit t

def marker (l : Lexer) (t : Token) : Option Lexer := do
  let l ← l.dedentAll.dropKey
  return ((l.allowKey false).skip 3).emit t

def flowStart (l : Lexer) (t : Token) : Option Lexer := do
  let l ← l.markKey
  let l := { l with outerKeys := l.openKey :: l.outerKeys, openKey := none }
  return ((l.allowKey true).skip 1).emit t

def flowEnd (l : Lexer) (t : Token) : Option Lexer := do
  let l ← l.dropKey
  let l := match l.outerKeys with
    | [] => l
    | openKey :: outerKeys => { l with openKey, outerKeys }
  return ((l.allowKey false).skip 1).emit t

def flowEntry (l : Lexer) : Option Lexer := do
  let l ← l.dropKey
  return ((l.allowKey true).skip 1).emit .flowEntry

/-- Outside flow collections the indicator stands only where a key could, and may start a block
collection. -/
def enterBlock (l : Lexer) (start : Token) : Option Lexer :=
  if l.inFlow then some l else if l.keyAllowed then some (l.indent start) else none

def blockEntry (l : Lexer) : Option Lexer := do
  let l ← (← l.enterBlock .blockSequenceStart).dropKey
  return ((l.allowKey true).skip 1).emit .blockEntry

def key (l : Lexer) : Option Lexer := do
  let l ← (← l.enterBlock .blockMappingStart).dropKey
  return ((l.allowKey !l.inFlow).skip 1).emit .key

def value (l : Lexer) : Option Lexer := do
  let l ← match l.openKey with
    | some k =>
        let l := { l with tokens := l.tokens.insertIdx k.position .key, openKey := none }
        pure ((l.indentAt k.start.column k.position .blockMappingStart).allowKey false)
    | none => do
        let l ← l.enterBlock .blockMappingStart
        pure (l.allowKey !l.inFlow)
  return (l.skip 1).emit .value

def name (l : Lexer) (token : String → Token) : Option Lexer := do
  let l ← l.markKey
  let (name, rest) ← Property.readName? (l.cursor.rest.drop 1)
  return { l.allowKey false with cursor := l.cursor.along rest }.emit (token name)

def tag (l : Lexer) : Option Lexer := do
  let l ← l.markKey
  let (handle, suffix, rest) ← Property.readTag? (l.cursor.rest.drop 1)
  if atWordEnd rest || (l.inFlow && rest.head? == some ',') then
    return { l.allowKey false with cursor := l.cursor.along rest }.emit (.tag handle suffix)
  else none

def block (l : Lexer) (style : Style) : Option Lexer := do
  let l ← l.dropKey
  let (text, cursor) ← Block.read (style == .folded) l.leastIndent (l.cursor.skip 1)
  return { l.allowKey true with cursor }.emit (.scalar text style)

def quoted (l : Lexer) (style : Style) : Option Lexer := do
  let l ← l.markKey
  let (text, cursor) ← Quoted.read (style == .doubleQuoted) (l.cursor.skip 1)
  return { l.allowKey false with cursor }.emit (.scalar text style)

def plain (l : Lexer) : Option Lexer := do
  let l ← l.markKey
  let (text, broke, cursor) ← Plain.read l.inFlow l.leastIndent l.cursor
  return { l.allowKey broke with cursor }.emit (.scalar text .plain)

def next (l : Lexer) : Option Lexer :=
  let atStart := l.cursor.column = 0
  match l.cursor.rest with
  | [] => l.endOfText
  | c :: cs =>
      if atStart ∧ c = '%' then l.directive
      else if l.cursor.atMarker then l.marker (if c = '-' then .documentStart else .documentEnd)
      else
        match c with
        | '[' => l.flowStart .flowSequenceStart
        | '{' => l.flowStart .flowMappingStart
        | ']' => l.flowEnd .flowSequenceEnd
        | '}' => l.flowEnd .flowMappingEnd
        | ',' => l.flowEntry
        | '-' => if atWordEnd cs then l.blockEntry else l.plain
        | '?' => if l.inFlow || atWordEnd cs then l.key else l.plain
        | ':' => if l.inFlow || atWordEnd cs then l.value else l.plain
        | '*' => l.name .alias
        | '&' => l.name .anchor
        | '!' => l.tag
        | '|' => if l.inFlow then none else l.block .literal
        | '>' => if l.inFlow then none else l.block .folded
        | '\x27' => l.quoted .singleQuoted
        | '\x22' => l.quoted .doubleQuoted
        | c => if ['\t', '#', '%', '@', '\x60'].contains c then none else l.plain

def step (l : Lexer) : Option Lexer := do
  let l ← (l.seek (l.cursor.rest.length + 1)).refreshKeys
  l.dedent.next

def settled (l : Lexer) : List Token :=
  let positions := (l.openKey :: l.outerKeys).filterMap fun k => k.map (·.position)
  l.tokens.take (positions.foldl min l.tokens.length)

def run : Nat → Lexer → List Token
  | 0, l => l.settled
  | fuel + 1, l =>
      match l.step with
      | none => l.settled
      | some next => if next.tokens.getLast? = some .streamEnd then next.tokens else run fuel next

end Lexer

/-- Unless the tokens end with `streamEnd`, the text breaks off after them. -/
def Token.scan (text : String) : List Token :=
  let cs := text.toList
  if cs.all admitted.contains then Lexer.run (cs.length + 2) { cursor := { rest := cs } } else []

end ConsumerContract.Yaml
