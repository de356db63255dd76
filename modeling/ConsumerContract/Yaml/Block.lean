import ConsumerContract.Yaml.Cursor

/-!
Block scalars: indented lines under a header, kept as they are or folded.
-/

namespace ConsumerContract.Yaml.Block

/-- What becomes of the line breaks at the end of a block scalar: all dropped, one kept, or all
kept. -/
inductive Chomping where
  | strip
  | clip
  | keep
  deriving DecidableEq, Repr

/-- An indentation that is not given is found from the text. -/
structure Header where
  chomping : Chomping := .clip
  indentation : Option Nat := none
  deriving DecidableEq, Repr

def chomping? : Char → Option Chomping
  | '-' => some .strip
  | '+' => some .keep
  | _ => none

def readChomping (h : Header) : List Char → Header × List Char
  | [] => (h, [])
  | c :: cs =>
      match chomping? c with
      | some chomping => ({ h with chomping }, cs)
      | none => (h, c :: cs)

def readIndentation? (h : Header) : List Char → Option (Header × List Char)
  | [] => some (h, [])
  | c :: cs =>
      if !c.isDigit then some (h, c :: cs)
      else if c == '0' then none
      else some ({ h with indentation := some (c.toNat - 48) }, cs)

def readHeader? (cs : List Char) : Option (Header × List Char) :=
  match readChomping {} cs with
  | (h, rest) =>
      if h.chomping = .clip then (readIndentation? h rest).map fun (h, rest) =>
        if h.indentation.isSome then readChomping h rest else (h, rest)
      else readIndentation? h rest

def skipIndent (indent : Option Nat) (c : Cursor) : Cursor :=
  let spaces := (c.rest.takeWhile (· == ' ')).length
  match indent with
  | none => c.skip spaces
  | some k => c.skip (min spaces (k - c.column))

/-- A tab may not stand in the indentation. -/
def emptyLines (indent : Option Nat) : Nat → Cursor → Option (List Char × Nat × Cursor)
  | 0, _ => none
  | fuel + 1, c =>
      let c := skipIndent indent c
      let short := match indent with
        | none => true
        | some k => decide (c.column < k)
      if short && c.rest.head? == some '\t' then none
      else if c.rest.head?.any isBreak then
        let (b, below) := c.readBreak
        (emptyLines indent fuel below).map fun (more, widest, last) =>
          (b ++ more, max c.column widest, last)
      else some ([], c.column, c)

/-- The text read so far and the breaks that wait at its end: the one of the last line and those of
the empty lines after it. -/
structure Partial where
  text : List Char := []
  last : List Char := []
  empty : List Char := []
  /-- Whether the last line starts with a blank, which keeps the breaks around it. -/
  indented : Bool := false

namespace Partial

def joint (folds : Bool) (p : Partial) (indented : Bool) : List Char :=
  if folds && p.last.head? == some '\n' && !p.indented && !indented then
    if p.empty.isEmpty then [' '] else p.empty
  else p.last ++ p.empty

def finish (p : Partial) : Chomping → List Char
  | .strip => p.text
  | .clip => p.text ++ p.last
  | .keep => p.text ++ p.last ++ p.empty

end Partial

def lines (folds : Bool) (indent : Nat) : Nat → Partial → Cursor → Option (Partial × Cursor)
  | 0, _, _ => none
  | fuel + 1, p, c =>
      if c.column != indent || c.rest.isEmpty then some (p, c)
      else do
        let indented := c.rest.head?.any isBlank
        let line := c.rest.takeWhile fun d => !isBreak d
        let (last, below) := (c.skip line.length).readBreak
        let (empty, _, next) ← emptyLines (some indent) (below.rest.length + 1) below
        let text := p.text ++ p.joint folds indented ++ line
        lines folds indent fuel { text, last, empty, indented } next

def read (folds : Bool) (least : Nat) (c : Cursor) : Option (String × Cursor) := do
  let (h, rest) ← readHeader? c.rest
  let c ← (c.along rest).finishLine?
  let given := h.indentation.map (least - 1 + ·)
  let (empty, widest, c) ← emptyLines given (c.rest.length + 1) c
  let indent := given.getD (max widest (max least 1))
  let (p, c) ← lines folds indent (c.rest.length + 1) { empty } c
  return (.ofList (p.finish h.chomping), c)

end ConsumerContract.Yaml.Block
