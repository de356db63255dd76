import ConsumerContract.Yaml.Cursor

/-!
Scalars that flow over lines: plain ones and those in quotation marks. Words are separated by gaps,
and a gap with a single line break folds to a space.
-/

namespace ConsumerContract.Yaml

structure Gap where
  blanks : List Char := []
  breaks : List Char := []
  /-- Whether it starts with a line break that an escape takes away. -/
  joined : Bool := false

namespace Gap

def inLine (g : Gap) : Bool := g.breaks.isEmpty && !g.joined

/-- A lone line feed becomes a space, and the first of several is dropped. -/
def text (g : Gap) : List Char :=
  if g.joined then g.breaks
  else
    match g.breaks with
    | [] => g.blanks
    | ['\n'] => [' ']
    | '\n' :: more => more
    | breaks => breaks

/-- A tab may not stand in the indentation, before `indent`. -/
def read (indent : Nat) : Nat → Gap → Cursor → Option (Gap × Cursor)
  | 0, g, c => some (g, c)
  | fuel + 1, g, c =>
      match c.rest with
      | [] => some (g, c)
      | d :: _ =>
          if isBlank d then
            if g.inLine then read indent fuel { g with blanks := g.blanks ++ [d] } (c.skip 1)
            else if d == '\t' && decide (c.column < indent) then none
            else read indent fuel g (c.skip 1)
          else if isBreak d then
            let (b, c) := c.readBreak
            read indent fuel { g with breaks := g.breaks ++ b } c
          else some (g, c)

end Gap

namespace Plain

/-- Inside a flow collection its indicators end a word, and a colon may not stand right before one.
-/
def word (flow : Bool) : List Char → Option (List Char × List Char)
  | [] => some ([], [])
  | c :: cs =>
      if isGap c then some ([], c :: cs)
      else if flow && c == ':' && cs.head?.any (fun d => isFlowIndicator d || d == '?') then none
      else if c == ':' && atWordEnd cs then some ([], c :: cs)
      else if flow && isFlowIndicator c then some ([], c :: cs)
      else (word flow cs).map fun (w, rest) => (c :: w, rest)

/-- Outside flow collections a scalar ends where the indentation does. -/
def words (flow : Bool) (indent : Nat) : Nat → Gap → Cursor →
    Option (List Char × Bool × Cursor)
  | 0, _, _ => none
  | fuel + 1, g, c =>
      if c.atMarker || c.rest.head? == some '#' then some ([], !g.inLine, c)
      else
        match word flow c.rest with
        | none => none
        | some ([], _) => some ([], !g.inLine, c)
        | some (w, rest) => do
            let (next, c) ← Gap.read indent rest.length {} (c.along rest)
            if next.inLine && next.blanks.isEmpty then some (g.text ++ w, false, c)
            else if !flow && decide (c.column < indent) then some (g.text ++ w, !next.inLine, c)
            else
              let (more, broke, c) ← words flow indent fuel next c
              some (g.text ++ w ++ more, broke, c)

def read (flow : Bool) (indent : Nat) (c : Cursor) : Option (String × Bool × Cursor) :=
  (words flow indent (c.rest.length + 1) {} c).map fun (cs, broke, c) => (.ofList cs, broke, c)

end Plain

namespace Quoted

def singleWord : List Char → List Char × List Char
  | '\x27' :: '\x27' :: cs => let (w, rest) := singleWord cs; ('\x27' :: w, rest)
  | c :: cs =>
      if isGap c || c == '\x27' then ([], c :: cs)
      else let (w, rest) := singleWord cs; (c :: w, rest)
  | [] => ([], [])

def simpleEscape? : Char → Option Char
  | '0' => some '\x00'
  | 'a' => some '\x07'
  | 'b' => some '\x08'
  | 't' => some '\t'
  | '\t' => some '\t'
  | 'n' => some '\n'
  | 'v' => some '\x0b'
  | 'f' => some '\x0c'
  | 'r' => some '\r'
  | 'e' => some '\x1b'
  | ' ' => some ' '
  | '\x22' => some '\x22'
  | '/' => some '/'
  | '\\' => some '\\'
  | 'N' => some '\u0085'
  | '_' => some '\u00a0'
  | 'L' => some '\u2028'
  | 'P' => some '\u2029'
  | _ => none

def codeLength? : Char → Option Nat
  | 'x' => some 2
  | 'u' => some 4
  | 'U' => some 8
  | _ => none

def scalarValue? (n : Nat) : Option Char :=
  if n.isValidChar then some (.ofNat n) else none

def readCode? : Nat → Nat → List Char → Option (Char × List Char)
  | 0, n, cs => (scalarValue? n).map fun c => (c, cs)
  | k + 1, n, c :: cs => (CharSet.hexDigit? c).bind fun d => readCode? k (16 * n + d) cs
  | _ + 1, _, [] => none

def readEscape? (e : Char) (cs : List Char) : Option (Char × List Char) :=
  match codeLength? e with
  | some k => readCode? k 0 cs
  | none => (simpleEscape? e).map fun c => (c, cs)

/-- A word stops before an escaped line break. -/
def doubleWord : Nat → List Char → Option (List Char × List Char)
  | 0, _ => none
  | _ + 1, [] => some ([], [])
  | _ + 1, ['\\'] => none
  | fuel + 1, '\\' :: e :: cs =>
      if isBreak e then some ([], '\\' :: e :: cs)
      else do
        let (c, cs) ← readEscape? e cs
        let (w, rest) ← doubleWord fuel cs
        some (c :: w, rest)
  | fuel + 1, c :: cs =>
      if isGap c || c == '\x22' then some ([], c :: cs)
      else (doubleWord fuel cs).map fun (w, rest) => (c :: w, rest)

def word (double : Bool) (cs : List Char) : Option (List Char × List Char) :=
  if double then doubleWord (cs.length + 1) cs else some (singleWord cs)

def words (double : Bool) : Nat → Cursor → Option (List Char × Cursor)
  | 0, _ => none
  | fuel + 1, c =>
      if c.atMarker then none
      else do
        let (w, rest) ← word double c.rest
        let c := c.along rest
        match rest with
        | [] => none
        | d :: _ =>
            if d == '\x27' || d == '\x22' then some (w, c.skip 1)
            else
              let (g, c) ←
                if d == '\\' then Gap.read 0 rest.length { joined := true } (c.skip 1).skipBreak
                else Gap.read 0 rest.length {} c
              let (more, c) ← words double fuel c
              some (w ++ g.text ++ more, c)

def read (double : Bool) (c : Cursor) : Option (String × Cursor) :=
  (words double (c.rest.length + 1) c).map fun (cs, c) => (.ofList cs, c)

end Quoted

end ConsumerContract.Yaml
