import ConsumerContract.Pattern.Reader
import ConsumerContract.Text.CaseFold

/-!
What patterns mean. A pattern that could match a part of a character has no meaning: without the
flag for Unicode, whatever goes beyond ASCII has to be written out as a character.
-/

namespace ConsumerContract.Pattern

structure Flags where
  ignoreCase : Bool := false
  multiLine : Bool := false
  dotAll : Bool := false
  carriage : Bool := false
  unicode : Bool := true
  deriving DecidableEq, Repr

def Flags.apply (f : Flags) (c : FlagChange) : Flags where
  ignoreCase := (c.value? .ignoreCase).getD f.ignoreCase
  multiLine := (c.value? .multiLine).getD f.multiLine
  dotAll := (c.value? .dotAll).getD f.dotAll
  carriage := (c.value? .carriage).getD f.carriage
  unicode := (c.value? .unicode).getD f.unicode

def asciiDigits : CharSet := .ofText "30-39"

def asciiSpace : CharSet := .ofText "9-D 20"

def asciiWord : CharSet := .ofText "30-39 41-5A 5F 61-7A"

def asciiCapitals : CharSet := .ofText "41-5A"

def asciiSmalls : CharSet := .ofText "61-7A"

def ClassKind.chars (unicode : Bool) : ClassKind → CharSet
  | .digit => if unicode then digitChars else asciiDigits
  | .space => if unicode then Text.blanks else asciiSpace
  | .word => if unicode then wordChars else asciiWord

def shiftUp (s : CharSet) (d : Nat) : CharSet := ⟨s.runs.map fun (lo, hi) => (lo + d, hi + d)⟩

def shiftDown (s : CharSet) (d : Nat) : CharSet := ⟨s.runs.map fun (lo, hi) => (lo - d, hi - d)⟩

def closeAscii (s : CharSet) : CharSet :=
  (s.union (shiftUp (s.inter asciiCapitals) 32)).union (shiftDown (s.inter asciiSmalls) 32)

def Flags.fold (f : Flags) (s : CharSet) : CharSet :=
  if !f.ignoreCase then s else if f.unicode then Text.closeUnderCase s else closeAscii s

/-- Outside a set of ASCII characters there are parts of others. -/
def Flags.negate? (f : Flags) (negated : Bool) (s : CharSet) : Option CharSet :=
  if !negated then some s else if f.unicode then some s.compl else none

def SetOp.apply (o : SetOp) (s t : CharSet) : CharSet :=
  match o with
  | .inter => s.inter t
  | .diff => s.diff t
  | .symmDiff => s.symmDiff t

mutual

def ClassSet.chars? (f : Flags) : ClassSet → Option CharSet
  | .nothing => some .empty
  | .range lo hi =>
      if f.unicode || decide (hi.toNat < 0x80) then some ⟨[(lo.toNat, hi.toNat)]⟩ else none
  | .named chars negated => f.negate? negated (f.fold chars)
  | .kind k negated => f.negate? negated (k.chars f.unicode)
  | .property chars negated => if f.unicode then f.negate? negated (f.fold chars) else none
  | .bracket negated set =>
      match set.chars? f with
      | some s => f.negate? negated (f.fold s)
      | none => none
  | .union items => unionChars? f items
  | .op o left right =>
      match left.chars? f, right.chars? f with
      | some s, some t => some (o.apply (f.fold s) (f.fold t))
      | _, _ => none

def ClassSet.unionChars? (f : Flags) : List ClassSet → Option CharSet
  | [] => some .empty
  | item :: rest =>
      match item.chars? f, unionChars? f rest with
      | some s, some t => some (s.union t)
      | _, _ => none

end

def Flags.look (f : Flags) : Anchor → Look
  | .startLine => if f.multiLine then .lineStart f.carriage else .start
  | .endLine => if f.multiLine then .lineEnd f.carriage else .finish
  | .startText => .start
  | .endText => .finish
  | .boundary => .boundary f.unicode
  | .notBoundary => .notBoundary f.unicode
  | .wordStart => .wordStart f.unicode
  | .wordEnd => .wordEnd f.unicode
  | .halfStart => .halfStart f.unicode
  | .halfEnd => .halfEnd f.unicode

def Flags.dot (f : Flags) : CharSet :=
  if f.dotAll then .scalars
  else if f.carriage then CharSet.compl (.ofText "A D")
  else CharSet.compl (.ofText "A")

mutual

def Expr.isBlank : Expr → Bool
  | .empty => true
  | .chars _ => false
  | .look _ => true
  | .repetition _ _ sub => sub.isBlank
  | .capture sub => sub.isBlank
  | .concat parts => allBlank parts
  | .alternation branches => allBlank branches

def Expr.allBlank : List Expr → Bool
  | [] => true
  | e :: rest => e.isBlank && allBlank rest

end

/-- A repetition of something that matches only the empty text is at most one of it. -/
def Expr.repeated (min : Nat) (max : Option Nat) (sub : Expr) : Expr :=
  let min := if sub.isBlank then Min.min min 1 else min
  let max := if sub.isBlank then some ((max.getD 1).min 1) else max
  if max = some 0 then .empty
  else if min = 1 ∧ max = some 1 then sub
  else .repetition min max sub

def Expr.charSets? : List Expr → Option CharSet
  | [] => some .empty
  | .chars s :: rest => (charSets? rest).map s.union
  | _ :: _ => none

def Expr.choice (branches : List Expr) : Expr :=
  match charSets? branches with
  | some s => .chars s
  | none => .alternation branches

mutual

def Node.meaning? (f : Flags) : Node → Option (Expr × Flags)
  | .empty => some (.empty, f)
  | .flags change => some (.empty, f.apply change)
  | .literal c byte =>
      if !f.unicode && byte && decide (0x80 ≤ c.toNat) then none
      else if !f.unicode && decide (0x80 ≤ c.toNat) then some (.chars (.singleton c), f)
      else some (.chars (f.fold (.singleton c)), f)
  | .dot => if f.unicode then some (.chars f.dot, f) else none
  | .anchor a => some (.look (f.look a), f)
  | .kind k negated => (f.negate? negated (k.chars f.unicode)).map fun s => (.chars s, f)
  | .property chars negated =>
      if f.unicode then (f.negate? negated (f.fold chars)).map fun s => (.chars s, f) else none
  | .bracket negated set =>
      match set.chars? f with
      | some s => (f.negate? negated (f.fold s)).map fun s => (.chars s, f)
      | none => none
  | .repetition min max sub =>
      (sub.meaning? f).map fun (e, f) => (e.repeated min max, f)
  | .group capturing change sub =>
      (sub.meaning? (f.apply change)).map fun (e, _) => (if capturing then .capture e else e, f)
  | .concat parts => (meanings? f parts).map fun (es, f) => (.concat es, f)
  | .alternation branches => (meanings? f branches).map fun (es, f) => (.choice es, f)

def Node.meanings? (f : Flags) : List Node → Option (List Expr × Flags)
  | [] => some ([], f)
  | n :: rest =>
      match n.meaning? f with
      | some (e, f) => (meanings? f rest).map fun (es, f) => (e :: es, f)
      | none => none

end

def Expr.ofText? (text : String) : Option Expr := do
  let n ← Node.ofText? text
  let (e, _) ← n.meaning? {}
  return e

end ConsumerContract.Pattern
