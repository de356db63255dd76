import ConsumerContract.Pattern.Escape

namespace ConsumerContract.Pattern

def asciiClass? (name : String) : Option CharSet :=
  match name with
  | "alnum" => some (.ofText "30-39 41-5A 61-7A")
  | "alpha" => some (.ofText "41-5A 61-7A")
  | "ascii" => some (.ofText "0-7F")
  | "blank" => some (.ofText "9 20")
  | "cntrl" => some (.ofText "0-1F 7F")
  | "digit" => some (.ofText "30-39")
  | "graph" => some (.ofText "21-7E")
  | "lower" => some (.ofText "61-7A")
  | "print" => some (.ofText "20-7E")
  | "punct" => some (.ofText "21-2F 3A-40 5B-60 7B-7E")
  | "space" => some (.ofText "9-D 20")
  | "upper" => some (.ofText "41-5A")
  | "word" => some (.ofText "30-39 41-5A 5F 61-7A")
  | "xdigit" => some (.ofText "30-39 41-46 61-66")
  | _ => none

def readNamedClass : List Char → Option (ClassSet × List Char)
  | ':' :: cs =>
      let (negated, cs) := match cs with
        | '^' :: cs => (true, cs)
        | cs => (false, cs)
      match cs.span (· != ':') with
      | (name, ':' :: ']' :: rest) =>
          (asciiClass? (.ofList name)).map fun chars => (.named chars negated, rest)
      | _ => none
  | _ => none

def Primitive.classSet? : Primitive → Option ClassSet
  | .literal c _ => some (.range c c)
  | .kind k negated => some (.kind k negated)
  | .property chars negated => some (.property chars negated)
  | .anchor _ => none

def Primitive.char? : Primitive → Option Char
  | .literal c _ => some c
  | _ => none

def readClassPrimitive (spaced : Bool) : List Char → Option (Primitive × List Char)
  | [] => none
  | '\\' :: cs => readEscape spaced cs
  | c :: cs => some (.literal c false, cs)

/-- The character after a hyphen, blanks and the start of one comment aside. -/
def peekSpace (spaced : Bool) (cs : List Char) : Option Char :=
  if !spaced then cs.head?
  else
    match cs.dropWhile Text.isBlank with
    | '#' :: cs => (cs.dropWhile Text.isBlank).head?
    | cs => cs.head?

def readClassItem (spaced : Bool) (cs : List Char) : Option (ClassSet × List Char) := do
  let (first, cs) ← readClassPrimitive spaced cs
  match skip spaced cs with
  | [] => none
  | '-' :: rest =>
      let next := peekSpace spaced rest
      if next = some ']' ∨ next = some '-' then
        return (← first.classSet?, '-' :: rest)
      else
        let (last, cs) ← readClassPrimitive spaced (skip spaced rest)
        let lo ← first.char?
        let hi ← last.char?
        if lo ≤ hi then some (.range lo hi, cs) else none
  | cs => return (← first.classSet?, cs)

def unionOf : List ClassSet → ClassSet
  | [] => .nothing
  | [s] => s
  | several => .union several

abbrev Pending := Option (SetOp × ClassSet)

def Pending.close (pending : Pending) (set : ClassSet) : ClassSet :=
  match pending with
  | some (o, left) => .op o left set
  | none => set

def readHyphens (spaced : Bool) : Nat → List Char → List ClassSet × List Char
  | 0, cs => ([], cs)
  | fuel + 1, cs =>
      match cs with
      | '-' :: rest =>
          let (items, cs) := readHyphens spaced fuel (skip spaced rest)
          (.range '-' '-' :: items, cs)
      | cs => ([], cs)

mutual

/-- Hyphens at the start of a class, or a bracket right at its start, stand for themselves. -/
def readClass (spaced : Bool) : Nat → List Char → Option ((Bool × ClassSet) × List Char)
  | 0, _ => none
  | fuel + 1, cs =>
      let (negated, cs) := match skip spaced cs with
        | '^' :: cs => (true, skip spaced cs)
        | cs => (false, cs)
      let (items, cs) := match readHyphens spaced cs.length cs with
        | ([], ']' :: cs) => ([ClassSet.range ']' ']'], cs)
        | r => r
      (readClassBody spaced fuel none items.reverse cs).map fun (set, cs) => ((negated, set), cs)

def readClassBody (spaced : Bool) : Nat → Pending → List ClassSet → List Char →
    Option (ClassSet × List Char)
  | 0, _, _, _ => none
  | fuel + 1, pending, items, cs =>
      let operator (o : SetOp) (cs : List Char) : Option (ClassSet × List Char) :=
        readClassBody spaced fuel (some (o, pending.close (unionOf items.reverse))) [] cs
      match skip spaced cs with
      | [] => none
      | ']' :: cs => some (pending.close (unionOf items.reverse), cs)
      | '[' :: cs =>
          match readNamedClass cs with
          | some (item, cs) => readClassBody spaced fuel pending (item :: items) cs
          | none =>
              match readClass spaced fuel cs with
              | some ((negated, set), cs) =>
                  readClassBody spaced fuel pending (.bracket negated set :: items) cs
              | none => none
      | '&' :: '&' :: cs => operator .inter cs
      | '-' :: '-' :: cs => operator .diff cs
      | '~' :: '~' :: cs => operator .symmDiff cs
      | cs =>
          match readClassItem spaced cs with
          | some (item, cs) => readClassBody spaced fuel pending (item :: items) cs
          | none => none

end

def readDecimalDigits (spaced : Bool) : Nat → List Char → List Char × List Char
  | 0, cs => ([], cs)
  | fuel + 1, cs =>
      match cs with
      | c :: rest =>
          if c.isDigit then
            let (ds, cs) := readDecimalDigits spaced fuel (skip spaced rest)
            (c :: ds, cs)
          else ([], c :: rest)
      | [] => ([], [])

def readCount (spaced : Bool) (cs : List Char) : Option (Nat × List Char) :=
  let cs := cs.dropWhile Text.isBlank
  let (ds, cs) := readDecimalDigits spaced cs.length cs
  let n := ds.foldl (fun n d => 10 * n + (d.toNat - 48)) 0
  if ds.isEmpty || UInt32.size ≤ n then none
  else some (n, skip spaced (cs.dropWhile Text.isBlank))

/-- The upper bound is the lower one unless there is a comma, and none if nothing follows the comma.
-/
def readUpper (spaced : Bool) (min : Nat) : List Char → Option (Option Nat × List Char)
  | ',' :: cs =>
      match skip spaced cs with
      | '}' :: cs => some (none, '}' :: cs)
      | cs => (readCount spaced cs).map fun (max, cs) => (some max, cs)
  | cs => some (some min, cs)

def dropLazy : List Char → List Char
  | '?' :: cs => cs
  | cs => cs

def readBounds (spaced : Bool) (cs : List Char) : Option ((Nat × Option Nat) × List Char) := do
  let (min, cs) ← readCount spaced (skip spaced cs)
  let (max, cs) ← readUpper spaced min cs
  match cs with
  | '}' :: cs =>
      if max.all (min ≤ ·) then some ((min, max), dropLazy (skip spaced cs)) else none
  | _ => none

def flag? : Char → Option Flag
  | 'i' => some .ignoreCase
  | 'm' => some .multiLine
  | 's' => some .dotAll
  | 'U' => some .swapGreed
  | 'u' => some .unicode
  | 'R' => some .carriage
  | 'x' => some .spaced
  | _ => none

/-- No flag stands twice, and a minus sign stands once, before some flag. -/
def readFlags : Bool → FlagChange → List Char → Option ((FlagChange × Char) × List Char)
  | _, _, [] => none
  | negated, change, c :: cs =>
      if c = ':' ∨ c = ')' then
        if negated && change.clear.isEmpty then none else some ((change, c), cs)
      else if c = '-' then
        if negated then none else readFlags true change cs
      else
        match flag? c with
        | none => none
        | some f =>
            if (change.value? f).isSome then none
            else if negated then readFlags true { change with clear := f :: change.clear } cs
            else readFlags false { change with set := f :: change.set } cs

def isNameStart (c : Char) : Bool := c == '_' || Text.isAlphabetic c

def isNameChar (c : Char) : Bool :=
  c == '_' || c == '.' || c == '[' || c == ']' || Text.isAlphabetic c || Text.isNumeric c

def readGroupName (cs : List Char) : Option (List Char × List Char) :=
  match cs.span (· != '>') with
  | (c :: name, '>' :: rest) =>
      if isNameStart c && name.all isNameChar then some (c :: name, rest) else none
  | _ => none

inductive Opening where
  | flags (change : FlagChange)
  | group (capturing : Bool) (change : FlagChange)
  | named (name : List Char)
  deriving Repr

def readOpening : List Char → Option (Opening × List Char)
  | '?' :: '=' :: _ => none
  | '?' :: '!' :: _ => none
  | '?' :: '<' :: '=' :: _ => none
  | '?' :: '<' :: '!' :: _ => none
  | '?' :: 'P' :: '<' :: cs => (readGroupName cs).map fun (name, cs) => (.named name, cs)
  | '?' :: '<' :: cs => (readGroupName cs).map fun (name, cs) => (.named name, cs)
  | '?' :: cs =>
      match readFlags false {} cs with
      | some ((change, ':'), cs) => some (.group false change, cs)
      | some ((change, _), cs) =>
          if change.set.isEmpty && change.clear.isEmpty then none else some (.flags change, cs)
      | none => none
  | cs => some (.group true {}, cs)

def Primitive.node : Primitive → Node
  | .literal c byte => .literal c byte
  | .anchor a => .anchor a
  | .kind k negated => .kind k negated
  | .property chars negated => .property chars negated

def concatOf : List Node → Node
  | [] => .empty
  | [n] => n
  | several => .concat several

def nodeOf (branches parts : List Node) : Node :=
  match branches with
  | [] => concatOf parts.reverse
  | _ => .alternation (concatOf parts.reverse :: branches).reverse

def repeatLast? (min : Nat) (max : Option Nat) : List Node → Option (List Node)
  | [] => none
  | .flags _ :: _ => none
  | n :: parts => some (.repetition min max n :: parts)

def simpleRepetition? : Char → Option (Nat × Option Nat)
  | '?' => some (0, some 1)
  | '*' => some (0, none)
  | '+' => some (1, none)
  | _ => none

/-- Branches and parts are held in reverse order. -/
structure Progress where
  names : List (List Char) := []
  spaced : Bool := false
  branches : List Node := []
  parts : List Node := []

def Progress.push (p : Progress) (n : Node) : Progress := { p with parts := n :: p.parts }

def readBranches : Nat → Progress → List Char → Option ((Node × List (List Char)) × List Char)
  | 0, _, _ => none
  | fuel + 1, p, cs =>
      match skip p.spaced cs with
      | [] => some ((nodeOf p.branches p.parts, p.names), [])
      | ')' :: cs => some ((nodeOf p.branches p.parts, p.names), ')' :: cs)
      | '|' :: cs =>
          readBranches fuel
            { p with branches := concatOf p.parts.reverse :: p.branches, parts := [] } cs
      | '[' :: cs => do
          let ((negated, set), cs) ← readClass p.spaced (2 * cs.length + 2) cs
          readBranches fuel (p.push (.bracket negated set)) cs
      | '{' :: cs => do
          let ((min, max), cs) ← readBounds p.spaced cs
          let parts ← repeatLast? min max p.parts
          readBranches fuel { p with parts } cs
      | '(' :: cs => do
          match ← readOpening (skip p.spaced cs) with
          | (.flags change, cs) =>
              readBranches fuel
                { p with
                  spaced := (change.value? .spaced).getD p.spaced
                  parts := .flags change :: p.parts } cs
          | (.group capturing change, cs) =>
              let inner : Progress :=
                { names := p.names, spaced := (change.value? .spaced).getD p.spaced }
              match ← readBranches fuel inner cs with
              | ((sub, names), ')' :: cs) =>
                  readBranches fuel ({ p with names }.push (.group capturing change sub)) cs
              | _ => none
          | (.named name, cs) =>
              if p.names.contains name then none
              else
                let inner : Progress := { names := name :: p.names, spaced := p.spaced }
                match ← readBranches fuel inner cs with
                | ((sub, names), ')' :: cs) =>
                    readBranches fuel ({ p with names }.push (.group true {} sub)) cs
                | _ => none
      | '\\' :: cs => do
          let (primitive, cs) ← readEscape p.spaced cs
          readBranches fuel (p.push primitive.node) cs
      | '.' :: cs => readBranches fuel (p.push .dot) cs
      | '^' :: cs => readBranches fuel (p.push (.anchor .startLine)) cs
      | '$' :: cs => readBranches fuel (p.push (.anchor .endLine)) cs
      | c :: cs =>
          match simpleRepetition? c with
          | some (min, max) => do
              let parts ← repeatLast? min max p.parts
              readBranches fuel { p with parts } (dropLazy cs)
          | none => readBranches fuel (p.push (.literal c false)) cs

def depthLimit : Nat := 250

def Node.ofText? (text : String) : Option Node :=
  let cs := text.toList
  match readBranches (2 * cs.length + 2) {} cs with
  | some ((n, _), []) => if n.depth ≤ depthLimit then some n else none
  | _ => none

end ConsumerContract.Pattern
