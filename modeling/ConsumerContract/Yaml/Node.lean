import ConsumerContract.Yaml.Lexer

/-!
The tree of nodes that the tokens of a document stand for, as far as they go. Faults are kept where
they stand: a text may break off inside a node.
-/

namespace ConsumerContract.Yaml

structure Scalar where
  text : String
  style : Style := .plain
  tag : Option String := none
  deriving DecidableEq, Repr

def Scalar.empty : Scalar := { text := "" }

/-- A collection that is not `closed` breaks off after what is listed. Anchors are numbered: an
alias stands for the last node that is marked with its number. -/
inductive Node where
  | broken
  | alias (anchor : Nat)
  | scalar (s : Scalar) (mark : Option Nat)
  | sequence (items : List Node) (closed : Bool) (mark : Option Nat)
  | mapping (entries : List (Node × Node)) (closed : Bool) (mark : Option Nat)
  deriving Repr

namespace Node

instance : Inhabited Node := ⟨.broken⟩

def isWhole : Node → Bool
  | .broken => false
  | .sequence _ closed _ => closed
  | .mapping _ closed _ => closed
  | _ => true

mutual

def marked? (n : Nat) : Node → Option Node
  | .scalar s mark => if mark = some n then some (.scalar s mark) else none
  | .sequence items closed mark =>
      (markedItem? n items).orElse fun _ =>
        if mark = some n then some (.sequence items closed mark) else none
  | .mapping entries closed mark =>
      (markedPair? n entries).orElse fun _ =>
        if mark = some n then some (.mapping entries closed mark) else none
  | _ => none

def markedItem? (n : Nat) : List Node → Option Node
  | [] => none
  | d :: rest => (markedItem? n rest).orElse fun _ => marked? n d

def markedPair? (n : Nat) : List (Node × Node) → Option Node
  | [] => none
  | (k, d) :: rest =>
      (markedPair? n rest).orElse fun _ => (marked? n d).orElse fun _ => marked? n k

end

end Node

structure Feed where
  tokens : List Token
  handles : List (String × String)
  anchors : List (String × Nat) := []

namespace Feed

def behind (f : Feed) (tokens : List Token) : Feed := { f with tokens }

abbrev Reading (α : Type) := α × Option Feed

/-- An anchor's number counts the different names before it. A name that comes again moves to its
new number. -/
def anchor (f : Feed) : Option String → Option Nat × Feed
  | none => (none, f)
  | some name =>
      let n := f.anchors.length
      (some n, { f with anchors := (name, n) :: f.anchors.filter fun a => a.1 != name })

def tag? (f : Feed) (handle suffix : String) : Option String :=
  if handle = "" then some suffix
  else (f.handles.lookup handle).map (· ++ suffix)

def properties (f : Feed) : Option String × Option (String × String) × List Token :=
  match f.tokens with
  | .anchor a :: .tag h s :: rest => (some a, some (h, s), rest)
  | .anchor a :: rest => (some a, none, rest)
  | .tag h s :: .anchor a :: rest => (some a, some (h, s), rest)
  | .tag h s :: rest => (none, some (h, s), rest)
  | rest => (none, none, rest)

def emptyNode (f : Feed) : Reading Node :=
  if f.tokens.isEmpty then (.broken, none) else (.scalar .empty none, some f)

def startsWith (tokens : List Token) (ts : List Token) : Bool := tokens.head?.any ts.contains

mutual

/-- Block collections are read only where `block` allows them, and the items of a sequence without
an indentation of its own only where `indentless` does. -/
def node (block indentless : Bool) : Nat → Feed → Reading Node
  | 0, _ => (.broken, none)
  | fuel + 1, f =>
      match f.tokens with
      | .alias name :: rest =>
          match f.anchors.lookup name with
          | some n => (.alias n, some (f.behind rest))
          | none => (.broken, none)
      | _ =>
          let (anchor, tag, rest) := f.properties
          match tag.map fun (handle, suffix) => f.tag? handle suffix with
          | some none => (.broken, none)
          | resolved =>
              let tag := resolved.bind id
              let (mark, after) := f.anchor anchor
              let after := after.behind rest
              match rest with
              | .scalar text style :: rest =>
                  let tag := if tag = some "!" then none else tag
                  (.scalar { text, style, tag } mark, some (after.behind rest))
              | .flowSequenceStart :: rest =>
                  let (items, left) := flowItems true fuel (after.behind rest)
                  (.sequence items left.isSome mark, left)
              | .flowMappingStart :: rest =>
                  let (entries, left) := flowEntries true fuel (after.behind rest)
                  (.mapping entries left.isSome mark, left)
              | t :: rest' =>
                  if indentless && t == .blockEntry then
                    let (items, left) := indentlessItems fuel after
                    (.sequence items left.isSome mark, left)
                  else if block && t == .blockSequenceStart then
                    let (items, left) := blockItems fuel (after.behind rest')
                    (.sequence items left.isSome mark, left)
                  else if block && t == .blockMappingStart then
                    let (entries, left) := blockEntries fuel (after.behind rest')
                    (.mapping entries left.isSome mark, left)
                  else if anchor.isSome || tag.isSome then
                    (.scalar { Scalar.empty with tag } mark, some after)
                  else (.broken, none)
              | [] => (.broken, none)

def nodeUnless (stops : List Token) (block indentless : Bool) : Nat → Feed → Reading Node
  | 0, _ => (.broken, none)
  | fuel + 1, f =>
      if startsWith f.tokens stops then f.emptyNode else node block indentless fuel f

def blockItems : Nat → Feed → Reading (List Node)
  | 0, _ => ([], none)
  | fuel + 1, f =>
      match f.tokens with
      | .blockEntry :: rest =>
          match nodeUnless [.blockEntry, .blockEnd] true false fuel (f.behind rest) with
          | (d, none) => ([d], none)
          | (d, some f) => let (items, left) := blockItems fuel f; (d :: items, left)
      | .blockEnd :: rest => ([], some (f.behind rest))
      | _ => ([], none)

def indentlessItems : Nat → Feed → Reading (List Node)
  | 0, _ => ([], none)
  | fuel + 1, f =>
      match f.tokens with
      | .blockEntry :: rest =>
          match nodeUnless [.blockEntry, .key, .value, .blockEnd] true false fuel
              (f.behind rest) with
          | (d, none) => ([d], none)
          | (d, some f) => let (items, left) := indentlessItems fuel f; (d :: items, left)
      | [] => ([], none)
      | _ => ([], some f)

def blockEntries : Nat → Feed → Reading (List (Node × Node))
  | 0, _ => ([], none)
  | fuel + 1, f =>
      match f.tokens with
      | .key :: rest =>
          match nodeUnless [.key, .value, .blockEnd] true true fuel (f.behind rest) with
          | (k, none) => ([(k, .broken)], none)
          | (k, some f) =>
              match blockValue fuel f with
              | (v, none) => ([(k, v)], none)
              | (v, some f) => let (entries, left) := blockEntries fuel f; ((k, v) :: entries, left)
      | .blockEnd :: rest => ([], some (f.behind rest))
      | _ => ([], none)

def blockValue : Nat → Feed → Reading Node
  | 0, _ => (.broken, none)
  | fuel + 1, f =>
      match f.tokens with
      | .value :: rest =>
          nodeUnless [.key, .value, .blockEnd] true true fuel (f.behind rest)
      | _ => f.emptyNode

def flowItems (first : Bool) : Nat → Feed → Reading (List Node)
  | 0, _ => ([], none)
  | fuel + 1, f =>
      match first, f.tokens with
      | _, .flowSequenceEnd :: rest => ([], some (f.behind rest))
      | true, _ => flowItem fuel f
      | false, .flowEntry :: rest => flowItem fuel (f.behind rest)
      | false, _ => ([], none)

def flowItem : Nat → Feed → Reading (List Node)
  | 0, _ => ([], none)
  | fuel + 1, f =>
      let one : Reading Node := match f.tokens with
        | .key :: rest =>
            match pairKey fuel (f.behind rest) with
            | (k, none) => (.mapping [(k, .broken)] false none, none)
            | (k, some f) =>
                match flowValue .flowSequenceEnd fuel f with
                | (v, some f) =>
                    if f.tokens.isEmpty then (.mapping [(k, v)] false none, none)
                    else (.mapping [(k, v)] true none, some f)
                | (v, none) => (.mapping [(k, v)] false none, none)
        | _ => node false false fuel f
      match f.tokens, one with
      | .flowSequenceEnd :: rest, _ => ([], some (f.behind rest))
      | _, (d, none) => ([d], none)
      | _, (d, some f) => let (items, left) := flowItems false fuel f; (d :: items, left)

/-- When the key is left out, the token in its place is passed over. -/
def pairKey : Nat → Feed → Reading Node
  | 0, _ => (.broken, none)
  | fuel + 1, f =>
      if startsWith f.tokens [.value, .flowEntry, .flowSequenceEnd] then
        (.scalar .empty none, some (f.behind (f.tokens.drop 1)))
      else node false false fuel f

def flowValue (stop : Token) : Nat → Feed → Reading Node
  | 0, _ => (.broken, none)
  | fuel + 1, f =>
      match f.tokens with
      | .value :: rest => nodeUnless [.flowEntry, stop] false false fuel (f.behind rest)
      | _ => f.emptyNode

def flowEntries (first : Bool) : Nat → Feed → Reading (List (Node × Node))
  | 0, _ => ([], none)
  | fuel + 1, f =>
      match first, f.tokens with
      | _, .flowMappingEnd :: rest => ([], some (f.behind rest))
      | true, _ => flowMember fuel f
      | false, .flowEntry :: rest => flowMember fuel (f.behind rest)
      | false, _ => ([], none)

def flowMember : Nat → Feed → Reading (List (Node × Node))
  | 0, _ => ([], none)
  | fuel + 1, f =>
      let (k, value) : Node × Option (Reading Node) := match f.tokens with
        | .key :: rest =>
            match nodeUnless [.value, .flowEntry, .flowMappingEnd] false false fuel
                (f.behind rest) with
            | (k, left) => (k, left.map fun f => flowValue .flowMappingEnd fuel f)
        | _ =>
            match node false false fuel f with
            | (k, left) => (k, left.map fun f => f.emptyNode)
      match f.tokens, value with
      | .flowMappingEnd :: rest, _ => ([], some (f.behind rest))
      | _, none => ([(k, .broken)], none)
      | _, some (v, none) => ([(k, v)], none)
      | _, some (v, some f) =>
          let (entries, left) := flowEntries false fuel f
          ((k, v) :: entries, left)

end

end Feed

structure Document where
  root : Option Node
  ended : Bool

namespace Document

def broken : Document := { root := some .broken, ended := false }

def standardHandles : List (String × String) := [("!", "!"), ("!!", "tag:yaml.org,2002:")]

/-- Each handle is given a meaning once, and the version is 1.1 or 1.2. -/
def directives : Bool → List (String × String) → List Token →
    Option (List (String × String) × List Token)
  | versioned, handles, .versionDirective major minor :: rest =>
      if !versioned && major == 1 && (minor == 1 || minor == 2) then directives true handles rest
      else none
  | versioned, handles, .tagDirective handle stem :: rest =>
      if (handles.lookup handle).isSome then none
      else directives versioned ((handle, stem) :: handles) rest
  | _, handles, .documentStart :: rest => some (handles, rest)
  | _, _, _ => none

def lacksNode : List Token → Bool
  | .versionDirective _ _ :: _ => true
  | .tagDirective _ _ :: _ => true
  | .documentStart :: _ => true
  | .documentEnd :: _ => true
  | .streamEnd :: _ => true
  | _ => false

def ofReading : Feed.Reading Node → Document
  | (d, none) => { root := some d, ended := false }
  | (d, some f) =>
      { root := some d, ended := f.tokens.dropWhile (· == .documentEnd) == [.streamEnd] }

def ofFeed (f : Feed) : Document :=
  ofReading (Feed.node true false (4 * f.tokens.length + 4) f)

def ofTokens (tokens : List Token) : Document :=
  match tokens with
  | [] => broken
  | .streamEnd :: _ => { root := none, ended := true }
  | .versionDirective _ _ :: _ | .tagDirective _ _ :: _ | .documentStart :: _ =>
      match directives false [] tokens with
      | none => broken
      | some (handles, rest) =>
          let f : Feed := { tokens := rest, handles := handles ++ standardHandles }
          if lacksNode rest then ofReading f.emptyNode else ofFeed f
  | _ => ofFeed { tokens, handles := standardHandles }

def ofText (text : String) : Document := ofTokens (Token.scan text)

def resolve (doc : Document) : Node → Node
  | .alias n => ((doc.root.bind (Node.marked? n))).getD .broken
  | d => d

end Document

end ConsumerContract.Yaml
