import ConsumerContract.Text.CharSet

namespace ConsumerContract.Pattern

inductive Flag where
  | ignoreCase
  | multiLine
  | dotAll
  | swapGreed
  | unicode
  | carriage
  | spaced
  deriving DecidableEq, Repr

structure FlagChange where
  set : List Flag := []
  clear : List Flag := []
  deriving DecidableEq, Repr

def FlagChange.value? (c : FlagChange) (f : Flag) : Option Bool :=
  if c.set.contains f then some true
  else if c.clear.contains f then some false
  else none

inductive Anchor where
  | startLine
  | endLine
  | startText
  | endText
  | boundary
  | notBoundary
  | wordStart
  | wordEnd
  | halfStart
  | halfEnd
  deriving DecidableEq, Repr

inductive ClassKind where
  | digit
  | space
  | word
  deriving DecidableEq, Repr

inductive SetOp where
  | inter
  | diff
  | symmDiff
  deriving DecidableEq, Repr

inductive ClassSet where
  | nothing
  | range (lo hi : Char)
  | named (chars : CharSet) (negated : Bool)
  | kind (k : ClassKind) (negated : Bool)
  | property (chars : CharSet) (negated : Bool)
  | bracket (negated : Bool) (set : ClassSet)
  | union (items : List ClassSet)
  | op (o : SetOp) (left right : ClassSet)
  deriving Repr

/-- A literal is a byte if it is written with two hexadecimal digits. -/
inductive Node where
  | empty
  | flags (change : FlagChange)
  | literal (c : Char) (byte : Bool)
  | dot
  | anchor (a : Anchor)
  | kind (k : ClassKind) (negated : Bool)
  | property (chars : CharSet) (negated : Bool)
  | bracket (negated : Bool) (set : ClassSet)
  | repetition (min : Nat) (max : Option Nat) (sub : Node)
  | group (capturing : Bool) (change : FlagChange) (sub : Node)
  | concat (parts : List Node)
  | alternation (branches : List Node)
  deriving Repr

inductive Look where
  | start
  | finish
  | lineStart (carriage : Bool)
  | lineEnd (carriage : Bool)
  | boundary (unicode : Bool)
  | notBoundary (unicode : Bool)
  | wordStart (unicode : Bool)
  | wordEnd (unicode : Bool)
  | halfStart (unicode : Bool)
  | halfEnd (unicode : Bool)
  deriving DecidableEq, Repr

inductive Expr where
  | empty
  | chars (s : CharSet)
  | look (l : Look)
  | repetition (min : Nat) (max : Option Nat) (sub : Expr)
  | capture (sub : Expr)
  | concat (parts : List Expr)
  | alternation (branches : List Expr)
  deriving Repr

mutual

def ClassSet.depth : ClassSet → Nat
  | .bracket _ set => 1 + set.depth
  | .union items => 1 + depthItems items
  | .op _ left right => 1 + max left.depth right.depth
  | _ => 0

def ClassSet.depthItems : List ClassSet → Nat
  | [] => 0
  | s :: rest => max s.depth (depthItems rest)

end

mutual

def Node.depth : Node → Nat
  | .bracket _ set => 1 + set.depth
  | .repetition _ _ sub => 1 + sub.depth
  | .group _ _ sub => 1 + sub.depth
  | .concat parts => 1 + depthParts parts
  | .alternation branches => 1 + depthParts branches
  | _ => 0

def Node.depthParts : List Node → Nat
  | [] => 0
  | n :: rest => max n.depth (depthParts rest)

end

end ConsumerContract.Pattern
