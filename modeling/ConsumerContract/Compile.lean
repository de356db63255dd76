import ConsumerContract.Fault
import ConsumerContract.Options
import ConsumerContract.Rule.Document
import ConsumerContract.Tree.Basic

/-!
Whether a pattern is well formed is for the caller to say.
-/

namespace ConsumerContract

abbrev Compiling (α : Type) := StateT RuleTable (Except Fault) α

namespace Tree

variable (accepts : String → Bool) (o : Options)

def record (place : Selector) (rule : Rule) : Compiling Unit :=
  modify fun rules => rules.insert place.text rule

def checkDepth (place : Selector) (depth : Nat) : Compiling Unit :=
  if o.maxDepth.toNat < depth then throw (.tooDeep o.maxDepth place) else return

def checkPattern (place : Selector) (p : String) : Compiling Unit :=
  if o.validatePatterns && !accepts p then throw (.invalidPattern p place) else return

def copies (place : Selector) (c : Criterion) : Compiling Nat :=
  let n := c.count?.getD 0
  if o.maxRepeat < n then throw (.malformedRule place (.tooManyCopies c.name n o.maxRepeat))
  else return n.toNat

mutual

def compileAt (place : Selector) (depth : Nat) (t : Tree) : Compiling Json := do
  checkDepth o place depth
  match t with
  | .null => return .null
  | .bool b => return .bool b
  | .number n => return .number n
  | .string s => return .string s
  | .array items => return .array (← compileItems place (depth + 1) 0 items)
  | .object entries => return .object (← compileEntries place (depth + 1) entries)
  | .matcher .type payload =>
      let v ← compileAt place (depth + 1) payload
      record place Criterion.type.rule
      return v
  | .matcher (.pattern p) payload =>
      checkPattern accepts o place p
      let v ← compileAt place (depth + 1) payload
      record place (Criterion.pattern p).rule
      return v
  | .matcher c payload =>
      let n ← copies o place c
      let v ← compileAt place.each (depth + 1) payload
      record place c.rule
      return .array (List.replicate n v)

def compileItems (place : Selector) (depth : Nat) (i : Nat) : List Tree → Compiling (List Json)
  | [] => return []
  | t :: rest => do
      let v ← compileAt (place.index i) depth t
      let vs ← compileItems place depth (i + 1) rest
      return v :: vs

def compileEntries (place : Selector) (depth : Nat) :
    List (String × Tree) → Compiling (List (String × Json))
  | [] => return []
  | (k, t) :: rest => do
      let v ← compileAt (place.key k) depth t
      let vs ← compileEntries place depth rest
      return (k, v) :: vs

end

def compileBody (t : Tree) : Compiling Json :=
  if t.isObject then compileAt accepts o .body 0 t else throw (.nonObjectRoot t.kind)

end Tree

structure ContractBody where
  body : Json
  matchingRules : RuleTable
  deriving Repr

namespace ContractBody

def ruleAt? (b : ContractBody) (selector : String) : Option Rule := b.matchingRules.get? selector

def json (b : ContractBody) : Json :=
  .object [("body", b.body), ("matchingRules", b.matchingRules.json)]

def schema : Schema ContractBody where
  title := "PactBody"
  blank := ⟨.null, .empty⟩
  fields := [
    .of "body" true .json fun body b => { b with body },
    .of "matchingRules" true RuleTable.reader fun matchingRules b => { b with matchingRules }]

def reader : Reader ContractBody := schema.read

end ContractBody

def Tree.compile (accepts : String → Bool) (o : Options) (t : Tree) :
    Except Fault ContractBody := do
  let (body, matchingRules) ← (t.compileBody accepts o).run .empty
  return { body, matchingRules }

end ConsumerContract
