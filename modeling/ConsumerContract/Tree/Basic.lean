import ConsumerContract.Json.Basic
import ConsumerContract.Rule.Basic

namespace ConsumerContract

/-- The payload of a matcher is its example, or the template of the items of its array. The entries
of an object are in ascending order of keys. -/
inductive Tree where
  | null
  | bool (b : Bool)
  | number (n : Number)
  | string (s : String)
  | array (items : List Tree)
  | object (entries : List (String × Tree))
  | matcher (criterion : Criterion) (payload : Tree)
  deriving Repr

structure Matcher where
  criterion : Criterion
  payload : Tree
  deriving Repr

def Matcher.tree (m : Matcher) : Tree := .matcher m.criterion m.payload

namespace Tree

instance : Inhabited Tree := ⟨.null⟩

@[induction_eliminator]
theorem induction {motive : Tree → Prop} (null : motive .null) (bool : ∀ b, motive (.bool b))
    (number : ∀ n, motive (.number n)) (string : ∀ s, motive (.string s))
    (array : ∀ items, (∀ t ∈ items, motive t) → motive (.array items))
    (object : ∀ entries, (∀ e ∈ entries, motive e.2) → motive (.object entries))
    (matcher : ∀ c payload, motive payload → motive (.matcher c payload)) (t : Tree) :
    motive t :=
  @Tree.rec motive (fun items => ∀ t ∈ items, motive t) (fun entries => ∀ e ∈ entries, motive e.2)
    (fun e => motive e.2) null bool number string array object matcher
    (fun _ h => nomatch h) (fun _ _ head tail => List.forall_mem_cons.mpr ⟨head, tail⟩)
    (fun _ h => nomatch h) (fun _ _ head tail => List.forall_mem_cons.mpr ⟨head, tail⟩)
    (fun _ _ h => h) t

inductive Kind where
  | null
  | boolean
  | number
  | string
  | array
  | object
  | matcher
  deriving DecidableEq, Repr

def Kind.name : Kind → String
  | .null => "null"
  | .boolean => "boolean"
  | .number => "number"
  | .string => "string"
  | .array => "array"
  | .object => "object"
  | .matcher => "matcher"

def kind : Tree → Kind
  | .null => .null
  | .bool _ => .boolean
  | .number _ => .number
  | .string _ => .string
  | .array _ => .array
  | .object _ => .object
  | .matcher _ _ => .matcher

def isObject (t : Tree) : Bool := t.kind == .object

def ofEntries (entries : List (String × Tree)) : Tree := .object (Entries.ofList entries)

def like (example_ : Tree) : Tree := .matcher .type example_

def term (pattern : String) (example_ : Tree) : Tree := .matcher (.pattern pattern) example_

def arrayMinLike (n : UInt64) (template : Tree) : Tree := .matcher (.atLeast n) template

def arrayMaxLike (n : UInt64) (template : Tree) : Tree := .matcher (.atMost n) template

mutual

def ofJson : Json → Tree
  | .null => .null
  | .bool b => .bool b
  | .number n => .number n
  | .string s => .string s
  | .array items => .array (ofJsonItems items)
  | .object entries => .object (ofJsonEntries entries)

def ofJsonItems : List Json → List Tree
  | [] => []
  | v :: rest => ofJson v :: ofJsonItems rest

def ofJsonEntries : List (String × Json) → List (String × Tree)
  | [] => []
  | (k, v) :: rest => (k, ofJson v) :: ofJsonEntries rest

end

/-- Numbers that JSON cannot write become null. -/
def ofFloat? : Option Binary64 → Tree
  | some x => .number (.float x)
  | none => .null

mutual

def same : Tree → Tree → Bool
  | .null, .null => true
  | .bool a, .bool b => a == b
  | .number a, .number b => a.same b
  | .string a, .string b => a == b
  | .array as, .array bs => sameItems as bs
  | .object as, .object bs => sameEntries as bs
  | .matcher c a, .matcher d b => c == d && same a b
  | _, _ => false

def sameItems : List Tree → List Tree → Bool
  | [], [] => true
  | a :: as, b :: bs => same a b && sameItems as bs
  | _, _ => false

def sameEntries : List (String × Tree) → List (String × Tree) → Bool
  | [], [] => true
  | (k, a) :: as, (l, b) :: bs => k == l && same a b && sameEntries as bs
  | _, _ => false

end

theorem kind_ofJson_ne_matcher (v : Json) : (ofJson v).kind ≠ .matcher := by
  cases v <;> simp [ofJson, kind]

end Tree

end ConsumerContract
