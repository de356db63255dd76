import ConsumerContract.Rule.Document
import ConsumerContract.Tree.Decode

namespace ConsumerContract.Tree

mutual

def encode : Tree → Json
  | .null => .null
  | .bool b => .bool b
  | .number n => .number n
  | .string s => .string s
  | .array items => .array (encodeItems items)
  | .object entries => .object (encodeEntries entries)
  | .matcher c payload =>
      .ofMembers [("max", c.rule.max.map .ofNat64), ("min", c.rule.min.map .ofNat64),
        (matcherKey, some c.rule.kind.json), ("regex", c.rule.regex.map .string),
        ("value", some (encode payload))]

def encodeItems : List Tree → List Json
  | [] => []
  | t :: rest => encode t :: encodeItems rest

def encodeEntries : List (String × Tree) → List (String × Json)
  | [] => []
  | (k, t) :: rest => (k, encode t) :: encodeEntries rest

end

mutual

def Encodable : Tree → Prop
  | .array items => EncodableItems items
  | .object entries => Entries.get? matcherKey entries = none ∧ EncodableEntries entries
  | .matcher _ payload => Encodable payload
  | _ => True

def EncodableItems : List Tree → Prop
  | [] => True
  | t :: rest => Encodable t ∧ EncodableItems rest

def EncodableEntries : List (String × Tree) → Prop
  | [] => True
  | (_, t) :: rest => Encodable t ∧ EncodableEntries rest

end

theorem get?_encodeEntries (k : String) (entries : List (String × Tree)) :
    Entries.get? k (encodeEntries entries) = (Entries.get? k entries).map encode := by
  induction entries with
  | nil => rfl
  | cons e rest ih =>
      simp only [encodeEntries, Entries.get?, ih]
      split <;> rfl

mutual

theorem decodeAt_encode (place : Selector) :
    ∀ t : Tree, t.Encodable → decodeAt place t.encode = .ok t
  | .null, _ => rfl
  | .bool _, _ => rfl
  | .number _, _ => rfl
  | .string _, _ => rfl
  | .array items, h => by
      simp [encode, decodeAt, decodeItems_encodeItems place 0 items h, Except.map]
  | .object entries, h => by
      simp [encode, decodeAt, get?_encodeEntries, h.1,
        decodeEntries_encodeEntries place entries h.2, Except.map]
  | .matcher c payload, h => by
      cases c <;>
        simp [encode, Json.ofMembers, decodeAt, Criterion.rule, Entries.get?, matcherKey, ruleOf,
          kindOf, patternOf, boundOf, RuleKind.json, RuleKind.name, Json.ofNat64, decodeValue,
          decodeAt_encode _ payload h, ofRule, Rule.criterion, Matcher.tree, bind, Except.bind,
          pure, Except.pure, Except.map]

theorem decodeItems_encodeItems (place : Selector) (i : Nat) :
    ∀ items : List Tree, EncodableItems items → decodeItems place i (encodeItems items) = .ok items
  | [], _ => rfl
  | t :: rest, h => by
      simp [encodeItems, decodeItems, decodeAt_encode _ t h.1,
        decodeItems_encodeItems place (i + 1) rest h.2, bind, Except.bind, pure, Except.pure]

theorem decodeEntries_encodeEntries (place : Selector) :
    ∀ entries : List (String × Tree), EncodableEntries entries →
      decodeEntries place (encodeEntries entries) = .ok entries
  | [], _ => rfl
  | (k, t) :: rest, h => by
      simp [encodeEntries, decodeEntries, decodeAt_encode _ t h.1,
        decodeEntries_encodeEntries place rest h.2, bind, Except.bind, pure, Except.pure]

end

end ConsumerContract.Tree
