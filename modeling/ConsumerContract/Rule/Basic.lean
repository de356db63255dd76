import ConsumerContract.KeyMap

namespace ConsumerContract

inductive RuleKind where
  | type
  | regex
  deriving DecidableEq, Repr

def RuleKind.name : RuleKind → String
  | .type => "type"
  | .regex => "regex"

structure Rule where
  kind : RuleKind
  regex : Option String := none
  min : Option UInt64 := none
  max : Option UInt64 := none
  deriving DecidableEq, Repr

inductive Criterion where
  | type
  | pattern (p : String)
  | atLeast (n : UInt64)
  | atMost (n : UInt64)
  deriving DecidableEq, Repr

namespace Criterion

def rule : Criterion → Rule
  | .type => { kind := .type }
  | .pattern p => { kind := .regex, regex := some p }
  | .atLeast n => { kind := .type, min := some n }
  | .atMost n => { kind := .type, max := some n }

def count? : Criterion → Option UInt64
  | .atLeast n => some n
  | .atMost n => some n
  | .type => none
  | .pattern _ => none

def name : Criterion → String
  | .type => "like"
  | .pattern _ => "term"
  | .atLeast _ => "arrayMinLike"
  | .atMost _ => "arrayMaxLike"

end Criterion

namespace Rule

inductive Clash where
  | missingPattern
  | boundedPattern
  | typeWithPattern
  | twoBounds
  deriving DecidableEq, Repr

def criterion : Rule → Except Clash Criterion
  | ⟨.regex, some p, none, none⟩ => .ok (.pattern p)
  | ⟨.regex, none, _, _⟩ => .error .missingPattern
  | ⟨.regex, some _, _, _⟩ => .error .boundedPattern
  | ⟨.type, some _, _, _⟩ => .error .typeWithPattern
  | ⟨.type, none, some _, some _⟩ => .error .twoBounds
  | ⟨.type, none, some n, none⟩ => .ok (.atLeast n)
  | ⟨.type, none, none, some n⟩ => .ok (.atMost n)
  | ⟨.type, none, none, none⟩ => .ok .type

theorem criterion_rule (c : Criterion) : c.rule.criterion = .ok c := by cases c <;> rfl

theorem rule_of_criterion {r : Rule} {c : Criterion} (h : r.criterion = .ok c) : c.rule = r := by
  obtain ⟨kind, regex, min, max⟩ := r
  cases kind <;> cases regex <;> cases min <;> cases max <;>
    simp [criterion] at h <;> subst h <;> rfl

end Rule

abbrev RuleTable := KeyMap Rule

end ConsumerContract
