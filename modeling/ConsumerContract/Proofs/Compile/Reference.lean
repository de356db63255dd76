import ConsumerContract.Proofs.Compile.Records
import ConsumerContract.Proofs.Tree.Order

/-!
What a compiled body holds, said without the options: the expansion of the tree, and under each
selector the rule of the last matcher, in the order in which matchers are left, whose place is
written so.
-/

namespace ConsumerContract

def Placed.selector (p : Placed) : Selector := Selector.body.extend p.steps

def Placed.rule (p : Placed) : Rule := p.matcher.criterion.rule

namespace Tree

theorem recordsAt_body (ps : List Placed) :
    recordsAt .body ps = ps.map fun p => (p.selector, p.rule) := rfl

theorem get?_enter_recordsAt_eq_some_iff (ps : List Placed) (s : String) (r : Rule) :
    ((recordsAt .body ps).enter .empty).get? s = some r ↔
      ∃ before p after, ps = before ++ p :: after ∧ p.selector.text = s ∧ p.rule = r ∧
        ∀ q ∈ after, q.selector.text ≠ s := by
  rw [Records.get?_enter_empty_eq_some_iff, recordsAt_body]
  constructor
  · rintro ⟨before, x, after, hsplit, hs, hr, hafter⟩
    obtain ⟨before, rest, rfl, rfl, hrest⟩ := List.map_eq_append_iff.mp hsplit
    obtain ⟨p, after, rfl, rfl, rfl⟩ := List.map_eq_cons_iff.mp hrest
    exact ⟨before, p, after, rfl, hs, hr, fun q hq => hafter _ (List.mem_map_of_mem hq)⟩
  · rintro ⟨before, p, after, rfl, hs, hr, hafter⟩
    refine ⟨before.map _, (p.selector, p.rule), after.map _, List.map_append, hs, hr, ?_⟩
    intro y hy
    obtain ⟨q, hq, rfl⟩ := List.mem_map.mp hy
    exact hafter q hq

variable {accepts : String → Bool} {o : Options}

theorem eq_of_compile {t : Tree} {b : ContractBody} (h : t.compile accepts o = .ok b) :
    b = ⟨t.expansion, (recordsAt .body t.placed).enter .empty⟩ :=
  (compile_eq_ok_iff.mp h).2.2.symm

theorem compile_eq_reference (accepts : String → Bool) (o : Options) {t : Tree} {b : ContractBody}
    (ht : t.Canonical) (h : t.compile accepts o = .ok b) :
    b.body = t.expansion ∧
      t.placed.Pairwise Placed.Before ∧
      (∀ s r, b.ruleAt? s = some r ↔
        ∃ before p after, t.placed = before ++ p :: after ∧ p.selector.text = s ∧ p.rule = r ∧
          ∀ q ∈ after, q.selector.text ≠ s) ∧
      ∀ s r, b.ruleAt? s = some r →
        ∃ p ∈ t.placed, p.selector.text = s ∧ p.rule = r ∧
          ∀ q ∈ t.placed, q.steps = p.steps → p.depth ≤ q.depth := by
  cases eq_of_compile h
  have hrules := get?_enter_recordsAt_eq_some_iff t.placed
  refine ⟨rfl, placed_pairwise_before ht, hrules, ?_⟩
  intro s r hr
  obtain ⟨before, p, after, hsplit, hs, hp, hafter⟩ := (hrules s r).mp hr
  have hmem : p ∈ t.placed := by
    rw [hsplit]
    exact List.mem_append_right _ List.mem_cons_self
  refine ⟨p, hmem, hs, hp, outermost_of_last ht hsplit ?_⟩
  intro q hq hsteps
  have hselector : q.selector = p.selector := congrArg Selector.body.extend hsteps
  exact hafter q hq (hselector ▸ hs)

def contested : Tree :=
  .object [("a", .object [("b", term "x" (like .null)), ("c", term "x" (like .null))]),
    ("a.b", arrayMinLike 2 (like (.bool true)))]

theorem compile_contested :
    contested.Canonical ∧ ∃ b, contested.compile (fun _ => true) {} = .ok b ∧
      b.body = .object [("a", .object [("b", .null), ("c", .null)]),
        ("a.b", .array [.bool true, .bool true])] ∧
      b.ruleAt? "$.body.a.b" = some { kind := .type, min := some 2 } ∧
      b.ruleAt? "$.body.a.c" = some { kind := .regex, regex := some "x" } := by
  have ht : contested.Canonical := by decide
  refine ⟨ht, _, rfl, ?_⟩
  have h := compile_eq_reference (fun _ => true) {} ht rfl
  refine ⟨h.1, (h.2.2.1 _ _).mpr ?_, (h.2.2.1 _ _).mpr ?_⟩
  · refine ⟨contested.placed.take 5, ⟨[.key "a.b"], 1, .atLeast 2, like (.bool true)⟩, [], rfl, rfl,
      rfl, ?_⟩
    exact fun q hq => absurd hq List.not_mem_nil
  · refine ⟨contested.placed.take 3, ⟨[.key "a", .key "c"], 2, .pattern "x", like .null⟩,
      contested.placed.drop 4, rfl, rfl, rfl, ?_⟩
    decide

end Tree

end ConsumerContract
