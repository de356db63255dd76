import ConsumerContract.Proofs.Compile.Rerooted
import ConsumerContract.Proofs.Json.Follow

/-!
The selector of every rule, read back into steps and followed in the compiled document, leads to
copies of what its matcher is compiled to.
-/

namespace ConsumerContract.Tree

open Selector (Step)

def IsEmptyArray : Tree → Prop
  | .matcher c _ => c.count? = some 0
  | _ => False

/-- The way to a place goes through the template of an array that has no items. -/
def PassesEmpty (t : Tree) (steps : List Step) : Prop :=
  ∃ before after u, steps = before ++ .each :: after ∧ t.Stands before u ∧ u.IsEmptyArray

theorem not_passesEmpty_nil (t : Tree) : ¬t.PassesEmpty [] := by
  rintro ⟨before, after, u, hsteps, -, -⟩
  exact List.cons_ne_nil _ _ (List.append_eq_nil_iff.mp hsteps.symm).2

theorem Canonical.part_unique {t : Tree} (ht : t.Canonical) {steps steps' rest rest' : List Step}
    {part part' : Tree} (hpart : (steps, part) ∈ t.parts) (hpart' : (steps', part') ∈ t.parts)
    (h : steps ++ rest = steps' ++ rest') : part = part' ∧ rest = rest' := by
  cases t with
  | array items =>
      obtain ⟨i, u, hi, he⟩ := mem_parts_array.mp hpart
      obtain ⟨j, w, hj, he'⟩ := mem_parts_array.mp hpart'
      cases he
      cases he'
      obtain ⟨hstep, hrest⟩ := List.cons.inj h
      cases hstep
      exact ⟨Option.some.inj (hi.symm.trans hj), hrest⟩
  | object entries =>
      obtain ⟨k, u, hk, he⟩ := mem_parts_object.mp hpart
      obtain ⟨l, w, hl, he'⟩ := mem_parts_object.mp hpart'
      cases he
      cases he'
      obtain ⟨hstep, hrest⟩ := List.cons.inj h
      cases hstep
      have hascending := ((everyObject_object _).mp ht).1
      have hu := Entries.get?_of_mem hascending hk
      have hw := Entries.get?_of_mem hascending hl
      exact ⟨Option.some.inj (hu.symm.trans hw), hrest⟩
  | matcher c payload =>
      cases mem_parts_matcher.mp hpart
      cases mem_parts_matcher.mp hpart'
      exact ⟨rfl, List.append_cancel_left h⟩
  | _ => exact absurd hpart List.not_mem_nil

theorem Canonical.passesEmpty_append_iff {t : Tree} (ht : t.Canonical) {steps rest : List Step}
    {part : Tree} (hpart : (steps, part) ∈ t.parts) :
    t.PassesEmpty (steps ++ rest) ↔ t.IsEmptyArray ∨ part.PassesEmpty rest := by
  constructor
  · rintro ⟨before, after, u, hsteps, hstands, hu⟩
    cases hstands with
    | here => exact Or.inl hu
    | @inside _ part' _ steps' rest' _ hpart' hall h =>
        rw [hall, List.append_assoc] at hsteps
        obtain ⟨rfl, hrest⟩ := ht.part_unique hpart hpart' hsteps
        exact Or.inr ⟨rest', after, u, hrest, h, hu⟩
  · rintro (hempty | ⟨before, after, u, rfl, hstands, hu⟩)
    · cases t with
      | matcher c payload =>
          cases mem_parts_matcher.mp hpart
          refine ⟨[], rest, _, ?_, .here _, hempty⟩
          rw [Criterion.payloadSteps_of_count? hempty]
          rfl
      | _ => exact absurd hempty id
    · exact ⟨steps ++ before, after, u, (List.append_assoc _ _ _).symm, .inside hpart rfl hstands,
        hu⟩

theorem get?_expandEntries {k : String} {t : Tree} {entries : List (String × Tree)}
    (h : Entries.Ascending entries) (hk : (k, t) ∈ entries) :
    Entries.get? k (expandEntries entries) = some t.expansion := by
  rw [expandEntries_eq_map]
  refine Entries.get?_of_mem ?_ (List.mem_map_of_mem hk)
  exact List.pairwise_map.mpr h

theorem follow?_expansion {t u : Tree} {steps : List Step} (h : t.Stands steps u) :
    t.Canonical → ∃ n, t.expansion.follow? steps = some (List.replicate n u.expansion) ∧
      (n = 0 ↔ t.PassesEmpty steps) := by
  induction h with
  | here t => exact fun _ => ⟨1, rfl, by simp [not_passesEmpty_nil]⟩
  | @inside t part u steps rest all hpart hall _ ih =>
      intro ht
      subst hall
      obtain ⟨n, hfollow, hn⟩ := ih (ht.of_part hpart)
      rw [ht.passesEmpty_append_iff hpart, ← hn]
      cases t with
      | array items =>
          obtain ⟨i, t, hi, he⟩ := mem_parts_array.mp hpart
          cases he
          refine ⟨n, ?_, (or_iff_right id).symm⟩
          rw [expansion, expandItems_eq_map, List.singleton_append, Json.follow?, List.getElem?_map,
            hi]
          exact hfollow
      | object entries =>
          obtain ⟨k, t, hk, he⟩ := mem_parts_object.mp hpart
          cases he
          refine ⟨n, ?_, (or_iff_right id).symm⟩
          rw [expansion, List.singleton_append, Json.follow?,
            get?_expandEntries ((everyObject_object _).mp ht).1 hk]
          exact hfollow
      | matcher c payload =>
          cases mem_parts_matcher.mp hpart
          rw [expansion, Criterion.expand, IsEmptyArray]
          cases hc : c.count? with
          | none =>
              refine ⟨n, ?_, by simp⟩
              rw [Criterion.payloadSteps_of_count?_none hc, List.nil_append]
              exact hfollow
          | some m =>
              -- each of the copies leads to as many values as the template does
              refine ⟨m.toNat * n, ?_, ?_⟩
              · rw [Criterion.payloadSteps_of_count? hc, List.singleton_append]
                exact Json.follow?_each_replicate hfollow m.toNat
              · rw [Nat.mul_eq_zero, Option.some_inj, ← UInt64.toNat_inj]
                rfl
      | _ => exact absurd hpart List.not_mem_nil

variable {accepts : String → Bool} {o : Options}

theorem compileAt_of_stands {t u : Tree} {steps : List Step} {b : ContractBody}
    (h : t.compile accepts o = .ok b) (hstands : t.Stands steps u) (place : Selector)
    (rules : RuleTable) :
    (compileAt accepts o place 0 u).run rules =
      .ok (u.expansion, (recordsAt place u.placed).enter rules) := by
  obtain ⟨-, hnone, -⟩ := compile_eq_ok_iff.mp h
  have hvisits := List.findSome?_eq_none_iff.mp hnone
  obtain ⟨depth, hmem⟩ := hstands.mem_visits
  have hfirst : firstFault? accepts o place 0 u.visits = none := by
    refine List.findSome?_eq_none_iff.mpr fun v hv => ?_
    have hle : 0 + v.depth ≤ 0 + (depth + v.depth) := by omega
    exact nodeFault?_eq_none_of_le hle (hvisits _ (hmem v hv))
  rw [compileAt_eq_outcome, hfirst]
  rfl

theorem array_of_bounded_rule {m : Matcher} {n : UInt64}
    (h : m.criterion.rule.min = some n ∨ m.criterion.rule.max = some n) :
    ∃ items, m.tree.expansion = .array items ∧ items.length = n.toNat := by
  obtain ⟨c, payload⟩ := m
  refine ⟨List.replicate n.toNat payload.expansion, ?_, List.length_replicate⟩
  cases c <;> simp only [Criterion.rule, reduceCtorEq, Option.some.injEq, or_false, false_or] at h
  all_goals
    subst h
    rfl

theorem rules_reach_compiled_values (accepts : String → Bool) (o : Options) {t : Tree}
    {b : ContractBody} (ht : t.Canonical) (hkeys : t.HasPlainKeys)
    (h : t.compile accepts o = .ok b) {selector : String} {rule : Rule}
    (hrule : (selector, rule) ∈ b.matchingRules.entries) :
    ∃ steps vs, Selector.Root.body.readSteps? selector = some steps ∧
      b.body.follow? steps = some vs ∧
      (∃ m : Matcher, t.Stands steps m.tree ∧ m.criterion.rule = rule) ∧
      (∀ m : Matcher, t.Stands steps m.tree → ∀ v ∈ vs, ∀ place rules, ∃ rules',
        (compileAt accepts o place 0 m.tree).run rules = .ok (v, rules')) ∧
      (∀ n, rule.min = some n ∨ rule.max = some n →
        ∀ v ∈ vs, ∃ items, v = .array items ∧ items.length = n.toNat) ∧
      (vs = [] ↔ t.PassesEmpty steps) := by
  have href := eq_of_compile h
  subst href
  obtain ⟨before, p, after, hsplit, rfl, rfl, -⟩ :=
    (get?_enter_recordsAt_eq_some_iff _ _ _).mp ((KeyMap.mem_entries_iff _ _ _).mp hrule)
  have hp : p ∈ t.placed := by
    rw [hsplit]
    exact List.mem_append_right _ List.mem_cons_self
  have hstands := stands_of_mem_placed hp
  obtain ⟨n, hfollow, hn⟩ := follow?_expansion hstands ht
  -- matchers that are nested at the place have one expansion, unless nothing is reached at all
  have hvalues : ∀ m : Matcher, t.Stands p.steps m.tree →
      ∀ v ∈ List.replicate n p.matcher.tree.expansion, v = m.tree.expansion := by
    intro m hm v hv
    obtain ⟨n', hfollow', hn'⟩ := follow?_expansion hm ht
    rw [hfollow] at hfollow'
    rw [Option.some.inj hfollow'] at hv
    exact List.eq_of_mem_replicate hv
  refine ⟨p.steps, _, ?_, hfollow, ⟨p.matcher, hstands, rfl⟩, ?_, ?_, ?_⟩
  · exact Selector.Root.body.readSteps?_text_extend (hkeys.isPlain_of_stands hstands)
  · intro m hm v hv place rules
    rw [hvalues m hm v hv]
    exact ⟨_, compileAt_of_stands h hm place rules⟩
  · intro k hk v hv
    rw [hvalues p.matcher hstands v hv]
    exact array_of_bounded_rule hk
  · rw [List.replicate_eq_nil_iff]
    exact hn

def rowsOfCells : Tree :=
  .object [("rows", arrayMinLike 3 (.object [("cells", arrayMaxLike 2 (like .null))]))]

theorem cells_reached :
    rowsOfCells.Canonical ∧ rowsOfCells.HasPlainKeys ∧
      ∃ b, rowsOfCells.compile (fun _ => true) {} = .ok b ∧
        ("$.body.rows[*].cells", { kind := .type, max := some 2 }) ∈ b.matchingRules.entries ∧
        ∃ vs, b.body.follow? [.key "rows", .each, .key "cells"] = some vs ∧
          ∀ v ∈ vs, ∃ items, v = .array items ∧ items.length = 2 := by
  have ht : rowsOfCells.Canonical := by decide
  have hkeys : rowsOfCells.HasPlainKeys := by decide
  obtain ⟨b, hb, hrule⟩ : ∃ b, rowsOfCells.compile (fun _ => true) {} = .ok b ∧
      ("$.body.rows[*].cells", { kind := .type, max := some 2 }) ∈ b.matchingRules.entries :=
    ⟨_, rfl, by decide⟩
  obtain ⟨steps, vs, hread, hfollow, -, -, hbound, -⟩ :=
    rules_reach_compiled_values (fun _ => true) {} ht hkeys hb hrule
  have hsteps : Selector.Root.body.readSteps? "$.body.rows[*].cells" =
      some [.key "rows", .each, .key "cells"] := by decide
  cases hread.symm.trans hsteps
  exact ⟨ht, hkeys, b, hb, hrule, vs, hfollow, hbound 2 (Or.inr rfl)⟩

end ConsumerContract.Tree
