import ConsumerContract.Proofs.KeyMap
import ConsumerContract.Proofs.Tree.Order
import ConsumerContract.Tree.Check

namespace ConsumerContract

open Selector (Step)

/-- Which of two checks is the earlier: that of an object that lies around the other, except for the
combination, which waits for what lies within; else that on the way of the earlier step. -/
inductive Check.Before (a b : Check) : Prop where
  | beside {s s' : Step} (shared rest rest' : List Step) (ha : a.steps = shared ++ s :: rest)
      (hb : b.steps = shared ++ s' :: rest') (h : s.Before s') : Before a b
  | around (hsteps : a.steps <+: b.steps) (hdepth : a.depth < b.depth)
      (h : a.aspect ≠ .combination) : Before a b
  | within (hsteps : b.steps <+: a.steps) (hdepth : b.depth < a.depth)
      (h : b.aspect = .combination) : Before a b
  | same (hsteps : a.steps = b.steps) (hdepth : a.depth = b.depth)
      (h : [a.aspect, b.aspect].Sublist Check.Aspect.all) : Before a b

theorem Check.Before.under {a b : Check} (h : a.Before b) (steps : List Step) :
    (a.under steps).Before (b.under steps) := by
  cases h with
  | beside shared rest rest' ha hb h =>
      refine .beside (steps ++ shared) rest rest' ?_ ?_ h
      · rw [Check.under, ha, List.append_assoc]
      · rw [Check.under, hb, List.append_assoc]
  | around hsteps hdepth h =>
      exact .around ((List.prefix_append_right_inj steps).mpr hsteps) (Nat.succ_lt_succ hdepth) h
  | within hsteps hdepth h =>
      exact .within ((List.prefix_append_right_inj steps).mpr hsteps) (Nat.succ_lt_succ hdepth) h
  | same hsteps hdepth h =>
      exact .same (congrArg (steps ++ ·) hsteps) (congrArg Nat.succ hdepth) h

namespace Json

def ownChecks (aspects : List Check.Aspect) : Json → List Check
  | .object entries =>
      match Entries.get? matcherKey entries with
      | none => []
      | some _ => aspects.map fun aspect => ⟨[], 0, entries, aspect⟩
  | _ => []

theorem checks_eq_entered (v : Json) :
    v.checks = v.ownChecks Check.Aspect.beforePayload ++
      (v.entered.flatMap fun e => e.2.checks.map (Check.under e.1)) ++
      v.ownChecks [.combination] := by
  cases v with
  | array items =>
      rw [checks, checkItems_eq_flatMap, entered, List.flatMap_map]
      exact (List.append_nil _).symm
  | object entries =>
      cases hmarked : Entries.get? matcherKey entries with
      | none =>
          simp only [checks, ownChecks, entered, hmarked, checkEntries_eq_flatMap, List.flatMap_map]
          exact (List.append_nil _).symm
      | some marked =>
          simp only [checks, ownChecks, entered, hmarked, checkValue_eq]
          cases Entries.get? "value" entries with
          | none => rfl
          | some v => simp
  | _ => rfl

theorem mem_ownChecks {aspects : List Check.Aspect} {v : Json} {c : Check} :
    c ∈ v.ownChecks aspects ↔ c.steps = [] ∧ c.depth = 0 ∧ v = .object c.members ∧
      Entries.get? matcherKey c.members ≠ none ∧ c.aspect ∈ aspects := by
  constructor
  · intro hc
    cases v with
    | object entries =>
        rw [ownChecks] at hc
        split at hc
        · exact absurd hc List.not_mem_nil
        · next marked hmarked =>
            obtain ⟨aspect, haspect, rfl⟩ := List.mem_map.mp hc
            exact ⟨rfl, rfl, rfl, by simp [hmarked], haspect⟩
    | _ => exact absurd hc List.not_mem_nil
  · obtain ⟨steps, depth, members, aspect⟩ := c
    rintro ⟨rfl, rfl, rfl, hmarked, haspect⟩
    rw [ownChecks]
    split
    · next hnone => exact absurd hnone hmarked
    · exact List.mem_map_of_mem haspect

theorem entered_induction {motive : Json → Prop}
    (h : ∀ v, (∀ e ∈ v.entered, motive e.2) → motive v) (v : Json) : motive v := by
  induction v with
  | array items ih =>
      refine h _ fun e he => ?_
      obtain ⟨⟨v, i⟩, hi, rfl⟩ := List.mem_map.mp he
      exact ih v (List.fst_mem_of_mem_zipIdx hi)
  | object entries ih =>
      refine h _ fun e he => ?_
      rw [entered] at he
      split at he
      · obtain ⟨e, hmem, rfl⟩ := List.mem_map.mp he
        exact ih e hmem
      · obtain ⟨v, hv, rfl⟩ := List.mem_map.mp he
        exact ih _ (Entries.mem_of_get? (Option.mem_toList.mp hv))
  | _ => exact h _ fun e he => absurd he List.not_mem_nil

theorem reaches_of_mem_checks {v : Json} {c : Check} (hc : c ∈ v.checks) :
    v.Reaches c.steps (.object c.members) ∧ Entries.get? matcherKey c.members ≠ none ∧
      c.aspect ∈ Check.Aspect.all := by
  have hown : ∀ {v : Json} {c : Check} {aspects : List Check.Aspect}, c ∈ v.ownChecks aspects →
      v.Reaches c.steps (.object c.members) ∧ Entries.get? matcherKey c.members ≠ none ∧
        c.aspect ∈ aspects := by
    intro v c aspects hc
    obtain ⟨hsteps, -, rfl, hmarked, haspect⟩ := mem_ownChecks.mp hc
    exact ⟨hsteps ▸ .here _, hmarked, haspect⟩
  induction v using entered_induction generalizing c with
  | h v ih =>
      rw [checks_eq_entered, List.mem_append, List.mem_append] at hc
      rcases hc with (hc | hc) | hc
      · obtain ⟨hreaches, hmarked, haspect⟩ := hown hc
        exact ⟨hreaches, hmarked, List.mem_append_left _ haspect⟩
      · obtain ⟨e, he, hc⟩ := List.mem_flatMap.mp hc
        obtain ⟨d, hd, rfl⟩ := List.mem_map.mp hc
        obtain ⟨hreaches, hmarked, haspect⟩ := ih e he hd
        exact ⟨.inside he rfl hreaches, hmarked, haspect⟩
      · obtain ⟨hreaches, hmarked, haspect⟩ := hown hc
        exact ⟨hreaches, hmarked, List.mem_append_right _ haspect⟩

theorem Reaches.exists_mem_checks {v w : Json} {steps : List Step} (h : v.Reaches steps w)
    {members : Tree.Members} (hw : w = .object members)
    (hmarked : Entries.get? matcherKey members ≠ none) :
    ∃ depth, ∀ aspect ∈ Check.Aspect.all, ⟨steps, depth, members, aspect⟩ ∈ v.checks := by
  induction h with
  | here v =>
      refine ⟨0, fun aspect haspect => ?_⟩
      rw [checks_eq_entered, List.mem_append, List.mem_append]
      rcases List.mem_append.mp haspect with haspect | haspect
      · exact Or.inl (Or.inl (mem_ownChecks.mpr ⟨rfl, rfl, hw, hmarked, haspect⟩))
      · exact Or.inr (mem_ownChecks.mpr ⟨rfl, rfl, hw, hmarked, haspect⟩)
  | @inside v part w steps rest all hpart hall h ih =>
      obtain ⟨depth, hdepth⟩ := ih hw
      refine ⟨depth + 1, fun aspect haspect => ?_⟩
      rw [checks_eq_entered, List.mem_append, List.mem_append]
      refine Or.inl (Or.inr (List.mem_flatMap.mpr ⟨_, hpart, ?_⟩))
      exact List.mem_map.mpr ⟨_, hdepth aspect haspect, by rw [hall]; rfl⟩

theorem Canonical.of_entered {v : Json} (hv : v.Canonical) {e : List Step × Json}
    (he : e ∈ v.entered) : e.2.Canonical := by
  cases v with
  | array items =>
      obtain ⟨⟨w, i⟩, hi, rfl⟩ := List.mem_map.mp he
      exact (canonicalItems_iff _).mp hv w (List.fst_mem_of_mem_zipIdx hi)
  | object entries =>
      rw [entered] at he
      split at he
      · obtain ⟨e, hmem, rfl⟩ := List.mem_map.mp he
        exact (canonicalEntries_iff _).mp hv.2 e hmem
      · obtain ⟨w, hw, rfl⟩ := List.mem_map.mp he
        exact (canonicalEntries_iff _).mp hv.2 _ (Entries.mem_of_get? (Option.mem_toList.mp hw))
  | _ => exact absurd he List.not_mem_nil

theorem Canonical.entered_pairwise {v : Json} (hv : v.Canonical) :
    v.entered.Pairwise fun a b => ∃ s s' : Step, a.1 = [s] ∧ b.1 = [s'] ∧ s.Before s' := by
  cases v with
  | array items => exact Selector.items_pairwise_before items
  | object entries =>
      rw [entered]
      split
      · exact Selector.entries_pairwise_before hv.1
      · -- there is one payload at most
        cases Entries.get? "value" entries with
        | none => exact List.Pairwise.nil
        | some w => exact List.pairwise_singleton _ _
  | _ => exact List.Pairwise.nil

theorem ownChecks_pairwise {aspects : List Check.Aspect}
    (haspects : aspects.Sublist Check.Aspect.all) (v : Json) :
    (v.ownChecks aspects).Pairwise Check.Before := by
  cases v with
  | object entries =>
      rw [ownChecks]
      split
      · exact List.Pairwise.nil
      · have hpairs : aspects.Pairwise fun a b => [a, b].Sublist Check.Aspect.all :=
          List.pairwise_iff_forall_sublist.mpr fun h => h.trans haspects
        exact List.pairwise_map.mpr (hpairs.imp fun h => .same rfl rfl h)
  | _ => exact List.Pairwise.nil

theorem checks_pairwise_before {v : Json} (hv : v.Canonical) : v.checks.Pairwise Check.Before := by
  induction v using entered_induction with
  | h v ih =>
      rw [checks_eq_entered, List.pairwise_append, List.pairwise_append, List.pairwise_flatMap]
      refine ⟨⟨ownChecks_pairwise (by decide) v, ⟨?_, ?_⟩, ?_⟩,
        ownChecks_pairwise (by decide) v, ?_⟩
      · intro e he
        exact List.pairwise_map.mpr ((ih e he (hv.of_entered he)).imp fun h => h.under e.1)
      · refine hv.entered_pairwise.imp ?_
        rintro a b ⟨s, s', ha, hb, h⟩ c hc d hd
        obtain ⟨c, -, rfl⟩ := List.mem_map.mp hc
        obtain ⟨d, -, rfl⟩ := List.mem_map.mp hd
        refine .beside [] c.steps d.steps ?_ ?_ h
        · rw [Check.under, ha]; rfl
        · rw [Check.under, hb]; rfl
      · intro c hc d hd
        obtain ⟨e, -, hd⟩ := List.mem_flatMap.mp hd
        obtain ⟨d, -, rfl⟩ := List.mem_map.mp hd
        obtain ⟨hsteps, hdepth, -, -, haspect⟩ := mem_ownChecks.mp hc
        refine .around (hsteps ▸ List.nil_prefix) (by rw [hdepth]; exact Nat.succ_pos _) ?_
        intro h
        rw [h] at haspect
        exact absurd haspect (by decide)
      -- the combination comes last, after what was entered
      · intro c hc d hd
        obtain ⟨hsteps, hdepth, -, -, haspect⟩ := mem_ownChecks.mp hd
        have hlast := List.mem_singleton.mp haspect
        rcases List.mem_append.mp hc with hc | hc
        · obtain ⟨hsteps', hdepth', -, -, haspect'⟩ := mem_ownChecks.mp hc
          refine .same (hsteps'.trans hsteps.symm) (hdepth'.trans hdepth.symm) ?_
          rw [hlast]
          exact (List.singleton_sublist.mpr haspect').append (List.Sublist.refl [_])
        · obtain ⟨e, -, hc⟩ := List.mem_flatMap.mp hc
          obtain ⟨c, -, rfl⟩ := List.mem_map.mp hc
          exact .within (hsteps ▸ List.nil_prefix) (by rw [hdepth]; exact Nat.succ_pos _) hlast

end Json

end ConsumerContract
