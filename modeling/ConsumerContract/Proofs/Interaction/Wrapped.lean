import ConsumerContract.Interaction.Declared
import ConsumerContract.Proofs.Compile.Records

namespace ConsumerContract

namespace Compiling

variable {α β : Type} {rules rules' : RuleTable}

theorem run_bind_eq_ok_iff {x : Compiling α} {k : α → Compiling β} {b : β} :
    (x >>= k).run rules = .ok (b, rules') ↔
      ∃ a mid, x.run rules = .ok (a, mid) ∧ (k a).run mid = .ok (b, rules') := by
  rw [StateT.run_bind]
  cases x.run rules with
  | error f => exact iff_of_false (fun h => nomatch h) (by simp)
  | ok r =>
      constructor
      · intro h
        exact ⟨r.1, r.2, rfl, h⟩
      · rintro ⟨a, mid, hr, h⟩
        cases hr
        exact h

theorem run_pure_eq_ok_iff {a b : α} :
    (pure a : Compiling α).run rules = .ok (b, rules') ↔ a = b ∧ rules = rules' := by
  rw [StateT.run_pure]
  simp [pure, Except.pure]

theorem run_throw_ne_ok {f : Fault} {b : α} :
    (throw f : Compiling α).run rules ≠ .ok (b, rules') :=
  fun h => nomatch h

end Compiling

namespace Tree

def wrappers : Tree → List Criterion
  | .matcher c payload => c :: payload.wrappers
  | _ => []

def unwrapped : Tree → Tree
  | .matcher _ payload => payload.unwrapped
  | t => t

def outermostRule? (t : Tree) : Option Rule := t.wrappers.head?.map Criterion.rule

structure IsText (accepts : String → Bool) (o : Options) (t : Tree) : Prop where
  string : ∃ s, t.unwrapped = .string s
  single : ∀ c ∈ t.wrappers, c.count? = none
  depth : t.wrappers.length ≤ o.maxDepth.toNat
  patterns : o.validatePatterns = true → ∀ p, Criterion.pattern p ∈ t.wrappers → accepts p = true

variable {accepts : String → Bool} {o : Options}

theorem criterionFault?_eq_none_iff {c : Criterion} (hc : c.count? = none) (place : Selector) :
    criterionFault? accepts o place c = none ↔
      (o.validatePatterns = true → ∀ p, c = .pattern p → accepts p = true) := by
  cases c with
  | type => simp [criterionFault?]
  | pattern p => simp [criterionFault?]
  | _ => cases hc

theorem expansion_of_count?_none {c : Criterion} (hc : c.count? = none) (payload : Tree) :
    (matcher c payload).expansion = payload.expansion := by
  rw [expansion, Criterion.expand, hc]

theorem expansion_ne_string_of_count? {c : Criterion} {n : UInt64} (hc : c.count? = some n)
    (payload : Tree) (s : String) : (matcher c payload).expansion ≠ .string s := by
  rw [expansion, Criterion.expand, hc]
  exact Json.noConfusion

theorem firstFault?_wrapped {c : Criterion} (hc : c.count? = none) (place : Selector) (depth : Nat)
    (payload : Tree) :
    firstFault? accepts o place depth (matcher c payload).visits =
      (nodeFault? accepts o place depth (matcher c payload)).or
        (firstFault? accepts o place (depth + 1) payload.visits) := by
  rw [visits, firstFault?_cons_root, firstFault?_map_under,
    Criterion.payloadSteps_of_count?_none hc, Selector.extend_nil]

theorem compiles_to_string_iff {t : Tree} {place : Selector} {s : String} :
    ∀ {depth}, (firstFault? accepts o place depth t.visits = none ∧ t.expansion = .string s) ↔
      t.unwrapped = .string s ∧ (∀ c ∈ t.wrappers, c.count? = none) ∧
        depth + t.wrappers.length ≤ o.maxDepth.toNat ∧
        (o.validatePatterns = true → ∀ p, Criterion.pattern p ∈ t.wrappers → accepts p = true) := by
  -- each wrapper takes a level, so the induction is over every depth
  induction t with
  | string s' =>
      intro depth
      have hleaf : firstFault? accepts o place depth (string s').visits = none ↔
          depth ≤ o.maxDepth.toNat := by
        rw [visits, firstFault?_cons_root, Option.or_eq_none_iff, nodeFault?_eq_none_iff]
        simp [ownFault?, firstFault?]
      simp [hleaf, expansion, unwrapped, wrappers, and_comm]
  | matcher c payload ih =>
      intro depth
      cases hc : c.count? with
      | none =>
          rw [firstFault?_wrapped hc, expansion_of_count?_none hc, Option.or_eq_none_iff,
            nodeFault?_eq_none_iff, ownFault?, criterionFault?_eq_none_iff hc, and_assoc, ih]
          simp only [unwrapped, wrappers, List.mem_cons, List.length_cons]
          constructor
          · rintro ⟨⟨-, hown⟩, hstring, hsingle, hdepth, hpatterns⟩
            refine ⟨hstring, ?_, by omega, ?_⟩
            · rintro c' (rfl | hc')
              · exact hc
              · exact hsingle c' hc'
            · rintro hcheck p (hp | hp)
              · exact hown hcheck p hp.symm
              · exact hpatterns hcheck p hp
          · rintro ⟨hstring, hsingle, hdepth, hpatterns⟩
            refine ⟨⟨by omega, ?_⟩, hstring, fun c' hc' => hsingle c' (Or.inr hc'), by omega, ?_⟩
            · exact fun hcheck p hp => hpatterns hcheck p (Or.inl hp.symm)
            · exact fun hcheck p hp => hpatterns hcheck p (Or.inr hp)
      | some n =>
          have hne := expansion_ne_string_of_count? hc payload s
          simp [hne, wrappers, hc]
  | _ => simp [expansion, unwrapped]

theorem isText_iff {t : Tree} {place : Selector} :
    t.IsText accepts o ↔
      firstFault? accepts o place 0 t.visits = none ∧ ∃ s, t.expansion = .string s := by
  rw [← exists_and_left]
  simp only [compiles_to_string_iff, Nat.zero_add]
  constructor
  · rintro ⟨⟨s, hs⟩, hsingle, hdepth, hpatterns⟩
    exact ⟨s, hs, hsingle, hdepth, hpatterns⟩
  · rintro ⟨s, hs, hsingle, hdepth, hpatterns⟩
    exact ⟨⟨s, hs⟩, hsingle, hdepth, hpatterns⟩

theorem IsText.recordsAt_placed {t : Tree} (h : t.IsText accepts o) (place : Selector) :
    recordsAt place t.placed = t.wrappers.reverse.map fun c => (place, c.rule) := by
  obtain ⟨⟨s, hs⟩, hsingle, -, -⟩ := h
  induction t with
  | string s' => rfl
  | matcher c payload ih =>
      obtain ⟨hc, hrest⟩ := List.forall_mem_cons.mp hsingle
      rw [recordsAt_matcher, Criterion.payloadSteps_of_count?_none hc, Selector.extend_nil,
        ih hrest hs, wrappers, List.reverse_cons, List.map_append]
      rfl
  | _ => cases hs

theorem IsText.entries_enter_perm {t : Tree} (h : t.IsText accepts o) (place : Selector) :
    ((recordsAt place t.placed).enter .empty).entries.Perm
      (t.outermostRule?.toList.map fun r => (place.text, r)) := by
  rw [h.recordsAt_placed, outermostRule?]
  -- the outermost is entered last, over the others
  cases t.wrappers with
  | nil => exact List.Perm.refl _
  | cons c cs =>
      rw [List.reverse_cons, List.map_append, List.map_singleton, Records.enter_concat]
      refine KeyMap.entries_perm _ (List.nodup_singleton _) ?_
      intro s r
      rw [KeyMap.get?_insert]
      by_cases hs : s = place.text
      · simp [hs, eq_comm]
      · have hinner : ∀ x ∈ cs.reverse.map fun c => (place, c.rule), x.1.text ≠ s := by
          intro x hx
          obtain ⟨c', -, rfl⟩ := List.mem_map.mp hx
          exact Ne.symm hs
        rw [if_neg hs, Records.get?_enter_of_ne hinner]
        simp [hs]

theorem run_compileString_eq_ok_iff {t : Tree} {place : Selector} {refusal : Json → Reason}
    {s : String} {rules rules' : RuleTable} :
    (t.compileString accepts o place refusal).run rules = .ok (s, rules') ↔
      t.IsText accepts o ∧ t.unwrapped = .string s ∧
        (recordsAt place t.placed).enter rules = rules' := by
  have hrun : (t.compileString accepts o place refusal).run rules = .ok (s, rules') ↔
      (firstFault? accepts o place 0 t.visits = none ∧ t.expansion = .string s) ∧
        (recordsAt place t.placed).enter rules = rules' := by
    rw [compileString, Compiling.run_bind_eq_ok_iff]
    simp only [run_compileAt_eq_ok_iff]
    constructor
    · rintro ⟨v, mid, ⟨hfault, hv, hmid⟩, hk⟩
      split at hk
      · obtain ⟨rfl, rfl⟩ := Compiling.run_pure_eq_ok_iff.mp hk
        exact ⟨⟨hfault, hv⟩, hmid⟩
      · exact absurd hk Compiling.run_throw_ne_ok
    · rintro ⟨⟨hfault, hs⟩, hmid⟩
      exact ⟨_, _, ⟨hfault, hs, hmid⟩, rfl⟩
  rw [hrun, ← and_assoc]
  refine and_congr_left fun _ => ?_
  constructor
  · rintro ⟨hfault, hs⟩
    exact ⟨isText_iff.mpr ⟨hfault, s, hs⟩, (compiles_to_string_iff.mp ⟨hfault, hs⟩).1⟩
  · rintro ⟨⟨_, hsingle, hdepth, hpatterns⟩, hs⟩
    exact compiles_to_string_iff.mpr ⟨hs, hsingle, by omega, hpatterns⟩

end Tree

end ConsumerContract
