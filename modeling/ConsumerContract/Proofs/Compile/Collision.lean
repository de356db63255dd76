import ConsumerContract.Proofs.Compile.Reference
import ConsumerContract.Proofs.List
import ConsumerContract.Proofs.Selector.Segments

/-!
The rule of a matcher is lost to a matcher at another place only if the two places are written
alike. This takes a key that is empty or holds a point or an opening bracket, below where the places
part.
-/

namespace ConsumerContract

namespace Records

theorem length_entries_enter_empty (records : Records) :
    (records.enter .empty).entries.length = (records.map fun x => x.1.text).toFinset.card := by
  have hkeys : ((records.enter .empty).entries.map Prod.fst).toFinset =
      (records.map fun x => x.1.text).toFinset := by
    ext s
    rw [List.mem_toFinset, List.mem_toFinset, ← exists_get?_enter_empty_iff, List.mem_map]
    constructor
    · rintro ⟨e, he, rfl⟩
      exact ⟨e.2, (KeyMap.mem_entries_iff _ _ _).mp he⟩
    · rintro ⟨r, hr⟩
      exact ⟨(s, r), (KeyMap.mem_entries_iff _ _ _).mpr hr, rfl⟩
  rw [← hkeys, List.toFinset_card_of_nodup (Entries.nodup_keys (KeyMap.ascending _)),
    List.length_map]

end Records

namespace Tree

theorem card_selectors_eq_iff (ps : List Placed) :
    (ps.map fun p => p.selector.text).toFinset.card = (ps.map Placed.steps).toFinset.card ↔
      ∀ p ∈ ps, ∀ q ∈ ps, p.selector.text = q.selector.text → p.steps = q.steps := by
  have hmap : (ps.map fun p => p.selector.text) =
      (ps.map Placed.steps).map fun steps => (Selector.body.extend steps).text := by
    rw [List.map_map]
    rfl
  rw [hmap, List.card_map_toFinset_eq_iff]
  simp only [List.forall_mem_map]
  rfl

theorem text_ne_of_plain_parting {p q : Placed} {shared rest rest' : List Selector.Step}
    (hp : p.steps = shared ++ rest) (hq : q.steps = shared ++ rest') (hne : rest ≠ rest')
    (hrest : ∀ s ∈ rest, s.IsPlain) (hrest' : ∀ s ∈ rest', s.IsPlain) :
    p.selector.text ≠ q.selector.text := by
  intro h
  rw [Placed.selector, Placed.selector, Selector.text_extend_eq_iff, hp, hq,
    Selector.stepChars_append, Selector.stepChars_append, List.append_cancel_left_eq] at h
  exact hne (Selector.eq_of_stepChars_eq hrest hrest' h)

theorem rules_lost_only_by_selectors_written_alike (accepts : String → Bool) (o : Options)
    {t : Tree} {b : ContractBody} (h : t.compile accepts o = .ok b) :
    b.matchingRules.entries.length = (t.placed.map fun p => p.selector.text).toFinset.card ∧
      (b.matchingRules.entries.length = (t.placed.map Placed.steps).toFinset.card ↔
        ∀ p ∈ t.placed, ∀ q ∈ t.placed, p.selector.text = q.selector.text → p.steps = q.steps) ∧
      (∀ p ∈ t.placed, ∀ q ∈ t.placed, p.selector.text = q.selector.text ↔
        p.steps.flatMap Selector.Step.segments = q.steps.flatMap Selector.Step.segments) ∧
      (∀ p ∈ t.placed, ∀ q ∈ t.placed, ∀ shared rest rest',
        p.steps = shared ++ rest → q.steps = shared ++ rest' → rest ≠ rest' →
          (∀ s ∈ rest, s.IsPlain) → (∀ s ∈ rest', s.IsPlain) →
            p.selector.text ≠ q.selector.text) ∧
      (t.HasPlainKeys →
        b.matchingRules.entries.length = (t.placed.map Placed.steps).toFinset.card) := by
  cases eq_of_compile h
  have hlength : ((recordsAt .body t.placed).enter .empty).entries.length =
      (t.placed.map fun p => p.selector.text).toFinset.card := by
    rw [Records.length_entries_enter_empty, recordsAt_body, List.map_map]
    rfl
  have hpositions := card_selectors_eq_iff t.placed
  rw [← hlength] at hpositions
  refine ⟨hlength, hpositions, ?_, ?_, ?_⟩
  · intro p _ q _
    exact (Selector.text_extend_eq_iff _ _ _).trans (Selector.stepChars_eq_iff _ _)
  · intro p _ q _ shared rest rest' hp hq hne hrest hrest'
    exact text_ne_of_plain_parting hp hq hne hrest hrest'
  · intro hplain
    refine hpositions.mpr fun p hp q hq htext => ?_
    by_contra hne
    exact text_ne_of_plain_parting (List.nil_append _).symm (List.nil_append _).symm hne
      (hplain.isPlain_of_stands (stands_of_mem_placed hp))
      (hplain.isPlain_of_stands (stands_of_mem_placed hq)) htext

def plainlyKeyed : Tree :=
  .object [("a", like (term "x" .null)), ("b", arrayMinLike 2 (like .null))]

theorem length_rules_plainlyKeyed :
    plainlyKeyed.HasPlainKeys ∧ ∃ b, plainlyKeyed.compile (fun _ => true) {} = .ok b ∧
      b.matchingRules.entries.length = 3 := by
  have hkeys : plainlyKeyed.HasPlainKeys := by decide
  refine ⟨hkeys, _, rfl, ?_⟩
  have h := rules_lost_only_by_selectors_written_alike (fun _ => true) {}
    (rfl : plainlyKeyed.compile (fun _ => true) {} = .ok _)
  exact (h.2.2.2.2 hkeys).trans (by decide)

def dottedKey : Tree :=
  .object [("a", .object [("b", like .null)]), ("a.b", term "x" .null)]

def bracketedKey : Tree := .object [("a", .array [like .null]), ("a[0]", term "x" .null)]

def emptyKey : Tree := .object [("a", term "x" (.object [("", like .null)]))]

def LosesRule (t : Tree) : Prop :=
  t.Canonical ∧ ∃ b, t.compile (fun _ => true) {} = .ok b ∧
    b.matchingRules.entries.length < (t.placed.map Placed.steps).toFinset.card ∧
    ∃ p ∈ t.placed, ∃ q ∈ t.placed, p.steps ≠ q.steps ∧ p.selector.text = q.selector.text

theorem rule_lost_to_unplain_key :
    LosesRule dottedKey ∧ LosesRule bracketedKey ∧ LosesRule emptyKey := by
  refine ⟨?_, ?_, ?_⟩
  all_goals
    refine ⟨by decide, _, rfl, by decide, _, List.mem_cons_self, _,
      List.mem_cons_of_mem _ List.mem_cons_self, ?_⟩
    decide

end Tree

end ConsumerContract
