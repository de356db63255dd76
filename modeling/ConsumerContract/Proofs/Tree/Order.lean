import ConsumerContract.Proofs.Tree.Stands
import Mathlib.Data.List.Lex

namespace ConsumerContract

open Selector (Step)

def Selector.Step.Before : Step → Step → Prop
  | .key a, .key b => a < b
  | .index i, .index j => i < j
  | _, _ => False

def Visit.Before (v w : Visit) : Prop :=
  List.Lex Step.Before v.steps w.steps ∨ v.steps = w.steps ∧ v.depth < w.depth

inductive Selector.LeftBefore : List Step → List Step → Prop where
  | lower (s : Step) (rest : List Step) : LeftBefore (s :: rest) []
  | parting {s s' : Step} (h : s.Before s') (rest rest' : List Step) :
      LeftBefore (s :: rest) (s' :: rest')
  | shared (s : Step) {rest rest' : List Step} (h : LeftBefore rest rest') :
      LeftBefore (s :: rest) (s :: rest')

/-- Of matchers at one place, the innermost is left first. -/
def Placed.Before (p q : Placed) : Prop :=
  Selector.LeftBefore p.steps q.steps ∨ p.steps = q.steps ∧ q.depth < p.depth

theorem Selector.Step.not_before_self (s : Step) : ¬s.Before s := by
  cases s with
  | key k => exact String.lt_irrefl k
  | index i => exact Nat.lt_irrefl i
  | each => exact id

theorem Selector.items_pairwise_before {α : Type} (items : List α) :
    (items.zipIdx.map fun e => ([Step.index e.2], e.1)).Pairwise fun a b =>
      ∃ s s' : Step, a.1 = [s] ∧ b.1 = [s'] ∧ s.Before s' := by
  have h : (items.zipIdx.map Prod.snd).Pairwise (· < ·) := by
    rw [List.zipIdx_map_snd]
    exact List.pairwise_lt_range'
  refine List.pairwise_map.mpr ((List.pairwise_map.mp h).imp ?_)
  intro a b hab
  exact ⟨_, _, rfl, rfl, hab⟩

theorem Selector.entries_pairwise_before {α : Type} {entries : List (String × α)}
    (h : Entries.Ascending entries) :
    (entries.map fun e => ([Step.key e.1], e.2)).Pairwise fun a b =>
      ∃ s s' : Step, a.1 = [s] ∧ b.1 = [s'] ∧ s.Before s' := by
  refine List.pairwise_map.mpr (h.imp ?_)
  intro a b hab
  exact ⟨_, _, rfl, rfl, hab⟩

theorem Selector.LeftBefore.append_left {a b : List Step} (h : LeftBefore a b) (steps : List Step) :
    LeftBefore (steps ++ a) (steps ++ b) := by
  induction steps with
  | nil => exact h
  | cons s rest ih => exact .shared s ih

theorem Selector.LeftBefore.irrefl : ∀ {steps : List Step}, ¬LeftBefore steps steps := by
  intro steps
  induction steps with
  | nil => intro h; cases h
  | cons s rest ih =>
      intro h
      cases h with
      | parting h => exact Step.not_before_self s h
      | shared _ h => exact ih h

theorem Visit.Before.under {v w : Visit} (h : v.Before w) (steps : List Step) :
    (v.under steps).Before (w.under steps) := by
  rcases h with h | ⟨hsteps, hdepth⟩
  · exact Or.inl (List.Lex.append_left _ h steps)
  · exact Or.inr ⟨congrArg (steps ++ ·) hsteps, Nat.succ_lt_succ hdepth⟩

theorem Placed.Before.under {p q : Placed} (h : p.Before q) (steps : List Step) :
    (p.under steps).Before (q.under steps) := by
  rcases h with h | ⟨hsteps, hdepth⟩
  · exact Or.inl (h.append_left steps)
  · exact Or.inr ⟨congrArg (steps ++ ·) hsteps, Nat.succ_lt_succ hdepth⟩

namespace Tree

theorem Canonical.parts_pairwise {t : Tree} (ht : t.Canonical) :
    t.parts.Pairwise fun a b => ∃ s s' : Step, a.1 = [s] ∧ b.1 = [s'] ∧ s.Before s' := by
  cases t with
  | array items => exact Selector.items_pairwise_before items
  | object entries => exact Selector.entries_pairwise_before ((everyObject_object _).mp ht).1
  | matcher c payload => exact List.pairwise_singleton _ _
  | _ => exact List.Pairwise.nil

theorem Canonical.of_part {t : Tree} {e : List Step × Tree} (ht : t.Canonical) (he : e ∈ t.parts) :
    e.2.Canonical :=
  EveryObject.of_part he ht

theorem visits_pairwise_before {t : Tree} (ht : t.Canonical) : t.visits.Pairwise Visit.Before := by
  induction t using part_induction with
  | h t ih =>
      rw [visits_eq_parts, List.pairwise_cons, List.pairwise_flatMap]
      refine ⟨?_, ?_, ht.parts_pairwise.imp ?_⟩
      · intro v hv
        obtain ⟨e, -, hv⟩ := List.mem_flatMap.mp hv
        obtain ⟨w, -, rfl⟩ := List.mem_map.mp hv
        -- the steps of a payload can be none, so the depth has to tell it from its matcher
        cases hsteps : (w.under e.1).steps with
        | nil => exact Or.inr ⟨hsteps.symm, Nat.succ_pos _⟩
        | cons s rest => exact Or.inl (hsteps ▸ List.Lex.nil)
      · intro e he
        exact List.pairwise_map.mpr ((ih e he (ht.of_part he)).imp fun h => h.under e.1)
      · rintro a b ⟨s, s', ha, hb, h⟩ v hv w hw
        obtain ⟨v, -, rfl⟩ := List.mem_map.mp hv
        obtain ⟨w, -, rfl⟩ := List.mem_map.mp hw
        left
        rw [Visit.under, Visit.under, ha, hb]
        exact List.Lex.rel h

theorem placed_pairwise_before {t : Tree} (ht : t.Canonical) :
    t.placed.Pairwise Placed.Before := by
  induction t using part_induction with
  | h t ih =>
      rw [placed_eq_parts, List.pairwise_append, List.pairwise_flatMap]
      refine ⟨⟨?_, ht.parts_pairwise.imp ?_⟩, ?_, ?_⟩
      · intro e he
        exact List.pairwise_map.mpr ((ih e he (ht.of_part he)).imp fun h => h.under e.1)
      · rintro a b ⟨s, s', ha, hb, h⟩ p hp q hq
        obtain ⟨p, -, rfl⟩ := List.mem_map.mp hp
        obtain ⟨q, -, rfl⟩ := List.mem_map.mp hq
        left
        rw [Placed.under, Placed.under, ha, hb]
        exact .parting h _ _
      · cases t with
        | matcher c payload => exact List.pairwise_singleton _ _
        | _ => exact List.Pairwise.nil
      · intro p hp q hq
        obtain ⟨e, -, hp⟩ := List.mem_flatMap.mp hp
        obtain ⟨p, -, rfl⟩ := List.mem_map.mp hp
        obtain ⟨hsteps, hdepth, -⟩ := mem_ownPlaced.mp hq
        cases hp : (p.under e.1).steps with
        | nil => exact Or.inr ⟨hp.trans hsteps.symm, by rw [hdepth]; exact Nat.succ_pos _⟩
        | cons s rest =>
            left
            rw [hp, hsteps]
            exact .lower s rest

theorem outermost_of_last {t : Tree} (ht : t.Canonical) {before after : List Placed} {p : Placed}
    (hsplit : t.placed = before ++ p :: after) (hlast : ∀ q ∈ after, q.steps ≠ p.steps) :
    ∀ q ∈ t.placed, q.steps = p.steps → p.depth ≤ q.depth := by
  intro q hq hsteps
  have horder := placed_pairwise_before ht
  rw [hsplit, List.pairwise_append] at horder
  rw [hsplit, List.mem_append, List.mem_cons] at hq
  rcases hq with hq | rfl | hq
  -- what is left earlier at the same place lies deeper
  · rcases horder.2.2 q hq p List.mem_cons_self with h | ⟨-, h⟩
    · exact absurd (hsteps ▸ h) Selector.LeftBefore.irrefl
    · exact Nat.le_of_lt h
  · exact Nat.le_refl _
  · exact absurd hsteps (hlast q hq)

end Tree

end ConsumerContract
