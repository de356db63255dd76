import ConsumerContract.Proofs.Tree.Canonical
import ConsumerContract.Tree.Expansion
import ConsumerContract.Tree.Visit

namespace ConsumerContract.Tree

open Selector (Step)

def parts : Tree → List (List Step × Tree)
  | .array items => items.zipIdx.map fun e => ([.index e.2], e.1)
  | .object entries => entries.map fun e => ([.key e.1], e.2)
  | .matcher c payload => [(c.payloadSteps, payload)]
  | _ => []

theorem mem_parts_array {items : List Tree} {e : List Step × Tree} :
    e ∈ (array items).parts ↔ ∃ i t, items[i]? = some t ∧ e = ([.index i], t) := by
  rw [parts, List.mem_map]
  constructor
  · rintro ⟨⟨t, i⟩, hi, rfl⟩
    exact ⟨i, t, List.mem_zipIdx_iff_getElem?.mp hi, rfl⟩
  · rintro ⟨i, t, hi, rfl⟩
    exact ⟨(t, i), List.mem_zipIdx_iff_getElem?.mpr hi, rfl⟩

theorem mem_parts_object {entries : List (String × Tree)} {e : List Step × Tree} :
    e ∈ (object entries).parts ↔ ∃ k t, (k, t) ∈ entries ∧ e = ([.key k], t) := by
  rw [parts, List.mem_map]
  constructor
  · rintro ⟨⟨k, t⟩, hk, rfl⟩
    exact ⟨k, t, hk, rfl⟩
  · rintro ⟨k, t, hk, rfl⟩
    exact ⟨(k, t), hk, rfl⟩

theorem mem_parts_matcher {c : Criterion} {payload : Tree} {e : List Step × Tree} :
    e ∈ (matcher c payload).parts ↔ e = (c.payloadSteps, payload) := by
  rw [parts, List.mem_singleton]

theorem part_induction {motive : Tree → Prop}
    (h : ∀ t, (∀ e ∈ t.parts, motive e.2) → motive t) (t : Tree) : motive t := by
  induction t with
  | null => exact h _ fun e he => absurd he List.not_mem_nil
  | bool b => exact h _ fun e he => absurd he List.not_mem_nil
  | number n => exact h _ fun e he => absurd he List.not_mem_nil
  | string s => exact h _ fun e he => absurd he List.not_mem_nil
  | array items ih =>
      refine h _ fun e he => ?_
      obtain ⟨i, t, hi, rfl⟩ := mem_parts_array.mp he
      exact ih t (List.mem_of_getElem? hi)
  | object entries ih =>
      refine h _ fun e he => ?_
      obtain ⟨k, t, hk, rfl⟩ := mem_parts_object.mp he
      exact ih (k, t) hk
  | matcher c payload ih =>
      refine h _ fun e he => ?_
      obtain rfl := mem_parts_matcher.mp he
      exact ih

theorem visits_eq_parts (t : Tree) :
    t.visits = ⟨[], 0, t⟩ :: t.parts.flatMap fun e => e.2.visits.map (Visit.under e.1) := by
  cases t with
  | array items => rw [visits, visitItems_eq_flatMap, parts, List.flatMap_map]
  | object entries => rw [visits, visitEntries_eq_flatMap, parts, List.flatMap_map]
  | matcher c payload => rw [visits, parts, List.flatMap_singleton]
  | _ => rfl

def ownPlaced : Tree → List Placed
  | .matcher c payload => [⟨[], 0, ⟨c, payload⟩⟩]
  | _ => []

theorem mem_ownPlaced {t : Tree} {p : Placed} :
    p ∈ t.ownPlaced ↔ p.steps = [] ∧ p.depth = 0 ∧ p.matcher.tree = t := by
  obtain ⟨steps, depth, c, payload⟩ := p
  cases t <;> simp [ownPlaced, Matcher.tree]

theorem placed_eq_parts (t : Tree) :
    t.placed = (t.parts.flatMap fun e => e.2.placed.map (Placed.under e.1)) ++ t.ownPlaced := by
  cases t with
  | array items =>
      rw [placed, placedItems_eq_flatMap, parts, List.flatMap_map]
      exact (List.append_nil _).symm
  | object entries =>
      rw [placed, placedEntries_eq_flatMap, parts, List.flatMap_map]
      exact (List.append_nil _).symm
  | matcher c payload => rw [placed, parts, List.flatMap_singleton, ownPlaced]
  | _ => rfl

theorem mem_visits {t : Tree} {v : Visit} :
    v ∈ t.visits ↔ v = ⟨[], 0, t⟩ ∨ ∃ e ∈ t.parts, ∃ w ∈ e.2.visits, v = w.under e.1 := by
  rw [visits_eq_parts, List.mem_cons, List.mem_flatMap]
  simp only [List.mem_map, eq_comm]

theorem mem_placed {t : Tree} {p : Placed} :
    p ∈ t.placed ↔
      (∃ e ∈ t.parts, ∃ q ∈ e.2.placed, p = q.under e.1) ∨
        p.steps = [] ∧ p.depth = 0 ∧ p.matcher.tree = t := by
  rw [placed_eq_parts, List.mem_append, List.mem_flatMap, mem_ownPlaced]
  refine or_congr ?_ Iff.rfl
  simp only [List.mem_map, eq_comm]

/-- Matchers that are nested without a step between them stand at one place. -/
inductive Stands : Tree → List Step → Tree → Prop where
  | here (t : Tree) : Stands t [] t
  | inside {t part u : Tree} {steps rest all : List Step} (hpart : (steps, part) ∈ t.parts)
      (hall : all = steps ++ rest) (h : Stands part rest u) : Stands t all u

theorem EveryObject.of_part {P : List (String × Tree) → Prop} {t : Tree} {e : List Step × Tree}
    (he : e ∈ t.parts) (ht : t.EveryObject P) : e.2.EveryObject P := by
  cases t with
  | array items =>
      obtain ⟨i, t, hi, rfl⟩ := mem_parts_array.mp he
      exact (everyObject_array _).mp ht _ (List.mem_of_getElem? hi)
  | object entries =>
      obtain ⟨k, t, hk, rfl⟩ := mem_parts_object.mp he
      exact ((everyObject_object _).mp ht).2 _ hk
  | matcher c payload =>
      obtain rfl := mem_parts_matcher.mp he
      exact (everyObject_matcher _ _).mp ht
  | _ => exact absurd he List.not_mem_nil

theorem Stands.mem_visits {t u : Tree} {steps : List Step} (h : t.Stands steps u) :
    ∃ depth, ∀ v ∈ u.visits, ⟨steps ++ v.steps, depth + v.depth, v.node⟩ ∈ t.visits := by
  induction h with
  | here t =>
      refine ⟨0, fun v hv => ?_⟩
      simpa using hv
  | @inside t part u steps rest all hpart hall _ ih =>
      obtain ⟨depth, ih⟩ := ih
      refine ⟨depth + 1, fun v hv => ?_⟩
      refine Tree.mem_visits.mpr (Or.inr ⟨_, hpart, _, ih v hv, ?_⟩)
      simp only [Visit.under, hall, List.append_assoc, Visit.mk.injEq, true_and, and_true]
      omega

theorem stands_of_mem_placed {t : Tree} :
    ∀ {p : Placed}, p ∈ t.placed → t.Stands p.steps p.matcher.tree := by
  induction t using part_induction with
  | h t ih =>
      intro p hp
      rcases mem_placed.mp hp with ⟨e, he, q, hq, rfl⟩ | ⟨hsteps, -, rfl⟩
      · exact .inside he rfl (ih e he hq)
      · rw [hsteps]
        exact .here _

theorem Stands.exists_placed {t : Tree} {steps : List Step} {m : Matcher}
    (h : t.Stands steps m.tree) : ∃ depth, ⟨steps, depth, m⟩ ∈ t.placed := by
  generalize hu : m.tree = u at h
  induction h with
  | here t => exact ⟨0, mem_placed.mpr (Or.inr ⟨rfl, rfl, hu⟩)⟩
  | inside hpart hall _ ih =>
      obtain ⟨depth, ih⟩ := ih hu
      subst hall
      exact ⟨depth + 1, mem_placed.mpr (Or.inl ⟨_, hpart, _, ih, rfl⟩)⟩

theorem HasPlainKeys.isPlain_of_stands {t u : Tree} {steps : List Step}
    (h : t.Stands steps u) : t.HasPlainKeys → ∀ s ∈ steps, s.IsPlain := by
  induction h with
  | here t => exact fun _ s hs => absurd hs List.not_mem_nil
  | @inside t part u steps rest all hpart hall _ ih =>
      intro ht s hs
      subst hall
      rcases List.mem_append.mp hs with hs | hs
      · cases t with
        | array items =>
            obtain ⟨i, t, -, he⟩ := mem_parts_array.mp hpart
            cases he
            cases List.mem_singleton.mp hs
            trivial
        | object entries =>
            obtain ⟨k, t, hk, he⟩ := mem_parts_object.mp hpart
            cases he
            cases List.mem_singleton.mp hs
            exact ((everyObject_object _).mp ht).1 _ hk
        | matcher c payload =>
            cases mem_parts_matcher.mp hpart
            cases c with
            | atLeast n => cases List.mem_singleton.mp hs; trivial
            | atMost n => cases List.mem_singleton.mp hs; trivial
            | _ => exact absurd hs List.not_mem_nil
        | _ => exact absurd hpart List.not_mem_nil
      · exact ih (EveryObject.of_part hpart ht) s hs

end ConsumerContract.Tree
