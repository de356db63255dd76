import ConsumerContract.Proofs.Compile.Refusal
import ConsumerContract.Proofs.List
import ConsumerContract.Proofs.Tree.Stands
import Mathlib.Tactic.Ring

/-!
Every array matcher repeats its template at most as often as the options allow, so a tree grows by
that factor at most once for each of the array matchers that lie inside each other.
-/

namespace Nat

theorem mul_succ_le_mul_pow_succ {n m e s k : Nat} (hpos : 0 < m) (hn : n ≤ m)
    (he : e ≤ s * m ^ k) :
    n * e + 1 ≤ (s + 1) * m ^ (k + 1) := by
  have hmul : n * e ≤ m * (s * m ^ k) := Nat.mul_le_mul hn he
  have hone : 1 ≤ m ^ (k + 1) := Nat.pow_pos hpos
  calc
    n * e + 1 ≤ m * (s * m ^ k) + m ^ (k + 1) := Nat.add_le_add hmul hone
    _ = (s + 1) * m ^ (k + 1) := by ring

end Nat

namespace ConsumerContract

namespace Json

mutual

def size : Json → Nat
  | .array items => sizeItems items + 1
  | .object entries => sizeEntries entries + 1
  | _ => 1

def sizeItems : List Json → Nat
  | [] => 0
  | v :: rest => size v + sizeItems rest

def sizeEntries : List (String × Json) → Nat
  | [] => 0
  | (_, v) :: rest => size v + sizeEntries rest

end

theorem sizeItems_eq_sum (items : List Json) : sizeItems items = (items.map size).sum := by
  induction items with
  | nil => rfl
  | cons v rest ih => rw [sizeItems, ih, List.map_cons, List.sum_cons]

theorem sizeEntries_eq_sum (entries : List (String × Json)) :
    sizeEntries entries = (entries.map fun e => e.2.size).sum := by
  induction entries with
  | nil => rfl
  | cons e rest ih => rw [sizeEntries, ih, List.map_cons, List.sum_cons]

end Json

namespace Tree

mutual

def size : Tree → Nat
  | .array items => sizeItems items + 1
  | .object entries => sizeEntries entries + 1
  | .matcher _ payload => size payload + 1
  | _ => 1

def sizeItems : List Tree → Nat
  | [] => 0
  | t :: rest => size t + sizeItems rest

def sizeEntries : List (String × Tree) → Nat
  | [] => 0
  | (_, t) :: rest => size t + sizeEntries rest

end

mutual

/-- How many array matchers of a tree lie inside each other at most. -/
def repetition : Tree → Nat
  | .array items => repetitionItems items
  | .object entries => repetitionEntries entries
  | .matcher c payload => repetition payload + if c.count?.isSome then 1 else 0
  | _ => 0

def repetitionItems : List Tree → Nat
  | [] => 0
  | t :: rest => max (repetition t) (repetitionItems rest)

def repetitionEntries : List (String × Tree) → Nat
  | [] => 0
  | (_, t) :: rest => max (repetition t) (repetitionEntries rest)

end

theorem sizeItems_eq_sum (items : List Tree) : sizeItems items = (items.map size).sum := by
  induction items with
  | nil => rfl
  | cons t rest ih => rw [sizeItems, ih, List.map_cons, List.sum_cons]

theorem sizeEntries_eq_sum (entries : List (String × Tree)) :
    sizeEntries entries = (entries.map fun e => e.2.size).sum := by
  induction entries with
  | nil => rfl
  | cons e rest ih => rw [sizeEntries, ih, List.map_cons, List.sum_cons]

theorem repetitionItems_le_iff {items : List Tree} {k : Nat} :
    repetitionItems items ≤ k ↔ ∀ t ∈ items, t.repetition ≤ k := by
  induction items with
  | nil => simp [repetitionItems]
  | cons t rest ih => rw [repetitionItems, Nat.max_le, ih, List.forall_mem_cons]

theorem repetitionEntries_le_iff {entries : List (String × Tree)} {k : Nat} :
    repetitionEntries entries ≤ k ↔ ∀ e ∈ entries, e.2.repetition ≤ k := by
  induction entries with
  | nil => simp [repetitionEntries]
  | cons e rest ih => rw [repetitionEntries, Nat.max_le, ih, List.forall_mem_cons]

def RepeatsAtMost (limit : Nat) (t : Tree) : Prop :=
  ∀ p ∈ t.placed, ∀ n, p.matcher.criterion.count? = some n → n.toNat ≤ limit

theorem RepeatsAtMost.of_part {limit : Nat} {t : Tree} {e : List Selector.Step × Tree}
    (ht : t.RepeatsAtMost limit) (he : e ∈ t.parts) : e.2.RepeatsAtMost limit :=
  fun p hp => ht (p.under e.1) (mem_placed.mpr (Or.inl ⟨e, he, p, hp, rfl⟩))

theorem RepeatsAtMost.count_le {limit : Nat} {c : Criterion} {payload : Tree} {n : UInt64}
    (h : (matcher c payload).RepeatsAtMost limit) (hc : c.count? = some n) : n.toNat ≤ limit :=
  h ⟨[], 0, ⟨c, payload⟩⟩ (mem_placed.mpr (Or.inr ⟨rfl, rfl, rfl⟩)) n hc

theorem size_expansion_le {limit : Nat} {t : Tree} (h : t.RepeatsAtMost limit) :
    t.expansion.size ≤ t.size * max 1 limit ^ t.repetition := by
  have hpos : 0 < max 1 limit := Nat.lt_of_lt_of_le Nat.one_pos (Nat.le_max_left 1 limit)
  induction t with
  | array items ih =>
      rw [expansion, expandItems_eq_map, Json.size, Json.sizeItems_eq_sum, List.map_map, size,
        sizeItems_eq_sum, repetition]
      refine List.sum_map_succ_le_mul (Nat.pow_pos hpos) fun t ht => ?_
      obtain ⟨i, hi⟩ := List.getElem?_of_mem ht
      have hpart := mem_parts_array.mpr ⟨i, t, hi, rfl⟩
      have hrepetition := repetitionItems_le_iff.mp (Nat.le_refl _) t ht
      exact (ih t ht (h.of_part hpart)).trans
        (Nat.mul_le_mul_left _ (Nat.pow_le_pow_right hpos hrepetition))
  | object entries ih =>
      rw [expansion, expandEntries_eq_map, Json.size, Json.sizeEntries_eq_sum, List.map_map, size,
        sizeEntries_eq_sum, repetition]
      refine List.sum_map_succ_le_mul (Nat.pow_pos hpos) fun e he => ?_
      have hpart := mem_parts_object.mpr ⟨e.1, e.2, he, rfl⟩
      have hrepetition := repetitionEntries_le_iff.mp (Nat.le_refl _) e he
      exact (ih e he (h.of_part hpart)).trans
        (Nat.mul_le_mul_left _ (Nat.pow_le_pow_right hpos hrepetition))
  | matcher c payload ih =>
      have hpayload := ih (h.of_part (mem_parts_matcher.mpr rfl))
      rw [expansion, Criterion.expand, size, repetition]
      cases hc : c.count? with
      | none => exact hpayload.trans (Nat.mul_le_mul_right _ (Nat.le_succ _))
      | some n =>
          -- only here the exponent grows, so that it pays for the copies
          have hn : n.toNat ≤ max 1 limit := (h.count_le hc).trans (Nat.le_max_right 1 limit)
          simp only [Json.size, Json.sizeItems_eq_sum, List.map_replicate, List.sum_replicate_nat,
            Option.isSome_some, if_true]
          exact Nat.mul_succ_le_mul_pow_succ hpos hn hpayload
  | _ => simp [expansion, Json.size, size, repetition]

variable {accepts : String → Bool} {o : Options}

theorem repeatsAtMost_of_compile {t : Tree} {b : ContractBody} (h : t.compile accepts o = .ok b) :
    t.RepeatsAtMost o.maxRepeat.toNat := by
  obtain ⟨-, hfault, -⟩ := compile_eq_ok_iff.mp h
  intro p hp n hn
  -- the walk comes to every matcher that is placed, and found no fault with this one
  obtain ⟨depth, hmem⟩ := (stands_of_mem_placed hp).mem_visits
  have hvisit := hmem ⟨[], 0, p.matcher.tree⟩ (mem_visits.mpr (Or.inl rfl))
  have hoffends := visitFault?_eq_none_iff.mp (List.findSome?_eq_none_iff.mp hfault _ hvisit)
  have hdepth := Nat.not_lt.mp fun hdepth => hoffends _ (.tooDeep hdepth)
  refine Nat.not_lt.mp fun hlimit => ?_
  exact hoffends _ (.tooManyCopies hdepth rfl hn (UInt64.lt_iff_toNat_lt.mpr hlimit))

theorem expansion_bounded_by_nested_repetition (accepts : String → Bool) (o : Options) (t : Tree)
    (b : ContractBody) (h : t.compile accepts o = .ok b) :
    t.RepeatsAtMost o.maxRepeat.toNat ∧
      b.body.size ≤ t.size * max 1 o.maxRepeat.toNat ^ t.repetition := by
  have hrepeats := repeatsAtMost_of_compile h
  obtain ⟨-, -, rfl⟩ := compile_eq_ok_iff.mp h
  exact ⟨hrepeats, size_expansion_le hrepeats⟩

def grid : Tree :=
  .object [("rows", arrayMinLike 3
    (.object [("cells", arrayMaxLike 2 (like .null)), ("id", .number (.natural 7))]))]

theorem grid_bounded :
    ∃ b, grid.compile (fun _ => true) { maxRepeat := 3 } = .ok b ∧
      grid.RepeatsAtMost 3 ∧ b.body.size ≤ 7 * 3 ^ 2 :=
  ⟨_, rfl, expansion_bounded_by_nested_repetition (fun _ => true) { maxRepeat := 3 } grid _ rfl⟩

def tensOfTens : Tree := .object [("a", arrayMinLike 10 (arrayMinLike 10 .null))]

/-- A document of 112 values comes of four nodes. -/
theorem tensOfTens_outgrows_repeat_limit :
    ∃ b, tensOfTens.compile (fun _ => true) { maxRepeat := 10 } = .ok b ∧
      tensOfTens.size * max 1 ({ maxRepeat := 10 } : Options).maxRepeat.toNat < b.body.size := by
  refine ⟨_, rfl, ?_⟩
  decide

end Tree

end ConsumerContract
