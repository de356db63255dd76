import ConsumerContract.Proofs.Json.Exact
import ConsumerContract.Proofs.Tree.Canonical
import ConsumerContract.Tree.Expansion

namespace ConsumerContract

namespace Tree

mutual

def FloatFree : Tree → Prop
  | .number n => n.IsInteger
  | .array items => FloatFreeItems items
  | .object entries => FloatFreeEntries entries
  | .matcher _ payload => FloatFree payload
  | _ => True

def FloatFreeItems : List Tree → Prop
  | [] => True
  | t :: rest => FloatFree t ∧ FloatFreeItems rest

def FloatFreeEntries : List (String × Tree) → Prop
  | [] => True
  | (_, t) :: rest => FloatFree t ∧ FloatFreeEntries rest

end

theorem floatFreeItems_iff (items : List Tree) :
    FloatFreeItems items ↔ ∀ t ∈ items, t.FloatFree := by
  induction items with
  | nil => simp [FloatFreeItems]
  | cons t rest ih => rw [FloatFreeItems, ih, List.forall_mem_cons]

theorem floatFreeEntries_iff (entries : List (String × Tree)) :
    FloatFreeEntries entries ↔ ∀ e ∈ entries, e.2.FloatFree := by
  induction entries with
  | nil => simp [FloatFreeEntries]
  | cons e rest ih => rw [FloatFreeEntries, ih, List.forall_mem_cons]

theorem canonical_expand {c : Criterion} {v : Json} (h : v.Canonical) : (c.expand v).Canonical := by
  rw [Criterion.expand]
  split
  · exact h
  · refine (Json.canonicalItems_iff _).mpr fun w hw => ?_
    rw [List.eq_of_mem_replicate hw]
    exact h

theorem floatFree_expand {c : Criterion} {v : Json} (h : v.FloatFree) : (c.expand v).FloatFree := by
  rw [Criterion.expand]
  split
  · exact h
  · refine (Json.floatFreeItems_iff _).mpr fun w hw => ?_
    rw [List.eq_of_mem_replicate hw]
    exact h

theorem canonical_expansion {t : Tree} (ht : t.Canonical) : t.expansion.Canonical := by
  induction t with
  | array items ih =>
      have hitems := (everyObject_array items).mp ht
      rw [expansion, expandItems_eq_map]
      exact (Json.canonicalItems_iff _).mpr
        (List.forall_mem_map.mpr fun t hmem => ih t hmem (hitems t hmem))
  | object entries ih =>
      obtain ⟨hascending, hentries⟩ := (everyObject_object entries).mp ht
      rw [expansion, expandEntries_eq_map]
      refine ⟨List.pairwise_map.mpr hascending, (Json.canonicalEntries_iff _).mpr ?_⟩
      exact List.forall_mem_map.mpr fun e hmem => ih e hmem (hentries e hmem)
  | matcher c payload ih => exact canonical_expand (ih ((everyObject_matcher c payload).mp ht))
  | _ => trivial

theorem floatFree_expansion {t : Tree} (ht : t.FloatFree) : t.expansion.FloatFree := by
  induction t with
  | number n => exact ht
  | array items ih =>
      have hitems := (floatFreeItems_iff items).mp ht
      rw [expansion, expandItems_eq_map]
      exact (Json.floatFreeItems_iff _).mpr
        (List.forall_mem_map.mpr fun t hmem => ih t hmem (hitems t hmem))
  | object entries ih =>
      have hentries := (floatFreeEntries_iff entries).mp ht
      rw [expansion, expandEntries_eq_map]
      exact (Json.floatFreeEntries_iff _).mpr
        (List.forall_mem_map.mpr fun e hmem => ih e hmem (hentries e hmem))
  | matcher c payload ih => exact floatFree_expand (ih ht)
  | _ => trivial

end Tree

end ConsumerContract
