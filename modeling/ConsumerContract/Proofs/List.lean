import Mathlib.Algebra.BigOperators.Group.List.Basic
import Mathlib.Algebra.BigOperators.Ring.List
import Mathlib.Algebra.Order.BigOperators.Group.List
import Mathlib.Algebra.Order.Ring.Nat
import Mathlib.Data.Finset.Card

namespace List

variable {α β : Type}

theorem getLast?_filterMap_cons (give? : α → Option β) (a : α) (as : List α) (b : β) :
    ((a :: as).filterMap give?).getLast?.getD b =
      (as.filterMap give?).getLast?.getD ((give? a).getD b) := by
  rw [List.filterMap_cons]
  cases give? a with
  | none => rfl
  | some c => rw [List.getLast?_cons, Option.getD_some, Option.getD_some]

theorem mapM_replicate_eq_some {f : α → Option β} {a : α} {b : β} (h : f a = some b) (n : Nat) :
    (List.replicate n a).mapM f = some (List.replicate n b) := by
  induction n with
  | zero => rfl
  | succ n ih => simp [List.replicate_succ, List.mapM_cons, h, ih]

theorem intercalate_concat (sep : List α) (parts : List (List α)) (last : List α) :
    sep.intercalate (parts ++ [last]) = (parts.flatMap fun p => p ++ sep) ++ last := by
  induction parts with
  | nil => exact List.intercalate_singleton
  | cons p parts ih =>
      have hne : parts ++ [last] ≠ [] :=
        List.append_ne_nil_of_right_ne_nil parts (List.cons_ne_nil last [])
      rw [List.cons_append, List.intercalate_cons_of_ne_nil hne, ih, List.flatMap_cons]
      simp only [List.append_assoc]

theorem eraseDups_concat [BEq α] [LawfulBEq α] (as : List α) (a : α) [Decidable (a ∈ as)] :
    (as ++ [a]).eraseDups = if a ∈ as then as.eraseDups else as.eraseDups ++ [a] := by
  rw [List.eraseDups_append]
  split
  · next h => simp [List.removeAll, h]
  · next h => simp [List.removeAll, h, List.eraseDups_cons]

theorem card_map_toFinset_eq_iff [DecidableEq α] [DecidableEq β] (f : α → β) (l : List α) :
    (l.map f).toFinset.card = l.toFinset.card ↔ ∀ a ∈ l, ∀ b ∈ l, f a = f b → a = b := by
  have himage : (l.map f).toFinset = l.toFinset.image f := by
    ext b
    simp
  rw [himage, Finset.card_image_iff]
  constructor
  · intro h a ha b hb
    exact h (List.mem_toFinset.mpr ha) (List.mem_toFinset.mpr hb)
  · intro h a ha b hb
    exact h a (List.mem_toFinset.mp ha) b (List.mem_toFinset.mp hb)

theorem sum_map_succ_le_mul {l : List α} {f g : α → Nat} {c : Nat} (hc : 0 < c)
    (h : ∀ a ∈ l, f a ≤ g a * c) : (l.map f).sum + 1 ≤ ((l.map g).sum + 1) * c := by
  have hsum : (l.map f).sum ≤ (l.map g).sum * c :=
    (List.sum_le_sum h).trans_eq (List.sum_map_mul_right ..)
  rw [Nat.add_mul, Nat.one_mul]
  exact Nat.add_le_add hsum hc

end List
