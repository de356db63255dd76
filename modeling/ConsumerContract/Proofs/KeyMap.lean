import ConsumerContract.KeyMap
import Mathlib.Data.List.Induction
import Mathlib.Data.List.Perm.Basic
import Mathlib.Data.List.Nodup

namespace ConsumerContract

namespace Entries

variable {α : Type}

theorem mem_ofList {e : String × α} {entries : List (String × α)} (h : e ∈ ofList entries) :
    e ∈ entries := by
  -- the entries go into a list that grows, so the induction is over any list to start from
  have grow : ∀ (es acc : List (String × α)),
      e ∈ es.foldl (fun acc (x : String × α) => insert x.1 x.2 acc) acc → e ∈ acc ∨ e ∈ es := by
    intro es
    induction es with
    | nil => intro acc h; exact Or.inl h
    | cons x es ih =>
        intro acc h
        rcases ih _ h with h | h
        · rcases mem_insert h with h | h
          · exact Or.inr (h ▸ List.mem_cons_self)
          · exact Or.inl h
        · exact Or.inr (List.mem_cons_of_mem _ h)
  rcases grow entries [] h with h | h
  · exact absurd h List.not_mem_nil
  · exact h

theorem get?_of_mem {k : String} {v : α} {entries : List (String × α)} (h : Ascending entries)
    (hmem : (k, v) ∈ entries) : get? k entries = some v := by
  induction entries with
  | nil => exact absurd hmem List.not_mem_nil
  | cons e rest ih =>
      obtain ⟨hlow, hrest⟩ := List.pairwise_cons.mp h
      rcases List.mem_cons.mp hmem with rfl | hmem
      · simp [get?]
      · have hne : k ≠ e.1 := by
          intro he
          exact String.lt_irrefl k (he ▸ hlow (k, v) hmem)
        rw [get?, if_neg hne]
        exact ih hrest hmem

theorem mem_of_get? {k : String} {v : α} {entries : List (String × α)}
    (h : get? k entries = some v) : (k, v) ∈ entries := by
  induction entries with
  | nil => cases h
  | cons e rest ih =>
      rw [get?] at h
      split at h
      · next hk =>
          cases h
          exact hk ▸ List.mem_cons_self
      · exact List.mem_cons_of_mem _ (ih h)

theorem get?_append (k : String) (a b : List (String × α)) :
    get? k (a ++ b) = (get? k a).or (get? k b) := by
  induction a with
  | nil => rfl
  | cons e rest ih =>
      simp only [List.cons_append, get?, ih]
      split <;> rfl

theorem get?_append_cons_of_ne {k l : String} (h : k ≠ l) (v : α) (a b : List (String × α)) :
    get? k (a ++ (l, v) :: b) = get? k (a ++ b) := by
  rw [get?_append, get?_append, get?, if_neg h]

theorem get?_append_cons_self {k : String} {v : α} {a b : List (String × α)}
    (h : Ascending (a ++ (k, v) :: b)) : get? k (a ++ (k, v) :: b) = some v :=
  get?_of_mem h (List.mem_append_right _ List.mem_cons_self)

theorem get?_eq_some_iff {k : String} {v : α} {entries : List (String × α)}
    (h : Ascending entries) : get? k entries = some v ↔ (k, v) ∈ entries :=
  ⟨mem_of_get?, get?_of_mem h⟩

theorem nodup_keys {entries : List (String × α)} (h : Ascending entries) :
    (entries.map Prod.fst).Nodup := by
  refine List.pairwise_map.mpr (h.imp ?_)
  intro a b hab he
  exact String.lt_irrefl b.1 (he ▸ hab)

theorem ascending_filterMap {keys : List String} (h : keys.Pairwise (· < ·))
    (f : String → Option α) :
    Ascending (keys.filterMap fun k => (f k).map (Prod.mk k)) := by
  refine List.pairwise_filterMap.mpr (h.imp ?_)
  intro a b hab x hx y hy
  obtain ⟨_, -, rfl⟩ := Option.map_eq_some_iff.mp hx
  obtain ⟨_, -, rfl⟩ := Option.map_eq_some_iff.mp hy
  exact hab

theorem filter_eq_filterMap {keys : List String} (hkeys : keys.Pairwise (· < ·))
    {entries : List (String × α)} (h : Ascending entries) :
    (entries.filter fun e => e.1 ∈ keys) =
      keys.filterMap fun k => (get? k entries).map (Prod.mk k) := by
  -- both sides are ascending, so it is enough that they have the same entries
  have hleft : Ascending (entries.filter fun e => e.1 ∈ keys) := List.Pairwise.filter _ h
  have hright := ascending_filterMap hkeys fun k => get? k entries
  refine List.Perm.eq_of_pairwise ?_ hleft hright ?_
  · intro a b _ _ hab hba
    exact absurd (String.lt_trans hab hba) (String.lt_irrefl a.1)
  · refine (List.perm_ext_iff_of_nodup (.of_map _ (nodup_keys hleft))
      (.of_map _ (nodup_keys hright))).mpr ?_
    rintro ⟨k, v⟩
    simp only [List.mem_filter, decide_eq_true_eq, List.mem_filterMap, Option.map_eq_some_iff,
      Prod.mk.injEq, get?_eq_some_iff h]
    constructor
    · rintro ⟨hmem, hk⟩
      exact ⟨k, hk, v, hmem, rfl, rfl⟩
    · rintro ⟨_, hk, _, hmem, rfl, rfl⟩
      exact ⟨hmem, hk⟩

theorem insert_of_lt {k : String} {v : α} {entries : List (String × α)}
    (h : ∀ e ∈ entries, e.1 < k) : insert k v entries = entries ++ [(k, v)] := by
  induction entries with
  | nil => rfl
  | cons e rest ih =>
      obtain ⟨he, hrest⟩ := List.forall_mem_cons.mp h
      rw [insert, if_neg (String.lt_asymm he), if_pos he, ih hrest, List.cons_append]

theorem insert_of_le {k l : String} {v w : α} {rest : List (String × α)}
    (h : Ascending ((l, w) :: rest)) (hkl : k ≤ l) : insert k v rest = (k, v) :: rest := by
  cases rest with
  | nil => rfl
  | cons e rest =>
      have he : k < e.1 :=
        Std.lt_of_le_of_lt hkl (List.rel_of_pairwise_cons h List.mem_cons_self)
      rw [insert, if_pos he]

theorem insert_append_cons_self {k : String} {v : α} {before after : List (String × α)}
    (h : Ascending (before ++ (k, v) :: after)) (w : α) :
    insert k w (before ++ (k, v) :: after) = before ++ (k, w) :: after := by
  induction before with
  | nil =>
      have hself : ¬k < k := String.lt_irrefl k
      simp only [List.nil_append, insert, if_neg hself]
  | cons e rest ih =>
      obtain ⟨hlow, hrest⟩ := List.pairwise_cons.mp h
      have he : e.1 < k := hlow (k, v) (List.mem_append_right _ List.mem_cons_self)
      simp only [List.cons_append, insert, if_neg (String.lt_asymm he), if_pos he, ih hrest]

theorem ofList_append_singleton (entries : List (String × α)) (e : String × α) :
    ofList (entries ++ [e]) = insert e.1 e.2 (ofList entries) := by
  rw [ofList, List.foldl_append]
  rfl

theorem ofList_of_ascending {entries : List (String × α)} (h : Ascending entries) :
    ofList entries = entries := by
  induction entries using List.reverseRecOn with
  | nil => rfl
  | append_singleton entries e ih =>
      obtain ⟨hentries, -, hlow⟩ := List.pairwise_append.mp h
      rw [ofList_append_singleton, ih hentries]
      exact insert_of_lt fun e' he' => hlow e' he' e List.mem_cons_self

theorem insert_map {β : Type} (f : α → β) (k : String) (v : α) (entries : List (String × α)) :
    insert k (f v) (entries.map fun e => (e.1, f e.2)) =
      (insert k v entries).map fun e => (e.1, f e.2) := by
  induction entries with
  | nil => rfl
  | cons e rest ih =>
      simp only [List.map_cons, insert, ih]
      split
      · rfl
      · split <;> rfl

theorem ofList_map {β : Type} (f : α → β) (entries : List (String × α)) :
    ofList (entries.map fun e => (e.1, f e.2)) = (ofList entries).map fun e => (e.1, f e.2) := by
  induction entries using List.reverseRecOn with
  | nil => rfl
  | append_singleton entries e ih =>
      rw [List.map_append, List.map_singleton, ofList_append_singleton, ofList_append_singleton, ih]
      exact insert_map f e.1 e.2 (ofList entries)

theorem insert_perm {k : String} {v : α} {entries : List (String × α)}
    (h : k ∉ entries.map Prod.fst) : (insert k v entries).Perm ((k, v) :: entries) := by
  induction entries with
  | nil => exact .refl _
  | cons e rest ih =>
      simp only [List.map_cons, List.mem_cons, not_or] at h
      rw [insert]
      split
      · exact .refl _
      · next hlt =>
          have hgt : e.1 < k :=
            Std.lt_of_le_of_ne (String.not_lt.mp hlt) (Ne.symm h.1)
          rw [if_pos hgt]
          exact ((ih h.2).cons e).trans (.swap _ _ _)

theorem ofList_perm {entries : List (String × α)} (h : (entries.map Prod.fst).Nodup) :
    (ofList entries).Perm entries := by
  induction entries using List.reverseRecOn with
  | nil => exact .refl _
  | append_singleton entries e ih =>
      rw [List.map_append, List.nodup_append] at h
      obtain ⟨hentries, -, hnew⟩ := h
      have hperm := ih hentries
      have hfresh : e.1 ∉ (ofList entries).map Prod.fst := by
        intro hmem
        exact hnew _ ((hperm.map Prod.fst).mem_iff.mp hmem) _ List.mem_cons_self rfl
      rw [ofList_append_singleton]
      exact (insert_perm hfresh).trans ((hperm.cons e).trans (List.perm_append_singleton e _).symm)

end Entries

namespace KeyMap

variable {α : Type}

theorem eq_of_entries {m m' : KeyMap α} (h : m.entries = m'.entries) : m = m' := by
  cases m
  cases m'
  cases h
  rfl

theorem eq_empty_of_isEmpty {m : KeyMap α} (h : m.isEmpty = true) : m = empty :=
  eq_of_entries (List.isEmpty_iff.mp h)

theorem mem_entries_iff (m : KeyMap α) (k : String) (v : α) :
    (k, v) ∈ m.entries ↔ m.get? k = some v :=
  (Entries.get?_eq_some_iff m.ascending).symm

theorem entries_perm (m : KeyMap α) {entries : List (String × α)}
    (hnodup : (entries.map Prod.fst).Nodup)
    (h : ∀ k v, (k, v) ∈ entries ↔ m.get? k = some v) : m.entries.Perm entries := by
  refine (List.perm_ext_iff_of_nodup (.of_map _ (Entries.nodup_keys m.ascending))
    (.of_map _ hnodup)).mpr ?_
  rintro ⟨k, v⟩
  rw [mem_entries_iff, h]

theorem ext_get? {m m' : KeyMap α} (h : ∀ k, m.get? k = m'.get? k) : m = m' := by
  have hperm : m.entries.Perm m'.entries := by
    refine entries_perm m (Entries.nodup_keys m'.ascending) fun k v => ?_
    rw [mem_entries_iff, h]
  refine eq_of_entries (hperm.eq_of_pairwise ?_ m.ascending m'.ascending)
  intro a b _ _ hab hba
  exact absurd (String.lt_trans hab hba) (String.lt_irrefl a.1)

theorem ofList_append_singleton (entries : List (String × α)) (e : String × α) :
    ofList (entries ++ [e]) = (ofList entries).insert e.1 e.2 := by
  rw [ofList, List.foldl_append]
  rfl

theorem get?_ofList (entries : List (String × α)) (k : String) :
    (ofList entries).get? k = (entries.reverse.find? fun e => e.1 = k).map Prod.snd := by
  induction entries using List.reverseRecOn with
  | nil => rfl
  | append_singleton entries e ih =>
      rw [ofList_append_singleton, get?_insert, List.reverse_concat, List.find?_cons]
      by_cases hk : e.1 = k
      · simp [hk]
      · rw [if_neg (Ne.symm hk), ih]
        simp [hk]

theorem entries_ofList_eq (entries : List (String × α)) :
    (ofList entries).entries = Entries.ofList entries := by
  induction entries using List.reverseRecOn with
  | nil => rfl
  | append_singleton entries e ih =>
      rw [Entries.ofList_append_singleton, ← ih, ofList_append_singleton]
      rfl

theorem entries_ofList {entries : List (String × α)} (h : Entries.Ascending entries) :
    (ofList entries).entries = entries := by
  rw [entries_ofList_eq, Entries.ofList_of_ascending h]

theorem get?_ofList_append (as bs : List (String × α)) (k : String) :
    (ofList (as ++ bs)).get? k = ((ofList bs).get? k).or ((ofList as).get? k) := by
  rw [get?_ofList, get?_ofList, get?_ofList, List.reverse_append, List.find?_append,
    Option.map_or]

theorem get?_ofList_eq_none_iff {entries : List (String × α)} {k : String} :
    (ofList entries).get? k = none ↔ k ∉ entries.map Prod.fst := by
  rw [get?_ofList, Option.map_eq_none_iff, List.find?_eq_none]
  simp only [List.mem_reverse, decide_eq_true_eq, List.mem_map, not_exists, not_and]

theorem ofList_entries (m : KeyMap α) : ofList m.entries = m :=
  eq_of_entries (entries_ofList m.ascending)

end KeyMap

namespace Entries

variable {α : Type}

theorem ofList_eq_of_get? {as bs : List (String × α)}
    (h : ∀ k, (KeyMap.ofList as).get? k = (KeyMap.ofList bs).get? k) : ofList as = ofList bs := by
  rw [← KeyMap.entries_ofList_eq, ← KeyMap.entries_ofList_eq, KeyMap.ext_get? h]

theorem ofList_swap {k l : String} (h : k ≠ l) (before : List (String × α)) (v w : α)
    (after : List (String × α)) :
    ofList (before ++ (k, v) :: (l, w) :: after) =
      ofList (before ++ (l, w) :: (k, v) :: after) := by
  refine ofList_eq_of_get? fun m => ?_
  have hpair : (KeyMap.ofList [(k, v), (l, w)]).get? m =
      (KeyMap.ofList [(l, w), (k, v)]).get? m := by
    rw [KeyMap.get?_ofList, KeyMap.get?_ofList]
    by_cases hk : k = m
    · subst hk
      simp [Ne.symm h]
    · by_cases hl : l = m <;> simp [hk, hl]
  have hsplit : ∀ pair : List (String × α), (KeyMap.ofList (before ++ (pair ++ after))).get? m =
      (((KeyMap.ofList after).get? m).or ((KeyMap.ofList pair).get? m)).or
        ((KeyMap.ofList before).get? m) := by
    intro pair
    rw [KeyMap.get?_ofList_append, KeyMap.get?_ofList_append]
  exact (hsplit [(k, v), (l, w)]).trans (hpair ▸ (hsplit [(l, w), (k, v)]).symm)

theorem ofList_replaced {k : String} {after : List (String × α)} (h : k ∈ after.map Prod.fst)
    (before : List (String × α)) (v : α) :
    ofList (before ++ (k, v) :: after) = ofList (before ++ after) := by
  refine ofList_eq_of_get? fun m => ?_
  rw [← List.singleton_append, KeyMap.get?_ofList_append, KeyMap.get?_ofList_append,
    KeyMap.get?_ofList_append]
  cases hafter : (KeyMap.ofList after).get? m with
  | some w => rfl
  | none =>
      have hm : m ≠ k := fun he => KeyMap.get?_ofList_eq_none_iff.mp hafter (he ▸ h)
      have hsingle : (KeyMap.ofList [(k, v)]).get? m = none :=
        KeyMap.get?_ofList_eq_none_iff.mpr (by simpa using hm)
      rw [hsingle]
      rfl

end Entries

end ConsumerContract
