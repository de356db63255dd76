/-!
Maps from names to values, held as a list of entries in ascending order of names. Names compare by
code points, which is also the order of their UTF-8 bytes.
-/

namespace ConsumerContract

namespace Entries

variable {α β : Type}

def insert (k : String) (v : α) : List (String × α) → List (String × α)
  | [] => [(k, v)]
  | (k', v') :: rest =>
      if k < k' then (k, v) :: (k', v') :: rest
      else if k' < k then (k', v') :: insert k v rest
      else (k, v) :: rest

def ofList (entries : List (String × α)) : List (String × α) :=
  entries.foldl (fun acc (k, v) => insert k v acc) []

def get? (k : String) : List (String × α) → Option α
  | [] => none
  | (k', v) :: rest => if k = k' then some v else get? k rest

def Ascending (entries : List (String × α)) : Prop :=
  entries.Pairwise fun a b => a.1 < b.1

instance (entries : List (String × α)) : Decidable (Ascending entries) :=
  inferInstanceAs (Decidable (List.Pairwise _ _))

theorem mem_insert {k : String} {v : α} {e : String × α} :
    ∀ {entries : List (String × α)}, e ∈ insert k v entries → e = (k, v) ∨ e ∈ entries
  | [], h => by simpa [insert] using h
  | (k', v') :: rest, h => by
      simp only [insert] at h
      split at h
      · simpa using h
      · split at h
        · rcases List.mem_cons.mp h with h | h
          · exact Or.inr (by simp [h])
          · rcases mem_insert h with h | h
            · exact Or.inl h
            · exact Or.inr (by simp [h])
        · rcases List.mem_cons.mp h with h | h
          · exact Or.inl h
          · exact Or.inr (by simp [h])

theorem ascending_insert {k : String} {v : α} :
    ∀ {entries : List (String × α)}, Ascending entries → Ascending (insert k v entries)
  | [], _ => by simp [insert, Ascending]
  | (k', v') :: rest, h => by
      have hrest : Ascending rest := List.Pairwise.of_cons h
      have hlow : ∀ e ∈ rest, k' < e.1 := fun e he => List.rel_of_pairwise_cons h he
      simp only [insert]
      split
      · next hk =>
          refine List.pairwise_cons.mpr ⟨fun e he => ?_, h⟩
          rcases List.mem_cons.mp he with rfl | he
          · exact hk
          · exact String.lt_trans hk (hlow e he)
      · next hk =>
          split
          · next hk' =>
              refine List.pairwise_cons.mpr ⟨fun e he => ?_, ascending_insert hrest⟩
              rcases mem_insert he with rfl | he
              · exact hk'
              · exact hlow e he
          · next hk' =>
              have : k = k' := String.le_antisymm (String.not_lt.mp hk') (String.not_lt.mp hk)
              refine List.pairwise_cons.mpr ⟨fun e he => ?_, hrest⟩
              exact this ▸ hlow e he

theorem ascending_ofList (entries : List (String × α)) : Ascending (ofList entries) := by
  have grow : ∀ (es acc : List (String × α)), Ascending acc →
      Ascending (es.foldl (fun acc (e : String × α) => insert e.1 e.2 acc) acc) := by
    intro es
    induction es with
    | nil => intro acc h; exact h
    | cons e es ih => intro acc h; exact ih _ (ascending_insert h)
  exact grow entries [] List.Pairwise.nil

theorem get?_insert (k : String) (v : α) (k' : String) :
    ∀ entries : List (String × α),
      get? k' (insert k v entries) = if k' = k then some v else get? k' entries
  | [] => rfl
  | (k₀, v₀) :: rest => by
      simp only [insert]
      split
      · rfl
      · next hk =>
          split
          · next hk' =>
              have hne : k ≠ k₀ := fun e => String.lt_irrefl k (e ▸ hk')
              simp only [get?, get?_insert k v k' rest]
              grind
          · next hk' =>
              have : k = k₀ := String.le_antisymm (String.not_lt.mp hk') (String.not_lt.mp hk)
              simp only [get?]
              grind

end Entries

structure KeyMap (α : Type) where
  entries : List (String × α)
  ascending : Entries.Ascending entries
  deriving DecidableEq, Repr

namespace KeyMap

variable {α β : Type}

def empty : KeyMap α := ⟨[], List.Pairwise.nil⟩

def isEmpty (m : KeyMap α) : Bool := m.entries.isEmpty

def insert (m : KeyMap α) (k : String) (v : α) : KeyMap α :=
  ⟨Entries.insert k v m.entries, Entries.ascending_insert m.ascending⟩

def get? (m : KeyMap α) (k : String) : Option α := Entries.get? k m.entries

/-- The last of the entries with one name counts. -/
def ofList (entries : List (String × α)) : KeyMap α :=
  entries.foldl (fun m e => m.insert e.1 e.2) empty

@[simp] theorem get?_empty (k : String) : (empty : KeyMap α).get? k = none := rfl

theorem get?_insert (m : KeyMap α) (k : String) (v : α) (k' : String) :
    (m.insert k v).get? k' = if k' = k then some v else m.get? k' :=
  Entries.get?_insert k v k' m.entries

end KeyMap

end ConsumerContract
