import ConsumerContract.Proofs.Except
import ConsumerContract.Proofs.KeyMap
import ConsumerContract.Selector.Steps
import ConsumerContract.Tree.Decode

namespace ConsumerContract

namespace Tree

variable {P : List (String × Tree) → Prop}

mutual

/-- The entries of each object have a property, those of payloads included. -/
def EveryObject (P : List (String × Tree) → Prop) : Tree → Prop
  | .array items => EveryObjectItems P items
  | .object entries => P entries ∧ EveryObjectEntries P entries
  | .matcher _ payload => EveryObject P payload
  | _ => True

def EveryObjectItems (P : List (String × Tree) → Prop) : List Tree → Prop
  | [] => True
  | t :: rest => EveryObject P t ∧ EveryObjectItems P rest

def EveryObjectEntries (P : List (String × Tree) → Prop) : List (String × Tree) → Prop
  | [] => True
  | (_, t) :: rest => EveryObject P t ∧ EveryObjectEntries P rest

end

mutual

def decideEveryObject [DecidablePred P] : ∀ t : Tree, Decidable (t.EveryObject P)
  | .null => .isTrue trivial
  | .bool _ => .isTrue trivial
  | .number _ => .isTrue trivial
  | .string _ => .isTrue trivial
  | .array items => decideEveryObjectItems items
  | .object entries =>
      have := decideEveryObjectEntries entries
      inferInstanceAs (Decidable (P entries ∧ EveryObjectEntries P entries))
  | .matcher _ payload => decideEveryObject payload

def decideEveryObjectItems [DecidablePred P] :
    ∀ items : List Tree, Decidable (EveryObjectItems P items)
  | [] => .isTrue trivial
  | t :: rest =>
      have := decideEveryObject t
      have := decideEveryObjectItems rest
      inferInstanceAs (Decidable (EveryObject P t ∧ EveryObjectItems P rest))

def decideEveryObjectEntries [DecidablePred P] :
    ∀ entries : List (String × Tree), Decidable (EveryObjectEntries P entries)
  | [] => .isTrue trivial
  | (_, t) :: rest =>
      have := decideEveryObject t
      have := decideEveryObjectEntries rest
      inferInstanceAs (Decidable (EveryObject P t ∧ EveryObjectEntries P rest))

end

instance [DecidablePred P] : DecidablePred (EveryObject P) := decideEveryObject

def Canonical : Tree → Prop := EveryObject Entries.Ascending

def HasPlainKeys : Tree → Prop := EveryObject fun entries => ∀ e ∈ entries, Selector.IsPlainKey e.1

instance : DecidablePred Canonical := inferInstanceAs (DecidablePred (EveryObject _))

instance : DecidablePred HasPlainKeys := inferInstanceAs (DecidablePred (EveryObject _))

theorem everyObjectItems_iff (items : List Tree) :
    EveryObjectItems P items ↔ ∀ t ∈ items, t.EveryObject P := by
  induction items with
  | nil => simp [EveryObjectItems]
  | cons t rest ih => rw [EveryObjectItems, ih, List.forall_mem_cons]

theorem everyObjectEntries_iff (entries : List (String × Tree)) :
    EveryObjectEntries P entries ↔ ∀ e ∈ entries, e.2.EveryObject P := by
  induction entries with
  | nil => simp [EveryObjectEntries]
  | cons e rest ih => rw [EveryObjectEntries, ih, List.forall_mem_cons]

theorem everyObject_array (items : List Tree) :
    (array items).EveryObject P ↔ ∀ t ∈ items, t.EveryObject P := by
  rw [EveryObject, everyObjectItems_iff]

theorem everyObject_object (entries : List (String × Tree)) :
    (object entries).EveryObject P ↔ P entries ∧ ∀ e ∈ entries, e.2.EveryObject P := by
  rw [EveryObject, everyObjectEntries_iff]

theorem everyObject_matcher (c : Criterion) (payload : Tree) :
    (matcher c payload).EveryObject P ↔ payload.EveryObject P := by
  rw [EveryObject]

theorem canonical_ofEntries {entries : List (String × Tree)} (h : ∀ e ∈ entries, e.2.Canonical) :
    (ofEntries entries).Canonical := by
  refine (everyObject_object _).mpr ⟨Entries.ascending_ofList entries, ?_⟩
  intro e he
  exact h e (Entries.mem_ofList he)

theorem map_fst_ofJsonEntries (entries : List (String × Json)) :
    (ofJsonEntries entries).map Prod.fst = entries.map Prod.fst := by
  induction entries with
  | nil => rfl
  | cons e rest ih => rw [ofJsonEntries, List.map_cons, ih, List.map_cons]

theorem ascending_iff_map_fst {α : Type} (entries : List (String × α)) :
    Entries.Ascending entries ↔ (entries.map Prod.fst).Pairwise (· < ·) :=
  List.pairwise_map.symm

mutual

theorem canonical_ofJson : ∀ v : Json, v.Canonical → (ofJson v).Canonical
  | .null, _ => trivial
  | .bool _, _ => trivial
  | .number _, _ => trivial
  | .string _, _ => trivial
  | .array items, h => canonicalItems_ofJsonItems items h
  | .object entries, h => by
      refine ⟨?_, canonicalEntries_ofJsonEntries entries h.2⟩
      rw [ascending_iff_map_fst, map_fst_ofJsonEntries, ← ascending_iff_map_fst]
      exact h.1

theorem canonicalItems_ofJsonItems :
    ∀ items : List Json, Json.CanonicalItems items →
      EveryObjectItems Entries.Ascending (ofJsonItems items)
  | [], _ => trivial
  | v :: rest, h => ⟨canonical_ofJson v h.1, canonicalItems_ofJsonItems rest h.2⟩

theorem canonicalEntries_ofJsonEntries :
    ∀ entries : List (String × Json), Json.CanonicalEntries entries →
      EveryObjectEntries Entries.Ascending (ofJsonEntries entries)
  | [], _ => trivial
  | (_, v) :: rest, h => ⟨canonical_ofJson v h.1, canonicalEntries_ofJsonEntries rest h.2⟩

end

theorem decodeItems_cons_eq_ok_iff {place : Selector} {i : Nat} {v : Json} {rest : List Json}
    {ts : List Tree} :
    decodeItems place i (v :: rest) = .ok ts ↔
      ∃ t us, decodeAt (place.index i) v = .ok t ∧ decodeItems place (i + 1) rest = .ok us ∧
        ts = t :: us := by
  simp only [decodeItems, Except.bind_eq_ok_iff]
  constructor
  · rintro ⟨t, ht, us, hus, h⟩
    cases h
    exact ⟨t, us, ht, hus, rfl⟩
  · rintro ⟨t, us, ht, hus, rfl⟩
    exact ⟨t, ht, us, hus, rfl⟩

theorem decodeEntries_cons_eq_ok_iff {place : Selector} {e : String × Json}
    {rest : List (String × Json)} {ts : List (String × Tree)} :
    decodeEntries place (e :: rest) = .ok ts ↔
      ∃ t us, decodeAt (place.key e.1) e.2 = .ok t ∧ decodeEntries place rest = .ok us ∧
        ts = (e.1, t) :: us := by
  simp only [decodeEntries, Except.bind_eq_ok_iff]
  constructor
  · rintro ⟨t, ht, us, hus, h⟩
    cases h
    exact ⟨t, us, ht, hus, rfl⟩
  · rintro ⟨t, us, ht, hus, rfl⟩
    exact ⟨t, ht, us, hus, rfl⟩

end Tree

end ConsumerContract
