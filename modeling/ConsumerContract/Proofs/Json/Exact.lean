import ConsumerContract.Proofs.Json.Reread

namespace ConsumerContract

namespace Json

mutual

def nesting : Json → Nat
  | .array items => nestingItems items + 1
  | .object entries => nestingEntries entries + 1
  | _ => 0

def nestingItems : List Json → Nat
  | [] => 0
  | v :: rest => max (nesting v) (nestingItems rest)

def nestingEntries : List (String × Json) → Nat
  | [] => 0
  | (_, v) :: rest => max (nesting v) (nestingEntries rest)

end

mutual

def FloatFree : Json → Prop
  | .number n => n.IsInteger
  | .array items => FloatFreeItems items
  | .object entries => FloatFreeEntries entries
  | _ => True

def FloatFreeItems : List Json → Prop
  | [] => True
  | v :: rest => FloatFree v ∧ FloatFreeItems rest

def FloatFreeEntries : List (String × Json) → Prop
  | [] => True
  | (_, v) :: rest => FloatFree v ∧ FloatFreeEntries rest

end

theorem nestingItems_le_iff {items : List Json} {n : Nat} :
    nestingItems items ≤ n ↔ ∀ v ∈ items, v.nesting ≤ n := by
  induction items with
  | nil => simp [nestingItems]
  | cons v rest ih => rw [nestingItems, Nat.max_le, ih, List.forall_mem_cons]

theorem nestingEntries_le_iff {entries : List (String × Json)} {n : Nat} :
    nestingEntries entries ≤ n ↔ ∀ e ∈ entries, e.2.nesting ≤ n := by
  induction entries with
  | nil => simp [nestingEntries]
  | cons e rest ih => rw [nestingEntries, Nat.max_le, ih, List.forall_mem_cons]

theorem floatFreeItems_iff (items : List Json) :
    FloatFreeItems items ↔ ∀ v ∈ items, v.FloatFree := by
  induction items with
  | nil => simp [FloatFreeItems]
  | cons v rest ih => rw [FloatFreeItems, ih, List.forall_mem_cons]

theorem floatFreeEntries_iff (entries : List (String × Json)) :
    FloatFreeEntries entries ↔ ∀ e ∈ entries, e.2.FloatFree := by
  induction entries with
  | nil => simp [FloatFreeEntries]
  | cons e rest ih => rw [FloatFreeEntries, ih, List.forall_mem_cons]

end Json

namespace Draft

theorem items?_eq_none {source : Source} {write : Json → Draft} {items : List Json} {v : Json}
    (hv : v ∈ items) (h : (write v).json? source = none) :
    items? source (items.map write) = none := by
  induction items with
  | nil => exact absurd hv List.not_mem_nil
  | cons w rest ih =>
      simp only [List.map_cons, items?]
      rcases List.mem_cons.mp hv with rfl | hv
      · simp only [h]
      · simp only [ih hv]
        cases (write w).json? source <;> rfl

theorem entries?_eq_none {source : Source} {write : Json → Draft} {entries : List (String × Json)}
    {e : String × Json} (he : e ∈ entries) (h : (write e.2).json? source = none) :
    entries? source (entries.map fun e => (some e.1, write e.2)) = none := by
  induction entries with
  | nil => exact absurd he List.not_mem_nil
  | cons e' rest ih =>
      simp only [List.map_cons, entries?]
      rcases List.mem_cons.mp he with rfl | he
      · simp only [h]
      · simp only [ih he]
        cases (write e'.2).json? source <;> rfl

theorem json?_textDraft {v : Json} (hcanonical : v.Canonical) (hfloat : v.FloatFree) (room : Nat) :
    v.textDraft.json? (.text room) = if v.nesting ≤ room then some v else none := by
  induction v generalizing room with
  | number n => simp [Json.textDraft, json?, Number.reread_of_isInteger hfloat, Json.nesting]
  | array items ih =>
      rw [Json.textDraft, Json.textDraftItems_eq_map, Json.nesting]
      cases room with
      | zero => simp [json?, Source.enter?]
      | succ room =>
          have hitems := (Json.canonicalItems_iff items).mp hcanonical
          have hfloats := (Json.floatFreeItems_iff items).mp hfloat
          have hread := fun v hv => ih v hv (hitems v hv) (hfloats v hv) room
          simp only [json?, Source.enter?, Nat.add_le_add_iff_right]
          split
          · next hle =>
              rw [Json.nestingItems_le_iff] at hle
              rw [items?_map_eq_some fun v hv => by rw [hread v hv, if_pos (hle v hv)]]
              rfl
          · next hle =>
              rw [Json.nestingItems_le_iff] at hle
              simp only [not_forall, Nat.not_le] at hle
              obtain ⟨v, hv, hdeep⟩ := hle
              rw [items?_eq_none hv (by rw [hread v hv, if_neg (Nat.not_le.mpr hdeep)])]
              rfl
  | object entries ih =>
      rw [Json.textDraft, Json.textDraftEntries_eq_map, Json.nesting]
      cases room with
      | zero => simp [json?, Source.enter?]
      | succ room =>
          obtain ⟨hascending, hentries⟩ := hcanonical
          rw [Json.canonicalEntries_iff] at hentries
          have hfloats := (Json.floatFreeEntries_iff entries).mp hfloat
          have hread := fun e he => ih e he (hentries e he) (hfloats e he) room
          simp only [json?, Source.enter?, Nat.add_le_add_iff_right]
          split
          · next hle =>
              rw [Json.nestingEntries_le_iff] at hle
              rw [entries?_map_eq_some fun e he => by rw [hread e he, if_pos (hle e he)],
                Option.map_some, Entries.ofList_of_ascending hascending]
          · next hle =>
              rw [Json.nestingEntries_le_iff] at hle
              simp only [not_forall, Nat.not_le] at hle
              obtain ⟨e, he, hdeep⟩ := hle
              rw [entries?_eq_none he (by rw [hread e he, if_neg (Nat.not_le.mpr hdeep)])]
              rfl
  | _ => simp [Json.textDraft, json?, Json.nesting]

end Draft

end ConsumerContract
