import ConsumerContract.Json.Draft
import ConsumerContract.Proofs.KeyMap

/-!
The ways in which a document gets to a reader: held at rest, with its entries in ascending order, or
as the text that it is written as. What readers of records need to know of a way is common to both.
-/

namespace ConsumerContract

namespace Source

def Admits : Nat → Source → Prop
  | _, .value => True
  | depth, .text room => depth ≤ room

theorem admits_value (depth : Nat) : Source.value.Admits depth := trivial

def inside : Source → Source
  | .value => .value
  | .text room => .text (room - 1)

theorem enter?_of_admits {source : Source} {depth : Nat} (h : source.Admits (depth + 1)) :
    source.enter? = some source.inside := by
  cases source with
  | value => rfl
  | text room =>
      cases room with
      | zero => exact absurd h (Nat.not_succ_le_zero depth)
      | succ room => rfl

theorem Admits.inside {source : Source} {depth : Nat} (h : source.Admits (depth + 1)) :
    source.inside.Admits depth := by
  cases source with
  | value => trivial
  | text room => exact Nat.le_sub_one_of_lt h

theorem Admits.mono {source : Source} {depth depth' : Nat} (h : source.Admits depth)
    (hle : depth' ≤ depth) : source.Admits depth' := by
  cases source with
  | value => trivial
  | text room => exact Nat.le_trans hle h

end Source

structure Drafting where
  draft : Json → Draft
  null : draft .null = .null
  bool : ∀ b, draft (.bool b) = .bool b
  natural : ∀ n, draft (.number (.natural n)) = .number (some (.natural n))
  string : ∀ s, draft (.string s) = .string (some s)
  array : ∀ items, draft (.array items) = .array (items.map draft) true
  object : ∀ entries : List (String × Json), (entries.map Prod.fst).Nodup →
    ∃ listed : List (String × Json), listed.Perm entries ∧
      (Entries.Ascending entries → listed = entries) ∧
      draft (.object entries) = .object (listed.map fun e => (some e.1, draft e.2)) true

namespace Json

theorem sortedItems_eq_map (items : List Json) : sortedItems items = items.map sorted := by
  induction items with
  | nil => rfl
  | cons v rest ih => rw [sortedItems, ih, List.map_cons]

theorem sortedEntries_eq_map (entries : List (String × Json)) :
    sortedEntries entries = entries.map fun e => (e.1, e.2.sorted) := by
  induction entries with
  | nil => rfl
  | cons e rest ih => rw [sortedEntries, ih, List.map_cons]

theorem draftItems_eq_map (items : List Json) : draftItems items = items.map draft := by
  induction items with
  | nil => rfl
  | cons v rest ih => rw [draftItems, ih, List.map_cons]

theorem draftEntries_eq_map (entries : List (String × Json)) :
    draftEntries entries = entries.map fun e => (some e.1, e.2.draft) := by
  induction entries with
  | nil => rfl
  | cons e rest ih => rw [draftEntries, ih, List.map_cons]

theorem sorted_of_canonical {v : Json} (h : v.Canonical) : v.sorted = v := by
  induction v with
  | array items ih =>
      have hitems := (canonicalItems_iff items).mp h
      have hsorted : items.map sorted = items :=
        List.map_congr_left (fun v hv => ih v hv (hitems v hv)) |>.trans (List.map_id items)
      rw [sorted, sortedItems_eq_map, hsorted]
  | object entries ih =>
      obtain ⟨hascending, hentries⟩ := h
      rw [canonicalEntries_iff] at hentries
      have hsorted : (entries.map fun e => (e.1, e.2.sorted)) = entries := by
        refine (List.map_congr_left fun e he => ?_).trans (List.map_id entries)
        rw [ih e he (hentries e he), id]
      rw [sorted, sortedEntries_eq_map, hsorted, Entries.ofList_of_ascending hascending]
  | _ => rfl

end Json

namespace Draft

mutual

theorem canonical_of_json? {source : Source} :
    ∀ {d : Draft} {v : Json}, d.json? source = some v → v.Canonical
  | .broken, _, h => by cases h
  | .null, _, h => by cases h; trivial
  | .bool _, _, h => by cases h; trivial
  | .number _, _, h => by
      obtain ⟨_, -, rfl⟩ := Option.map_eq_some_iff.mp h
      trivial
  | .string _, _, h => by
      obtain ⟨_, -, rfl⟩ := Option.map_eq_some_iff.mp h
      trivial
  | .array items closed, v, h => by
      simp only [json?] at h
      split at h
      · obtain ⟨vs, hvs, rfl⟩ := Option.map_eq_some_iff.mp h
        exact canonicalItems_of_items? hvs
      · cases h
  | .object entries closed, v, h => by
      simp only [json?] at h
      split at h
      · obtain ⟨es, hes, rfl⟩ := Option.map_eq_some_iff.mp h
        have hcanonical := (Json.canonicalEntries_iff es).mp (canonicalEntries_of_entries? hes)
        refine ⟨Entries.ascending_ofList es, (Json.canonicalEntries_iff _).mpr ?_⟩
        exact fun e he => hcanonical e (Entries.mem_ofList he)
      · cases h

theorem canonicalItems_of_items? {source : Source} :
    ∀ {items : List Draft} {vs : List Json}, items? source items = some vs →
      Json.CanonicalItems vs
  | [], _, h => by cases h; trivial
  | d :: rest, vs, h => by
      rw [items?] at h
      split at h
      · next hv hrest =>
          cases h
          exact ⟨canonical_of_json? hv, canonicalItems_of_items? hrest⟩
      · cases h

theorem canonicalEntries_of_entries? {source : Source} :
    ∀ {entries : List (Option String × Draft)} {es : List (String × Json)},
      entries? source entries = some es → Json.CanonicalEntries es
  | [], _, h => by cases h; trivial
  | (k?, d) :: rest, es, h => by
      simp only [entries?] at h
      split at h
      · next hv hrest =>
          cases h
          exact ⟨canonical_of_json? hv, canonicalEntries_of_entries? hrest⟩
      · cases h

end

theorem items?_map_eq_some {source : Source} {write : Json → Draft} {items : List Json}
    (h : ∀ v ∈ items, (write v).json? source = some v) :
    items? source (items.map write) = some items := by
  induction items with
  | nil => rfl
  | cons v rest ih =>
      obtain ⟨hv, hrest⟩ := List.forall_mem_cons.mp h
      simp only [List.map_cons, items?, hv, ih hrest]

theorem entries?_map_eq_some {source : Source} {write : Json → Draft}
    {entries : List (String × Json)} (h : ∀ e ∈ entries, (write e.2).json? source = some e.2) :
    entries? source (entries.map fun e => (some e.1, write e.2)) = some entries := by
  induction entries with
  | nil => rfl
  | cons e rest ih =>
      obtain ⟨he, hrest⟩ := List.forall_mem_cons.mp h
      simp only [List.map_cons, entries?, he, ih hrest]

theorem json?_draft {v : Json} (h : v.Canonical) : v.draft.json? .value = some v := by
  induction v with
  | array items ih =>
      have hitems := (Json.canonicalItems_iff items).mp h
      have hdraft := items?_map_eq_some fun v hv => ih v hv (hitems v hv)
      simp only [Json.draft, Json.draftItems_eq_map, json?, Source.enter?, hdraft, Option.map_some]
  | object entries ih =>
      obtain ⟨hascending, hentries⟩ := h
      rw [Json.canonicalEntries_iff] at hentries
      have hdraft := entries?_map_eq_some fun e he => ih e he (hentries e he)
      simp only [Json.draft, Json.draftEntries_eq_map, json?, Source.enter?, hdraft,
        Option.map_some, Entries.ofList_of_ascending hascending]
  | _ => rfl

end Draft

namespace Drafting

def atRest : Drafting where
  draft v := v.sorted.draft
  null := rfl
  bool _ := rfl
  natural _ := rfl
  string _ := rfl
  array items := by
    simp only [Json.sorted, Json.draft, Json.sortedItems_eq_map, Json.draftItems_eq_map,
      List.map_map, Function.comp_def]
  object entries hnodup := by
    refine ⟨Entries.ofList entries, Entries.ofList_perm hnodup, Entries.ofList_of_ascending, ?_⟩
    simp only [Json.sorted, Json.draft, Json.sortedEntries_eq_map, Json.draftEntries_eq_map,
      Entries.ofList_map, List.map_map, Function.comp_def]

theorem draft_atRest (v : Json) : atRest.draft v = v.sorted.draft := rfl

end Drafting

end ConsumerContract
