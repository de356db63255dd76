import ConsumerContract.Proofs.Compile.Rerooted

/-!
Trees that are documents. Compiling gives them back, with no rules, as long as no value of theirs
lies too deep, and what any tree compiles to is such a document.
-/

namespace ConsumerContract

namespace Json

mutual

def height : Json → Nat
  | .array items => heightItems items
  | .object entries => heightEntries entries
  | _ => 0

def heightItems : List Json → Nat
  | [] => 0
  | v :: rest => max (height v + 1) (heightItems rest)

def heightEntries : List (String × Json) → Nat
  | [] => 0
  | (_, v) :: rest => max (height v + 1) (heightEntries rest)

end

theorem heightItems_le_iff {items : List Json} {n : Nat} :
    heightItems items ≤ n ↔ ∀ v ∈ items, v.height + 1 ≤ n := by
  induction items with
  | nil => simp [heightItems]
  | cons v rest ih => rw [heightItems, Nat.max_le, ih, List.forall_mem_cons]

theorem heightEntries_le_iff {entries : List (String × Json)} {n : Nat} :
    heightEntries entries ≤ n ↔ ∀ e ∈ entries, e.2.height + 1 ≤ n := by
  induction entries with
  | nil => simp [heightEntries]
  | cons e rest ih => rw [heightEntries, Nat.max_le, ih, List.forall_mem_cons]

end Json

namespace Tree

mutual

def height : Tree → Nat
  | .array items => heightItems items
  | .object entries => heightEntries entries
  | .matcher _ payload => height payload + 1
  | _ => 0

def heightItems : List Tree → Nat
  | [] => 0
  | t :: rest => max (height t + 1) (heightItems rest)

def heightEntries : List (String × Tree) → Nat
  | [] => 0
  | (_, t) :: rest => max (height t + 1) (heightEntries rest)

end

theorem heightItems_le_iff {items : List Tree} {n : Nat} :
    heightItems items ≤ n ↔ ∀ t ∈ items, t.height + 1 ≤ n := by
  induction items with
  | nil => simp [heightItems]
  | cons t rest ih => rw [heightItems, Nat.max_le, ih, List.forall_mem_cons]

theorem heightEntries_le_iff {entries : List (String × Tree)} {n : Nat} :
    heightEntries entries ≤ n ↔ ∀ e ∈ entries, e.2.height + 1 ≤ n := by
  induction entries with
  | nil => simp [heightEntries]
  | cons e rest ih => rw [heightEntries, Nat.max_le, ih, List.forall_mem_cons]

theorem height_le_iff {t : Tree} {n : Nat} :
    t.height ≤ n ↔ ∀ e ∈ t.parts, e.2.height + 1 ≤ n := by
  cases t with
  | array items =>
      rw [height, heightItems_le_iff]
      constructor
      · intro h e he
        obtain ⟨i, t, hi, rfl⟩ := mem_parts_array.mp he
        exact h t (List.mem_of_getElem? hi)
      · intro h t ht
        obtain ⟨i, hi⟩ := List.getElem?_of_mem ht
        exact h _ (mem_parts_array.mpr ⟨i, t, hi, rfl⟩)
  | object entries =>
      rw [height, heightEntries_le_iff, parts, List.forall_mem_map]
  | matcher c payload => rw [height, parts, List.forall_mem_singleton]
  | _ => exact iff_of_true (Nat.zero_le n) (List.forall_mem_nil _)

theorem height_expand_le (c : Criterion) (v : Json) : (c.expand v).height ≤ v.height + 1 := by
  rw [Criterion.expand]
  split
  · exact Nat.le_succ _
  -- no copies at all make an array without values, which is less high than the template
  · refine Json.heightItems_le_iff.mpr fun w hw => ?_
    rw [List.eq_of_mem_replicate hw]

theorem height_expansion_le (t : Tree) : t.expansion.height ≤ t.height := by
  induction t with
  | array items ih =>
      have hitems := heightItems_le_iff.mp (Nat.le_refl (heightItems items))
      rw [expansion, expandItems_eq_map]
      refine Json.heightItems_le_iff.mpr (List.forall_mem_map.mpr fun t ht => ?_)
      exact (Nat.succ_le_succ (ih t ht)).trans (hitems t ht)
  | object entries ih =>
      have hentries := heightEntries_le_iff.mp (Nat.le_refl (heightEntries entries))
      rw [expansion, expandEntries_eq_map]
      refine Json.heightEntries_le_iff.mpr (List.forall_mem_map.mpr fun e he => ?_)
      exact (Nat.succ_le_succ (ih e he)).trans (hentries e he)
  | matcher c payload ih =>
      exact (height_expand_le c payload.expansion).trans (Nat.succ_le_succ ih)
  | _ => exact Nat.le_refl 0

mutual

theorem height_ofJson : ∀ v : Json, (ofJson v).height = v.height
  | .null => rfl
  | .bool _ => rfl
  | .number _ => rfl
  | .string _ => rfl
  | .array items => by rw [ofJson, height, Json.height, heightItems_ofJsonItems items]
  | .object entries => by rw [ofJson, height, Json.height, heightEntries_ofJsonEntries entries]

theorem heightItems_ofJsonItems :
    ∀ items : List Json, heightItems (ofJsonItems items) = Json.heightItems items
  | [] => rfl
  | v :: rest => by
      rw [ofJsonItems, heightItems, Json.heightItems, height_ofJson v, heightItems_ofJsonItems rest]

theorem heightEntries_ofJsonEntries :
    ∀ entries : List (String × Json),
      heightEntries (ofJsonEntries entries) = Json.heightEntries entries
  | [] => rfl
  | (_, v) :: rest => by
      rw [ofJsonEntries, heightEntries, Json.heightEntries, height_ofJson v,
        heightEntries_ofJsonEntries rest]

end

variable {accepts : String → Bool} {o : Options}

theorem firstFault?_flatMap_under (place : Selector) (depth : Nat)
    (es : List (List Selector.Step × Tree)) :
    firstFault? accepts o place depth (es.flatMap fun e => e.2.visits.map (Visit.under e.1)) =
      es.findSome? fun e => firstFault? accepts o (place.extend e.1) (depth + 1) e.2.visits := by
  induction es with
  | nil => rfl
  | cons e rest ih =>
      rw [List.flatMap_cons, firstFault?_append, firstFault?_map_under, ih, List.findSome?_cons]
      cases firstFault? accepts o (place.extend e.1) (depth + 1) e.2.visits <;> rfl

theorem firstFault?_parts (place : Selector) (depth : Nat) (t : Tree) :
    firstFault? accepts o place depth t.visits =
      (nodeFault? accepts o place depth t).or (t.parts.findSome? fun e =>
        firstFault? accepts o (place.extend e.1) (depth + 1) e.2.visits) := by
  rw [visits_eq_parts, firstFault?_cons_root, firstFault?_flatMap_under]

theorem height_le_of_firstFault?_eq_none {t : Tree} {place : Selector} {depth : Nat}
    (h : firstFault? accepts o place depth t.visits = none) :
    depth + t.height ≤ o.maxDepth.toNat := by
  induction t using part_induction generalizing place depth with
  | h t ih =>
      rw [firstFault?_parts, Option.or_eq_none_iff, List.findSome?_eq_none_iff] at h
      have hroot := (nodeFault?_eq_none_iff.mp h.1).1
      have hparts : t.height ≤ o.maxDepth.toNat - depth := by
        refine height_le_iff.mpr fun e he => ?_
        have := ih e he (h.2 e he)
        omega
      omega

theorem length_steps_of_part {t : Tree} (ht : t.placed = []) {e : List Selector.Step × Tree}
    (he : e ∈ t.parts) : e.1.length = 1 ∧ e.2.placed = [] := by
  rw [placed_eq_parts, List.append_eq_nil_iff, List.flatMap_eq_nil_iff] at ht
  refine ⟨?_, List.map_eq_nil_iff.mp (ht.1 e he)⟩
  cases t with
  | array items =>
      obtain ⟨i, t, -, rfl⟩ := mem_parts_array.mp he
      rfl
  | object entries =>
      obtain ⟨k, t, -, rfl⟩ := mem_parts_object.mp he
      rfl
  | matcher c payload => exact absurd ht.2 (List.cons_ne_nil _ _)
  | _ => exact absurd he List.not_mem_nil

theorem ownFault?_of_placed_eq_nil {t : Tree} (ht : t.placed = []) (place : Selector) :
    ownFault? accepts o place t = none := by
  cases t with
  | matcher c payload =>
      rw [placed_eq_parts, List.append_eq_nil_iff] at ht
      exact absurd ht.2 (List.cons_ne_nil _ _)
  | _ => rfl

/-- Without matchers a tree can only be too deep. That is found on the first level that is, since
all those above it are come to before. -/
theorem tooDeep_of_firstFault? {t : Tree} (ht : t.placed = []) {place : Selector} {depth : Nat}
    (hdepth : depth ≤ o.maxDepth.toNat + 1) {f : Fault}
    (h : firstFault? accepts o place depth t.visits = some f) :
    o.maxDepth.toNat < depth + t.height ∧ ∃ steps, depth + steps.length = o.maxDepth.toNat + 1 ∧
      f = .tooDeep o.maxDepth (place.extend steps) := by
  induction t using part_induction generalizing place depth with
  | h t ih =>
      rw [firstFault?_parts, Option.or_eq_some_iff] at h
      rcases h with hroot | ⟨hroot, hparts⟩
      · rw [nodeFault?, ownFault?_of_placed_eq_nil ht] at hroot
        split at hroot
        · next hdeep =>
            cases hroot
            exact ⟨by omega, [], by rw [List.length_nil]; omega, by rw [Selector.extend_nil]⟩
        · cases hroot
      · obtain ⟨e, he, hfault⟩ := List.exists_of_findSome?_eq_some hparts
        obtain ⟨hstep, hpart⟩ := length_steps_of_part ht he
        have hdepth := (nodeFault?_eq_none_iff.mp hroot).1
        obtain ⟨hdeep, steps, hlength, rfl⟩ := ih e he hpart (Nat.succ_le_succ hdepth) hfault
        have hheight := height_le_iff.mp (Nat.le_refl t.height) e he
        refine ⟨by omega, e.1 ++ steps, ?_, by rw [Selector.extend_extend]⟩
        rw [List.length_append, hstep]
        omega

theorem isObject_ofJson_expansion {t : Tree} (ht : t.isObject = true) :
    (ofJson t.expansion).isObject = true := by
  cases t with
  | object entries => rfl
  | _ => cases ht

theorem compile_ofJson_of_height_le {v : Json} (hobject : (ofJson v).isObject = true)
    (h : v.height ≤ o.maxDepth.toNat) : (ofJson v).compile accepts o = .ok ⟨v, .empty⟩ := by
  refine compile_eq_ok_iff.mpr ⟨hobject, ?_, ?_⟩
  · rw [Option.eq_none_iff_forall_ne_some]
    intro f hf
    have hdeep := (tooDeep_of_firstFault? (placed_ofJson v) (Nat.zero_le _) hf).1
    rw [height_ofJson] at hdeep
    omega
  · rw [expansion_ofJson, placed_ofJson]
    rfl

theorem compile_ofJson_of_lt_height {v : Json} (hobject : (ofJson v).isObject = true)
    (h : o.maxDepth.toNat < v.height) :
    ∃ steps, steps.length = o.maxDepth.toNat + 1 ∧
      (ofJson v).compile accepts o = .error (.tooDeep o.maxDepth (Selector.body.extend steps)) := by
  rw [compile_of_isObject hobject]
  cases hfault : firstFault? accepts o .body 0 (ofJson v).visits with
  | none =>
      have hle := height_le_of_firstFault?_eq_none hfault
      rw [height_ofJson] at hle
      omega
  | some f =>
      obtain ⟨-, steps, hlength, rfl⟩ :=
        tooDeep_of_firstFault? (placed_ofJson v) (Nat.zero_le _) hfault
      exact ⟨steps, by omega, rfl⟩

theorem documents_compile_to_themselves (accepts : String → Bool) (o : Options) :
    (∀ entries, (Json.object entries).height ≤ o.maxDepth.toNat →
      (ofJson (.object entries)).compile accepts o = .ok ⟨.object entries, .empty⟩) ∧
      (∀ entries, o.maxDepth.toNat < (Json.object entries).height →
        ∃ steps, steps.length = o.maxDepth.toNat + 1 ∧
          (ofJson (.object entries)).compile accepts o =
            .error (.tooDeep o.maxDepth (Selector.body.extend steps))) ∧
      ∀ t b, Tree.compile accepts o t = .ok b →
        b.body.height ≤ t.height ∧ (ofJson b.body).compile accepts o = .ok ⟨b.body, .empty⟩ := by
  refine ⟨fun entries => compile_ofJson_of_height_le rfl,
    fun entries => compile_ofJson_of_lt_height rfl, fun t b h => ?_⟩
  obtain ⟨hobject, hfault, rfl⟩ := compile_eq_ok_iff.mp h
  have hheight := height_expansion_le t
  have hle := height_le_of_firstFault?_eq_none hfault
  rw [Nat.zero_add] at hle
  exact ⟨hheight, compile_ofJson_of_height_le (isObject_ofJson_expansion hobject)
    (hheight.trans hle)⟩

def listedNames : Tree :=
  .object [("names", arrayMinLike 2 (term "x" (like (.string "x"))))]

theorem compile_listedNames :
    (∃ b, listedNames.compile (fun _ => true) { maxDepth := 4 } = .ok b ∧
      b.body.height ≤ listedNames.height ∧
      (ofJson b.body).compile (fun _ => true) { maxDepth := 4 } = .ok ⟨b.body, .empty⟩) ∧
      (ofJson (.object [("names", .array [.string "x", .string "x"])])).compile (fun _ => true)
          { maxDepth := 2 } = .ok ⟨.object [("names", .array [.string "x", .string "x"])], .empty⟩ ∧
      ∃ steps, steps.length = 2 ∧
        (ofJson (.object [("names", .array [.string "x", .string "x"])])).compile (fun _ => true)
          { maxDepth := 1 } = .error (.tooDeep 1 (Selector.body.extend steps)) := by
  refine ⟨⟨_, rfl, ?_⟩, ?_, ?_⟩
  · exact (documents_compile_to_themselves (fun _ => true) { maxDepth := 4 }).2.2 _ _ rfl
  · exact (documents_compile_to_themselves (fun _ => true) { maxDepth := 2 }).1 _ (by decide)
  · exact (documents_compile_to_themselves (fun _ => true) { maxDepth := 1 }).2.1 _ (by decide)

end Tree

end ConsumerContract
