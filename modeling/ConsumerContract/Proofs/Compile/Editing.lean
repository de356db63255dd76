import ConsumerContract.Proofs.Compile.Collision
import ConsumerContract.Proofs.Json.Follow
import ConsumerContract.Proofs.Tree.Filling

/-!
Two trees that differ only in what fills a hole are compiled to the same rules, but for those
written behind the place of the hole, and to documents that differ only in the values that the steps
to the hole lead to.
-/

namespace ConsumerContract

open Selector (Step)

namespace Tree

variable {accepts : String → Bool} {o : Options}

theorem EveryObject.of_stands {P : List (String × Tree) → Prop} {t u : Tree} {steps : List Step}
    (h : t.Stands steps u) (ht : t.EveryObject P) : u.EveryObject P := by
  induction h with
  | here t => exact ht
  | inside hpart _ _ ih => exact ih (of_part hpart ht)

theorem placedItems_append (i : Nat) (a b : List Tree) :
    placedItems i (a ++ b) = placedItems i a ++ placedItems (i + a.length) b := by
  simp only [placedItems_eq_flatMap, List.zipIdx_append, List.flatMap_append]

theorem placedEntries_append (a b : List (String × Tree)) :
    placedEntries (a ++ b) = placedEntries a ++ placedEntries b := by
  simp only [placedEntries_eq_flatMap, List.flatMap_append]

theorem recordsAt_item (place : Selector) (before after : List Tree) (t : Tree) :
    recordsAt place (array (before ++ t :: after)).placed =
      recordsAt place (placedItems 0 before) ++
        (recordsAt (place.index before.length) t.placed ++
          recordsAt place (placedItems (before.length + 1) after)) := by
  rw [placed, placedItems_append, recordsAt_append, recordsAt_items_cons, Nat.zero_add]

theorem recordsAt_amid (place : Selector) (before after : List (String × Tree)) (k : String)
    (t : Tree) :
    recordsAt place (object (before ++ (k, t) :: after)).placed =
      recordsAt place (placedEntries before) ++
        (recordsAt (place.key k) t.placed ++ recordsAt place (placedEntries after)) := by
  rw [placed, placedEntries_append, recordsAt_append, recordsAt_entries_cons]

theorem exists_recordsAt_fill (D : Context) (place : Selector) :
    ∃ before after : Records, ∀ t, recordsAt place (D.fill t).placed =
      before ++ (recordsAt (place.extend D.steps) t.placed ++ after) := by
  induction D generalizing place with
  | hole =>
      refine ⟨[], [], fun t => ?_⟩
      rw [Context.fill, Context.steps, Selector.extend_nil, List.nil_append, List.append_nil]
  | item items inner items' ih =>
      obtain ⟨before, after, h⟩ := ih (place.index items.length)
      refine ⟨recordsAt place (placedItems 0 items) ++ before,
        after ++ recordsAt place (placedItems (items.length + 1) items'), fun t => ?_⟩
      rw [Context.fill, recordsAt_item, h, Context.steps, Selector.index, Selector.extend_extend]
      simp only [List.append_assoc, List.singleton_append]
  | entry entries k inner entries' ih =>
      obtain ⟨before, after, h⟩ := ih (place.key k)
      refine ⟨recordsAt place (placedEntries entries) ++ before,
        after ++ recordsAt place (placedEntries entries'), fun t => ?_⟩
      rw [Context.fill, recordsAt_amid, h, Context.steps, Selector.key, Selector.extend_extend]
      simp only [List.append_assoc, List.singleton_append]
  | payload c inner ih =>
      obtain ⟨before, after, h⟩ := ih (place.extend c.payloadSteps)
      refine ⟨before, after ++ [(place, c.rule)], fun t => ?_⟩
      rw [Context.fill, recordsAt_matcher, h, Context.steps, Selector.extend_extend]
      simp only [List.append_assoc]

theorem get?_enter_fill_eq {D : Context} {place : Selector} {t u : Tree} {s : String}
    (ht : ∀ x ∈ recordsAt (place.extend D.steps) t.placed, x.1.text ≠ s)
    (hu : ∀ x ∈ recordsAt (place.extend D.steps) u.placed, x.1.text ≠ s) (rules : RuleTable) :
    ((recordsAt place (D.fill t).placed).enter rules).get? s =
      ((recordsAt place (D.fill u).placed).enter rules).get? s := by
  obtain ⟨before, after, h⟩ := exists_recordsAt_fill D place
  have haround : ∀ v : Tree, (∀ x ∈ recordsAt (place.extend D.steps) v.placed, x.1.text ≠ s) →
      ((recordsAt place (D.fill v).placed).enter rules).get? s =
        ((after.enter .empty).get? s).or ((before.enter rules).get? s) := by
    intro v hv
    rw [h, Records.enter_append, Records.enter_append, Records.get?_enter_eq_or,
      Records.get?_enter_of_ne hv]
  rw [haround t ht, haround u hu]

theorem text_ne_of_mem_recordsAt {place : Selector} {t : Tree} (ht : t.HasPlainKeys) {s : String}
    (hs : ∀ rest : List Step, (∀ step ∈ rest, step.IsPlain) → s ≠ (place.extend rest).text) :
    ∀ x ∈ recordsAt place t.placed, x.1.text ≠ s := by
  intro x hx
  obtain ⟨p, hp, rfl⟩ := List.mem_map.mp hx
  have hplain : ∀ step ∈ p.steps, step.IsPlain := ht.isPlain_of_stands (stands_of_mem_placed hp)
  exact (hs p.steps hplain).symm

theorem put?_expansion_fill {D : Context} {t : Tree} (u : Tree) (h : (D.fill t).Canonical) :
    (D.fill t).expansion.put? D.steps u.expansion = some (D.fill u).expansion := by
  induction D with
  | hole => rfl
  | item before inner after ih =>
      have hinner : (inner.fill t).Canonical := (everyObject_array _).mp h _ (by simp)
      have hat : ((before ++ inner.fill t :: after).map expansion)[before.length]? =
          some (inner.fill t).expansion := by simp
      have hset : ((before ++ inner.fill t :: after).map expansion).set before.length
          (inner.fill u).expansion = (before ++ inner.fill u :: after).map expansion := by simp
      rw [Context.fill, Context.fill, expansion, expansion, Context.steps, expandItems_eq_map,
        expandItems_eq_map, Json.put?, hat, Option.bind_some, ih hinner, Option.map_some, hset]
  | entry before k inner after ih =>
      obtain ⟨hascending, hentries⟩ := (everyObject_object _).mp h
      have hinner : (inner.fill t).Canonical := hentries (k, inner.fill t) (by simp)
      have hmap : ∀ v : Tree, expandEntries (before ++ (k, v) :: after) =
          expandEntries before ++ (k, v.expansion) :: expandEntries after := by
        intro v
        simp only [expandEntries_eq_map, List.map_append, List.map_cons]
      have hexpanded : Entries.Ascending (expandEntries before ++
          (k, (inner.fill t).expansion) :: expandEntries after) := by
        rw [← hmap, expandEntries_eq_map]
        exact List.pairwise_map.mpr hascending
      rw [Context.fill, Context.fill, expansion, expansion, Context.steps, hmap, hmap, Json.put?,
        Entries.get?_append_cons_self hexpanded, Option.bind_some, ih hinner, Option.map_some,
        Entries.insert_append_cons_self hexpanded]
  | payload c inner ih =>
      have hinner : (inner.fill t).Canonical := (everyObject_matcher _ _).mp h
      rw [Context.fill, Context.fill, expansion, expansion, Context.steps, Criterion.expand,
        Criterion.expand]
      cases hc : c.count? with
      | none =>
          rw [Criterion.payloadSteps_of_count?_none hc, List.nil_append]
          exact ih hinner
      | some n =>
          have hcopies : (List.replicate n.toNat (inner.fill t).expansion).mapM
              (fun v => v.put? inner.steps u.expansion) =
                some (List.replicate n.toNat (inner.fill u).expansion) :=
            List.mapM_replicate_eq_some (f := fun v => Json.put? inner.steps v u.expansion)
              (ih hinner) _
          rw [Criterion.payloadSteps_of_count? hc, List.singleton_append, Json.put?, hcopies,
            Option.map_some]

theorem edit_stays_at_its_place (accepts : String → Bool) (o : Options) {D : Context} {t u : Tree}
    {b c : ContractBody} (ht : (D.fill t).Canonical) (hu : (D.fill u).Canonical)
    (htkeys : (D.fill t).HasPlainKeys) (hukeys : (D.fill u).HasPlainKeys)
    (hb : (D.fill t).compile accepts o = .ok b) (hc : (D.fill u).compile accepts o = .ok c) :
    (∀ s, (∀ rest : List Step, (∀ step ∈ rest, step.IsPlain) →
        s ≠ (Selector.body.extend (D.steps ++ rest)).text) → b.ruleAt? s = c.ruleAt? s) ∧
      (∀ steps : List Step, (∀ step ∈ steps, step.IsPlain) → ¬D.steps <+: steps →
        b.ruleAt? (Selector.body.extend steps).text =
          c.ruleAt? (Selector.body.extend steps).text) ∧
      ∃ v, b.body.put? D.steps .null = some v ∧ c.body.put? D.steps .null = some v := by
  cases eq_of_compile hb
  cases eq_of_compile hc
  have htinner : t.HasPlainKeys := htkeys.of_stands (D.stands_fill t)
  have huinner : u.HasPlainKeys := hukeys.of_stands (D.stands_fill u)
  have hrules : ∀ s, (∀ rest : List Step, (∀ step ∈ rest, step.IsPlain) →
      s ≠ (Selector.body.extend (D.steps ++ rest)).text) →
      ((recordsAt .body (D.fill t).placed).enter .empty).get? s =
        ((recordsAt .body (D.fill u).placed).enter .empty).get? s := by
    intro s hs
    simp only [← Selector.extend_extend] at hs
    exact get?_enter_fill_eq (text_ne_of_mem_recordsAt htinner hs)
      (text_ne_of_mem_recordsAt huinner hs) .empty
  refine ⟨hrules, ?_, (D.fill .null).expansion, put?_expansion_fill .null ht,
    put?_expansion_fill .null hu⟩
  intro steps hsteps hnot
  -- all keys are plain here, so that places written alike are one place
  refine hrules _ fun rest hrest htext => hnot ⟨rest, ?_⟩
  have hhole : ∀ step ∈ D.steps, step.IsPlain := htkeys.isPlain_of_stands (D.stands_fill t)
  have hbelow : ∀ step ∈ D.steps ++ rest, step.IsPlain := by
    intro step hstep
    rcases List.mem_append.mp hstep with hstep | hstep
    · exact hhole step hstep
    · exact hrest step hstep
  exact Selector.eq_of_stepChars_eq hbelow hsteps
    ((Selector.text_extend_eq_iff _ _ _).mp htext.symm)

def labelOfEachRow : Context :=
  .entry [("row", like .null)] "rows" (.payload (.atLeast 2)
    (.entry [("id", like .null)] "label" (.payload (.pattern "x") .hole) []))
    [("rows2", like .null)]

theorem labelOfEachRow_edited :
    ∃ b c, (labelOfEachRow.fill (.string "x")).compile (fun _ => true) {} = .ok b ∧
      (labelOfEachRow.fill (.array [like .null])).compile (fun _ => true) {} = .ok c ∧
      b.ruleAt? "$.body.rows[*].label[0]" ≠ c.ruleAt? "$.body.rows[*].label[0]" ∧
      (∀ s ∈ ["$.body.row", "$.body.rows", "$.body.rows[*].id", "$.body.rows2"],
        b.ruleAt? s ≠ none ∧ b.ruleAt? s = c.ruleAt? s) ∧
      ∃ v, b.body.put? [.key "rows", .each, .key "label"] .null = some v ∧
        c.body.put? [.key "rows", .each, .key "label"] .null = some v := by
  obtain ⟨b, hb⟩ : ∃ b, (labelOfEachRow.fill (.string "x")).compile (fun _ => true) {} = .ok b :=
    ⟨_, rfl⟩
  obtain ⟨c, hc⟩ :
      ∃ c, (labelOfEachRow.fill (.array [like .null])).compile (fun _ => true) {} = .ok c :=
    ⟨_, rfl⟩
  obtain ⟨-, hrules, hbodies⟩ := edit_stays_at_its_place (fun _ => true) {} (by decide) (by decide)
    (by decide) (by decide) hb hc
  refine ⟨b, c, hb, hc, ?_, ?_, hbodies⟩
  · cases hb
    cases hc
    decide
  · intro s hs
    refine ⟨?_, ?_⟩
    · cases hb
      revert s
      decide
    · simp only [List.mem_cons, List.not_mem_nil, or_false] at hs
      rcases hs with rfl | rfl | rfl | rfl
      · exact hrules [.key "row"] (by decide) (by decide)
      · exact hrules [.key "rows"] (by decide) (by decide)
      · exact hrules [.key "rows", .each, .key "id"] (by decide) (by decide)
      · exact hrules [.key "rows2"] (by decide) (by decide)

end Tree

end ConsumerContract
