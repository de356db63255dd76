import ConsumerContract.Proofs.Compile.Rerooted
import ConsumerContract.Proofs.Tree.Filling

namespace ConsumerContract.Tree

variable {accepts : String → Bool} {o : Options}

theorem visitItems_append (i : Nat) (a b : List Tree) :
    visitItems i (a ++ b) = visitItems i a ++ visitItems (i + a.length) b := by
  simp only [visitItems_eq_flatMap, List.zipIdx_append, List.flatMap_append]

theorem visitEntries_append (a b : List (String × Tree)) :
    visitEntries (a ++ b) = visitEntries a ++ visitEntries b := by
  simp only [visitEntries_eq_flatMap, List.flatMap_append]

theorem firstFault?_item (place : Selector) (depth : Nat) (before after : List Tree) (t : Tree) :
    firstFault? accepts o place depth (array (before ++ t :: after)).visits =
      (nodeFault? accepts o place depth .null).or
        ((firstFault? accepts o place depth (visitItems 0 before)).or
          ((firstFault? accepts o (place.index before.length) (depth + 1) t.visits).or
            (firstFault? accepts o place depth (visitItems (before.length + 1) after)))) := by
  rw [visits, firstFault?_cons_root, visitItems_append, firstFault?_append,
    firstFault?_items_cons, Nat.zero_add]
  rfl

theorem firstFault?_amid (place : Selector) (depth : Nat) (before after : List (String × Tree))
    (k : String) (t : Tree) :
    firstFault? accepts o place depth (object (before ++ (k, t) :: after)).visits =
      (nodeFault? accepts o place depth .null).or
        ((firstFault? accepts o place depth (visitEntries before)).or
          ((firstFault? accepts o (place.key k) (depth + 1) t.visits).or
            (firstFault? accepts o place depth (visitEntries after)))) := by
  rw [visits, firstFault?_cons_root, visitEntries_append, firstFault?_append,
    firstFault?_entries_cons]
  rfl

theorem firstFault?_fill {D : Context} {t : Tree} (u : Tree) :
    ∀ {place : Selector} {depth : Nat},
      firstFault? accepts o place depth (D.fill t).visits = none →
        firstFault? accepts o place depth (D.fill u).visits =
          firstFault? accepts o (place.extend D.steps) (depth + D.depth) u.visits := by
  induction D with
  | hole =>
      intro place depth _
      rw [Context.steps, Selector.extend_nil]
      rfl
  | item before inner after ih =>
      intro place depth h
      rw [Context.fill, firstFault?_item] at h
      simp only [Option.or_eq_none_iff] at h
      obtain ⟨hroot, hbefore, hinner, hafter⟩ := h
      have hdepth : depth + (inner.depth + 1) = depth + 1 + inner.depth := by omega
      rw [Context.fill, firstFault?_item, hroot, hbefore, hafter, ih hinner, Option.none_or,
        Option.none_or, Option.or_none, Context.steps, Context.depth, hdepth, Selector.index,
        Selector.extend_extend]
      rfl
  | entry before k inner after ih =>
      intro place depth h
      rw [Context.fill, firstFault?_amid] at h
      simp only [Option.or_eq_none_iff] at h
      obtain ⟨hroot, hbefore, hinner, hafter⟩ := h
      have hdepth : depth + (inner.depth + 1) = depth + 1 + inner.depth := by omega
      rw [Context.fill, firstFault?_amid, hroot, hbefore, hafter, ih hinner, Option.none_or,
        Option.none_or, Option.or_none, Context.steps, Context.depth, hdepth, Selector.key,
        Selector.extend_extend]
      rfl
  | payload c inner ih =>
      intro place depth h
      have hsame : nodeFault? accepts o place depth (matcher c (inner.fill t)) =
          nodeFault? accepts o place depth (matcher c (inner.fill u)) := rfl
      rw [Context.fill, visits, firstFault?_cons_root, firstFault?_map_under] at h
      simp only [Option.or_eq_none_iff] at h
      obtain ⟨hroot, hinner⟩ := h
      have hdepth : depth + (inner.depth + 1) = depth + 1 + inner.depth := by omega
      rw [Context.fill, visits, firstFault?_cons_root, firstFault?_map_under, ← hsame, hroot,
        ih hinner, Option.none_or, Context.steps, Context.depth, hdepth, Selector.extend_extend]

theorem Context.isObject_fill {D : Context} {t u : Tree} (ht : t.isObject = false)
    (h : (D.fill t).isObject = true) : (D.fill u).isObject = true := by
  cases D with
  | hole => rw [Context.fill, ht] at h; cases h
  | item before inner after => exact h
  | entry before k inner after => rfl
  | payload c inner => exact h

theorem firstFault?_term_null {q : String} {place : Selector} {depth : Nat}
    (hcheck : o.validatePatterns = true)
    (h : firstFault? accepts o place depth (term q .null).visits = none) {b : String}
    (hb : accepts b = false) :
    firstFault? accepts o place depth (term b .null).visits = some (.invalidPattern b place) := by
  rw [term, visits, firstFault?_cons_root, Option.or_eq_none_iff, nodeFault?_eq_none_iff] at h
  obtain ⟨⟨hdepth, -⟩, -⟩ := h
  have hown : nodeFault? accepts o place depth (matcher (.pattern b) .null) =
      some (.invalidPattern b place) := by
    rw [nodeFault?, if_neg (Nat.not_lt.mpr hdepth)]
    simp [ownFault?, criterionFault?, hcheck, hb]
  rw [term, visits, firstFault?_cons_root, hown]
  rfl

theorem decodeAt_term_null (place : Selector) (q : String) :
    decodeAt place (term q .null).encode = .ok (term q .null) :=
  decodeAt_encode place _ trivial

theorem decodeAt_unknown {members : Members} {kind : String} (place : Selector)
    (hkind : Entries.get? matcherKey members = some (.string kind)) (htype : kind ≠ "type")
    (hregex : kind ≠ "regex") :
    decodeAt place (.object members) = .error (.unknownMatcher kind place) := by
  have hrule : ruleOf (.string kind) members place = .error (.unknownMatcher kind place) := by
    simp [ruleOf, kindOf, bind, Except.bind]
  rw [decodeAt, hkind]
  simp only [hrule, bind, Except.bind]

theorem exists_ruleAt_of_stands {t : Tree} {b : ContractBody} (h : t.compile accepts o = .ok b)
    {steps : List Selector.Step} {m : Matcher} (hm : t.Stands steps m.tree) :
    ∃ r, b.ruleAt? (Selector.body.extend steps).text = some r := by
  cases eq_of_compile h
  obtain ⟨depth, hplaced⟩ := hm.exists_placed
  refine (Records.exists_get?_enter_empty_iff _ _).mpr ?_
  rw [recordsAt_body, List.map_map]
  exact List.mem_map.mpr ⟨_, hplaced, rfl⟩

theorem reader_and_compiler_name_one_place {C : Json.Context} (hentered : C.IsEntered)
    (hascending : C.IsAscending) {accepts : String → Bool} {o : Options}
    (hcheck : o.validatePatterns = true) {q b : String} (hb : accepts b = false) {t : Tree}
    {body : ContractBody}
    (ht : decode (C.fill (term q .null).encode) = .ok t) (hbody : t.compile accepts o = .ok body) :
    ∃ (s : String) (read compiled : Selector),
      read.text = "$" ++ s ∧ compiled.text = "$.body" ++ s ∧
        (∀ kind members, Entries.get? matcherKey members = some (.string kind) → kind ≠ "type" →
          kind ≠ "regex" →
            decode (C.fill (.object members)) = .error (.unknownMatcher kind read)) ∧
        (∃ t', decode (C.fill (term b .null).encode) = .ok t' ∧
          t'.compile accepts o = .error (.invalidPattern b compiled)) ∧
        ∃ r, body.ruleAt? compiled.text = some r := by
  obtain ⟨D, hD, u, hu, rfl⟩ := exists_readsAs hentered hascending ht
  rw [decodeAt_term_null] at hu
  cases hu
  obtain ⟨hobject, hnone, -⟩ := compile_eq_ok_iff.mp hbody
  refine ⟨Selector.stepsText C.steps, Selector.document.extend C.steps,
    Selector.body.extend C.steps, Selector.text_extend _ _, Selector.text_extend _ _, ?_, ?_, ?_⟩
  · intro kind members hkind htype hregex
    exact hD.error (decodeAt_unknown _ hkind htype hregex)
  · refine ⟨_, hD.ok (decodeAt_term_null _ b), ?_⟩
    have hhole := firstFault?_fill (term q .null) hnone
    rw [hnone] at hhole
    have hobject' : (D.fill (term b .null)).isObject = true := Context.isObject_fill rfl hobject
    rw [compile_of_isObject hobject', outcome_eq_error_iff, firstFault?_fill _ hnone, ← hD.steps]
    exact firstFault?_term_null hcheck hhole.symm hb
  · have hstands := D.stands_fill (term q .null)
    rw [hD.steps] at hstands
    exact exists_ruleAt_of_stands (m := ⟨.pattern q, .null⟩) hbody hstands

def idOfEachRow : Json.Context :=
  .entry [] "rows" (.item [.null] (.entry [("min", .ofNat64 2), (matcherKey, .string "type")] "value"
    (.entry [("a", .null)] "id" .hole []) []) []) []

theorem places_of_idOfEachRow :
    idOfEachRow.IsEntered ∧ idOfEachRow.IsAscending ∧
      (∃ t body, decode (idOfEachRow.fill (term "x" .null).encode) = .ok t ∧
        t.compile (fun p => p != "(") {} = .ok body ∧
        ∃ r, body.ruleAt? "$.body.rows[1][*].id" = some r) ∧
      decode (idOfEachRow.fill (.object [(matcherKey, .string "date")])) =
        .error (.unknownMatcher "date" ⟨.document, [.key "rows", .index 1, .each, .key "id"]⟩) ∧
      ∃ t' compiled, decode (idOfEachRow.fill (term "(" .null).encode) = .ok t' ∧
        t'.compile (fun p => p != "(") {} = .error (.invalidPattern "(" compiled) ∧
        compiled.text = "$.body.rows[1][*].id" := by
  have hentered : idOfEachRow.IsEntered := ⟨by decide, rfl, by decide, trivial⟩
  have hascending : idOfEachRow.IsAscending := ⟨by decide, by decide, by decide, trivial⟩
  obtain ⟨t, ht⟩ : ∃ t, decode (idOfEachRow.fill (term "x" .null).encode) = .ok t := ⟨_, rfl⟩
  obtain ⟨body, hbody⟩ : ∃ body, t.compile (fun p => p != "(") {} = .ok body := by
    cases ht
    exact ⟨_, rfl⟩
  obtain ⟨s, read, compiled, hread, hcompiled, hunknown, ⟨t', ht', hinvalid⟩, hrule⟩ :=
    @reader_and_compiler_name_one_place _ hentered hascending (fun p => p != "(") {} rfl "x" "(" rfl
      t body ht hbody
  have hdate := hunknown "date" [(matcherKey, .string "date")] rfl (by decide) (by decide)
  have hplace : decode (idOfEachRow.fill (.object [(matcherKey, .string "date")])) =
      .error (.unknownMatcher "date" ⟨.document, [.key "rows", .index 1, .each, .key "id"]⟩) := rfl
  -- the suffix is known from the reader, so the compiler's place is known as well
  have hsuffix : "$" ++ s = "$" ++ ".rows[1][*].id" := by
    rw [hplace] at hdate
    cases hdate
    rw [← hread]
    decide
  have hs := (String.append_right_inj _).mp hsuffix
  have htext : compiled.text = "$.body.rows[1][*].id" := by
    rw [hcompiled, hs]
    rfl
  rw [htext] at hrule
  exact ⟨hentered, hascending, ⟨t, body, ht, hbody, hrule⟩, hplace, t', compiled, ht', hinvalid,
    htext⟩

end ConsumerContract.Tree
