import ConsumerContract.Proofs.Compile.Rerooted

/-!
A template that is compiled once and repeated comes out like as many copies of it that are compiled
each, but that the rules of the one stand once, below `[*]`, and those of the other below every
index.
-/

namespace ConsumerContract

namespace Selector

theorem text_index (s : Selector) (i : Nat) :
    (s.index i).text.toList = s.text.toList ++ '[' :: (Nat.toDigits 10 i ++ [']']) := by
  rw [index, text_extend, String.toList_append, stepsText, String.toList_ofList]
  simp [stepChars, Step.chars]

theorem text_each (s : Selector) : s.each.text.toList = s.text.toList ++ ['[', '*', ']'] := by
  rw [each, text_extend, String.toList_append, stepsText, String.toList_ofList]
  rfl

theorem index_eq_of_text_append_eq {s : Selector} {i j : Nat} {a b : String}
    (h : (s.index i).text ++ a = (s.index j).text ++ b) : i = j := by
  have hchars := congrArg String.toList h
  simp only [String.toList_append, text_index, List.append_assoc, List.append_cancel_left_eq,
    List.cons_append, List.cons.injEq, true_and, List.nil_append] at hchars
  -- the digits end at the bracket, so no index is the beginning of another
  have hread : ∀ (m : Nat) (rest : List Char),
      (Nat.toDigits 10 m ++ ']' :: rest).takeWhile Char.isDigit = Nat.toDigits 10 m := by
    intro m rest
    rw [List.takeWhile_append_of_pos fun c hc =>
      Nat.isDigit_of_mem_toDigits (by decide) (by decide) hc]
    exact List.append_nil _
  have hdigits := congrArg (List.takeWhile Char.isDigit) hchars
  rw [hread, hread] at hdigits
  calc
    i = Nat.ofDigitChars 10 (Nat.toDigits 10 i) 0 := Nat.ofDigitChars_ten_toDigits.symm
    _ = Nat.ofDigitChars 10 (Nat.toDigits 10 j) 0 := by rw [hdigits]
    _ = j := Nat.ofDigitChars_ten_toDigits

theorem each_text_append_ne (s : Selector) (suffix : String) : s.each.text ++ suffix ≠ s.text := by
  intro h
  have hlength := congrArg List.length (congrArg String.toList h)
  rw [String.toList_append, text_each] at hlength
  simp at hlength

/-- A place within the items of an array that is right below the root, in the first item instead of
in every one. -/
def firstCopy : Selector → Selector
  | ⟨root, .key k :: .each :: rest⟩ => ⟨root, .key k :: .index 0 :: rest⟩
  | s => s

end Selector

namespace Tree

variable {accepts : String → Bool} {o : Options}

theorem firstFault?_copies_eq_none {place : Selector} {t : Tree} {depth : Nat}
    (h : firstFault? accepts o place (depth + 1) t.visits = none) (place' : Selector) (i m : Nat) :
    firstFault? accepts o place' depth (visitItems i (List.replicate m t)) = none := by
  induction m generalizing i with
  | zero => rfl
  | succ m ih =>
      rw [List.replicate_succ, firstFault?_items_cons, ih,
        firstFault?_eq_none_of_le (Nat.le_refl depth.succ) h]
      rfl

theorem firstFault?_copies (place : Selector) (depth i m : Nat) (t : Tree) :
    firstFault? accepts o place depth (visitItems i (List.replicate (m + 1) t)) =
      firstFault? accepts o (place.index i) (depth + 1) t.visits := by
  rw [List.replicate_succ, firstFault?_items_cons]
  cases hfirst : firstFault? accepts o (place.index i) (depth + 1) t.visits with
  | some f => rfl
  -- if the first copy has no fault, no other has
  | none => rw [firstFault?_copies_eq_none hfirst]; rfl

theorem recordsAt_copies (place : Selector) (n : Nat) (t : Tree) :
    recordsAt place (placedItems 0 (List.replicate n t)) =
      (List.range n).flatMap fun i => recordsAt (place.index i) t.placed := by
  have hfrom : ∀ i, recordsAt place (placedItems i (List.replicate n t)) =
      (List.range' i n).flatMap fun i => recordsAt (place.index i) t.placed := by
    induction n with
    | zero => exact fun _ => rfl
    | succ n ih =>
        intro i
        rw [List.replicate_succ, recordsAt_items_cons, ih, List.range'_succ, List.flatMap_cons]
  rw [hfrom, List.range_eq_range']

theorem get?_enter_copies_eq_some_iff (place : Selector) (n : Nat) (ps : List Placed) (s : String) :
    ∀ r, (Records.enter ((List.range n).flatMap fun i => recordsAt (place.index i) ps)
        .empty).get? s = some r ↔
      ∃ i, i < n ∧ ∃ suffix, s = (place.index i).text ++ suffix ∧
        ruleBelow? ps suffix = some r := by
  induction n with
  | zero => simp [Records.enter]
  | succ n ih =>
      intro r
      rw [List.range_succ, List.flatMap_append, List.flatMap_singleton, Records.enter_append]
      by_cases hs : ∃ suffix, s = (place.index n).text ++ suffix
      · obtain ⟨suffix, rfl⟩ := hs
        -- what the last copy enters is not among what those before it do
        have hearlier : (Records.enter ((List.range n).flatMap fun i =>
            recordsAt (place.index i) ps) .empty).get? ((place.index n).text ++ suffix) = none := by
          rw [Option.eq_none_iff_forall_ne_some]
          intro r' hr'
          obtain ⟨i, hi, suffix', htext, -⟩ := (ih r').mp hr'
          exact absurd (Selector.index_eq_of_text_append_eq htext) (Nat.ne_of_gt hi)
        rw [get?_enter_recordsAt, hearlier, Option.or_none]
        constructor
        · intro hr
          exact ⟨n, Nat.lt_succ_self n, suffix, rfl, hr⟩
        · rintro ⟨i, -, suffix', htext, hr⟩
          cases Selector.index_eq_of_text_append_eq htext
          rwa [(String.append_right_inj _).mp htext]
      · have hbelow : ∀ suffix, s ≠ (place.index n).text ++ suffix := not_exists.mp hs
        rw [get?_enter_recordsAt_of_not_below hbelow, ih]
        constructor
        · rintro ⟨i, hi, hr⟩
          exact ⟨i, Nat.lt_succ_of_lt hi, hr⟩
        · rintro ⟨i, hi, suffix, rfl, hr⟩
          have hne : i ≠ n := by
            rintro rfl
            exact hbelow suffix rfl
          exact ⟨i, Nat.lt_of_le_of_ne (Nat.le_of_lt_succ hi) hne, suffix, rfl, hr⟩

theorem firstFault?_entry (k : String) (u : Tree) :
    firstFault? accepts o .body 0 (object [(k, u)]).visits =
      firstFault? accepts o (Selector.body.key k) 1 u.visits := by
  have hroot : nodeFault? accepts o .body 0 (object [(k, u)]) = none := by
    simp [nodeFault?, ownFault?]
  rw [visits, firstFault?_cons_root, hroot, firstFault?_entries_cons, Option.none_or]
  exact Option.or_none

theorem recordsAt_entry (k : String) (u : Tree) :
    recordsAt .body (placed (object [(k, u)])) = recordsAt (Selector.body.key k) u.placed := by
  rw [placed, recordsAt_entries_cons]
  exact List.append_nil _

section

variable {c : Criterion} {n : UInt64}

theorem firstFault?_matched (hc : c.count? = some n) (hn : n ≤ o.maxRepeat) (k : String)
    (t : Tree) :
    firstFault? accepts o .body 0 (object [(k, .matcher c t)]).visits =
      (if o.maxDepth.toNat < 1 then some (.tooDeep o.maxDepth (Selector.body.key k)) else none).or
        (firstFault? accepts o (Selector.body.key k).each 2 t.visits) := by
  have hcopies : criterionFault? accepts o (Selector.body.key k) c = none := by
    cases c with
    | atLeast m => cases hc; exact if_neg (UInt64.not_lt.mpr hn)
    | atMost m => cases hc; exact if_neg (UInt64.not_lt.mpr hn)
    | _ => cases hc
  rw [firstFault?_entry, visits, firstFault?_cons_root, firstFault?_map_under,
    Criterion.payloadSteps_of_count? hc, nodeFault?, ownFault?, hcopies]
  rfl

theorem firstFault?_copied (hpos : 1 ≤ n) (k : String) (t : Tree) :
    firstFault? accepts o .body 0 (object [(k, .array (List.replicate n.toNat t))]).visits =
      (if o.maxDepth.toNat < 1 then some (.tooDeep o.maxDepth (Selector.body.key k)) else none).or
        (firstFault? accepts o ((Selector.body.key k).index 0) 2 t.visits) := by
  have hsucc : n.toNat = n.toNat - 1 + 1 :=
    (Nat.sub_add_cancel (UInt64.le_iff_toNat_le.mp hpos)).symm
  rw [firstFault?_entry, visits, firstFault?_cons_root, hsucc, firstFault?_copies]
  rfl

theorem get?_enter_matched (hc : c.count? = some n) (place : Selector) (t : Tree) (s : String) :
    ((recordsAt place (placed (.matcher c t))).enter .empty).get? s =
      if s = place.text then some c.rule
      else ((recordsAt place.each t.placed).enter .empty).get? s := by
  rw [recordsAt_matcher, Criterion.payloadSteps_of_count? hc, Records.enter_concat,
    KeyMap.get?_insert]
  rfl

theorem expansion_matched (hc : c.count? = some n) (t : Tree) :
    (matcher c t).expansion = (array (List.replicate n.toNat t)).expansion := by
  rw [expansion, expansion, Criterion.expand, hc, expandItems_eq_map, List.map_replicate]

theorem rules_of_matched_and_copied (hc : c.count? = some n) (p : Selector) (t : Tree) :
    let rules := (recordsAt p (placed (.matcher c t))).enter .empty
    let rules' := (recordsAt p (placed (.array (List.replicate n.toNat t)))).enter .empty
    rules.get? p.text = some c.rule ∧
      (∀ s r, rules.get? s = some r → s = p.text ∨ ∃ suffix, s = p.each.text ++ suffix) ∧
      ∀ s r, rules'.get? s = some r ↔
        ∃ i, i < n.toNat ∧ ∃ suffix, s = (p.index i).text ++ suffix ∧
          rules.get? (p.each.text ++ suffix) = some r := by
  have hbelow : ∀ suffix, ((recordsAt p (placed (.matcher c t))).enter .empty).get?
      (p.each.text ++ suffix) = ruleBelow? t.placed suffix := by
    intro suffix
    rw [get?_enter_matched hc, if_neg (p.each_text_append_ne suffix), get?_enter_recordsAt]
    exact Option.or_none
  refine ⟨?_, ?_, ?_⟩
  · rw [get?_enter_matched hc, if_pos rfl]
  · intro s r hr
    rw [get?_enter_matched hc] at hr
    split at hr
    · next hs => exact Or.inl hs
    · by_contra hnone
      simp only [not_or, not_exists] at hnone
      rw [get?_enter_recordsAt_of_not_below hnone.2] at hr
      cases hr
  · intro s r
    simp only [hbelow]
    rw [placed, recordsAt_copies]
    exact get?_enter_copies_eq_some_iff p n.toNat t.placed s r

theorem repeated_template_agrees_with_copies (accepts : String → Bool) (o : Options) (k : String)
    (t : Tree) (hc : c = .atLeast n ∨ c = .atMost n) (hpos : 1 ≤ n) (hn : n ≤ o.maxRepeat) :
    let p := Selector.body.key k
    let matched := object [(k, .matcher c t)]
    let copied := object [(k, .array (List.replicate n.toNat t))]
    ((∃ b, matched.compile accepts o = .ok b) ↔ ∃ b, copied.compile accepts o = .ok b) ∧
      (∀ b b', matched.compile accepts o = .ok b → copied.compile accepts o = .ok b' →
        b.body = b'.body ∧
          b.ruleAt? p.text = some c.rule ∧
          (∀ s r, b.ruleAt? s = some r → s = p.text ∨ ∃ suffix, s = p.each.text ++ suffix) ∧
          ∀ s r, b'.ruleAt? s = some r ↔
            ∃ i, i < n.toNat ∧ ∃ suffix, s = (p.index i).text ++ suffix ∧
              b.ruleAt? (p.each.text ++ suffix) = some r) ∧
      ∀ f, matched.compile accepts o = .error f →
        copied.compile accepts o = .error (f.relocate Selector.firstCopy) := by
  have hcount : c.count? = some n := by
    rcases hc with rfl | rfl <;> rfl
  intro p matched copied
  have hfaults : firstFault? accepts o .body 0 copied.visits =
      (firstFault? accepts o .body 0 matched.visits).map (Fault.relocate Selector.firstCopy) := by
    rw [firstFault?_matched hcount hn, firstFault?_copied hpos]
    split
    · rfl
    · exact firstFault?_relocate (fun _ => rfl) 2 t.visits
  rw [compile_of_isObject rfl, compile_of_isObject rfl]
  simp only [outcome_eq_ok_iff, outcome_eq_error_iff, hfaults, Option.map_eq_none_iff,
    Option.map_eq_some_iff]
  refine ⟨by simp, ?_, fun f hf => ⟨f, hf, rfl⟩⟩
  rintro b b' ⟨-, rfl⟩ ⟨-, rfl⟩
  refine ⟨congrArg (fun v => Json.object [(k, v)]) (expansion_matched hcount t), ?_⟩
  simp only [ContractBody.ruleAt?, matched, copied, recordsAt_entry]
  exact rules_of_matched_and_copied hcount p t

end

theorem repeated_template_agrees_with_copies_twelve :
    let t := object [("id", term "x" (like .null))]
    1 ≤ (12 : UInt64) ∧ (12 : UInt64) ≤ ({} : Options).maxRepeat ∧
      ∃ b', (object [("a", .array (List.replicate 12 t))]).compile (fun _ => true) {} = .ok b' ∧
        b'.ruleAt? "$.body.a[11].id" = some { kind := .regex, regex := some "x" } := by
  intro t
  have hpos : 1 ≤ (12 : UInt64) := by decide
  have hn : (12 : UInt64) ≤ ({} : Options).maxRepeat := by decide
  refine ⟨hpos, hn, _, rfl, ?_⟩
  have h := repeated_template_agrees_with_copies (fun _ => true) {} "a" t (.inl rfl) hpos hn
  refine ((h.2.1 _ _ rfl rfl).2.2.2 _ _).mpr ⟨11, by decide, ".id", by decide, ?_⟩
  rfl

end Tree

end ConsumerContract
