import ConsumerContract.Proofs.Tree.Canonical
import ConsumerContract.Tree.Encode

namespace ConsumerContract.Tree

variable {place : Selector} {members : Members}

theorem kindOf_eq_ok_iff {marked : Json} {kind : RuleKind} :
    kindOf marked place = .ok kind ↔ marked = kind.json := by
  constructor
  · intro h
    unfold kindOf at h
    split at h <;> cases h <;> rfl
  · rintro rfl
    cases kind <;> rfl

theorem patternOf_eq_ok_iff {p? : Option String} :
    patternOf members place = .ok p? ↔ Entries.get? "regex" members = p?.map .string := by
  unfold patternOf
  split
  · next h => cases p? <;> simp [h]
  · next p h => cases p? <;> simp [h]
  · next v hv h =>
      cases p? with
      | none => simp [h]
      | some p => simpa [h] using hv p

theorem boundOf_eq_ok_iff {name : String} {n? : Option UInt64} :
    boundOf name members place = .ok n? ↔ Entries.get? name members = n?.map .ofNat64 := by
  unfold boundOf
  split
  · next h => cases n? <;> simp [h]
  · next n h => cases n? <;> simp [h, Json.ofNat64]
  · next v hv h =>
      cases n? with
      | none => simp [h]
      | some n => simpa [h, Json.ofNat64] using hv n

structure Holds (members : Members) (rule : Rule) : Prop where
  kind : Entries.get? matcherKey members = some rule.kind.json
  regex : Entries.get? "regex" members = rule.regex.map .string
  min : Entries.get? "min" members = rule.min.map .ofNat64
  max : Entries.get? "max" members = rule.max.map .ofNat64

theorem ruleOf_eq_ok_iff {marked : Json} (hmarked : Entries.get? matcherKey members = some marked)
    {rule : Rule} : ruleOf marked members place = .ok rule ↔ Holds members rule := by
  unfold ruleOf
  constructor
  · intro h
    obtain ⟨kind, hkind, h⟩ := Except.bind_eq_ok_iff.mp h
    obtain ⟨regex, hregex, h⟩ := Except.bind_eq_ok_iff.mp h
    obtain ⟨min, hmin, h⟩ := Except.bind_eq_ok_iff.mp h
    obtain ⟨max, hmax, h⟩ := Except.bind_eq_ok_iff.mp h
    cases h
    exact ⟨hmarked.trans (congrArg some (kindOf_eq_ok_iff.mp hkind)),
      patternOf_eq_ok_iff.mp hregex, boundOf_eq_ok_iff.mp hmin, boundOf_eq_ok_iff.mp hmax⟩
  · intro h
    have hkind := Option.some.inj (hmarked.symm.trans h.kind)
    simp only [kindOf_eq_ok_iff.mpr hkind, patternOf_eq_ok_iff.mpr h.regex,
      boundOf_eq_ok_iff.mpr h.min, boundOf_eq_ok_iff.mpr h.max, bind, Except.bind, pure,
      Except.pure]

theorem ofRule_eq_ok_iff {rule : Rule} {payload : Tree} {m : Matcher} :
    ofRule rule payload place = .ok m ↔ rule = m.criterion.rule ∧ payload = m.payload := by
  obtain ⟨c, u⟩ := m
  unfold ofRule
  constructor
  · intro h
    split at h
    · next c' hc =>
        cases h
        exact ⟨(Rule.rule_of_criterion hc).symm, rfl⟩
    · cases h
  · rintro ⟨rfl, rfl⟩
    rw [Rule.criterion_rule]

theorem decodeValue_eq (place : Selector) (members : Members) :
    decodeValue place members = match Entries.get? "value" members with
      | none => .ok none
      | some v => (decodeAt place v).map some := by
  induction members with
  | nil => rfl
  | cons e rest ih =>
      obtain ⟨k, v⟩ := e
      rw [decodeValue, Entries.get?]
      split
      · rfl
      · exact ih

theorem decodeAt_unmarked {entries : Members} (h : Entries.get? matcherKey entries = none) :
    decodeAt place (.object entries) = (decodeEntries place entries).map .object := by
  rw [decodeAt, h]

theorem decodeAt_marked_eq_ok_iff {entries : Members} {marked : Json}
    (hmarked : Entries.get? matcherKey entries = some marked) {t : Tree} :
    decodeAt place (.object entries) = .ok t ↔
      ∃ c v payload, Holds entries c.rule ∧ Entries.get? "value" entries = some v ∧
        decodeAt (payloadPlace c.rule place) v = .ok payload ∧ t = .matcher c payload := by
  rw [decodeAt, hmarked]
  simp only [decodeValue_eq]
  constructor
  · intro h
    obtain ⟨rule, hrule, h⟩ := Except.bind_eq_ok_iff.mp h
    obtain ⟨payload?, hpayload, h⟩ := Except.bind_eq_ok_iff.mp h
    cases payload? with
    | none => obtain ⟨_, he, -⟩ := Except.bind_eq_ok_iff.mp h; cases he
    | some payload =>
        obtain ⟨_, he, h⟩ := Except.bind_eq_ok_iff.mp h
        cases he
        obtain ⟨m, hm, h⟩ := Except.bind_eq_ok_iff.mp h
        cases h
        obtain ⟨rfl, rfl⟩ := ofRule_eq_ok_iff.mp hm
        cases hv : Entries.get? "value" entries with
        | none => rw [hv] at hpayload; cases hpayload
        | some v =>
            rw [hv] at hpayload
            obtain ⟨_, hpayload, he⟩ := Except.map_eq_ok_iff.mp hpayload
            cases he
            exact ⟨m.criterion, v, m.payload, (ruleOf_eq_ok_iff hmarked).mp hrule, rfl, hpayload,
              rfl⟩
  · rintro ⟨c, v, payload, hholds, hv, hpayload, rfl⟩
    have hm : ofRule c.rule payload place = .ok ⟨c, payload⟩ := ofRule_eq_ok_iff.mpr ⟨rfl, rfl⟩
    simp only [(ruleOf_eq_ok_iff hmarked).mpr hholds, hv, hpayload, hm, bind, Except.bind,
      Except.map, pure, Except.pure, Matcher.tree]

theorem decodeItems_elsewhere {items : List Json}
    (ih : ∀ v ∈ items, ∀ {place t}, decodeAt place v = .ok t → ∀ place', decodeAt place' v = .ok t)
    {i : Nat} {ts : List Tree} (h : decodeItems place i items = .ok ts) (place' : Selector) :
    decodeItems place' i items = .ok ts := by
  induction items generalizing i ts with
  | nil => exact h
  | cons v rest ihrest =>
      obtain ⟨hv, hrest⟩ := List.forall_mem_cons.mp ih
      obtain ⟨t, us, ht, hus, rfl⟩ := decodeItems_cons_eq_ok_iff.mp h
      exact decodeItems_cons_eq_ok_iff.mpr ⟨t, us, hv ht _, ihrest hrest hus, rfl⟩

theorem decodeEntries_elsewhere {entries : Members}
    (ih : ∀ e ∈ entries, ∀ {place t}, decodeAt place e.2 = .ok t →
      ∀ place', decodeAt place' e.2 = .ok t)
    {ts : List (String × Tree)} (h : decodeEntries place entries = .ok ts) (place' : Selector) :
    decodeEntries place' entries = .ok ts := by
  induction entries generalizing ts with
  | nil => exact h
  | cons e rest ihrest =>
      obtain ⟨hv, hrest⟩ := List.forall_mem_cons.mp ih
      obtain ⟨t, us, ht, hus, rfl⟩ := decodeEntries_cons_eq_ok_iff.mp h
      exact decodeEntries_cons_eq_ok_iff.mpr ⟨t, us, hv ht _, ihrest hrest hus, rfl⟩

/-- The place only goes into faults. -/
theorem decodeAt_elsewhere {v : Json} :
    ∀ {place t}, decodeAt place v = .ok t → ∀ place', decodeAt place' v = .ok t := by
  induction v with
  | array items ih =>
      intro place t h place'
      rw [decodeAt] at h
      obtain ⟨ts, hts, rfl⟩ := Except.map_eq_ok_iff.mp h
      rw [decodeAt, decodeItems_elsewhere ih hts place']
      rfl
  | object entries ih =>
      intro place t h place'
      cases hmarked : Entries.get? matcherKey entries with
      | none =>
          rw [decodeAt_unmarked hmarked] at h
          obtain ⟨ts, hts, rfl⟩ := Except.map_eq_ok_iff.mp h
          rw [decodeAt_unmarked hmarked, decodeEntries_elsewhere ih hts place']
          rfl
      | some marked =>
          obtain ⟨c, v, payload, hholds, hv, hpayload, ht⟩ :=
            (decodeAt_marked_eq_ok_iff hmarked).mp h
          have hpayload' := ih _ (Entries.mem_of_get? hv) hpayload (payloadPlace c.rule place')
          exact (decodeAt_marked_eq_ok_iff hmarked).mpr
            ⟨c, v, payload, hholds, hv, hpayload', ht⟩
  | _ => exact fun h _ => h

theorem map_fst_of_decodeEntries {place : Selector} :
    ∀ {entries : List (String × Json)} {ts : List (String × Tree)},
      decodeEntries place entries = .ok ts → ts.map Prod.fst = entries.map Prod.fst := by
  intro entries
  induction entries with
  | nil =>
      intro ts h
      cases h
      rfl
  | cons e rest ih =>
      intro ts h
      obtain ⟨t, us, -, hus, rfl⟩ := decodeEntries_cons_eq_ok_iff.mp h
      rw [List.map_cons, List.map_cons, ih hus]

theorem canonicalItems_of_decodeItems {items : List Json}
    (ih : ∀ v ∈ items, ∀ {place t}, v.Canonical → decodeAt place v = .ok t → t.Canonical)
    (hitems : Json.CanonicalItems items) {i : Nat} {ts : List Tree}
    (h : decodeItems place i items = .ok ts) : EveryObjectItems Entries.Ascending ts := by
  induction items generalizing i ts with
  | nil => cases h; trivial
  | cons v rest ihrest =>
      obtain ⟨hv, hrest⟩ := List.forall_mem_cons.mp ih
      obtain ⟨t, us, ht, hus, rfl⟩ := decodeItems_cons_eq_ok_iff.mp h
      exact ⟨hv hitems.1 ht, ihrest hrest hitems.2 hus⟩

theorem canonicalEntries_of_decodeEntries {entries : Members}
    (ih : ∀ e ∈ entries, ∀ {place t}, e.2.Canonical → decodeAt place e.2 = .ok t → t.Canonical)
    (hentries : Json.CanonicalEntries entries) {ts : List (String × Tree)}
    (h : decodeEntries place entries = .ok ts) : EveryObjectEntries Entries.Ascending ts := by
  induction entries generalizing ts with
  | nil => cases h; trivial
  | cons e rest ihrest =>
      obtain ⟨hv, hrest⟩ := List.forall_mem_cons.mp ih
      obtain ⟨t, us, ht, hus, rfl⟩ := decodeEntries_cons_eq_ok_iff.mp h
      exact ⟨hv hentries.1 ht, ihrest hrest hentries.2 hus⟩

theorem canonical_of_decodeAt {v : Json} :
    ∀ {place t}, v.Canonical → decodeAt place v = .ok t → t.Canonical := by
  induction v with
  | array items ih =>
      intro place t hv h
      rw [decodeAt] at h
      obtain ⟨ts, hts, rfl⟩ := Except.map_eq_ok_iff.mp h
      exact canonicalItems_of_decodeItems ih hv hts
  | object entries ih =>
      intro place t hv h
      cases hmarked : Entries.get? matcherKey entries with
      | none =>
          rw [decodeAt_unmarked hmarked] at h
          obtain ⟨ts, hts, rfl⟩ := Except.map_eq_ok_iff.mp h
          refine ⟨?_, canonicalEntries_of_decodeEntries ih hv.2 hts⟩
          rw [ascending_iff_map_fst, map_fst_of_decodeEntries hts, ← ascending_iff_map_fst]
          exact hv.1
      | some marked =>
          obtain ⟨c, w, payload, -, hw, hpayload, rfl⟩ :=
            (decodeAt_marked_eq_ok_iff hmarked).mp h
          have hmem := Entries.mem_of_get? hw
          have hw' := (Json.canonicalEntries_iff entries).mp hv.2 _ hmem
          exact (everyObject_matcher ..).mpr (ih _ hmem hw' hpayload)
  | _ =>
      intro place t _ h
      cases h
      trivial

end ConsumerContract.Tree
