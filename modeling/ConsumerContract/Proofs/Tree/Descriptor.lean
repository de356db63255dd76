import ConsumerContract.Proofs.Record.Restoring
import ConsumerContract.Proofs.Tree.Members

/-!
The parts of a rule as they stand in a document become a matcher in two ways: they are read as a
rule, which an example is then put under, or as an encoded matcher, beside the example as its value.
A null part is absent for the first way and a fault for the second; without one the two ways agree.
-/

namespace ConsumerContract

structure Descriptor where
  kind : String
  regex : Option Json
  min : Option Json
  max : Option Json

def Rule.descriptor (r : Rule) : Descriptor :=
  ⟨r.kind.name, r.regex.map .string, r.min.map .ofNat64, r.max.map .ofNat64⟩

def Json.nonNull? : Option Json → Option Json
  | some .null => none
  | v? => v?

namespace Descriptor

def ruleMembers (d : Descriptor) : List (String × Option Json) :=
  [("match", some (.string d.kind)), ("max", d.max), ("min", d.min), ("regex", d.regex)]

def ruleJson (d : Descriptor) : Json := .ofMembers d.ruleMembers

def matcherMembers (d : Descriptor) (v : Json) : List (String × Option Json) :=
  [("max", d.max), ("min", d.min), (matcherKey, some (.string d.kind)), ("regex", d.regex),
    ("value", some v)]

def matcherJson (d : Descriptor) (v : Json) : Json := .ofMembers (d.matcherMembers v)

theorem ruleJson_eq (d : Descriptor) : d.ruleJson = .object (Schema.present d.ruleMembers) := rfl

theorem matcherJson_eq (d : Descriptor) (v : Json) :
    d.matcherJson v = .object (Schema.present (d.matcherMembers v)) := rfl

def HasNull (d : Descriptor) : Prop :=
  d.regex = some .null ∨ d.min = some .null ∨ d.max = some .null

def withoutNulls (d : Descriptor) : Descriptor :=
  ⟨d.kind, Json.nonNull? d.regex, Json.nonNull? d.min, Json.nonNull? d.max⟩

end Descriptor

variable {source : Source}

theorem Json.draft_ne_null {v : Json} (h : v ≠ .null) : v.draft ≠ .null := by
  cases v with
  | null => exact absurd rfl h
  | _ => exact Draft.noConfusion

theorem Reader.string_draft_eq_ok_iff {v : Json} {s : String} :
    Reader.string source v.draft = .ok s ↔ v = .string s := by
  cases v <;> simp [Json.draft, Reader.string]

theorem Reader.count_draft_eq_ok_iff {v : Json} {n : UInt64} :
    Reader.count source v.draft = .ok n ↔ v = .ofNat64 n := by
  cases v with
  | number m => cases m <;> simp [Json.draft, Reader.count, Json.ofNat64]
  | _ => simp [Json.draft, Reader.count, Json.ofNat64]

theorem RuleKind.reader_string_eq_ok_iff {name : String} {kind : RuleKind} :
    RuleKind.reader source (.string (some name)) = .ok kind ↔ name = kind.name := by
  constructor
  · intro h
    simp only [RuleKind.reader, Reader.variant, Entries.get?] at h
    split at h
    · next hfound =>
        cases h
        split at hfound
        · next hname => cases hfound; exact hname
        · split at hfound
          · next hname => cases hfound; exact hname
          · cases hfound
    · cases h
  · rintro rfl
    cases kind <;> rfl

section

variable {α : Type} {reader : Reader α} {v? : Option Json}

theorem readMember_optional_nonNull? :
    Schema.readMember (.optional reader) none source ((Json.nonNull? v?).map Json.draft) =
      Schema.readMember (.optional reader) none source (v?.map Json.draft) := by
  cases v? with
  | none => rfl
  | some v => cases v <;> rfl

theorem readMember_optional_eq_ok_iff {write : α → Json}
    (h : ∀ v a, reader source v.draft = .ok a ↔ v = write a) (hnull : v? ≠ some .null)
    {a? : Option α} :
    Schema.readMember (.optional reader) none source (v?.map Json.draft) = .ok a? ↔
      v? = a?.map write := by
  cases v? with
  | none => cases a? <;> simp [Schema.readMember]
  | some v =>
      have hv : v.draft ≠ .null := Json.draft_ne_null fun he => hnull (congrArg some he)
      have hmap : ∀ x : Except ReadFault α, x.map some = .ok a? ↔ ∃ a, x = .ok a ∧ a? = some a := by
        intro x
        cases x <;> simp [Except.map, eq_comm]
      rw [Option.map_some, Schema.readMember, Reader.optional.eq_2 _ _ _ hv, hmap]
      simp only [h]
      cases a? <;> simp

end

namespace Descriptor

def ruleDrafts (d : Descriptor) : Schema.Members :=
  [("match", some (.string (some d.kind))), ("max", d.max.map Json.draft),
    ("min", d.min.map Json.draft), ("regex", d.regex.map Json.draft)]

theorem draft_ruleJson (d : Descriptor) :
    d.ruleJson.draft =
      .object ((Schema.present d.ruleDrafts).map fun e => (some e.1, e.2)) true := by
  have hdrafts : d.ruleDrafts = d.ruleMembers.map fun m => (m.1, m.2.map Json.draft) := rfl
  rw [hdrafts, Schema.present_map, List.map_map, ruleJson_eq, Json.draft, Json.draftEntries_eq_map]
  rfl

theorem ofJson_ruleJson (d : Descriptor) :
    Rule.reader.ofJson d.ruleJson = do
      let kind ← RuleKind.reader .value (.string (some d.kind))
      let max ← Schema.readMember (.optional .count) none .value (d.max.map Json.draft)
      let min ← Schema.readMember (.optional .count) none .value (d.min.map Json.draft)
      let regex ← Schema.readMember (.optional .string) none .value (d.regex.map Json.draft)
      return { kind, regex, min, max } := by
  have hnodup : ((Schema.present d.ruleDrafts).map Prod.fst).Nodup :=
    (Schema.map_fst_present_sublist d.ruleDrafts).nodup (by simp [ruleDrafts])
  have hrequired : ∀ f ∈ Rule.schema.fields, f.required = true →
      f.name ∈ (Schema.present d.ruleDrafts).map Prod.fst := by
    simp [Rule.schema, Field.of, ruleDrafts, Schema.present]
  have henter : Source.value.enter? = some .value := rfl
  rw [Reader.ofJson, draft_ruleJson, Rule.reader, Schema.read_entries henter hnodup hrequired,
    ruleDrafts, Schema.fillAll_present_some rfl]
  -- the members are read in the order of their keys, each into what those before it have filled
  refine congrArg _ (funext fun kind => ?_)
  rw [Schema.fillAll_present_optional rfl rfl]
  refine congrArg _ (funext fun max => ?_)
  rw [Schema.fillAll_present_optional rfl rfl]
  refine congrArg _ (funext fun min => ?_)
  rw [Schema.fillAll_present_optional rfl rfl]
  rfl

theorem ofJson_withoutNulls (d : Descriptor) :
    Rule.reader.ofJson d.withoutNulls.ruleJson = Rule.reader.ofJson d.ruleJson := by
  rw [ofJson_ruleJson, ofJson_ruleJson]
  simp only [withoutNulls, readMember_optional_nonNull?]

theorem ofJson_ruleJson_eq_ok_iff {d : Descriptor} (h : ¬d.HasNull) {r : Rule} :
    Rule.reader.ofJson d.ruleJson = .ok r ↔ d = r.descriptor := by
  obtain ⟨kind, regex, min, max⟩ := d
  simp only [HasNull, not_or] at h
  obtain ⟨hregex, hmin, hmax⟩ := h
  have hpattern := @readMember_optional_eq_ok_iff .value String .string regex .string
    (fun _ _ => Reader.string_draft_eq_ok_iff) hregex
  have hbound : ∀ {v? : Option Json}, v? ≠ some .null → ∀ {n? : Option UInt64},
      Schema.readMember (.optional .count) none .value (v?.map Json.draft) = .ok n? ↔
        v? = n?.map .ofNat64 :=
    readMember_optional_eq_ok_iff fun _ _ => Reader.count_draft_eq_ok_iff
  simp only [ofJson_ruleJson, Except.bind_eq_ok_iff, RuleKind.reader_string_eq_ok_iff, hpattern,
    hbound hmin, hbound hmax]
  constructor
  · rintro ⟨kind, rfl, max, rfl, min, rfl, regex, rfl, h⟩
    cases h
    rfl
  · intro h
    cases h
    exact ⟨r.kind, rfl, r.max, rfl, r.min, rfl, r.regex, rfl, rfl⟩

theorem get?_matcherMembers (d : Descriptor) (v : Json) (k : String) :
    Entries.get? k (Schema.present (d.matcherMembers v)) =
      (Entries.get? k (d.matcherMembers v)).join :=
  Schema.get?_present (by simp only [matcherMembers, List.map_cons, List.map_nil]; decide) k

theorem get?_matcherKey_matcherMembers (d : Descriptor) (v : Json) :
    Entries.get? matcherKey (Schema.present (d.matcherMembers v)) = some (.string d.kind) :=
  get?_matcherMembers d v matcherKey

theorem holds_matcherMembers_iff {d : Descriptor} {v : Json} {r : Rule} :
    Tree.Holds (Schema.present (d.matcherMembers v)) r ↔ d = r.descriptor := by
  have hkind := get?_matcherKey_matcherMembers d v
  have hregex : Entries.get? "regex" (Schema.present (d.matcherMembers v)) = d.regex :=
    get?_matcherMembers d v "regex"
  have hmin : Entries.get? "min" (Schema.present (d.matcherMembers v)) = d.min :=
    get?_matcherMembers d v "min"
  have hmax : Entries.get? "max" (Schema.present (d.matcherMembers v)) = d.max :=
    get?_matcherMembers d v "max"
  obtain ⟨kind, regex, min, max⟩ := d
  constructor
  · rintro ⟨hkind', hregex', hmin', hmax'⟩
    cases hkind.symm.trans hkind'
    cases hregex.symm.trans hregex'
    cases hmin.symm.trans hmin'
    cases hmax.symm.trans hmax'
    rfl
  · intro h
    cases h
    exact ⟨hkind, hregex, hmin, hmax⟩

theorem decode_matcherJson_eq_ok_iff {d : Descriptor} {v : Json} {t : Tree} :
    Tree.decode (d.matcherJson v) = .ok t ↔
      ∃ c payload, d = c.rule.descriptor ∧ Tree.decode v = .ok payload ∧
        t = .matcher c payload := by
  have hmarked := get?_matcherKey_matcherMembers d v
  have hvalue : Entries.get? "value" (Schema.present (d.matcherMembers v)) = some v :=
    get?_matcherMembers d v "value"
  rw [matcherJson_eq, Tree.decode, Tree.decodeAt_marked_eq_ok_iff hmarked]
  simp only [holds_matcherMembers_iff]
  constructor
  · rintro ⟨c, w, payload, hd, hw, hpayload, ht⟩
    cases hvalue.symm.trans hw
    exact ⟨c, payload, hd, Tree.decodeAt_elsewhere hpayload .document, ht⟩
  · rintro ⟨c, payload, hd, hpayload, ht⟩
    exact ⟨c, v, payload, hd, hvalue, Tree.decodeAt_elsewhere hpayload _, ht⟩

theorem not_hasNull_descriptor (r : Rule) : ¬r.descriptor.HasNull := by
  simp [Rule.descriptor, HasNull, Json.ofNat64]

theorem malformed_of_ruleOf {marked : Json} {members : Tree.Members} {place : Selector}
    {kind : RuleKind} (hkind : Tree.kindOf marked place = .ok kind) {f : Fault}
    (h : Tree.ruleOf marked members place = .error f) :
    ∃ reason, f = .malformedRule place reason := by
  have hpattern : ∀ g, Tree.patternOf members place = .error g →
      ∃ reason, g = .malformedRule place reason := by
    intro g hg
    unfold Tree.patternOf at hg
    split at hg <;> cases hg
    exact ⟨_, rfl⟩
  have hbound : ∀ name g, Tree.boundOf name members place = .error g →
      ∃ reason, g = .malformedRule place reason := by
    intro name g hg
    unfold Tree.boundOf at hg
    split at hg <;> cases hg
    exact ⟨_, rfl⟩
  simp only [Tree.ruleOf, hkind, bind, Except.bind] at h
  split at h
  · next g hg => cases h; exact hpattern _ hg
  · split at h
    · next g hg => cases h; exact hbound _ _ hg
    · split at h
      · next g hg => cases h; exact hbound _ _ hg
      · cases h

theorem malformed_of_hasNull {d : Descriptor} {kind : RuleKind} (hkind : d.kind = kind.name)
    (hnull : d.HasNull) (v : Json) :
    ∃ reason, Tree.decode (d.matcherJson v) = .error (.malformedRule .document reason) := by
  have hmarked := get?_matcherKey_matcherMembers d v
  have hkindOf : Tree.kindOf (.string d.kind) .document = .ok kind :=
    Tree.kindOf_eq_ok_iff.mpr (congrArg Json.string hkind)
  cases hrule : Tree.ruleOf (.string d.kind) (Schema.present (d.matcherMembers v)) .document with
  | ok r =>
      have hd := holds_matcherMembers_iff.mp ((Tree.ruleOf_eq_ok_iff hmarked).mp hrule)
      exact absurd (hd ▸ hnull) (not_hasNull_descriptor r)
  | error f =>
      obtain ⟨reason, rfl⟩ := malformed_of_ruleOf hkindOf hrule
      refine ⟨reason, ?_⟩
      rw [matcherJson_eq, Tree.decode, Tree.decodeAt, hmarked]
      simp only [hrule, bind, Except.bind]

theorem read_alike_as_rule_and_as_matcher :
    (∀ (d : Descriptor) (v : Json) (e : Tree) (place : Selector), ¬d.HasNull →
      Tree.decode v = .ok e →
        (∀ t, Tree.decode (d.matcherJson v) = .ok t ↔
          ∃ rule m, Rule.reader.ofJson d.ruleJson = .ok rule ∧
            Tree.ofRule rule e place = .ok m ∧ t = m.tree) ∧
        ∀ rule m, Rule.reader.ofJson d.ruleJson = .ok rule → Tree.ofRule rule e place = .ok m →
          m.criterion.rule = rule ∧ m.payload = e) ∧
      (∀ (m : Matcher) (place : Selector),
        Tree.ofRule m.criterion.rule m.payload place = .ok m) ∧
      (∀ d : Descriptor,
        Rule.reader.ofJson d.ruleJson = Rule.reader.ofJson d.withoutNulls.ruleJson) ∧
      ∀ (d : Descriptor) (kind : RuleKind) (v : Json), d.kind = kind.name → d.HasNull →
        ∃ reason, Tree.decode (d.matcherJson v) = .error (.malformedRule .document reason) := by
  refine ⟨?_, fun m place => Tree.ofRule_eq_ok_iff.mpr ⟨rfl, rfl⟩,
    fun d => (ofJson_withoutNulls d).symm, fun d kind v hkind hnull =>
      malformed_of_hasNull hkind hnull v⟩
  intro d v e place hnull hv
  refine ⟨fun t => ?_, fun rule m _ hm => ?_⟩
  · simp only [decode_matcherJson_eq_ok_iff, ofJson_ruleJson_eq_ok_iff hnull,
      Tree.ofRule_eq_ok_iff]
    constructor
    · rintro ⟨c, payload, hd, hpayload, rfl⟩
      cases hv.symm.trans hpayload
      exact ⟨c.rule, ⟨c, e⟩, hd, ⟨rfl, rfl⟩, rfl⟩
    · rintro ⟨_, m, hd, ⟨rfl, rfl⟩, rfl⟩
      exact ⟨m.criterion, m.payload, hd, hv, rfl⟩
  · obtain ⟨hrule, hpayload⟩ := Tree.ofRule_eq_ok_iff.mp hm
    exact ⟨hrule.symm, hpayload.symm⟩

def atLeastTwo : Descriptor := ⟨"type", none, some (.ofNat64 2), none⟩

def atLeastTwoAtMostNull : Descriptor := { atLeastTwo with max := some .null }

theorem atLeastTwo_read_either_way :
    Tree.decode (atLeastTwo.matcherJson .null) = .ok (Tree.arrayMinLike 2 .null) ∧
      Rule.reader.ofJson atLeastTwoAtMostNull.ruleJson =
        Rule.reader.ofJson atLeastTwo.ruleJson ∧
      ∃ reason, Tree.decode (atLeastTwoAtMostNull.matcherJson .null) =
        .error (.malformedRule .document reason) := by
  obtain ⟨hagree, -, habsent, hmalformed⟩ := read_alike_as_rule_and_as_matcher
  have hnull : ¬atLeastTwo.HasNull := by simp [HasNull, atLeastTwo, Json.ofNat64]
  obtain ⟨hmatcher, -⟩ := hagree atLeastTwo .null .null .document hnull rfl
  refine ⟨(hmatcher _).mpr ⟨_, _, rfl, rfl, rfl⟩, habsent atLeastTwoAtMostNull, ?_⟩
  exact hmalformed atLeastTwoAtMostNull .type .null rfl (Or.inr (Or.inr rfl))

end Descriptor

end ConsumerContract
