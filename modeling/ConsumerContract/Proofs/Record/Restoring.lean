import ConsumerContract.Contract
import ConsumerContract.Proofs.Json.Drafting
import ConsumerContract.Proofs.Record.Members

/-!
Whatever way the document of a record comes, and as long as its containers may nest deep enough, the
record is read back. Of a contract only the bodies depend on the way, and the options of compiling
are not in the document.
-/

namespace ConsumerContract

variable {ρ α : Type} {way : Drafting} {source inner : Source}

namespace Schema

theorem read_ofMembers {schema : Schema ρ} (hlawful : schema.Lawful)
    (henter : source.enter? = some inner) {members : List (String × Option Json)}
    (hnames : schema.fields.map Field.name = members.map Prod.fst)
    (hrequired : ∀ f ∈ schema.fields, f.required = true → ∃ v, (f.name, some v) ∈ members)
    {r : ρ} :
    schema.read source (way.draft (.ofMembers members)) = .ok r ↔
      fillMembers inner schema.fields (members.map fun m => (m.1, m.2.map way.draft))
        schema.blank = .ok r := by
  have hnodup : ((present members).map Prod.fst).Nodup :=
    (hnames ▸ hlawful.names).sublist (map_fst_present_sublist members)
  obtain ⟨listed, hperm, -, hdraft⟩ := way.object _ hnodup
  have hpresent : (listed.map fun e => (e.1, way.draft e.2)).Perm
      (present (members.map fun m => (m.1, m.2.map way.draft))) := by
    rw [present_map]
    exact hperm.map _
  have hnames' : schema.fields.map Field.name =
      (members.map fun m => (m.1, m.2.map way.draft)).map Prod.fst := by
    rw [hnames, List.map_map]
    rfl
  have hdraft' : way.draft (.ofMembers members) =
      .object ((listed.map fun e => (e.1, way.draft e.2)).map fun e => (some e.1, e.2)) true := by
    rw [List.map_map]
    exact hdraft
  rw [hdraft']
  refine read_members hlawful henter hnames' (fun f hf hreq => ?_) hpresent
  obtain ⟨v, hv⟩ := hrequired f hf hreq
  exact ⟨way.draft v, List.mem_map.mpr ⟨_, hv, rfl⟩⟩

theorem read_object {schema : Schema ρ} (hlawful : schema.Lawful)
    (henter : source.enter? = some inner) {entries : List (String × Json)}
    (hnames : schema.fields.map Field.name = entries.map Prod.fst) {r : ρ} :
    schema.read source (way.draft (.object entries)) = .ok r ↔
      fillMembers inner schema.fields (entries.map fun e => (e.1, some (way.draft e.2)))
        schema.blank = .ok r := by
  have hall : Json.object entries = .ofMembers (entries.map fun e => (e.1, some e.2)) := by
    rw [Json.ofMembers, List.filterMap_map]
    exact congrArg Json.object List.filterMap_some.symm
  have hnames' : schema.fields.map Field.name =
      (entries.map fun e => (e.1, some e.2)).map Prod.fst := by
    rw [hnames, List.map_map]
    rfl
  have hpresent : ∀ f ∈ schema.fields, f.required = true →
      ∃ v, (f.name, some v) ∈ entries.map fun e => (e.1, some e.2) := by
    intro f hf _
    have hname : f.name ∈ entries.map Prod.fst := hnames ▸ List.mem_map.mpr ⟨f, hf, rfl⟩
    obtain ⟨e, he, hname⟩ := List.mem_map.mp hname
    exact ⟨e.2, List.mem_map.mpr ⟨e, he, by rw [hname]⟩⟩
  rw [hall, read_ofMembers hlawful henter hnames' hpresent, List.map_map]
  rfl

variable {name k : String} {required : Bool} {reader : Reader α} {put : α → ρ → ρ}
  {fields : List (Field ρ)} {members : Members} {r r' : ρ}

theorem fillMembers_nil_iff :
    fillMembers source ([] : List (Field ρ)) [] r = .ok r' ↔ r = r' := by
  simp [fillMembers]

theorem fillMembers_some {d : Draft} :
    fillMembers source (.of name required reader put :: fields) ((k, some d) :: members) r =
        .ok r' ↔
      ∃ a, reader source d = .ok a ∧ fillMembers source fields members (put a r) = .ok r' := by
  simp only [fillMembers, Field.of]
  cases reader source d <;> simp [Except.map, bind, Except.bind]

theorem fillMembers_some_eq {d : Draft} {a : α} (h : reader source d = .ok a) :
    fillMembers source (.of name required reader put :: fields) ((k, some d) :: members) r =
      fillMembers source fields members (put a r) := by
  simp only [fillMembers, Field.of, h]
  rfl

def readMember (reader : Reader α) (absent : α) (source : Source) :
    Option Draft → Except ReadFault α
  | none => .ok absent
  | some d => reader source d

theorem fillMembers_of {absent : α} (h : put absent r = r) {d? : Option Draft} :
    fillMembers source (.of name required reader put :: fields) ((k, d?) :: members) r = .ok r' ↔
      ∃ a, readMember reader absent source d? = .ok a ∧
        fillMembers source fields members (put a r) = .ok r' := by
  cases d? with
  | none => simp [readMember, fillMembers, h]
  | some d => exact fillMembers_some

theorem fillMembers_eq {absent a : α} (habsent : put absent r = r) {d? : Option Draft}
    (h : readMember reader absent source d? = .ok a) :
    fillMembers source (.of name required reader put :: fields) ((k, d?) :: members) r =
      fillMembers source fields members (put a r) := by
  cases d? with
  | none =>
      cases h
      rw [fillMembers, habsent]
  | some d => exact fillMembers_some_eq h

theorem fillAll_present_optional {all : List (Field ρ)} {put : Option α → ρ → ρ}
    (hfield : all.find? (·.name == k) = some (.of k required (.optional reader) put))
    (habsent : put none r = r) (d? : Option Draft) (members : Members) :
    fillAll all source (present ((k, d?) :: members)) r =
      readMember (.optional reader) none source d? >>= fun a? =>
        fillAll all source (present members) (put a? r) := by
  cases d? with
  | none =>
      simp only [readMember, bind, Except.bind, habsent]
      rfl
  | some d => exact fillAll_present_some hfield d members

theorem readMember_optional {write : α → Json} (h : ∀ a, way.draft (write a) ≠ .null)
    (hread : ∀ a, reader source (way.draft (write a)) = .ok a) (a? : Option α) :
    readMember (.optional reader) none source ((a?.map write).map way.draft) = .ok a? := by
  cases a? with
  | none => rfl
  | some a =>
      simp only [Option.map_some, readMember]
      rw [Reader.optional.eq_2 _ _ _ (h a), hread a]
      rfl

end Schema

theorem Reader.string_draft (s : String) :
    Reader.string source (way.draft (.string s)) = .ok s := by
  rw [way.string, Reader.string]

theorem Reader.boolean_draft (b : Bool) :
    Reader.boolean source (way.draft (.bool b)) = .ok b := by
  rw [way.bool, Reader.boolean]

theorem Reader.count_draft (n : UInt64) :
    Reader.count source (way.draft (.ofNat64 n)) = .ok n := by
  rw [Json.ofNat64, way.natural, Reader.count]

theorem Reader.shortCount_draft (n : UInt16) :
    Reader.shortCount source (way.draft (.ofNat64 n.toUInt64)) = .ok n := by
  have hn : n.toUInt64.toNat = n.toNat := UInt16.toNat_toUInt64 n
  rw [Json.ofNat64, way.natural, Reader.shortCount, hn, if_pos n.toNat_lt, UInt16.ofNat_toNat]

theorem readMember_string (s? : Option String) :
    Schema.readMember (.optional .string) none source ((s?.map Json.string).map way.draft) =
      .ok s? := by
  refine Schema.readMember_optional (fun s => ?_) Reader.string_draft s?
  rw [way.string]
  exact Draft.noConfusion

theorem readMember_count (n? : Option UInt64) :
    Schema.readMember (.optional .count) none source ((n?.map Json.ofNat64).map way.draft) =
      .ok n? := by
  refine Schema.readMember_optional (fun n => ?_) Reader.count_draft n?
  rw [Json.ofNat64, way.natural]
  exact Draft.noConfusion

theorem entriesWith_map {reader : Reader α} {write : α → Draft} {entries : List (String × α)}
    (h : ∀ a, reader source (write a) = .ok a) (m : KeyMap α) :
    Reader.entriesWith reader source (entries.map fun e => (some e.1, write e.2)) m =
      .ok (entries.foldl (fun m e => m.insert e.1 e.2) m) := by
  induction entries generalizing m with
  | nil => rfl
  | cons e rest ih =>
      rw [List.map_cons, Reader.entriesWith, h]
      exact ih (m.insert e.1 e.2)

theorem Reader.map_draft {reader : Reader α} {write : α → Json}
    (henter : source.enter? = some inner)
    (h : ∀ a, reader inner (way.draft (write a)) = .ok a) (m : KeyMap α) :
    Reader.map reader source
      (way.draft (.object (m.entries.map fun e => (e.1, write e.2)))) = .ok m := by
  have hascending : Entries.Ascending (m.entries.map fun e => (e.1, write e.2)) :=
    List.pairwise_map.mpr m.ascending
  obtain ⟨listed, -, hlisted, hdraft⟩ := way.object _ (Entries.nodup_keys hascending)
  rw [hdraft, hlisted hascending, List.map_map]
  simp only [Reader.map, Source.enter, henter, Function.comp_def, entriesWith_map h, bind,
    Except.bind, Reader.closing, if_true]
  exact congrArg Except.ok m.ofList_entries

theorem RuleKind.reader_draft (k : RuleKind) :
    RuleKind.reader source (way.draft k.json) = .ok k := by
  rw [RuleKind.json, way.string]
  cases k <;> rfl

theorem Rule.lawful_schema : Rule.schema.Lawful :=
  ⟨by decide, by simp [schema]⟩

theorem Rule.reader_draft (h : source.Admits 1) (r : Rule) :
    Rule.reader source (way.draft r.json) = .ok r := by
  refine (Schema.read_ofMembers lawful_schema (Source.enter?_of_admits h) rfl
    (by simp [schema, Field.of])).mpr ?_
  simp only [schema, List.map_cons, List.map_nil, Option.map_some]
  rw [Schema.fillMembers_some_eq (RuleKind.reader_draft r.kind),
    Schema.fillMembers_eq rfl (readMember_string r.regex),
    Schema.fillMembers_eq rfl (readMember_count r.min),
    Schema.fillMembers_eq rfl (readMember_count r.max)]
  rfl

theorem RuleTable.reader_draft (h : source.Admits 2) (t : RuleTable) :
    RuleTable.reader source (way.draft t.json) = .ok t :=
  Reader.map_draft (Source.enter?_of_admits h) (Rule.reader_draft h.inside) t

theorem Options.lawful_schema : Options.schema.Lawful :=
  ⟨by decide, by simp [schema]⟩

theorem Options.reader_draft (h : source.Admits 1) (o : Options) :
    Options.reader source (way.draft o.json) = .ok o := by
  refine (Schema.read_object lawful_schema (Source.enter?_of_admits h) rfl).mpr ?_
  simp only [schema, List.map_cons, List.map_nil]
  rw [Schema.fillMembers_some_eq (Reader.count_draft o.maxDepth),
    Schema.fillMembers_some_eq (Reader.count_draft o.maxRepeat),
    Schema.fillMembers_some_eq (Reader.boolean_draft o.validatePatterns)]
  rfl

theorem Config.lawful_schema : Config.schema.Lawful :=
  ⟨by decide, by simp [schema]⟩

theorem Config.reader_draft (h : source.Admits 2) (c : Config) :
    Config.reader source (way.draft c.json) = .ok c := by
  refine (Schema.read_object lawful_schema (Source.enter?_of_admits h) rfl).mpr ?_
  simp only [schema, List.map_cons, List.map_nil]
  rw [Schema.fillMembers_some_eq (Reader.string_draft c.consumer),
    Schema.fillMembers_some_eq (Reader.string_draft c.provider),
    Schema.fillMembers_some_eq (Reader.string_draft c.specificationVersion),
    Schema.fillMembers_some_eq (Options.reader_draft h.inside c.compile)]
  rfl

theorem readMember_headers (h : source.Admits 1) (headers : KeyMap String) :
    Schema.readMember (.map .string) .empty source ((headersJson? headers).map way.draft) =
      .ok headers := by
  rw [headersJson?]
  split
  · next hempty => exact congrArg Except.ok (KeyMap.eq_empty_of_isEmpty hempty).symm
  · exact Reader.map_draft (Source.enter?_of_admits h) Reader.string_draft headers

theorem readMember_rules (h : source.Admits 2) (rules : RuleTable) :
    Schema.readMember RuleTable.reader .empty source ((rulesJson? rules).map way.draft) =
      .ok rules := by
  rw [rulesJson?]
  split
  · next hempty => exact congrArg Except.ok (KeyMap.eq_empty_of_isEmpty hempty).symm
  · exact RuleTable.reader_draft h rules

def Drafting.bodyOf (way : Drafting) (source : Source) (body : Option Json) :
    Except ReadFault (Option Json) :=
  Schema.readMember (.optional .json) none source (body.map way.draft)

theorem ContractBody.lawful_schema : ContractBody.schema.Lawful :=
  ⟨by decide, by simp [schema]⟩

theorem ContractBody.reader_draft_iff (h : source.Admits 3) (b b' : ContractBody) :
    ContractBody.reader source (way.draft b.json) = .ok b' ↔
      ∃ body, Reader.json source.inside (way.draft b.body) = .ok body ∧ { b with body } = b' := by
  rw [reader, json, Schema.read_object lawful_schema (Source.enter?_of_admits h) rfl]
  simp only [schema, List.map_cons, List.map_nil]
  rw [Schema.fillMembers_some]
  refine exists_congr fun body => and_congr_right fun _ => ?_
  rw [Schema.fillMembers_some_eq (RuleTable.reader_draft h.inside b.matchingRules)]
  exact Schema.fillMembers_nil_iff

theorem Request.lawful_schema : Request.schema.Lawful :=
  ⟨by decide, by simp [schema]⟩

theorem Request.reader_draft_iff (h : source.Admits 3) (r r' : Request) :
    Request.reader source (way.draft r.json) = .ok r' ↔
      ∃ body, way.bodyOf source.inside r.body = .ok body ∧ { r with body } = r' := by
  rw [reader, json, Schema.read_ofMembers lawful_schema (Source.enter?_of_admits h) rfl
    (by simp [schema, Field.of])]
  simp only [schema, List.map_cons, List.map_nil, Option.map_some]
  rw [Schema.fillMembers_some_eq (Reader.string_draft r.method),
    Schema.fillMembers_some_eq (Reader.string_draft r.path),
    Schema.fillMembers_eq rfl (readMember_string r.query),
    Schema.fillMembers_eq rfl (readMember_headers (h.inside.mono (by decide)) r.headers),
    Schema.fillMembers_of rfl]
  refine exists_congr fun body => and_congr_right fun _ => ?_
  rw [Schema.fillMembers_eq rfl (readMember_rules h.inside r.matchingRules)]
  exact Schema.fillMembers_nil_iff

theorem Response.lawful_schema : Response.schema.Lawful :=
  ⟨by decide, by simp [schema]⟩

theorem Response.reader_draft_iff (h : source.Admits 3) (r r' : Response) :
    Response.reader source (way.draft r.json) = .ok r' ↔
      ∃ body, way.bodyOf source.inside r.body = .ok body ∧ { r with body } = r' := by
  rw [reader, json, Schema.read_ofMembers lawful_schema (Source.enter?_of_admits h) rfl
    (by simp [schema, Field.of])]
  simp only [schema, List.map_cons, List.map_nil, Option.map_some]
  rw [Schema.fillMembers_some_eq (Reader.shortCount_draft r.status),
    Schema.fillMembers_eq rfl (readMember_headers (h.inside.mono (by decide)) r.headers),
    Schema.fillMembers_of rfl]
  refine exists_congr fun body => and_congr_right fun _ => ?_
  rw [Schema.fillMembers_eq rfl (readMember_rules h.inside r.matchingRules)]
  exact Schema.fillMembers_nil_iff

theorem Interaction.lawful_schema : Interaction.schema.Lawful :=
  ⟨by decide, by simp [schema]⟩

def Interaction.ReadsAs (way : Drafting) (source : Source) (i i' : Interaction) : Prop :=
  ∃ body body', way.bodyOf source i.request.body = .ok body ∧
    way.bodyOf source i.response.body = .ok body' ∧
    { i with request.body := body, response.body := body', options := {} } = i'

theorem Interaction.reader_draft_iff (h : source.Admits 4) (i i' : Interaction) :
    Interaction.reader source (way.draft i.json) = .ok i' ↔
      i.ReadsAs way source.inside.inside i' := by
  rw [reader, json, Schema.read_ofMembers lawful_schema (Source.enter?_of_admits h) rfl
    (by simp [schema, Field.of])]
  simp only [schema, List.map_cons, List.map_nil, Option.map_some]
  rw [Schema.fillMembers_some_eq (Reader.string_draft i.description),
    Schema.fillMembers_eq rfl (readMember_string i.providerState), Schema.fillMembers_some]
  simp only [Schema.fillMembers_some, Schema.fillMembers_nil_iff,
    Request.reader_draft_iff h.inside, Response.reader_draft_iff h.inside]
  constructor
  · rintro ⟨_, ⟨body, hbody, rfl⟩, _, ⟨body', hbody', rfl⟩, hi⟩
    exact ⟨body, body', hbody, hbody', hi⟩
  · rintro ⟨body, body', hbody, hbody', hi⟩
    exact ⟨_, ⟨body, hbody, rfl⟩, _, ⟨body', hbody', rfl⟩, hi⟩

theorem itemsWith_eq_ok_iff {β : Type} {reader : Reader α} {write : β → Draft} {bs : List β} :
    ∀ {as : List α}, Reader.itemsWith reader source (bs.map write) = .ok as ↔
      List.Forall₂ (fun b a => reader source (write b) = .ok a) bs as := by
  induction bs with
  | nil => simp [Reader.itemsWith, eq_comm]
  | cons b rest ih =>
      intro as
      simp only [List.map_cons, Reader.itemsWith, List.forall₂_cons_left_iff, ← ih]
      cases reader source (write b) with
      | error e => simp [bind, Except.bind]
      | ok a =>
          cases Reader.itemsWith reader source (rest.map write) with
          | error e => simp [bind, Except.bind]
          | ok as' => simp [bind, Except.bind, pure, Except.pure, eq_comm]

theorem Reader.list_draft_iff {β : Type} {reader : Reader α} {write : β → Json}
    (henter : source.enter? = some inner) {bs : List β} {as : List α} :
    Reader.list reader source (way.draft (.array (bs.map write))) = .ok as ↔
      List.Forall₂ (fun b a => reader inner (way.draft (write b)) = .ok a) bs as := by
  have hitems := @itemsWith_eq_ok_iff α inner β reader (fun b => way.draft (write b)) bs as
  rw [way.array, List.map_map, ← hitems]
  simp only [Reader.list, Source.enter, henter, bind, Except.bind, Function.comp_def]
  cases Reader.itemsWith reader inner (bs.map fun b => way.draft (write b)) with
  | error e => simp
  | ok as' => simp [Reader.closing]

theorem Party.lawful_schema : Party.schema.Lawful :=
  ⟨by decide, by simp [schema]⟩

theorem Party.reader_draft (h : source.Admits 1) (p : Party) :
    Party.reader source (way.draft p.json) = .ok p := by
  refine (Schema.read_object lawful_schema (Source.enter?_of_admits h) rfl).mpr ?_
  simp only [schema, List.map_cons, List.map_nil]
  rw [Schema.fillMembers_some_eq (Reader.string_draft p.name)]
  rfl

theorem SpecificationVersion.lawful_schema : SpecificationVersion.schema.Lawful :=
  ⟨by decide, by simp [schema]⟩

theorem SpecificationVersion.reader_draft (h : source.Admits 1) (v : SpecificationVersion) :
    SpecificationVersion.reader source (way.draft v.json) = .ok v := by
  refine (Schema.read_object lawful_schema (Source.enter?_of_admits h) rfl).mpr ?_
  simp only [schema, List.map_cons, List.map_nil]
  rw [Schema.fillMembers_some_eq (Reader.string_draft v.version)]
  rfl

theorem Metadata.lawful_schema : Metadata.schema.Lawful :=
  ⟨by decide, by simp [schema]⟩

theorem Metadata.reader_draft (h : source.Admits 2) (m : Metadata) :
    Metadata.reader source (way.draft m.json) = .ok m := by
  refine (Schema.read_object lawful_schema (Source.enter?_of_admits h) rfl).mpr ?_
  simp only [schema, List.map_cons, List.map_nil]
  rw [Schema.fillMembers_some_eq (SpecificationVersion.reader_draft h.inside m.specification)]
  rfl

theorem Contract.lawful_schema : Contract.schema.Lawful :=
  ⟨by decide, by simp [schema]⟩

theorem Contract.reader_draft_iff (h : source.Admits 6) (c c' : Contract) :
    Contract.reader source (way.draft c.json) = .ok c' ↔
      ∃ interactions, List.Forall₂ (Interaction.ReadsAs way source.inside.inside.inside.inside)
          c.interactions interactions ∧
        { c with interactions, options := {} } = c' := by
  have henter : source.inside.enter? = some source.inside.inside := Source.enter?_of_admits h.inside
  rw [reader, json, Schema.read_object lawful_schema (Source.enter?_of_admits h) rfl]
  simp only [schema, List.map_cons, List.map_nil]
  rw [Schema.fillMembers_some_eq (Party.reader_draft (h.inside.mono (by decide)) c.consumer),
    Schema.fillMembers_some_eq (Party.reader_draft (h.inside.mono (by decide)) c.provider),
    Schema.fillMembers_some]
  simp only [Reader.list_draft_iff henter, Interaction.reader_draft_iff h.inside.inside]
  refine exists_congr fun interactions => and_congr_right fun _ => ?_
  rw [Schema.fillMembers_some_eq (Metadata.reader_draft (h.inside.mono (by decide)) c.metadata)]
  exact Schema.fillMembers_nil_iff

end ConsumerContract
