import ConsumerContract.Proofs.Record.Restoring

/-!
Reading the document of a record gives the record back, but for a body that is null and for the
options of compiling, and what has been read once comes back as it is.
-/

namespace ConsumerContract

/-- How a record is written and read. A record is `Fit` if the documents in it are at rest; `kept`
is what of it its document keeps, which is all of it if it is `Lasting`. -/
structure Document (α : Type) where
  json : α → Json
  reader : Reader α
  same : α → α → Bool
  kept : α → α := id
  Fit : α → Prop := fun _ => True
  Lasting : α → Prop := fun _ => True

namespace Document

variable {α : Type}

def written (d : Document α) (a : α) : Json := (d.json a).sorted

structure RoundTrips (d : Document α) : Prop where
  reads : ∀ a, d.Fit a → d.reader.ofJson (d.written a) = .ok (d.kept a)
  equal_iff : ∀ a, d.Fit a →
    (d.reader.ofJson (d.written a) = .ok a ↔ d.Lasting a) ∧
      (d.same (d.kept a) a = true ↔ d.Lasting a)
  settles : ∀ v a, d.reader.ofJson v = .ok a →
    ∃ b, d.reader.ofJson (d.written a) = .ok b ∧ d.written b = d.written a

theorem RoundTrips.of {d : Document α}
    (reads : ∀ a, d.Fit a → d.reader .value (Drafting.atRest.draft (d.json a)) = .ok (d.kept a))
    (kept_of_lasting : ∀ a, d.Lasting a → d.kept a = a)
    (same_self : ∀ a, d.same a a = true)
    (lasting_of_same : ∀ a, d.same (d.kept a) a = true → d.Lasting a)
    (reader_sound : ∀ source x a, d.reader source x = .ok a → d.Fit a ∧ d.Lasting a) :
    d.RoundTrips where
  reads := reads
  equal_iff a ha := by
    have hread : d.reader.ofJson (d.written a) = .ok (d.kept a) := reads a ha
    refine ⟨⟨fun h => ?_, fun h => ?_⟩, lasting_of_same a, fun h => ?_⟩
    · have hkept : d.kept a = a := Except.ok.inj (hread.symm.trans h)
      exact lasting_of_same a (hkept.symm ▸ same_self a)
    · rw [hread, kept_of_lasting a h]
    · rw [kept_of_lasting a h]
      exact same_self a
  settles v a h := by
    obtain ⟨hfit, hlasting⟩ := reader_sound _ _ a h
    have hread : d.reader.ofJson (d.written a) = .ok (d.kept a) := reads a hfit
    exact ⟨a, by rw [hread, kept_of_lasting a hlasting], rfl⟩

end Document

def keptBody : Option Json → Option Json
  | some .null => none
  | body => body

def FitBody (body : Option Json) : Prop := ∀ v, body = some v → v.Canonical

def LastingBody (body : Option Json) : Prop := body ≠ some .null

theorem fitBody_none : FitBody none := fun _ h => nomatch h

theorem lastingBody_none : LastingBody none := fun h => nomatch h

theorem keptBody_of_lasting {body : Option Json} (h : LastingBody body) : keptBody body = body := by
  unfold keptBody
  split
  · exact absurd rfl h
  · rfl

theorem sameBody_refl (body : Option Json) : sameBody body body = true := by
  cases body with
  | none => rfl
  | some v => exact v.same_refl

theorem lasting_of_sameBody {body : Option Json} (h : sameBody (keptBody body) body = true) :
    LastingBody body := by
  rintro rfl
  cases h

theorem bodyOf_atRest {body : Option Json} (h : FitBody body) :
    Drafting.atRest.bodyOf .value body = .ok (keptBody body) := by
  cases body with
  | none => rfl
  | some v =>
      have hv := h v rfl
      have hdraft : Drafting.atRest.draft v = v.draft := by
        rw [Drafting.draft_atRest, Json.sorted_of_canonical hv]
      simp only [Drafting.bodyOf, Option.map_some, Schema.readMember, hdraft]
      by_cases hnull : v = .null
      · subst hnull
        rfl
      · have hne : v.draft ≠ .null := by cases v <;> simp_all [Json.draft]
        have hread : Reader.json .value v.draft = .ok v := by
          simp only [Reader.json, Draft.json?_draft hv]
        rw [Reader.optional.eq_2 _ _ _ hne, hread,
          keptBody_of_lasting (by simpa [LastingBody] using hnull)]
        rfl

theorem Reader.json_eq_ok_iff {source : Source} {d : Draft} {v : Json} :
    Reader.json source d = .ok v ↔ d.json? source = some v := by
  simp only [Reader.json]
  cases d.json? source <;> simp

theorem Draft.ne_null_of_json? {source : Source} {d : Draft} {v : Json} (hd : d ≠ .null)
    (h : d.json? source = some v) : v ≠ .null := by
  rintro rfl
  cases d with
  | null => exact hd rfl
  | number n => cases n <;> cases h
  | string s => cases s <;> cases h
  | array items closed =>
      simp only [json?] at h
      split at h
      · obtain ⟨_, -, h⟩ := Option.map_eq_some_iff.mp h
        cases h
      · cases h
  | object entries closed =>
      simp only [json?] at h
      split at h
      · obtain ⟨_, -, h⟩ := Option.map_eq_some_iff.mp h
        cases h
      · cases h
  | _ => cases h

theorem body_of_read {source : Source} {d : Draft} {body : Option Json}
    (h : Reader.optional .json source d = .ok body) : FitBody body ∧ LastingBody body := by
  by_cases hd : d = .null
  · subst hd
    cases h
    exact ⟨fitBody_none, lastingBody_none⟩
  · rw [Reader.optional.eq_2 _ _ _ hd] at h
    cases hread : Reader.json source d with
    | error e =>
        rw [hread] at h
        cases h
    | ok v =>
        rw [hread] at h
        cases h
        have hv := Reader.json_eq_ok_iff.mp hread
        refine ⟨fun w hw => ?_, ?_⟩
        · cases hw
          exact Draft.canonical_of_json? hv
        · rw [LastingBody, Ne, Option.some.injEq]
          exact Draft.ne_null_of_json? hd hv

def Rule.document : Document Rule where
  json := json
  reader := reader
  same := (· == ·)

def RuleTable.document : Document RuleTable where
  json := json
  reader := reader
  same := (· == ·)

def Options.document : Document Options where
  json := json
  reader := reader
  same := (· == ·)

def Config.document : Document Config where
  json := json
  reader := reader
  same := (· == ·)

def ContractBody.same (a b : ContractBody) : Bool :=
  a.body.same b.body && a.matchingRules == b.matchingRules

def ContractBody.document : Document ContractBody where
  json := json
  reader := reader
  same := same
  Fit b := b.body.Canonical

def Request.document : Document Request where
  json := json
  reader := reader
  same := same
  kept r := { r with body := keptBody r.body }
  Fit r := FitBody r.body
  Lasting r := LastingBody r.body

def Response.document : Document Response where
  json := json
  reader := reader
  same := same
  kept r := { r with body := keptBody r.body }
  Fit r := FitBody r.body
  Lasting r := LastingBody r.body

def Interaction.document : Document Interaction where
  json := json
  reader := reader
  same := same
  kept i := { i with
    request := Request.document.kept i.request
    response := Response.document.kept i.response
    options := {} }
  Fit i := Request.document.Fit i.request ∧ Response.document.Fit i.response
  Lasting i :=
    Request.document.Lasting i.request ∧ Response.document.Lasting i.response ∧ i.options = {}

def Contract.document : Document Contract where
  json := json
  reader := reader
  same := same
  kept c := { c with
    interactions := c.interactions.map Interaction.document.kept
    options := {} }
  Fit c := ∀ i ∈ c.interactions, Interaction.document.Fit i
  Lasting c := (∀ i ∈ c.interactions, Interaction.document.Lasting i) ∧ c.options = {}

theorem Document.RoundTrips.of_plain {α : Type} [DecidableEq α] {json : α → Json}
    {reader : Reader α}
    (h : ∀ a, reader .value (Drafting.atRest.draft (json a)) = .ok a) :
    Document.RoundTrips { json, reader, same := (· == ·) } :=
  .of (fun a _ => h a) (fun _ _ => rfl) (fun a => beq_self_eq_true a) (fun _ _ => trivial)
    fun _ _ _ _ => ⟨trivial, trivial⟩

theorem Rule.roundTrips : Rule.document.RoundTrips :=
  .of_plain (reader_draft (Source.admits_value _))

theorem RuleTable.roundTrips : RuleTable.document.RoundTrips :=
  .of_plain (reader_draft (Source.admits_value _))

theorem Options.roundTrips : Options.document.RoundTrips :=
  .of_plain (reader_draft (Source.admits_value _))

theorem Config.roundTrips : Config.document.RoundTrips :=
  .of_plain (reader_draft (Source.admits_value _))

theorem ContractBody.roundTrips : ContractBody.document.RoundTrips := by
  refine .of ?_ (fun _ _ => rfl) ?_ (fun _ _ => trivial) ?_
  · intro b hb
    change reader .value (Drafting.atRest.draft b.json) = .ok b
    refine (reader_draft_iff (Source.admits_value 3) b b).mpr ⟨b.body, ?_, rfl⟩
    rw [Drafting.draft_atRest, Json.sorted_of_canonical hb]
    exact Reader.json_eq_ok_iff.mpr (Draft.json?_draft hb)
  · intro b
    simp [document, same, Json.same_refl]
  · intro source d b h
    refine ⟨Schema.read_preserves (fun b => b.body.Canonical) trivial ?_ h, trivial⟩
    simp only [schema, List.forall_mem_cons]
    refine ⟨Field.preserves_of ?_ fun _ _ h _ => h, Field.preserves_aside fun _ _ h => h, by simp⟩
    exact fun _ _ _ h => Draft.canonical_of_json? (Reader.json_eq_ok_iff.mp h)

theorem Request.of_read {source : Source} {d : Draft} {r : Request}
    (h : reader source d = .ok r) : document.Fit r ∧ document.Lasting r := by
  have hblank : document.Fit schema.blank ∧ document.Lasting schema.blank :=
    ⟨fitBody_none, lastingBody_none⟩
  refine Schema.read_preserves (fun r => document.Fit r ∧ document.Lasting r) hblank ?_ h
  simp only [schema, List.forall_mem_cons]
  and_intros
  · exact Field.preserves_aside fun _ _ hr => hr
  · exact Field.preserves_aside fun _ _ hr => hr
  · exact Field.preserves_aside fun _ _ hr => hr
  · exact Field.preserves_aside fun _ _ hr => hr
  · exact Field.preserves_of (fun _ _ _ => body_of_read) fun _ _ hbody _ => hbody
  · exact Field.preserves_aside fun _ _ hr => hr
  · simp

theorem Request.roundTrips : Request.document.RoundTrips := by
  refine .of ?_ ?_ ?_ ?_ fun _ _ _ => of_read
  · intro r hr
    exact (reader_draft_iff (Source.admits_value 3) r _).mpr ⟨_, bodyOf_atRest hr, rfl⟩
  · intro r hr
    simp only [document, keptBody_of_lasting hr]
  · intro r
    simp [document, same, sameBody_refl]
  · intro r h
    simp only [document, same, Bool.and_eq_true] at h
    exact lasting_of_sameBody h.1.2

theorem Response.of_read {source : Source} {d : Draft} {r : Response}
    (h : reader source d = .ok r) : document.Fit r ∧ document.Lasting r := by
  have hblank : document.Fit schema.blank ∧ document.Lasting schema.blank :=
    ⟨fitBody_none, lastingBody_none⟩
  refine Schema.read_preserves (fun r => document.Fit r ∧ document.Lasting r) hblank ?_ h
  simp only [schema, List.forall_mem_cons]
  and_intros
  · exact Field.preserves_aside fun _ _ hr => hr
  · exact Field.preserves_aside fun _ _ hr => hr
  · exact Field.preserves_of (fun _ _ _ => body_of_read) fun _ _ hbody _ => hbody
  · exact Field.preserves_aside fun _ _ hr => hr
  · simp

theorem Response.roundTrips : Response.document.RoundTrips := by
  refine .of ?_ ?_ ?_ ?_ fun _ _ _ => of_read
  · intro r hr
    exact (reader_draft_iff (Source.admits_value 3) r _).mpr ⟨_, bodyOf_atRest hr, rfl⟩
  · intro r hr
    simp only [document, keptBody_of_lasting hr]
  · intro r
    simp [document, same, sameBody_refl]
  · intro r h
    simp only [document, same, Bool.and_eq_true] at h
    exact lasting_of_sameBody h.1.2

theorem Interaction.of_read {source : Source} {d : Draft} {i : Interaction}
    (h : reader source d = .ok i) : document.Fit i ∧ document.Lasting i := by
  have hblank : document.Fit schema.blank ∧ document.Lasting schema.blank :=
    ⟨⟨fitBody_none, fitBody_none⟩, lastingBody_none, lastingBody_none, rfl⟩
  refine Schema.read_preserves (fun i => document.Fit i ∧ document.Lasting i) hblank ?_ h
  simp only [schema, List.forall_mem_cons]
  and_intros
  · exact Field.preserves_aside fun _ _ hi => hi
  · exact Field.preserves_aside fun _ _ hi => hi
  · refine Field.preserves_of (fun _ _ _ => Request.of_read) fun r i hr hi => ?_
    exact ⟨⟨hr.1, hi.1.2⟩, hr.2, hi.2.2⟩
  · refine Field.preserves_of (fun _ _ _ => Response.of_read) fun r i hr hi => ?_
    exact ⟨⟨hi.1.1, hr.1⟩, hi.2.1, hr.2, hi.2.2.2⟩
  · simp

theorem Interaction.readsAs_atRest {i : Interaction} (hi : document.Fit i) :
    i.ReadsAs .atRest .value (document.kept i) :=
  ⟨_, _, bodyOf_atRest hi.1, bodyOf_atRest hi.2, rfl⟩

theorem Interaction.kept_of_lasting {i : Interaction} (h : document.Lasting i) :
    document.kept i = i := by
  obtain ⟨hrequest, hresponse, hoptions⟩ := h
  simp only [document, Request.document, Response.document, keptBody_of_lasting hrequest,
    keptBody_of_lasting hresponse, ← hoptions]

theorem Interaction.same_refl (i : Interaction) : i.same i = true := by
  simp [same, Request.same, Response.same, sameBody_refl]

theorem Interaction.lasting_of_same {i : Interaction} (h : (document.kept i).same i = true) :
    document.Lasting i := by
  simp only [document, same, Bool.and_eq_true, beq_iff_eq] at h
  obtain ⟨⟨⟨_, hrequest⟩, hresponse⟩, hoptions⟩ := h
  refine ⟨?_, ?_, hoptions.symm⟩
  · simp only [Request.document, Request.same, Bool.and_eq_true] at hrequest
    exact lasting_of_sameBody hrequest.1.2
  · simp only [Response.document, Response.same, Bool.and_eq_true] at hresponse
    exact lasting_of_sameBody hresponse.1.2

theorem Interaction.roundTrips : Interaction.document.RoundTrips := by
  refine .of ?_ (fun _ => kept_of_lasting) same_refl (fun _ => lasting_of_same)
    fun _ _ _ => of_read
  intro i hi
  exact (reader_draft_iff (Source.admits_value 4) i _).mpr (readsAs_atRest hi)

theorem forall_mem_of_itemsWith {α : Type} {reader : Reader α} {Q : α → Prop}
    (hread : ∀ source d a, reader source d = .ok a → Q a) {source : Source} {items : List Draft} :
    ∀ {as : List α}, Reader.itemsWith reader source items = .ok as → ∀ a ∈ as, Q a := by
  induction items with
  | nil =>
      intro as h
      cases h
      simp
  | cons d rest ih =>
      intro as h
      simp only [Reader.itemsWith, bind, Except.bind] at h
      split at h
      · cases h
      · next a ha =>
          split at h
          · cases h
          · next as' has =>
              cases h
              exact List.forall_mem_cons.mpr ⟨hread source d a ha, ih has⟩

theorem forall_mem_of_list {α : Type} {reader : Reader α} {Q : α → Prop}
    (hread : ∀ source d a, reader source d = .ok a → Q a) {source : Source} {d : Draft}
    {as : List α} (h : Reader.list reader source d = .ok as) : ∀ a ∈ as, Q a := by
  cases d with
  | array items closed =>
      simp only [Reader.list, Reader.closing, bind, Except.bind] at h
      split at h
      · cases h
      · split at h
        · cases h
        · next has =>
            split at h
            · cases h
              exact forall_mem_of_itemsWith hread has
            · cases h
  | _ => cases h

theorem Contract.of_read {source : Source} {d : Draft} {c : Contract}
    (h : reader source d = .ok c) : document.Fit c ∧ document.Lasting c := by
  have hblank : document.Fit schema.blank ∧ document.Lasting schema.blank :=
    ⟨List.forall_mem_nil _, List.forall_mem_nil _, rfl⟩
  refine Schema.read_preserves (fun c => document.Fit c ∧ document.Lasting c) hblank ?_ h
  simp only [schema, List.forall_mem_cons]
  and_intros
  · exact Field.preserves_aside fun _ _ hc => hc
  · exact Field.preserves_aside fun _ _ hc => hc
  · refine Field.preserves_of (fun _ _ _ => forall_mem_of_list fun _ _ _ => Interaction.of_read)
      fun is c his hc => ?_
    exact ⟨fun i hi => (his i hi).1, fun i hi => (his i hi).2, hc.2.2⟩
  · exact Field.preserves_aside fun _ _ hc => hc
  · simp

theorem Contract.same_refl (c : Contract) : c.same c = true := by
  have hinteractions : ∀ is : List Interaction, sameInteractions is is = true := by
    intro is
    induction is with
    | nil => rfl
    | cons i rest ih => simp [sameInteractions, i.same_refl, ih]
  simp [same, hinteractions]

theorem Contract.lasting_of_sameInteractions {is : List Interaction}
    (h : sameInteractions (is.map Interaction.document.kept) is = true) :
    ∀ i ∈ is, Interaction.document.Lasting i := by
  induction is with
  | nil => exact fun _ h => nomatch h
  | cons i rest ih =>
      simp only [List.map_cons, sameInteractions, Bool.and_eq_true] at h
      exact List.forall_mem_cons.mpr ⟨Interaction.lasting_of_same h.1, ih h.2⟩

theorem Contract.roundTrips : Contract.document.RoundTrips := by
  refine .of ?_ ?_ same_refl ?_ fun _ _ _ => of_read
  · intro c hc
    change reader .value (Drafting.atRest.draft c.json) = .ok (document.kept c)
    refine (reader_draft_iff (Source.admits_value 6) c _).mpr ⟨_, ?_, rfl⟩
    exact List.forall₂_map_right_iff.mpr
      (List.forall₂_same.mpr fun i hi => Interaction.readsAs_atRest (hc i hi))
  · intro c ⟨hinteractions, hoptions⟩
    have hkept : c.interactions.map Interaction.document.kept = c.interactions :=
      (List.map_congr_left fun i hi => Interaction.kept_of_lasting (hinteractions i hi)).trans
        (List.map_id _)
    simp only [document, hkept, ← hoptions]
  · intro c h
    simp only [document, same, Bool.and_eq_true, beq_iff_eq] at h
    exact ⟨lasting_of_sameInteractions h.1.1.2, h.2.symm⟩

theorem records_kept_by_documents :
    Rule.document.RoundTrips ∧ RuleTable.document.RoundTrips ∧ Options.document.RoundTrips ∧
      Config.document.RoundTrips ∧ ContractBody.document.RoundTrips ∧
      Request.document.RoundTrips ∧ Response.document.RoundTrips ∧
      Interaction.document.RoundTrips ∧ Contract.document.RoundTrips :=
  ⟨Rule.roundTrips, RuleTable.roundTrips, Options.roundTrips, Config.roundTrips,
    ContractBody.roundTrips, Request.roundTrips, Response.roundTrips, Interaction.roundTrips,
    Contract.roundTrips⟩

def shortLivedContract : Contract where
  consumer := ⟨"ui"⟩
  provider := ⟨"api"⟩
  metadata := ⟨⟨"2.0.0"⟩⟩
  interactions := [{
    description := "order", providerState := some "", request := { body := some .null }
    response := { body := some (.object [("id", .ofNat64 7)]) }, options := { maxDepth := 3 } }]
  options := { maxDepth := 3 }

theorem kept_of_shortLivedContract :
    Contract.document.Fit shortLivedContract ∧
      Contract.reader.ofJson shortLivedContract.json.sorted =
        .ok (Contract.document.kept shortLivedContract) ∧
      Contract.document.kept shortLivedContract ≠ shortLivedContract ∧
      (Contract.document.kept shortLivedContract).same shortLivedContract = false ∧
      ∃ c, Contract.reader.ofJson (Contract.document.kept shortLivedContract).json.sorted = .ok c ∧
        c.json.sorted = (Contract.document.kept shortLivedContract).json.sorted := by
  have hbody : FitBody (some (.object [("id", .ofNat64 7)])) := by
    intro v hv
    cases hv
    exact ⟨by decide, trivial, trivial⟩
  have hnull : FitBody (some .null) := by
    intro v hv
    cases hv
    trivial
  have hfit : Contract.document.Fit shortLivedContract :=
    List.forall_mem_singleton.mpr ⟨hnull, hbody⟩
  have hlasting : ¬ Contract.document.Lasting shortLivedContract := fun h => by
    cases h.2
  obtain ⟨-, -, -, -, -, -, -, -, hread⟩ := records_kept_by_documents
  have hreads := hread.reads shortLivedContract hfit
  obtain ⟨hequal, hsame⟩ := hread.equal_iff shortLivedContract hfit
  refine ⟨hfit, hreads, ?_, ?_, hread.settles _ _ hreads⟩
  · intro hkept
    exact hlasting (hequal.mp (hreads.trans (congrArg Except.ok hkept)))
  · exact Bool.eq_false_iff.mpr fun h => hlasting (hsame.mp h)

end ConsumerContract
