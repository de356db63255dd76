import ConsumerContract.Proofs.Contract.Assembled

/-!
The text of a document without floats stands for the document as long as the reader goes as deep as
its containers nest, and for a mere string, with all quotes written twice, once it does not.
-/

namespace ConsumerContract

variable {accepts : String → Bool} {o : Options}

def DeclaredRequest.withBody (r : DeclaredRequest) (b : DeclaredBody) : DeclaredRequest :=
  { r with body := some b }

def DeclaredResponse.withBody (r : DeclaredResponse) (b : DeclaredBody) : DeclaredResponse :=
  { r with body := some b }

def Json.WrittenAs (v : Json) (s : String) : Prop :=
  s = v.text ∨ s = v.indented

theorem Json.WrittenAs.drafted {v : Json} {s : String} (h : v.WrittenAs s) :
    Json.drafted s = (v.textDraft, true) := by
  rcases h with rfl | rfl
  · exact Json.drafted_text v
  · exact Json.drafted_indented v

theorem DeclaredBody.ofText_of_writtenAs {v : Json} (hcanonical : v.Canonical)
    (hfloat : v.FloatFree) {s : String} (hs : v.WrittenAs s) :
    ofText s = if v.nesting ≤ 127 then v else .string s := by
  have hjson := Draft.json?_textDraft hcanonical hfloat 127
  simp only [ofText, Json.ofText?, hs.drafted, Json.textSource, hjson]
  by_cases h : v.nesting ≤ 127
  · rw [if_pos h, if_pos h]
  · rw [if_neg h, if_neg h]

namespace DeclaredRequest

theorem compile_withBody_text (r : DeclaredRequest) (s : String) :
    (r.withBody (.text s)).compile accepts o =
      (r.withBody (.json (DeclaredBody.ofText s))).compile accepts o := rfl

theorem compile_withBody_json (r : DeclaredRequest) (v : Json) :
    (r.withBody (.json v)).compile accepts o =
      (({ r with body := none } : DeclaredRequest).compile accepts o).map fun q =>
        { q with body := some v } := by
  simp only [compile, compileParts, withBody, StateT.run_bind]
  cases (r.path.compileString accepts o .path .pathNotString).run .empty with
  | error f => rfl
  | ok path =>
      simp only [bind, Except.bind]
      cases (compileHeaders accepts o [] r.headers.entries).run path.2 <;> rfl

theorem compile_withBody_json_eq_map (r : DeclaredRequest) (v w : Json) :
    (r.withBody (.json w)).compile accepts o =
      ((r.withBody (.json v)).compile accepts o).map fun q => { q with body := some w } := by
  rw [compile_withBody_json, compile_withBody_json]
  cases ({ r with body := none } : DeclaredRequest).compile accepts o <;> rfl

end DeclaredRequest

namespace DeclaredResponse

theorem compile_withBody_text (r : DeclaredResponse) (s : String) :
    (r.withBody (.text s)).compile accepts o =
      (r.withBody (.json (DeclaredBody.ofText s))).compile accepts o := rfl

theorem compile_withBody_json (r : DeclaredResponse) (v : Json) :
    (r.withBody (.json v)).compile accepts o =
      (({ r with body := none } : DeclaredResponse).compile accepts o).map fun q =>
        { q with body := some v } := by
  simp only [compile, compileParts, withBody, StateT.run_bind]
  simp only [bind, Except.bind]
  cases (compileHeaders accepts o [] r.headers.entries).run .empty <;> rfl

theorem compile_withBody_json_eq_map (r : DeclaredResponse) (v w : Json) :
    (r.withBody (.json w)).compile accepts o =
      ((r.withBody (.json v)).compile accepts o).map fun q => { q with body := some w } := by
  rw [compile_withBody_json, compile_withBody_json]
  cases ({ r with body := none } : DeclaredResponse).compile accepts o <;> rfl

end DeclaredResponse

namespace DeclaredBody

theorem text_stands_for_document {v : Json} (hcanonical : v.Canonical) (hfloat : v.FloatFree)
    {s : String} (hs : v.WrittenAs s) (accepts : String → Bool) (o : Options) :
    (v.nesting ≤ 127 →
      (∀ r : DeclaredRequest,
        (r.withBody (.text s)).compile accepts o = (r.withBody (.json v)).compile accepts o) ∧
      ∀ r : DeclaredResponse,
        (r.withBody (.text s)).compile accepts o = (r.withBody (.json v)).compile accepts o) ∧
    (127 < v.nesting → v ≠ .string s ∧
      (∀ r : DeclaredRequest, (r.withBody (.text s)).compile accepts o =
        ((r.withBody (.json v)).compile accepts o).map fun q =>
          { q with body := some (.string s) }) ∧
      ∀ r : DeclaredResponse, (r.withBody (.text s)).compile accepts o =
        ((r.withBody (.json v)).compile accepts o).map fun q =>
          { q with body := some (.string s) }) := by
  have htext := ofText_of_writtenAs hcanonical hfloat hs
  constructor
  · intro hle
    rw [if_pos hle] at htext
    constructor
    · intro r
      rw [r.compile_withBody_text, htext]
    · intro r
      rw [r.compile_withBody_text, htext]
  · intro hdeep
    rw [if_neg (Nat.not_le.mpr hdeep)] at htext
    have hother : v ≠ .string s := by
      rintro rfl
      exact absurd hdeep (Nat.not_lt_zero 127)
    refine ⟨hother, fun r => ?_, fun r => ?_⟩
    · rw [r.compile_withBody_text, htext, r.compile_withBody_json_eq_map v]
    · rw [r.compile_withBody_text, htext, r.compile_withBody_json_eq_map v]

def fooBody : Json :=
  .object [("baz", .string "bat"), ("foo", .array [.string "bar", .null])]

theorem floatFree_deepBody (n : Nat) : (Contract.deepBody n).FloatFree := by
  have h := Tree.floatFree_expansion (Contract.floatFree_ofJson_deepBody n)
  rwa [Tree.expansion_ofJson] at h

theorem texts_of_fooBody_and_deepBody :
    (∀ r : DeclaredRequest,
      (r.withBody (.text "\x7b\"baz\":\"bat\",\"foo\":[\"bar\",null]\x7d")).compile
          (fun _ => true) {} = (r.withBody (.json fooBody)).compile (fun _ => true) {}) ∧
      ∀ r : DeclaredResponse,
        (r.withBody (.text (Contract.deepBody 127).indented)).compile (fun _ => true) {} =
          ((r.withBody (.json (Contract.deepBody 127))).compile (fun _ => true) {}).map fun q =>
            { q with body := some (.string (Contract.deepBody 127).indented) } := by
  have hcanonical : fooBody.Canonical :=
    ⟨List.pairwise_pair.mpr (by decide), trivial, ⟨trivial, trivial, trivial⟩, trivial⟩
  have hfloat : fooBody.FloatFree := ⟨trivial, ⟨trivial, trivial, trivial⟩, trivial⟩
  have hdeep : 127 < (Contract.deepBody 127).nesting := by
    rw [Contract.nesting_deepBody]
    decide
  refine ⟨?_, ?_⟩
  · exact ((text_stands_for_document hcanonical hfloat (.inl rfl) (fun _ => true) {}).1
      (by decide)).1
  · exact ((text_stands_for_document (Contract.canonical_deepBody 127) (floatFree_deepBody 127)
      (.inr rfl) (fun _ => true) {}).2 hdeep).2.2

theorem deepBody_text_kept_as_string :
    (Contract.deepBody 127).Canonical ∧ (Contract.deepBody 127).FloatFree ∧
      (DeclaredResponse.withBody {} (.json (Contract.deepBody 127))).compile (fun _ => true) {} =
        .ok { body := some (Contract.deepBody 127) } ∧
      (DeclaredResponse.withBody {} (.text (Contract.deepBody 127).text)).compile
          (fun _ => true) {} =
        .ok { body := some (.string (Contract.deepBody 127).text) } ∧
      Contract.deepBody 127 ≠ .string (Contract.deepBody 127).text := by
  have hcanonical := Contract.canonical_deepBody 127
  have hfloat := floatFree_deepBody 127
  have htext := ofText_of_writtenAs hcanonical hfloat (.inl rfl)
  rw [Contract.nesting_deepBody, if_neg (by decide)] at htext
  refine ⟨hcanonical, hfloat, rfl, ?_, nofun⟩
  rw [DeclaredResponse.compile_withBody_text, htext]
  rfl

end DeclaredBody

end ConsumerContract
