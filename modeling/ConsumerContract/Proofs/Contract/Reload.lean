import ConsumerContract.Proofs.Json.Reread
import ConsumerContract.Proofs.Record.Restoring

namespace ConsumerContract

namespace Contract

theorem reload_eq (c : Contract) :
    c.reload = reader Json.textSource (Drafting.asText.draft c.json) := by
  have hdraft : Json.drafted c.text = (Drafting.asText.draft c.json, true) :=
    Json.drafted_indented c.json
  rw [reload, Reader.ofText, hdraft]
  simp only [if_true]
  cases reader Json.textSource (Drafting.asText.draft c.json) <;> rfl

/-- A contract puts four containers around a body. -/
theorem reload_eq_ok_iff {c c' : Contract} :
    c.reload = .ok c' ↔
      ∃ interactions, List.Forall₂ (Interaction.ReadsAs .asText (.text 123)) c.interactions
          interactions ∧
        { c with interactions, options := {} } = c' := by
  have hadmits : Json.textSource.Admits 6 := by
    show 6 ≤ 127
    decide
  rw [reload_eq, reader_draft_iff hadmits]
  rfl

theorem identities_of_readsAs {way : Drafting} {source : Source} {is is' : List Interaction}
    (h : List.Forall₂ (Interaction.ReadsAs way source) is is') :
    is'.map Interaction.identity = is.map Interaction.identity := by
  induction h with
  | nil => rfl
  | cons hi _ ih =>
      obtain ⟨_, _, -, -, rfl⟩ := hi
      rw [List.map_cons, List.map_cons, ih]
      rfl

theorem listing_of_reload {c c' : Contract} (h : c.reload = .ok c') : c'.listing = c.listing := by
  obtain ⟨interactions, hread, rfl⟩ := reload_eq_ok_iff.mp h
  exact identities_of_readsAs hread

end Contract

end ConsumerContract
