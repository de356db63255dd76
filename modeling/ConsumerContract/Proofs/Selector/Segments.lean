import ConsumerContract.Selector.Steps

/-!
Two selectors are written alike just if their texts are cut into the same segments. Over plain steps
there is one segment for each step, which gives it back.
-/

namespace ConsumerContract.Selector

theorem segments_append {cs rest : List Char} (hrest : (segments rest).1 = []) :
    segments (cs ++ rest) = ((segments cs).1, (segments cs).2 ++ (segments rest).2) := by
  induction cs with
  | nil => rw [List.nil_append, segments, List.nil_append, ← hrest]
  | cons c cs ih =>
      simp only [List.cons_append, segments, ih]
      split <;> rfl

def joined : List Char × List (Char × List Char) → List Char
  | (head, rest) => head ++ rest.flatMap fun segment => segment.1 :: segment.2

theorem joined_segments (cs : List Char) : joined (segments cs) = cs := by
  induction cs with
  | nil => rfl
  | cons c cs ih =>
      simp only [segments]
      by_cases hc : c = '.' ∨ c = '['
      · rw [if_pos hc]
        exact congrArg (List.cons c) ih
      · rw [if_neg hc]
        exact congrArg (List.cons c) ih

theorem Step.head_segments_chars (s : Step) : (segments s.chars).1 = [] := by
  cases s with
  | key name =>
      simp only [Step.chars]
      split <;> simp [segments]
  | index i => simp [Step.chars, segments]
  | each => rfl

def Step.segments (s : Step) : List (Char × List Char) := (Selector.segments s.chars).2

theorem segments_stepChars_eq (steps : List Step) :
    segments (stepChars steps) = ([], steps.flatMap Step.segments) := by
  induction steps with
  | nil => rfl
  | cons s steps ih =>
      have hcons : stepChars (s :: steps) = s.chars ++ stepChars steps := rfl
      rw [hcons, segments_append (by rw [ih]), ih, s.head_segments_chars, List.flatMap_cons]
      rfl

theorem stepChars_eq_iff (a b : List Step) :
    stepChars a = stepChars b ↔ a.flatMap Step.segments = b.flatMap Step.segments := by
  -- cutting takes every text apart at its own characters, and joining undoes it
  constructor
  · intro h
    have hsegments := congrArg segments h
    rw [segments_stepChars_eq, segments_stepChars_eq] at hsegments
    exact congrArg Prod.snd hsegments
  · intro h
    rw [← joined_segments (stepChars a), ← joined_segments (stepChars b), segments_stepChars_eq,
      segments_stepChars_eq, h]

theorem eq_of_stepChars_eq {a b : List Step} (ha : ∀ s ∈ a, s.IsPlain) (hb : ∀ s ∈ b, s.IsPlain)
    (h : stepChars a = stepChars b) : a = b := by
  have hread := readSteps?_stepChars ha
  rw [h, readSteps?_stepChars hb] at hread
  exact (Option.some.inj hread).symm

theorem text_extend_eq_iff (s : Selector) (a b : List Step) :
    (s.extend a).text = (s.extend b).text ↔ stepChars a = stepChars b := by
  rw [text, text, String.ofList_inj, chars_extend, chars_extend, List.append_cancel_left_eq]

def enter (s : Selector) : Step → Selector
  | .key name => s.key name
  | .index i => s.index i
  | .each => s.each

theorem foldl_enter (s : Selector) (steps : List Step) : steps.foldl enter s = s.extend steps := by
  induction steps generalizing s with
  | nil => exact s.extend_nil.symm
  | cons step steps ih =>
      have henter : s.enter step = s.extend [step] := by cases step <;> rfl
      rw [List.foldl_cons, ih, henter, extend_extend, List.singleton_append]

/-- A text is another one, or goes on from it where a segment starts. -/
def GoesOn (text start : String) : Prop :=
  ∃ rest, text.toList = start.toList ++ rest ∧ ∀ c ∈ rest.head?, c = '.' ∨ c = '['

theorem head_segments_eq_nil_iff (cs : List Char) :
    (segments cs).1 = [] ↔ ∀ c ∈ cs.head?, c = '.' ∨ c = '[' := by
  cases cs with
  | nil => simp [segments]
  | cons c cs =>
      simp only [segments, List.head?_cons, Option.mem_some_iff, forall_eq']
      split <;> simp_all

theorem goesOn_text_extend_iff (s : Selector) (a b : List Step) :
    GoesOn (s.extend b).text (s.extend a).text ↔
      ∃ rest, (segments rest).1 = [] ∧ stepChars b = stepChars a ++ rest := by
  simp only [GoesOn, text, String.toList_ofList, chars_extend, List.append_assoc,
    List.append_cancel_left_eq, head_segments_eq_nil_iff, and_comm]

theorem isPrefix_of_goesOn {s : Selector} {a b : List Step} (ha : ∀ x ∈ a, x.IsPlain)
    (hb : ∀ x ∈ b, x.IsPlain) (h : GoesOn (s.extend b).text (s.extend a).text) : a <+: b := by
  obtain ⟨rest, hrest, hchars⟩ := (goesOn_text_extend_iff s a b).mp h
  -- what is read of the longer text is what is read of the shorter one, and then of the rest
  have hread := (segments_stepChars hb).2
  rw [hchars, segments_append hrest, List.mapM_append, (segments_stepChars ha).2] at hread
  simp only [Option.pure_def, Option.bind_eq_bind, Option.bind_some, Option.bind_eq_some_iff,
    Option.some.injEq] at hread
  obtain ⟨steps, _, rfl⟩ := hread
  exact List.prefix_append a steps

theorem goesOn_of_isPrefix (s : Selector) {a b : List Step} (h : a <+: b) :
    GoesOn (s.extend b).text (s.extend a).text := by
  obtain ⟨steps, rfl⟩ := h
  rw [goesOn_text_extend_iff]
  exact ⟨stepChars steps, by rw [segments_stepChars_eq], stepChars_append a steps⟩

theorem plain_steps_read_back (root : Root) :
    (∀ steps : List Step, (∀ x ∈ steps, x.IsPlain) →
      root.readSteps? (steps.foldl enter ⟨root, []⟩).text = some steps) ∧
    ∀ a b : List Step, (∀ x ∈ a, x.IsPlain) → (∀ x ∈ b, x.IsPlain) →
      ((a.foldl enter ⟨root, []⟩).text = (b.foldl enter ⟨root, []⟩).text ↔ a = b) ∧
      (GoesOn (b.foldl enter ⟨root, []⟩).text (a.foldl enter ⟨root, []⟩).text ↔ a <+: b) := by
  simp only [foldl_enter]
  refine ⟨fun steps => root.readSteps?_text_extend, fun a b ha hb => ⟨?_, ?_⟩⟩
  · rw [text_extend_eq_iff]
    exact ⟨eq_of_stepChars_eq ha hb, congrArg stepChars⟩
  · exact ⟨isPrefix_of_goesOn ha hb, goesOn_of_isPrefix _⟩

def oddSteps : List Step := [.key "404", .index 10, .key "*", .each, .key "0]"]

theorem oddSteps_read_back :
    (∀ x ∈ oddSteps, x.IsPlain) ∧
      (oddSteps.foldl enter body).text = "$.body.404[10].*[*].0]" ∧
      Root.body.readSteps? "$.body.404[10].*[*].0]" = some oddSteps ∧
      ¬ GoesOn (([.key "items"] : List Step).foldl enter body).text
        (([.key "item"] : List Step).foldl enter body).text := by
  have hplain : ∀ x ∈ oddSteps, x.IsPlain := by decide
  have htext : (oddSteps.foldl enter body).text = "$.body.404[10].*[*].0]" := by decide
  have h := plain_steps_read_back .body
  refine ⟨hplain, htext, ?_, ?_⟩
  · rw [← htext]
    exact h.1 oddSteps hplain
  · have hgoes := (h.2 [.key "item"] [.key "items"] (by decide) (by decide)).2
    exact fun hgo => absurd (hgoes.mp hgo) (by decide)

end ConsumerContract.Selector
