import ConsumerContract.Selector

namespace ConsumerContract.Selector

def IsPlainKey (name : String) : Prop :=
  name.toList ≠ [] ∧ ∀ c ∈ name.toList, c ≠ '.' ∧ c ≠ '['

def Step.IsPlain : Step → Prop
  | .key name => IsPlainKey name
  | .index _ => True
  | .each => True

instance (name : String) : Decidable (IsPlainKey name) :=
  have : Decidable (∀ c ∈ name.toList, c ≠ '.' ∧ c ≠ '[') := List.decidableBAll _ _
  inferInstanceAs (Decidable (_ ∧ _))

instance : DecidablePred Step.IsPlain
  | .key name => inferInstanceAs (Decidable (IsPlainKey name))
  | .index _ => inferInstanceAs (Decidable True)
  | .each => inferInstanceAs (Decidable True)

/-- Cuts a text in front of every point and opening bracket: what stands before the first of them,
and the segments, each by its first character and the rest. -/
def segments : List Char → List Char × List (Char × List Char)
  | [] => ([], [])
  | c :: cs =>
      let (head, rest) := segments cs
      if c = '.' ∨ c = '[' then ([], (c, head) :: rest) else (c :: head, rest)

def readBracket? (inner : List Char) : Option Step :=
  if inner = ['*'] then some .each
  else if inner ≠ [] ∧ inner.all Char.isDigit then some (.index (Nat.ofDigitChars 10 inner 0))
  else none

def readSegment? : Char × List Char → Option Step
  | (start, rest) =>
      if start = '.' then if rest = [] then none else some (.key (.ofList rest))
      else if rest.getLast? = some ']' then readBracket? rest.dropLast
      else none

def readSteps? (cs : List Char) : Option (List Step) :=
  let (head, found) := segments cs
  if head = [] then found.mapM readSegment? else none

theorem segments_append_of_plain {cs rest : List Char} (h : ∀ c ∈ cs, c ≠ '.' ∧ c ≠ '[') :
    segments (cs ++ rest) = (cs ++ (segments rest).1, (segments rest).2) := by
  induction cs with
  | nil => rfl
  | cons c cs ih =>
      obtain ⟨hc, hcs⟩ := List.forall_mem_cons.mp h
      simp [segments, ih hcs, hc.1, hc.2]

theorem segments_chars_append {s : Step} (h : s.IsPlain) (rest : List Char)
    (hrest : (segments rest).1 = []) :
    ∃ found, segments (s.chars ++ rest) = ([], found :: (segments rest).2) ∧
      readSegment? found = some s := by
  cases s with
  | key name =>
      obtain ⟨hne, hname⟩ := h
      refine ⟨('.', name.toList), ?_, ?_⟩
      · simp [Step.chars, hne, segments, segments_append_of_plain hname, hrest]
      · simp [readSegment?, hne]
  | index i =>
      have hdigits : ∀ c ∈ Nat.toDigits 10 i ++ [']'], c ≠ '.' ∧ c ≠ '[' := by
        intro c hc
        rcases List.mem_append.mp hc with hc | hc
        · have := Nat.isDigit_of_mem_toDigits (by decide) (by decide) hc
          constructor <;> rintro rfl <;> simp at this
        · simp at hc; subst hc; decide
      refine ⟨('[', Nat.toDigits 10 i ++ [']']), ?_, ?_⟩
      · have happ : segments (Nat.toDigits 10 i ++ ']' :: rest) =
            (Nat.toDigits 10 i ++ [']'] ++ (segments rest).1, (segments rest).2) := by
          rw [← segments_append_of_plain hdigits, List.append_assoc, List.singleton_append]
        simp [Step.chars, segments, happ, hrest]
      · have hall : (Nat.toDigits 10 i).all Char.isDigit = true :=
          List.all_eq_true.mpr fun c hc => Nat.isDigit_of_mem_toDigits (by decide) (by decide) hc
        have hstar : Nat.toDigits 10 i ≠ ['*'] := by
          intro e
          rw [e] at hall
          simp at hall
        simp [readSegment?, readBracket?, hstar, hall, Nat.toDigits_ne_nil,
          Nat.ofDigitChars_toDigits]
  | each =>
      refine ⟨('[', ['*', ']']), ?_, by decide⟩
      simp [Step.chars, segments, hrest]

theorem segments_stepChars {steps : List Step} (h : ∀ s ∈ steps, s.IsPlain) :
    (segments (stepChars steps)).1 = [] ∧
      (segments (stepChars steps)).2.mapM readSegment? = some steps := by
  induction steps with
  | nil => exact ⟨rfl, rfl⟩
  | cons s steps ih =>
      obtain ⟨hs, hsteps⟩ := List.forall_mem_cons.mp h
      obtain ⟨hnil, hread⟩ := ih hsteps
      obtain ⟨found, hfound, hs'⟩ := segments_chars_append hs (stepChars steps) hnil
      have : stepChars (s :: steps) = s.chars ++ stepChars steps := rfl
      rw [this, hfound]
      simp [List.mapM_cons, hs', hread]

theorem readSteps?_stepChars {steps : List Step} (h : ∀ s ∈ steps, s.IsPlain) :
    readSteps? (stepChars steps) = some steps := by
  obtain ⟨hnil, hread⟩ := segments_stepChars h
  simp [readSteps?, hnil, hread]

def Root.readSteps? (root : Root) (text : String) : Option (List Step) :=
  if root.chars.isPrefixOf text.toList then
    Selector.readSteps? (text.toList.drop root.chars.length)
  else none

theorem Root.readSteps?_text_extend (root : Root) {steps : List Step}
    (h : ∀ s ∈ steps, s.IsPlain) :
    root.readSteps? ((Selector.mk root []).extend steps).text = some steps := by
  have htext : ((Selector.mk root []).extend steps).text.toList =
      root.chars ++ stepChars steps := by
    rw [text, String.toList_ofList]
    rfl
  rw [Root.readSteps?, htext, if_pos (List.isPrefixOf_iff_prefix.mpr (List.prefix_append _ _)),
    List.drop_left]
  exact readSteps?_stepChars h

end ConsumerContract.Selector
