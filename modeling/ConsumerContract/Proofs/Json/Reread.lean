import ConsumerContract.Proofs.Json.Drafting
import ConsumerContract.Proofs.Json.Numeral
import Mathlib.Tactic.IntervalCases

/-!
Whether it is written in one line or indented, the text of a document is read to its end, and as the
document itself but for the floats in it.
-/

namespace ConsumerContract.Json

theorem hexDigit?_hexDigit {n : Nat} (h : n < 16) : CharSet.hexDigit? (hexDigit n) = some n := by
  interval_cases n <;> rfl

theorem hexValue?_control {n : Nat} (h : n < 32) :
    hexValue? '0' '0' (hexDigit (n / 16)) (hexDigit (n % 16)) = some n := by
  have hzero : CharSet.hexDigit? '0' = some 0 := rfl
  have hhigh := hexDigit?_hexDigit (n := n / 16) (by omega)
  have hlow := hexDigit?_hexDigit (n := n % 16) (by omega)
  simp only [hexValue?, hzero, hhigh, hlow, Option.bind_eq_bind, Option.bind_some, Option.pure_def,
    Option.some.injEq]
  omega

theorem readText_simple {e c : Char} (hu : e ≠ 'u') (he : simpleEscape? e = some c)
    (rest : List Char) : readText ('\\' :: e :: rest) = (readText rest).push c := by
  rw [readText.eq_4 e rest fun _ _ _ _ _ h _ => hu h, he]

theorem readText_control {c : Char} (hc : c.toNat < 32) (rest : List Char) :
    readText ('\\' :: 'u' :: '0' :: '0' :: hexDigit (c.toNat / 16) :: hexDigit (c.toNat % 16) ::
      rest) = (readText rest).push c := by
  have hhigh : ¬ (0xD800 ≤ c.toNat ∧ c.toNat < 0xDC00) := by omega
  have hlow : ¬ (0xDC00 ≤ c.toNat ∧ c.toNat < 0xE000) := by omega
  rw [readText]
  simp only [hexValue?_control hc, hhigh, hlow, if_false, Char.ofNat_toNat]

theorem readText_plain {c : Char} (hquote : c ≠ '\x22') (hslash : c ≠ '\\') (hc : 32 ≤ c.toNat)
    (rest : List Char) : readText (c :: rest) = (readText rest).push c := by
  rw [readText.eq_6 c rest hquote (fun _ _ _ _ _ h _ => hslash h) (fun _ _ h _ => hslash h)
    fun h _ => hslash h, if_neg (Nat.not_lt.mpr hc)]

theorem readText_escapedChar (c : Char) (rest : List Char) :
    readText (escapedChar c ++ rest) = (readText rest).push c := by
  unfold escapedChar
  split
  case h_8 hquote hslash _ _ _ _ _ =>
    split
    · next hlow => exact readText_control hlow rest
    · next hhigh => exact readText_plain hquote hslash (by omega) rest
  all_goals exact readText_simple (by decide) rfl rest

theorem readText_written (cs rest : List Char) :
    readText (cs.flatMap escapedChar ++ '\x22' :: rest) = some (some cs, rest) := by
  induction cs with
  | nil => rw [List.flatMap_nil, List.nil_append, readText]
  | cons c cs ih =>
      rw [List.flatMap_cons, List.append_assoc, readText_escapedChar, ih]
      rfl

/-- The first quote is read before the string. -/
theorem readString_written (s : String) (rest : List Char) :
    readString (s.toList.flatMap escapedChar ++ '\x22' :: rest) = some (some s, rest) := by
  rw [readString, readText_written]
  simp

theorem writeString_append (s : String) (rest : List Char) :
    writeString s ++ rest = '\x22' :: (s.toList.flatMap escapedChar ++ '\x22' :: rest) := by
  simp [writeString]

def AllBlank (gap : List Char) : Prop := ∀ c ∈ gap, isBlank c = true

theorem skipBlanks_append {gap : List Char} (h : AllBlank gap) (cs : List Char) :
    skipBlanks (gap ++ cs) = skipBlanks cs := List.dropWhile_append_of_pos h

theorem skipBlanks_cons {c : Char} (h : isBlank c = false) (cs : List Char) :
    skipBlanks (c :: cs) = c :: cs := by
  simp [skipBlanks, h]

theorem closes_of_isBlank {c : Char} (h : isBlank c = true) (rest : List Char) :
    Closes (c :: rest) := by
  simp only [isBlank, Bool.or_eq_true, beq_iff_eq] at h
  refine closes_cons ?_
  rcases h with ((rfl | rfl) | rfl) | rfl <;> decide

theorem closes_append {gap : List Char} (h : AllBlank gap) {rest : List Char}
    (hrest : Closes rest) : Closes (gap ++ rest) := by
  cases gap with
  | nil => exact hrest
  | cons c gap => exact closes_of_isBlank (h c List.mem_cons_self) _

theorem readValue_blanks {gap : List Char} (h : AllBlank gap) (fuel : Nat) (cs : List Char) :
    readValue fuel (gap ++ cs) = readValue fuel cs := by
  cases fuel with
  | zero => simp only [readValue]
  | succ fuel => simp only [readValue, skipBlanks_append h]

theorem readItems_blanks {gap : List Char} (h : AllBlank gap) (fuel : Nat) (cs : List Char) :
    readItems fuel (gap ++ cs) = readItems fuel cs := by
  cases fuel with
  | zero => simp only [readItems]
  | succ fuel => simp only [readItems, readValue_blanks h]

theorem readEntries_blanks {gap : List Char} (h : AllBlank gap) (fuel : Nat) (cs : List Char) :
    readEntries fuel (gap ++ cs) = readEntries fuel cs := by
  cases fuel with
  | zero => simp only [readEntries]
  | succ fuel => simp only [readEntries, skipBlanks_append h]

/-- Where blanks stand in a text: in front of every item, entry and closing bracket of a container
that is not empty, by how deep they lie, and behind every colon. -/
structure Layout where
  gap : Nat → List Char
  colon : List Char
  blank_gap : ∀ depth, AllBlank (gap depth)
  blank_colon : AllBlank colon

namespace Layout

mutual

def chars (l : Layout) (depth : Nat) : Json → List Char
  | .array [] => ['[', ']']
  | .array (v :: rest) =>
      '[' :: (l.gap (depth + 1) ++ (l.chars (depth + 1) v ++ l.itemChars depth rest))
  | .object [] => ['{', '}']
  | .object ((k, v) :: rest) =>
      '{' :: (l.gap (depth + 1) ++ (writeString k ++ ':' ::
        (l.colon ++ (l.chars (depth + 1) v ++ l.entryChars depth rest))))
  | v => write v

def itemChars (l : Layout) (depth : Nat) : List Json → List Char
  | [] => l.gap depth ++ [']']
  | v :: rest => ',' :: (l.gap (depth + 1) ++ (l.chars (depth + 1) v ++ l.itemChars depth rest))

def entryChars (l : Layout) (depth : Nat) : List (String × Json) → List Char
  | [] => l.gap depth ++ ['}']
  | (k, v) :: rest =>
      ',' :: (l.gap (depth + 1) ++ (writeString k ++ ':' ::
        (l.colon ++ (l.chars (depth + 1) v ++ l.entryChars depth rest))))

end

def oneLine : Layout where
  gap _ := []
  colon := []
  blank_gap _ _ h := nomatch h
  blank_colon _ h := nomatch h

def indented : Layout where
  gap := newline
  colon := [' ']
  blank_gap depth c hc := by
    rcases List.mem_cons.mp hc with rfl | hc
    · rfl
    · rw [List.eq_of_mem_replicate hc]
      rfl
  blank_colon c hc := by
    rw [List.mem_singleton.mp hc]
    rfl

mutual

theorem chars_oneLine (depth : Nat) : ∀ v : Json, oneLine.chars depth v = v.write
  | .null => rfl
  | .bool _ => rfl
  | .number _ => rfl
  | .string _ => rfl
  | .array [] => rfl
  | .array (v :: rest) => by
      rw [chars, chars_oneLine (depth + 1) v, itemChars_oneLine depth rest, write]
      rfl
  | .object [] => rfl
  | .object ((k, v) :: rest) => by
      rw [chars, chars_oneLine (depth + 1) v, entryChars_oneLine depth rest, write]
      rfl

theorem itemChars_oneLine (depth : Nat) :
    ∀ rest : List Json, oneLine.itemChars depth rest = writeItems rest
  | [] => rfl
  | v :: rest => by
      rw [itemChars, chars_oneLine (depth + 1) v, itemChars_oneLine depth rest, writeItems]
      rfl

theorem entryChars_oneLine (depth : Nat) :
    ∀ rest : List (String × Json), oneLine.entryChars depth rest = writeEntries rest
  | [] => rfl
  | (k, v) :: rest => by
      rw [entryChars, chars_oneLine (depth + 1) v, entryChars_oneLine depth rest, writeEntries]
      rfl

end

mutual

theorem chars_indented (depth : Nat) : ∀ v : Json, indented.chars depth v = v.indent depth
  | .null => rfl
  | .bool _ => rfl
  | .number _ => rfl
  | .string _ => rfl
  | .array [] => rfl
  | .array (v :: rest) => by
      rw [chars, chars_indented (depth + 1) v, itemChars_indented depth rest, indent,
        List.append_assoc]
      rfl
  | .object [] => rfl
  | .object ((k, v) :: rest) => by
      rw [chars, chars_indented (depth + 1) v, entryChars_indented depth rest, indent,
        List.append_assoc]
      rfl

theorem itemChars_indented (depth : Nat) :
    ∀ rest : List Json, indented.itemChars depth rest = indentItems depth rest
  | [] => rfl
  | v :: rest => by
      rw [itemChars, chars_indented (depth + 1) v, itemChars_indented depth rest, indentItems,
        List.append_assoc]
      rfl

theorem entryChars_indented (depth : Nat) :
    ∀ rest : List (String × Json), indented.entryChars depth rest = indentEntries depth rest
  | [] => rfl
  | (k, v) :: rest => by
      rw [entryChars, chars_indented (depth + 1) v, entryChars_indented depth rest, indentEntries,
        List.append_assoc]
      rfl

end

end Layout

mutual

/-- What the text of a document is read as: the document, but for its floats. -/
def textDraft : Json → Draft
  | .null => .null
  | .bool b => .bool b
  | .number n => .number n.reread
  | .string s => .string (some s)
  | .array items => .array (textDraftItems items) true
  | .object entries => .object (textDraftEntries entries) true

def textDraftItems : List Json → List Draft
  | [] => []
  | v :: rest => textDraft v :: textDraftItems rest

def textDraftEntries : List (String × Json) → List (Option String × Draft)
  | [] => []
  | (k, v) :: rest => (some k, textDraft v) :: textDraftEntries rest

end

namespace Layout

variable {l : Layout} {depth : Nat}

def Reads (l : Layout) (depth : Nat) (v : Json) : Prop :=
  ∀ (fuel : Nat) (rest : List Char), 2 * (l.chars depth v).length ≤ fuel → Closes rest →
    readValue fuel (l.chars depth v ++ rest) = (v.textDraft, some rest)

def Opens (cs : List Char) : Prop :=
  ∃ c rest, cs = c :: rest ∧ isBlank c = false ∧ c ≠ ']'

theorem opens_cons {c : Char} {cs : List Char} (hblank : isBlank c = false) (hbracket : c ≠ ']') :
    Opens (c :: cs) :=
  ⟨c, cs, rfl, hblank, hbracket⟩

theorem Opens.length_pos {cs : List Char} (h : Opens cs) : 0 < cs.length := by
  obtain ⟨c, rest, rfl, -, -⟩ := h
  exact Nat.succ_pos _

theorem isBlank_of_isDigit {c : Char} (h : c.isDigit = true) : isBlank c = false := by
  rw [Bool.eq_false_iff]
  intro hblank
  simp only [isBlank, Bool.or_eq_true, beq_iff_eq] at hblank
  rcases hblank with ((rfl | rfl) | rfl) | rfl <;> cases h

theorem number_chars (n : Number) :
    ∃ c cs, n.numeral.chars = c :: cs ∧ c.isDigit = true := by
  have hproper := n.proper_numeral
  obtain ⟨c, cs, hwhole⟩ := List.exists_cons_of_ne_nil hproper.whole_ne_nil
  refine ⟨c, cs ++ _, by rw [Numeral.chars, hwhole, List.cons_append], ?_⟩
  exact hproper.whole c (hwhole ▸ List.mem_cons_self)

theorem opens_chars (l : Layout) (depth : Nat) (v : Json) : Opens (l.chars depth v) := by
  cases v with
  | null => exact opens_cons rfl (by decide)
  | bool b => cases b <;> exact opens_cons rfl (by decide)
  | number n =>
      obtain ⟨c, cs, hchars, hdigit⟩ := number_chars n
      have htext : l.chars depth (.number n) = Decimal.signed n.isNegative (c :: cs) := by
        rw [← hchars, ← n.text_eq]
        rfl
      rw [htext, Decimal.signed]
      split
      · exact opens_cons rfl (by decide)
      · refine opens_cons (isBlank_of_isDigit hdigit) ?_
        rintro rfl
        cases hdigit
  | string s => exact opens_cons rfl (by decide)
  | array items => cases items <;> exact opens_cons rfl (by decide)
  | object entries => cases entries <;> exact opens_cons rfl (by decide)

theorem Reads.of_succ {v : Json}
    (h : ∀ (fuel : Nat) (rest : List Char), 2 * (l.chars depth v).length ≤ fuel + 1 → Closes rest →
      readValue (fuel + 1) (l.chars depth v ++ rest) = (v.textDraft, some rest)) :
    l.Reads depth v := by
  intro fuel rest hfuel hrest
  have hpos := (opens_chars l depth v).length_pos
  obtain ⟨fuel, rfl⟩ := Nat.exists_eq_succ_of_ne_zero (n := fuel) (by omega)
  exact h fuel rest hfuel hrest

theorem readValue_digit {c : Char} (hc : c.isDigit = true) (fuel : Nat) (cs : List Char) :
    readValue (fuel + 1) (c :: cs) = readNumber false (c :: cs) := by
  simp only [readValue, skipBlanks_cons (isBlank_of_isDigit hc)]
  split
  case h_8 => rfl
  all_goals
    next heq =>
      cases heq
      cases hc

theorem reads_number (n : Number) : l.Reads depth (.number n) := by
  refine .of_succ fun fuel rest _ hrest => ?_
  obtain ⟨c, cs, hchars, hdigit⟩ := number_chars n
  have htext : l.chars depth (.number n) = Decimal.signed n.isNegative (c :: cs) := by
    rw [← hchars, ← n.text_eq]
    rfl
  have hread : readNumber n.isNegative (c :: (cs ++ rest)) = (.number n.reread, some rest) := by
    rw [← List.cons_append, ← hchars, readNumber,
      Numeral.readLiteral_append n.proper_numeral n.isNegative hrest]
    rfl
  rw [htext, Decimal.signed, textDraft]
  cases hsign : n.isNegative with
  | true =>
      rw [hsign] at hread
      rw [if_pos rfl, List.cons_append, List.cons_append, readValue, skipBlanks_cons rfl]
      exact hread
  | false =>
      rw [hsign] at hread
      rw [if_neg Bool.false_ne_true, List.cons_append, readValue_digit hdigit, hread]

theorem reads_string (s : String) : l.Reads depth (.string s) := by
  refine .of_succ fun fuel rest _ _ => ?_
  have htext : l.chars depth (.string s) ++ rest =
      '\x22' :: (s.toList.flatMap escapedChar ++ '\x22' :: rest) := writeString_append s rest
  rw [htext, readValue, skipBlanks_cons rfl]
  simp only [readString_written, textDraft]

theorem closes_itemChars (l : Layout) (depth : Nat) (rest : List Json) (tail : List Char) :
    Closes (l.itemChars depth rest ++ tail) := by
  cases rest with
  | nil =>
      rw [itemChars, List.append_assoc]
      exact closes_append (l.blank_gap depth) (closes_cons (by decide))
  | cons v rest => exact closes_cons (by decide)

theorem closes_entryChars (l : Layout) (depth : Nat) (rest : List (String × Json))
    (tail : List Char) :
    Closes (l.entryChars depth rest ++ tail) := by
  cases rest with
  | nil =>
      rw [entryChars, List.append_assoc]
      exact closes_append (l.blank_gap depth) (closes_cons (by decide))
  | cons e rest => exact closes_cons (by decide)

theorem readItems_chars {rest : List Json} :
    ∀ (v : Json) (fuel : Nat) (tail : List Char), l.Reads (depth + 1) v →
      (∀ w ∈ rest, l.Reads (depth + 1) w) →
      2 * ((l.chars (depth + 1) v).length + (l.itemChars depth rest).length) ≤ fuel →
        readItems fuel (l.gap (depth + 1) ++ (l.chars (depth + 1) v ++
            (l.itemChars depth rest ++ tail))) =
          (v.textDraft :: textDraftItems rest, some tail) := by
  induction rest with
  | nil =>
      intro v fuel tail hv _ hfuel
      simp only [itemChars, List.length_append, List.length_singleton] at hfuel
      obtain ⟨fuel, rfl⟩ := Nat.exists_eq_succ_of_ne_zero (n := fuel) (by omega)
      have hvalue := hv fuel _ (by omega) (closes_itemChars l depth [] tail)
      rw [readItems, readValue_blanks (l.blank_gap _), hvalue]
      simp only [itemChars, List.append_assoc, skipBlanks_append (l.blank_gap depth)]
      rw [List.singleton_append, skipBlanks_cons rfl, textDraftItems]
      rfl
  | cons w rest ih =>
      intro v fuel tail hv hrest hfuel
      obtain ⟨hw, hrest⟩ := List.forall_mem_cons.mp hrest
      simp only [itemChars, List.length_cons, List.length_append] at hfuel
      obtain ⟨fuel, rfl⟩ := Nat.exists_eq_succ_of_ne_zero (n := fuel) (by omega)
      have hvalue := hv fuel _ (by omega) (closes_itemChars l depth (w :: rest) tail)
      rw [readItems, readValue_blanks (l.blank_gap _), hvalue]
      simp only [itemChars, List.cons_append, List.append_assoc]
      rw [skipBlanks_cons rfl, textDraftItems]
      simp only [ih w fuel tail hw hrest (by omega)]

section

variable {fuel : Nat} {k : String} {cs rest : List Char} {d : Draft}

theorem readEntries_last {tail : List Char} (h : readValue fuel cs = (d, some rest))
    (hrest : skipBlanks rest = '}' :: tail) :
    readEntries (fuel + 1) (l.gap depth ++ (writeString k ++ ':' :: (l.colon ++ cs))) =
      ([(some k, d)], some tail) := by
  rw [readEntries, skipBlanks_append (l.blank_gap depth), writeString_append, skipBlanks_cons rfl]
  simp only [readString_written, skipBlanks_cons (c := ':') rfl, readValue_blanks l.blank_colon, h,
    hrest]

theorem readEntries_more {next : List Char} (h : readValue fuel cs = (d, some rest))
    (hrest : skipBlanks rest = ',' :: next) :
    readEntries (fuel + 1) (l.gap depth ++ (writeString k ++ ':' :: (l.colon ++ cs))) =
      ((some k, d) :: (readEntries fuel next).1, (readEntries fuel next).2) := by
  rw [readEntries, skipBlanks_append (l.blank_gap depth), writeString_append, skipBlanks_cons rfl]
  simp only [readString_written, skipBlanks_cons (c := ':') rfl, readValue_blanks l.blank_colon, h,
    hrest]

end

theorem readEntries_chars {rest : List (String × Json)} :
    ∀ (k : String) (v : Json) (fuel : Nat) (tail : List Char), l.Reads (depth + 1) v →
      (∀ e ∈ rest, l.Reads (depth + 1) e.2) →
      2 * ((l.chars (depth + 1) v).length + (l.entryChars depth rest).length) ≤ fuel →
        readEntries fuel (l.gap (depth + 1) ++ (writeString k ++ ':' ::
            (l.colon ++ (l.chars (depth + 1) v ++ (l.entryChars depth rest ++ tail))))) =
          ((some k, v.textDraft) :: textDraftEntries rest, some tail) := by
  induction rest with
  | nil =>
      intro k v fuel tail hv _ hfuel
      simp only [entryChars, List.length_append, List.length_singleton] at hfuel
      obtain ⟨fuel, rfl⟩ := Nat.exists_eq_succ_of_ne_zero (n := fuel) (by omega)
      have hvalue := hv fuel _ (by omega) (closes_entryChars l depth [] tail)
      have hbrace : skipBlanks (l.entryChars depth [] ++ tail) = '}' :: tail := by
        rw [entryChars, List.append_assoc, skipBlanks_append (l.blank_gap depth)]
        exact skipBlanks_cons rfl tail
      exact readEntries_last hvalue hbrace
  | cons e rest ih =>
      obtain ⟨k', w⟩ := e
      intro k v fuel tail hv hrest hfuel
      obtain ⟨hw, hrest⟩ := List.forall_mem_cons.mp hrest
      simp only [entryChars, List.length_cons, List.length_append] at hfuel
      obtain ⟨fuel, rfl⟩ := Nat.exists_eq_succ_of_ne_zero (n := fuel) (by omega)
      have hvalue := hv fuel _ (by omega) (closes_entryChars l depth ((k', w) :: rest) tail)
      have hcomma : skipBlanks (l.entryChars depth ((k', w) :: rest) ++ tail) =
          ',' :: (l.gap (depth + 1) ++ (writeString k' ++ ':' ::
            (l.colon ++ (l.chars (depth + 1) w ++ (l.entryChars depth rest ++ tail))))) := by
        simp only [entryChars, List.cons_append, List.append_assoc]
        exact skipBlanks_cons rfl _
      rw [readEntries_more hvalue hcomma, ih k' w fuel tail hw hrest (by omega), textDraftEntries]

-- by what is right below a value: the text of a container is at least two characters longer than
-- that of its parts, which leaves fuel for the container and for its list

theorem reads (v : Json) : ∀ depth : Nat, l.Reads depth v := by
  induction v with
  | number n => exact fun depth => reads_number n
  | string s => exact fun depth => reads_string s
  | null => exact fun depth => .of_succ fun _ _ _ _ => rfl
  | bool b => exact fun depth => .of_succ fun _ _ _ _ => by cases b <;> rfl
  | array items ih =>
      intro depth
      refine .of_succ fun fuel rest hfuel _ => ?_
      cases items with
      | nil => rfl
      | cons v items =>
          obtain ⟨hv, hitems⟩ := List.forall_mem_cons.mp ih
          simp only [chars, List.length_cons, List.length_append] at hfuel
          have hread := readItems_chars v fuel rest (hv (depth + 1))
            (fun w hw => hitems w hw (depth + 1)) (by omega)
          obtain ⟨c, cs, hchars, hblank, hbracket⟩ := opens_chars l (depth + 1) v
          simp only [chars, List.cons_append, List.append_assoc, hchars] at hread ⊢
          rw [readItems_blanks (l.blank_gap _)] at hread
          simp only [readValue, skipBlanks_cons (c := '[') rfl, skipBlanks_append (l.blank_gap _),
            skipBlanks_cons hblank]
          split
          · next heq =>
              cases heq
              exact absurd rfl hbracket
          · simp only [hread, textDraft, textDraftItems, Option.isSome_some]
  | object entries ih =>
      intro depth
      refine .of_succ fun fuel rest hfuel _ => ?_
      cases entries with
      | nil => rfl
      | cons e entries =>
          obtain ⟨k, v⟩ := e
          obtain ⟨hv, hentries⟩ := List.forall_mem_cons.mp ih
          simp only [chars, List.length_cons, List.length_append] at hfuel
          have hread := readEntries_chars k v fuel rest (hv (depth + 1))
            (fun e he => hentries e he (depth + 1)) (by omega)
          rw [readEntries_blanks (l.blank_gap _), writeString_append] at hread
          simp only [chars, List.cons_append, List.append_assoc, writeString_append]
          simp only [readValue, skipBlanks_cons (c := '{') rfl, skipBlanks_append (l.blank_gap _),
            skipBlanks_cons (c := '\x22') rfl]
          split
          · next heq => cases heq
          · simp only [hread, textDraft, textDraftEntries, Option.isSome_some]

end Layout

theorem drafted_indented (v : Json) : drafted v.indented = (v.textDraft, true) := by
  have hread := Layout.reads (l := .indented) v 0 (2 * (v.indent 0).length + 2) []
    (by rw [Layout.chars_indented]; omega) closes_nil
  rw [Layout.chars_indented, List.append_nil] at hread
  simp only [drafted, indented, String.toList_ofList, hread]
  rfl

theorem drafted_text (v : Json) : drafted v.text = (v.textDraft, true) := by
  have hread := Layout.reads (l := .oneLine) v 0 (2 * v.write.length + 2) []
    (by rw [Layout.chars_oneLine]; omega) closes_nil
  rw [Layout.chars_oneLine, List.append_nil] at hread
  simp only [drafted, text, String.toList_ofList, hread]
  rfl

theorem textDraftItems_eq_map (items : List Json) : textDraftItems items = items.map textDraft := by
  induction items with
  | nil => rfl
  | cons v rest ih => rw [textDraftItems, ih, List.map_cons]

theorem textDraftEntries_eq_map (entries : List (String × Json)) :
    textDraftEntries entries = entries.map fun e => (some e.1, e.2.textDraft) := by
  induction entries with
  | nil => rfl
  | cons e rest ih => rw [textDraftEntries, ih, List.map_cons]

end ConsumerContract.Json

namespace ConsumerContract.Drafting

def asText : Drafting where
  draft := Json.textDraft
  null := rfl
  bool _ := rfl
  natural n := congrArg Draft.number (Number.reread_natural n)
  string _ := rfl
  array items := congrArg (Draft.array · true) (Json.textDraftItems_eq_map items)
  object entries _ := ⟨entries, .refl _, fun _ => rfl,
    congrArg (Draft.object · true) (Json.textDraftEntries_eq_map entries)⟩

end ConsumerContract.Drafting
