import ConsumerContract.Json.Parser
import ConsumerContract.Json.Printer
import Mathlib.Data.Nat.Digits.Defs

/-!
Every number is written as a literal that is read whole, up to where the text goes on with something
that cannot belong to it.
-/

namespace Char

theorem toNat_sub_eq_zero_iff {c : Char} (hc : c.isDigit = true) : c.toNat - 48 = 0 ↔ c = '0' := by
  have hlow : 48 ≤ c.toNat := (Char.isDigit_iff_toNat.mp hc).1
  constructor
  · intro h
    have hc48 : c.toNat = '0'.toNat := by
      have : '0'.toNat = 48 := rfl
      omega
    exact Char.toNat_inj.mp hc48
  · rintro rfl
    rfl

end Char

namespace Nat

theorem head?_toDigits_ne_zero {n : Nat} (hpos : 0 < n) :
    (Nat.toDigits 10 n).head? ≠ some '0' := by
  induction n using Nat.strongRecOn with
  | ind n ih =>
      rw [Nat.toDigits_eq_if (by decide)]
      split
      · next hlt =>
          rw [List.head?_cons, Ne, Option.some.injEq]
          exact Nat.digitChar_eq_zero.not.mpr hpos.ne'
      · next hge =>
          have hhead := ih (n / 10) (by omega) (by omega)
          obtain ⟨c, cs, hcs⟩ := List.exists_cons_of_length_pos
            (Nat.length_toDigits_pos : 0 < (Nat.toDigits 10 (n / 10)).length)
          rw [hcs] at hhead ⊢
          exact hhead

theorem toDigits_no_leading_zero (n : Nat) (c : Char) (cs : List Char) :
    Nat.toDigits 10 n ≠ '0' :: c :: cs := by
  intro h
  rcases Nat.eq_zero_or_pos n with rfl | hpos
  · cases h
  · exact head?_toDigits_ne_zero hpos (by rw [h]; rfl)

theorem le_ofDigitChars (ds : List Char) (m : Nat) : m ≤ Nat.ofDigitChars 10 ds m := by
  induction ds generalizing m with
  | nil => exact Nat.le_refl m
  | cons c rest ih =>
      have := ih (10 * m + (c.toNat - '0'.toNat))
      exact Nat.le_trans (by omega) this

end Nat

namespace ConsumerContract

namespace Json

def Closes (rest : List Char) : Prop :=
  ∀ c ∈ rest.head?, c.isDigit = false ∧ c ≠ '.' ∧ c ≠ 'e' ∧ c ≠ 'E'

theorem closes_nil : Closes [] := fun _ h => nomatch h

theorem closes_cons {c : Char} {rest : List Char}
    (h : c.isDigit = false ∧ c ≠ '.' ∧ c ≠ 'e' ∧ c ≠ 'E') : Closes (c :: rest) := by
  intro c' hc
  cases hc
  exact h

def AllDigits (ds : List Char) : Prop := ∀ c ∈ ds, c.isDigit = true

theorem spanDigits_append {ds rest : List Char} (hds : AllDigits ds)
    (hrest : ∀ c ∈ rest.head?, c.isDigit = false) :
    spanDigits (ds ++ rest) = (digitValues ds, rest) := by
  rw [spanDigits, List.takeWhile_append_of_pos hds, List.dropWhile_append_of_pos hds]
  cases rest with
  | nil => simp
  | cons c rest =>
      have hc := hrest c rfl
      simp [hc]

/-- An empty fraction stands for none. -/
structure Numeral where
  whole : List Char
  fraction : List Char := []
  exponent : Option (Bool × List Char) := none

namespace Numeral

def fractionChars : List Char → List Char
  | [] => []
  | ds => '.' :: ds

theorem fractionChars_of_ne_nil {ds : List Char} (h : ds ≠ []) : fractionChars ds = '.' :: ds := by
  cases ds with
  | nil => exact absurd rfl h
  | cons d ds => rfl

def exponentChars : Option (Bool × List Char) → List Char
  | none => []
  | some (negative, ds) => 'e' :: (if negative then '-' else '+') :: ds

def chars (n : Numeral) : List Char :=
  n.whole ++ (fractionChars n.fraction ++ exponentChars n.exponent)

def literal (negative : Bool) (n : Numeral) : Number.Literal where
  negative := negative
  whole := digitValues n.whole
  fraction := digitValues n.fraction
  exponent := n.exponent.map fun e => exponentValue e.1 (digitValues e.2)

structure Proper (n : Numeral) : Prop where
  whole : AllDigits n.whole
  whole_ne_nil : n.whole ≠ []
  no_leading_zero : ∀ c cs, n.whole ≠ '0' :: c :: cs
  fraction : AllDigits n.fraction
  exponent : ∀ e ∈ n.exponent, AllDigits e.2 ∧ e.2 ≠ []

theorem readWhole_append {ds rest : List Char} (hds : AllDigits ds) (hne : ds ≠ [])
    (hzero : ∀ c cs, ds ≠ '0' :: c :: cs) (hrest : ∀ c ∈ rest.head?, c.isDigit = false) :
    readWhole (ds ++ rest) = some (digitValues ds, rest) := by
  rw [readWhole, spanDigits_append hds hrest]
  match ds with
  | [] => exact absurd rfl hne
  | [c] =>
      simp only [digitValues, List.map_cons, List.map_nil]
      cases c.toNat - 48 <;> rfl
  | c :: c' :: cs =>
      have hc : c.toNat - 48 ≠ 0 := by
        rw [Ne, Char.toNat_sub_eq_zero_iff (hds c List.mem_cons_self)]
        rintro rfl
        exact hzero c' cs rfl
      obtain ⟨k, hk⟩ := Nat.exists_eq_succ_of_ne_zero hc
      simp only [digitValues, List.map_cons, hk]

theorem readFraction_append {ds rest : List Char} (hds : AllDigits ds)
    (hrest : ∀ c ∈ rest.head?, c.isDigit = false ∧ c ≠ '.') :
    readFraction (fractionChars ds ++ rest) = some (digitValues ds, rest) := by
  cases ds with
  | nil =>
      simp only [fractionChars, List.nil_append, digitValues, List.map_nil]
      cases rest with
      | nil => rfl
      | cons c rest =>
          have hc := (hrest c rfl).2
          simp [readFraction, hc]
  | cons c cs =>
      have hspan := spanDigits_append hds fun c hc => (hrest c hc).1
      have hchars : fractionChars (c :: cs) ++ rest = '.' :: ((c :: cs) ++ rest) := rfl
      rw [hchars, readFraction, hspan]
      rfl

theorem readExponentDigits_append (negative : Bool) {ds rest : List Char} (hds : AllDigits ds)
    (hne : ds ≠ []) (hrest : ∀ c ∈ rest.head?, c.isDigit = false) :
    readExponentDigits negative (ds ++ rest) =
      some (some (exponentValue negative (digitValues ds)), rest) := by
  rw [readExponentDigits, spanDigits_append hds hrest]
  cases ds with
  | nil => exact absurd rfl hne
  | cons c cs => rfl

theorem readExponent_append {e : Option (Bool × List Char)}
    (he : ∀ x ∈ e, AllDigits x.2 ∧ x.2 ≠ []) {rest : List Char} (hrest : Closes rest) :
    readExponent (exponentChars e ++ rest) =
      some (e.map fun x => exponentValue x.1 (digitValues x.2), rest) := by
  cases e with
  | none =>
      simp only [exponentChars, List.nil_append, Option.map_none]
      cases rest with
      | nil => rfl
      | cons c rest =>
          obtain ⟨-, -, hlower, hupper⟩ := hrest c rfl
          simp [readExponent, hlower, hupper]
  | some e =>
      obtain ⟨negative, ds⟩ := e
      obtain ⟨hds, hne⟩ := he _ rfl
      have hread := readExponentDigits_append negative hds hne
        fun c hc => (hrest c hc).1
      cases negative <;> exact hread

theorem head?_exponentChars_append (e : Option (Bool × List Char)) {rest : List Char}
    (hrest : Closes rest) :
    ∀ c ∈ (exponentChars e ++ rest).head?, c.isDigit = false ∧ c ≠ '.' := by
  cases e with
  | none => exact fun c hc => ⟨(hrest c hc).1, (hrest c hc).2.1⟩
  | some e =>
      intro c hc
      cases hc
      decide

theorem head?_tail_append (ds : List Char) (e : Option (Bool × List Char)) {rest : List Char}
    (hrest : Closes rest) :
    ∀ c ∈ (fractionChars ds ++ (exponentChars e ++ rest)).head?, c.isDigit = false := by
  cases ds with
  | nil => exact fun c hc => (head?_exponentChars_append e hrest c hc).1
  | cons d ds =>
      intro c hc
      cases hc
      decide

theorem readLiteral_append {n : Numeral} (h : n.Proper) (negative : Bool) {rest : List Char}
    (hrest : Closes rest) :
    readLiteral negative (n.chars ++ rest) = some (n.literal negative, rest) := by
  have hwhole := readWhole_append h.whole h.whole_ne_nil h.no_leading_zero
    (head?_tail_append n.fraction n.exponent hrest)
  have hfraction := readFraction_append h.fraction
    (head?_exponentChars_append n.exponent hrest)
  simp only [chars, List.append_assoc, readLiteral, hwhole, hfraction,
    readExponent_append h.exponent hrest, Option.bind_eq_bind, Option.bind_some]
  rfl

end Numeral

end Json

theorem allDigits_toDigits (n : Nat) : Json.AllDigits (Nat.toDigits 10 n) :=
  fun _ => Nat.isDigit_of_mem_toDigits (by decide) (by decide)

namespace Number

theorem absorb_digitValues {ds : List Char} {m : Nat}
    (h : Nat.ofDigitChars 10 ds m < UInt64.size) :
    Literal.absorb m (Json.digitValues ds) = (Nat.ofDigitChars 10 ds m, []) := by
  induction ds generalizing m with
  | nil => rfl
  | cons c rest ih =>
      have hstep : Nat.ofDigitChars 10 (c :: rest) m =
          Nat.ofDigitChars 10 rest (10 * m + (c.toNat - 48)) := rfl
      rw [hstep] at h ⊢
      have hfits : 10 * m + (c.toNat - 48) < UInt64.size :=
        Nat.lt_of_le_of_lt (Nat.le_ofDigitChars rest _) h
      rw [← ih h]
      simp only [Json.digitValues, List.map_cons, Literal.absorb, if_pos hfits]

end Number

namespace Decimal

theorem dropZeros_digits_eq_zero {fuel : Nat} {d : Decimal} (h : (d.dropZeros fuel).digits = 0) :
    d.digits = 0 := by
  induction fuel generalizing d with
  | zero => exact h
  | succ fuel ih =>
      rw [dropZeros] at h
      split at h
      · next hzeros =>
          have := ih h
          have : d.digits / 10 = 0 := this
          omega
      · exact h

theorem dropZeros_zero (fuel : Nat) {d : Decimal} (h : d.digits = 0) : d.dropZeros fuel = d := by
  cases fuel with
  | zero => rfl
  | succ fuel => rw [dropZeros, if_neg fun hzeros => hzeros.1 h]

theorem isZero_of_readsBackAs {d : Decimal} {x : Binary64} (hd : d.digits = 0)
    (h : d.readsBackAs x = true) : x.isZero = true := by
  have hnum : d.numerator = 0 := by rw [numerator, hd, Nat.zero_mul]
  simp only [readsBackAs, toBinary64?, Binary64.ofRatio?, hnum, beq_iff_eq] at h
  split at h
  · rw [← Option.some.inj h]
    simp [Binary64.isZero, Binary64.roundRatio]
  · cases h

theorem digits_ne_zero_of_onGrid? {tie : Tie} {x : Binary64} {k : Int} {d : Decimal}
    (hx : x.isZero = false) (h : onGrid? tie x k = some d) : d.digits ≠ 0 := by
  have hlow : ∀ d' : Decimal, d'.readsBackAs x = true → d'.digits ≠ 0 := by
    intro d' hread hzero
    rw [isZero_of_readsBackAs hzero hread] at hx
    cases hx
  simp only [onGrid?] at h
  split at h
  · next hl hh =>
      cases h
      split
      · exact hlow _ hl
      · exact hlow _ hh
  · next hl _ =>
      cases h
      exact hlow _ hl
  · next _ hh =>
      cases h
      exact hlow _ hh
  · cases h

theorem exponent_of_shortest {tie : Tie} {x : Binary64} (h : (shortest tie x).digits = 0) :
    (shortest tie x).exponent = 0 := by
  simp only [shortest] at h ⊢
  split at h
  · next hx => rw [if_pos hx]
  · next hx =>
      have hx' : x.isZero = false := Bool.eq_false_iff.mpr hx
      rw [if_neg hx]
      have hdigits := dropZeros_digits_eq_zero h
      rw [dropZeros_zero 17 hdigits]
      cases hfound : (List.range 17).findSome? fun (i : Nat) =>
          onGrid? tie x (decimalOrder x.numerator x.denominator - i) with
      | none => rfl
      | some d =>
          rw [hfound] at hdigits
          obtain ⟨i, -, hgrid⟩ := List.exists_of_findSome?_eq_some hfound
          exact absurd hdigits (digits_ne_zero_of_onGrid? hx' hgrid)

def positionalNumeral (d : Decimal) : Json.Numeral :=
  let ds := d.digitChars
  if 0 ≤ d.exponent then { whole := ds ++ List.replicate d.exponent.toNat '0', fraction := ['0'] }
  else if 0 ≤ d.order then
    { whole := ds.take (d.order.toNat + 1), fraction := ds.drop (d.order.toNat + 1) }
  else { whole := ['0'], fraction := List.replicate (-d.order - 1).toNat '0' ++ ds }

def scientificNumeral (d : Decimal) : Json.Numeral where
  whole := d.digitChars.take 1
  fraction := d.digitChars.drop 1
  exponent := some (decide (d.order < 0), Nat.toDigits 10 d.order.natAbs)

theorem length_digitChars_pos (d : Decimal) : 0 < d.digitChars.length := Nat.length_toDigits_pos

theorem allDigits_replicate (n : Nat) : Json.AllDigits (List.replicate n '0') := by
  intro c hc
  rw [List.eq_of_mem_replicate hc]
  rfl

theorem allDigits_digitChars (d : Decimal) : Json.AllDigits d.digitChars :=
  allDigits_toDigits d.digits

theorem chars_positionalNumeral (d : Decimal) : d.positionalNumeral.chars = d.positional := by
  have hlength := d.length_digitChars_pos
  simp only [positionalNumeral, positional]
  split
  · simp [Json.Numeral.chars, Json.Numeral.fractionChars, Json.Numeral.exponentChars]
  · next hexponent =>
      split
      · next horder =>
          have hfraction : d.digitChars.drop (d.order.toNat + 1) ≠ [] := by
            rw [Ne, List.drop_eq_nil_iff]
            simp only [order] at horder ⊢
            omega
          simp only [Json.Numeral.chars, Json.Numeral.fractionChars_of_ne_nil hfraction,
            Json.Numeral.exponentChars, List.append_nil]
      · have hfraction : List.replicate (-d.order - 1).toNat '0' ++ d.digitChars ≠ [] :=
          List.append_ne_nil_of_right_ne_nil _ (List.ne_nil_of_length_pos hlength)
        simp only [Json.Numeral.chars, Json.Numeral.fractionChars_of_ne_nil hfraction,
          Json.Numeral.exponentChars, List.append_nil, List.cons_append, List.nil_append]

theorem chars_scientificNumeral (d : Decimal) : d.scientificNumeral.chars = d.scientific := by
  have hlength := d.length_digitChars_pos
  simp only [scientificNumeral, scientific, Json.Numeral.chars, Json.Numeral.exponentChars,
    decide_eq_true_eq]
  generalize d.digitChars = ds at hlength ⊢
  match ds with
  | [] => cases hlength
  | [c] => rfl
  | c :: c' :: cs => rfl

theorem proper_positionalNumeral {d : Decimal} (h : d.digits = 0 → d.exponent = 0) :
    d.positionalNumeral.Proper := by
  have hdigits := d.allDigits_digitChars
  have hlength := d.length_digitChars_pos
  simp only [positionalNumeral]
  split
  · refine ⟨?_, ?_, ?_, by simp [Json.AllDigits], by simp⟩
    · exact List.forall_mem_append.mpr ⟨hdigits, allDigits_replicate _⟩
    · exact List.append_ne_nil_of_left_ne_nil (List.ne_nil_of_length_pos hlength) _
    · intro c cs hwhole
      rcases Nat.eq_zero_or_pos d.digits with hzero | hpos
      · simp [digitChars, hzero, h hzero] at hwhole
      · refine Nat.head?_toDigits_ne_zero hpos ?_
        obtain ⟨c', cs', hcs⟩ := List.exists_cons_of_length_pos hlength
        simp only [hcs, List.cons_append, List.cons.injEq] at hwhole
        rw [← digitChars, hcs, List.head?_cons, hwhole.1]
  · split
    · refine ⟨?_, ?_, ?_, ?_, by simp⟩
      · exact fun c hc => hdigits c (List.mem_of_mem_take hc)
      · simp [List.ne_nil_of_length_pos hlength]
      · intro c cs hwhole
        have htake : d.digitChars.take (d.order.toNat + 1) = '0' :: c :: cs := hwhole
        have hsplit := List.take_append_drop (d.order.toNat + 1) d.digitChars
        rw [htake] at hsplit
        exact Nat.toDigits_no_leading_zero d.digits c _ hsplit.symm
      · exact fun c hc => hdigits c (List.mem_of_mem_drop hc)
    · refine ⟨by simp [Json.AllDigits], by simp, by simp, ?_, by simp⟩
      exact List.forall_mem_append.mpr ⟨allDigits_replicate _, hdigits⟩

theorem proper_scientificNumeral (d : Decimal) : d.scientificNumeral.Proper := by
  have hdigits := d.allDigits_digitChars
  have hlength := d.length_digitChars_pos
  refine ⟨?_, ?_, ?_, ?_, ?_⟩
  · exact fun c hc => hdigits c (List.mem_of_mem_take hc)
  · simp [scientificNumeral, List.ne_nil_of_length_pos hlength]
  · intro c cs hwhole
    have := congrArg List.length hwhole
    simp only [scientificNumeral, List.length_take, List.length_cons] at this
    omega
  · exact fun c hc => hdigits c (List.mem_of_mem_drop hc)
  · intro e he
    cases he
    exact ⟨allDigits_toDigits _, Nat.toDigits_ne_nil⟩

end Decimal

namespace Number

def isNegative : Number → Bool
  | .natural _ => false
  | .negative _ _ => true
  | .float x => x.negative

def numeral : Number → Json.Numeral
  | .natural n => { whole := Nat.toDigits 10 n.toNat }
  | .negative n _ => { whole := Nat.toDigits 10 n.toInt.natAbs }
  | .float x =>
      let d := Decimal.shortest .even x
      if -5 ≤ d.order ∧ d.order ≤ 15 then d.positionalNumeral else d.scientificNumeral

theorem text_eq (n : Number) :
    n.text.toList = Decimal.signed n.isNegative n.numeral.chars := by
  cases n with
  | natural n => simp [text, isNegative, numeral, Decimal.signed, Json.Numeral.chars,
      Json.Numeral.fractionChars, Json.Numeral.exponentChars]
  | negative n h => simp [text, isNegative, numeral, Decimal.signed, Json.Numeral.chars,
      Json.Numeral.fractionChars, Json.Numeral.exponentChars]
  | float x =>
      simp only [text, isNegative, numeral, Decimal.jsonText, String.toList_ofList]
      split
      · rw [Decimal.chars_positionalNumeral]
      · rw [Decimal.chars_scientificNumeral]

theorem proper_integer (n : Nat) : Json.Numeral.Proper { whole := Nat.toDigits 10 n } where
  whole := allDigits_toDigits n
  whole_ne_nil := Nat.toDigits_ne_nil
  no_leading_zero := Nat.toDigits_no_leading_zero n
  fraction := fun _ h => nomatch h
  exponent := fun _ h => nomatch h

theorem proper_numeral (n : Number) : n.numeral.Proper := by
  cases n with
  | natural n => exact proper_integer n.toNat
  | negative n h => exact proper_integer n.toInt.natAbs
  | float x =>
      simp only [numeral]
      split
      · exact Decimal.proper_positionalNumeral Decimal.exponent_of_shortest
      · exact Decimal.proper_scientificNumeral _

def reread (n : Number) : Option Number := (n.numeral.literal n.isNegative).number?

def IsInteger : Number → Prop
  | .float _ => False
  | _ => True

theorem absorb_toDigits {n : Nat} (h : n < UInt64.size) :
    Literal.absorb 0 (Json.digitValues (Nat.toDigits 10 n)) = (n, []) := by
  have hvalue : Nat.ofDigitChars 10 (Nat.toDigits 10 n) 0 = n := Nat.ofDigitChars_ten_toDigits
  have habsorb := absorb_digitValues (hvalue.symm ▸ h)
  rwa [hvalue] at habsorb

theorem reread_natural (n : UInt64) : (natural n).reread = some (natural n) := by
  have hliteral : (natural n).numeral.literal (natural n).isNegative =
      ⟨false, Json.digitValues (Nat.toDigits 10 n.toNat), [], none⟩ := rfl
  rw [reread, hliteral]
  simp only [Literal.number?, absorb_toDigits n.toNat_lt]
  simp

theorem reread_negative (n : Int64) (h : n < 0) : (negative n h).reread = some (negative n h) := by
  have hliteral : (negative n h).numeral.literal (negative n h).isNegative =
      ⟨true, Json.digitValues (Nat.toDigits 10 n.toInt.natAbs), [], none⟩ := rfl
  have hlow : -9223372036854775808 ≤ n.toInt := n.le_toInt
  have hneg : n.toInt < 0 := Int64.lt_iff_toInt_lt.mp h
  have hsize : n.toInt.natAbs < UInt64.size := by
    have : UInt64.size = 18446744073709551616 := rfl
    omega
  have hvalue : Int64.ofInt (-(n.toInt.natAbs : Int)) = n := by
    have habs : (-(n.toInt.natAbs : Int)) = n.toInt := by omega
    rw [habs, Int64.ofInt_toInt]
  have hfits : n.toInt.natAbs ≤ 0x8000000000000000 := by omega
  rw [reread, hliteral]
  simp only [Literal.number?, absorb_toDigits hsize, hvalue]
  simp [h, hfits]

theorem reread_of_isInteger {n : Number} (h : n.IsInteger) : n.reread = some n := by
  cases n with
  | natural n => exact reread_natural n
  | negative n hn => exact reread_negative n hn
  | float x => cases h

end Number

end ConsumerContract
