import ConsumerContract.Preset
import ConsumerContract.Proofs.List
import ConsumerContract.Proofs.Pattern.Language
import ConsumerContract.Proofs.Pattern.Reading
import ConsumerContract.Text.Ipv6

namespace ConsumerContract.Ipv6

open Pattern

def hexDigits : CharSet := ⟨[(0x30, 0x39), (0x41, 0x46), (0x61, 0x66)]⟩

def groupExpr : Expr := .repetition 1 (some 4) (.chars hexDigits)

def colonExpr : Expr := .chars (.singleton ':')

def closedGroupExpr : Expr := .capture (.concat [groupExpr, colonExpr])

def groupsExpr (min : Nat) (max : Option Nat) : Expr :=
  .concat [.repetition min max closedGroupExpr, groupExpr]

def sideExpr : Expr := .repetition 0 (some 1) (.capture (groupsExpr 0 none))

def octetExpr : Expr := .repetition 1 (some 3) (.chars (ClassKind.digit.chars true))

def dottedOctetExpr : Expr := .capture (.concat [octetExpr, .chars (.singleton '.')])

def quadExprs : List Expr := [.repetition 3 (some 3) dottedOctetExpr, octetExpr]

def quadSideExprs : List Expr := .repetition 0 none closedGroupExpr :: quadExprs

def elidedExpr (right : List Expr) : Expr :=
  .concat (sideExpr :: colonExpr :: colonExpr :: right)

def addressExpr : Expr :=
  .capture (.alternation [groupsExpr 7 (some 7), elidedExpr [sideExpr], elidedExpr quadSideExprs])

theorem readsAs_ipv6Pattern : readsAs Preset.ipv6Pattern addressExpr.wholeText = true := by
  decide +kernel

def Group.closed (g : Group) : List Char := g.chars ++ [':']

def joined (gs : List Group) : List Char := (Stretch.mk gs none).chars

theorem joined_concat (gs : List Group) (g : Group) :
    joined (gs ++ [g]) = gs.flatMap Group.closed ++ g.chars := by
  have hparts : (Stretch.mk (gs ++ [g]) none).parts = gs.map Group.chars ++ [g.chars] := by
    simp [Stretch.parts]
  rw [joined, Stretch.chars, hparts, List.intercalate_concat, List.flatMap_map]
  rfl

theorem Stretch.chars_of_quad (gs : List Group) (q : Quad) :
    (Stretch.mk gs (some q)).chars = gs.flatMap Group.closed ++ q.chars := by
  rw [Stretch.chars, Stretch.parts, Option.toList_some, List.map_singleton, List.intercalate_concat,
    List.flatMap_map]
  rfl

theorem contains_hexDigits (c : Char) :
    hexDigits.contains c = (CharSet.hexDigit? c).isSome := by
  have hle (a b : Char) : a ≤ b ↔ a.toNat ≤ b.toNat := by
    rw [Char.le_def, UInt32.le_iff_toNat_le]
    rfl
  rw [Bool.eq_iff_iff]
  simp only [hexDigits, CharSet.contains, CharSet.hasCode, CharSet.hexDigit?, hle]
  split_ifs <;> simp_all

theorem mem_groupExpr_texts_iff (w : List Char) :
    w ∈ groupExpr.texts ↔ ∃ g : Group, w = g.chars := by
  rw [groupExpr, Expr.texts, Expr.texts, mem_repeatedTexts_charTexts_iff]
  simp only [contains_hexDigits]
  constructor
  · rintro ⟨hpos, hle, hhex⟩
    exact ⟨⟨w, hpos, hle 4 rfl, List.all_eq_true.mpr hhex⟩, rfl⟩
  · rintro ⟨g, rfl⟩
    exact ⟨g.length_pos, fun m hm => by cases hm; exact g.length_le, g.isHex⟩

theorem mem_closedGroupExpr_texts_iff (w : List Char) :
    w ∈ closedGroupExpr.texts ↔ ∃ g : Group, w = g.closed := by
  simp only [closedGroupExpr, colonExpr, Expr.texts, Expr.textsOfAll, mul_one, Language.mem_mul,
    mem_groupExpr_texts_iff, mem_charTexts_singleton_iff]
  constructor
  · rintro ⟨_, ⟨g, rfl⟩, _, rfl, rfl⟩
    exact ⟨g, rfl⟩
  · rintro ⟨g, rfl⟩
    exact ⟨_, ⟨g, rfl⟩, _, rfl, rfl⟩

theorem mem_groupsExpr_texts_iff {min : Nat} {max : Option Nat} (w : List Char) :
    w ∈ (groupsExpr min max).texts ↔
      ∃ gs g, min ≤ gs.length ∧ (∀ m ∈ max, gs.length ≤ Max.max min m) ∧
        w = joined (gs ++ [g]) := by
  simp only [groupsExpr, Expr.texts, Expr.textsOfAll, mul_one, Language.mem_mul,
    mem_groupExpr_texts_iff, mem_repeatedTexts_flatMap_iff mem_closedGroupExpr_texts_iff,
    joined_concat]
  constructor
  · rintro ⟨_, ⟨gs, hmin, hmax, rfl⟩, _, ⟨g, rfl⟩, rfl⟩
    exact ⟨gs, g, hmin, hmax, rfl⟩
  · rintro ⟨gs, g, hmin, hmax, rfl⟩
    exact ⟨_, ⟨gs, hmin, hmax, rfl⟩, _, ⟨g, rfl⟩, rfl⟩

theorem mem_sideExpr_texts_iff (w : List Char) :
    w ∈ sideExpr.texts ↔ ∃ gs : List Group, w = joined gs := by
  rw [sideExpr, Expr.texts, Expr.texts, mem_repeatedTexts_optional_iff, mem_groupsExpr_texts_iff]
  constructor
  · rintro (rfl | ⟨gs, g, _, _, rfl⟩)
    · exact ⟨[], rfl⟩
    · exact ⟨gs ++ [g], rfl⟩
  · rintro ⟨gs, rfl⟩
    rcases List.eq_nil_or_concat' gs with rfl | ⟨gs, g, rfl⟩
    · exact .inl rfl
    · exact .inr ⟨gs, g, Nat.zero_le _, by simp, rfl⟩

theorem mem_eightGroups_texts_iff (w : List Char) :
    w ∈ (groupsExpr 7 (some 7)).texts ↔ ∃ gs : List Group, gs.length = 8 ∧ w = joined gs := by
  rw [mem_groupsExpr_texts_iff]
  constructor
  · rintro ⟨gs, g, hmin, hmax, rfl⟩
    have hlength : gs.length = 7 := Nat.le_antisymm (hmax 7 rfl) hmin
    exact ⟨gs ++ [g], by simp [hlength], rfl⟩
  · rintro ⟨gs, hlength, rfl⟩
    rcases List.eq_nil_or_concat' gs with rfl | ⟨gs, g, rfl⟩
    · cases hlength
    · have hgs : gs.length = 7 := by simpa using hlength
      exact ⟨gs, g, hgs.ge, fun m hm => by cases hm; exact hgs.le, rfl⟩

theorem mem_elidedExpr_texts_iff {right : List Expr} (w : List Char) :
    w ∈ (elidedExpr right).texts ↔
      ∃ left : List Group, ∃ x ∈ Expr.textsOfAll right, w = joined left ++ ':' :: ':' :: x := by
  simp only [elidedExpr, colonExpr, Expr.texts, Expr.textsOfAll, Language.mem_mul,
    mem_sideExpr_texts_iff, mem_charTexts_singleton_iff]
  constructor
  · rintro ⟨_, ⟨left, rfl⟩, _, ⟨_, rfl, _, ⟨_, rfl, x, hx, rfl⟩, rfl⟩, rfl⟩
    exact ⟨left, x, hx, rfl⟩
  · rintro ⟨left, x, hx, rfl⟩
    exact ⟨_, ⟨left, rfl⟩, _, ⟨_, rfl, _, ⟨_, rfl, x, hx, rfl⟩, rfl⟩, rfl⟩

theorem mem_quadSideExprs_texts_iff (w : List Char) :
    w ∈ Expr.textsOfAll quadSideExprs ↔
      ∃ gs : List Group, ∃ q ∈ Expr.textsOfAll quadExprs, w = gs.flatMap Group.closed ++ q := by
  simp only [quadSideExprs, Expr.texts, Expr.textsOfAll, Language.mem_mul,
    mem_repeatedTexts_flatMap_iff mem_closedGroupExpr_texts_iff]
  constructor
  · rintro ⟨_, ⟨gs, _, _, rfl⟩, q, hq, rfl⟩
    exact ⟨gs, q, hq, rfl⟩
  · rintro ⟨gs, q, hq, rfl⟩
    exact ⟨_, ⟨gs, Nat.zero_le _, by simp, rfl⟩, q, hq, rfl⟩

theorem isMatch_ipv6Pattern_iff (text : String) :
    Pattern.isMatch Preset.ipv6Pattern text = true ↔
      (∃ gs : List Group, gs.length = 8 ∧ text.toList = joined gs) ∨
      ∃ (left : List Group) (x : List Char),
        ((∃ right : List Group, x = joined right) ∨
          ∃ right : List Group, ∃ q ∈ Expr.textsOfAll quadExprs,
            x = right.flatMap Group.closed ++ q) ∧
        text.toList = joined left ++ ':' :: ':' :: x := by
  rw [Pattern.isMatch_of_readsAs readsAs_ipv6Pattern, Expr.isMatch_wholeText_iff rfl, addressExpr,
    Expr.texts, Expr.texts]
  simp only [Expr.textsOfAny, add_zero, Language.mem_add, mem_eightGroups_texts_iff,
    mem_elidedExpr_texts_iff, mem_quadSideExprs_texts_iff, Expr.textsOfAll, mul_one,
    mem_sideExpr_texts_iff, or_and_right, exists_or]

end ConsumerContract.Ipv6
