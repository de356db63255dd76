import ConsumerContract.Proofs.Preset.Ipv6Pattern
import Mathlib.Data.List.Chain

namespace ConsumerContract.Ipv6

open Pattern

theorem contains_digit {c : Char} (h : c.isDigit = true) :
    (ClassKind.digit.chars true).contains c = true := by
  have hrun : (0x30, 0x39) ∈ (ClassKind.digit.chars true).runs := by decide +kernel
  exact List.any_eq_true.mpr ⟨_, hrun, decide_eq_true (Char.isDigit_iff_toNat.mp h)⟩

theorem Octet.mem_texts (o : Octet) : o.chars ∈ octetExpr.texts := by
  rw [octetExpr, Expr.texts, Expr.texts, mem_repeatedTexts_charTexts_iff]
  refine ⟨o.length_pos, fun m hm => ?_, fun c hc => contains_digit (o.isDecimal c hc)⟩
  cases hm
  exact o.length_le

theorem Octet.dotted_mem_texts (o : Octet) : o.chars ++ ['.'] ∈ dottedOctetExpr.texts := by
  simp only [dottedOctetExpr, Expr.texts, Expr.textsOfAll, mul_one]
  exact Language.append_mem_mul o.mem_texts (mem_charTexts_singleton_iff.mpr rfl)

theorem Quad.mem_texts (q : Quad) : q.chars ∈ Expr.textsOfAll quadExprs := by
  have hchars : q.chars =
      [q.first, q.second, q.third].flatMap (fun o => o.chars ++ ['.']) ++ q.fourth.chars := by
    simp [Quad.chars]
  have hthree : [q.first, q.second, q.third].flatMap (fun o => o.chars ++ ['.']) ∈
      repeatedTexts 3 (some 3) dottedOctetExpr.texts := by
    refine ⟨3, Nat.le_refl _, by simp, Language.mem_pow.mpr ⟨_, List.flatMap_def, rfl, ?_⟩⟩
    intro w hw
    obtain ⟨o, _, rfl⟩ := List.mem_map.mp hw
    exact o.dotted_mem_texts
  simp only [quadExprs, Expr.textsOfAll, Expr.texts, mul_one]
  rw [hchars]
  exact Language.append_mem_mul hthree q.fourth.mem_texts

theorem Octet.colon_not_mem (o : Octet) : ':' ∉ o.chars := fun h => by
  simpa using o.isDecimal ':' h

theorem Quad.colon_not_mem (q : Quad) : ':' ∉ q.chars := by
  simp [Quad.chars, Octet.colon_not_mem]

theorem Group.colon_not_mem (g : Group) : ':' ∉ g.chars := fun h => by
  simpa [CharSet.hexDigit?] using g.isHex ':' h

theorem Group.point_not_mem (g : Group) : '.' ∉ g.chars := fun h => by
  simpa [CharSet.hexDigit?] using g.isHex '.' h

theorem Stretch.parts_plain (s : Stretch) : ∀ p ∈ s.parts, p ≠ [] ∧ ':' ∉ p := by
  intro p hp
  rcases List.mem_append.mp hp with hp | hp
  · obtain ⟨g, _, rfl⟩ := List.mem_map.mp hp
    exact ⟨List.ne_nil_of_length_pos g.length_pos, g.colon_not_mem⟩
  · obtain ⟨q, _, rfl⟩ := List.mem_map.mp hp
    exact ⟨by simp [Quad.chars], q.colon_not_mem⟩

def NotBothColons (a b : Char) : Prop := ¬ (a = ':' ∧ b = ':')

theorem isChain_intercalate {parts : List (List Char)} (h : ∀ p ∈ parts, p ≠ [] ∧ ':' ∉ p) :
    ([':'].intercalate parts).IsChain NotBothColons ∧
      ∀ c ∈ ([':'].intercalate parts).head?, c ≠ ':' := by
  induction parts with
  | nil => exact ⟨List.isChain_nil, by simp⟩
  | cons p parts ih =>
      obtain ⟨⟨hne, hp⟩, hparts⟩ := List.forall_mem_cons.mp h
      have hchain : p.IsChain NotBothColons := by
        refine (List.pairwise_of_forall_mem_list fun a ha b _ hab => ?_).isChain
        exact hp (hab.1 ▸ ha)
      have hhead (rest : List Char) : ∀ c ∈ (p ++ rest).head?, c ≠ ':' := by
        obtain ⟨d, p, rfl⟩ := List.exists_cons_of_ne_nil hne
        rintro c ⟨⟩ rfl
        exact hp List.mem_cons_self
      cases parts with
      | nil =>
          rw [List.intercalate_singleton]
          exact ⟨hchain, List.append_nil p ▸ hhead []⟩
      | cons q rest =>
          obtain ⟨hrest, hcolon⟩ := ih hparts
          rw [List.intercalate_cons_cons, List.append_assoc]
          refine ⟨List.isChain_append.mpr ⟨hchain, ?_, ?_⟩, hhead _⟩
          · exact List.isChain_cons.mpr ⟨fun c hc hboth => hcolon c hc hboth.2, hrest⟩
          · intro c hc _ _ hboth
            exact hp (hboth.1 ▸ List.mem_of_getLast? hc)

theorem Stretch.chars_ne_append_colons (s : Stretch) (before after : List Char) :
    s.chars ≠ before ++ ':' :: ':' :: after := by
  intro h
  have hchain := (isChain_intercalate s.parts_plain).1
  rw [← Stretch.chars, h, List.isChain_append_cons_cons] at hchain
  exact hchain.2.1 ⟨rfl, rfl⟩

theorem point_not_mem_joined (gs : List Group) : '.' ∉ joined gs := by
  rcases List.eq_nil_or_concat' gs with rfl | ⟨gs, g, rfl⟩
  · exact List.not_mem_nil
  · simp [joined_concat, Group.closed, Group.point_not_mem]

theorem isMatch_full_of_quad (gs : List Group) (q : Quad) :
    Pattern.isMatch Preset.ipv6Pattern (.ofList (Stretch.mk gs (some q)).chars) = false := by
  rw [← Bool.not_eq_true, isMatch_ipv6Pattern_iff, String.toList_ofList]
  rintro (⟨gs', _, h⟩ | ⟨left, x, _, h⟩)
  · have hpoint : '.' ∈ (Stretch.mk gs (some q)).chars := by
      rw [Stretch.chars_of_quad]
      simp [Quad.chars]
    exact point_not_mem_joined gs' (h ▸ hpoint)
  · exact Stretch.chars_ne_append_colons _ _ _ h

theorem isMatch_full {gs : List Group} (h : gs.length = 8) :
    Pattern.isMatch Preset.ipv6Pattern (.ofList (joined gs)) = true := by
  rw [isMatch_ipv6Pattern_iff, String.toList_ofList]
  exact .inl ⟨gs, h, rfl⟩

theorem isMatch_elided (left : List Group) (right : Stretch) :
    Pattern.isMatch Preset.ipv6Pattern (.ofList (joined left ++ ':' :: ':' :: right.chars)) =
      true := by
  rw [isMatch_ipv6Pattern_iff, String.toList_ofList]
  refine .inr ⟨left, right.chars, ?_, rfl⟩
  obtain ⟨gs, _ | q⟩ := right
  · exact .inl ⟨gs, rfl⟩
  · exact .inr ⟨gs, q.chars, q.mem_texts, Stretch.chars_of_quad gs q⟩

/-- The addresses that the rule misses are those like `0:0:0:0:0:FFFF:129.144.52.38`. -/
theorem rule_misses_only_full_with_quad (a : Address) :
    ∃ p, Preset.ipv6Address.criterion.rule.regex = some p ∧
      Pattern.isMatch p a.text = !a.isFullWithQuad := by
  refine ⟨Preset.ipv6Pattern, rfl, ?_⟩
  cases a with
  | full s eight =>
      obtain ⟨gs, _ | q⟩ := s
      · exact isMatch_full eight
      · exact isMatch_full_of_quad gs q
  | elided left right fewer => exact isMatch_elided left right

def zeroGroup : Group where chars := ['0']

def mappedInFull : Address :=
  .full
    { groups := [zeroGroup, zeroGroup, zeroGroup, zeroGroup, zeroGroup,
        { chars := ['F', 'F', 'F', 'F'] }]
      quad? := some
        { first := { chars := ['1', '2', '9'] }
          second := { chars := ['1', '4', '4'] }
          third := { chars := ['5', '2'] }
          fourth := { chars := ['3', '8'] } } }
    rfl

theorem mappedInFull_not_admitted :
    mappedInFull.text = "0:0:0:0:0:FFFF:129.144.52.38" ∧
      Pattern.isMatch Preset.ipv6Pattern mappedInFull.text = false :=
  ⟨rfl, isMatch_full_of_quad _ _⟩

end ConsumerContract.Ipv6
