import ConsumerContract.Pattern.Match
import Mathlib.Computability.Language
import Mathlib.Tactic.IntervalCases

/-!
Matching a pattern without anchors leads from a spot over just the texts that the pattern stands
for. So it matches wherever one of them stands, and between the anchors of a whole text it matches
just them.
-/

namespace Language

/-- Empty texts add nothing, so no more are needed than there are symbols. -/
theorem exists_mem_pow_le_length {α : Type} {L : Language α} {w : List α} {n : Nat}
    (h : w ∈ L ^ n) :
    ∃ k ≤ n, k ≤ w.length ∧ w ∈ L ^ k := by
  induction n generalizing w with
  | zero => exact ⟨0, Nat.le_refl _, Nat.zero_le _, h⟩
  | succ n ih =>
      rw [pow_succ'] at h
      obtain ⟨v, hv, x, hx, rfl⟩ := h
      obtain ⟨k, hk, hlength, hmem⟩ := ih hx
      cases v with
      | nil => exact ⟨k, Nat.le_succ_of_le hk, hlength, hmem⟩
      | cons c v =>
          refine ⟨k + 1, Nat.succ_le_succ hk, ?_, ?_⟩
          · simp only [List.length_append, List.length_cons]
            omega
          · rw [pow_succ']
            exact Language.append_mem_mul hv hmem

end Language

namespace ConsumerContract.Pattern

variable {s t : Spot} {v w : List Char} {f g : Spot → List Spot} {L M : Language Char}

namespace Spot

def Passes (s : Spot) (w : List Char) (t : Spot) : Prop :=
  s.after = w ++ t.after ∧ t.before = w.reverse ++ s.before

theorem passes_nil_iff : s.Passes [] t ↔ t = s := by
  obtain ⟨before, after⟩ := s
  obtain ⟨before', after'⟩ := t
  simp only [Passes, List.nil_append, List.reverse_nil, mk.injEq]
  exact ⟨fun h => ⟨h.2, h.1.symm⟩, fun h => ⟨h.2.symm, h.1⟩⟩

theorem passes_append_iff : s.Passes (v ++ w) t ↔ ∃ u, s.Passes v u ∧ u.Passes w t := by
  constructor
  · intro h
    refine ⟨⟨v.reverse ++ s.before, w ++ t.after⟩, ⟨?_, rfl⟩, rfl, ?_⟩
    · rw [h.1, List.append_assoc]
    · rw [h.2, List.reverse_append, List.append_assoc]
  · rintro ⟨u, hv, hw⟩
    constructor
    · rw [hv.1, hw.1, List.append_assoc]
    · rw [hw.2, hv.2, List.reverse_append, List.append_assoc]

theorem Passes.length_le (h : s.Passes w t) : w.length ≤ s.after.length := by
  rw [h.1, List.length_append]
  exact Nat.le_add_right _ _

theorem exists_passes_mul_iff :
    (∃ x ∈ L * M, s.Passes x t) ↔
      ∃ u, (∃ v ∈ L, s.Passes v u) ∧ ∃ w ∈ M, u.Passes w t := by
  constructor
  · rintro ⟨_, ⟨v, hv, w, hw, rfl⟩, h⟩
    obtain ⟨u, hsu, hut⟩ := passes_append_iff.mp h
    exact ⟨u, ⟨v, hv, hsu⟩, w, hw, hut⟩
  · rintro ⟨u, ⟨v, hv, hsu⟩, w, hw, hut⟩
    exact ⟨v ++ w, Language.append_mem_mul hv hw, passes_append_iff.mpr ⟨u, hsu, hut⟩⟩

end Spot

def Finds (f : Spot → List Spot) (L : Language Char) : Prop :=
  ∀ s t, t ∈ f s ↔ ∃ w ∈ L, s.Passes w t

def charTexts (cs : CharSet) : Language Char := {w | ∃ c, cs.contains c = true ∧ w = [c]}

/-- At least `min` texts of a language in a row, and at most `max` unless that is less. -/
def repeatedTexts (min : Nat) (max : Option Nat) (L : Language Char) : Language Char :=
  {w | ∃ n, min ≤ n ∧ (∀ m ∈ max, n ≤ Max.max min m) ∧ w ∈ L ^ n}

theorem mem_charTexts_iff {cs : CharSet} :
    w ∈ charTexts cs ↔ ∃ c, cs.contains c = true ∧ w = [c] := Iff.rfl

theorem mem_repeatedTexts_iff {min : Nat} {max : Option Nat} :
    w ∈ repeatedTexts min max L ↔
      ∃ n, min ≤ n ∧ (∀ m ∈ max, n ≤ Max.max min m) ∧ w ∈ L ^ n := Iff.rfl

theorem mem_charTexts_singleton_iff {c : Char} : w ∈ charTexts (.singleton c) ↔ w = [c] := by
  simp [mem_charTexts_iff, CharSet.contains_singleton]

theorem finds_stay : Finds (fun s => [s]) 1 := by
  intro s t
  simp [Language.mem_one, Spot.passes_nil_iff]

theorem finds_advance (cs : CharSet) : Finds (Spot.advance cs) (charTexts cs) := by
  rintro ⟨before, after⟩ ⟨before', after'⟩
  simp only [mem_charTexts_iff, Spot.Passes]
  cases after with
  | nil => simp [Spot.advance]
  | cons c rest =>
      simp only [Spot.advance]
      split
      · rename_i hc
        rw [List.mem_singleton, Spot.mk.injEq]
        constructor
        · rintro ⟨rfl, rfl⟩
          exact ⟨[c], ⟨c, hc, rfl⟩, rfl, rfl⟩
        · rintro ⟨_, ⟨d, _, rfl⟩, hafter, hbefore⟩
          obtain ⟨rfl, rfl⟩ := List.cons.inj hafter
          exact ⟨hbefore, rfl⟩
      · rename_i hc
        constructor
        · intro h
          cases h
        · rintro ⟨_, ⟨d, hd, rfl⟩, hafter, _⟩
          obtain ⟨rfl, _⟩ := List.cons.inj hafter
          exact absurd hd hc

theorem Finds.andThen (hf : Finds f L) (hg : Finds g M) :
    Finds (fun s => (f s).flatMap g) (L * M) := by
  intro s t
  rw [Spot.exists_passes_mul_iff, List.mem_flatMap]
  exact exists_congr fun u => and_congr (hf s u) (hg u t)

theorem Finds.orElse (hf : Finds f L) (hg : Finds g M) : Finds (fun s => f s ++ g s) (L + M) := by
  intro s t
  simp only [List.mem_append, hf s t, hg s t, Language.mem_add, or_and_right, exists_or]

theorem Finds.mem_stepTimes_iff (h : Finds f L) (n : Nat) (spots : List Spot) :
    t ∈ stepTimes f n spots ↔ ∃ s ∈ spots, ∃ w ∈ L ^ n, s.Passes w t := by
  induction n generalizing spots with
  | zero => simp [stepTimes, Language.mem_one, Spot.passes_nil_iff]
  | succ n ih =>
      simp only [stepTimes, ih, List.mem_eraseDups, List.mem_flatMap, h _ _, pow_succ',
        Spot.exists_passes_mul_iff]
      constructor
      · rintro ⟨u, ⟨s, hs, hsu⟩, hut⟩
        exact ⟨s, hs, u, hsu, hut⟩
      · rintro ⟨s, hs, u, hsu, hut⟩
        exact ⟨u, ⟨s, hs, hsu⟩, hut⟩

theorem Finds.mem_stepUpTo_iff (h : Finds f L) (n : Nat) (spots : List Spot) :
    t ∈ stepUpTo f n spots ↔ ∃ s ∈ spots, ∃ k ≤ n, ∃ w ∈ L ^ k, s.Passes w t := by
  induction n generalizing spots with
  | zero => simp [stepUpTo, Language.mem_one, Spot.passes_nil_iff]
  | succ n ih =>
      simp only [stepUpTo, ih, List.mem_eraseDups, List.mem_append, List.mem_flatMap, h _ _]
      constructor
      · rintro (ht | ⟨u, ⟨s, hs, hsu⟩, k, hk, hut⟩)
        · exact ⟨t, ht, 0, Nat.zero_le _, [], rfl, Spot.passes_nil_iff.mpr rfl⟩
        · refine ⟨s, hs, k + 1, Nat.succ_le_succ hk, ?_⟩
          rw [pow_succ', Spot.exists_passes_mul_iff]
          exact ⟨u, hsu, hut⟩
      · rintro ⟨s, hs, k, hk, hst⟩
        cases k with
        | zero =>
            obtain ⟨_, rfl, hst⟩ := hst
            exact .inl (Spot.passes_nil_iff.mp hst ▸ hs)
        | succ k =>
            rw [pow_succ', Spot.exists_passes_mul_iff] at hst
            obtain ⟨u, hsu, hut⟩ := hst
            exact .inr ⟨u, ⟨s, hs, hsu⟩, k, Nat.le_of_succ_le_succ hk, hut⟩

theorem Finds.mem_rounds_iff (h : Finds f L) (min rounds : Nat) :
    t ∈ stepUpTo f rounds (stepTimes f min [s]) ↔
      ∃ k ≤ rounds, ∃ w ∈ L ^ (min + k), s.Passes w t := by
  simp only [h.mem_stepUpTo_iff, h.mem_stepTimes_iff, List.mem_singleton, exists_eq_left, pow_add,
    Spot.exists_passes_mul_iff]
  constructor
  · rintro ⟨u, hsu, k, hk, hut⟩
    exact ⟨k, hk, u, hsu, hut⟩
  · rintro ⟨k, hk, u, hsu, hut⟩
    exact ⟨u, hsu, k, hk, hut⟩

theorem Finds.repetition (h : Finds f L) (min : Nat) (max : Option Nat) :
    Finds (fun s =>
      stepUpTo f (max.elim s.after.length fun m => Min.min (m - min) s.after.length)
        (stepTimes f min [s])) (repeatedTexts min max L) := by
  intro s t
  rw [h.mem_rounds_iff]
  constructor
  · rintro ⟨k, hk, w, hw, hpasses⟩
    refine ⟨w, ⟨min + k, Nat.le_add_right _ _, ?_, hw⟩, hpasses⟩
    rintro m rfl
    simp only [Option.elim] at hk
    omega
  · rintro ⟨w, ⟨n, hmin, hmax, hw⟩, hpasses⟩
    -- the rounds are cut at the length of the text; what goes beyond passes only empty texts
    obtain ⟨k, rfl⟩ := Nat.exists_eq_add_of_le hmin
    rw [pow_add] at hw
    obtain ⟨v, hv, x, hx, rfl⟩ := hw
    obtain ⟨k', hk', hlength, hx'⟩ := Language.exists_mem_pow_le_length hx
    have hle : k' ≤ s.after.length := by
      have := hpasses.length_le
      rw [List.length_append] at this
      omega
    refine ⟨k', ?_, v ++ x, ?_, hpasses⟩
    · cases max with
      | none => exact hle
      | some m =>
          have := hmax m rfl
          simp only [Option.elim]
          omega
    · rw [pow_add]
      exact Language.append_mem_mul hv hx'

theorem mem_repeatedTexts_optional_iff : w ∈ repeatedTexts 0 (some 1) L ↔ w = [] ∨ w ∈ L := by
  rw [mem_repeatedTexts_iff]
  constructor
  · rintro ⟨n, _, hmax, hw⟩
    have hn : n ≤ 1 := hmax 1 rfl
    interval_cases n
    · exact .inl hw
    · exact .inr (pow_one L ▸ hw)
  · rintro (rfl | hw)
    · exact ⟨0, Nat.le_refl _, fun m _ => Nat.zero_le _, rfl⟩
    · exact ⟨1, Nat.zero_le _, by rintro m ⟨⟩; decide, (pow_one L).symm ▸ hw⟩

theorem mem_repeatedTexts_flatMap_iff {α : Type} {write : α → List Char}
    (hL : ∀ w, w ∈ L ↔ ∃ a, w = write a) {min : Nat} {max : Option Nat} :
    w ∈ repeatedTexts min max L ↔
      ∃ as : List α, min ≤ as.length ∧ (∀ m ∈ max, as.length ≤ Max.max min m) ∧
        w = as.flatMap write := by
  have hpow (n : Nat) (w : List Char) :
      w ∈ L ^ n ↔ ∃ as : List α, as.length = n ∧ w = as.flatMap write := by
    induction n generalizing w with
    | zero =>
        rw [pow_zero, Language.mem_one]
        constructor
        · rintro rfl
          exact ⟨[], rfl, rfl⟩
        · rintro ⟨as, hlength, rfl⟩
          rw [List.length_eq_zero_iff.mp hlength, List.flatMap_nil]
    | succ n ih =>
        simp only [pow_succ', Language.mem_mul, hL, ih]
        constructor
        · rintro ⟨_, ⟨a, rfl⟩, _, ⟨as, rfl, rfl⟩, rfl⟩
          exact ⟨a :: as, rfl, rfl⟩
        · rintro ⟨as, hlength, rfl⟩
          obtain ⟨a, as, rfl⟩ := List.exists_cons_of_length_eq_add_one hlength
          exact ⟨_, ⟨a, rfl⟩, _, ⟨as, Nat.succ.inj hlength, rfl⟩, rfl⟩
  simp only [mem_repeatedTexts_iff, hpow]
  constructor
  · rintro ⟨n, hmin, hmax, as, rfl, rfl⟩
    exact ⟨as, hmin, hmax, rfl⟩
  · rintro ⟨as, hmin, hmax, rfl⟩
    exact ⟨as.length, hmin, hmax, as, rfl, rfl⟩

theorem mem_repeatedTexts_charTexts_iff {cs : CharSet} {min : Nat} {max : Option Nat} :
    w ∈ repeatedTexts min max (charTexts cs) ↔
      min ≤ w.length ∧ (∀ m ∈ max, w.length ≤ Max.max min m) ∧
        ∀ c ∈ w, cs.contains c = true := by
  have hchar (v : List Char) :
      v ∈ charTexts cs ↔ ∃ c : {c // cs.contains c = true}, v = [c.val] := by
    simp [mem_charTexts_iff]
  have hmap (l : List {c // cs.contains c = true}) :
      (l.flatMap fun c => [c.val]) = l.map Subtype.val := List.flatMap_pure_eq_map _ _
  simp only [mem_repeatedTexts_flatMap_iff hchar, hmap]
  constructor
  · rintro ⟨l, hmin, hmax, rfl⟩
    rw [List.length_map]
    refine ⟨hmin, hmax, fun c hc => ?_⟩
    obtain ⟨d, _, rfl⟩ := List.mem_map.mp hc
    exact d.property
  · rintro ⟨hmin, hmax, hall⟩
    refine ⟨w.pmap Subtype.mk hall, ?_, ?_, by simp [List.map_pmap]⟩
    · rwa [List.length_pmap]
    · simpa only [List.length_pmap] using hmax

mutual

def Expr.isAnchorFree : Expr → Bool
  | .empty => true
  | .chars _ => true
  | .look _ => false
  | .repetition _ _ sub => sub.isAnchorFree
  | .capture sub => sub.isAnchorFree
  | .concat parts => allAnchorFree parts
  | .alternation branches => allAnchorFree branches

def Expr.allAnchorFree : List Expr → Bool
  | [] => true
  | e :: rest => e.isAnchorFree && allAnchorFree rest

end

mutual

/-- An anchor stands for a place and not for a text. -/
def Expr.texts : Expr → Language Char
  | .empty => 1
  | .chars cs => charTexts cs
  | .look _ => 0
  | .repetition min max sub => repeatedTexts min max sub.texts
  | .capture sub => sub.texts
  | .concat parts => textsOfAll parts
  | .alternation branches => textsOfAny branches

def Expr.textsOfAll : List Expr → Language Char
  | [] => 1
  | e :: rest => e.texts * textsOfAll rest

def Expr.textsOfAny : List Expr → Language Char
  | [] => 0
  | e :: rest => e.texts + textsOfAny rest

end

mutual

theorem Expr.finds_ends (e : Expr) (h : e.isAnchorFree = true) : Finds e.ends e.texts := by
  cases e with
  | empty => exact finds_stay
  | chars cs => exact finds_advance cs
  | look l => cases h
  | repetition min max sub => exact (Expr.finds_ends sub h).repetition min max
  | capture sub => exact Expr.finds_ends sub h
  | concat parts => exact Expr.finds_endsOfAll parts h
  | alternation branches => exact Expr.finds_endsOfAny branches h

theorem Expr.finds_endsOfAll (parts : List Expr) (h : allAnchorFree parts = true) :
    Finds (endsOfAll parts) (textsOfAll parts) := by
  cases parts with
  | nil => exact finds_stay
  | cons e rest =>
      rw [allAnchorFree, Bool.and_eq_true] at h
      exact (Expr.finds_ends e h.1).andThen (Expr.finds_endsOfAll rest h.2)

theorem Expr.finds_endsOfAny (branches : List Expr) (h : allAnchorFree branches = true) :
    Finds (endsOfAny branches) (textsOfAny branches) := by
  cases branches with
  | nil =>
      intro s t
      simp [endsOfAny, textsOfAny, Language.notMem_zero]
  | cons e rest =>
      rw [allAnchorFree, Bool.and_eq_true] at h
      exact (Expr.finds_ends e h.1).orElse (Expr.finds_endsOfAny rest h.2)

end

theorem mem_spotsFrom_iff {before cs : List Char} :
    s ∈ spotsFrom before cs ↔ ∃ w, (Spot.mk before cs).Passes w s := by
  induction cs generalizing before with
  | nil =>
      rw [spotsFrom, List.mem_singleton]
      constructor
      · rintro rfl
        exact ⟨[], Spot.passes_nil_iff.mpr rfl⟩
      · rintro ⟨w, h⟩
        obtain ⟨rfl, _⟩ := List.append_eq_nil_iff.mp h.1.symm
        exact Spot.passes_nil_iff.mp h
  | cons c cs ih =>
      rw [spotsFrom, List.mem_cons, ih]
      constructor
      · rintro (rfl | ⟨w, h⟩)
        · exact ⟨[], Spot.passes_nil_iff.mpr rfl⟩
        · exact ⟨c :: w, by rw [List.cons_append, ← h.1], by simp [h.2]⟩
      · rintro ⟨w, h⟩
        cases w with
        | nil => exact .inl (Spot.passes_nil_iff.mp h)
        | cons d w =>
            obtain ⟨rfl, hcs⟩ := List.cons.inj h.1
            exact .inr ⟨w, hcs, by simp [h.2]⟩

theorem Expr.isMatch_eq_true_iff (e : Expr) (text : String) :
    e.isMatch text = true ↔
      ∃ w s t, (Spot.mk [] text.toList).Passes w s ∧ t ∈ e.ends s := by
  have hends (s : Spot) : (!(e.ends s).isEmpty) = true ↔ ∃ t, t ∈ e.ends s := by
    cases e.ends s <;> simp
  simp only [isMatch, List.any_eq_true, mem_spotsFrom_iff, hends]
  constructor
  · rintro ⟨s, ⟨w, hw⟩, t, ht⟩
    exact ⟨w, s, t, hw, ht⟩
  · rintro ⟨w, s, t, hw, ht⟩
    exact ⟨s, ⟨w, hw⟩, t, ht⟩

theorem Expr.isMatch_iff_contains {e : Expr} (h : e.isAnchorFree = true) (text : String) :
    e.isMatch text = true ↔ ∃ w ∈ e.texts, w <:+: text.toList := by
  rw [Expr.isMatch_eq_true_iff]
  constructor
  · rintro ⟨v, s, t, hv, ht⟩
    obtain ⟨w, hw, hpasses⟩ := (e.finds_ends h s t).mp ht
    exact ⟨w, hw, v, t.after, by rw [List.append_assoc, ← hpasses.1, ← hv.1]⟩
  · rintro ⟨w, hw, v, rest, hstands⟩
    rw [List.append_assoc] at hstands
    refine ⟨v, ⟨v.reverse, w ++ rest⟩, ⟨w.reverse ++ v.reverse, rest⟩, ⟨hstands.symm, ?_⟩, ?_⟩
    · exact (List.append_nil _).symm
    · exact (e.finds_ends h _ _).mpr ⟨w, hw, rfl, rfl⟩

theorem Expr.mem_ends_look_iff {l : Look} :
    t ∈ (Expr.look l).ends s ↔ l.holds s = true ∧ t = s := by
  rw [ends]
  split <;> simp_all

def Expr.wholeText (e : Expr) : Expr := .concat [.look .start, e, .look .finish]

theorem Expr.mem_ends_wholeText_iff {e : Expr} :
    t ∈ e.wholeText.ends s ↔ s.before = [] ∧ t ∈ e.ends s ∧ t.after = [] := by
  rw [wholeText, ends]
  simp only [endsOfAll, List.mem_flatMap, List.mem_singleton, mem_ends_look_iff, Look.holds,
    List.isEmpty_iff]
  constructor
  · rintro ⟨_, ⟨hs, rfl⟩, u, hu, _, ⟨hafter, rfl⟩, rfl⟩
    exact ⟨hs, hu, hafter⟩
  · rintro ⟨hs, ht, hafter⟩
    exact ⟨s, ⟨hs, rfl⟩, t, ht, t, ⟨hafter, rfl⟩, rfl⟩

theorem Expr.isMatch_wholeText_iff {e : Expr} (h : e.isAnchorFree = true) (text : String) :
    e.wholeText.isMatch text = true ↔ text.toList ∈ e.texts := by
  simp only [Expr.isMatch_eq_true_iff, mem_ends_wholeText_iff, e.finds_ends h _ _]
  constructor
  · rintro ⟨v, s, t, hv, hs, ⟨w, hw, hpasses⟩, hafter⟩
    obtain rfl : v = [] := by simpa [hs] using hv.2
    have htext : text.toList = w := by
      rw [← List.append_nil w, ← hafter, ← hpasses.1]
      exact hv.1
    exact htext ▸ hw
  · intro hw
    refine ⟨[], ⟨[], text.toList⟩, ⟨text.toList.reverse, []⟩, Spot.passes_nil_iff.mpr rfl, rfl,
      ⟨_, hw, ?_, ?_⟩, rfl⟩
    · exact (List.append_nil _).symm
    · exact (List.append_nil _).symm

end ConsumerContract.Pattern
