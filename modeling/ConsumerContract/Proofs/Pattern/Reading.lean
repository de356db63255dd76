import ConsumerContract.Pattern.Match

namespace ConsumerContract

namespace Pattern

mutual

def Expr.same : Expr → Expr → Bool
  | .empty, .empty => true
  | .chars s, .chars t => decide (s = t)
  | .look k, .look l => decide (k = l)
  | .repetition min max a, .repetition min' max' b =>
      decide (min = min' ∧ max = max') && a.same b
  | .capture a, .capture b => a.same b
  | .concat as, .concat bs => sameAll as bs
  | .alternation as, .alternation bs => sameAll as bs
  | _, _ => false

def Expr.sameAll : List Expr → List Expr → Bool
  | [], [] => true
  | a :: as, b :: bs => a.same b && sameAll as bs
  | _, _ => false

end

mutual

theorem Expr.eq_of_same (a b : Expr) (h : a.same b = true) : a = b := by
  cases a with
  | empty =>
      cases b with
      | empty => rfl
      | _ => cases h
  | chars s =>
      cases b with
      | chars t => rw [of_decide_eq_true h]
      | _ => cases h
  | look k =>
      cases b with
      | look l => rw [of_decide_eq_true h]
      | _ => cases h
  | repetition min max a =>
      cases b with
      | repetition min' max' b =>
          rw [same, Bool.and_eq_true] at h
          obtain ⟨rfl, rfl⟩ := of_decide_eq_true h.1
          rw [Expr.eq_of_same a b h.2]
      | _ => cases h
  | capture a =>
      cases b with
      | capture b => rw [Expr.eq_of_same a b h]
      | _ => cases h
  | concat as =>
      cases b with
      | concat bs => rw [Expr.eq_of_sameAll as bs h]
      | _ => cases h
  | alternation as =>
      cases b with
      | alternation bs => rw [Expr.eq_of_sameAll as bs h]
      | _ => cases h

theorem Expr.eq_of_sameAll (as bs : List Expr) (h : sameAll as bs = true) : as = bs := by
  cases as with
  | nil =>
      cases bs with
      | nil => rfl
      | cons b bs => cases h
  | cons a as =>
      cases bs with
      | nil => cases h
      | cons b bs =>
          rw [sameAll, Bool.and_eq_true] at h
          rw [Expr.eq_of_same a b h.1, Expr.eq_of_sameAll as bs h.2]

end

def readsAs (pattern : String) (e : Expr) : Bool :=
  (Expr.ofText? pattern).any fun d => d.same e && d.fits

end Pattern

theorem Pattern.isMatch_of_readsAs {pattern : String} {e : Pattern.Expr}
    (h : Pattern.readsAs pattern e = true) (text : String) :
    Pattern.isMatch pattern text = e.isMatch text := by
  obtain ⟨d, hd, hsame⟩ := (Option.any_eq_true _ _).mp h
  rw [Bool.and_eq_true] at hsame
  obtain rfl := Pattern.Expr.eq_of_same d e hsame.1
  rw [Pattern.isMatch, hd]
  simp only [hsame.2, Bool.true_and]

end ConsumerContract
