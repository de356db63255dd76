import ConsumerContract.Compile.Outcome
import ConsumerContract.Proofs.Tree.Order

namespace ConsumerContract.Tree

variable {accepts : String → Bool} {o : Options}

inductive Offends (accepts : String → Bool) (o : Options) (v : Visit) : Fault → Prop where
  | tooDeep (hdepth : o.maxDepth.toNat < v.depth) :
      Offends accepts o v (.tooDeep o.maxDepth (Selector.body.extend v.steps))
  | invalidPattern {p : String} {payload : Tree} (hdepth : v.depth ≤ o.maxDepth.toNat)
      (hnode : v.node = .matcher (.pattern p) payload) (hcheck : o.validatePatterns = true)
      (hp : accepts p = false) :
      Offends accepts o v (.invalidPattern p (Selector.body.extend v.steps))
  | tooManyCopies {c : Criterion} {n : UInt64} {payload : Tree}
      (hdepth : v.depth ≤ o.maxDepth.toNat) (hnode : v.node = .matcher c payload)
      (hn : c.count? = some n) (hlimit : o.maxRepeat < n) :
      Offends accepts o v
        (.malformedRule (Selector.body.extend v.steps) (.tooManyCopies c.name n o.maxRepeat))

theorem copiesFault?_eq_some_iff {place : Selector} {name : String} {n : UInt64} {f : Fault} :
    copiesFault? o place name n = some f ↔
      o.maxRepeat < n ∧ f = .malformedRule place (.tooManyCopies name n o.maxRepeat) := by
  unfold copiesFault?
  split
  · next h => simp [h, eq_comm]
  · next h => simp [h]

theorem visitFault?_of_offends {v : Visit} {f : Fault} (h : Offends accepts o v f) :
    visitFault? accepts o .body 0 v = some f := by
  rw [visitFault?, Nat.zero_add, nodeFault?]
  cases h with
  | tooDeep hdepth => rw [if_pos hdepth]
  | invalidPattern hdepth hnode hcheck hp =>
      rw [if_neg (Nat.not_lt.mpr hdepth), hnode]
      simp [ownFault?, criterionFault?, hcheck, hp]
  | @tooManyCopies c n payload hdepth hnode hn hlimit =>
      rw [if_neg (Nat.not_lt.mpr hdepth), hnode]
      cases c with
      | atLeast m => cases hn; exact copiesFault?_eq_some_iff.mpr ⟨hlimit, rfl⟩
      | atMost m => cases hn; exact copiesFault?_eq_some_iff.mpr ⟨hlimit, rfl⟩
      | _ => cases hn

theorem offends_of_visitFault? {v : Visit} {f : Fault}
    (h : visitFault? accepts o .body 0 v = some f) : Offends accepts o v f := by
  rw [visitFault?, Nat.zero_add, nodeFault?] at h
  split at h
  · next hdepth =>
      cases h
      exact .tooDeep hdepth
  · next hdepth =>
      have hdepth := Nat.not_lt.mp hdepth
      cases hnode : v.node with
      | matcher c payload =>
          rw [hnode, ownFault?] at h
          cases c with
          | type => exact absurd h (by simp [criterionFault?])
          | pattern p =>
              simp only [criterionFault?] at h
              split at h
              · next hp =>
                  obtain ⟨hcheck, hp⟩ := Bool.and_eq_true_iff.mp hp
                  cases h
                  exact .invalidPattern hdepth hnode hcheck (by simpa using hp)
              · exact absurd h (by simp)
          | atLeast n =>
              obtain ⟨hlimit, rfl⟩ := copiesFault?_eq_some_iff.mp h
              exact .tooManyCopies hdepth hnode rfl hlimit
          | atMost n =>
              obtain ⟨hlimit, rfl⟩ := copiesFault?_eq_some_iff.mp h
              exact .tooManyCopies hdepth hnode rfl hlimit
      | _ => exact absurd h (by simp [hnode, ownFault?])

theorem visitFault?_eq_some_iff {v : Visit} {f : Fault} :
    visitFault? accepts o .body 0 v = some f ↔ Offends accepts o v f :=
  ⟨offends_of_visitFault?, visitFault?_of_offends⟩

theorem visitFault?_eq_none_iff {v : Visit} :
    visitFault? accepts o .body 0 v = none ↔ ∀ f, ¬Offends accepts o v f := by
  rw [Option.eq_none_iff_forall_ne_some]
  exact forall_congr' fun f => not_congr visitFault?_eq_some_iff

theorem compile_settled_by_first_offence (accepts : String → Bool) (o : Options) {t : Tree}
    (ht : t.Canonical) :
    t.visits.Pairwise Visit.Before ∧
      (t.isObject = false → t.compile accepts o = .error (.nonObjectRoot t.kind)) ∧
      (t.isObject = true →
        ((∃ b, t.compile accepts o = .ok b) ↔ ∀ v ∈ t.visits, ∀ f, ¬Offends accepts o v f) ∧
        ∀ f, t.compile accepts o = .error f ↔
          ∃ before v after, t.visits = before ++ v :: after ∧
            (∀ w ∈ before, ∀ g, ¬Offends accepts o w g) ∧ Offends accepts o v f) := by
  refine ⟨visits_pairwise_before ht, compile_of_not_isObject, fun hobject => ⟨?_, fun f => ?_⟩⟩
  · simp only [compile_eq_ok_iff, hobject, true_and, exists_and_left, exists_eq', and_true]
    rw [firstFault?, List.findSome?_eq_none_iff]
    exact forall₂_congr fun v _ => visitFault?_eq_none_iff
  · rw [compile_of_isObject hobject, outcome_eq_error_iff, firstFault?, List.findSome?_eq_some_iff]
    constructor
    · rintro ⟨before, v, after, hsplit, hv, hbefore⟩
      exact ⟨before, v, after, hsplit, fun w hw => visitFault?_eq_none_iff.mp (hbefore w hw),
        visitFault?_eq_some_iff.mp hv⟩
    · rintro ⟨before, v, after, hsplit, hbefore, hv⟩
      exact ⟨before, v, after, hsplit, visitFault?_eq_some_iff.mpr hv,
        fun w hw => visitFault?_eq_none_iff.mpr (hbefore w hw)⟩

def thriceOffending : Tree :=
  .object [("a", .array [like (term "(" (.string "x"))]), ("b", arrayMinLike 9 .null)]

theorem compile_thriceOffending :
    thriceOffending.Canonical ∧ thriceOffending.isObject = true ∧
      thriceOffending.compile (fun p => p != "(") { maxDepth := 3, maxRepeat := 4 } =
        .error (.invalidPattern "(" ⟨.body, [.key "a", .index 0]⟩) := by
  have ht : thriceOffending.Canonical := by decide
  refine ⟨ht, rfl, ?_⟩
  have h := (compile_settled_by_first_offence (fun p => p != "(") { maxDepth := 3, maxRepeat := 4 }
    ht).2.2 rfl
  refine (h.2 _).mpr ⟨thriceOffending.visits.take 3, ⟨[.key "a", .index 0], 3, term "(" (.string "x")⟩,
    thriceOffending.visits.drop 4, rfl, ?_, ?_⟩
  · intro w hw
    exact visitFault?_eq_none_iff.mp (List.findSome?_eq_none_iff.mp rfl w hw)
  · exact .invalidPattern (by decide) rfl rfl rfl

end ConsumerContract.Tree
