import ConsumerContract.Proofs.Compile.Reference

namespace ConsumerContract

open Selector (Step)

namespace Selector

def stepsText (steps : List Step) : String := .ofList (stepChars steps)

theorem text_extend (s : Selector) (steps : List Step) :
    (s.extend steps).text = s.text ++ stepsText steps := by
  rw [text, chars_extend, String.ofList_append]
  rfl

end Selector

def Fault.relocate (g : Selector → Selector) : Fault → Fault
  | .nonObjectRoot found => .nonObjectRoot found
  | .unknownMatcher kind place => .unknownMatcher kind (g place)
  | .malformedRule place reason => .malformedRule (g place) reason
  | .invalidPattern pattern place => .invalidPattern pattern (g place)
  | .tooDeep limit place => .tooDeep limit (g place)
  | .duplicateInteraction description state => .duplicateInteraction description state

namespace Tree

variable {accepts : String → Bool} {o : Options}

section

variable {g : Selector → Selector} {place place' : Selector}

theorem criterionFault?_relocate (h : g place = place') (c : Criterion) :
    criterionFault? accepts o place' c =
      (criterionFault? accepts o place c).map (Fault.relocate g) := by
  subst h
  cases c with
  | type => rfl
  | pattern p => simp only [criterionFault?]; split <;> rfl
  | atLeast n => simp only [criterionFault?, copiesFault?]; split <;> rfl
  | atMost n => simp only [criterionFault?, copiesFault?]; split <;> rfl

theorem nodeFault?_relocate (h : g place = place') (depth : Nat) (t : Tree) :
    nodeFault? accepts o place' depth t =
      (nodeFault? accepts o place depth t).map (Fault.relocate g) := by
  simp only [nodeFault?]
  split
  · rw [← h]; rfl
  · cases t with
    | matcher c payload => exact criterionFault?_relocate h c
    | _ => rfl

theorem firstFault?_relocate (h : ∀ steps, g (place.extend steps) = place'.extend steps)
    (depth : Nat) (vs : List Visit) :
    firstFault? accepts o place' depth vs =
      (firstFault? accepts o place depth vs).map (Fault.relocate g) := by
  rw [firstFault?, firstFault?, List.map_findSome?]
  exact congrArg (fun f => List.findSome? f vs)
    (funext fun v => nodeFault?_relocate (h v.steps) (depth + v.depth) v.node)

end

theorem ownFault?_eq_none_iff (place place' : Selector) (t : Tree) :
    ownFault? accepts o place t = none ↔ ownFault? accepts o place' t = none := by
  cases t with
  | matcher c payload => cases c <;> simp [ownFault?, criterionFault?, copiesFault?]
  | _ => exact Iff.rfl

theorem nodeFault?_eq_none_of_le {place place' : Selector} {depth depth' : Nat} {t : Tree}
    (hle : depth' ≤ depth) (h : nodeFault? accepts o place depth t = none) :
    nodeFault? accepts o place' depth' t = none := by
  rw [nodeFault?_eq_none_iff] at h ⊢
  exact ⟨Nat.le_trans hle h.1, (ownFault?_eq_none_iff place place' t).mp h.2⟩

theorem firstFault?_eq_none_of_le {place place' : Selector} {depth depth' : Nat} {vs : List Visit}
    (hle : depth' ≤ depth) (h : firstFault? accepts o place depth vs = none) :
    firstFault? accepts o place' depth' vs = none := by
  refine List.findSome?_eq_none_iff.mpr fun v hv => ?_
  have hnode := List.findSome?_eq_none_iff.mp h v hv
  exact nodeFault?_eq_none_of_le (Nat.add_le_add_right hle v.depth) hnode

def ruleBelow? (ps : List Placed) (suffix : String) : Option Rule :=
  (ps.reverse.find? fun p => Selector.stepsText p.steps = suffix).map Placed.rule

theorem get?_enter_recordsAt (place : Selector) (ps : List Placed) (rules : RuleTable)
    (suffix : String) :
    ((recordsAt place ps).enter rules).get? (place.text ++ suffix) =
      (ruleBelow? ps suffix).or (rules.get? (place.text ++ suffix)) := by
  have hfound : ((recordsAt place ps).reverse.find? fun x => x.1.text = place.text ++ suffix) =
      (ps.reverse.find? fun p => Selector.stepsText p.steps = suffix).map fun p =>
        (place.extend p.steps, p.rule) := by
    rw [recordsAt, ← List.map_reverse, List.find?_map]
    simp only [Function.comp_def, Selector.text_extend, String.append_right_inj]
    rfl
  rw [Records.get?_enter, hfound, Option.map_map]
  rfl

theorem get?_enter_recordsAt_of_not_below {place : Selector} {s : String}
    (h : ∀ suffix, s ≠ place.text ++ suffix) (ps : List Placed) (rules : RuleTable) :
    ((recordsAt place ps).enter rules).get? s = rules.get? s := by
  refine Records.get?_enter_of_ne ?_ rules
  intro x hx hs
  obtain ⟨p, -, rfl⟩ := List.mem_map.mp hx
  exact h (Selector.stepsText p.steps) (hs.symm.trans (Selector.text_extend place p.steps))

end Tree

end ConsumerContract
