import ConsumerContract.Proofs.Tree.CheckOrder
import ConsumerContract.Proofs.Tree.Members

/-!
A document is read as a declaration just when every object in it that encodes a matcher and is come
to is well formed, and else it is refused over the first check that fails, in the order of a walk
from the root.
-/

namespace ConsumerContract

open Selector (Step)

namespace Check

open ConsumerContract.Tree (Members)

inductive Mismatch (members : Members) : Rule.Clash → Prop where
  | missingPattern (hkind : Entries.get? matcherKey members = some (.string "regex"))
      (hpattern : Entries.get? "regex" members = none) : Mismatch members .missingPattern
  | boundedPattern {p : Json} (hkind : Entries.get? matcherKey members = some (.string "regex"))
      (hpattern : Entries.get? "regex" members = some p)
      (hbound : Entries.get? "min" members ≠ none ∨ Entries.get? "max" members ≠ none) :
      Mismatch members .boundedPattern
  | typeWithPattern {p : Json} (hkind : Entries.get? matcherKey members = some (.string "type"))
      (hpattern : Entries.get? "regex" members = some p) : Mismatch members .typeWithPattern
  | twoBounds {m n : Json} (hkind : Entries.get? matcherKey members = some (.string "type"))
      (hpattern : Entries.get? "regex" members = none)
      (hmin : Entries.get? "min" members = some m) (hmax : Entries.get? "max" members = some n) :
      Mismatch members .twoBounds

inductive Fails (start : Selector) : Check → Fault → Prop where
  | typeNotString {steps : List Step} {depth : Nat} {members : Members}
      (h : ∀ kind, Entries.get? matcherKey members ≠ some (.string kind)) :
      Fails start ⟨steps, depth, members, .typeText⟩
        (.malformedRule (start.extend steps) .typeNotString)
  | unknownKind {steps : List Step} {depth : Nat} {members : Members} {kind : String}
      (h : Entries.get? matcherKey members = some (.string kind)) (htype : kind ≠ "type")
      (hregex : kind ≠ "regex") :
      Fails start ⟨steps, depth, members, .kind⟩ (.unknownMatcher kind (start.extend steps))
  | patternNotString {steps : List Step} {depth : Nat} {members : Members} {v : Json}
      (h : Entries.get? "regex" members = some v) (hv : ∀ p, v ≠ .string p) :
      Fails start ⟨steps, depth, members, .pattern⟩
        (.malformedRule (start.extend steps) .patternNotString)
  | badBound {steps : List Step} {depth : Nat} {members : Members} {name : String} {v : Json}
      (h : Entries.get? name members = some v) (hv : ∀ n, v ≠ .number (.natural n)) :
      Fails start ⟨steps, depth, members, .bound name⟩
        (.malformedRule (start.extend steps) (.badBound name v))
  | missingValue {steps : List Step} {depth : Nat} {members : Members}
      (h : Entries.get? "value" members = none) :
      Fails start ⟨steps, depth, members, .payload⟩
        (.malformedRule (start.extend steps) .missingValue)
  | mismatch {steps : List Step} {depth : Nat} {members : Members} {clash : Rule.Clash}
      (h : Mismatch members clash) :
      Fails start ⟨steps, depth, members, .combination⟩
        (.malformedRule (start.extend steps) (.clash clash))

end Check

def faultOf {α : Type} : Except Fault α → Option Fault
  | .ok _ => none
  | .error f => some f

theorem faultOf_bind {α β : Type} {x : Except Fault α} {k : α → Except Fault β}
    {f? : Option Fault} (h : ∀ a, x = .ok a → faultOf (k a) = f?) :
    faultOf (x >>= k) = (faultOf x).or f? := by
  cases x with
  | error f => rfl
  | ok a => exact h a rfl

theorem faultOf_map {α β : Type} (x : Except Fault α) (f : α → β) :
    faultOf (x.map f) = faultOf x := by
  cases x <;> rfl

theorem faultOf_eq_some_iff {α : Type} {x : Except Fault α} {f : Fault} :
    faultOf x = some f ↔ x = .error f := by
  cases x <;> simp [faultOf]

theorem faultOf_eq_none_iff {α : Type} {x : Except Fault α} :
    faultOf x = none ↔ ∃ a, x = .ok a := by
  cases x <;> simp [faultOf]

namespace Check

open ConsumerContract.Tree (Members kindOf patternOf boundOf)

def clash? (members : Members) : Option Rule.Clash :=
  match Entries.get? matcherKey members, Entries.get? "regex" members,
    Entries.get? "min" members, Entries.get? "max" members with
  | some (.string "regex"), none, _, _ => some .missingPattern
  | some (.string "regex"), some _, none, none => none
  | some (.string "regex"), some _, _, _ => some .boundedPattern
  | some (.string "type"), some _, _, _ => some .typeWithPattern
  | some (.string "type"), none, some _, some _ => some .twoBounds
  | _, _, _, _ => none

def fault? (start : Selector) (c : Check) : Option Fault :=
  let place := start.extend c.steps
  match c.aspect with
  | .typeText =>
      match Entries.get? matcherKey c.members with
      | some (.string _) => none
      | _ => some (.malformedRule place .typeNotString)
  | .kind =>
      match Entries.get? matcherKey c.members with
      | some (.string kind) => faultOf (kindOf (.string kind) place)
      | _ => none
  | .pattern => faultOf (patternOf c.members place)
  | .bound name => faultOf (boundOf name c.members place)
  | .payload =>
      match Entries.get? "value" c.members with
      | some _ => none
      | none => some (.malformedRule place .missingValue)
  | .combination => (clash? c.members).map fun clash => .malformedRule place (.clash clash)

theorem clash?_eq_some_iff {members : Members} {clash : Rule.Clash} :
    clash? members = some clash ↔ Mismatch members clash := by
  constructor
  · intro h
    unfold clash? at h
    split at h <;> cases h
    · next hkind hpattern => exact .missingPattern hkind hpattern
    · next hkind hpattern hfree =>
        refine .boundedPattern hkind hpattern ?_
        by_contra hnone
        simp only [not_or, not_not] at hnone
        exact hfree hnone.1 hnone.2
    · next hkind hpattern => exact .typeWithPattern hkind hpattern
    · next hkind hpattern hmin hmax => exact .twoBounds hkind hpattern hmin hmax
  · intro h
    cases h with
    | missingPattern hkind hpattern => simp [clash?, hkind, hpattern]
    | boundedPattern hkind hpattern hbound =>
        cases hmin : Entries.get? "min" members <;> cases hmax : Entries.get? "max" members <;>
          simp_all [clash?]
    | typeWithPattern hkind hpattern => simp [clash?, hkind, hpattern]
    | twoBounds hkind hpattern hmin hmax => simp [clash?, hkind, hpattern, hmin, hmax]

theorem fault?_of_fails {start : Selector} {c : Check} {f : Fault} (h : Fails start c f) :
    c.fault? start = some f := by
  cases h with
  | @typeNotString _ _ members h =>
      cases hmarked : Entries.get? matcherKey members with
      | none => simp [fault?, hmarked]
      | some v =>
          cases v with
          | string kind => exact absurd hmarked (h kind)
          | _ => simp [fault?, hmarked]
  | unknownKind h htype hregex => simp [fault?, h, kindOf, faultOf]
  | patternNotString h hv => simp [fault?, patternOf, h, faultOf]
  | badBound h hv => simp [fault?, boundOf, h, faultOf]
  | missingValue h => simp [fault?, h]
  | mismatch h => simp [fault?, clash?_eq_some_iff.mpr h]

theorem fails_of_fault? {start : Selector} {c : Check} {f : Fault} (h : c.fault? start = some f) :
    Fails start c f := by
  obtain ⟨steps, depth, members, aspect⟩ := c
  cases aspect with
  | typeText =>
      simp only [fault?] at h
      split at h
      · cases h
      · next hmarked => cases h; exact .typeNotString hmarked
  | kind =>
      simp only [fault?] at h
      split at h
      · next kind hmarked =>
          rw [faultOf_eq_some_iff] at h
          unfold kindOf at h
          split at h
          · cases h
          · cases h
          · next htype hregex hk => cases hk; cases h; exact .unknownKind hmarked htype hregex
          · next hstring => exact absurd rfl (hstring kind)
      · cases h
  | pattern =>
      simp only [fault?, faultOf_eq_some_iff, patternOf] at h
      split at h
      · cases h
      · cases h
      · next v hv hget => cases h; exact .patternNotString hget hv
  | bound name =>
      simp only [fault?, faultOf_eq_some_iff, boundOf] at h
      split at h
      · cases h
      · cases h
      · next v hv hget => cases h; exact .badBound hget hv
  | payload =>
      simp only [fault?] at h
      split at h
      · cases h
      · next hget => cases h; exact .missingValue hget
  | combination =>
      obtain ⟨clash, hclash, rfl⟩ := Option.map_eq_some_iff.mp h
      exact .mismatch (clash?_eq_some_iff.mp hclash)

theorem fault?_eq_some_iff {start : Selector} {c : Check} {f : Fault} :
    c.fault? start = some f ↔ Fails start c f :=
  ⟨fails_of_fault?, fault?_of_fails⟩

theorem fault?_eq_none_iff {start : Selector} {c : Check} :
    c.fault? start = none ↔ ∀ f, ¬Fails start c f := by
  rw [Option.eq_none_iff_forall_ne_some]
  exact forall_congr' fun f => not_congr fault?_eq_some_iff

def firstFailing (start : Selector) (cs : List Check) : Option Fault :=
  cs.findSome? (fault? start)

theorem firstFailing_cons (start : Selector) (c : Check) (cs : List Check) :
    firstFailing start (c :: cs) = (c.fault? start).or (firstFailing start cs) := by
  rw [firstFailing, List.findSome?_cons]
  cases c.fault? start <;> rfl

theorem firstFailing_append (start : Selector) (cs ds : List Check) :
    firstFailing start (cs ++ ds) = (firstFailing start cs).or (firstFailing start ds) :=
  List.findSome?_append

theorem firstFailing_map_under (start : Selector) (steps : List Step) (cs : List Check) :
    firstFailing start (cs.map (under steps)) = firstFailing (start.extend steps) cs := by
  rw [firstFailing, List.findSome?_map]
  refine congrArg (fun f => List.findSome? f cs) (funext fun c => ?_)
  simp [fault?, under]

structure WellFormed (members : Members) : Prop where
  payload : Entries.get? "value" members ≠ none
  min : ∀ v, Entries.get? "min" members = some v → ∃ n, v = .number (.natural n)
  max : ∀ v, Entries.get? "max" members = some v → ∃ n, v = .number (.natural n)
  kind :
    Entries.get? matcherKey members = some (.string "regex") ∧
        (∃ p, Entries.get? "regex" members = some (.string p)) ∧
        Entries.get? "min" members = none ∧ Entries.get? "max" members = none ∨
      Entries.get? matcherKey members = some (.string "type") ∧
        Entries.get? "regex" members = none ∧
        (Entries.get? "min" members = none ∨ Entries.get? "max" members = none)

section

variable {start : Selector} {steps : List Step} {depth : Nat} {members : Members}

theorem WellFormed.not_mismatch (h : WellFormed members) (clash : Rule.Clash) :
    ¬Mismatch members clash := by
  intro hclash
  rcases h.kind with ⟨hkind, ⟨p, hpattern⟩, hmin, hmax⟩ | ⟨hkind, hpattern, hbound⟩ <;>
    cases hclash <;> simp_all

theorem WellFormed.not_fails (h : WellFormed members) {aspect : Aspect} (ha : aspect ∈ Aspect.all)
    (f : Fault) : ¬Fails start ⟨steps, depth, members, aspect⟩ f := by
  intro hf
  cases hf with
  | typeNotString hnone =>
      rcases h.kind with ⟨hkind, -⟩ | ⟨hkind, -⟩
      · exact hnone _ hkind
      · exact hnone _ hkind
  | unknownKind hkind' htype hregex =>
      rcases h.kind with ⟨hkind, -⟩ | ⟨hkind, -⟩
      · rw [hkind'] at hkind; cases hkind; exact hregex rfl
      · rw [hkind'] at hkind; cases hkind; exact htype rfl
  | patternNotString hget hv =>
      rcases h.kind with ⟨-, ⟨p, hpattern⟩, -⟩ | ⟨-, hpattern, -⟩
      · rw [hget] at hpattern; cases hpattern; exact hv p rfl
      · rw [hget] at hpattern; cases hpattern
  | @badBound _ _ _ name v hget hv =>
      have hname : name = "min" ∨ name = "max" := by
        simpa [Aspect.all, Aspect.beforePayload] using ha
      rcases hname with rfl | rfl
      · obtain ⟨n, hn⟩ := h.min v hget; exact hv n hn
      · obtain ⟨n, hn⟩ := h.max v hget; exact hv n hn
  | missingValue hnone => exact h.payload hnone
  | mismatch hclash => exact h.not_mismatch _ hclash

theorem regex_of_not_mismatch
    (hkind : Entries.get? matcherKey members = some (.string "regex"))
    (hstring : ∀ v, Entries.get? "regex" members = some v → ∃ p, v = .string p)
    (hclash : ∀ clash, ¬Mismatch members clash) :
    (∃ p, Entries.get? "regex" members = some (.string p)) ∧
      Entries.get? "min" members = none ∧ Entries.get? "max" members = none := by
  cases hpattern : Entries.get? "regex" members with
  | none => exact absurd (.missingPattern hkind hpattern) (hclash _)
  | some v =>
      obtain ⟨p, rfl⟩ := hstring v hpattern
      have hfree : ¬(Entries.get? "min" members ≠ none ∨ Entries.get? "max" members ≠ none) :=
        fun hbound => hclash _ (.boundedPattern hkind hpattern hbound)
      simp only [not_or, not_not] at hfree
      exact ⟨⟨p, rfl⟩, hfree⟩

theorem type_of_not_mismatch
    (hkind : Entries.get? matcherKey members = some (.string "type"))
    (hclash : ∀ clash, ¬Mismatch members clash) :
    Entries.get? "regex" members = none ∧
      (Entries.get? "min" members = none ∨ Entries.get? "max" members = none) := by
  have hpattern : Entries.get? "regex" members = none := by
    rw [Option.eq_none_iff_forall_ne_some]
    exact fun v hv => hclash _ (.typeWithPattern hkind hv)
  refine ⟨hpattern, ?_⟩
  cases hmin : Entries.get? "min" members with
  | none => exact Or.inl rfl
  | some m =>
      refine Or.inr (Option.eq_none_iff_forall_ne_some.mpr fun n hmax => ?_)
      exact hclash _ (.twoBounds hkind hpattern hmin hmax)

theorem wellFormed_of_not_fails
    (h : ∀ aspect ∈ Aspect.all, ∀ f, ¬Fails start ⟨steps, depth, members, aspect⟩ f) :
    WellFormed members := by
  have hpayload : Entries.get? "value" members ≠ none := by
    intro hnone
    exact h .payload (by decide) _ (.missingValue hnone)
  have hbound : ∀ name, Aspect.bound name ∈ Aspect.all → ∀ v, Entries.get? name members = some v →
      ∃ n, v = .number (.natural n) := by
    intro name hname v hget
    by_contra hv
    exact h _ hname _ (.badBound hget (not_exists.mp hv))
  have hpattern : ∀ v, Entries.get? "regex" members = some v → ∃ p, v = .string p := by
    intro v hget
    by_contra hv
    exact h .pattern (by decide) _ (.patternNotString hget (not_exists.mp hv))
  have hclash : ∀ clash, ¬Mismatch members clash := by
    intro clash hclash
    exact h .combination (by decide) _ (.mismatch hclash)
  have hstring : ∃ kind, Entries.get? matcherKey members = some (.string kind) := by
    by_contra hnone
    exact h .typeText (by decide) _ (.typeNotString (not_exists.mp hnone))
  obtain ⟨kind, hkind⟩ := hstring
  refine ⟨hpayload, hbound "min" (by decide), hbound "max" (by decide), ?_⟩
  by_cases hregex : kind = "regex"
  · subst hregex
    exact Or.inl ⟨hkind, regex_of_not_mismatch hkind hpattern hclash⟩
  · have htype : kind = "type" := by
      by_contra htype
      exact h .kind (by decide) _ (.unknownKind hkind htype hregex)
    subst htype
    exact Or.inr ⟨hkind, type_of_not_mismatch hkind hclash⟩

end

end Check

namespace Tree

open Check (firstFailing firstFailing_cons firstFailing_append firstFailing_map_under)

variable {place : Selector} {members : Members}

theorem faultOf_ruleOf {marked : Json} (hmarked : Entries.get? matcherKey members = some marked) :
    faultOf (ruleOf marked members place) =
      firstFailing place (([.typeText, .kind, .pattern, .bound "min", .bound "max"] :
        List Check.Aspect).map fun aspect => ⟨[], 0, members, aspect⟩) := by
  have hkind : faultOf (kindOf marked place) =
      (Check.fault? place ⟨[], 0, members, .typeText⟩).or
        (Check.fault? place ⟨[], 0, members, .kind⟩) := by
    simp only [Check.fault?, hmarked, Selector.extend_nil]
    cases marked <;> rfl
  have hpattern : faultOf (patternOf members place) =
      Check.fault? place ⟨[], 0, members, .pattern⟩ := by
    simp [Check.fault?]
  have hbound : ∀ name, faultOf (boundOf name members place) =
      Check.fault? place ⟨[], 0, members, .bound name⟩ := by
    simp [Check.fault?]
  have hbind : faultOf (ruleOf marked members place) = (faultOf (kindOf marked place)).or
      ((faultOf (patternOf members place)).or ((faultOf (boundOf "min" members place)).or
        ((faultOf (boundOf "max" members place)).or none))) :=
    faultOf_bind fun _ _ => faultOf_bind fun _ _ => faultOf_bind fun _ _ => faultOf_bind
      fun _ _ => rfl
  rw [hbind, hkind, hpattern, hbound, hbound, Option.or_assoc]
  simp only [List.map_cons, List.map_nil, firstFailing_cons]
  rfl

theorem payloadPlace_of_holds {rule : Rule} (h : Holds members rule) :
    payloadPlace rule place = place.extend (payloadStepsOf members) := by
  simp only [payloadPlace, payloadStepsOf, h.min, h.max, Option.isSome_map]
  split
  · rfl
  · exact (Selector.extend_nil place).symm

theorem faultOf_ofRule {rule : Rule} (h : Holds members rule) (payload : Tree) :
    faultOf (ofRule rule payload place) =
      Check.fault? place ⟨[], 0, members, .combination⟩ := by
  obtain ⟨hkind, hregex, hmin, hmax⟩ := h
  obtain ⟨kind, regex, min, max⟩ := rule
  cases kind <;> cases regex <;> cases min <;> cases max <;>
    simp_all [ofRule, Rule.criterion, Check.fault?, Check.clash?, RuleKind.json, RuleKind.name,
      faultOf]

theorem faultOf_decodeItems {items : List Json}
    (ih : ∀ v ∈ items, ∀ place, faultOf (decodeAt place v) = firstFailing place v.checks)
    (i : Nat) :
    faultOf (decodeItems place i items) = firstFailing place (Json.checkItems i items) := by
  induction items generalizing i with
  | nil => rfl
  | cons v rest ihrest =>
      obtain ⟨hv, hrest⟩ := List.forall_mem_cons.mp ih
      have hbind : faultOf (decodeItems place i (v :: rest)) =
          (faultOf (decodeAt (place.index i) v)).or
            ((faultOf (decodeItems place (i + 1) rest)).or none) :=
        faultOf_bind fun _ _ => faultOf_bind fun _ _ => rfl
      rw [hbind, hv, ihrest hrest, Option.or_none, Json.checkItems, firstFailing_append,
        firstFailing_map_under]
      rfl

theorem faultOf_decodeEntries {entries : List (String × Json)}
    (ih : ∀ e ∈ entries, ∀ place, faultOf (decodeAt place e.2) = firstFailing place e.2.checks) :
    faultOf (decodeEntries place entries) = firstFailing place (Json.checkEntries entries) := by
  induction entries with
  | nil => rfl
  | cons e rest ihrest =>
      obtain ⟨hv, hrest⟩ := List.forall_mem_cons.mp ih
      have hbind : faultOf (decodeEntries place (e :: rest)) =
          (faultOf (decodeAt (place.key e.1) e.2)).or
            ((faultOf (decodeEntries place rest)).or none) :=
        faultOf_bind fun _ _ => faultOf_bind fun _ _ => rfl
      rw [hbind, hv, ihrest hrest, Option.or_none, Json.checkEntries, firstFailing_append,
        firstFailing_map_under]
      rfl

theorem faultOf_decodeMarked {entries : Members} {marked : Json}
    (hmarked : Entries.get? matcherKey entries = some marked)
    (ih : ∀ e ∈ entries, ∀ place, faultOf (decodeAt place e.2) = firstFailing place e.2.checks) :
    faultOf (decodeAt place (.object entries)) =
      firstFailing place (Json.object entries).checks := by
  have hsplit : Check.Aspect.beforePayload =
      [.typeText, .kind, .pattern, .bound "min", .bound "max"] ++ [.payload] := rfl
  rw [decodeAt, Json.checks, hmarked]
  -- from here the binds of the decoder and the parts of the list go in step
  simp only [hsplit, List.map_append, firstFailing_append, firstFailing_map_under, Option.or_assoc,
    ← faultOf_ruleOf hmarked]
  refine faultOf_bind fun rule hrule => ?_
  have hholds := (ruleOf_eq_ok_iff hmarked).mp hrule
  rw [decodeValue_eq, Json.checkValue_eq, payloadPlace_of_holds hholds]
  cases hv : Entries.get? "value" entries with
  | none => simp [firstFailing, Check.fault?, hv, faultOf, bind, Except.bind]
  | some v =>
      have hpayload : firstFailing place
          ([Check.Aspect.payload].map fun aspect => ⟨[], 0, entries, aspect⟩) = none := by
        simp [firstFailing, Check.fault?, hv]
      have hlast : ∀ payload, faultOf (do return (← ofRule rule payload place).tree) =
          firstFailing place [⟨[], 0, entries, .combination⟩] := by
        intro payload
        rw [firstFailing_cons, ← faultOf_ofRule hholds payload]
        exact faultOf_bind fun _ _ => rfl
      have hinside : firstFailing (place.extend (payloadStepsOf entries)) v.checks =
          faultOf ((decodeAt (place.extend (payloadStepsOf entries)) v).map some) := by
        rw [faultOf_map, ← ih _ (Entries.mem_of_get? hv)]
      dsimp only
      rw [hpayload, Option.none_or, hinside]
      refine faultOf_bind fun payload? hpayload? => ?_
      obtain ⟨payload, -, rfl⟩ := Except.map_eq_ok_iff.mp hpayload?
      exact hlast payload

theorem faultOf_decodeAt {v : Json} :
    ∀ place, faultOf (decodeAt place v) = firstFailing place v.checks := by
  induction v with
  | array items ih =>
      intro place
      rw [decodeAt, faultOf_map, Json.checks, faultOf_decodeItems ih]
  | object entries ih =>
      intro place
      cases hmarked : Entries.get? matcherKey entries with
      | none =>
          rw [decodeAt_unmarked hmarked, faultOf_map, Json.checks, hmarked]
          exact faultOf_decodeEntries ih
      | some marked => exact faultOf_decodeMarked hmarked ih
  | _ => exact fun _ => rfl

theorem all_fault?_eq_none_iff {start : Selector} {v : Json} :
    (∀ c ∈ v.checks, c.fault? start = none) ↔
      ∀ steps members, v.Reaches steps (.object members) →
        Entries.get? matcherKey members ≠ none → Check.WellFormed members := by
  constructor
  · intro h steps members hreaches hmarked
    obtain ⟨depth, hmem⟩ := hreaches.exists_mem_checks rfl hmarked
    have hnone : ∀ aspect ∈ Check.Aspect.all, ∀ f,
        ¬Check.Fails start ⟨steps, depth, members, aspect⟩ f :=
      fun aspect haspect => Check.fault?_eq_none_iff.mp (h _ (hmem aspect haspect))
    exact Check.wellFormed_of_not_fails hnone
  · intro h c hc
    obtain ⟨hreaches, hmarked, haspect⟩ := Json.reaches_of_mem_checks hc
    exact Check.fault?_eq_none_iff.mpr ((h _ _ hreaches hmarked).not_fails haspect)

theorem decode_settled_by_first_failing_check (v : Json) :
    (v.Canonical → v.checks.Pairwise Check.Before) ∧
      ((∃ t, decode v = .ok t) ↔
        ∀ steps members, v.Reaches steps (.object members) →
          Entries.get? matcherKey members ≠ none → Check.WellFormed members) ∧
      ∀ f, decode v = .error f ↔
        ∃ before c after, v.checks = before ++ c :: after ∧
          (∀ b ∈ before, ∀ g, ¬Check.Fails .document b g) ∧ Check.Fails .document c f := by
  refine ⟨Json.checks_pairwise_before, ?_, fun f => ?_⟩
  · rw [← faultOf_eq_none_iff, decode, faultOf_decodeAt, firstFailing,
      List.findSome?_eq_none_iff, all_fault?_eq_none_iff]
  · rw [← faultOf_eq_some_iff, decode, faultOf_decodeAt, firstFailing, List.findSome?_eq_some_iff]
    constructor
    · rintro ⟨before, c, after, hsplit, hc, hbefore⟩
      exact ⟨before, c, after, hsplit, fun b hb => Check.fault?_eq_none_iff.mp (hbefore b hb),
        Check.fault?_eq_some_iff.mp hc⟩
    · rintro ⟨before, c, after, hsplit, hbefore, hc⟩
      exact ⟨before, c, after, hsplit, Check.fault?_eq_some_iff.mpr hc,
        fun b hb => Check.fault?_eq_none_iff.mpr (hbefore b hb)⟩

def twiceMalformed : Json :=
  .object [("a", .array [.null, .object [("max", .ofNat64 2), ("min", .ofNat64 1),
    (matcherKey, .string "type"),
    ("value", .object [("b", .object [(matcherKey, .string "date"), ("value", .null)])])]])]

theorem decode_twiceMalformed :
    twiceMalformed.Canonical ∧ twiceMalformed.checks.Pairwise Check.Before ∧
      decode twiceMalformed =
        .error (.unknownMatcher "date" ⟨.document, [.key "a", .index 1, .each, .key "b"]⟩) := by
  have hv : twiceMalformed.Canonical :=
    ⟨by decide, ⟨trivial, ⟨by decide, trivial, trivial, trivial,
      ⟨by decide, ⟨by decide, trivial, trivial, trivial⟩, trivial⟩, trivial⟩, trivial⟩, trivial⟩
  obtain ⟨horder, -, hfault⟩ := decode_settled_by_first_failing_check twiceMalformed
  refine ⟨hv, horder hv, (hfault _).mpr ⟨twiceMalformed.checks.take 7,
    ⟨[.key "a", .index 1, .each, .key "b"], 4, [(matcherKey, .string "date"), ("value", .null)],
      .kind⟩, twiceMalformed.checks.drop 8, rfl, ?_, ?_⟩⟩
  · intro b hb
    exact Check.fault?_eq_none_iff.mp (List.findSome?_eq_none_iff.mp rfl b hb)
  · exact .unknownKind rfl (by decide) (by decide)

end Tree

end ConsumerContract
