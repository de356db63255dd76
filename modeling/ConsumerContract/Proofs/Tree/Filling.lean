import ConsumerContract.Proofs.Tree.Acceptance
import ConsumerContract.Proofs.Tree.Stands
import ConsumerContract.Tree.Context

/-!
What stands around a hole in a document is read the same way whatever the hole is filled with, and a
fault in the filling is the fault of the whole.
-/

namespace ConsumerContract

open Selector (Step)

namespace Tree

theorem Context.stands_fill (D : Context) (t : Tree) : (D.fill t).Stands D.steps t := by
  induction D with
  | hole => exact .here t
  | item before inner after ih =>
      have hpart : ([Step.index before.length], inner.fill t) ∈
          (array (before ++ inner.fill t :: after)).parts :=
        mem_parts_array.mpr ⟨before.length, _, by simp, rfl⟩
      exact .inside hpart rfl ih
  | entry before k inner after ih =>
      have hpart : ([Step.key k], inner.fill t) ∈
          (object (before ++ (k, inner.fill t) :: after)).parts :=
        mem_parts_object.mpr ⟨k, _, by simp, rfl⟩
      exact .inside hpart rfl ih
  | payload c inner ih => exact .inside (mem_parts_matcher.mpr rfl) rfl ih

theorem decodeItems_append (place : Selector) (i : Nat) (a b : List Json) :
    decodeItems place i (a ++ b) = (do
      let ts ← decodeItems place i a
      let us ← decodeItems place (i + a.length) b
      return ts ++ us) := by
  induction a generalizing i with
  | nil =>
      have hnil : decodeItems place i [] = .ok [] := rfl
      rw [List.nil_append, hnil]
      cases decodeItems place i b <;> rfl
  | cons v rest ih =>
      have hlength : i + (v :: rest).length = i + 1 + rest.length := by
        rw [List.length_cons]
        omega
      rw [List.cons_append, decodeItems, decodeItems, ih, hlength]
      cases decodeAt (place.index i) v with
      | error f => rfl
      | ok t =>
          cases decodeItems place (i + 1) rest with
          | error f => rfl
          | ok ts => cases decodeItems place (i + 1 + rest.length) b <;> rfl

theorem decodeEntries_append (place : Selector) (a b : List (String × Json)) :
    decodeEntries place (a ++ b) = (do
      let ts ← decodeEntries place a
      let us ← decodeEntries place b
      return ts ++ us) := by
  induction a with
  | nil =>
      have hnil : decodeEntries place [] = .ok [] := rfl
      rw [List.nil_append, hnil]
      cases decodeEntries place b <;> rfl
  | cons e rest ih =>
      obtain ⟨k, v⟩ := e
      rw [List.cons_append, decodeEntries, decodeEntries, ih]
      cases decodeAt (place.key k) v with
      | error f => rfl
      | ok t =>
          cases decodeEntries place rest with
          | error f => rfl
          | ok ts => cases decodeEntries place b <;> rfl

theorem length_of_decodeItems {place : Selector} {items : List Json} :
    ∀ {i : Nat} {ts : List Tree}, decodeItems place i items = .ok ts →
      ts.length = items.length := by
  induction items with
  | nil =>
      intro i ts h
      cases h
      rfl
  | cons v rest ih =>
      intro i ts h
      obtain ⟨t, us, -, hus, rfl⟩ := decodeItems_cons_eq_ok_iff.mp h
      rw [List.length_cons, List.length_cons, ih hus]

theorem exists_of_decodeItems_amid {place : Selector} {before after : List Json} {v : Json}
    {all : List Tree} (h : decodeItems place 0 (before ++ v :: after) = .ok all) :
    ∃ ts t us, decodeItems place 0 before = .ok ts ∧
      decodeAt (place.index before.length) v = .ok t ∧
      decodeItems place (before.length + 1) after = .ok us ∧ all = ts ++ t :: us := by
  rw [decodeItems_append, Nat.zero_add] at h
  obtain ⟨ts, hts, h⟩ := Except.bind_eq_ok_iff.mp h
  obtain ⟨rest, hrest, h⟩ := Except.bind_eq_ok_iff.mp h
  obtain ⟨t, us, ht, hus, rfl⟩ := decodeItems_cons_eq_ok_iff.mp hrest
  cases h
  exact ⟨ts, t, us, hts, ht, hus, rfl⟩

theorem exists_of_decodeEntries_amid {place : Selector} {before after : Members} {k : String}
    {v : Json} {all : List (String × Tree)}
    (h : decodeEntries place (before ++ (k, v) :: after) = .ok all) :
    ∃ ts t us, decodeEntries place before = .ok ts ∧ decodeAt (place.key k) v = .ok t ∧
      decodeEntries place after = .ok us ∧ all = ts ++ (k, t) :: us := by
  rw [decodeEntries_append] at h
  obtain ⟨ts, hts, h⟩ := Except.bind_eq_ok_iff.mp h
  obtain ⟨rest, hrest, h⟩ := Except.bind_eq_ok_iff.mp h
  obtain ⟨t, us, ht, hus, rfl⟩ := decodeEntries_cons_eq_ok_iff.mp hrest
  cases h
  exact ⟨ts, t, us, hts, ht, hus, rfl⟩

theorem decodeAt_marked_eq_error {place : Selector} {entries : Members} {rule : Rule} {v : Json}
    {f : Fault} (hholds : Holds entries rule) (hv : Entries.get? "value" entries = some v)
    (h : decodeAt (payloadPlace rule place) v = .error f) :
    decodeAt place (.object entries) = .error f := by
  have hrule : ruleOf rule.kind.json entries place = .ok rule :=
    (ruleOf_eq_ok_iff hholds.kind).mpr hholds
  rw [decodeAt, hholds.kind]
  simp only [decodeValue_eq, hrule, hv, h, bind, Except.bind, Except.map]

theorem payloadSteps_of_holds {members : Members} {c : Criterion} (h : Holds members c.rule) :
    payloadStepsOf members = c.payloadSteps := by
  rw [payloadStepsOf, h.min, h.max]
  cases c <;> rfl

theorem get?_payload {before after : Members}
    (h : Entries.Ascending (before ++ ("value", Json.null) :: after)) (v : Json) :
    Entries.get? "value" (before ++ ("value", v) :: after) = some v := by
  refine Entries.get?_append_cons_self ?_
  rw [ascending_iff_map_fst] at h ⊢
  simpa using h

theorem holds_payload_iff {before after : Members} {v : Json} {rule : Rule} :
    Holds (before ++ ("value", v) :: after) rule ↔ Holds (before ++ after) rule := by
  have hother : ∀ k, k ≠ "value" → Entries.get? k (before ++ ("value", v) :: after) =
      Entries.get? k (before ++ after) :=
    fun k hk => Entries.get?_append_cons_of_ne hk v before after
  have hkind := hother matcherKey (by decide)
  have hregex := hother "regex" (by decide)
  have hmin := hother "min" (by decide)
  have hmax := hother "max" (by decide)
  constructor
  · intro h
    exact ⟨hkind ▸ h.kind, hregex ▸ h.regex, hmin ▸ h.min, hmax ▸ h.max⟩
  · intro h
    exact ⟨hkind ▸ h.kind, hregex ▸ h.regex, hmin ▸ h.min, hmax ▸ h.max⟩

/-- A tree with a hole reads a document with a hole: whatever is read where the hole is goes into
the tree, and whatever is wrong there is wrong with the whole. -/
structure ReadsAs (place : Selector) (C : Json.Context) (D : Context) : Prop where
  steps : D.steps = C.steps
  ok : ∀ {v : Json} {t : Tree}, decodeAt (place.extend C.steps) v = .ok t →
    decodeAt place (C.fill v) = .ok (D.fill t)
  error : ∀ {v : Json} {f : Fault}, decodeAt (place.extend C.steps) v = .error f →
    decodeAt place (C.fill v) = .error f

theorem ReadsAs.around {place inside : Selector} {C C' : Json.Context} {D D' : Context}
    {wrap : Tree → Tree} (h : ReadsAs inside C D)
    (hplace : place.extend C'.steps = inside.extend C.steps) (hsteps : D'.steps = C'.steps)
    (hfill : ∀ t, D'.fill t = wrap (D.fill t))
    (hread : ∀ v, decodeAt place (C'.fill v) = (decodeAt inside (C.fill v)).map wrap) :
    ReadsAs place C' D' := by
  refine ⟨hsteps, ?_, ?_⟩
  · intro v t ht
    rw [hplace] at ht
    rw [hread, h.ok ht, hfill]
    rfl
  · intro v f hf
    rw [hplace] at hf
    rw [hread, h.error hf]
    rfl

theorem readsAs_item {place : Selector} {before after : List Json} {C : Json.Context} {D : Context}
    {ts us : List Tree} (hts : decodeItems place 0 before = .ok ts)
    (hus : decodeItems place (before.length + 1) after = .ok us)
    (h : ReadsAs (place.index before.length) C D) :
    ReadsAs place (.item before C after) (.item ts D us) := by
  have hread : ∀ v, decodeAt place ((Json.Context.item before C after).fill v) =
      (decodeAt (place.index before.length) (C.fill v)).map
        fun t => .array (ts ++ t :: us) := by
    intro v
    rw [Json.Context.fill, decodeAt, decodeItems_append, hts, Nat.zero_add, decodeItems, hus]
    cases decodeAt (place.index before.length) (C.fill v) <;> rfl
  have hplace : place.extend (Json.Context.item before C after).steps =
      (place.index before.length).extend C.steps := by
    rw [Json.Context.steps, Selector.index, Selector.extend_extend]
    rfl
  refine h.around hplace ?_ (fun _ => rfl) hread
  rw [Context.steps, Json.Context.steps, h.steps, length_of_decodeItems hts]

theorem readsAs_entry {place : Selector} {before after : Members} {k : String} {C : Json.Context}
    {D : Context} {ts us : List (String × Tree)} (hk : k ≠ matcherKey)
    (hplain : Json.Context.encodesMatcher before after = false)
    (hts : decodeEntries place before = .ok ts) (hus : decodeEntries place after = .ok us)
    (h : ReadsAs (place.key k) C D) :
    ReadsAs place (.entry before k C after) (.entry ts k D us) := by
  have hread : ∀ v, decodeAt place ((Json.Context.entry before k C after).fill v) =
      (decodeAt (place.key k) (C.fill v)).map fun t => .object (ts ++ (k, t) :: us) := by
    intro v
    have hunmarked : Entries.get? matcherKey (before ++ (k, C.fill v) :: after) = none := by
      rw [Entries.get?_append_cons_of_ne hk.symm]
      simpa [Json.Context.encodesMatcher] using hplain
    rw [Json.Context.fill, decodeAt_unmarked hunmarked, decodeEntries_append, hts, decodeEntries,
      hus]
    cases decodeAt (place.key k) (C.fill v) <;> rfl
  have hsteps : (Json.Context.entry before k C after).steps = .key k :: C.steps := by
    simp [Json.Context.steps, hplain]
  have hplace : place.extend (Json.Context.entry before k C after).steps =
      (place.key k).extend C.steps := by
    rw [hsteps, Selector.key, Selector.extend_extend]
    rfl
  refine h.around hplace ?_ (fun _ => rfl) hread
  rw [Context.steps, hsteps, h.steps]

theorem readsAs_payload {place : Selector} {before after : Members} {C : Json.Context}
    {D : Context} {c : Criterion}
    (hascending : Entries.Ascending (before ++ ("value", Json.null) :: after))
    (hholds : Holds (before ++ after) c.rule) (h : ReadsAs (payloadPlace c.rule place) C D) :
    ReadsAs place (.entry before "value" C after) (.payload c D) := by
  have hmarked : Json.Context.encodesMatcher before after = true := by
    rw [Json.Context.encodesMatcher, hholds.kind]
    rfl
  have hsteps : (Json.Context.entry before "value" C after).steps = c.payloadSteps ++ C.steps := by
    rw [Json.Context.steps, if_pos hmarked, payloadSteps_of_holds hholds]
  have hpayload : payloadPlace c.rule place = place.extend c.payloadSteps := by
    rw [payloadPlace_of_holds hholds, payloadSteps_of_holds hholds]
  have hplace : place.extend (Json.Context.entry before "value" C after).steps =
      (payloadPlace c.rule place).extend C.steps := by
    rw [hsteps, hpayload, Selector.extend_extend]
  have hread : ∀ v, decodeAt place ((Json.Context.entry before "value" C after).fill v) =
      (decodeAt (payloadPlace c.rule place) (C.fill v)).map (.matcher c) := by
    intro v
    have hfilled := holds_payload_iff (v := C.fill v).mpr hholds
    have hvalue := get?_payload hascending (C.fill v)
    cases hpayload : decodeAt (payloadPlace c.rule place) (C.fill v) with
    | error f => exact decodeAt_marked_eq_error hfilled hvalue hpayload
    | ok t =>
        exact (decodeAt_marked_eq_ok_iff hfilled.kind).mpr
          ⟨c, _, _, hfilled, hvalue, hpayload, rfl⟩
  refine h.around hplace ?_ (fun _ => rfl) hread
  rw [Context.steps, hsteps, h.steps]

theorem exists_readsAs {C : Json.Context} (hentered : C.IsEntered) (hascending : C.IsAscending)
    {v : Json} : ∀ {place : Selector} {t : Tree}, decodeAt place (C.fill v) = .ok t →
      ∃ D, ReadsAs place C D ∧ ∃ u, decodeAt (place.extend C.steps) v = .ok u ∧ t = D.fill u := by
  induction C with
  | hole =>
      intro place t h
      have hhere : place.extend Json.Context.hole.steps = place := Selector.extend_nil place
      refine ⟨.hole, ⟨rfl, ?_, ?_⟩, t, ?_, rfl⟩
      · intro w u hu
        rwa [hhere] at hu
      · intro w f hf
        rwa [hhere] at hf
      · rwa [hhere]
  | item before inner after ih =>
      intro place t h
      rw [Json.Context.fill, decodeAt] at h
      obtain ⟨all, hall, rfl⟩ := Except.map_eq_ok_iff.mp h
      obtain ⟨ts, t, us, hts, ht, hus, rfl⟩ := exists_of_decodeItems_amid hall
      obtain ⟨D, hD, u, hu, rfl⟩ := ih hentered hascending ht
      refine ⟨.item ts D us, readsAs_item hts hus hD, u, ?_, rfl⟩
      rw [Json.Context.steps]
      rwa [Selector.index, Selector.extend_extend] at hu
  | entry before k inner after ih =>
      intro place t h
      obtain ⟨hk, hentered⟩ := hentered
      obtain ⟨hkeys, hascending⟩ := hascending
      cases hmarked : Json.Context.encodesMatcher before after with
      | false =>
          have hk : k ≠ matcherKey := by simpa [hmarked] using hk
          have hunmarked :
              Entries.get? matcherKey (before ++ (k, inner.fill v) :: after) = none := by
            rw [Entries.get?_append_cons_of_ne hk.symm]
            simpa [Json.Context.encodesMatcher] using hmarked
          rw [Json.Context.fill, decodeAt_unmarked hunmarked] at h
          obtain ⟨all, hall, rfl⟩ := Except.map_eq_ok_iff.mp h
          obtain ⟨ts, t, us, hts, ht, hus, rfl⟩ := exists_of_decodeEntries_amid hall
          obtain ⟨D, hD, u, hu, rfl⟩ := ih hentered hascending ht
          have hreads := readsAs_entry hk hmarked hts hus hD
          refine ⟨_, hreads, u, ?_, rfl⟩
          rw [Selector.key, Selector.extend_extend, ← hD.steps] at hu
          rwa [← hreads.steps]
      | true =>
          have hk : k = "value" := by simpa [hmarked] using hk
          subst hk
          obtain ⟨marked, hmarked⟩ := Option.isSome_iff_exists.mp hmarked
          have hfilled : Entries.get? matcherKey (before ++ ("value", inner.fill v) :: after) =
              some marked := by
            rw [Entries.get?_append_cons_of_ne (by decide), hmarked]
          obtain ⟨c, w, payload, hholds, hw, hpayload, rfl⟩ :=
            (decodeAt_marked_eq_ok_iff hfilled).mp h
          cases (get?_payload hkeys (inner.fill v)).symm.trans hw
          obtain ⟨D, hD, u, hu, rfl⟩ := ih hentered hascending hpayload
          have hholds := holds_payload_iff.mp hholds
          have hreads := readsAs_payload hkeys hholds hD
          refine ⟨_, hreads, u, ?_, rfl⟩
          rw [payloadPlace_of_holds hholds, payloadSteps_of_holds hholds, Selector.extend_extend,
            ← hD.steps] at hu
          rwa [← hreads.steps]

end Tree

end ConsumerContract
