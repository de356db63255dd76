import ConsumerContract.Compile.Outcome
import ConsumerContract.Proofs.KeyMap

namespace ConsumerContract.Records

theorem enter_concat (records : Records) (x : Selector × Rule) (rules : RuleTable) :
    enter (records ++ [x]) rules = (records.enter rules).insert x.1.text x.2 := by
  rw [enter_append]
  rfl

theorem get?_enter (records : Records) (rules : RuleTable) (s : String) :
    (records.enter rules).get? s =
      ((records.reverse.find? fun x => x.1.text = s).map Prod.snd).or (rules.get? s) := by
  -- from the end, where a record hides those before it
  induction records using List.reverseRecOn with
  | nil => rfl
  | append_singleton records x ih =>
      rw [enter_concat, KeyMap.get?_insert, List.reverse_concat, List.find?_cons]
      by_cases hs : x.1.text = s
      · simp [hs]
      · rw [if_neg (Ne.symm hs), ih]
        simp [hs]

theorem get?_enter_empty_eq_some_iff (records : Records) (s : String) (r : Rule) :
    (records.enter .empty).get? s = some r ↔
      ∃ before x after, records = before ++ x :: after ∧ x.1.text = s ∧ x.2 = r ∧
        ∀ y ∈ after, y.1.text ≠ s := by
  rw [get?_enter, KeyMap.get?_empty, Option.or_none, Option.map_eq_some_iff]
  constructor
  · rintro ⟨x, hx, rfl⟩
    obtain ⟨hs, after, before, hsplit, hafter⟩ := List.find?_eq_some_iff_append.mp hx
    refine ⟨before.reverse, x, after.reverse, ?_, of_decide_eq_true hs, rfl, ?_⟩
    · rw [← List.reverse_reverse records, hsplit]
      simp
    · intro y hy
      simpa using hafter y (List.mem_reverse.mp hy)
  · rintro ⟨before, x, after, rfl, hs, rfl, hafter⟩
    refine ⟨x, List.find?_eq_some_iff_append.mpr ⟨decide_eq_true hs, after.reverse, before.reverse,
      ?_, ?_⟩, rfl⟩
    · simp
    · intro y hy
      simpa using hafter y (List.mem_reverse.mp hy)

theorem get?_enter_of_ne {records : Records} {s : String}
    (h : ∀ x ∈ records, x.1.text ≠ s) (rules : RuleTable) :
    (records.enter rules).get? s = rules.get? s := by
  have hnone : (records.reverse.find? fun x => x.1.text = s) = none := by
    rw [List.find?_eq_none]
    intro x hx hs
    exact h x (List.mem_reverse.mp hx) (of_decide_eq_true hs)
  rw [get?_enter, hnone]
  rfl

theorem get?_enter_eq_or (records : Records) (rules : RuleTable) (s : String) :
    (records.enter rules).get? s = ((records.enter .empty).get? s).or (rules.get? s) := by
  rw [get?_enter, get?_enter, KeyMap.get?_empty, Option.or_none]

theorem exists_get?_enter_empty_iff (records : Records) (s : String) :
    (∃ r, (records.enter .empty).get? s = some r) ↔ s ∈ records.map fun x => x.1.text := by
  simp only [get?_enter, KeyMap.get?_empty, Option.or_none, Option.map_eq_some_iff, List.mem_map]
  constructor
  · rintro ⟨r, x, hx, -⟩
    have hs := List.find?_some hx
    exact ⟨x, List.mem_reverse.mp (List.mem_of_find?_eq_some hx), of_decide_eq_true hs⟩
  · rintro ⟨x, hx, hs⟩
    have hfound : (records.reverse.find? fun x => x.1.text = s).isSome := by
      rw [List.find?_isSome]
      exact ⟨x, List.mem_reverse.mpr hx, decide_eq_true hs⟩
    obtain ⟨y, hy⟩ := Option.isSome_iff_exists.mp hfound
    exact ⟨y.2, y, hy, rfl⟩

theorem entries_enter_append_perm {a b : Records}
    (h : ∀ x ∈ a, ∀ y ∈ b, x.1.text ≠ y.1.text) :
    (Records.enter (a ++ b) .empty).entries.Perm
      ((a.enter .empty).entries ++ (b.enter .empty).entries) := by
  have happart : ∀ {s r r'}, (a.enter .empty).get? s = some r →
      (b.enter .empty).get? s = some r' → False := by
    intro s r r' ha hb
    obtain ⟨x, hx, hxs⟩ := List.mem_map.mp ((exists_get?_enter_empty_iff a s).mp ⟨r, ha⟩)
    obtain ⟨y, hy, hys⟩ := List.mem_map.mp ((exists_get?_enter_empty_iff b s).mp ⟨r', hb⟩)
    exact h x hx y hy (hxs.trans hys.symm)
  refine KeyMap.entries_perm _ ?_ ?_
  · rw [List.map_append, List.nodup_append]
    refine ⟨Entries.nodup_keys (KeyMap.ascending _), Entries.nodup_keys (KeyMap.ascending _), ?_⟩
    rintro s hs s' hs' rfl
    obtain ⟨x, hx, rfl⟩ := List.mem_map.mp hs
    obtain ⟨y, hy, hxy⟩ := List.mem_map.mp hs'
    exact happart ((KeyMap.mem_entries_iff _ _ _).mp hx)
      (hxy ▸ (KeyMap.mem_entries_iff _ _ _).mp hy)
  · intro s r
    rw [List.mem_append, KeyMap.mem_entries_iff, KeyMap.mem_entries_iff, enter_append,
      get?_enter_eq_or b (a.enter .empty), Option.or_eq_some_iff]
    constructor
    · rintro (ha | hb)
      · exact Or.inr ⟨Option.eq_none_iff_forall_ne_some.mpr fun r' hb => happart ha hb, ha⟩
      · exact Or.inl hb
    · rintro (hb | ⟨-, ha⟩)
      · exact Or.inr hb
      · exact Or.inl ha

end ConsumerContract.Records
