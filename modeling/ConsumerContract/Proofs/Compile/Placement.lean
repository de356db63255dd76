import ConsumerContract.Proofs.Compile.Refusal
import ConsumerContract.Proofs.Compile.Rerooted

/-!
What a tree comes to does not depend on where it stands, nor on the rules recorded before it: there
is one value with rules by what is written behind the place, or one fault, from which the outcome at
every place and from every table is put together.
-/

namespace ConsumerContract

def RuleTable.enterBehind (suffixes : RuleTable) (place : String) (rules : RuleTable) : RuleTable :=
  suffixes.entries.foldl (fun rules e => rules.insert (place ++ e.1) e.2) rules

def Fault.place? : Fault → Option Selector
  | .nonObjectRoot _ => none
  | .unknownMatcher _ place => some place
  | .malformedRule place _ => some place
  | .invalidPattern _ place => some place
  | .tooDeep _ place => some place
  | .duplicateInteraction _ _ => none

def Fault.below (place : Selector) : Fault → Fault := .relocate fun s => place.extend s.steps

/-- What a tree comes to on its own: a value, and rules by what is written behind the place of the
tree, or a fault that names its place by the steps from the tree. -/
abbrev Alone := Except Fault (Json × RuleTable)

def Alone.standing (place : Selector) (rules : RuleTable) : Alone → Except Fault (Json × RuleTable)
  | .ok (v, suffixes) => .ok (v, suffixes.enterBehind place.text rules)
  | .error f => .error (f.below place)

theorem Fault.place?_below (place : Selector) (f : Fault) :
    (f.below place).place? = f.place?.map fun s => place.extend s.steps := by
  cases f <;> rfl

namespace RuleTable

theorem get?_foldl_insert_behind (place suffix : String) {entries : List (String × Rule)} :
    ∀ {rules : RuleTable}, Entries.Ascending entries →
      (entries.foldl (fun rules e => rules.insert (place ++ e.1) e.2) rules).get?
          (place ++ suffix) =
        (Entries.get? suffix entries).or (rules.get? (place ++ suffix)) := by
  induction entries with
  | nil => exact fun _ => rfl
  | cons e rest ih =>
      intro rules h
      obtain ⟨hlow, hrest⟩ := List.pairwise_cons.mp h
      rw [List.foldl_cons, ih hrest, KeyMap.get?_insert, Entries.get?]
      by_cases hs : suffix = e.1
      · have hnone : Entries.get? suffix rest = none := by
          rw [Option.eq_none_iff_forall_ne_some]
          intro r hr
          have hlt : e.1 < suffix := hlow (suffix, r) (Entries.mem_of_get? hr)
          exact String.lt_irrefl suffix (hs ▸ hlt)
        rw [hnone, if_pos hs, if_pos (congrArg (place ++ ·) hs)]
        rfl
      · rw [if_neg hs, if_neg fun h => hs ((String.append_right_inj place).mp h)]

theorem get?_enterBehind (suffixes : RuleTable) (place : String) (rules : RuleTable)
    (suffix : String) :
    (suffixes.enterBehind place rules).get? (place ++ suffix) =
      (suffixes.get? suffix).or (rules.get? (place ++ suffix)) :=
  get?_foldl_insert_behind place suffix suffixes.ascending

theorem get?_enterBehind_of_not_behind {place s : String} (h : ∀ suffix, s ≠ place ++ suffix)
    (suffixes rules : RuleTable) : (suffixes.enterBehind place rules).get? s = rules.get? s := by
  rw [enterBehind]
  induction suffixes.entries generalizing rules with
  | nil => rfl
  | cons e rest ih => rw [List.foldl_cons, ih, KeyMap.get?_insert, if_neg (h e.1)]

end RuleTable

namespace Tree

variable {accepts : String → Bool} {o : Options}

def ruleSuffixes (ps : List Placed) : RuleTable :=
  .ofList (ps.map fun p => (Selector.stepsText p.steps, p.rule))

theorem get?_ruleSuffixes (ps : List Placed) (suffix : String) :
    (ruleSuffixes ps).get? suffix = ruleBelow? ps suffix := by
  rw [ruleSuffixes, KeyMap.get?_ofList, ← List.map_reverse, List.find?_map, Option.map_map]
  rfl

theorem enter_recordsAt_eq (place : Selector) (ps : List Placed) (rules : RuleTable) :
    (recordsAt place ps).enter rules = (ruleSuffixes ps).enterBehind place.text rules := by
  refine KeyMap.ext_get? fun s => ?_
  by_cases hs : ∃ suffix, s = place.text ++ suffix
  · obtain ⟨suffix, rfl⟩ := hs
    rw [get?_enter_recordsAt, RuleTable.get?_enterBehind, get?_ruleSuffixes]
  · have hs : ∀ suffix, s ≠ place.text ++ suffix := not_exists.mp hs
    rw [get?_enter_recordsAt_of_not_below hs, RuleTable.get?_enterBehind_of_not_behind hs]

theorem place?_of_ownFault? {place : Selector} {t : Tree} {f : Fault}
    (h : ownFault? accepts o place t = some f) : f.place? = some place := by
  cases t with
  | matcher c payload =>
      cases c with
      | type => cases h
      | pattern p =>
          simp only [ownFault?, criterionFault?] at h
          split at h
          · cases h
            rfl
          · cases h
      | atLeast n =>
          obtain ⟨-, rfl⟩ := copiesFault?_eq_some_iff.mp h
          rfl
      | atMost n =>
          obtain ⟨-, rfl⟩ := copiesFault?_eq_some_iff.mp h
          rfl
  | _ => cases h

theorem place?_of_nodeFault? {place : Selector} {depth : Nat} {t : Tree} {f : Fault}
    (h : nodeFault? accepts o place depth t = some f) : f.place? = some place := by
  rw [nodeFault?] at h
  split at h
  · cases h
    rfl
  · exact place?_of_ownFault? h

theorem firstFault?_below (place : Selector) (depth : Nat) (vs : List Visit) :
    firstFault? accepts o place depth vs =
      (firstFault? accepts o .document depth vs).map (Fault.below place) :=
  firstFault?_relocate (fun _ => rfl) depth vs

variable (accepts o) in
def alone (depth : Nat) (t : Tree) : Alone :=
  outcome (firstFault? accepts o .document depth t.visits) (t.expansion, ruleSuffixes t.placed)

theorem run_compileAt_eq_standing (place : Selector) (depth : Nat) (t : Tree) (rules : RuleTable) :
    (compileAt accepts o place depth t).run rules =
      (alone accepts o depth t).standing place rules := by
  rw [compileAt_eq_outcome, firstFault?_below, alone, enter_recordsAt_eq]
  cases firstFault? accepts o .document depth t.visits <;> rfl

theorem exists_suffix_of_alone_eq_error {depth : Nat} {t : Tree} {f : Fault}
    (h : alone accepts o depth t = .error f) :
    ∃ suffix, ∀ place, ∃ s, (f.below place).place? = some s ∧ s.text = place.text ++ suffix := by
  obtain ⟨v, -, hv⟩ := List.exists_of_findSome?_eq_some (outcome_eq_error_iff.mp h)
  refine ⟨Selector.stepsText v.steps, fun place => ⟨_, ?_, Selector.text_extend place v.steps⟩⟩
  rw [Fault.place?_below, place?_of_nodeFault? hv]
  rfl

theorem run_compileAt_repeated {c : Criterion} {n : UInt64} (hc : c.count? = some n)
    {template : Tree} {place : Selector} {depth : Nat} {v : Json} {rules rules' : RuleTable}
    (h : (compileAt accepts o place depth (.matcher c template)).run rules = .ok (v, rules')) :
    ∃ w suffixes, alone accepts o 0 template = .ok (w, suffixes) ∧
      v = .array (List.replicate n.toNat w) ∧
      rules' = (suffixes.enterBehind place.each.text rules).insert place.text c.rule := by
  obtain ⟨hfault, rfl, rfl⟩ := run_compileAt_eq_ok_iff.mp h
  rw [visits, firstFault?_cons_root, firstFault?_map_under, Option.or_eq_none_iff] at hfault
  refine ⟨template.expansion, ruleSuffixes template.placed, ?_, ?_, ?_⟩
  · exact outcome_eq_ok_iff.mpr ⟨firstFault?_eq_none_of_le (Nat.zero_le _) hfault.2, rfl⟩
  · rw [expansion, Criterion.expand, hc]
  · rw [recordsAt_matcher, Criterion.payloadSteps_of_count? hc, Records.enter_concat,
      enter_recordsAt_eq]
    rfl

theorem compiled_alike_wherever_it_stands (accepts : String → Bool) (o : Options) :
    (∀ (t : Tree) (depth : Nat), ∃ alone : Alone,
      (∀ place rules, (compileAt accepts o place depth t).run rules = alone.standing place rules) ∧
        ∀ f, alone = .error f →
          ∃ suffix, ∀ place, ∃ s, (f.below place).place? = some s ∧
            s.text = place.text ++ suffix) ∧
      ∀ (c : Criterion) (n : UInt64) (template : Tree), c.count? = some n →
        ∀ place depth rules v rules',
          (compileAt accepts o place depth (.matcher c template)).run rules = .ok (v, rules') →
            ∃ (w : Json) (suffixes : RuleTable),
              (∀ place rules, (compileAt accepts o place 0 template).run rules =
                .ok (w, suffixes.enterBehind place.text rules)) ∧
              v = .array (List.replicate n.toNat w) ∧
              rules' = (suffixes.enterBehind place.each.text rules).insert place.text c.rule := by
  refine ⟨fun t depth => ⟨alone accepts o depth t, ?_, ?_⟩, ?_⟩
  · exact fun place rules => run_compileAt_eq_standing place depth t rules
  · exact fun f hf => exists_suffix_of_alone_eq_error hf
  · intro c n template hc place depth rules v rules' h
    obtain ⟨w, suffixes, halone, hv, hrules⟩ := run_compileAt_repeated hc h
    refine ⟨w, suffixes, fun place rules => ?_, hv, hrules⟩
    rw [run_compileAt_eq_standing, halone]
    rfl

def labelledRow : Tree := .object [("id", like (.number (.natural 7))), ("tag", term "x" .null)]

def rulesOfFormerRow : RuleTable :=
  .ofList [("$.body.rows[*].id", { kind := .regex, regex := some "y" }),
    ("$.body.rows[*].name", { kind := .type })]

theorem labelledRow_repeated_over_former_rules :
    ∃ v rules', (compileAt (fun _ => true) {} (Selector.body.key "rows") 1
        (arrayMinLike 2 labelledRow)).run rulesOfFormerRow = .ok (v, rules') ∧
      ∃ (w : Json) (suffixes : RuleTable),
        (compileAt (fun _ => true) {} .path 0 labelledRow).run .empty =
          .ok (w, suffixes.enterBehind "$.path" .empty) ∧
        v = .array [w, w] ∧
        rules' = (suffixes.enterBehind "$.body.rows[*]" rulesOfFormerRow).insert "$.body.rows"
          { kind := .type, min := some 2 } ∧
        rules'.get? "$.body.rows[*].id" = some { kind := .type } ∧
        rules'.get? "$.body.rows[*].name" = some { kind := .type } := by
  refine ⟨_, _, rfl, ?_⟩
  obtain ⟨w, suffixes, halone, hv, hrules⟩ :=
    (compiled_alike_wherever_it_stands (fun _ => true) {}).2 (.atLeast 2) 2 labelledRow rfl
      (Selector.body.key "rows") 1 rulesOfFormerRow _ _ rfl
  have hpath : Selector.path.text = "$.path" := by decide
  have hrows : (Selector.body.key "rows").text = "$.body.rows" := by decide
  have heach : (Selector.body.key "rows").each.text = "$.body.rows[*]" := by decide
  rw [hrows, heach] at hrules
  refine ⟨w, suffixes, ?_, hv, hrules, rfl, rfl⟩
  rw [halone, hpath]

end Tree

end ConsumerContract
