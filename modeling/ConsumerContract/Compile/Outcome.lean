import ConsumerContract.Compile
import ConsumerContract.Tree.Expansion
import ConsumerContract.Tree.Visit

/-!
The outcome of compiling in one equation: the fault of the first node that has one, in the order of
a walk from the root, or else the expansion of the tree, and the rules of its matchers entered one
after the other behind those that were there.
-/

namespace ConsumerContract

abbrev Records := List (Selector × Rule)

def Records.enter (records : Records) (rules : RuleTable) : RuleTable :=
  records.foldl (fun rules r => rules.insert r.1.text r.2) rules

theorem Records.enter_append (a b : Records) (rules : RuleTable) :
    Records.enter (a ++ b) rules = b.enter (a.enter rules) := by
  simp [Records.enter]

namespace Tree

variable (accepts : String → Bool) (o : Options)

def copiesFault? (place : Selector) (name : String) (n : UInt64) : Option Fault :=
  if o.maxRepeat < n then some (.malformedRule place (.tooManyCopies name n o.maxRepeat))
  else none

def criterionFault? (place : Selector) : Criterion → Option Fault
  | .type => none
  | .pattern p =>
      if o.validatePatterns && !accepts p then some (.invalidPattern p place) else none
  | .atLeast n => copiesFault? o place (Criterion.atLeast n).name n
  | .atMost n => copiesFault? o place (Criterion.atMost n).name n

def ownFault? (place : Selector) : Tree → Option Fault
  | .matcher c _ => criterionFault? accepts o place c
  | _ => none

/-- What is wrong with a node that lies `depth` levels below the root, whatever is below it. -/
def nodeFault? (place : Selector) (depth : Nat) (t : Tree) : Option Fault :=
  if o.maxDepth.toNat < depth then some (.tooDeep o.maxDepth place)
  else ownFault? accepts o place t

def recordsAt (place : Selector) (ps : List Placed) : Records :=
  ps.map fun p => (place.extend p.steps, p.matcher.criterion.rule)

def visitFault? (place : Selector) (depth : Nat) (v : Visit) : Option Fault :=
  nodeFault? accepts o (place.extend v.steps) (depth + v.depth) v.node

def firstFault? (place : Selector) (depth : Nat) (vs : List Visit) : Option Fault :=
  vs.findSome? (visitFault? accepts o place depth)

def outcome {α : Type} (fault? : Option Fault) (a : α) : Except Fault α :=
  match fault? with
  | some f => .error f
  | none => .ok a

theorem recordsAt_append (place : Selector) (ps qs : List Placed) :
    recordsAt place (ps ++ qs) = recordsAt place ps ++ recordsAt place qs := by
  simp [recordsAt]

theorem recordsAt_map_under (place : Selector) (steps : List Selector.Step) (ps : List Placed) :
    recordsAt place (ps.map (Placed.under steps)) = recordsAt (place.extend steps) ps := by
  simp [recordsAt, Placed.under]

theorem outcome_bind {α β : Type} (f? : Option Fault) (a : α) (k : α → Except Fault β) :
    (outcome f? a >>= k) = match f? with
      | some f => .error f
      | none => k a := by
  cases f? <;> rfl

theorem outcome_eq_ok_iff {α : Type} {f? : Option Fault} {a b : α} :
    outcome f? a = .ok b ↔ f? = none ∧ a = b := by
  cases f? <;> simp [outcome]

theorem outcome_eq_error_iff {α : Type} {f? : Option Fault} {a : α} {f : Fault} :
    outcome f? a = .error f ↔ f? = some f := by
  cases f? <;> simp [outcome]

variable {accepts o}

theorem nodeFault?_eq_none_iff {place : Selector} {depth : Nat} {t : Tree} :
    nodeFault? accepts o place depth t = none ↔
      depth ≤ o.maxDepth.toNat ∧ ownFault? accepts o place t = none := by
  rw [nodeFault?]
  split
  · next h => simp [Nat.not_le.mpr h]
  · next h => simp [Nat.not_lt.mp h]

theorem firstFault?_map_under (place : Selector) (depth : Nat) (steps : List Selector.Step)
    (vs : List Visit) :
    firstFault? accepts o place depth (vs.map (Visit.under steps)) =
      firstFault? accepts o (place.extend steps) (depth + 1) vs := by
  rw [firstFault?, List.findSome?_map]
  refine congrArg (fun f => List.findSome? f vs) (funext fun v => ?_)
  have : depth + (v.depth + 1) = depth + 1 + v.depth := by omega
  simp [visitFault?, Visit.under, this]

theorem firstFault?_append (place : Selector) (depth : Nat) (vs ws : List Visit) :
    firstFault? accepts o place depth (vs ++ ws) =
      (firstFault? accepts o place depth vs).or (firstFault? accepts o place depth ws) := by
  simp [firstFault?, List.findSome?_append]

theorem firstFault?_cons_root (place : Selector) (depth : Nat) (t : Tree) (vs : List Visit) :
    firstFault? accepts o place depth (⟨[], 0, t⟩ :: vs) =
      (nodeFault? accepts o place depth t).or (firstFault? accepts o place depth vs) := by
  simp only [firstFault?, List.findSome?_cons, visitFault?, Selector.extend_nil, Nat.add_zero]
  cases nodeFault? accepts o place depth t <;> rfl

theorem firstFault?_items_cons (place : Selector) (depth i : Nat) (t : Tree) (rest : List Tree) :
    firstFault? accepts o place depth (visitItems i (t :: rest)) =
      (firstFault? accepts o (place.index i) (depth + 1) t.visits).or
        (firstFault? accepts o place depth (visitItems (i + 1) rest)) := by
  rw [visitItems, firstFault?_append, firstFault?_map_under]
  rfl

theorem firstFault?_entries_cons (place : Selector) (depth : Nat) (k : String) (t : Tree)
    (rest : List (String × Tree)) :
    firstFault? accepts o place depth (visitEntries ((k, t) :: rest)) =
      (firstFault? accepts o (place.key k) (depth + 1) t.visits).or
        (firstFault? accepts o place depth (visitEntries rest)) := by
  rw [visitEntries, firstFault?_append, firstFault?_map_under]
  rfl

theorem recordsAt_items_cons (place : Selector) (i : Nat) (t : Tree) (rest : List Tree) :
    recordsAt place (placedItems i (t :: rest)) =
      recordsAt (place.index i) t.placed ++ recordsAt place (placedItems (i + 1) rest) := by
  rw [placedItems, recordsAt_append, recordsAt_map_under]
  rfl

theorem recordsAt_entries_cons (place : Selector) (k : String) (t : Tree)
    (rest : List (String × Tree)) :
    recordsAt place (placedEntries ((k, t) :: rest)) =
      recordsAt (place.key k) t.placed ++ recordsAt place (placedEntries rest) := by
  rw [placedEntries, recordsAt_append, recordsAt_map_under]
  rfl

theorem recordsAt_matcher (place : Selector) (c : Criterion) (payload : Tree) :
    recordsAt place (placed (.matcher c payload)) =
      recordsAt (place.extend c.payloadSteps) payload.placed ++ [(place, c.rule)] := by
  rw [placed, recordsAt_append, recordsAt_map_under]
  simp [recordsAt]

theorem run_checkPattern (place : Selector) (p : String) (rules : RuleTable) :
    (checkPattern accepts o place p).run rules =
      outcome (criterionFault? accepts o place (.pattern p)) ((), rules) := by
  unfold checkPattern
  simp only [criterionFault?]
  split <;> rfl

theorem run_copies (place : Selector) (c : Criterion) (n : UInt64) (hn : c.count? = some n)
    (rules : RuleTable) :
    (copies o place c).run rules = outcome (copiesFault? o place c.name n) (n.toNat, rules) := by
  simp only [copies, copiesFault?, hn, Option.getD_some]
  split <;> rfl

theorem run_checkDepth_bind {α : Type} {place : Selector} {depth : Nat} {t : Tree}
    {k : Unit → Compiling α} {rules : RuleTable} {f? : Option Fault} {r : α × RuleTable}
    (h : (k ()).run rules = outcome ((ownFault? accepts o place t).or f?) r) :
    (checkDepth o place depth >>= k).run rules =
      outcome ((nodeFault? accepts o place depth t).or f?) r := by
  unfold checkDepth nodeFault?
  split
  · rfl
  · exact h

theorem run_bind_record {x : Compiling Json} {rules rules' : RuleTable} {f? : Option Fault}
    {v : Json} (h : x.run rules = outcome f? (v, rules')) (place : Selector) (rule : Rule)
    (wrap : Json → Json) :
    (do let v ← x; record place rule; return wrap v).run rules =
      outcome f? (wrap v, Records.enter [(place, rule)] rules') := by
  rw [StateT.run_bind, h]
  cases f? <;> rfl

theorem run_copies_bind_record {c : Criterion} {n : UInt64} (hn : c.count? = some n)
    {x : Compiling Json} {rules rules' : RuleTable} {f? : Option Fault} {v : Json}
    (h : x.run rules = outcome f? (v, rules')) (place : Selector) :
    (do let count ← copies o place c; let v ← x; record place c.rule
        return Json.array (List.replicate count v)).run rules =
      outcome ((copiesFault? o place c.name n).or f?)
        (.array (List.replicate n.toNat v), Records.enter [(place, c.rule)] rules') := by
  rw [StateT.run_bind, run_copies place c n hn]
  cases copiesFault? o place c.name n with
  | some f => rfl
  | none => exact run_bind_record h place c.rule fun v => .array (List.replicate n.toNat v)

-- by the recursion of the compiler; the table that it starts from differs from part to part, since
-- each goes on from the rules of those before it

mutual

theorem compileAt_eq_outcome (place : Selector) (depth : Nat) (t : Tree) (rules : RuleTable) :
    (compileAt accepts o place depth t).run rules =
      outcome (firstFault? accepts o place depth t.visits)
        (t.expansion, (recordsAt place t.placed).enter rules) := by
  cases t with
  | null =>
      rw [compileAt.eq_def, visits, firstFault?_cons_root]
      exact run_checkDepth_bind rfl
  | bool b =>
      rw [compileAt.eq_def, visits, firstFault?_cons_root]
      exact run_checkDepth_bind rfl
  | number n =>
      rw [compileAt.eq_def, visits, firstFault?_cons_root]
      exact run_checkDepth_bind rfl
  | string s =>
      rw [compileAt.eq_def, visits, firstFault?_cons_root]
      exact run_checkDepth_bind rfl
  | array items =>
      rw [compileAt.eq_def, visits, firstFault?_cons_root]
      refine run_checkDepth_bind ?_
      rw [StateT.run_bind, compileItems_eq_outcome place depth 0 items rules]
      cases firstFault? accepts o place depth (visitItems 0 items) <;> rfl
  | object entries =>
      rw [compileAt.eq_def, visits, firstFault?_cons_root]
      refine run_checkDepth_bind ?_
      rw [StateT.run_bind, compileEntries_eq_outcome place depth entries rules]
      cases firstFault? accepts o place depth (visitEntries entries) <;> rfl
  | matcher c payload =>
      rw [compileAt.eq_def, visits, firstFault?_cons_root, firstFault?_map_under,
        recordsAt_matcher, Records.enter_append]
      refine run_checkDepth_bind ?_
      cases c with
      | type =>
          have h := compileAt_eq_outcome place (depth + 1) payload rules
          simp only [ownFault?, criterionFault?, Option.none_or, Criterion.payloadSteps,
            Selector.extend_nil]
          exact run_bind_record h place _ id
      | pattern p =>
          have h := compileAt_eq_outcome place (depth + 1) payload rules
          simp only [ownFault?, Criterion.payloadSteps, Selector.extend_nil]
          rw [StateT.run_bind, run_checkPattern]
          cases criterionFault? accepts o place (.pattern p) with
          | some f => rfl
          | none => exact run_bind_record h place _ id
      | atLeast n =>
          exact run_copies_bind_record rfl
            (compileAt_eq_outcome place.each (depth + 1) payload rules)
            place
      | atMost n =>
          exact run_copies_bind_record rfl
            (compileAt_eq_outcome place.each (depth + 1) payload rules)
            place

theorem compileItems_eq_outcome (place : Selector) (depth i : Nat) (items : List Tree)
    (rules : RuleTable) :
    (compileItems accepts o place (depth + 1) i items).run rules =
      outcome (firstFault? accepts o place depth (visitItems i items))
        (expandItems items, (recordsAt place (placedItems i items)).enter rules) := by
  cases items with
  | nil => rfl
  | cons t rest =>
      rw [compileItems, firstFault?_items_cons, recordsAt_items_cons, Records.enter_append,
        StateT.run_bind, compileAt_eq_outcome (place.index i) (depth + 1) t rules]
      cases firstFault? accepts o (place.index i) (depth + 1) t.visits with
      | some f => rfl
      | none =>
          rw [outcome_bind, StateT.run_bind, compileItems_eq_outcome place depth (i + 1) rest]
          cases firstFault? accepts o place depth (visitItems (i + 1) rest) <;> rfl

theorem compileEntries_eq_outcome (place : Selector) (depth : Nat)
    (entries : List (String × Tree)) (rules : RuleTable) :
    (compileEntries accepts o place (depth + 1) entries).run rules =
      outcome (firstFault? accepts o place depth (visitEntries entries))
        (expandEntries entries, (recordsAt place (placedEntries entries)).enter rules) := by
  cases entries with
  | nil => rfl
  | cons e rest =>
      obtain ⟨k, t⟩ := e
      rw [compileEntries, firstFault?_entries_cons, recordsAt_entries_cons, Records.enter_append,
        StateT.run_bind, compileAt_eq_outcome (place.key k) (depth + 1) t rules]
      cases firstFault? accepts o (place.key k) (depth + 1) t.visits with
      | some f => rfl
      | none =>
          rw [outcome_bind, StateT.run_bind, compileEntries_eq_outcome place depth rest]
          cases firstFault? accepts o place depth (visitEntries rest) <;> rfl

end

theorem run_compileAt_eq_ok_iff {t : Tree} {place : Selector} {depth : Nat} {v : Json}
    {rules rules' : RuleTable} :
    (compileAt accepts o place depth t).run rules = .ok (v, rules') ↔
      firstFault? accepts o place depth t.visits = none ∧ t.expansion = v ∧
        (recordsAt place t.placed).enter rules = rules' := by
  rw [compileAt_eq_outcome, outcome_eq_ok_iff, Prod.mk.injEq]

theorem compile_of_not_isObject {t : Tree} (ht : t.isObject = false) :
    t.compile accepts o = .error (.nonObjectRoot t.kind) := by
  simp only [compile, compileBody, ht]
  rfl

theorem compile_of_isObject {t : Tree} (ht : t.isObject = true) :
    t.compile accepts o =
      outcome (firstFault? accepts o .body 0 t.visits)
        ⟨t.expansion, (recordsAt .body t.placed).enter .empty⟩ := by
  simp only [compile, compileBody, ht, if_true, compileAt_eq_outcome]
  cases firstFault? accepts o .body 0 t.visits <;> rfl

theorem compile_eq_ok_iff {t : Tree} {b : ContractBody} :
    t.compile accepts o = .ok b ↔
      t.isObject = true ∧ firstFault? accepts o .body 0 t.visits = none ∧
        ⟨t.expansion, (recordsAt .body t.placed).enter .empty⟩ = b := by
  cases ht : t.isObject with
  | true => rw [compile_of_isObject ht, outcome_eq_ok_iff, eq_self, true_and]
  | false => simp [compile_of_not_isObject ht]

end Tree

end ConsumerContract
