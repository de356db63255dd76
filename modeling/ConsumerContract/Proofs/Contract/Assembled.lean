import ConsumerContract.Proofs.Contract.Reload
import ConsumerContract.Proofs.Compile.FixedPoint
import ConsumerContract.Proofs.Interaction.Assembly
import ConsumerContract.Proofs.Tree.Expanded

/-!
A contract that is put together from compiled declarations without floats comes back from its text
as it is, as long as its bodies do not nest deeper than the reader goes inside the four containers
that a contract puts around them.
-/

namespace ConsumerContract

variable {accepts : String → Bool} {o : Options}

def TreeBody (body : Option DeclaredBody) : Prop :=
  ∀ d, body = some d → ∃ t : Tree, d = .tree t ∧ t.Canonical ∧ t.FloatFree

def Interaction.Step.DeclaresTree : Interaction.Step → Prop
  | .given _ => True
  | .describe _ => True
  | .options _ => False
  | .request d => TreeBody d.body
  | .response d => TreeBody d.body

inductive Contract.Assembled (accepts : String → Bool) : Contract → Prop
  | between (consumer provider : String) : Assembled accepts (.between consumer provider)
  | add {c c' : Contract} {i : Interaction} {description : String}
      {steps : List Interaction.Step} (h : Assembled accepts c)
      (hsteps : ∀ s ∈ steps, s.DeclaresTree)
      (hrun : Interaction.run accepts (c.interaction description) steps = .ok i)
      (hadd : c.add i = .ok c') : Assembled accepts c'

structure ExactBody (body : Option Json) : Prop where
  canonical : ∀ v, body = some v → v.Canonical
  floatFree : ∀ v, body = some v → v.FloatFree
  not_null : body ≠ some .null

theorem exactBody_none : ExactBody none where
  canonical _ h := nomatch h
  floatFree _ h := nomatch h
  not_null h := nomatch h

theorem exactBody_expansion {t : Tree} (hobject : t.isObject = true) (hcanonical : t.Canonical)
    (hfloat : t.FloatFree) : ExactBody (some t.expansion) := by
  refine ⟨fun v hv => ?_, fun v hv => ?_, fun hnull => ?_⟩
  · cases hv
    exact Tree.canonical_expansion hcanonical
  · cases hv
    exact Tree.floatFree_expansion hfloat
  · cases t with
    | object entries => cases hnull
    | _ => cases hobject

theorem exactBody_of_compiledAlone {declared : Option DeclaredBody} {body : Option Json}
    {rules : RuleTable} (hdeclared : TreeBody declared)
    (h : compiledAlone accepts o declared = .ok (body, rules)) : ExactBody body := by
  cases declared with
  | none =>
      cases h
      exact exactBody_none
  | some d =>
      obtain ⟨t, rfl, hcanonical, hfloat⟩ := hdeclared d rfl
      obtain ⟨b, hb, hpair⟩ := Except.map_eq_ok_iff.mp h
      obtain ⟨hobject, -, rfl⟩ := Tree.compile_eq_ok_iff.mp hb
      obtain ⟨rfl, -⟩ := Prod.mk.inj hpair
      exact exactBody_expansion hobject hcanonical hfloat

theorem bodyOf_asText_eq_ok_iff {body body' : Option Json} (h : ExactBody body) (room : Nat) :
    Drafting.asText.bodyOf (.text room) body = .ok body' ↔
      (∀ v, body = some v → v.nesting ≤ room) ∧ body = body' := by
  cases body with
  | none => simp [Drafting.bodyOf, Schema.readMember]
  | some v =>
      have hjson := Draft.json?_textDraft (h.canonical v rfl) (h.floatFree v rfl) room
      have hdraft : v.textDraft ≠ .null := by
        intro hnull
        cases v <;> first | exact h.not_null rfl | cases hnull
      have hread : Drafting.asText.bodyOf (.text room) (some v) =
          (Reader.json (.text room) v.textDraft).map some :=
        Reader.optional.eq_2 _ _ _ hdraft
      rw [hread, Reader.json, hjson]
      by_cases hle : v.nesting ≤ room
      · simp [hle, Except.map]
      · simp [hle, Except.map]

namespace Interaction

structure Exact (i : Interaction) : Prop where
  request : ExactBody i.request.body
  response : ExactBody i.response.body
  options : i.options = {}

def bodies (i : Interaction) : List Json := i.request.body.toList ++ i.response.body.toList

theorem exact_of_step {i i' : Interaction} {s : Step} (h : i.Exact) (hs : s.DeclaresTree)
    (hstep : i.step accepts s = .ok i') : i'.Exact := by
  cases s with
  | given state =>
      cases hstep
      exact ⟨h.request, h.response, h.options⟩
  | describe description =>
      cases hstep
      exact ⟨h.request, h.response, h.options⟩
  | options o => exact absurd hs id
  | request d =>
      obtain ⟨request, hrequest, rfl⟩ := Except.map_eq_ok_iff.mp hstep
      obtain ⟨path, texts, body, rules, hparts, rfl⟩ := compile_request_eq_ok_iff.mp hrequest
      obtain ⟨-, -, -, -, hbody, -⟩ := run_compileParts_request_eq_ok_iff.mp hparts
      exact ⟨exactBody_of_compiledAlone hs hbody, h.response, h.options⟩
  | response d =>
      obtain ⟨response, hresponse, rfl⟩ := Except.map_eq_ok_iff.mp hstep
      obtain ⟨texts, body, rules, hparts, rfl⟩ := compile_response_eq_ok_iff.mp hresponse
      obtain ⟨-, -, hbody, -⟩ := run_compileParts_response_eq_ok_iff.mp hparts
      exact ⟨h.request, exactBody_of_compiledAlone hs hbody, h.options⟩

theorem exact_of_run {i i' : Interaction} {steps : List Step} (h : i.Exact)
    (hsteps : ∀ s ∈ steps, s.DeclaresTree) (hrun : run accepts i steps = .ok i') : i'.Exact := by
  induction steps generalizing i with
  | nil =>
      cases hrun
      exact h
  | cons s rest ih =>
      obtain ⟨hs, hrest⟩ := List.forall_mem_cons.mp hsteps
      obtain ⟨next, hstep, hrun⟩ := Except.bind_eq_ok_iff.mp hrun
      exact ih (exact_of_step h hs hstep) hrest hrun

theorem readsAs_asText_iff {i i' : Interaction} (h : i.Exact) (room : Nat) :
    i.ReadsAs .asText (.text room) i' ↔ (∀ v ∈ i.bodies, v.nesting ≤ room) ∧ i = i' := by
  have hbodies : (∀ v ∈ i.bodies, v.nesting ≤ room) ↔
      (∀ v, i.request.body = some v → v.nesting ≤ room) ∧
        ∀ v, i.response.body = some v → v.nesting ≤ room := by
    simp [bodies, or_imp, forall_and]
  have hsame : { i with
      request.body := i.request.body, response.body := i.response.body, options := {} } = i := by
    rw [← h.options]
  rw [ReadsAs, hbodies]
  simp only [bodyOf_asText_eq_ok_iff h.request, bodyOf_asText_eq_ok_iff h.response]
  constructor
  · rintro ⟨_, _, ⟨hrequest, rfl⟩, ⟨hresponse, rfl⟩, rfl⟩
    exact ⟨⟨hrequest, hresponse⟩, hsame.symm⟩
  · rintro ⟨⟨hrequest, hresponse⟩, rfl⟩
    exact ⟨_, _, ⟨hrequest, rfl⟩, ⟨hresponse, rfl⟩, hsame⟩

end Interaction

namespace Contract

structure Exact (c : Contract) : Prop where
  interactions : ∀ i ∈ c.interactions, i.Exact
  options : c.options = {}

theorem Assembled.exact {c : Contract} (h : Assembled accepts c) : c.Exact := by
  induction h with
  | between consumer provider => exact ⟨List.forall_mem_nil _, rfl⟩
  | @add c c' i description steps _ hsteps hrun hadd ih =>
      have hstart : (c.interaction description).Exact :=
        ⟨exactBody_none, exactBody_none, ih.options⟩
      have hi := Interaction.exact_of_run hstart hsteps hrun
      rw [Contract.add] at hadd
      split at hadd
      · cases hadd
      · cases hadd
        refine ⟨List.forall_mem_append.mpr ⟨ih.interactions, ?_⟩, ih.options⟩
        exact List.forall_mem_singleton.mpr hi

theorem forall₂_readsAs_iff {is is' : List Interaction} (h : ∀ i ∈ is, i.Exact) (room : Nat) :
    List.Forall₂ (Interaction.ReadsAs .asText (.text room)) is is' ↔
      (∀ i ∈ is, ∀ v ∈ i.bodies, v.nesting ≤ room) ∧ is = is' := by
  induction is generalizing is' with
  | nil => simp [eq_comm]
  | cons i rest ih =>
      obtain ⟨hi, hrest⟩ := List.forall_mem_cons.mp h
      rw [List.forall₂_cons_left_iff, List.forall_mem_cons]
      simp only [Interaction.readsAs_asText_iff hi, ih hrest]
      constructor
      · rintro ⟨_, _, ⟨hle, rfl⟩, ⟨hles, rfl⟩, rfl⟩
        exact ⟨⟨hle, hles⟩, rfl⟩
      · rintro ⟨⟨hle, hles⟩, rfl⟩
        exact ⟨_, _, ⟨hle, rfl⟩, ⟨hles, rfl⟩, rfl⟩

theorem Exact.reload_eq_ok_iff {c c' : Contract} (h : c.Exact) :
    c.reload = .ok c' ↔
      (∀ i ∈ c.interactions, ∀ v ∈ i.bodies, v.nesting + 4 ≤ 127) ∧ c = c' := by
  have hsame : { c with interactions := c.interactions, options := {} } = c := by
    rw [← h.options]
  rw [Contract.reload_eq_ok_iff]
  simp only [forall₂_readsAs_iff h.interactions]
  constructor
  · rintro ⟨_, ⟨hle, rfl⟩, rfl⟩
    exact ⟨fun i hi v hv => Nat.add_le_add_right (hle i hi v hv) 4, hsame.symm⟩
  · rintro ⟨hle, rfl⟩
    exact ⟨_, ⟨fun i hi v hv => Nat.le_of_add_le_add_right (hle i hi v hv), rfl⟩, hsame⟩

theorem assembled_reloads_iff {c : Contract} (h : Assembled accepts c) :
    (c.reload = .ok c ↔
      ∀ i ∈ c.interactions, ∀ v ∈ i.bodies, v.nesting + 4 ≤ 127) ∧
      ∀ c', c.reload = .ok c' → c' = c := by
  refine ⟨?_, fun c' hc' => (h.exact.reload_eq_ok_iff.mp hc').2.symm⟩
  rw [h.exact.reload_eq_ok_iff]
  simp

def deepBody : Nat → Json
  | 0 => .object []
  | n + 1 => .object [("a", deepBody n)]

def deepResponse (n : Nat) : DeclaredResponse where
  body := some (.tree (.ofJson (deepBody n)))

def deepContract (n : Nat) : Contract :=
  { between "ui" "api" with
    interactions := [{ description := "deep", response := { body := some (deepBody n) } }] }

theorem nesting_deepBody (n : Nat) : (deepBody n).nesting = n + 1 := by
  induction n with
  | zero => rfl
  | succ n ih => simp [deepBody, Json.nesting, Json.nestingEntries, ih]

theorem canonical_deepBody (n : Nat) : (deepBody n).Canonical := by
  induction n with
  | zero => exact ⟨List.Pairwise.nil, trivial⟩
  | succ n ih => exact ⟨List.pairwise_singleton _ _, ih, trivial⟩

theorem floatFree_ofJson_deepBody (n : Nat) : (Tree.ofJson (deepBody n)).FloatFree := by
  induction n with
  | zero => trivial
  | succ n ih => exact ⟨ih, trivial⟩

theorem isObject_ofJson_deepBody (n : Nat) : (Tree.ofJson (deepBody n)).isObject = true := by
  cases n <;> rfl

theorem height_deepBody (n : Nat) : (deepBody n).height = n := by
  induction n with
  | zero => rfl
  | succ n ih => simp [deepBody, Json.height, Json.heightEntries, ih]

theorem compile_deepResponse {n : Nat} (h : n ≤ o.maxDepth.toNat) :
    (deepResponse n).compile accepts o = .ok { body := some (deepBody n) } := by
  have hheight : (deepBody n).height ≤ o.maxDepth.toNat := by rwa [height_deepBody]
  have hcompile : (Tree.ofJson (deepBody n)).compile accepts o = .ok ⟨deepBody n, .empty⟩ :=
    Tree.compile_ofJson_of_height_le (isObject_ofJson_deepBody n) hheight
  have hbody : compiledAlone accepts o (deepResponse n).body = .ok (some (deepBody n), .empty) :=
    congrArg (Except.map _) hcompile
  have hrecords : bodyRecords (deepResponse n).body = [] :=
    congrArg (Tree.recordsAt .body) (Tree.placed_ofJson (deepBody n))
  have hheaders : HeadersAccepted accepts o [] := ⟨by simp, by simp⟩
  have hparts : ((deepResponse n).compileParts accepts o).run .empty =
      .ok (([], some (deepBody n)), .empty) := by
    refine run_compileParts_response_eq_ok_iff.mpr ⟨hheaders, .nil, ?_, ?_⟩
    · rw [hrecords]
      exact hbody
    · rw [hrecords]
      rfl
  exact compile_response_eq_ok_iff.mpr ⟨_, _, _, hparts, rfl⟩

theorem assembled_deepContract {n : Nat} (h : n ≤ 128) : Assembled accepts (deepContract n) := by
  have htree : (Interaction.Step.response (deepResponse n)).DeclaresTree := by
    rintro _ ⟨⟩
    exact ⟨_, rfl, Tree.canonical_ofJson _ (canonical_deepBody n), floatFree_ofJson_deepBody n⟩
  have hrun : Interaction.run accepts ((between "ui" "api").interaction "deep")
      [.response (deepResponse n)] =
        .ok { description := "deep", response := { body := some (deepBody n) } } := by
    have hoptions : ((between "ui" "api").interaction "deep").options = {} := rfl
    rw [Interaction.run, Interaction.step, hoptions, compile_deepResponse h]
    rfl
  exact .add (.between "ui" "api") (List.forall_mem_singleton.mpr htree) hrun rfl

theorem reload_deepContract :
    Assembled (fun _ => true) (deepContract 122) ∧
      (deepContract 122).reload = .ok (deepContract 122) := by
  have h : Assembled (fun _ => true) (deepContract 122) := assembled_deepContract (by decide)
  refine ⟨h, (assembled_reloads_iff h).1.mpr ?_⟩
  simp [deepContract, Interaction.bodies, nesting_deepBody]

theorem deepContract_not_reloaded :
    Assembled (fun _ => true) (deepContract 123) ∧
      ¬ ∃ c, (deepContract 123).reload = .ok c := by
  have h : Assembled (fun _ => true) (deepContract 123) := assembled_deepContract (by decide)
  refine ⟨h, ?_⟩
  rintro ⟨c, hc⟩
  have hle := (h.exact.reload_eq_ok_iff.mp hc).1 _ List.mem_cons_self (deepBody 123)
    List.mem_cons_self
  rw [nesting_deepBody] at hle
  omega

end Contract

end ConsumerContract
