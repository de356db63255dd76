import ConsumerContract.Contract
import ConsumerContract.Proofs.List
import Mathlib.Data.List.Infix

/-!
Each part of an interaction is what the last step to give that part gives to a fresh interaction,
under the options in force at that step. A step that fails leaves the interaction as it was.
-/

namespace ConsumerContract

namespace Interaction

variable {α : Type}

def build (accepts : String → Bool) (i : Interaction) (steps : List Step) : Interaction :=
  steps.foldl (stepOrKeep accepts) i

def Step.description? : Step → Option String
  | .describe description => some description
  | _ => none

def Step.state? : Step → Option (Option String)
  | .given state => some (some state)
  | _ => none

def Step.options? : Step → Option Options
  | .options o => some o
  | _ => none

def inForce (o : Options) (steps : List Step) : Options :=
  (steps.filterMap Step.options?).getLast?.getD o

def underOptions (o : Options) (steps : List Step) : List (Options × Step) :=
  (steps.inits.zip steps).map fun e => (inForce o e.1, e.2)

def lastGiven (give? : Options → Step → Option α) (o : Options) (steps : List Step)
    (initial : α) : α :=
  ((underOptions o steps).filterMap fun e => give? e.1 e.2).getLast?.getD initial

def fresh (o : Options) : Interaction := { description := "", options := o }

def freshRequest? (accepts : String → Bool) (o : Options) (s : Step) : Option Request :=
  match s, (fresh o).step accepts s with
  | .request _, .ok i => some i.request
  | _, _ => none

def freshResponse? (accepts : String → Bool) (o : Options) (s : Step) : Option Response :=
  match s, (fresh o).step accepts s with
  | .response _, .ok i => some i.response
  | _, _ => none

structure BuiltFrom (accepts : String → Bool) (description : String) (o : Options)
    (steps : List Step) (i : Interaction) : Prop where
  description : i.description = lastGiven (fun _ s => s.description?) o steps description
  providerState : i.providerState = lastGiven (fun _ s => s.state?) o steps none
  options : i.options = inForce o steps
  request : i.request = lastGiven (freshRequest? accepts) o steps {}
  response : i.response = lastGiven (freshResponse? accepts) o steps {}
  faults : ∀ s f, i.step accepts s = .error f ↔ (fresh (inForce o steps)).step accepts s = .error f

variable {accepts : String → Bool}

theorem stepOrKeep_eq (i : Interaction) (s : Step) :
    i.stepOrKeep accepts s = {
      description := s.description?.getD i.description
      providerState := s.state?.getD i.providerState
      request := (freshRequest? accepts i.options s).getD i.request
      response := (freshResponse? accepts i.options s).getD i.response
      options := s.options?.getD i.options } := by
  cases s with
  | request r =>
      simp only [stepOrKeep, freshRequest?, step, fresh]
      cases r.compile accepts i.options <;> rfl
  | response r =>
      simp only [stepOrKeep, freshResponse?, step, fresh]
      cases r.compile accepts i.options <;> rfl
  | _ => rfl

theorem step_eq_error_iff (i : Interaction) (s : Step) (f : Fault) :
    i.step accepts s = .error f ↔ (fresh i.options).step accepts s = .error f := by
  cases s with
  | request r =>
      simp only [step, fresh]
      cases r.compile accepts i.options <;> simp [Except.map]
  | response r =>
      simp only [step, fresh]
      cases r.compile accepts i.options <;> simp [Except.map]
  | _ => exact ⟨nofun, nofun⟩

theorem inForce_cons (o : Options) (s : Step) (rest : List Step) :
    inForce o (s :: rest) = inForce (s.options?.getD o) rest :=
  List.getLast?_filterMap_cons Step.options? s rest o

theorem underOptions_cons (o : Options) (s : Step) (rest : List Step) :
    underOptions o (s :: rest) = (o, s) :: underOptions (s.options?.getD o) rest := by
  have hfirst : inForce o [] = o := rfl
  have hlater : ∀ e : List Step × Step,
      (inForce o (s :: e.1), e.2) = (inForce (s.options?.getD o) e.1, e.2) := by
    intro e
    rw [inForce_cons]
  simp only [underOptions, List.inits_cons, List.zip_cons_cons, List.map_cons, List.zip_map_left,
    List.map_map, Function.comp_def, Prod.map_fst, Prod.map_snd, id_eq, hfirst, hlater]

theorem lastGiven_cons (give? : Options → Step → Option α) (o : Options) (s : Step)
    (rest : List Step) (initial : α) :
    lastGiven give? o (s :: rest) initial =
      lastGiven give? (s.options?.getD o) rest ((give? o s).getD initial) := by
  rw [lastGiven, underOptions_cons, List.getLast?_filterMap_cons, lastGiven]

theorem build_cons (i : Interaction) (s : Step) (rest : List Step) :
    i.build accepts (s :: rest) = (i.stepOrKeep accepts s).build accepts rest := rfl

theorem options_build (i : Interaction) (steps : List Step) :
    (i.build accepts steps).options = inForce i.options steps := by
  induction steps generalizing i with
  | nil => rfl
  | cons s rest ih => rw [build_cons, ih, stepOrKeep_eq, inForce_cons]

theorem build_lastGiven {part : Interaction → α} {give? : Options → Step → Option α}
    (hstep : ∀ i s, part (stepOrKeep accepts i s) = (give? i.options s).getD (part i))
    (i : Interaction) (steps : List Step) :
    part (i.build accepts steps) = lastGiven give? i.options steps (part i) := by
  induction steps generalizing i with
  | nil => rfl
  | cons s rest ih =>
      have hoptions : (stepOrKeep accepts i s).options = s.options?.getD i.options := by
        rw [stepOrKeep_eq]
      rw [build_cons, ih, hoptions, hstep, lastGiven_cons]

theorem builtFrom (i : Interaction) (hstate : i.providerState = none) (hrequest : i.request = {})
    (hresponse : i.response = {}) (steps : List Step) :
    BuiltFrom accepts i.description i.options steps (i.build accepts steps) := by
  refine ⟨?_, ?_, options_build i steps, ?_, ?_, fun s f => ?_⟩
  · exact build_lastGiven (fun i s => by rw [stepOrKeep_eq]) i steps
  · exact hstate ▸ build_lastGiven (fun i s => by rw [stepOrKeep_eq]) i steps
  · exact hrequest ▸ build_lastGiven (fun i s => by rw [stepOrKeep_eq]) i steps
  · exact hresponse ▸ build_lastGiven (fun i s => by rw [stepOrKeep_eq]) i steps
  · rw [step_eq_error_iff, options_build]

theorem nothing_left_of_earlier_steps (accepts : String → Bool) (description : String)
    (steps : List Step) :
    BuiltFrom accepts description {} steps (build accepts { description } steps) ∧
      ∀ c : Contract, BuiltFrom accepts description c.options steps
        ((c.interaction description).build accepts steps) :=
  ⟨builtFrom { description } rfl rfl rfl steps,
    fun c => builtFrom (c.interaction description) rfl rfl rfl steps⟩

end Interaction

end ConsumerContract
