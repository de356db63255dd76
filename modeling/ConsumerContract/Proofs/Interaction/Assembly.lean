import ConsumerContract.Interaction.Basic
import ConsumerContract.Proofs.Compile.Reference
import ConsumerContract.Proofs.Interaction.Wrapped
import ConsumerContract.Proofs.Tree.Canonical
import Mathlib.Data.List.Forall2

/-!
A request or a response is accepted if its path, its headers and its body are, each on its own, and
its table holds the rules of each of these beside those of the others.
-/

namespace ConsumerContract

namespace Selector

theorem text_path : path.text = "$.path" := by decide

theorem text_header (name : String) : (header name).text = "$.headers." ++ Text.uppercase name := by
  rw [← String.toList_inj, text, String.toList_ofList, String.toList_append]
  exact List.append_nil _

theorem text_header_eq_iff {a b : String} :
    (header a).text = (header b).text ↔ Text.uppercase a = Text.uppercase b := by
  rw [text_header, text_header, String.append_right_inj]

theorem text_ne_of_root {a b : Selector} (ha : a.root ≠ .document) (hb : b.root ≠ .document)
    (h : a.root.chars[2]? ≠ b.root.chars[2]?) : a.text ≠ b.text := by
  -- selectors in a path, in headers and in a body are told apart by their third character
  have hthird : ∀ s : Selector, s.root ≠ .document → s.text.toList[2]? = s.root.chars[2]? := by
    intro s hs
    have hlong : 2 < s.root.chars.length := by
      cases hroot : s.root with
      | document => exact absurd hroot hs
      | _ => simp [Root.chars]
    rw [text, String.toList_ofList, chars, List.getElem?_append_left hlong]
  intro htext
  rw [← hthird a ha, ← hthird b hb, htext] at h
  exact h rfl

end Selector

theorem Tree.root_of_mem_recordsAt {place : Selector} {ps : List Placed} {x : Selector × Rule}
    (hx : x ∈ recordsAt place ps) : x.1.root = place.root := by
  obtain ⟨p, -, rfl⟩ := List.mem_map.mp hx
  rfl

variable {accepts : String → Bool} {o : Options} {rules rules' : RuleTable}

structure HeadersAccepted (accepts : String → Bool) (o : Options)
    (headers : List (String × Tree)) : Prop where
  names : (headers.map fun h => Text.uppercase h.1).Nodup
  values : ∀ h ∈ headers, h.2.IsText accepts o

def Unwraps (headers : List (String × Tree)) (texts : List (String × String)) : Prop :=
  List.Forall₂ (fun h e => h.1 = e.1 ∧ h.2.unwrapped = .string e.2) headers texts

def headerRules (headers : List (String × Tree)) : List (String × Rule) :=
  headers.flatMap fun h =>
    h.2.outermostRule?.toList.map fun r => ("$.headers." ++ Text.uppercase h.1, r)

def headerRecords (headers : List (String × Tree)) : Records :=
  headers.flatMap fun h => Tree.recordsAt (.header h.1) h.2.placed

theorem root_of_mem_headerRecords {headers : List (String × Tree)} {x : Selector × Rule}
    (hx : x ∈ headerRecords headers) : ∃ name, x.1.root = .header name := by
  obtain ⟨h, -, hx⟩ := List.mem_flatMap.mp hx
  exact ⟨h.1, Tree.root_of_mem_recordsAt hx⟩

theorem sameHeader?_eq_none_iff {earlier : List String} {name : String} :
    sameHeader? earlier name = none ↔ ∀ e ∈ earlier, Text.uppercase e ≠ Text.uppercase name := by
  simp [sameHeader?]

theorem headersAccepted_cons_iff {name : String} {t : Tree} {rest : List (String × Tree)} :
    HeadersAccepted accepts o ((name, t) :: rest) ↔
      t.IsText accepts o ∧ (∀ h ∈ rest, Text.uppercase name ≠ Text.uppercase h.1) ∧
        HeadersAccepted accepts o rest := by
  constructor
  · rintro ⟨hnames, hvalues⟩
    obtain ⟨hname, hnames⟩ := List.nodup_cons.mp hnames
    obtain ⟨ht, hvalues⟩ := List.forall_mem_cons.mp hvalues
    exact ⟨ht, fun h hh he => hname (List.mem_map.mpr ⟨h, hh, he.symm⟩), hnames, hvalues⟩
  · rintro ⟨ht, hname, hnames, hvalues⟩
    refine ⟨List.nodup_cons.mpr ⟨?_, hnames⟩, List.forall_mem_cons.mpr ⟨ht, hvalues⟩⟩
    intro hmem
    obtain ⟨h, hh, he⟩ := List.mem_map.mp hmem
    exact hname h hh he.symm

theorem run_compileHeaders_eq_ok_iff {headers : List (String × Tree)} :
    ∀ {earlier values rules rules'},
      (compileHeaders accepts o earlier headers).run rules = .ok (values, rules') ↔
        (∀ h ∈ headers, ∀ e ∈ earlier, Text.uppercase e ≠ Text.uppercase h.1) ∧
          HeadersAccepted accepts o headers ∧ Unwraps headers values ∧
          (headerRecords headers).enter rules = rules' := by
  induction headers with
  | nil =>
      intro earlier values rules rules'
      rw [compileHeaders, Compiling.run_pure_eq_ok_iff]
      constructor
      · rintro ⟨rfl, rfl⟩
        exact ⟨by simp, ⟨List.nodup_nil, by simp⟩, .nil, rfl⟩
      · rintro ⟨-, -, hvalues, rfl⟩
        cases hvalues
        exact ⟨rfl, rfl⟩
  | cons h rest ih =>
      obtain ⟨name, t⟩ := h
      intro earlier values rules rules'
      rw [compileHeaders, headersAccepted_cons_iff, List.forall_mem_cons]
      cases hsame : sameHeader? earlier name with
      | some first =>
          refine iff_of_false Compiling.run_throw_ne_ok ?_
          rintro ⟨⟨hnew, -⟩, -⟩
          rw [sameHeader?_eq_none_iff.mpr hnew] at hsame
          cases hsame
      | none =>
          have hnew := sameHeader?_eq_none_iff.mp hsame
          simp only [Compiling.run_bind_eq_ok_iff, Tree.run_compileString_eq_ok_iff, ih,
            Compiling.run_pure_eq_ok_iff, List.forall_mem_cons]
          -- the rest goes on from the name and the rules of this header
          constructor
          · rintro ⟨value, mid, ⟨ht, hvalue, rfl⟩, texts, last, ⟨hrest, haccepted, hunwraps, hlast⟩,
              rfl, rfl⟩
            refine ⟨⟨hnew, fun h hh => (hrest h hh).2⟩, ⟨ht, fun h hh => (hrest h hh).1, haccepted⟩,
              .cons ⟨rfl, hvalue⟩ hunwraps, ?_⟩
            rw [headerRecords, List.flatMap_cons, Records.enter_append]
            exact hlast
          · rintro ⟨⟨-, hrest⟩, ⟨ht, hname, haccepted⟩, hunwraps, hlast⟩
            cases hunwraps with
            | @cons _ e _ texts he htexts =>
                obtain ⟨hkey, hvalue⟩ := he
                rw [headerRecords, List.flatMap_cons, Records.enter_append] at hlast
                refine ⟨e.2, _, ⟨ht, hvalue, rfl⟩, texts, _, ⟨?_, haccepted, htexts, hlast⟩, ?_,
                  rfl⟩
                · exact fun h hh => ⟨hname h hh, hrest h hh⟩
                · exact congrArg (fun n => (n, e.2) :: texts) hkey

theorem entries_enter_headerRecords_perm {headers : List (String × Tree)}
    (h : HeadersAccepted accepts o headers) :
    ((headerRecords headers).enter .empty).entries.Perm (headerRules headers) := by
  induction headers with
  | nil => exact List.Perm.refl _
  | cons e rest ih =>
      obtain ⟨name, t⟩ := e
      obtain ⟨ht, hname, hrest⟩ := headersAccepted_cons_iff.mp h
      have hown := ht.entries_enter_perm (.header name)
      rw [Selector.text_header] at hown
      rw [headerRecords, List.flatMap_cons]
      refine (Records.entries_enter_append_perm ?_).trans (hown.append (ih hrest))
      intro x hx y hy
      rw [ht.recordsAt_placed] at hx
      obtain ⟨c, -, rfl⟩ := List.mem_map.mp hx
      obtain ⟨h', hh', hy⟩ := List.mem_flatMap.mp hy
      rw [(hrest.values h' hh').recordsAt_placed] at hy
      obtain ⟨c', -, rfl⟩ := List.mem_map.mp hy
      exact fun htext => hname h' hh' (Selector.text_header_eq_iff.mp htext)

theorem HeadersAccepted.exists_unwraps {headers : List (String × Tree)}
    (h : HeadersAccepted accepts o headers) : ∃ texts, Unwraps headers texts := by
  induction headers with
  | nil => exact ⟨[], .nil⟩
  | cons e rest ih =>
      obtain ⟨ht, -, hrest⟩ := headersAccepted_cons_iff.mp h
      obtain ⟨s, hs⟩ := ht.string
      obtain ⟨texts, htexts⟩ := ih hrest
      exact ⟨(e.1, s) :: texts, .cons ⟨rfl, hs⟩ htexts⟩

theorem map_fst_of_unwraps {headers : List (String × Tree)} {texts : List (String × String)}
    (h : Unwraps headers texts) : texts.map Prod.fst = headers.map Prod.fst := by
  induction h with
  | nil => rfl
  | cons he _ ih => rw [List.map_cons, List.map_cons, ih, he.1]

def BodyAccepted (accepts : String → Bool) (o : Options) (body : Option DeclaredBody) : Prop :=
  ∀ t, body = some (.tree t) → ∃ b, t.compile accepts o = .ok b

def compiledAlone (accepts : String → Bool) (o : Options) :
    Option DeclaredBody → Except Fault (Option Json × RuleTable)
  | none => .ok (none, .empty)
  | some (.text s) => .ok (some (DeclaredBody.ofText s), .empty)
  | some (.json v) => .ok (some v, .empty)
  | some (.tree t) => (t.compile accepts o).map fun b => (some b.body, b.matchingRules)

def bodyRecords : Option DeclaredBody → Records
  | some (.tree t) => Tree.recordsAt .body t.placed
  | _ => []

theorem root_of_mem_bodyRecords {body : Option DeclaredBody} {x : Selector × Rule}
    (hx : x ∈ bodyRecords body) : x.1.root = .body := by
  unfold bodyRecords at hx
  split at hx
  · exact Tree.root_of_mem_recordsAt hx
  · exact absurd hx List.not_mem_nil

theorem bodyAccepted_iff {body : Option DeclaredBody} :
    BodyAccepted accepts o body ↔
      ∃ v, compiledAlone accepts o body = .ok (v, (bodyRecords body).enter .empty) := by
  cases body with
  | none => simp [BodyAccepted, compiledAlone, bodyRecords, Records.enter]
  | some b =>
      cases b with
      | tree t =>
          constructor
          · intro h
            obtain ⟨b, hb⟩ := h t rfl
            refine ⟨some b.body, ?_⟩
            rw [compiledAlone, hb, Tree.eq_of_compile hb]
            rfl
          · rintro ⟨v, hv⟩ _ ⟨⟩
            obtain ⟨b, hb, -⟩ := Except.map_eq_ok_iff.mp hv
            exact ⟨b, hb⟩
      | _ => simp [BodyAccepted, compiledAlone, bodyRecords, Records.enter]

theorem run_compileBody_eq_ok_iff {t : Tree} {v : Json} :
    (t.compileBody accepts o).run rules = .ok (v, rules') ↔
      (∃ b, t.compile accepts o = .ok b ∧ b.body = v ∧
        b.matchingRules = (Tree.recordsAt .body t.placed).enter .empty) ∧
        (Tree.recordsAt .body t.placed).enter rules = rules' := by
  rw [Tree.compileBody]
  cases hobject : t.isObject with
  | false =>
      refine iff_of_false Compiling.run_throw_ne_ok ?_
      simp [Tree.compile_of_not_isObject hobject]
  | true =>
      rw [if_pos rfl, Tree.run_compileAt_eq_ok_iff]
      simp only [Tree.compile_eq_ok_iff, hobject, true_and]
      constructor
      · rintro ⟨hfault, hv, hrules⟩
        exact ⟨⟨_, ⟨hfault, rfl⟩, hv, rfl⟩, hrules⟩
      · rintro ⟨⟨_, ⟨hfault, rfl⟩, hv, -⟩, hrules⟩
        exact ⟨hfault, hv, hrules⟩

theorem run_compileBody?_eq_ok_iff {declared : Option DeclaredBody} {body : Option Json} :
    (compileBody? accepts o declared).run rules = .ok (body, rules') ↔
      compiledAlone accepts o declared = .ok (body, (bodyRecords declared).enter .empty) ∧
        (bodyRecords declared).enter rules = rules' := by
  cases declared with
  | none =>
      rw [compileBody?, Compiling.run_pure_eq_ok_iff]
      simp [compiledAlone, bodyRecords, Records.enter]
  | some b =>
      rw [compileBody?, Compiling.run_bind_eq_ok_iff]
      simp only [Compiling.run_pure_eq_ok_iff]
      cases b with
      | text s =>
          simp only [DeclaredBody.compile, Compiling.run_pure_eq_ok_iff]
          simp [compiledAlone, bodyRecords, Records.enter]
      | json v =>
          simp only [DeclaredBody.compile, Compiling.run_pure_eq_ok_iff]
          simp [compiledAlone, bodyRecords, Records.enter]
      | tree t =>
          simp only [DeclaredBody.compile, run_compileBody_eq_ok_iff, bodyRecords, compiledAlone]
          constructor
          · rintro ⟨v, mid, ⟨⟨b, hb, rfl, hrules⟩, rfl⟩, rfl, rfl⟩
            rw [hb, ← hrules]
            exact ⟨rfl, rfl⟩
          · rintro ⟨halone, rfl⟩
            obtain ⟨b, hb, hpair⟩ := Except.map_eq_ok_iff.mp halone
            obtain ⟨rfl, hrules⟩ := Prod.mk.inj hpair
            exact ⟨_, _, ⟨⟨b, hb, rfl, hrules⟩, rfl⟩, rfl, rfl⟩

def pathRules (path : Tree) : List (String × Rule) :=
  path.outermostRule?.toList.map fun r => ("$.path", r)

theorem entries_enter_headers_and_body_perm {headers : List (String × Tree)}
    (h : HeadersAccepted accepts o headers) (body : Option DeclaredBody) :
    (Records.enter (headerRecords headers ++ bodyRecords body) .empty).entries.Perm
      (headerRules headers ++ ((bodyRecords body).enter .empty).entries) := by
  refine (Records.entries_enter_append_perm ?_).trans
    ((entries_enter_headerRecords_perm h).append_right _)
  intro x hx y hy
  obtain ⟨name, hroot⟩ := root_of_mem_headerRecords hx
  refine Selector.text_ne_of_root ?_ ?_ ?_
  all_goals simp [hroot, root_of_mem_bodyRecords hy, Selector.Root.chars]

theorem entries_enter_parts_perm {path : Tree} {headers : List (String × Tree)}
    (hpath : path.IsText accepts o) (h : HeadersAccepted accepts o headers)
    (body : Option DeclaredBody) :
    (Records.enter (Tree.recordsAt .path path.placed ++ (headerRecords headers ++ bodyRecords body))
        .empty).entries.Perm
      (pathRules path ++ (headerRules headers ++ ((bodyRecords body).enter .empty).entries)) := by
  have hown := hpath.entries_enter_perm .path
  rw [Selector.text_path] at hown
  refine (Records.entries_enter_append_perm ?_).trans
    (hown.append (entries_enter_headers_and_body_perm h body))
  intro x hx y hy
  have hroot : x.1.root = .path := Tree.root_of_mem_recordsAt hx
  rcases List.mem_append.mp hy with hy | hy
  · obtain ⟨name, hroot'⟩ := root_of_mem_headerRecords hy
    refine Selector.text_ne_of_root ?_ ?_ ?_
    all_goals simp [hroot, hroot', Selector.Root.chars]
  · refine Selector.text_ne_of_root ?_ ?_ ?_
    all_goals simp [hroot, root_of_mem_bodyRecords hy, Selector.Root.chars]

theorem run_compileParts_request_eq_ok_iff {d : DeclaredRequest} {path : String}
    {texts : List (String × String)} {body : Option Json} :
    (d.compileParts accepts o).run .empty = .ok ((path, texts, body), rules) ↔
      d.path.IsText accepts o ∧ d.path.unwrapped = .string path ∧
        HeadersAccepted accepts o d.headers.entries ∧ Unwraps d.headers.entries texts ∧
        compiledAlone accepts o d.body = .ok (body, (bodyRecords d.body).enter .empty) ∧
        Records.enter (Tree.recordsAt .path d.path.placed ++
          (headerRecords d.headers.entries ++ bodyRecords d.body)) .empty = rules := by
  simp only [DeclaredRequest.compileParts, Compiling.run_bind_eq_ok_iff,
    Tree.run_compileString_eq_ok_iff, run_compileHeaders_eq_ok_iff, run_compileBody?_eq_ok_iff,
    Compiling.run_pure_eq_ok_iff, Records.enter_append]
  constructor
  · rintro ⟨_, _, ⟨hpath, hvalue, rfl⟩, _, _, ⟨-, hheaders, htexts, rfl⟩, _, _, ⟨hbody, rfl⟩,
      hparts, rfl⟩
    cases hparts
    exact ⟨hpath, hvalue, hheaders, htexts, hbody, rfl⟩
  · rintro ⟨hpath, hvalue, hheaders, htexts, hbody, rfl⟩
    exact ⟨_, _, ⟨hpath, hvalue, rfl⟩, _, _, ⟨by simp, hheaders, htexts, rfl⟩, _, _, ⟨hbody, rfl⟩,
      rfl, rfl⟩

theorem run_compileParts_response_eq_ok_iff {d : DeclaredResponse} {texts : List (String × String)}
    {body : Option Json} :
    (d.compileParts accepts o).run .empty = .ok ((texts, body), rules) ↔
      HeadersAccepted accepts o d.headers.entries ∧ Unwraps d.headers.entries texts ∧
        compiledAlone accepts o d.body = .ok (body, (bodyRecords d.body).enter .empty) ∧
        Records.enter (headerRecords d.headers.entries ++ bodyRecords d.body) .empty = rules := by
  simp only [DeclaredResponse.compileParts, Compiling.run_bind_eq_ok_iff,
    run_compileHeaders_eq_ok_iff, run_compileBody?_eq_ok_iff, Compiling.run_pure_eq_ok_iff,
    Records.enter_append]
  constructor
  · rintro ⟨_, _, ⟨-, hheaders, htexts, rfl⟩, _, _, ⟨hbody, rfl⟩, hparts, rfl⟩
    cases hparts
    exact ⟨hheaders, htexts, hbody, rfl⟩
  · rintro ⟨hheaders, htexts, hbody, rfl⟩
    exact ⟨_, _, ⟨by simp, hheaders, htexts, rfl⟩, _, _, ⟨hbody, rfl⟩, rfl, rfl⟩

theorem entries_ofList_of_unwraps {headers : KeyMap Tree} {texts : List (String × String)}
    (h : Unwraps headers.entries texts) : (KeyMap.ofList texts).entries = texts := by
  refine KeyMap.entries_ofList ?_
  rw [Tree.ascending_iff_map_fst, map_fst_of_unwraps h, ← Tree.ascending_iff_map_fst]
  exact headers.ascending

theorem compile_request_eq_ok_iff {d : DeclaredRequest} {request : Request} :
    d.compile accepts o = .ok request ↔
      ∃ path texts body matchingRules,
        (d.compileParts accepts o).run .empty = .ok ((path, texts, body), matchingRules) ∧
          request = { method := d.method, path, query := d.query, headers := .ofList texts, body,
                      matchingRules } := by
  constructor
  · intro h
    obtain ⟨⟨⟨path, texts, body⟩, matchingRules⟩, hparts, h⟩ := Except.bind_eq_ok_iff.mp h
    cases h
    exact ⟨path, texts, body, matchingRules, hparts, rfl⟩
  · rintro ⟨path, texts, body, matchingRules, hparts, rfl⟩
    rw [DeclaredRequest.compile, hparts]
    rfl

theorem compile_response_eq_ok_iff {d : DeclaredResponse} {response : Response} :
    d.compile accepts o = .ok response ↔
      ∃ texts body matchingRules,
        (d.compileParts accepts o).run .empty = .ok ((texts, body), matchingRules) ∧
          response = { status := d.status, headers := .ofList texts, body, matchingRules } := by
  constructor
  · intro h
    obtain ⟨⟨⟨texts, body⟩, matchingRules⟩, hparts, h⟩ := Except.bind_eq_ok_iff.mp h
    cases h
    exact ⟨texts, body, matchingRules, hparts, rfl⟩
  · rintro ⟨texts, body, matchingRules, hparts, rfl⟩
    rw [DeclaredResponse.compile, hparts]
    rfl

structure DeclaredRequest.Accepted (accepts : String → Bool) (o : Options) (d : DeclaredRequest) :
    Prop where
  path : d.path.IsText accepts o
  headers : HeadersAccepted accepts o d.headers.entries
  body : BodyAccepted accepts o d.body

/-- The table lists the rules of all parts, so that none takes the place of another. -/
structure DeclaredRequest.Gives (accepts : String → Bool) (o : Options) (d : DeclaredRequest)
    (request : Request) : Prop where
  method : request.method = d.method
  query : request.query = d.query
  path : d.path.unwrapped = .string request.path
  headers : Unwraps d.headers.entries request.headers.entries
  body : ∃ bodyRules, compiledAlone accepts o d.body = .ok (request.body, bodyRules) ∧
    request.matchingRules.entries.Perm
      (pathRules d.path ++ headerRules d.headers.entries ++ bodyRules.entries)

structure DeclaredResponse.Accepted (accepts : String → Bool) (o : Options) (d : DeclaredResponse) :
    Prop where
  headers : HeadersAccepted accepts o d.headers.entries
  body : BodyAccepted accepts o d.body

structure DeclaredResponse.Gives (accepts : String → Bool) (o : Options) (d : DeclaredResponse)
    (response : Response) : Prop where
  status : response.status = d.status
  headers : Unwraps d.headers.entries response.headers.entries
  body : ∃ bodyRules, compiledAlone accepts o d.body = .ok (response.body, bodyRules) ∧
    response.matchingRules.entries.Perm (headerRules d.headers.entries ++ bodyRules.entries)

theorem exists_compile_request_iff {d : DeclaredRequest} :
    (∃ request, d.compile accepts o = .ok request) ↔ d.Accepted accepts o := by
  simp only [compile_request_eq_ok_iff, run_compileParts_request_eq_ok_iff]
  constructor
  · rintro ⟨_, path, texts, body, _, ⟨hpath, -, hheaders, -, hbody, -⟩, -⟩
    exact ⟨hpath, hheaders, bodyAccepted_iff.mpr ⟨body, hbody⟩⟩
  · rintro ⟨hpath, hheaders, hbody⟩
    obtain ⟨path, hvalue⟩ := hpath.string
    obtain ⟨texts, htexts⟩ := hheaders.exists_unwraps
    obtain ⟨body, hbody⟩ := bodyAccepted_iff.mp hbody
    exact ⟨_, path, texts, body, _, ⟨hpath, hvalue, hheaders, htexts, hbody, rfl⟩, rfl⟩

theorem exists_compile_response_iff {d : DeclaredResponse} :
    (∃ response, d.compile accepts o = .ok response) ↔ d.Accepted accepts o := by
  simp only [compile_response_eq_ok_iff, run_compileParts_response_eq_ok_iff]
  constructor
  · rintro ⟨_, texts, body, _, ⟨hheaders, -, hbody, -⟩, -⟩
    exact ⟨hheaders, bodyAccepted_iff.mpr ⟨body, hbody⟩⟩
  · rintro ⟨hheaders, hbody⟩
    obtain ⟨texts, htexts⟩ := hheaders.exists_unwraps
    obtain ⟨body, hbody⟩ := bodyAccepted_iff.mp hbody
    exact ⟨_, texts, body, _, ⟨hheaders, htexts, hbody, rfl⟩, rfl⟩

theorem gives_of_compile_request {d : DeclaredRequest} {request : Request}
    (h : d.compile accepts o = .ok request) : d.Gives accepts o request := by
  obtain ⟨path, texts, body, _, hparts, rfl⟩ := compile_request_eq_ok_iff.mp h
  obtain ⟨hpath, hvalue, hheaders, htexts, hbody, rfl⟩ :=
    run_compileParts_request_eq_ok_iff.mp hparts
  refine ⟨rfl, rfl, hvalue, ?_, _, hbody, ?_⟩
  · exact (entries_ofList_of_unwraps htexts).symm ▸ htexts
  · rw [List.append_assoc]
    exact entries_enter_parts_perm hpath hheaders d.body

theorem gives_of_compile_response {d : DeclaredResponse} {response : Response}
    (h : d.compile accepts o = .ok response) : d.Gives accepts o response := by
  obtain ⟨texts, body, _, hparts, rfl⟩ := compile_response_eq_ok_iff.mp h
  obtain ⟨hheaders, htexts, hbody, rfl⟩ := run_compileParts_response_eq_ok_iff.mp hparts
  refine ⟨rfl, ?_, _, hbody, entries_enter_headers_and_body_perm hheaders d.body⟩
  exact (entries_ofList_of_unwraps htexts).symm ▸ htexts

namespace Interaction

theorem messages_assembled_from_their_parts (accepts : String → Bool) (i : Interaction) :
    (∀ d : DeclaredRequest,
      ((∃ i', i.step accepts (.request d) = .ok i') ↔ d.Accepted accepts i.options) ∧
        ∀ i', i.step accepts (.request d) = .ok i' →
          ∃ request, i' = { i with request } ∧ d.Gives accepts i.options request) ∧
      ∀ d : DeclaredResponse,
        ((∃ i', i.step accepts (.response d) = .ok i') ↔ d.Accepted accepts i.options) ∧
          ∀ i', i.step accepts (.response d) = .ok i' →
            ∃ response, i' = { i with response } ∧ d.Gives accepts i.options response := by
  have hmap : ∀ {α β : Type} (x : Except Fault α) (f : α → β),
      (∃ b, x.map f = .ok b) ↔ ∃ a, x = .ok a := by
    intro α β x f
    cases x <;> simp [Except.map]
  refine ⟨fun d => ⟨(hmap _ _).trans exists_compile_request_iff, ?_⟩,
    fun d => ⟨(hmap _ _).trans exists_compile_response_iff, ?_⟩⟩
  · intro i' hi'
    obtain ⟨request, hrequest, rfl⟩ := Except.map_eq_ok_iff.mp hi'
    exact ⟨request, rfl, gives_of_compile_request hrequest⟩
  · intro i' hi'
    obtain ⟨response, hresponse, rfl⟩ := Except.map_eq_ok_iff.mp hi'
    exact ⟨response, rfl, gives_of_compile_response hresponse⟩

def orderRequest : DeclaredRequest where
  path := .term "/orders/." (.string "/orders/7")
  headers := .ofList [("X-Id", .like (.term "." (.string "7")))]
  body := some (.tree (.object [("path", .like .null)]))

theorem step_orderRequest :
    ∃ i', ({ description := "an order" } : Interaction).step (fun _ => true)
        (.request orderRequest) = .ok i' ∧
      i'.request.path = "/orders/7" ∧
      i'.request.matchingRules.entries.Perm
        [("$.path", { kind := .regex, regex := some "/orders/." }),
          ("$.headers.X-ID", { kind := .type }), ("$.body.path", { kind := .type })] := by
  have h := (messages_assembled_from_their_parts (fun _ => true)
    { description := "an order" }).1 orderRequest
  have haccepted : orderRequest.Accepted (fun _ => true) {} := by
    refine ⟨⟨⟨_, rfl⟩, by decide, by decide, fun _ _ _ => rfl⟩, ⟨by decide, ?_⟩, ?_⟩
    · intro e he
      cases List.mem_singleton.mp he
      exact ⟨⟨_, rfl⟩, by decide, by decide, fun _ _ _ => rfl⟩
    · rintro _ ⟨⟩
      exact ⟨_, rfl⟩
  obtain ⟨i', hi'⟩ := h.1.mpr haccepted
  obtain ⟨request, rfl, hgives⟩ := h.2 i' hi'
  obtain ⟨bodyRules, hbody, hrules⟩ := hgives.body
  obtain ⟨-, rfl⟩ := Prod.mk.inj (Except.ok.inj hbody)
  have hlist : pathRules orderRequest.path ++ headerRules orderRequest.headers.entries ++
      [("$.body.path", { kind := .type })] =
        [("$.path", { kind := .regex, regex := some "/orders/." }),
          ("$.headers.X-ID", { kind := .type }), ("$.body.path", { kind := .type })] := by
    decide
  exact ⟨_, hi', (Tree.string.inj hgives.path).symm, hlist ▸ hrules⟩

end Interaction

end ConsumerContract
