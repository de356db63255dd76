import ConsumerContract.Proofs.KeyMap
import ConsumerContract.Record.Reader
import Mathlib.Data.List.Pairwise

namespace ConsumerContract

variable {ρ α β : Type}

def Field.Commutes (f g : Field ρ) : Prop :=
  ∀ source d d' r r₂,
    (∃ r₁, f.fill source d r = .ok r₁ ∧ g.fill source d' r₁ = .ok r₂) ↔
      ∃ r₁, g.fill source d' r = .ok r₁ ∧ f.fill source d r₁ = .ok r₂

instance : Std.Symm (@Field.Commutes ρ) where
  symm _ _ h source d d' r r₂ := (h source d' d r r₂).symm

theorem Field.fill_of_eq_ok_iff {name : String} {required : Bool} {reader : Reader α}
    {put : α → ρ → ρ} {source : Source} {d : Draft} {r r' : ρ} :
    (Field.of name required reader put).fill source d r = .ok r' ↔
      ∃ a, reader source d = .ok a ∧ put a r = r' := by
  simp only [Field.of]
  cases reader source d <;> simp [Except.map]

@[simp] theorem Field.commutes_of {name name' : String} {required required' : Bool}
    {reader : Reader α}
    {reader' : Reader β} {put : α → ρ → ρ} {put' : β → ρ → ρ}
    (h : ∀ a b r, put' b (put a r) = put a (put' b r)) :
    (Field.of name required reader put).Commutes (Field.of name' required' reader' put') := by
  intro source d d' r r₂
  constructor
  · rintro ⟨r₁, hf, hg⟩
    obtain ⟨a, ha, rfl⟩ := Field.fill_of_eq_ok_iff.mp hf
    obtain ⟨b, hb, rfl⟩ := Field.fill_of_eq_ok_iff.mp hg
    exact ⟨put' b r, Field.fill_of_eq_ok_iff.mpr ⟨b, hb, rfl⟩,
      Field.fill_of_eq_ok_iff.mpr ⟨a, ha, (h a b r).symm⟩⟩
  · rintro ⟨r₁, hg, hf⟩
    obtain ⟨b, hb, rfl⟩ := Field.fill_of_eq_ok_iff.mp hg
    obtain ⟨a, ha, rfl⟩ := Field.fill_of_eq_ok_iff.mp hf
    exact ⟨put a r, Field.fill_of_eq_ok_iff.mpr ⟨a, ha, rfl⟩,
      Field.fill_of_eq_ok_iff.mpr ⟨b, hb, h a b r⟩⟩

def Field.Preserves (P : ρ → Prop) (f : Field ρ) : Prop :=
  ∀ source d r r', P r → f.fill source d r = .ok r' → P r'

theorem Field.preserves_of {P : ρ → Prop} {Q : α → Prop} {name : String} {required : Bool}
    {reader : Reader α} {put : α → ρ → ρ}
    (hread : ∀ source d a, reader source d = .ok a → Q a)
    (hput : ∀ a r, Q a → P r → P (put a r)) :
    (Field.of name required reader put).Preserves P := by
  intro source d r r' hr hfill
  obtain ⟨a, ha, rfl⟩ := Field.fill_of_eq_ok_iff.mp hfill
  exact hput a r (hread source d a ha) hr

theorem Field.preserves_aside {P : ρ → Prop} {name : String} {required : Bool}
    {reader : Reader α} {put : α → ρ → ρ} (hput : ∀ a r, P r → P (put a r)) :
    (Field.of name required reader put).Preserves P :=
  Field.preserves_of (fun _ _ _ _ => trivial) fun a r (_ : True) => hput a r

namespace Schema

structure Lawful (schema : Schema ρ) : Prop where
  names : (schema.fields.map Field.name).Nodup
  commute : schema.fields.Pairwise Field.Commutes

def fillAll (fields : List (Field ρ)) (source : Source) :
    List (String × Draft) → ρ → Except ReadFault ρ
  | [], r => .ok r
  | (k, d) :: rest, r =>
      match fields.find? (·.name == k) with
      | none => fillAll fields source rest r
      | some f => do fillAll fields source rest (← f.fill source d r)

abbrev Members := List (String × Option Draft)

def present (members : List (String × Option α)) : List (String × α) :=
  members.filterMap fun m => m.2.map fun a => (m.1, a)

def fillMembers (source : Source) : List (Field ρ) → Members → ρ → Except ReadFault ρ
  | f :: fields, (_, some d) :: members, r => do
      fillMembers source fields members (← f.fill source d r)
  | _ :: fields, (_, none) :: members, r => fillMembers source fields members r
  | _, _, r => .ok r

variable {fields : List (Field ρ)} {source : Source}

theorem fillEntries_eq {entries : List (String × Draft)} (hnodup : (entries.map Prod.fst).Nodup) :
    ∀ {seen : List String} {r : ρ}, (∀ e ∈ entries, e.1 ∉ seen) →
      ∃ seen', fillEntries fields source (entries.map fun e => (some e.1, e.2)) seen r =
          (fillAll fields source entries r).map (Prod.mk seen') ∧
        ∀ f ∈ fields, f.name ∈ seen' ↔ f.name ∈ seen ∨ f.name ∈ entries.map Prod.fst := by
  induction entries with
  | nil =>
      intro seen r _
      exact ⟨seen, rfl, by simp⟩
  | cons e rest ih =>
      obtain ⟨k, d⟩ := e
      intro seen r hnew
      obtain ⟨hk, hrest⟩ := List.nodup_cons.mp hnodup
      have hkseen : k ∉ seen := hnew (k, d) List.mem_cons_self
      have hlater : ∀ e ∈ rest, e.1 ∉ seen := fun e he => hnew e (List.mem_cons_of_mem _ he)
      simp only [List.map_cons, fillEntries, fillAll]
      cases hfind : fields.find? (·.name == k) with
      | none =>
          obtain ⟨seen', heq, hseen'⟩ := ih hrest (r := r) hlater
          refine ⟨seen', heq, fun f hf => ?_⟩
          have hother : f.name ≠ k := by
            have := List.find?_eq_none.mp hfind f hf
            simpa using this
          simp [hseen' f hf, hother]
      | some f =>
          have hnext : ∀ e ∈ rest, e.1 ∉ k :: seen := by
            intro e he hmem
            rcases List.mem_cons.mp hmem with hek | hmem
            · exact hk (List.mem_map.mpr ⟨e, he, hek⟩)
            · exact hlater e he hmem
          simp only [List.contains_eq_mem, hkseen, decide_false, Bool.false_eq_true, if_false]
          cases hfill : f.fill source d r with
          | error x =>
              obtain ⟨seen', -, hseen'⟩ := ih hrest (r := r) hnext
              refine ⟨seen', rfl, fun g hg => ?_⟩
              simp [hseen' g hg, or_assoc, or_left_comm]
          | ok r₁ =>
              obtain ⟨seen', heq, hseen'⟩ := ih hrest (r := r₁) hnext
              refine ⟨seen', heq, fun g hg => ?_⟩
              simp [hseen' g hg, or_assoc, or_left_comm]

theorem commutes_of_find? (hcommute : fields.Pairwise Field.Commutes) {k l : String} (hkl : k ≠ l)
    {f g : Field ρ} (hf : fields.find? (·.name == k) = some f)
    (hg : fields.find? (·.name == l) = some g) : f.Commutes g := by
  have hfk : f.name = k := by simpa using List.find?_some hf
  have hgl : g.name = l := by simpa using List.find?_some hg
  have hne : f ≠ g := by
    rintro rfl
    exact hkl (hfk.symm.trans hgl)
  exact hcommute.forall (List.mem_of_find?_eq_some hf) (List.mem_of_find?_eq_some hg) hne

theorem ok_of_fill_bind {f : Field ρ} {d : Draft} {k : ρ → Except ReadFault β} {r : ρ} {b : β}
    (h : (f.fill source d r >>= k) = .ok b) : ∃ r₁, f.fill source d r = .ok r₁ ∧ k r₁ = .ok b := by
  cases hf : f.fill source d r with
  | error e =>
      rw [hf] at h
      cases h
  | ok r₁ =>
      rw [hf] at h
      exact ⟨r₁, rfl, h⟩

theorem fillAll_swap (hcommute : fields.Pairwise Field.Commutes) {k l : String} (hkl : k ≠ l)
    {d d' : Draft} {rest : List (String × Draft)} {r r' : ρ}
    (h : fillAll fields source ((k, d) :: (l, d') :: rest) r = .ok r') :
    fillAll fields source ((l, d') :: (k, d) :: rest) r = .ok r' := by
  simp only [fillAll] at h ⊢
  cases hk : fields.find? (·.name == k) with
  | none => simpa only [hk] using h
  | some f =>
      cases hl : fields.find? (·.name == l) with
      | none => simpa only [hk, hl] using h
      | some g =>
          simp only [hk, hl] at h ⊢
          obtain ⟨r₁, hf, h⟩ := ok_of_fill_bind h
          obtain ⟨r₂, hg, h⟩ := ok_of_fill_bind h
          obtain ⟨r₁', hg', hf'⟩ :=
            (commutes_of_find? hcommute hkl hk hl source d d' r r₂).mp ⟨r₁, hf, hg⟩
          simp only [hg', hf', h, bind, Except.bind]

theorem fillAll_perm (hcommute : fields.Pairwise Field.Commutes)
    {entries entries' : List (String × Draft)} (h : entries.Perm entries') :
    (entries.map Prod.fst).Nodup → ∀ {r r' : ρ}, fillAll fields source entries r = .ok r' →
      fillAll fields source entries' r = .ok r' := by
  induction h with
  | nil => exact fun _ _ _ hr => hr
  | cons e h ih =>
      obtain ⟨k, d⟩ := e
      intro hnodup r r' hr
      have hrest := (List.nodup_cons.mp hnodup).2
      simp only [fillAll] at hr ⊢
      cases hfind : fields.find? (·.name == k) with
      | none =>
          simp only [hfind] at hr
          exact ih hrest hr
      | some f =>
          simp only [hfind] at hr
          obtain ⟨r₁, hf, hr⟩ := ok_of_fill_bind hr
          simp only [hf, ih hrest hr, bind, Except.bind]
  | swap e e' rest =>
      intro hnodup r r' hr
      have hne : e'.1 ≠ e.1 := by
        have := (List.nodup_cons.mp hnodup).1
        simp only [List.map_cons, List.mem_cons, not_or] at this
        exact this.1
      exact fillAll_swap hcommute hne hr
  | trans h h' ih ih' =>
      intro hnodup r r' hr
      exact ih' ((h.map Prod.fst).nodup_iff.mp hnodup) (ih hnodup hr)

theorem map_fst_present_sublist (members : List (String × Option α)) :
    ((present members).map Prod.fst).Sublist (members.map Prod.fst) := by
  induction members with
  | nil => exact .slnil
  | cons m rest ih =>
      obtain ⟨k, a?⟩ := m
      cases a? with
      | none => exact ih.cons k
      | some a => exact ih.cons_cons k

theorem get?_present {members : List (String × Option α)} (h : (members.map Prod.fst).Nodup)
    (k : String) : Entries.get? k (present members) = (Entries.get? k members).join := by
  induction members with
  | nil => rfl
  | cons m rest ih =>
      obtain ⟨l, a?⟩ := m
      obtain ⟨hl, hrest⟩ := List.nodup_cons.mp h
      have hlater := ih hrest
      have hfirst : l ∉ (present rest).map Prod.fst := fun hmem =>
        hl ((map_fst_present_sublist rest).mem hmem)
      cases a? with
      | some a =>
          have hpresent : present ((l, some a) :: rest) = (l, a) :: present rest := rfl
          rw [hpresent, Entries.get?, Entries.get?, hlater]
          split <;> rfl
      | none =>
          have hpresent : present ((l, none) :: rest) = present rest := rfl
          rw [hpresent, Entries.get?]
          split
          · next hk =>
              subst hk
              refine Option.eq_none_iff_forall_ne_some.mpr fun a ha => hfirst ?_
              exact List.mem_map.mpr ⟨_, Entries.mem_of_get? ha, rfl⟩
          · exact hlater

theorem present_map (f : α → β) (members : List (String × Option α)) :
    present (members.map fun m => (m.1, m.2.map f)) =
      (present members).map fun e => (e.1, f e.2) := by
  simp only [present, List.map_filterMap, List.filterMap_map, Option.map_map, Function.comp_def]

theorem fillAll_present {all : List (Field ρ)} {members : Members} :
    ∀ {fields : List (Field ρ)}, fields.map Field.name = members.map Prod.fst →
      (∀ f ∈ fields, all.find? (·.name == f.name) = some f) → ∀ r : ρ,
        fillAll all source (present members) r = fillMembers source fields members r := by
  induction members with
  | nil =>
      intro fields hnames _ r
      cases List.map_eq_nil_iff.mp hnames
      rfl
  | cons m rest ih =>
      obtain ⟨k, d?⟩ := m
      intro fields hnames hfind r
      obtain ⟨f, fields, rfl, hk, hrest⟩ := List.map_eq_cons_iff.mp hnames
      obtain ⟨hf, hfind⟩ := List.forall_mem_cons.mp hfind
      have hlater := ih hrest hfind
      cases d? with
      | none => exact hlater r
      | some d =>
          have hk' : all.find? (·.name == k) = some f := by rw [← hf, hk]
          have hpresent : present ((k, some d) :: rest) = (k, d) :: present rest := rfl
          rw [hpresent]
          simp only [fillAll, hk', fillMembers]
          cases f.fill source d r with
          | error e => rfl
          | ok r₁ => exact hlater r₁

theorem fillAll_present_some {all : List (Field ρ)} {k : String} {required : Bool}
    {reader : Reader α} {put : α → ρ → ρ} {r : ρ}
    (hfield : all.find? (·.name == k) = some (.of k required reader put)) (d : Draft)
    (members : Members) :
    fillAll all source (present ((k, some d) :: members)) r =
      reader source d >>= fun a => fillAll all source (present members) (put a r) := by
  have hpresent : present ((k, some d) :: members) = (k, d) :: present members := rfl
  simp only [hpresent, fillAll, hfield, Field.of]
  cases reader source d <;> rfl

theorem firstMissing_eq_none_iff {seen : List String} :
    firstMissing fields seen = none ↔ ∀ f ∈ fields, f.required = true → f.name ∈ seen := by
  simp [firstMissing]

theorem find?_name_eq_some {f : Field ρ} (hnames : (fields.map Field.name).Nodup)
    (hf : f ∈ fields) : fields.find? (·.name == f.name) = some f := by
  induction fields with
  | nil => exact absurd hf List.not_mem_nil
  | cons g rest ih =>
      obtain ⟨hg, hrest⟩ := List.nodup_cons.mp hnames
      rcases List.mem_cons.mp hf with rfl | hf
      · simp
      · have hne : g.name ≠ f.name := fun he => hg (List.mem_map.mpr ⟨f, hf, he.symm⟩)
        rw [List.find?_cons_of_neg (by simpa using hne)]
        exact ih hrest hf

theorem read_entries {schema : Schema ρ} {inner : Source} (henter : source.enter? = some inner)
    {entries : List (String × Draft)} (hnodup : (entries.map Prod.fst).Nodup)
    (hrequired : ∀ f ∈ schema.fields, f.required = true → f.name ∈ entries.map Prod.fst) :
    schema.read source (.object (entries.map fun e => (some e.1, e.2)) true) =
      fillAll schema.fields inner entries schema.blank := by
  obtain ⟨seen, hfill, hseen⟩ := @fillEntries_eq _ schema.fields inner _ hnodup []
    schema.blank fun e _ => List.not_mem_nil
  have hmissing : firstMissing schema.fields seen = none :=
    firstMissing_eq_none_iff.mpr fun f hf hreq => (hseen f hf).mpr (Or.inr (hrequired f hf hreq))
  have hsource : source.enter = .ok inner := by rw [Source.enter, henter]
  simp only [read, hsource, hfill, bind, Except.bind]
  cases fillAll schema.fields inner entries schema.blank with
  | error e => simp [Except.map]
  | ok r₁ => simp [Except.map, hmissing]

theorem read_members {schema : Schema ρ} (hlawful : schema.Lawful) {inner : Source}
    (henter : source.enter? = some inner) {members : Members}
    (hnames : schema.fields.map Field.name = members.map Prod.fst)
    (hrequired : ∀ f ∈ schema.fields, f.required = true → ∃ d, (f.name, some d) ∈ members)
    {entries : List (String × Draft)} (hperm : entries.Perm (present members)) {r : ρ} :
    schema.read source (.object (entries.map fun e => (some e.1, e.2)) true) = .ok r ↔
      fillMembers inner schema.fields members schema.blank = .ok r := by
  have hpresent : ((present members).map Prod.fst).Nodup :=
    (hnames ▸ hlawful.names).sublist (map_fst_present_sublist members)
  have hentries : (entries.map Prod.fst).Nodup := (hperm.map Prod.fst).nodup_iff.mpr hpresent
  have hnamed : ∀ f ∈ schema.fields, f.required = true → f.name ∈ entries.map Prod.fst := by
    intro f hf hreq
    obtain ⟨d, hd⟩ := hrequired f hf hreq
    refine (hperm.map Prod.fst).mem_iff.mpr (List.mem_map.mpr ⟨(f.name, d), ?_, rfl⟩)
    exact List.mem_filterMap.mpr ⟨_, hd, rfl⟩
  rw [read_entries henter hentries hnamed,
    ← fillAll_present hnames fun f hf => find?_name_eq_some hlawful.names hf]
  exact ⟨fillAll_perm hlawful.commute hperm hentries,
    fillAll_perm hlawful.commute hperm.symm hpresent⟩

theorem fillEntries_preserves {P : ρ → Prop} (hfields : ∀ f ∈ fields, f.Preserves P)
    {entries : List (Option String × Draft)} :
    ∀ {seen : List String} {r : ρ} {last : List String × ρ}, P r →
      fillEntries fields source entries seen r = .ok last → P last.2 := by
  induction entries with
  | nil =>
      intro seen r last hr h
      cases h
      exact hr
  | cons e rest ih =>
      obtain ⟨k?, d⟩ := e
      intro seen r last hr h
      cases k? with
      | none => cases h
      | some k =>
          simp only [fillEntries] at h
          split at h
          · exact ih hr h
          · next f hfind =>
              split at h
              · cases h
              · split at h
                · next r₁ hfill =>
                    have hf := hfields f (List.mem_of_find?_eq_some hfind)
                    exact ih (hf source d r r₁ hr hfill) h
                · cases h

theorem fillItems_preserves {schema : Schema ρ} {P : ρ → Prop} {closed : Bool} :
    ∀ {fields : List (Field ρ)}, (∀ f ∈ fields, f.Preserves P) →
      ∀ {items : List Draft} {r : ρ} {i : Nat} {last : ρ × List Draft}, P r →
        schema.fillItems source fields items r i closed = .ok last → P last.1 := by
  intro fields
  induction fields with
  | nil =>
      intro _ items r i last hr h
      cases h
      exact hr
  | cons f fields ih =>
      intro hfields items r i last hr h
      obtain ⟨hf, hfields⟩ := List.forall_mem_cons.mp hfields
      cases items with
      | nil =>
          simp only [fillItems] at h
          split at h
          · cases h
          · split at h
            · cases h
            · exact ih hfields hr h
      | cons d items =>
          simp only [fillItems] at h
          split at h
          · next r₁ hfill => exact ih hfields (hf source d r r₁ hr hfill) h
          · cases h

theorem read_preserves (P : ρ → Prop) {schema : Schema ρ} (hblank : P schema.blank)
    (hfields : ∀ f ∈ schema.fields, f.Preserves P) {d : Draft} {r : ρ}
    (h : schema.read source d = .ok r) : P r := by
  cases d with
  | object entries closed =>
      simp only [read, bind, Except.bind] at h
      split at h
      · cases h
      · split at h
        · cases h
        · next hfill =>
            have := fillEntries_preserves hfields hblank hfill
            split at h
            · cases h
            · split at h
              · cases h
              · cases h
                exact this
  | array items closed =>
      simp only [read, bind, Except.bind] at h
      split at h
      · cases h
      · split at h
        · cases h
        · next hfill =>
            have := fillItems_preserves hfields hblank hfill
            split at h
            · rw [Reader.closing] at h
              split at h
              · cases h
                exact this
              · cases h
            · cases h
            · cases h
  | _ => cases h

end Schema

end ConsumerContract
