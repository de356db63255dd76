import ConsumerContract.Proofs.Contract.Reload
import ConsumerContract.Proofs.List

namespace ConsumerContract

namespace Contract

inductive Change where
  | add (i : Interaction)
  | reload

def orKeep {ε : Type} (c : Contract) : Except ε Contract → Contract
  | .ok c' => c'
  | .error _ => c

def change (c : Contract) : Change → Contract
  | .add i => c.orKeep (c.add i)
  | .reload => c.orKeep c.reload

def run (c : Contract) (changes : List Change) : Contract := changes.foldl change c

def attempted : List Change → List Interaction
  | [] => []
  | .add i :: rest => i :: attempted rest
  | .reload :: rest => attempted rest

def gained (c : Contract) : Change → List Interaction
  | .add i => if (c.add i).isOk then [i] else []
  | .reload => []

def accepted (c : Contract) : List Change → List Interaction
  | [] => []
  | ch :: rest => c.gained ch ++ accepted (c.change ch) rest

theorem any_identity_iff {c : Contract} {i : Interaction} :
    (c.interactions.any fun e => e.identity == i.identity) = true ↔ i.identity ∈ c.listing := by
  simp [listing]

theorem add_of_mem {c : Contract} {i : Interaction} (h : i.identity ∈ c.listing) :
    c.add i = .error (.duplicateInteraction i.description i.providerState) := by
  rw [add, if_pos (any_identity_iff.mpr h)]

theorem add_of_not_mem {c : Contract} {i : Interaction} (h : i.identity ∉ c.listing) :
    c.add i = .ok { c with interactions := c.interactions ++ [i] } := by
  rw [add, if_neg fun hany => h (any_identity_iff.mp hany)]

theorem add_eq_duplicate_iff {c : Contract} {i : Interaction} :
    c.add i = .error (.duplicateInteraction i.description i.providerState) ↔
      i.identity ∈ c.listing := by
  refine ⟨fun h => ?_, add_of_mem⟩
  by_contra hnew
  rw [add_of_not_mem hnew] at h
  cases h

theorem listing_change_reload (c : Contract) : (c.change .reload).listing = c.listing := by
  rw [change]
  cases h : c.reload with
  | ok c' => exact listing_of_reload h
  | error e => rfl

theorem listing_change_add (c : Contract) (i : Interaction) :
    (c.change (.add i)).listing =
      if i.identity ∈ c.listing then c.listing else c.listing ++ [i.identity] := by
  split
  · next h => rw [change, add_of_mem h, orKeep]
  · next h =>
      rw [change, add_of_not_mem h]
      exact List.map_append

theorem change_add_of_mem {c : Contract} {i : Interaction} (h : i.identity ∈ c.listing) :
    c.change (.add i) = c := by
  rw [change, add_of_mem h, orKeep]

theorem run_concat (c : Contract) (changes : List Change) (ch : Change) :
    c.run (changes ++ [ch]) = (c.run changes).change ch := by
  simp only [run, List.foldl_append, List.foldl_cons, List.foldl_nil]

theorem nodup_listing_change {c : Contract} (h : c.listing.Nodup) (ch : Change) :
    (c.change ch).listing.Nodup := by
  cases ch with
  | add i =>
      rw [listing_change_add]
      split
      · exact h
      · next hnew =>
          refine List.nodup_append.mpr ⟨h, List.nodup_singleton _, ?_⟩
          intro p hp q hq hpq
          rw [List.mem_singleton.mp hq] at hpq
          exact hnew (hpq ▸ hp)
  | reload => rwa [listing_change_reload]

theorem nodup_listing_run {c : Contract} (h : c.listing.Nodup) (changes : List Change) :
    (c.run changes).listing.Nodup := by
  induction changes generalizing c with
  | nil => exact h
  | cons ch rest ih => exact ih (nodup_listing_change h ch)

theorem listing_change (c : Contract) (ch : Change) :
    (c.change ch).listing = c.listing ++ (c.gained ch).map Interaction.identity := by
  cases ch with
  | add i =>
      rw [listing_change_add, gained]
      split
      · next h => simp [add_of_mem h, Except.isOk, Except.toBool]
      · next h => simp [add_of_not_mem h, Except.isOk, Except.toBool]
  | reload => rw [listing_change_reload, gained, List.map_nil, List.append_nil]

theorem listing_run (c : Contract) (changes : List Change) :
    (c.run changes).listing =
      c.listing ++ (c.accepted changes).map Interaction.identity := by
  induction changes generalizing c with
  | nil => exact (List.append_nil _).symm
  | cons ch rest ih =>
      have hrun : c.run (ch :: rest) = (c.change ch).run rest := rfl
      rw [hrun, ih, listing_change, accepted, List.map_append, List.append_assoc]

theorem attempted_append (a b : List Change) : attempted (a ++ b) = attempted a ++ attempted b := by
  induction a with
  | nil => rfl
  | cons ch rest ih => cases ch <;> simp [attempted, ih]

theorem listing_run_of_empty {c : Contract} (hc : c.interactions = []) (changes : List Change) :
    (c.run changes).listing = ((attempted changes).map Interaction.identity).eraseDups := by
  induction changes using List.reverseRecOn with
  | nil => simp [run, attempted, listing, hc]
  | append_singleton changes ch ih =>
      rw [run_concat, attempted_append, List.map_append]
      cases ch with
      | add i =>
          simp only [attempted, List.map_cons, List.map_nil, List.eraseDups_concat,
            listing_change_add, ih, List.mem_eraseDups]
      | reload =>
          simp only [attempted, List.map_nil, List.append_nil, listing_change_reload, ih]

theorem listing_run_ofConfig (config : Config) (changes : List Change) :
    ((ofConfig config).run changes).listing =
      ((ofConfig config).accepted changes).map Interaction.identity :=
  listing_run (ofConfig config) changes

theorem mem_listing_run_iff (config : Config) (changes : List Change)
    (p : String × Option String) :
    p ∈ ((ofConfig config).run changes).listing ↔
      p ∈ (attempted changes).map Interaction.identity := by
  rw [listing_run_of_empty rfl, List.mem_eraseDups]

theorem listing_follows_first_attempts (config : Config) (changes : List Change) :
    ((ofConfig config).run changes).listing.Nodup ∧
      (∀ i : Interaction,
        (((ofConfig config).run changes).add i =
            .error (.duplicateInteraction i.description i.providerState) ↔
          ∃ earlier ∈ (ofConfig config).accepted changes, earlier.identity = i.identity) ∧
        ∀ fault, ((ofConfig config).run changes).add i = .error fault →
          fault = .duplicateInteraction i.description i.providerState ∧
            (ofConfig config).run (changes ++ [.add i]) = (ofConfig config).run changes) ∧
      ((ofConfig config).run changes).listing =
        ((attempted changes).map Interaction.identity).eraseDups ∧
      ∀ changes' : List Change, (attempted changes').Perm (attempted changes) →
        ∀ p, p ∈ ((ofConfig config).accepted changes').map Interaction.identity ↔
          p ∈ ((ofConfig config).accepted changes).map Interaction.identity := by
  refine ⟨nodup_listing_run (c := ofConfig config) List.nodup_nil changes, fun i => ⟨?_, ?_⟩,
    listing_run_of_empty rfl changes, ?_⟩
  · rw [add_eq_duplicate_iff, listing_run_ofConfig, List.mem_map]
  · intro fault hfault
    have hmem : i.identity ∈ ((ofConfig config).run changes).listing := by
      by_contra hnew
      rw [add_of_not_mem hnew] at hfault
      cases hfault
    rw [add_of_mem hmem] at hfault
    refine ⟨(Except.error.inj hfault).symm, ?_⟩
    rw [run_concat, change_add_of_mem hmem]
  · intro changes' hperm p
    rw [← listing_run_ofConfig, ← listing_run_ofConfig, mem_listing_run_iff, mem_listing_run_iff]
    exact (hperm.map Interaction.identity).mem_iff

def orderChanges : List Change :=
  [.add { description := "order" }, .add { description := "order", providerState := some "" },
    .reload, .add { description := "order", request := { method := "POST" } },
    .add { description := "order", providerState := some "none" }, .reload,
    .add { description := "order", providerState := some "" }]

def orderConfig : Config := { consumer := "ui", provider := "api" }

theorem listing_orderChanges :
    ((ofConfig orderConfig).run orderChanges).listing =
        [("order", none), ("order", some ""), ("order", some "none")] ∧
      ((ofConfig orderConfig).run orderChanges).add { description := "order" } =
        .error (.duplicateInteraction "order" none) ∧
      (ofConfig orderConfig).run (orderChanges ++ [.add { description := "order" }]) =
        (ofConfig orderConfig).run orderChanges ∧
      ("order", some "") ∈
        ((ofConfig orderConfig).accepted orderChanges.reverse).map Interaction.identity := by
  obtain ⟨-, hadd, hlisting, hperm⟩ := listing_follows_first_attempts orderConfig orderChanges
  have hlisted : ((ofConfig orderConfig).run orderChanges).listing =
      [("order", none), ("order", some ""), ("order", some "none")] := by
    rw [hlisting]
    decide
  have haccepted : ∀ p ∈ [("order", none), ("order", some ""), ("order", some "none")],
      p ∈ ((ofConfig orderConfig).accepted orderChanges).map Interaction.identity := by
    rw [← listing_run_ofConfig, hlisted]
    exact fun _ hp => hp
  obtain ⟨hduplicate, hunchanged⟩ := hadd { description := "order" }
  have hrefused := hduplicate.mpr (List.mem_map.mp (haccepted ("order", none) (by decide)))
  have hreversed : (attempted orderChanges.reverse).Perm (attempted orderChanges) :=
    List.reverse_perm (attempted orderChanges)
  refine ⟨hlisted, hrefused, (hunchanged _ hrefused).2, ?_⟩
  exact (hperm _ hreversed _).mpr (haccepted _ (by decide))

end Contract

end ConsumerContract
