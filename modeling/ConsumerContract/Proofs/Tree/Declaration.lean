import ConsumerContract.Compile
import ConsumerContract.Proofs.KeyMap

/-!
Two declarations are one tree, which is compiled in one way, just when all that they differ in is
the order of entries with different keys and entries that a later one replaces.
-/

namespace ConsumerContract

inductive Declaration where
  | null
  | bool (b : Bool)
  | number (n : Number)
  | string (s : String)
  | array (items : List Declaration)
  | object (entries : List (String × Declaration))
  | matcher (c : Criterion) (payload : Declaration)

namespace Declaration

@[induction_eliminator]
theorem induction {motive : Declaration → Prop} (null : motive .null)
    (bool : ∀ b, motive (.bool b)) (number : ∀ n, motive (.number n))
    (string : ∀ s, motive (.string s))
    (array : ∀ items, (∀ d ∈ items, motive d) → motive (.array items))
    (object : ∀ entries, (∀ e ∈ entries, motive e.2) → motive (.object entries))
    (matcher : ∀ c payload, motive payload → motive (.matcher c payload)) (d : Declaration) :
    motive d :=
  @Declaration.rec motive (fun items => ∀ d ∈ items, motive d)
    (fun entries => ∀ e ∈ entries, motive e.2) (fun e => motive e.2) null bool number string array
    object matcher
    (fun _ h => nomatch h) (fun _ _ head tail => List.forall_mem_cons.mpr ⟨head, tail⟩)
    (fun _ h => nomatch h) (fun _ _ head tail => List.forall_mem_cons.mpr ⟨head, tail⟩)
    (fun _ _ h => h) d

mutual

def tree : Declaration → Tree
  | .null => .null
  | .bool b => .bool b
  | .number n => .number n
  | .string s => .string s
  | .array items => .array (treeItems items)
  | .object entries => Tree.ofEntries (treeEntries entries)
  | .matcher c payload => .matcher c payload.tree

def treeItems : List Declaration → List Tree
  | [] => []
  | d :: rest => d.tree :: treeItems rest

def treeEntries : List (String × Declaration) → List (String × Tree)
  | [] => []
  | (k, d) :: rest => (k, d.tree) :: treeEntries rest

end

mutual

def ofTree : Tree → Declaration
  | .null => .null
  | .bool b => .bool b
  | .number n => .number n
  | .string s => .string s
  | .array items => .array (ofTreeItems items)
  | .object entries => .object (ofTreeEntries entries)
  | .matcher c payload => .matcher c (ofTree payload)

def ofTreeItems : List Tree → List Declaration
  | [] => []
  | t :: rest => ofTree t :: ofTreeItems rest

def ofTreeEntries : List (String × Tree) → List (String × Declaration)
  | [] => []
  | (k, t) :: rest => (k, ofTree t) :: ofTreeEntries rest

end

inductive Alike : Declaration → Declaration → Prop
  | refl (d : Declaration) : Alike d d
  | symm {a b : Declaration} (h : Alike a b) : Alike b a
  | trans {a b c : Declaration} (h : Alike a b) (h' : Alike b c) : Alike a c
  | swap {k l : String} (h : k ≠ l) (before : List (String × Declaration)) (a b : Declaration)
      (after : List (String × Declaration)) :
      Alike (.object (before ++ (k, a) :: (l, b) :: after))
        (.object (before ++ (l, b) :: (k, a) :: after))
  | replaced {k : String} {after : List (String × Declaration)} (h : k ∈ after.map Prod.fst)
      (before : List (String × Declaration)) (a : Declaration) :
      Alike (.object (before ++ (k, a) :: after)) (.object (before ++ after))
  | item {a b : Declaration} (before after : List Declaration) (h : Alike a b) :
      Alike (.array (before ++ a :: after)) (.array (before ++ b :: after))
  | entry {a b : Declaration} (before : List (String × Declaration)) (k : String)
      (after : List (String × Declaration)) (h : Alike a b) :
      Alike (.object (before ++ (k, a) :: after)) (.object (before ++ (k, b) :: after))
  | payload {a b : Declaration} (c : Criterion) (h : Alike a b) :
      Alike (.matcher c a) (.matcher c b)

theorem treeItems_eq_map (items : List Declaration) : treeItems items = items.map tree := by
  induction items with
  | nil => rfl
  | cons d rest ih => rw [treeItems, ih, List.map_cons]

theorem treeEntries_eq_map (entries : List (String × Declaration)) :
    treeEntries entries = entries.map fun e => (e.1, e.2.tree) := by
  induction entries with
  | nil => rfl
  | cons e rest ih => rw [treeEntries, ih, List.map_cons]

theorem Alike.tree_eq {a b : Declaration} (h : a.Alike b) : a.tree = b.tree := by
  induction h with
  | refl d => rfl
  | symm _ ih => exact ih.symm
  | trans _ _ ih ih' => exact ih.trans ih'
  | swap h before a b after =>
      simp only [tree, Tree.ofEntries, treeEntries_eq_map, List.map_append, List.map_cons,
        Entries.ofList_swap h]
  | @replaced k after h before a =>
      have hk : k ∈ (after.map fun e => (e.1, e.2.tree)).map Prod.fst := by
        rwa [List.map_map]
      simp only [tree, Tree.ofEntries, treeEntries_eq_map, List.map_append, List.map_cons,
        Entries.ofList_replaced hk]
  | item before after _ ih =>
      simp only [tree, treeItems_eq_map, List.map_append, List.map_cons, ih]
  | entry before k after _ ih =>
      simp only [tree, treeEntries_eq_map, List.map_append, List.map_cons, ih]
  | payload c _ ih => rw [tree, tree, ih]

theorem ofTreeItems_eq_map (items : List Tree) : ofTreeItems items = items.map ofTree := by
  induction items with
  | nil => rfl
  | cons t rest ih => rw [ofTreeItems, ih, List.map_cons]

theorem ofTreeEntries_eq_map (entries : List (String × Tree)) :
    ofTreeEntries entries = entries.map fun e => (e.1, ofTree e.2) := by
  induction entries with
  | nil => rfl
  | cons e rest ih => rw [ofTreeEntries, ih, List.map_cons]

theorem alike_items {items : List Declaration} {f : Declaration → Declaration}
    (h : ∀ d ∈ items, d.Alike (f d)) (before : List Declaration) :
    (array (before ++ items)).Alike (.array (before ++ items.map f)) := by
  induction items generalizing before with
  | nil => exact .refl _
  | cons d rest ih =>
      obtain ⟨hd, hrest⟩ := List.forall_mem_cons.mp h
      have hlater := ih hrest (before ++ [f d])
      simp only [List.append_assoc, List.singleton_append] at hlater
      exact (Alike.item before rest hd).trans hlater

theorem alike_entries {entries : List (String × Declaration)} {f : Declaration → Declaration}
    (h : ∀ e ∈ entries, e.2.Alike (f e.2)) (before : List (String × Declaration)) :
    (object (before ++ entries)).Alike
      (.object (before ++ entries.map fun e => (e.1, f e.2))) := by
  induction entries generalizing before with
  | nil => exact .refl _
  | cons e rest ih =>
      obtain ⟨he, hrest⟩ := List.forall_mem_cons.mp h
      have hlater := ih hrest (before ++ [(e.1, f e.2)])
      simp only [List.append_assoc, List.singleton_append] at hlater
      exact (Alike.entry before e.1 rest he).trans hlater

theorem alike_insert {k : String} {a : Declaration} {entries : List (String × Declaration)}
    (h : Entries.Ascending entries) (before after : List (String × Declaration)) :
    (object (before ++ (entries ++ (k, a) :: after))).Alike
      (.object (before ++ (Entries.insert k a entries ++ after))) := by
  induction entries generalizing before with
  | nil => exact .refl _
  | cons e rest ih =>
      obtain ⟨l, b⟩ := e
      have hinner := ih (List.Pairwise.of_cons h) (before ++ [(l, b)])
      simp only [List.append_assoc, List.singleton_append] at hinner
      refine hinner.trans ?_
      rw [Entries.insert]
      split
      · next hkl =>
          have hne : l ≠ k := fun he => String.lt_irrefl k (he ▸ hkl)
          rw [Entries.insert_of_le h (Std.le_of_lt hkl)]
          exact .swap hne before b a (rest ++ after)
      · next hkl =>
          split
          · exact .refl _
          · next hlk =>
              have hle : k ≤ l := String.not_lt.mp hlk
              have heq : l = k := String.le_antisymm (String.not_lt.mp hkl) hle
              rw [Entries.insert_of_le h hle]
              exact .replaced (by simp [heq]) before b

theorem alike_ofList (entries : List (String × Declaration)) :
    (object entries).Alike (.object (Entries.ofList entries)) := by
  -- the entries go into a list that grows, so the induction is over any list to start from
  have grow : ∀ (es acc : List (String × Declaration)), Entries.Ascending acc →
      (object (acc ++ es)).Alike
        (.object (es.foldl (fun acc e => Entries.insert e.1 e.2 acc) acc)) := by
    intro es
    induction es with
    | nil =>
        intro acc _
        rw [List.append_nil]
        exact .refl _
    | cons e es ih =>
        intro acc hacc
        exact (alike_insert hacc [] es).trans (ih _ (Entries.ascending_insert hacc))
  exact grow entries [] List.Pairwise.nil

theorem alike_ofTree (d : Declaration) : d.Alike (ofTree d.tree) := by
  induction d with
  | array items ih =>
      rw [tree, ofTree, treeItems_eq_map, ofTreeItems_eq_map, List.map_map]
      exact alike_items ih []
  | object entries ih =>
      have heach : (object entries).Alike
          (.object (entries.map fun e => (e.1, ofTree e.2.tree))) :=
        @alike_entries entries (fun d => ofTree d.tree) ih []
      have hmap : ofTreeEntries (Entries.ofList (treeEntries entries)) =
          Entries.ofList (entries.map fun e => (e.1, ofTree e.2.tree)) := by
        rw [ofTreeEntries_eq_map, treeEntries_eq_map, ← Entries.ofList_map, List.map_map]
        rfl
      rw [tree, Tree.ofEntries, ofTree, hmap]
      exact heach.trans (alike_ofList _)
  | matcher c payload ih => exact .payload c ih
  | _ => exact .refl _

theorem alike_iff_tree_eq {a b : Declaration} : a.Alike b ↔ a.tree = b.tree := by
  refine ⟨Alike.tree_eq, fun h => ?_⟩
  have hb : (ofTree a.tree).Alike b := h ▸ (alike_ofTree b).symm
  exact (alike_ofTree a).trans hb

theorem order_makes_no_difference (a b : Declaration) :
    (a.Alike b ↔ a.tree = b.tree) ∧
      (a.Alike b → ∀ (accepts : String → Bool) (o : Options),
        a.tree.compile accepts o = b.tree.compile accepts o) := by
  refine ⟨alike_iff_tree_eq, fun h accepts o => ?_⟩
  rw [h.tree_eq]

def rowsListed : Declaration :=
  .object [("id", .null),
    ("rows", .matcher (.atLeast 2) (.array [.object [("x", .null), ("y", .bool true)]])),
    ("id", .matcher .type (.object [("a", .string "1"), ("b", .null), ("a", .string "2")]))]

def rowsListedOtherwise : Declaration :=
  .object [("id", .matcher .type (.object [("b", .null), ("a", .string "2")])),
    ("rows", .matcher (.atLeast 2) (.array [.object [("y", .bool true), ("x", .null)]]))]

theorem rowsListed_compiled_otherwise :
    rowsListed.Alike rowsListedOtherwise ∧ rowsListed.tree = rowsListedOtherwise.tree ∧
      ∀ (accepts : String → Bool) (o : Options),
        rowsListed.tree.compile accepts o = rowsListedOtherwise.tree.compile accepts o := by
  have hrow : (object [("x", .null), ("y", .bool true)]).Alike
      (.object [("y", .bool true), ("x", .null)]) :=
    .swap (by decide) [] .null (.bool true) []
  have hid : (object [("a", .string "1"), ("b", .null), ("a", .string "2")]).Alike
      (.object [("b", .null), ("a", .string "2")]) :=
    .replaced (by decide) [] (.string "1")
  have hlisted : rowsListed.Alike rowsListedOtherwise := by
    refine .trans (.replaced (by decide) [] .null) (.trans (.swap (by decide) [] _ _ []) ?_)
    exact .trans (.entry [] "id" _ (.payload .type hid))
      (.entry [_] "rows" [] (.payload (.atLeast 2) (.item [] [] hrow)))
  obtain ⟨htree, hcompile⟩ := order_makes_no_difference rowsListed rowsListedOtherwise
  exact ⟨hlisted, htree.mp hlisted, hcompile hlisted⟩

end Declaration

end ConsumerContract
