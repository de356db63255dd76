import ConsumerContract.Json.Number
import ConsumerContract.KeyMap

namespace ConsumerContract

/-- The entries of an object are listed as they are written; a document at rest has them in
ascending order of keys. -/
inductive Json where
  | null
  | bool (b : Bool)
  | number (n : Number)
  | string (s : String)
  | array (items : List Json)
  | object (entries : List (String × Json))
  deriving Repr

namespace Json

instance : Inhabited Json := ⟨.null⟩

@[induction_eliminator]
theorem induction {motive : Json → Prop} (null : motive .null) (bool : ∀ b, motive (.bool b))
    (number : ∀ n, motive (.number n)) (string : ∀ s, motive (.string s))
    (array : ∀ items, (∀ v ∈ items, motive v) → motive (.array items))
    (object : ∀ entries, (∀ e ∈ entries, motive e.2) → motive (.object entries)) (v : Json) :
    motive v :=
  @Json.rec motive (fun items => ∀ v ∈ items, motive v) (fun entries => ∀ e ∈ entries, motive e.2)
    (fun e => motive e.2) null bool number string array object
    (fun _ h => nomatch h) (fun _ _ head tail => List.forall_mem_cons.mpr ⟨head, tail⟩)
    (fun _ h => nomatch h) (fun _ _ head tail => List.forall_mem_cons.mpr ⟨head, tail⟩)
    (fun _ _ h => h) v

mutual

def same : Json → Json → Bool
  | .null, .null => true
  | .bool a, .bool b => a == b
  | .number a, .number b => a.same b
  | .string a, .string b => a == b
  | .array as, .array bs => sameItems as bs
  | .object as, .object bs => sameEntries as bs
  | _, _ => false

def sameItems : List Json → List Json → Bool
  | [], [] => true
  | a :: as, b :: bs => same a b && sameItems as bs
  | _, _ => false

def sameEntries : List (String × Json) → List (String × Json) → Bool
  | [], [] => true
  | (k, a) :: as, (l, b) :: bs => k == l && same a b && sameEntries as bs
  | _, _ => false

end

mutual

def sorted : Json → Json
  | .array items => .array (sortedItems items)
  | .object entries => .object (Entries.ofList (sortedEntries entries))
  | v => v

def sortedItems : List Json → List Json
  | [] => []
  | v :: rest => sorted v :: sortedItems rest

def sortedEntries : List (String × Json) → List (String × Json)
  | [] => []
  | (k, v) :: rest => (k, sorted v) :: sortedEntries rest

end

mutual

def Canonical : Json → Prop
  | .array items => CanonicalItems items
  | .object entries => Entries.Ascending entries ∧ CanonicalEntries entries
  | _ => True

def CanonicalItems : List Json → Prop
  | [] => True
  | v :: rest => Canonical v ∧ CanonicalItems rest

def CanonicalEntries : List (String × Json) → Prop
  | [] => True
  | (_, v) :: rest => Canonical v ∧ CanonicalEntries rest

end

def ofNat64 (n : UInt64) : Json := .number (.natural n)

def ofMembers (members : List (String × Option Json)) : Json :=
  .object (members.filterMap fun (k, v?) => v?.map fun v => (k, v))

theorem canonicalItems_iff (items : List Json) :
    CanonicalItems items ↔ ∀ v ∈ items, v.Canonical := by
  induction items with
  | nil => simp [CanonicalItems]
  | cons v rest ih => rw [CanonicalItems, ih, List.forall_mem_cons]

theorem canonicalEntries_iff (entries : List (String × Json)) :
    CanonicalEntries entries ↔ ∀ e ∈ entries, e.2.Canonical := by
  induction entries with
  | nil => simp [CanonicalEntries]
  | cons e rest ih => rw [CanonicalEntries, ih, List.forall_mem_cons]

mutual

theorem same_refl : ∀ v : Json, v.same v = true
  | .null => rfl
  | .bool b => by simp [same]
  | .number n => by simp [same, Number.same_refl]
  | .string s => by simp [same]
  | .array items => by simp [same, sameItems_refl items]
  | .object entries => by simp [same, sameEntries_refl entries]

theorem sameItems_refl : ∀ items : List Json, sameItems items items = true
  | [] => rfl
  | v :: rest => by simp [sameItems, same_refl v, sameItems_refl rest]

theorem sameEntries_refl : ∀ entries : List (String × Json), sameEntries entries entries = true
  | [] => rfl
  | (k, v) :: rest => by simp [sameEntries, same_refl v, sameEntries_refl rest]

end

end Json

end ConsumerContract
