import ConsumerContract.Json.Basic

/-!
A document as far as its text is well formed. Faults are kept where they stand, so that a reader
who needs only part of a document meets just the faults on its way.
-/

namespace ConsumerContract

/-- A number without a value is out of range, a string without one has half of a surrogate pair, and
a container that is not `closed` breaks off after what is listed. An entry without a key holds what
stands in the place of the key. -/
inductive Draft where
  | broken
  | null
  | bool (b : Bool)
  | number (n : Option Number)
  | string (s : Option String)
  | array (items : List Draft) (closed : Bool)
  | object (entries : List (Option String × Draft)) (closed : Bool)
  deriving Repr

mutual

def Json.draft : Json → Draft
  | .null => .null
  | .bool b => .bool b
  | .number n => .number (some n)
  | .string s => .string (some s)
  | .array items => .array (draftItems items) true
  | .object entries => .object (draftEntries entries) true

def Json.draftItems : List Json → List Draft
  | [] => []
  | v :: rest => v.draft :: draftItems rest

def Json.draftEntries : List (String × Json) → List (Option String × Draft)
  | [] => []
  | (k, v) :: rest => (some k, v.draft) :: draftEntries rest

end

/-- What a document is read from: a value at hand, or a text in which containers may still nest
`room` deep. -/
inductive Source where
  | value
  | text (room : Nat)
  deriving DecidableEq, Repr

def Source.enter? : Source → Option Source
  | .value => some .value
  | .text 0 => none
  | .text (room + 1) => some (.text room)

namespace Draft

mutual

def json? (source : Source) : Draft → Option Json
  | .broken => none
  | .null => some .null
  | .bool b => some (.bool b)
  | .number n => n.map .number
  | .string s => s.map .string
  | .array items closed =>
      match source.enter?, closed with
      | some inner, true => (items? inner items).map .array
      | _, _ => none
  | .object entries closed =>
      match source.enter?, closed with
      | some inner, true => (entries? inner entries).map fun es => .object (Entries.ofList es)
      | _, _ => none

def items? (source : Source) : List Draft → Option (List Json)
  | [] => some []
  | d :: rest =>
      match json? source d, items? source rest with
      | some v, some vs => some (v :: vs)
      | _, _ => none

def entries? (source : Source) : List (Option String × Draft) → Option (List (String × Json))
  | [] => some []
  | (k?, d) :: rest =>
      match k?, json? source d, entries? source rest with
      | some k, some v, some vs => some ((k, v) :: vs)
      | _, _, _ => none

end

end Draft

end ConsumerContract
