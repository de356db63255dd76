import ConsumerContract.Json.Parser
import ConsumerContract.Record.Misfit

/-!
Reading typed records from documents. A record stands in a document as an object, or as an array of
its fields in order. Faults come in the order in which they are met.
-/

namespace ConsumerContract

inductive ReadFault where
  | malformed
  | misfit (m : Misfit)
  deriving DecidableEq, Repr

abbrev Reader (α : Type) := Source → Draft → Except ReadFault α

def Source.enter (source : Source) : Except ReadFault Source :=
  match source.enter? with
  | some inner => .ok inner
  | none => .error .malformed

def Draft.found? : Draft → Option Found
  | .broken => none
  | .null => some .null
  | .bool b => some (.boolean b)
  | .number n => n.map fun
      | .natural n => .integer n.toNat
      | .negative n _ => .integer n.toInt
      | .float x => .float x
  | .string s => s.map .string
  | .array _ _ => some .sequence
  | .object _ _ => some .map

namespace Reader

def mismatch (wanted : Wanted) (d : Draft) : ReadFault :=
  match d.found? with
  | some found => .misfit (.invalidType found wanted)
  | none => .malformed

def string : Reader String
  | _, .string (some s) => .ok s
  | _, d => .error (mismatch .string d)

def boolean : Reader Bool
  | _, .bool b => .ok b
  | _, d => .error (mismatch .boolean d)

def count : Reader UInt64
  | _, .number (some (.natural n)) => .ok n
  | _, .number (some (.negative n _)) => .error (.misfit (.invalidValue (.integer n.toInt) .count))
  | _, d => .error (mismatch .count d)

def shortCount : Reader UInt16
  | _, .number (some (.natural n)) =>
      if n.toNat < UInt16.size then .ok (.ofNat n.toNat)
      else .error (.misfit (.invalidValue (.integer n.toNat) .shortCount))
  | _, .number (some (.negative n _)) =>
      .error (.misfit (.invalidValue (.integer n.toInt) .shortCount))
  | _, d => .error (mismatch .shortCount d)

def optional {α : Type} (reader : Reader α) : Reader (Option α)
  | _, .null => .ok none
  | source, d => (reader source d).map some

def json : Reader Json := fun source d =>
  match d.json? source with
  | some v => .ok v
  | none => .error .malformed

def closing {α : Type} (closed : Bool) (a : α) : Except ReadFault α :=
  if closed then .ok a else .error .malformed

def entriesWith {α : Type} (reader : Reader α) (source : Source) :
    List (Option String × Draft) → KeyMap α → Except ReadFault (KeyMap α)
  | [], m => .ok m
  | (none, _) :: _, _ => .error .malformed
  | (some k, d) :: rest, m =>
      match reader source d with
      | .ok v => entriesWith reader source rest (m.insert k v)
      | .error e => .error e

def map {α : Type} (reader : Reader α) : Reader (KeyMap α)
  | source, .object entries closed => do
      let inner ← source.enter
      closing closed (← entriesWith reader inner entries .empty)
  | _, d => .error (mismatch .map d)

def itemsWith {α : Type} (reader : Reader α) (source : Source) :
    List Draft → Except ReadFault (List α)
  | [] => .ok []
  | d :: rest => do
      let a ← reader source d
      let as ← itemsWith reader source rest
      return a :: as

def list {α : Type} (reader : Reader α) : Reader (List α)
  | source, .array items closed => do
      let inner ← source.enter
      closing closed (← itemsWith reader inner items)
  | _, d => .error (mismatch .sequence d)

/-- One of several names, written as a string or as the only key of an object whose value is
null. -/
def variant {α : Type} (variants : List (String × α)) : Reader α := fun source d =>
  let pick (name : String) : Except ReadFault α :=
    match Entries.get? name variants with
    | some a => .ok a
    | none => .error (.misfit (.unknownVariant name (variants.map (·.1))))
  let nothing : Draft → Except ReadFault Unit
    | .null => .ok ()
    | d => .error (mismatch .nothing d)
  match source, d with
  | _, .string (some name) => pick name
  | .value, .object [(some name, inner)] _ => do
      let a ← pick name
      nothing inner
      return a
  | .value, .object _ _ => .error (.misfit (.invalidValue .map .singleKeyMap))
  | .value, d => .error (mismatch .nameOrMap d)
  | .text (_ + 1), .object ((some name, inner) :: rest) closed => do
      let a ← pick name
      nothing inner
      closing (closed && rest.isEmpty) a
  | .text (_ + 1), .object ((none, d) :: _) _ => .error (mismatch .variantName d)
  | .text _, _ => .error .malformed

end Reader

structure Field (ρ : Type) where
  name : String
  required : Bool
  fill : Source → Draft → ρ → Except ReadFault ρ

/-- The blank record has the value of each field that may be absent. -/
structure Schema (ρ : Type) where
  title : String
  blank : ρ
  fields : List (Field ρ)

def Field.of {ρ α : Type} (name : String) (required : Bool) (reader : Reader α)
    (put : α → ρ → ρ) : Field ρ where
  name := name
  required := required
  fill source d r := (reader source d).map fun a => put a r

namespace Schema

variable {ρ : Type}

def fillEntries (fields : List (Field ρ)) (source : Source) :
    List (Option String × Draft) → List String → ρ → Except ReadFault (List String × ρ)
  | [], seen, r => .ok (seen, r)
  | (none, _) :: _, _, _ => .error .malformed
  | (some k, d) :: rest, seen, r =>
      match fields.find? (·.name == k) with
      | none => fillEntries fields source rest seen r
      | some field =>
          if seen.contains k then .error (.misfit (.duplicateField k))
          else
            match field.fill source d r with
            | .ok r => fillEntries fields source rest (k :: seen) r
            | .error e => .error e

def firstMissing (fields : List (Field ρ)) (seen : List String) : Option String :=
  (fields.find? fun f => f.required && !seen.contains f.name).map (·.name)

def fillItems (schema : Schema ρ) (source : Source) :
    List (Field ρ) → List Draft → ρ → Nat → Bool → Except ReadFault (ρ × List Draft)
  | [], items, r, _, _ => .ok (r, items)
  | field :: fields, [], r, i, closed =>
      if !closed then .error .malformed
      else if field.required then
        .error (.misfit (.tooShort i schema.title schema.fields.length))
      else fillItems schema source fields [] r (i + 1) closed
  | field :: fields, d :: items, r, i, closed =>
      match field.fill source d r with
      | .ok r => fillItems schema source fields items r (i + 1) closed
      | .error e => .error e

def read (schema : Schema ρ) : Reader ρ
  | source, .object entries closed => do
      let inner ← source.enter
      let (seen, r) ← fillEntries schema.fields inner entries [] schema.blank
      if !closed then .error .malformed
      else
        match firstMissing schema.fields seen with
        | some name => .error (.misfit (.missingField name))
        | none => .ok r
  | source, .array items closed => do
      let inner ← source.enter
      let (r, left) ← schema.fillItems inner schema.fields items schema.blank 0 closed
      match source, left with
      | _, [] => Reader.closing closed r
      | .value, _ => .error (.misfit (.tooLong items.length))
      | .text _, _ => .error .malformed
  | _, d => .error (Reader.mismatch (.record schema.title) d)

end Schema

def Reader.ofJson {α : Type} (reader : Reader α) (v : Json) : Except ReadFault α :=
  reader .value v.draft

def Reader.ofText {α : Type} (reader : Reader α) (text : String) : Except ReadFault α :=
  let (d, ended) := Json.drafted text
  match reader Json.textSource d with
  | .ok a => if ended then .ok a else .error .malformed
  | .error e => .error e

end ConsumerContract
