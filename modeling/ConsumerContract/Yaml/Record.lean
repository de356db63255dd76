import ConsumerContract.Record.Misfit
import ConsumerContract.Yaml.Value

/-!
Reading typed records from YAML documents. A record stands in a document as a mapping, and a record
that is left empty has no fields. Faults come in the order in which they are met, each with the way
to it.
-/

namespace ConsumerContract.Yaml

inductive Content where
  | scalar (v : Value)
  | sequence
  | mapping
  deriving DecidableEq, Repr

inductive Problem where
  | invalidType (found : Content) (wanted : Wanted)
  | invalidTagged (text kind : String)
  | missingField (name : String)
  | duplicateField (name : String)
  deriving DecidableEq, Repr

/-- A field whose name is an alias has no name to show. -/
abbrev Place := List (Option String)

inductive ReadFault where
  | malformed
  | misfit (place : Place) (problem : Problem)
  deriving DecidableEq, Repr

def integerNote (n : Int) : String :=
  if 0x10000000000000000 ≤ n then " as u128"
  else if n < -0x8000000000000000 then " as i128"
  else ""

def Value.message : Value → String
  | .null => "unit value"
  | .boolean b => "boolean " ++ fenced (if b then "true" else "false")
  | .integer n => "integer " ++ fenced (integerText n) ++ integerNote n
  | .float x => "floating point " ++ fenced (Decimal.plainText x)
  | .infinity negative => "floating point " ++ fenced (if negative then "-inf" else "inf")
  | .notANumber => "floating point " ++ fenced "NaN"
  | .string s => "string " ++ Text.quoted s

def Content.message : Content → String
  | .scalar v => v.message
  | .sequence => "sequence"
  | .mapping => "map"

def Problem.message : Problem → String
  | .invalidType found wanted =>
      "invalid type: " ++ found.message ++ ", expected " ++ wanted.message
  | .invalidTagged text kind =>
      "invalid value: string " ++ Text.quoted text ++ ", expected " ++ kind
  | .missingField name => "missing field " ++ fenced name
  | .duplicateField name => "duplicate field " ++ fenced name

def Place.text (place : Place) : String :=
  ".".intercalate (place.map fun name? => name?.getD "?")

def misfitMessage (place : Place) (problem : Problem) : String :=
  if place.isEmpty then problem.message else place.text ++ ": " ++ problem.message

def ReadFault.within (name? : Option String) : ReadFault → ReadFault
  | .malformed => .malformed
  | .misfit place problem => .misfit (name? :: place) problem

/-- Reads a node in which every alias has been replaced at the top. -/
abbrev Reader (α : Type) := Document → Node → Except ReadFault α

namespace Reader

def mismatch (wanted : Wanted) : Node → ReadFault
  | .scalar s _ =>
      match s.value with
      | .ok v => .misfit [] (.invalidType (.scalar v) wanted)
      | .error kind => .misfit [] (.invalidTagged s.text kind)
  | .sequence _ _ _ => .misfit [] (.invalidType .sequence wanted)
  | .mapping _ _ _ => .misfit [] (.invalidType .mapping wanted)
  | _ => .malformed

def text (wanted : Wanted) : Reader String
  | _, .scalar s _ => .ok s.text
  | _, d => .error (mismatch wanted d)

def string : Reader String := text .string

def parsed {α : Type} (wanted : Wanted) (tag : String) (ofText? : String → Option α) : Reader α
  | _, .scalar s mark =>
      match if s.admits tag then ofText? s.text else none with
      | some a => .ok a
      | none => .error (mismatch wanted (.scalar s mark))
  | _, d => .error (mismatch wanted d)

def boolean : Reader Bool := parsed .boolean Scalar.booleanTag Scalar.boolean?

def count : Reader UInt64 := parsed .count Scalar.integerTag Scalar.count?

end Reader

structure Field (ρ : Type) where
  name : String
  required : Bool
  fill : Document → Node → ρ → Except ReadFault ρ

def Field.of {ρ α : Type} (name : String) (required : Bool) (reader : Reader α)
    (put : α → ρ → ρ) : Field ρ where
  name := name
  required := required
  fill doc d r := (reader doc (doc.resolve d)).map fun a => put a r

structure Schema (ρ : Type) where
  title : String
  blank : ρ
  fields : List (Field ρ)

def shownName : Node → Option String
  | .scalar s _ => some s.text
  | _ => none

namespace Schema

variable {ρ : Type}

def fillEntries (fields : List (Field ρ)) (doc : Document) :
    List (Node × Node) → List String → ρ → Except ReadFault (List String × ρ)
  | [], seen, r => .ok (seen, r)
  | (k, d) :: rest, seen, r =>
      match Reader.text .fieldName doc (doc.resolve k) with
      | .error e => .error e
      | .ok name =>
          match fields.find? (·.name == name) with
          | none => if d.isWhole then fillEntries fields doc rest seen r else .error .malformed
          | some field =>
              if seen.contains name then .error (.misfit [] (.duplicateField name))
              else
                match field.fill doc d r with
                | .ok r => fillEntries fields doc rest (name :: seen) r
                | .error e => .error (e.within (shownName k))

def finish (schema : Schema ρ) (seen : List String) (r : ρ) : Except ReadFault ρ :=
  match schema.fields.find? fun f => f.required && !seen.contains f.name with
  | some field => .error (.misfit [] (.missingField field.name))
  | none => .ok r

def read (schema : Schema ρ) : Reader ρ
  | doc, .mapping entries closed _ => do
      let (seen, r) ← fillEntries schema.fields doc entries [] schema.blank
      if closed then schema.finish seen r else .error .malformed
  | _, .scalar s mark =>
      if s.text.isEmpty && s.style == .plain then schema.finish [] schema.blank
      else .error (Reader.mismatch (.record schema.title) (.scalar s mark))
  | _, d => .error (Reader.mismatch (.record schema.title) d)

def ofText (schema : Schema ρ) (text : String) : Except ReadFault ρ := do
  let doc := Document.ofText text
  let r ← match doc.root with
    | none => schema.finish [] schema.blank
    | some root => schema.read doc root
  if doc.ended then .ok r else .error .malformed

end Schema

end ConsumerContract.Yaml
