import ConsumerContract.Decimal.Layout
import ConsumerContract.Text.Quoted

namespace ConsumerContract

inductive Found where
  | integer (n : Int)
  | float (x : Binary64)
  | string (s : String)
  | boolean (b : Bool)
  | null
  | sequence
  | map
  deriving DecidableEq, Repr

inductive Wanted where
  | count
  | shortCount
  | string
  | boolean
  | map
  | sequence
  | nothing
  | nameOrMap
  | singleKeyMap
  | fieldName
  | variantName
  | record (title : String)
  deriving DecidableEq, Repr

inductive Misfit where
  | invalidType (found : Found) (wanted : Wanted)
  | invalidValue (found : Found) (wanted : Wanted)
  | tooShort (length : Nat) (title : String) (fields : Nat)
  | tooLong (length : Nat)
  | missingField (name : String)
  | duplicateField (name : String)
  | unknownVariant (name : String) (variants : List String)
  deriving DecidableEq, Repr

def integerText (n : Int) : String :=
  .ofList (Decimal.signed (decide (n < 0)) (Nat.toDigits 10 n.natAbs))

def fenced (s : String) : String := "\x60" ++ s ++ "\x60"

def Found.message : Found → String
  | .integer n => "integer " ++ fenced (integerText n)
  | .float x => "floating point " ++ fenced (Decimal.jsonText x)
  | .string s => "string " ++ Text.quoted s
  | .boolean b => "boolean " ++ fenced (if b then "true" else "false")
  | .null => "null"
  | .sequence => "sequence"
  | .map => "map"

def Wanted.message : Wanted → String
  | .count => "usize"
  | .shortCount => "u16"
  | .string => "a string"
  | .boolean => "a boolean"
  | .map => "a map"
  | .sequence => "a sequence"
  | .nothing => "unit"
  | .nameOrMap => "string or map"
  | .singleKeyMap => "map with a single key"
  | .fieldName => "field identifier"
  | .variantName => "variant identifier"
  | .record title => "struct " ++ title

def alternatives : List String → String
  | [] => "there are no variants"
  | [a] => fenced a
  | [a, b] => fenced a ++ " or " ++ fenced b
  | several => "one of " ++ ", ".intercalate (several.map fenced)

def Misfit.message : Misfit → String
  | .invalidType found wanted =>
      "invalid type: " ++ found.message ++ ", expected " ++ wanted.message
  | .invalidValue found wanted =>
      "invalid value: " ++ found.message ++ ", expected " ++ wanted.message
  | .tooShort length title fields =>
      "invalid length " ++ integerText length ++ ", expected struct " ++ title ++ " with " ++
        integerText fields ++ (if fields = 1 then " element" else " elements")
  | .tooLong length =>
      "invalid length " ++ integerText length ++ ", expected fewer elements in array"
  | .missingField name => "missing field " ++ fenced name
  | .duplicateField name => "duplicate field " ++ fenced name
  | .unknownVariant name variants =>
      "unknown variant " ++ fenced name ++ ", expected " ++ alternatives variants

end ConsumerContract
