import ConsumerContract.Json.Printer
import ConsumerContract.Selector
import ConsumerContract.Tree.Basic

namespace ConsumerContract

inductive Reason where
  | typeNotString
  | patternNotString
  | badBound (name : String) (found : Json)
  | missingValue
  | clash (c : Rule.Clash)
  | tooManyCopies (matcherName : String) (count limit : UInt64)
  | pathNotString (found : Json)
  | headerNotString (found : Json)
  | sameHeader (first second : String)
  deriving Repr

def matcherKey : String := "pact:matcher:type"

def Rule.Clash.message : Rule.Clash → String
  | .missingPattern => "regex rule without a pattern"
  | .boundedPattern => "regex rule cannot carry array bounds"
  | .typeWithPattern => "type rule cannot carry a regex"
  | .twoBounds => "array rule has both min and max"

def decimalText (n : Nat) : String := .ofList (Nat.toDigits 10 n)

def Reason.message : Reason → String
  | .typeNotString => "'" ++ matcherKey ++ "' must be a string"
  | .patternNotString => "'regex' must be a string"
  | .badBound name found =>
      "'" ++ name ++ "' must be a non-negative integer, found " ++ found.text
  | .missingValue => "matcher is missing 'value'"
  | .clash c => c.message
  | .tooManyCopies name count limit =>
      name ++ " repeats its template " ++ decimalText count.toNat ++ " times, limit is " ++
        decimalText limit.toNat
  | .pathNotString found => "request path example must be a string, found " ++ found.text
  | .headerNotString found => "header example must be a string, found " ++ found.text
  | .sameHeader first second =>
      "headers '" ++ first ++ "' and '" ++ second ++ "' differ only in case"

inductive Fault where
  | nonObjectRoot (found : Tree.Kind)
  | unknownMatcher (kind : String) (place : Selector)
  | malformedRule (place : Selector) (reason : Reason)
  | invalidPattern (pattern : String) (place : Selector)
  | tooDeep (limit : UInt64) (place : Selector)
  | duplicateInteraction (description : String) (state : Option String)
  deriving Repr

def Fault.message : Fault → String
  | .nonObjectRoot found => "Body root must be an object, found " ++ found.name
  | .unknownMatcher kind place => "Unknown matcher type '" ++ kind ++ "' at " ++ place.text
  | .malformedRule place reason =>
      "Malformed matching rule at " ++ place.text ++ ": " ++ reason.message
  | .invalidPattern pattern place => "Invalid regex '" ++ pattern ++ "' at " ++ place.text
  | .tooDeep limit place =>
      "Maximum nesting depth " ++ decimalText limit.toNat ++ " exceeded at " ++ place.text
  | .duplicateInteraction description state =>
      "Duplicate interaction '" ++ description ++ "' (provider state: " ++
        state.getD "none" ++ ")"

end ConsumerContract
