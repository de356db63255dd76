import ConsumerContract.Fault

namespace ConsumerContract

namespace Tree

abbrev Members := List (String × Json)

def kindOf (marked : Json) (place : Selector) : Except Fault RuleKind :=
  match marked with
  | .string "type" => .ok .type
  | .string "regex" => .ok .regex
  | .string kind => .error (.unknownMatcher kind place)
  | _ => .error (.malformedRule place .typeNotString)

def patternOf (members : Members) (place : Selector) : Except Fault (Option String) :=
  match Entries.get? "regex" members with
  | none => .ok none
  | some (.string p) => .ok (some p)
  | some _ => .error (.malformedRule place .patternNotString)

def boundOf (name : String) (members : Members) (place : Selector) :
    Except Fault (Option UInt64) :=
  match Entries.get? name members with
  | none => .ok none
  | some (.number (.natural n)) => .ok (some n)
  | some found => .error (.malformedRule place (.badBound name found))

def ruleOf (marked : Json) (members : Members) (place : Selector) : Except Fault Rule := do
  let kind ← kindOf marked place
  let regex ← patternOf members place
  let min ← boundOf "min" members place
  let max ← boundOf "max" members place
  return { kind, regex, min, max }

def payloadPlace (rule : Rule) (place : Selector) : Selector :=
  if rule.min.isSome || rule.max.isSome then place.each else place

def ofRule (rule : Rule) (payload : Tree) (place : Selector) : Except Fault Matcher :=
  match rule.criterion with
  | .ok criterion => .ok ⟨criterion, payload⟩
  | .error clash => .error (.malformedRule place (.clash clash))

mutual

def decodeAt (place : Selector) : Json → Except Fault Tree
  | .null => .ok .null
  | .bool b => .ok (.bool b)
  | .number n => .ok (.number n)
  | .string s => .ok (.string s)
  | .array items => (decodeItems place 0 items).map .array
  | .object entries =>
      match Entries.get? matcherKey entries with
      | none => (decodeEntries place entries).map .object
      | some marked => do
          let rule ← ruleOf marked entries place
          let payload? ← decodeValue (payloadPlace rule place) entries
          let payload ← match payload? with
            | some payload => .ok payload
            | none => .error (.malformedRule place .missingValue)
          return (← ofRule rule payload place).tree

def decodeItems (place : Selector) (i : Nat) : List Json → Except Fault (List Tree)
  | [] => .ok []
  | v :: rest => do
      let t ← decodeAt (place.index i) v
      let ts ← decodeItems place (i + 1) rest
      return t :: ts

def decodeEntries (place : Selector) : List (String × Json) → Except Fault (List (String × Tree))
  | [] => .ok []
  | (k, v) :: rest => do
      let t ← decodeAt (place.key k) v
      let ts ← decodeEntries place rest
      return (k, t) :: ts

def decodeValue (place : Selector) : List (String × Json) → Except Fault (Option Tree)
  | [] => .ok none
  | (k, v) :: rest =>
      if "value" = k then (decodeAt place v).map some else decodeValue place rest

end

def decode (v : Json) : Except Fault Tree := decodeAt .document v

end Tree

end ConsumerContract
