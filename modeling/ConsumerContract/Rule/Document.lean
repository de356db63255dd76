import ConsumerContract.Record.Reader
import ConsumerContract.Rule.Basic

namespace ConsumerContract

def RuleKind.reader : Reader RuleKind :=
  .variant [(RuleKind.type.name, .type), (RuleKind.regex.name, .regex)]

def RuleKind.json (k : RuleKind) : Json := .string k.name

namespace Rule

def json (r : Rule) : Json :=
  .ofMembers [("match", some r.kind.json), ("regex", r.regex.map .string),
    ("min", r.min.map .ofNat64), ("max", r.max.map .ofNat64)]

def schema : Schema Rule where
  title := "MatchingRule"
  blank := { kind := .type }
  fields := [
    .of "match" true RuleKind.reader fun kind r => { r with kind },
    .of "regex" false (.optional .string) fun regex r => { r with regex },
    .of "min" false (.optional .count) fun min r => { r with min },
    .of "max" false (.optional .count) fun max r => { r with max }]

def reader : Reader Rule := schema.read

end Rule

namespace RuleTable

def json (t : RuleTable) : Json := .object (t.entries.map fun (k, r) => (k, r.json))

def reader : Reader RuleTable := .map Rule.reader

end RuleTable

end ConsumerContract
