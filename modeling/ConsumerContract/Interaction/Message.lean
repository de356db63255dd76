import ConsumerContract.Compile

namespace ConsumerContract

structure Request where
  method : String := "GET"
  path : String := "/"
  query : Option String := none
  headers : KeyMap String := .empty
  body : Option Json := none
  matchingRules : RuleTable := .empty
  deriving Repr

structure Response where
  status : UInt16 := 200
  headers : KeyMap String := .empty
  body : Option Json := none
  matchingRules : RuleTable := .empty
  deriving Repr

def sameBody : Option Json → Option Json → Bool
  | none, none => true
  | some a, some b => a.same b
  | _, _ => false

def headersJson? (headers : KeyMap String) : Option Json :=
  if headers.isEmpty then none
  else some (.object (headers.entries.map fun (name, value) => (name, .string value)))

def rulesJson? (rules : RuleTable) : Option Json :=
  if rules.isEmpty then none else some rules.json

namespace Request

def same (a b : Request) : Bool :=
  a.method == b.method && a.path == b.path && a.query == b.query && a.headers == b.headers &&
    sameBody a.body b.body && a.matchingRules == b.matchingRules

def json (r : Request) : Json :=
  .ofMembers [("method", some (.string r.method)), ("path", some (.string r.path)),
    ("query", r.query.map .string), ("headers", headersJson? r.headers), ("body", r.body),
    ("matchingRules", rulesJson? r.matchingRules)]

def schema : Schema Request where
  title := "Request"
  blank := {}
  fields := [
    .of "method" true .string fun method r => { r with method },
    .of "path" true .string fun path r => { r with path },
    .of "query" false (.optional .string) fun query r => { r with query },
    .of "headers" false (.map .string) fun headers r => { r with headers },
    .of "body" false (.optional .json) fun body r => { r with body },
    .of "matchingRules" false RuleTable.reader fun matchingRules r => { r with matchingRules }]

def reader : Reader Request := schema.read

end Request

namespace Response

def same (a b : Response) : Bool :=
  a.status == b.status && a.headers == b.headers && sameBody a.body b.body &&
    a.matchingRules == b.matchingRules

def json (r : Response) : Json :=
  .ofMembers [("status", some (.ofNat64 r.status.toUInt64)),
    ("headers", headersJson? r.headers), ("body", r.body),
    ("matchingRules", rulesJson? r.matchingRules)]

def schema : Schema Response where
  title := "Response"
  blank := {}
  fields := [
    .of "status" true .shortCount fun status r => { r with status },
    .of "headers" false (.map .string) fun headers r => { r with headers },
    .of "body" false (.optional .json) fun body r => { r with body },
    .of "matchingRules" false RuleTable.reader fun matchingRules r => { r with matchingRules }]

def reader : Reader Response := schema.read

end Response

end ConsumerContract
