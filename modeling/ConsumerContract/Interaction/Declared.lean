import ConsumerContract.Interaction.Message

namespace ConsumerContract

inductive DeclaredBody where
  | text (s : String)
  | json (v : Json)
  | tree (t : Tree)
  deriving Repr

structure DeclaredRequest where
  method : String := "GET"
  path : Tree := .string "/"
  query : Option String := none
  headers : KeyMap Tree := .empty
  body : Option DeclaredBody := none
  deriving Repr

structure DeclaredResponse where
  status : UInt16 := 200
  headers : KeyMap Tree := .empty
  body : Option DeclaredBody := none
  deriving Repr

variable (accepts : String → Bool) (o : Options)

def DeclaredBody.ofText (s : String) : Json :=
  match Json.ofText? Json.textSource s with
  | some v => v
  | none => .string s

def DeclaredBody.compile : DeclaredBody → Compiling Json
  | .text s => return ofText s
  | .json v => return v
  | .tree t => t.compileBody accepts o

def compileBody? : Option DeclaredBody → Compiling (Option Json)
  | none => return none
  | some b => return some (← b.compile accepts o)

def Tree.compileString (place : Selector) (refusal : Json → Reason) (t : Tree) :
    Compiling String := do
  match ← t.compileAt accepts o place 0 with
  | .string s => return s
  | v => throw (.malformedRule place (refusal v))

def sameHeader? (earlier : List String) (name : String) : Option String :=
  earlier.find? fun e => Text.uppercase e == Text.uppercase name

def compileHeaders : List String → List (String × Tree) → Compiling (List (String × String))
  | _, [] => return []
  | earlier, (name, t) :: rest =>
      match sameHeader? earlier name with
      | some first => throw (.malformedRule (.header name) (.sameHeader first name))
      | none => do
          let value ← t.compileString accepts o (.header name) .headerNotString
          let headers ← compileHeaders (name :: earlier) rest
          return (name, value) :: headers

def DeclaredRequest.compileParts (r : DeclaredRequest) :
    Compiling (String × List (String × String) × Option Json) := do
  let path ← r.path.compileString accepts o .path .pathNotString
  let headers ← compileHeaders accepts o [] r.headers.entries
  let body ← compileBody? accepts o r.body
  return (path, headers, body)

def DeclaredRequest.compile (r : DeclaredRequest) : Except Fault Request := do
  let ((path, headers, body), matchingRules) ← (r.compileParts accepts o).run .empty
  return {
    method := r.method, path, query := r.query, headers := .ofList headers, body, matchingRules }

def DeclaredResponse.compileParts (r : DeclaredResponse) :
    Compiling (List (String × String) × Option Json) := do
  let headers ← compileHeaders accepts o [] r.headers.entries
  let body ← compileBody? accepts o r.body
  return (headers, body)

def DeclaredResponse.compile (r : DeclaredResponse) : Except Fault Response := do
  let ((headers, body), matchingRules) ← (r.compileParts accepts o).run .empty
  return { status := r.status, headers := .ofList headers, body, matchingRules }

end ConsumerContract
