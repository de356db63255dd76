import ConsumerContract.Interaction.Declared

namespace ConsumerContract

/-- The options are those under which later declarations are compiled; they are no part of the
document. -/
structure Interaction where
  description : String
  providerState : Option String := none
  request : Request := {}
  response : Response := {}
  options : Options := {}
  deriving Repr

namespace Interaction

inductive Step where
  | given (state : String)
  | describe (description : String)
  | options (o : Options)
  | request (r : DeclaredRequest)
  | response (r : DeclaredResponse)
  deriving Repr

def step (accepts : String → Bool) (i : Interaction) : Step → Except Fault Interaction
  | .given state => .ok { i with providerState := some state }
  | .describe description => .ok { i with description }
  | .options options => .ok { i with options }
  | .request r => (r.compile accepts i.options).map fun request => { i with request }
  | .response r => (r.compile accepts i.options).map fun response => { i with response }

def stepOrKeep (accepts : String → Bool) (i : Interaction) (s : Step) : Interaction :=
  match i.step accepts s with
  | .ok i' => i'
  | .error _ => i

def run (accepts : String → Bool) : Interaction → List Step → Except Fault Interaction
  | i, [] => .ok i
  | i, s :: rest => do run accepts (← i.step accepts s) rest

def same (a b : Interaction) : Bool :=
  a.description == b.description && a.providerState == b.providerState &&
    a.request.same b.request && a.response.same b.response && a.options == b.options

def identity (i : Interaction) : String × Option String := (i.description, i.providerState)

def json (i : Interaction) : Json :=
  .ofMembers [("description", some (.string i.description)),
    ("providerState", i.providerState.map .string), ("request", some i.request.json),
    ("response", some i.response.json)]

def schema : Schema Interaction where
  title := "Interaction"
  blank := { description := "" }
  fields := [
    .of "description" true .string fun description i => { i with description },
    .of "providerState" false (.optional .string) fun providerState i => { i with providerState },
    .of "request" false Request.reader fun request i => { i with request },
    .of "response" false Response.reader fun response i => { i with response }]

def reader : Reader Interaction := schema.read

end Interaction

end ConsumerContract
