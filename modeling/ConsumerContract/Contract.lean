import ConsumerContract.Config
import ConsumerContract.Interaction.Basic

namespace ConsumerContract

structure Party where
  name : String
  deriving DecidableEq, Repr

structure SpecificationVersion where
  version : String
  deriving DecidableEq, Repr

structure Metadata where
  specification : SpecificationVersion
  deriving DecidableEq, Repr

/-- The options go to the interactions that are started from the contract; they are no part of the
document. -/
structure Contract where
  consumer : Party
  provider : Party
  interactions : List Interaction := []
  metadata : Metadata
  options : Options := {}
  deriving Repr

namespace Party

def json (p : Party) : Json := .object [("name", .string p.name)]

def schema : Schema Party where
  title := "Pacticipant"
  blank := ⟨""⟩
  fields := [.of "name" true .string fun name p => { p with name }]

def reader : Reader Party := schema.read

end Party

namespace SpecificationVersion

def json (v : SpecificationVersion) : Json := .object [("version", .string v.version)]

def schema : Schema SpecificationVersion where
  title := "SpecificationVersion"
  blank := ⟨""⟩
  fields := [.of "version" true .string fun version v => { v with version }]

def reader : Reader SpecificationVersion := schema.read

end SpecificationVersion

namespace Metadata

def json (m : Metadata) : Json := .object [("pactSpecification", m.specification.json)]

def schema : Schema Metadata where
  title := "Metadata"
  blank := ⟨⟨""⟩⟩
  fields := [.of "pactSpecification" true SpecificationVersion.reader
    fun specification m => { m with specification }]

def reader : Reader Metadata := schema.read

end Metadata

namespace Contract

def ofConfig (c : Config) : Contract where
  consumer := ⟨c.consumer⟩
  provider := ⟨c.provider⟩
  metadata := ⟨⟨c.specificationVersion⟩⟩
  options := c.compile

def between (consumer provider : String) : Contract := ofConfig { consumer, provider }

def interaction (c : Contract) (description : String) : Interaction :=
  { description, options := c.options }

def add (c : Contract) (i : Interaction) : Except Fault Contract :=
  if c.interactions.any fun e => e.identity == i.identity then
    .error (.duplicateInteraction i.description i.providerState)
  else .ok { c with interactions := c.interactions ++ [i] }

def listing (c : Contract) : List (String × Option String) :=
  c.interactions.map Interaction.identity

def specificationVersion (c : Contract) : String := c.metadata.specification.version

def sameInteractions : List Interaction → List Interaction → Bool
  | [], [] => true
  | a :: as, b :: bs => a.same b && sameInteractions as bs
  | _, _ => false

def same (a b : Contract) : Bool :=
  a.consumer == b.consumer && a.provider == b.provider &&
    sameInteractions a.interactions b.interactions && a.metadata == b.metadata &&
    a.options == b.options

def json (c : Contract) : Json :=
  .object [("consumer", c.consumer.json), ("provider", c.provider.json),
    ("interactions", .array (c.interactions.map Interaction.json)), ("metadata", c.metadata.json)]

def schema : Schema Contract where
  title := "Pact"
  blank := { consumer := ⟨""⟩, provider := ⟨""⟩, metadata := ⟨⟨""⟩⟩ }
  fields := [
    .of "consumer" true Party.reader fun consumer c => { c with consumer },
    .of "provider" true Party.reader fun provider c => { c with provider },
    .of "interactions" false (.list Interaction.reader) fun interactions c =>
      { c with interactions },
    .of "metadata" true Metadata.reader fun metadata c => { c with metadata }]

def reader : Reader Contract := schema.read

def text (c : Contract) : String := c.json.indented

def reload (c : Contract) : Except ReadFault Contract := reader.ofText c.text

end Contract

end ConsumerContract
