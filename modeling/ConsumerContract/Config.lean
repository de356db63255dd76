import ConsumerContract.Options
import ConsumerContract.Text.Blank

namespace ConsumerContract

structure Config where
  consumer : String
  provider : String
  specificationVersion : String := "2.0.0"
  compile : Options := {}
  deriving DecidableEq, Repr

inductive ConfigFault where
  | emptyConsumer
  | emptyProvider
  | unsupportedVersion (version : String)
  | zeroDepth
  | repeatTooLarge (maxRepeat : UInt64)
  deriving DecidableEq, Repr

namespace Config

def supportedVersions : List String := ["1.0.0", "2.0.0"]

def repeatCeiling : UInt64 := 1048576

end Config

def ConfigFault.message : ConfigFault → String
  | .emptyConsumer => "Consumer name must not be empty"
  | .emptyProvider => "Provider name must not be empty"
  | .unsupportedVersion version =>
      "Unsupported pact specification version: '" ++ version ++ "'. Supported: " ++
        ", ".intercalate Config.supportedVersions
  | .zeroDepth => "compile.maxDepth must be at least 1"
  | .repeatTooLarge n =>
      "compile.maxRepeat " ++ integerText n.toNat ++ " exceeds the limit of " ++
        integerText Config.repeatCeiling.toNat

namespace Config

def fault? (c : Config) : Option ConfigFault :=
  if Text.isBlankText c.consumer then some .emptyConsumer
  else if Text.isBlankText c.provider then some .emptyProvider
  else if !supportedVersions.contains c.specificationVersion then
    some (.unsupportedVersion c.specificationVersion)
  else if c.compile.maxDepth = 0 then some .zeroDepth
  else if repeatCeiling < c.compile.maxRepeat then some (.repeatTooLarge c.compile.maxRepeat)
  else none

def validate (c : Config) : Except ConfigFault Unit :=
  match c.fault? with
  | some f => .error f
  | none => .ok ()

def json (c : Config) : Json :=
  .object [("consumer", .string c.consumer), ("provider", .string c.provider),
    ("specificationVersion", .string c.specificationVersion), ("compile", c.compile.json)]

def schema : Schema Config where
  title := "PactConfig"
  blank := { consumer := "", provider := "" }
  fields := [
    .of "consumer" true .string fun consumer c => { c with consumer },
    .of "provider" true .string fun provider c => { c with provider },
    .of "specificationVersion" false .string fun specificationVersion c =>
      { c with specificationVersion },
    .of "compile" false Options.reader fun compile c => { c with compile }]

def reader : Reader Config := schema.read

end Config

end ConsumerContract
