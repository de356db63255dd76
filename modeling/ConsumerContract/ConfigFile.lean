import ConsumerContract.Config
import ConsumerContract.Yaml.Record

namespace ConsumerContract

inductive ConfigFileFault where
  | malformed
  | misfit (place : Yaml.Place) (problem : Yaml.Problem)
  | invalid (fault : ConfigFault)
  deriving DecidableEq, Repr

def Options.yamlSchema : Yaml.Schema Options where
  title := "CompileOptions"
  blank := {}
  fields := [
    .of "maxDepth" false .count fun maxDepth o => { o with maxDepth },
    .of "maxRepeat" false .count fun maxRepeat o => { o with maxRepeat },
    .of "validatePatterns" false .boolean fun validatePatterns o => { o with validatePatterns }]

def Config.yamlSchema : Yaml.Schema Config where
  title := "PactConfig"
  blank := { consumer := "", provider := "" }
  fields := [
    .of "consumer" true .string fun consumer c => { c with consumer },
    .of "provider" true .string fun provider c => { c with provider },
    .of "specificationVersion" false .string fun specificationVersion c =>
      { c with specificationVersion },
    .of "compile" false Options.yamlSchema.read fun compile c => { c with compile }]

def Config.ofYaml (text : String) : Except ConfigFileFault Config :=
  match Config.yamlSchema.ofText text with
  | .error .malformed => .error .malformed
  | .error (.misfit place problem) => .error (.misfit place problem)
  | .ok c =>
      match c.fault? with
      | some f => .error (.invalid f)
      | none => .ok c

theorem Config.validate_of_ofYaml {text : String} {c : Config} (h : Config.ofYaml text = .ok c) :
    c.validate = .ok () := by
  unfold Config.ofYaml at h
  split at h
  · cases h
  · cases h
  · split at h
    · cases h
    · next hf =>
      cases h
      simp [Config.validate, hf]

end ConsumerContract
