import ConsumerContract.Record.Reader

namespace ConsumerContract

structure Options where
  maxDepth : UInt64 := 128
  maxRepeat : UInt64 := 1024
  validatePatterns : Bool := true
  deriving DecidableEq, Repr

namespace Options

def json (o : Options) : Json :=
  .object [("maxDepth", .ofNat64 o.maxDepth), ("maxRepeat", .ofNat64 o.maxRepeat),
    ("validatePatterns", .bool o.validatePatterns)]

def schema : Schema Options where
  title := "CompileOptions"
  blank := {}
  fields := [
    .of "maxDepth" false .count fun maxDepth o => { o with maxDepth },
    .of "maxRepeat" false .count fun maxRepeat o => { o with maxRepeat },
    .of "validatePatterns" false .boolean fun validatePatterns o => { o with validatePatterns }]

def reader : Reader Options := schema.read

end Options

end ConsumerContract
