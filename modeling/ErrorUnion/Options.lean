import ErrorUnion.Union.Retry
import ErrorUnion.Name.Grammar
import ErrorUnion.Json.Writer

/- Options of the generator: defaults, the environment over them, overrides over both. -/
namespace ErrorUnion
open Json Text Name

structure Options where
  renameExceptions : Bool
  retryPolicy : RetryPolicy
  runtimeCrate : String
  verifySyntax : Bool
deriving DecidableEq

def Options.default : Options := ⟨true, .clientOnly, "errgen_runtime", true⟩

def retryPolicyVariable : String := "ERRGEN_RETRY_POLICY"

def runtimeCrateVariable : String := "ERRGEN_RUNTIME_CRATE"

def renameExceptionsVariable : String := "ERRGEN_RENAME_EXCEPTIONS"

inductive OptionFault where
  | retryPolicy (fault : PolicyFault)
  | renameExceptions (text : String)
  | runtimeCrate (fault : PathFault)
deriving DecidableEq

def OptionFault.message : OptionFault → String
  | retryPolicy f => retryPolicyVariable ++ ": " ++ f.message
  | renameExceptions s => renameExceptionsVariable ++ ": expected a boolean, got " ++ quote s
  | runtimeCrate f => f.message

def OptionFault.diagnostic (f : OptionFault) : Diagnostic := .of .invalidOption f.message

def Options.fault? (o : Options) : Option OptionFault :=
  (cratePathFault? o.runtimeCrate).map .runtimeCrate

def Options.checked (o : Options) : Except OptionFault Options :=
  match o.fault? with
  | some f => .error f
  | none => .ok o

/-- A truth value as written in the environment; case and surrounding white space do not count. -/
def flagValue? (text : String) : Option Bool :=
  let word := String.ofList ((trim text).toList.map Char.toLower)
  if word ∈ ["1", "true", "yes", "on"] then some true
  else if word ∈ ["0", "false", "no", "off"] then some false
  else none

abbrev Environment := String → Option String

def Options.withRetryPolicy (o : Options) (env : Environment) : Except OptionFault Options :=
  match env retryPolicyVariable with
  | none => .ok o
  | some text =>
    match RetryPolicy.ofName text with
    | .ok p => .ok { o with retryPolicy := p }
    | .error f => .error (.retryPolicy f)

def Options.withRuntimeCrate (o : Options) (env : Environment) : Options :=
  match env runtimeCrateVariable with
  | none => o
  | some text => { o with runtimeCrate := trim text }

def Options.withRenameExceptions (o : Options) (env : Environment) : Except OptionFault Options :=
  match env renameExceptionsVariable with
  | none => .ok o
  | some text =>
    match flagValue? text with
    | some b => .ok { o with renameExceptions := b }
    | none => .error (.renameExceptions text)

/-- The first variable that is at fault counts, the runtime path last. -/
def Options.withEnvironment (o : Options) (env : Environment) : Except OptionFault Options := do
  let o ← o.withRetryPolicy env
  let o ← (o.withRuntimeCrate env).withRenameExceptions env
  o.checked

structure Override where
  renameExceptions : Option Bool
  retryPolicy : Option RetryPolicy
  runtimeCrate : Option String
deriving DecidableEq

def Override.schema : Schema :=
  .record "OptionsOverride" true
    [("rename_exceptions", .optional, .flag), ("retry_policy", .optional, RetryPolicy.schema),
     ("runtime_crate", .optional, .text)]

def Override.ofVal : Override.schema.Val → Override
  | (renameExceptions, retryPolicy, runtimeCrate, ()) =>
    { renameExceptions, retryPolicy := retryPolicy.map .ofVal, runtimeCrate }

def Override.toVal (o : Override) : Override.schema.Val :=
  (o.renameExceptions, o.retryPolicy.map RetryPolicy.toVal, o.runtimeCrate, ())

def Override.parse (text : String) : Except Fault Override :=
  (Override.schema.parseString text).map .ofVal

def Override.toTree (o : Override) : Tree := Override.schema.write o.toVal

def Override.over (v : Override) (base : Options) : Options :=
  { base with
    renameExceptions := v.renameExceptions.getD base.renameExceptions
    retryPolicy := v.retryPolicy.getD base.retryPolicy
    runtimeCrate := v.runtimeCrate.getD base.runtimeCrate }

def Override.apply (v : Override) (base : Options) : Except OptionFault Options :=
  (v.over base).checked

end ErrorUnion
