import ErrorUnion.Generation

/- What the generator tells of its decisions, by level. -/
namespace ErrorUnion

inductive LogLevel where
  | error
  | warn
  | info
  | debug
  | trace
deriving DecidableEq

def LogLevel.name : LogLevel → String
  | error => "ERROR"
  | warn => "WARN"
  | info => "INFO"
  | debug => "DEBUG"
  | trace => "TRACE"

def LogLevel.rank : LogLevel → Nat
  | error => 1
  | warn => 2
  | info => 3
  | debug => 4
  | trace => 5

structure LogEvent where
  level : LogLevel
  origin : String
  message : String
  fields : List (String × String)
deriving DecidableEq

def LogEvent.text (e : LogEvent) : String :=
  e.level.name ++ " " ++ e.message
    ++ String.join (e.fields.map fun (name, value) => " " ++ name ++ "=" ++ value)

/-- The message counts as a field. -/
def LogEvent.fieldNames (e : LogEvent) : List String := "message" :: e.fields.map (·.1)

def resolutionLog (m : Model) (o : Options) : List LogEvent :=
  (namedBefore (.standard o.renameExceptions) (pathRoot o.runtimeCrate) [] m.structures).map
    fun n =>
      ⟨.trace, "errgen_core::naming", "resolved structure name",
        [("wire", n.wire), ("ident", n.ident)]⟩

def deprecationLog (sets : List ErrorSet) : List LogEvent :=
  sets.flatMap fun set =>
    (set.errors.filter fun e => e.deprecation.isSome).map fun e =>
      ⟨.debug, "errgen_core::normalize", "deprecated error shape",
        [("operation", set.operation.wire), ("shape", e.name.wire)]⟩

def combinedLog (c : CombinedError) : LogEvent :=
  ⟨.debug, "errgen_core::combined", "built combined error type",
    [("operation", c.operation.wire), ("declared", toString c.shapeVariants.length),
     ("variants", toString c.variants.length)]⟩

def generatedLog (m : Model) (g : GeneratedModule) : LogEvent :=
  ⟨.info, "errgen_core::generate", "generated error module",
    [("namespace", m.namespaceName), ("structures", toString m.structures.length),
     ("operations", toString g.combined.length), ("bytes", toString g.source.utf8ByteSize)]⟩

def ValidModel.generationLog (v : ValidModel) (check : SyntaxCheck) (o : Options) :
    List LogEvent :=
  if o.fault?.isSome then []
  else
    resolutionLog v.model o ++
    match v.plan o o.retryPolicy.classify with
    | .error _ => []
    | .ok plan =>
      (match v.model.errorSets plan.names with
        | .ok sets => deprecationLog sets
        | .error _ => [])
      ++ plan.combined.map combinedLog
      ++ match v.generateChecked check o o.retryPolicy.classify with
        | .ok g => [generatedLog v.model g]
        | .error _ => []

def sourceLog (check : SyntaxCheck) (document : String) (o : Options) : List LogEvent :=
  match ValidModel.load document with
  | .ok v => v.generationLog check o
  | .error _ => []

end ErrorUnion
