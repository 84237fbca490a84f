import ErrorUnion.Record.Decls
import ErrorUnion.Union.Decls
import ErrorUnion.Decl.Sheet
import ErrorUnion.Options

/- From a valid model to the text of one module: a header, the declarations of every structure in
   the order of the model, then those of every operation's combined type. -/
namespace ErrorUnion
open Text

inductive GenerationFault where
  | option (fault : OptionFault)
  | resolution (fault : ResolutionFault)
  | shape (fault : ShapeFault)
  | unnamedStructure (name : String)
  | emptyIdent (fault : EmptyIdent)
  | unparsable
deriving DecidableEq

/-- An empty identifier is no fault of the model or the options, and has no diagnostic. -/
def GenerationFault.diagnosed : GenerationFault → Except EmptyIdent Diagnostic
  | option f => .ok f.diagnostic
  | resolution f => .ok f.diagnostic
  | shape f => .ok f.diagnostic
  | unnamedStructure n =>
    .ok (.of .internalBug ("structure " ++ quote n ++ " has no resolved name"))
  | emptyIdent e => .error e
  | unparsable => .ok (.of .internalBug "generated source does not parse:")

structure GeneratedModule where
  source : String
  combined : List CombinedError

def generatorId : String := "errgen@0.1.0"

def parserKeywords : List String :=
  ["abstract", "as", "async", "await", "become", "box", "break", "const", "continue", "do", "dyn",
   "else", "enum", "extern", "false", "final", "fn", "for", "if", "impl", "in", "let", "loop",
   "macro", "match", "mod", "move", "mut", "override", "priv", "pub", "ref", "return", "static",
   "struct", "trait", "true", "try", "type", "typeof", "unsafe", "unsized", "use", "virtual",
   "where", "while", "yield"]

def isPathStart (segment : String) : Bool := segment != "_" && !parserKeywords.contains segment

/-- One keyword may stand in a path behind its first segment. -/
def isPathSegment (segment : String) : Bool := segment = "try" || isPathStart segment

def isParsablePath (path : String) : Bool :=
  match colonPieces path.toList with
  | [] => true
  | first :: rest =>
    isPathStart (String.ofList first) && rest.all fun s => isPathSegment (String.ofList s)

/-- Whether the generated text can be parsed. The names of a valid model never hinder that; the
path of the runtime may, and is written for operations only. -/
def parses (m : Model) (runtime : String) : Bool :=
  m.operations.isEmpty || isParsablePath runtime

/-- A parser's answer to a text, which was generated from a model for the runtime of a path. -/
abbrev SyntaxCheck := Model → String → String → Bool

/-- Stands for a parser that goes by the path only. -/
def SyntaxCheck.byPath : SyntaxCheck := fun m runtime _ => parses m runtime

def structureItems (names : Names) (s : Structure) : Except GenerationFault (List Item) :=
  match names.structure? s.name with
  | none => .error (.unnamedStructure s.name)
  | some name => .ok (s.items name)

def headerComments (v : ValidModel) : List String :=
  ("Code generated by " ++ generatorId ++ " from namespace `" ++ trim v.model.namespaceName
      ++ "`. DO NOT EDIT.")
    :: (v.digest.map fun d => "model-sha256: " ++ d).toList

def moduleSheet (v : ValidModel) (items : List Item) : Sheet :=
  (((headerComments v).foldl Sheet.comment Sheet.empty).blank).items items

structure ModulePlan where
  names : Names
  combined : List CombinedError
  items : List Item

def ValidModel.plan (v : ValidModel) (o : Options) (classifier : Classifier) :
    Except GenerationFault ModulePlan :=
  match o.fault? with
  | some f => .error (.option f)
  | none => do
    let names ← (v.model.resolve (.standard o.renameExceptions) o.runtimeCrate).mapError
      .resolution
    let sets ← (v.model.errorSets names).mapError .shape
    let records ← v.model.structures.mapM (structureItems names)
    let combined ← (sets.mapM fun (s : ErrorSet) => s.combine classifier).mapError .emptyIdent
    .ok { names, combined,
          items := records.flatten ++ combined.flatMap (·.items o.runtimeCrate) }

def ValidModel.generateChecked (v : ValidModel) (check : SyntaxCheck) (o : Options)
    (classifier : Classifier) : Except GenerationFault GeneratedModule := do
  let plan ← v.plan o classifier
  let source := (moduleSheet v plan.items).text
  if o.verifySyntax && !check v.model o.runtimeCrate source then .error .unparsable
  else .ok { source, combined := plan.combined }

inductive SourceFault where
  | load (fault : LoadFault)
  | generation (fault : GenerationFault)
deriving DecidableEq

def SourceFault.diagnosed : SourceFault → Except EmptyIdent Diagnostic
  | load f => .ok f.diagnostic
  | generation f => f.diagnosed

def generateSource (check : SyntaxCheck) (document : String) (o : Options) :
    Except SourceFault String := do
  let v ← (ValidModel.load document).mapError .load
  let g ← (v.generateChecked check o o.retryPolicy.classify).mapError .generation
  .ok g.source

end ErrorUnion
