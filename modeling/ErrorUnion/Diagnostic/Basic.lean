import ErrorUnion.Diagnostic.Code
import ErrorUnion.Json.Reader
import ErrorUnion.Json.Writer

/- Diagnostics: what is told about a fault in a model or in the options. A batch run puts those of
   its entries into a report, to be printed as a JSON document. -/
namespace ErrorUnion
open Json

structure Diagnostic where
  code : Code
  phase : Phase
  severity : Severity
  message : String
  help : Option String
deriving DecidableEq

def Diagnostic.error (code : Code) (phase : Phase) (message : String) : Diagnostic :=
  ⟨code, phase, .error, message, code.defaultHelp⟩

def Diagnostic.of (code : Code) (message : String) : Diagnostic := .error code code.phase message

def Diagnostic.display (d : Diagnostic) : String :=
  d.code.label ++ " " ++ d.phase.name ++ " " ++ d.severity.name ++ ": " ++ d.message
    ++ match d.help with
      | some help => "\n  help: " ++ help
      | none => ""

def Code.schema : Schema := .tag Code.parseError.name (Code.all.tail.map Code.name)

def Code.ofVal (i : Code.schema.Val) : Code := (Code.all[i.val]?).getD .parseError

def Code.toVal (c : Code) : Code.schema.Val := Fin.ofNat 18 (Code.all.idxOf c)

def Phase.schema : Schema := .tag "Parse" ["Validate", "Resolve", "Emit", "Internal"]

def Phase.all : List Phase := [.parse, .validate, .resolve, .emit, .internal]

def Phase.ofVal (i : Phase.schema.Val) : Phase := (Phase.all[i.val]?).getD .parse

def Phase.toVal (p : Phase) : Phase.schema.Val := Fin.ofNat 5 (Phase.all.idxOf p)

def Severity.schema : Schema := .tag "Error" ["Warning"]

def Severity.ofVal : Severity.schema.Val → Severity
  | ⟨0, _⟩ => .error
  | ⟨_ + 1, _⟩ => .warning

def Severity.toVal : Severity → Severity.schema.Val
  | .error => ⟨0, by decide⟩
  | .warning => ⟨1, by decide⟩

def Diagnostic.schema : Schema :=
  .record "Diagnostic" false
    [("code", .required, Code.schema), ("phase", .required, Phase.schema),
     ("severity", .required, Severity.schema), ("message", .required, .text),
     ("help", .nullable, .text)]

def Diagnostic.ofVal : Diagnostic.schema.Val → Diagnostic
  | (code, phase, severity, message, help, ()) =>
    { code := .ofVal code, phase := .ofVal phase, severity := .ofVal severity, message, help }

def Diagnostic.toVal (d : Diagnostic) : Diagnostic.schema.Val :=
  (d.code.toVal, d.phase.toVal, d.severity.toVal, d.message, d.help, ())

def Diagnostic.parse (text : String) : Except Fault Diagnostic :=
  (Diagnostic.schema.parseString text).map .ofVal

def Diagnostic.toTree (d : Diagnostic) : Tree := Diagnostic.schema.write d.toVal

structure Report where
  ok : Bool
  diagnostics : List Diagnostic
  drifted : List String
deriving DecidableEq

def Report.schemaVersion : String := "errgen.report@0.1.0"

def Report.clean : Report := ⟨true, [], []⟩

/-- A warning leaves the outcome as it is. -/
def Report.addDiagnostic (r : Report) (d : Diagnostic) : Report :=
  { r with ok := r.ok && d.severity != .error, diagnostics := r.diagnostics ++ [d] }

def Report.addDrift (r : Report) (path : String) : Report :=
  { r with ok := false, drifted := r.drifted ++ [path] }

/-- The list of drifted outputs is left out when it is empty. -/
def Report.toTree (r : Report) : Tree :=
  .object ([("schema_version", .text Report.schemaVersion), ("ok", .flag r.ok),
      ("diagnostics", .list (r.diagnostics.map Diagnostic.toTree))]
    ++ if r.drifted = [] then [] else [("drifted", .list (r.drifted.map .text))])

def Report.pretty (r : Report) : String := String.ofList (r.toTree.pretty 0)

end ErrorUnion
