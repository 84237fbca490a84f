import ErrorUnion.Command.Failure
import ErrorUnion.Command.Help
import ErrorUnion.Command.LogFilter
import ErrorUnion.Diagnostic.Basic

/- Running the command on a tree of files, with a parser for what is generated. A run never looks at
   anything but the tree, its arguments and the environment, and all that it changes is in its
   outcome. -/
namespace ErrorUnion
open ErrorUnion.Path

inductive Notice where
  | usage
  | event (event : LogEvent)
  | line (text : String)
deriving DecidableEq

inductive Verdict where
  | clean
  | drift
deriving DecidableEq

structure Turn (α : Type) where
  files : FileTree
  notices : List Notice
  result : Except Failure α

def checkOutput (t : FileTree) (out source : String) : Turn Verdict :=
  match t.readText out with
  | .error (.file .notFound) => ⟨t, [.line ("missing generated output: " ++ out)], .ok .drift⟩
  | .error c => ⟨t, [], .error ⟨["read existing output: " ++ out], c⟩⟩
  | .ok current =>
    if current = source then ⟨t, [], .ok .clean⟩
    else ⟨t, [.line ("generated output differs: " ++ out)], .ok .drift⟩

def writeOutput (t : FileTree) (out source : String) : Turn Verdict :=
  let (t, fault) := match parent? out with
    | some folder => ((t.makeFolders folder).1,
        (t.makeFolders folder).2.map fun f =>
          Failure.mk ["create output dir: " ++ folder] (.file f))
    | none => (t, none)
  match fault with
  | some f => ⟨t, [], .error f⟩
  | none =>
    match t.write out source.toUTF8 with
    | .error f => ⟨t, [], .error ⟨["write output: " ++ out], .file f⟩⟩
    | .ok t =>
      ⟨t, [.event ⟨.debug, "errgen", "wrote generated module", [("path", out)]⟩], .ok .clean⟩

def runGenerate (parser : SyntaxCheck) (t : FileTree) (model out : String) (o : Options)
    (check : Bool) : Turn Verdict :=
  match t.readText model with
  | .error c => ⟨t, [], .error ⟨["read model: " ++ model], c⟩⟩
  | .ok document =>
    let events := (sourceLog parser document o).map Notice.event
    match generateSource parser document o with
    | .error f => ⟨t, events, .error ⟨["generate from model: " ++ model], f.cause⟩⟩
    | .ok source =>
      let turn := if check then checkOutput t out source else writeOutput t out source
      { turn with notices := events ++ turn.notices }

def OptionFault.failure (f : OptionFault) : Failure := .of (.diagnostic f.diagnostic)

def runGenerateArgs (parser : SyntaxCheck) (t : FileTree) (env : Environment)
    (a : GenerateArgs) : Turn Verdict :=
  match Options.default.withEnvironment env with
  | .error f => ⟨t, [], .error f.failure⟩
  | .ok o => match a.flags.apply o with
    | .error f => ⟨t, [], .error f.failure⟩
    | .ok o => runGenerate parser t a.model a.out o a.check

def runEntry (parser : SyntaxCheck) (t : FileTree) (folder : String) (o : Options)
    (check : Bool) (index : Nat) (e : ManifestEntry) : Turn Verdict :=
  let turn : Turn Verdict := match e.override.apply o with
    | .error f => ⟨t, [], .error f.failure⟩
    | .ok o => runGenerate parser t (join folder e.model) (join folder e.out) o check
  { turn with
    result := turn.result.mapError fun f =>
      f.within ("manifest entry[" ++ toString index ++ "] " ++ e.model) }

/-- The entries in order. A failure ends the run, unless it goes into the report; one without a
diagnostic cannot. -/
def runEntries (parser : SyntaxCheck) (folder : String) (o : Options)
    (check reportJson : Bool) : FileTree → Nat → Report → List ManifestEntry → Turn Report
  | t, _, report, [] => ⟨t, [], .ok report⟩
  | t, index, report, e :: rest =>
    let turn := runEntry parser t folder o check index e
    let next := fun report =>
      let later := runEntries parser folder o check reportJson turn.files (index + 1) report rest
      { later with notices := turn.notices ++ later.notices }
    match turn.result with
    | .ok .clean => next report
    | .ok .drift => next (report.addDrift (join folder e.out))
    | .error f =>
      match reportJson, f.diagnostic? with
      | true, some d => next (report.addDiagnostic d)
      | _, _ => ⟨turn.files, turn.notices, .error f⟩

/-- Entries are relative to the folder of their manifest. -/
def manifestFolder (manifest : String) : String := (parent? manifest).getD "."

def readManifest (t : FileTree) (path : String) : Except Failure Manifest :=
  match t.read path with
  | .error f => .error ⟨["read manifest: " ++ path], .file f⟩
  | .ok bytes => match Manifest.parse bytes with
    | .error f => .error ⟨["parse manifest JSON: " ++ path], .document f⟩
    | .ok m =>
      if m.isCurrent then .ok m else .error (.of (.manifestVersion m.schemaVersion))

def runBatch (parser : SyntaxCheck) (t : FileTree) (env : Environment) (a : BatchArgs) :
    Turn Report :=
  match readManifest t a.manifest with
  | .error f => ⟨t, [], .error f⟩
  | .ok m =>
    match Options.default.withEnvironment env with
    | .error f => ⟨t, [], .error f.failure⟩
    | .ok o =>
      runEntries parser (manifestFolder a.manifest) o a.check a.reportJson t 0 Report.clean
        m.entries

structure Outcome where
  exit : Nat
  stdout : String
  stderr : List Notice
  files : FileTree

def Turn.outcome (turn : Turn Verdict) (stdout : String) : Outcome :=
  match turn.result with
  | .ok .clean => ⟨0, stdout, turn.notices, turn.files⟩
  | .ok .drift => ⟨1, stdout, turn.notices, turn.files⟩
  | .error f => ⟨2, stdout, turn.notices ++ [.line f.message], turn.files⟩

def Report.verdict (r : Report) : Except Failure Verdict :=
  if r.diagnostics ≠ [] then .error (.of (.entriesFailed r.diagnostics.length))
  else if r.drifted ≠ [] then .ok .drift
  else .ok .clean

def batchOutcome (turn : Turn Report) (reportJson : Bool) : Outcome :=
  match turn.result with
  | .error f => Turn.outcome ⟨turn.files, turn.notices, .error f⟩ ""
  | .ok r =>
    Turn.outcome ⟨turn.files, turn.notices, r.verdict⟩ (if reportJson then r.pretty ++ "\n" else "")

def run (parser : SyntaxCheck) (t : FileTree) (env : Environment) : Subcommand → Outcome
  | .generate a => (runGenerateArgs parser t env a).outcome ""
  | .batch a => batchOutcome (runBatch parser t env a) a.reportJson
  | .catalogue => ⟨0, Code.catalogue, [], t⟩

def logVariable : String := "RUST_LOG"

/-- The environment decides on the log if its filter can be read; otherwise verbose output goes
down to decisions. -/
def logFilter (env : Environment) (verbose : Bool) : LogFilter :=
  ((env logVariable).bind LogFilter.parse).getD
    [.upTo (if verbose then LogLevel.debug.rank else LogLevel.warn.rank)]

def Notice.isShown (f : LogFilter) : Notice → Bool
  | .event e => f.shows e
  | _ => true

def runArgs (parser : SyntaxCheck) (t : FileTree) (env : Environment) (args : List String) :
    Outcome :=
  match Invocation.ofArgs args with
  | .error .usage => ⟨2, "", [.usage], t⟩
  | .error (.help topic) => ⟨0, topic.text, [], t⟩
  | .ok i =>
    let outcome := run parser t env i.command
    { outcome with stderr := outcome.stderr.filter (Notice.isShown (logFilter env i.verbose)) }

end ErrorUnion
