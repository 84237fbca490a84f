import ErrorUnion.Command.FileTree
import ErrorUnion.Command.Manifest
import ErrorUnion.Generation

/- Why a command fails: a cause, and what was being done when it came up, the widest first. -/
namespace ErrorUnion
open Text

inductive Cause where
  | diagnostic (d : Diagnostic)
  | emptyIdent (fault : EmptyIdent)
  | file (fault : FileFault)
  | notText
  | document (fault : Json.Fault)
  | manifestVersion (found : String)
  | entriesFailed (count : Nat)
deriving DecidableEq

def Cause.message : Cause → String
  | diagnostic d => d.display
  | emptyIdent f => f.message
  | file f => f.message
  | notText => "stream did not contain valid UTF-8"
  | document f => f.message
  | manifestVersion found =>
    "manifest schema_version mismatch: expected " ++ Manifest.currentVersion ++ " got "
      ++ quote found
  | entriesFailed n => toString n ++ " manifest entries failed"

structure Failure where
  contexts : List String
  cause : Cause
deriving DecidableEq

def Failure.of (cause : Cause) : Failure := ⟨[], cause⟩

def Failure.within (f : Failure) (context : String) : Failure :=
  { f with contexts := context :: f.contexts }

def Failure.diagnostic? (f : Failure) : Option Diagnostic :=
  match f.cause with
  | .diagnostic d => some d
  | _ => none

def Failure.top (f : Failure) : String := f.contexts.headD f.cause.message

def Failure.message (f : Failure) : String := joinWith ": " (f.contexts ++ [f.cause.message])

def SourceFault.cause (f : SourceFault) : Cause :=
  match f.diagnosed with
  | .ok d => .diagnostic d
  | .error e => .emptyIdent e

def FileTree.readText (t : FileTree) (p : String) : Except Cause String :=
  match t.read p with
  | .error f => .error (.file f)
  | .ok bytes => match String.fromUTF8? bytes with
    | some s => .ok s
    | none => .error .notText

def FileTree.loadModel (t : FileTree) (p : String) : Except Failure ValidModel :=
  match t.readText p with
  | .error c => .error ⟨["read model: " ++ p], c⟩
  | .ok text => match ValidModel.load text with
    | .error f => .error ⟨["load model: " ++ p], .diagnostic f.diagnostic⟩
    | .ok v => .ok v

end ErrorUnion
