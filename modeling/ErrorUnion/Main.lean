import ErrorUnion.Command.Run

/- The command on the files of this machine: the files that a run can look at are read into a tree,
   the run is made on the tree, and what it changed there is written back. -/
namespace ErrorUnion
open ErrorUnion.Path

def trailFrom : List String → List String → List (List String)
  | place, [] => [place]
  | place, name :: rest =>
    if name = "." then trailFrom place rest
    else if name = ".." then place :: trailFrom place.dropLast rest
    else place :: trailFrom (place ++ [name]) rest

def trail (here : List String) (p : String) : List (List String) :=
  trailFrom (if isAbsolute p then [] else here) (names p)

def Subcommand.paths : Subcommand → List String
  | .generate a => [a.model, a.out]
  | .batch a => [a.manifest]
  | .catalogue => []

def Subcommand.entryPaths (t : FileTree) : Subcommand → List String
  | .batch a => match readManifest t a.manifest with
    | .ok m => m.entries.flatMap fun e =>
        [join (manifestFolder a.manifest) e.model, join (manifestFolder a.manifest) e.out]
    | .error _ => []
  | _ => []

def environmentNames : List String :=
  [retryPolicyVariable, runtimeCrateVariable, renameExceptionsVariable, logVariable]

def placeText (place : List String) : String := String.join (place.map ("/" ++ ·))

/-- A device is not opened, as it might wait, but taken for one that gives nothing. -/
def readPlace (t : FileTree) (place : List String) : IO FileTree := do
  let path := (← IO.currentDir) / placeText place
  if place = [] || (t.node? place).isSome then return t
  else if ← path.isDir then return t.put place .folder
  else if !(← path.pathExists) then return t
  else if (← path.metadata).type == .other then return t.put place (.device .empty .full)
  else
    let opened ← (IO.FS.Handle.mk path .append).toBaseIO
    let read ← (IO.FS.readBinFile path).toBaseIO
    return t.put place (.file (read.toOption.getD .empty) ⟨read.isOk, opened.isOk⟩)

def readPaths (t : FileTree) (paths : List String) : IO FileTree :=
  (paths.flatMap (trail t.here)).foldlM readPlace t

def writeChanges (before after : FileTree) : IO Unit := do
  for place in after.newFolders before do
    IO.FS.createDirAll (placeText place)
  for (place, bytes) in after.changedFiles before do
    IO.FS.writeBinFile (placeText place) bytes

def Notice.text : Notice → String
  | .usage => "error: these arguments are not understood\n\nFor more information, try '--help'."
  | .event e => e.text
  | .line text => text

def runHere (args : List String) : IO UInt32 := do
  let empty : FileTree := ⟨[], names (← IO.currentDir).toString⟩
  let values ← environmentNames.mapM fun name => do return (name, ← IO.getEnv name)
  let files ← match Invocation.ofArgs args with
    | .ok i => do
      let files ← readPaths empty i.command.paths
      readPaths files (i.command.entryPaths files)
    | .error _ => pure empty
  let outcome := runArgs .byPath files (fun name => (values.lookup name).join) args
  writeChanges files outcome.files
  IO.print outcome.stdout
  for notice in outcome.stderr do
    IO.eprintln notice.text
  return outcome.exit.toUInt32

end ErrorUnion

def main (args : List String) : IO UInt32 := ErrorUnion.runHere args
