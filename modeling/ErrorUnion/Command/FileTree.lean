import ErrorUnion.Command.Path

/- A tree of files, devices and folders without links, and the operations of a program on it. Each
   of them is known by its path from the root, given as a list of names. A file or device may be
   closed to reading or to writing. Left out are rights to folders, which are all open here, a mask
   for new files, which can be read and written, devices that wait or that read differently the next
   time, and the faults of a disk, such as one that is full. -/
namespace ErrorUnion
open ErrorUnion.Path

structure Access where
  reads : Bool
  writes : Bool

def Access.full : Access := ⟨true, true⟩

inductive Node where
  | file (bytes : ByteArray) (access : Access)
  /-- Gives the same bytes at every reading, whatever has been written to it. -/
  | device (bytes : ByteArray) (access : Access)
  | folder

structure FileTree where
  nodes : List (List String × Node)
  /-- The working folder, from which relative paths start. -/
  here : List String

inductive FileFault where
  | notFound
  | alreadyThere
  | notFolder
  | isFolder
  | denied
  | nameTooLong
  | nulInName
deriving DecidableEq

def FileFault.message : FileFault → String
  | notFound => "No such file or directory (os error 2)"
  | alreadyThere => "File exists (os error 17)"
  | notFolder => "Not a directory (os error 20)"
  | isFolder => "Is a directory (os error 21)"
  | denied => "Permission denied (os error 13)"
  | nameTooLong => "File name too long (os error 36)"
  | nulInName => "file name contained an unexpected NUL byte"

def Node.read : Node → Except FileFault ByteArray
  | .file bytes access | .device bytes access => if access.reads then .ok bytes else .error .denied
  | .folder => .error .isFolder

def Node.written (bytes : ByteArray) : Option Node → Except FileFault Node
  | none => .ok (.file bytes .full)
  | some (.file _ access) => if access.writes then .ok (.file bytes access) else .error .denied
  | some (.device given access) =>
    if access.writes then .ok (.device given access) else .error .denied
  | some .folder => .error .isFolder

def nameLimit : Nat := 255

def pathLimit : Nat := 4095

namespace FileTree

/-- The root is always a folder. -/
def node? (t : FileTree) (path : List String) : Option Node :=
  if path = [] then some .folder else t.nodes.lookup path

def hasFolder (t : FileTree) (path : List String) : Bool :=
  match t.node? path with
  | some .folder => true
  | _ => false

def putNode (path : List String) (n : Node) :
    List (List String × Node) → List (List String × Node)
  | [] => [(path, n)]
  | (p, m) :: r => if p = path then (p, n) :: r else (p, m) :: putNode path n r

def put (t : FileTree) (path : List String) (n : Node) : FileTree :=
  { t with nodes := putNode path n t.nodes }

/-- What has a path; nothing has one whose last name is too long. -/
def find (t : FileTree) (path : List String) : Except FileFault (Option Node) :=
  if path.getLast?.any fun name => nameLimit < name.utf8ByteSize then .error .nameTooLong
  else .ok (t.node? path)

def walk (t : FileTree) : List String → List String → Except FileFault (List String)
  | folder, [] => .ok folder
  | folder, name :: rest =>
    if name = "." then walk t folder rest
    else if name = ".." then walk t folder.dropLast rest
    else match t.find (folder ++ [name]) with
      | .error f => .error f
      | .ok none => .error .notFound
      | .ok (some .folder) => walk t (folder ++ [name]) rest
      | .ok (some _) => .error .notFolder

inductive Place where
  | folder (path : List String)
  /-- A name in a folder that is there; `slash` tells whether a slash follows the name. -/
  | entry (path : List String) (slash : Bool)

def locate (t : FileTree) (p : String) : Except FileFault Place :=
  if '\x00' ∈ p.toList then .error .nulInName
  else if p = "" then .error .notFound
  else if pathLimit < p.utf8ByteSize then .error .nameTooLong
  else
    let start := if isAbsolute p then [] else t.here
    match (names p).reverse with
    | [] => .ok (.folder [])
    | last :: before =>
      if last = "." || last = ".." then (t.walk start (names p)).map .folder
      else (t.walk start before.reverse).map fun folder =>
        .entry (folder ++ [last]) (endsWithSlash p)

def read (t : FileTree) (p : String) : Except FileFault ByteArray := do
  match ← t.locate p with
  | .folder _ => .error .isFolder
  | .entry path slash =>
    match ← t.find path with
    | none => .error .notFound
    | some .folder => .error .isFolder
    | some node => if slash then .error .notFolder else node.read

def write (t : FileTree) (p : String) (bytes : ByteArray) : Except FileFault FileTree := do
  match ← t.locate p with
  | .folder _ => .error .isFolder
  | .entry path slash =>
    if slash then .error .isFolder
    else return t.put path (← Node.written bytes (← t.find path))

def makeFolder (t : FileTree) (p : String) : Except FileFault FileTree := do
  match ← t.locate p with
  | .folder _ => .error .alreadyThere
  | .entry path _ =>
    match ← t.find path with
    | none => .ok (t.put path .folder)
    | some _ => .error .alreadyThere

def isFolderAt (t : FileTree) (p : String) : Bool :=
  match t.locate p with
  | .ok (.folder _) => true
  | .ok (.entry path _) => t.hasFolder path
  | .error _ => false

/-- Makes a folder whose parent is there; one that is there already will do. -/
def ensureFolder (t : FileTree) (p : String) : Except FileFault FileTree :=
  match t.makeFolder p with
  | .ok t => .ok t
  | .error f => if t.isFolderAt p then .ok t else .error f

/-- Folders that were made on the way stay, also when a later one fails. -/
def makeFoldersWithin : Nat → FileTree → String → FileTree × Option FileFault
  | 0, t, _ => (t, some .notFound)
  | steps + 1, t, p =>
    if p = "" then (t, none)
    else match t.ensureFolder p with
      | .ok t => (t, none)
      | .error .notFound =>
        match parent? p with
        | none => (t, some .notFound)
        | some q =>
          match makeFoldersWithin steps t q with
          | (t, some f) => (t, some f)
          | (t, none) =>
            match t.ensureFolder p with
            | .ok t => (t, none)
            | .error f => (t, some f)
      | .error f => (t, some f)

def makeFolders (t : FileTree) (p : String) : FileTree × Option FileFault :=
  makeFoldersWithin (p.length + 1) t p

def changedFiles (t before : FileTree) : List (List String × ByteArray) :=
  t.nodes.filterMap fun
    | (path, .file bytes _) =>
      match before.node? path with
      | some (.file old _) => if old.toList = bytes.toList then none else some (path, bytes)
      | _ => some (path, bytes)
    | _ => none

def newFolders (t before : FileTree) : List (List String) :=
  t.nodes.filterMap fun
    | (path, .folder) => if before.hasFolder path then none else some path
    | _ => none

end FileTree

end ErrorUnion
