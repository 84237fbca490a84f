import ErrorUnion.Options

/- The arguments of the command. Options follow the name of a subcommand in any order, each at most
   once; the option for verbose output may also stand in front of the name. -/
namespace ErrorUnion

structure GenerateArgs where
  model : String
  out : String
  check : Bool
  flags : Override
deriving DecidableEq

structure BatchArgs where
  manifest : String
  check : Bool
  reportJson : Bool
deriving DecidableEq

inductive Subcommand where
  | generate (args : GenerateArgs)
  | batch (args : BatchArgs)
  | catalogue
deriving DecidableEq

structure Invocation where
  verbose : Bool
  command : Subcommand
deriving DecidableEq

inductive HelpTopic where
  | program
  | generate
  | batch
  | catalogue
  | help
deriving DecidableEq

inductive Refusal where
  | usage
  | help (topic : HelpTopic)
deriving DecidableEq

inductive OptionKind where
  | flag
  | path
  | policy
  | text
deriving DecidableEq

abbrev OptionTable := List (String × OptionKind)

def generateOptions : OptionTable :=
  [("model", .path), ("out", .path), ("check", .flag), ("retry-policy", .policy),
   ("runtime-crate", .text), ("no-rename-exceptions", .flag), ("verbose", .flag)]

def batchOptions : OptionTable :=
  [("manifest", .path), ("check", .flag), ("report-json", .flag), ("verbose", .flag)]

def plainOptions : OptionTable := [("verbose", .flag)]

abbrev Given := List (String × String)

def OptionKind.accepts : OptionKind → String → Bool
  | flag, _ => false
  | path, v => v != ""
  | policy, v => match RetryPolicy.ofName v with
    | .ok _ => true
    | .error _ => false
  | text, _ => true

def splitEquals : List Char → List Char × Option (List Char)
  | [] => ([], none)
  | c :: r =>
    if c = '=' then ([], some r)
    else
      let (name, value) := splitEquals r
      (c :: name, value)

/-- An argument that begins with a dash is no value, the dash alone excepted. -/
def isValue (arg : String) : Bool :=
  match arg.toList with
  | '-' :: _ :: _ => false
  | _ => true

def give (given : Given) (name value : String) : Except Refusal Given :=
  if (given.lookup name).isSome then .error .usage else .ok ((name, value) :: given)

def shortFlags (topic : HelpTopic) (given : Given) : List Char → Except Refusal Given
  | [] => .ok given
  | 'v' :: r => do shortFlags topic (← give given "verbose" "") r
  | 'h' :: _ => .error (.help topic)
  | _ => .error .usage

def readOptions (topic : HelpTopic) (table : OptionTable) (given : Given) :
    List String → Except Refusal Given
  | [] => .ok given
  | arg :: rest =>
    match arg.toList with
    | ['-', '-'] => if rest = [] then .ok given else .error .usage
    | '-' :: '-' :: r =>
      let (name, attached) := splitEquals r
      let name := String.ofList name
      if name = "help" && attached.isNone then .error (.help topic)
      else match table.lookup name, attached, rest with
        | none, _, _ => .error .usage
        | some .flag, none, rest => do readOptions topic table (← give given name "") rest
        | some .flag, some _, _ => .error .usage
        | some kind, some v, rest =>
          if kind.accepts (String.ofList v) then do
            readOptions topic table (← give given name (String.ofList v)) rest
          else .error .usage
        | some _, none, [] => .error .usage
        | some kind, none, v :: rest =>
          if isValue v && kind.accepts v then do
            readOptions topic table (← give given name v) rest
          else .error .usage
    | '-' :: c :: r => do readOptions topic table (← shortFlags topic given (c :: r)) rest
    | _ => .error .usage

def Given.has (g : Given) (name : String) : Bool := (g.lookup name).isSome

def Given.get (g : Given) (name : String) : Except Refusal String :=
  match g.lookup name with
  | some v => .ok v
  | none => .error .usage

def Given.override (g : Given) : Override where
  renameExceptions := if g.has "no-rename-exceptions" then some false else none
  retryPolicy := (g.lookup "retry-policy").bind fun v => (RetryPolicy.ofName v).toOption
  runtimeCrate := g.lookup "runtime-crate"

def helpTopic? : List String → Option HelpTopic
  | [] => some .program
  | ["gen"] => some .generate
  | ["batch"] => some .batch
  | ["diagnostics-md"] => some .catalogue
  | ["help"] => some .help
  | _ => none

/-- The options of a subcommand; `verbose` if that was asked for before its name. -/
def readSubcommand (verbose : Bool) (name : String) (args : List String) :
    Except Refusal Invocation :=
  if name = "gen" then do
    let g ← readOptions .generate generateOptions [] args
    let flags := g.override
    let model ← g.get "model"
    let out ← g.get "out"
    .ok ⟨verbose || g.has "verbose", .generate ⟨model, out, g.has "check", flags⟩⟩
  else if name = "batch" then do
    let g ← readOptions .batch batchOptions [] args
    let manifest ← g.get "manifest"
    .ok ⟨verbose || g.has "verbose", .batch ⟨manifest, g.has "check", g.has "report-json"⟩⟩
  else if name = "diagnostics-md" then do
    let g ← readOptions .catalogue plainOptions [] args
    .ok ⟨verbose || g.has "verbose", .catalogue⟩
  else if name = "help" then
    match helpTopic? args with
    | some topic => .error (.help topic)
    | none => .error .usage
  else .error .usage

def readInvocation (given : Given) : List String → Except Refusal Invocation
  | [] => .error .usage
  | arg :: rest =>
    match arg.toList with
    | ['-', '-'] => .error .usage
    | '-' :: '-' :: r =>
      if r = "verbose".toList then do readInvocation (← give given "verbose" "") rest
      else if r = "help".toList then .error (.help .program)
      else .error .usage
    | '-' :: c :: r => do readInvocation (← shortFlags .program given (c :: r)) rest
    | _ => readSubcommand (given.has "verbose") arg rest

def Invocation.ofArgs (args : List String) : Except Refusal Invocation := readInvocation [] args

end ErrorUnion
