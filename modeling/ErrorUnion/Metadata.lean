import ErrorUnion.Union.Retry

/- What the protocol layer knows of an error without a modeled shape, and its builder. -/
namespace ErrorUnion

structure Metadata where
  code : Option String
  message : Option String
  retryKind : Option RetryKind
deriving DecidableEq

def Metadata.empty : Metadata := ⟨none, none, none⟩

def Metadata.display (m : Metadata) : String :=
  match m.code, m.message with
  | some c, some t => c ++ ": " ++ t
  | some c, none => c
  | none, some t => t
  | none, none => "unknown error"

/-- What the runtime asks of any error: its category and its code. -/
structure ErrorKindView where
  retryKind : Option RetryKind
  code : Option String
deriving DecidableEq

def Metadata.kindView (m : Metadata) : ErrorKindView := ⟨m.retryKind, m.code⟩

structure MetadataBuilder where
  code : Option String
  message : Option String
  retryKind : Option RetryKind
deriving DecidableEq

namespace MetadataBuilder

def empty : MetadataBuilder := ⟨none, none, none⟩

def withCode (b : MetadataBuilder) (code : String) : MetadataBuilder := { b with code := some code }

def setCode (b : MetadataBuilder) (code : Option String) : MetadataBuilder := { b with code }

def withMessage (b : MetadataBuilder) (message : String) : MetadataBuilder :=
  { b with message := some message }

def setMessage (b : MetadataBuilder) (message : Option String) : MetadataBuilder :=
  { b with message }

def withRetryKind (b : MetadataBuilder) (kind : RetryKind) : MetadataBuilder :=
  { b with retryKind := some kind }

def build (b : MetadataBuilder) : Metadata := ⟨b.code, b.message, b.retryKind⟩

end MetadataBuilder

inductive MetadataCall where
  | code (code : String)
  | setCode (code : Option String)
  | message (message : String)
  | setMessage (message : Option String)
  | retryKind (kind : RetryKind)
deriving DecidableEq

def MetadataCall.run (b : MetadataBuilder) : MetadataCall → MetadataBuilder
  | code c => b.withCode c
  | setCode c => b.setCode c
  | message m => b.withMessage m
  | setMessage m => b.setMessage m
  | retryKind k => b.withRetryKind k

end ErrorUnion
