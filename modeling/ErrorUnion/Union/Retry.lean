import ErrorUnion.Union.Shape
import ErrorUnion.Json.Reader
import ErrorUnion.Text.Pieces

/- Retry categories of errors, and the policies that assign them to shapes. -/
namespace ErrorUnion
open Json Text

inductive RetryKind where
  | transient
  | throttling
  | server
  | client
deriving DecidableEq

def RetryKind.variant : RetryKind → String
  | transient => "TransientError"
  | throttling => "ThrottlingError"
  | server => "ServerError"
  | client => "ClientError"

def RetryKind.text : RetryKind → String
  | transient => "transient_error"
  | throttling => "throttling_error"
  | server => "server_error"
  | client => "client_error"

abbrev Classifier := ErrorShape → Option RetryKind

inductive RetryPolicy where
  | clientOnly
  | faultSide
deriving DecidableEq

def RetryPolicy.name : RetryPolicy → String
  | clientOnly => "client-only"
  | faultSide => "fault-side"

structure PolicyFault where
  text : String
deriving DecidableEq

def PolicyFault.message (f : PolicyFault) : String :=
  "unknown retry policy " ++ quote f.text ++ " (expected client-only or fault-side)"

/-- White space around the name of a policy does not count. -/
def RetryPolicy.ofName (text : String) : Except PolicyFault RetryPolicy :=
  let text := trim text
  if text = "client-only" then .ok .clientOnly
  else if text = "fault-side" then .ok .faultSide
  else .error ⟨text⟩

def RetryPolicy.schema : Schema := .tag "client-only" ["fault-side"]

def RetryPolicy.ofVal : RetryPolicy.schema.Val → RetryPolicy
  | ⟨0, _⟩ => .clientOnly
  | ⟨_ + 1, _⟩ => .faultSide

def RetryPolicy.toVal : RetryPolicy → RetryPolicy.schema.Val
  | .clientOnly => ⟨0, by decide⟩
  | .faultSide => ⟨1, by decide⟩

/-- Only retryable shapes get a kind. By fault side, throttling goes before the side; otherwise
only errors of the client are classified. -/
def RetryPolicy.classify : RetryPolicy → Classifier
  | policy, shape =>
    if !shape.retryable then none
    else match policy, shape.fault with
      | .clientOnly, .client => some .client
      | .clientOnly, .server => none
      | .faultSide, side =>
        if shape.throttling then some .throttling
        else match side with
          | .client => some .client
          | .server => some .server

structure Classification where
  fault : FaultSide
  retryKind : Option RetryKind
  deprecated : Bool
deriving DecidableEq

def classify (classifier : Classifier) (shape : ErrorShape) : Classification :=
  ⟨shape.fault, classifier shape, shape.deprecation.isSome⟩

end ErrorUnion
