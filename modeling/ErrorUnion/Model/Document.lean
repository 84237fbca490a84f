import ErrorUnion.Model.Basic
import ErrorUnion.Json.Reader
import ErrorUnion.Json.Writer

/- Models as JSON documents. -/
namespace ErrorUnion
open Json

def FaultSide.schema : Schema := .tag "client" ["server"]

def FaultSide.ofVal : FaultSide.schema.Val → FaultSide
  | ⟨0, _⟩ => .client
  | ⟨_ + 1, _⟩ => .server

def FaultSide.toVal : FaultSide → FaultSide.schema.Val
  | .client => ⟨0, by decide⟩
  | .server => ⟨1, by decide⟩

def Target.schema : Schema := .tag "String" ["Integer", "Long", "Boolean", "Float", "Double"]

def Target.ofVal : Target.schema.Val → Target
  | ⟨0, _⟩ => .string
  | ⟨1, _⟩ => .integer
  | ⟨2, _⟩ => .long
  | ⟨3, _⟩ => .boolean
  | ⟨4, _⟩ => .float
  | ⟨_ + 5, _⟩ => .double

def Target.toVal : Target → Target.schema.Val
  | .string => ⟨0, by decide⟩
  | .integer => ⟨1, by decide⟩
  | .long => ⟨2, by decide⟩
  | .boolean => ⟨3, by decide⟩
  | .float => ⟨4, by decide⟩
  | .double => ⟨5, by decide⟩

def Retryable.schema : Schema := .record "Retryable" true [("throttling", .lenient, .flag)]

def Retryable.ofVal : Retryable.schema.Val → Retryable
  | (throttling, ()) => { throttling }

def Retryable.toVal (r : Retryable) : Retryable.schema.Val := (r.throttling, ())

def Deprecation.schema : Schema :=
  .record "Deprecation" true [("message", .optional, .text), ("since", .optional, .text)]

def Deprecation.ofVal : Deprecation.schema.Val → Deprecation
  | (message, since, ()) => { message, since }

def Deprecation.toVal (d : Deprecation) : Deprecation.schema.Val := (d.message, d.since, ())

def Member.schema : Schema :=
  .record "Member" true
    [("name", .required, .text), ("target", .required, Target.schema),
     ("documentation", .optional, .text)]

def Member.ofVal : Member.schema.Val → Member
  | (name, target, documentation, ()) => { name, target := .ofVal target, documentation }

def Member.toVal (m : Member) : Member.schema.Val :=
  (m.name, m.target.toVal, m.documentation, ())

def Structure.schema : Schema :=
  .record "Structure" true
    [("name", .required, .text), ("error", .optional, FaultSide.schema),
     ("retryable", .optional, Retryable.schema), ("deprecated", .optional, Deprecation.schema),
     ("documentation", .optional, .text), ("members", .lenient, .list Member.schema)]

def Structure.ofVal : Structure.schema.Val → Structure
  | (name, fault, retryable, deprecated, documentation, members, ()) =>
    { name
      fault := fault.map .ofVal
      retryable := retryable.map .ofVal
      deprecated := deprecated.map .ofVal
      documentation
      members := members.map .ofVal }

def Structure.toVal (s : Structure) : Structure.schema.Val :=
  (s.name, s.fault.map FaultSide.toVal, s.retryable.map Retryable.toVal,
    s.deprecated.map Deprecation.toVal, s.documentation, s.members.map Member.toVal, ())

def Operation.schema : Schema :=
  .record "Operation" true
    [("name", .required, .text), ("errors", .lenient, .list .text),
     ("documentation", .optional, .text)]

def Operation.ofVal : Operation.schema.Val → Operation
  | (name, errors, documentation, ()) => { name, errors, documentation }

def Operation.toVal (o : Operation) : Operation.schema.Val :=
  (o.name, o.errors, o.documentation, ())

def Model.schema : Schema :=
  .record "Model" true
    [("schema_version", .required, .text), ("namespace", .required, .text),
     ("operations", .lenient, .list Operation.schema),
     ("structures", .lenient, .list Structure.schema)]

def Model.ofVal : Model.schema.Val → Model
  | (schemaVersion, namespaceName, operations, structures, ()) =>
    { schemaVersion, namespaceName
      operations := operations.map .ofVal
      structures := structures.map .ofVal }

def Model.toVal (m : Model) : Model.schema.Val :=
  (m.schemaVersion, m.namespaceName, m.operations.map Operation.toVal,
    m.structures.map Structure.toVal, ())

def Model.parse (text : String) : Except Fault Model :=
  (Model.schema.parseString text).map .ofVal

def Structure.parse (text : String) : Except Fault Structure :=
  (Structure.schema.parseString text).map .ofVal

def Target.parse (text : String) : Except Fault Target :=
  (Target.schema.parseString text).map .ofVal

def Model.toTree (m : Model) : Tree := Model.schema.write m.toVal

def Model.document (m : Model) : String := String.ofList m.toTree.compact

end ErrorUnion
