import ErrorUnion.Digest.Sha256
import ErrorUnion.Model.Document
import ErrorUnion.Name.Grammar
import ErrorUnion.Diagnostic.Basic

/- The rules a model has to keep before anything is generated from it, with the first one that is
   broken in document order, structures before operations. -/
namespace ErrorUnion
open Text Name Digest

inductive ModelFault where
  | schemaVersion (found : String)
  | invalidName (fault : NameFault)
  | duplicateStructure (name : String)
  | retryableWithoutError (name : String)
  | reservedMember (owner member : String)
  | duplicateMember (owner member : String)
  | setterClash (owner field : String)
  | messageTarget (owner member : String) (target : Target)
  | duplicateOperation (name : String)
  | unknownError (operation name : String)
  | missingFaultSide (operation name : String)
  | duplicateError (operation name : String)
deriving DecidableEq

def Model.currentVersion : String := "errgen.model@0.1.0"

def ModelFault.code : ModelFault → Code
  | schemaVersion _ => .schemaVersionMismatch
  | invalidName _ => .invalidName
  | duplicateStructure _ => .duplicateStructure
  | retryableWithoutError _ => .retryableWithoutError
  | reservedMember _ _ => .reservedMemberName
  | duplicateMember _ _ => .duplicateMember
  | setterClash _ _ => .duplicateMember
  | messageTarget _ _ _ => .invalidMessageMember
  | duplicateOperation _ => .duplicateOperation
  | unknownError _ _ => .unknownErrorRef
  | missingFaultSide _ _ => .missingFaultSide
  | duplicateError _ _ => .duplicateErrorRef

def ModelFault.message : ModelFault → String
  | schemaVersion found => "expected " ++ Model.currentVersion ++ " got " ++ quote found
  | invalidName f => f.message
  | duplicateStructure n => "structure " ++ quote n ++ " is declared more than once"
  | retryableWithoutError n =>
    "structure " ++ quote n ++ " is retryable but has no error fault side"
  | reservedMember s m => "member " ++ s ++ "." ++ m ++ " is reserved"
  | duplicateMember s m => "member " ++ s ++ "." ++ m ++ " is declared more than once"
  | setterClash s f => "member " ++ s ++ "." ++ f ++ " clashes with a generated setter"
  | messageTarget s m t => s ++ "." ++ m ++ " targets " ++ t.name
  | duplicateOperation n => "operation " ++ quote n ++ " is declared more than once"
  | unknownError o e => "operation " ++ o ++ " references unknown structure " ++ quote e
  | missingFaultSide o e =>
    "operation " ++ o ++ " lists " ++ quote e ++ " as an error but it has no fault side"
  | duplicateError o e => "operation " ++ o ++ " lists " ++ quote e ++ " more than once"

def ModelFault.diagnostic (f : ModelFault) : Diagnostic := .of f.code f.message

def Member.field (m : Member) : String := escapeIdent (snakeCase m.name)

def Member.setter (m : Member) : String := "set_" ++ snakeCase m.name

/-- Members of these names would hide the entry points of builders. -/
def reservedFields : List String := ["builder", "build"]

def memberFault? (owner : String) : List String → List Member → Option ModelFault
  | _, [] => none
  | seen, m :: r =>
    ((memberNameFault? m.name).map .invalidName).or <|
    if snakeCase m.name ∈ reservedFields then some (.reservedMember owner m.name)
    else if m.field ∈ seen then some (.duplicateMember owner m.name)
    else memberFault? owner (m.field :: seen) r

def least? : List String → Option String
  | [] => none
  | s :: r => match least? r with
    | none => some s
    | some t => some (if t < s then t else s)

def isSetterOf (fields : List String) (field : String) : Bool :=
  match afterHead? "set_".toList field.toList with
  | some rest => String.ofList rest ∈ fields
  | none => false

/-- The first field in alphabetical order that is named like the setter of another one. -/
def clashingField? (fields : List String) : Option String :=
  least? (fields.filter (isSetterOf fields))

def Structure.fault? (s : Structure) (seen : List String) : Option ModelFault :=
  ((shapeNameFault? s.name).map .invalidName).or <|
  if s.name ∈ seen then some (.duplicateStructure s.name)
  else if s.retryable.isSome && !s.isError then some (.retryableWithoutError s.name)
  else
    (memberFault? s.name [] s.members).or <|
    ((clashingField? (s.members.map Member.field)).map (.setterClash s.name)).or <|
    match s.messageMember? with
    | some m =>
      if s.isError && m.target != .string then some (.messageTarget s.name m.name m.target)
      else none
    | none => none

def structuresFault? : List String → List Structure → Option ModelFault
  | _, [] => none
  | seen, s :: r => (s.fault? seen).or (structuresFault? (s.name :: seen) r)

def referencesFault? (model : Model) (operation : String) :
    List String → List String → Option ModelFault
  | _, [] => none
  | seen, e :: r =>
    match model.structure? e with
    | none => some (.unknownError operation e)
    | some s =>
      if !s.isError then some (.missingFaultSide operation e)
      else if e ∈ seen then some (.duplicateError operation e)
      else referencesFault? model operation (e :: seen) r

def Operation.fault? (o : Operation) (model : Model) (seen : List String) : Option ModelFault :=
  ((shapeNameFault? o.name).map .invalidName).or <|
  if o.name ∈ seen then some (.duplicateOperation o.name)
  else referencesFault? model o.name [] o.errors

def operationsFault? (model : Model) : List String → List Operation → Option ModelFault
  | _, [] => none
  | seen, o :: r => (o.fault? model seen).or (operationsFault? model (o.name :: seen) r)

def Model.fault? (m : Model) : Option ModelFault :=
  if trim m.schemaVersion ≠ Model.currentVersion then some (.schemaVersion m.schemaVersion)
  else
    ((namespaceFault? m.namespaceName).map .invalidName).or <|
    (structuresFault? [] m.structures).or (operationsFault? m [] m.operations)

/-- A model that keeps every rule, with the digest of the text it was read from, if any. -/
structure ValidModel where
  model : Model
  digest : Option String
  valid : model.fault? = none

def Model.validate (m : Model) (digest : Option String) : Except ModelFault ValidModel :=
  match h : m.fault? with
  | some f => .error f
  | none => .ok ⟨m, digest, h⟩

inductive LoadFault where
  | document (fault : Json.Fault)
  | rule (fault : ModelFault)
deriving DecidableEq

def LoadFault.diagnostic : LoadFault → Diagnostic
  | document f => .error .parseError .parse f.message
  | rule f => f.diagnostic

def ValidModel.load (text : String) : Except LoadFault ValidModel :=
  match Model.parse text with
  | .error f => .error (.document f)
  | .ok m =>
    match m.validate (some (sha256Hex text.toUTF8.toList)) with
    | .error f => .error (.rule f)
    | .ok v => .ok v

end ErrorUnion
