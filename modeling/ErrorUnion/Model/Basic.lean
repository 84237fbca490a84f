/- A service model: structures, some of them errors, and operations that list the errors they
   may end with. -/
namespace ErrorUnion

inductive FaultSide where
  | client
  | server
deriving DecidableEq

inductive Target where
  | string
  | integer
  | long
  | boolean
  | float
  | double
deriving DecidableEq

structure Retryable where
  throttling : Bool
deriving DecidableEq

structure Deprecation where
  message : Option String
  since : Option String
deriving DecidableEq

structure Member where
  name : String
  target : Target
  documentation : Option String
deriving DecidableEq

/-- A structure with a fault side is an error; any other one is a plain record. -/
structure Structure where
  name : String
  fault : Option FaultSide
  retryable : Option Retryable
  deprecated : Option Deprecation
  documentation : Option String
  members : List Member
deriving DecidableEq

structure Operation where
  name : String
  errors : List String
  documentation : Option String
deriving DecidableEq

structure Model where
  schemaVersion : String
  namespaceName : String
  operations : List Operation
  structures : List Structure
deriving DecidableEq

def Target.name : Target → String
  | string => "String"
  | integer => "Integer"
  | long => "Long"
  | boolean => "Boolean"
  | float => "Float"
  | double => "Double"

def Structure.isError (s : Structure) : Bool := s.fault.isSome

def Structure.messageMember? (s : Structure) : Option Member :=
  s.members.find? fun m => m.name = "message" || m.name = "Message"

def Model.structure? (m : Model) (name : String) : Option Structure :=
  m.structures.find? fun s => s.name = name

end ErrorUnion
