import ErrorUnion.Name.Resolution

/- The errors that an operation declares, with all that a combined type needs to know of them. -/
namespace ErrorUnion
open Text

structure RecordSymbol where
  typePath : String
  builderModule : String
deriving DecidableEq

def ShapeName.record (n : ShapeName) : RecordSymbol := ⟨n.ident, n.builderModule⟩

structure ErrorShape where
  name : ShapeName
  fault : FaultSide
  retryable : Bool
  throttling : Bool
  deprecation : Option Deprecation
  hasMessage : Bool
  record : RecordSymbol
deriving DecidableEq

structure ErrorSet where
  operation : ShapeName
  documentation : Option String
  errors : List ErrorShape
deriving DecidableEq

inductive ShapeFault where
  | unresolved (name : String)
  | missingFaultSide (name : String)
deriving DecidableEq

def ShapeFault.diagnostic : ShapeFault → Diagnostic
  | unresolved n => .of .internalBug (quote n ++ " was not resolved before normalization")
  | missingFaultSide n => .of .missingFaultSide (quote n ++ " has no fault side")

def Structure.shape (s : Structure) (name : ShapeName) (fault : FaultSide) : ErrorShape where
  name
  fault
  retryable := s.retryable.isSome
  throttling := (s.retryable.map (·.throttling)).getD false
  deprecation := s.deprecated
  hasMessage := s.messageMember?.isSome
  record := name.record

def errorShape (m : Model) (names : Names) (wire : String) : Except ShapeFault ErrorShape :=
  match m.structure? wire, names.structure? wire with
  | some s, some name =>
    match s.fault with
    | some fault => .ok (s.shape name fault)
    | none => .error (.missingFaultSide wire)
  | _, _ => .error (.unresolved wire)

def errorSet (m : Model) (names : Names) (o : Operation) : Except ShapeFault ErrorSet :=
  match names.operation? o.name with
  | none => .error (.unresolved o.name)
  | some operation => do
    .ok { operation, documentation := o.documentation,
          errors := ← o.errors.mapM (errorShape m names) }

def Model.errorSets (m : Model) (names : Names) : Except ShapeFault (List ErrorSet) :=
  m.operations.mapM (errorSet m names)

end ErrorUnion
