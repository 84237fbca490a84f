import ErrorUnion.Union.Retry

/- The combined type of an operation: one variant for each declared error, in declaration order,
   and behind them one for errors known by their metadata only and one for all others. -/
namespace ErrorUnion
open Text

inductive VariantKind where
  | shape (shape : ErrorShape) (classification : Classification)
  | generic
  | unhandled
deriving DecidableEq

structure Variant where
  name : String
  kind : VariantKind
deriving DecidableEq

structure CombinedError where
  name : String
  operation : ShapeName
  documentation : Option String
  variants : List Variant
deriving DecidableEq

/-- An identifier that is empty, of a shape or operation with the given wire name. -/
inductive EmptyIdent where
  | operation (wire : String)
  | shape (wire : String)
deriving DecidableEq

def EmptyIdent.message : EmptyIdent → String
  | operation w => "operation " ++ quote w ++ " has an empty identifier"
  | shape w => "error shape " ++ quote w ++ " has an empty identifier"

def ErrorShape.variant (s : ErrorShape) (classifier : Classifier) : Variant :=
  ⟨s.name.ident, .shape s (classify classifier s)⟩

def fallbackVariants : List Variant :=
  [⟨genericVariant, .generic⟩, ⟨unhandledVariant, .unhandled⟩]

def emptyIdent? (set : ErrorSet) : Option EmptyIdent :=
  if set.operation.ident = "" then some (.operation set.operation.wire)
  else (set.errors.find? fun e => e.name.ident = "").map fun e => .shape e.name.wire

def ErrorSet.combinedOf (set : ErrorSet) (classifier : Classifier) : CombinedError where
  name := set.operation.ident ++ combinedSuffix
  operation := set.operation
  documentation := set.documentation
  variants := set.errors.map (·.variant classifier) ++ fallbackVariants

def ErrorSet.combine (set : ErrorSet) (classifier : Classifier) :
    Except EmptyIdent CombinedError :=
  match emptyIdent? set with
  | some e => .error e
  | none => .ok (set.combinedOf classifier)

def CombinedError.shapeVariants (c : CombinedError) :
    List (Variant × ErrorShape × Classification) :=
  c.variants.filterMap fun v => match v.kind with
    | .shape s k => some (v, s, k)
    | _ => none

end ErrorUnion
