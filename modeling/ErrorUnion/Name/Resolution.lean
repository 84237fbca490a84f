import ErrorUnion.Model.Basic
import ErrorUnion.Name.Grammar
import ErrorUnion.Text.Pieces
import ErrorUnion.Text.Quoted
import ErrorUnion.Diagnostic.Basic

/- From the names of a model to identifiers. A shape keeps its wire name, which is what the
   protocol reports, beside the identifier it gets in the generated module. No two types and no
   two builder modules of that module may come out alike. -/
namespace ErrorUnion
open Text Name

structure ShapeName where
  wire : String
  ident : String
deriving DecidableEq

def ShapeName.isRenamed (n : ShapeName) : Bool := n.wire != n.ident

def ShapeName.snake (n : ShapeName) : String := snakeCase n.ident

def ShapeName.builderModule (n : ShapeName) : String := escapeIdent n.snake

structure SymbolProvider where
  structureIdent : Structure → String
  operationIdent : Operation → String

/-- `FooException` becomes `FooError`, as long as something is left of the name. -/
def withoutException (name : String) : String :=
  match beforeTail? "Exception".toList name.toList with
  | none => name
  | some [] => name
  | some stem => String.ofList stem ++ "Error"

def SymbolProvider.standard (renameExceptions : Bool) : SymbolProvider where
  structureIdent s := if renameExceptions && s.isError then withoutException s.name else s.name
  operationIdent o := o.name

def genericVariant : String := "Generic"

def unhandledVariant : String := "Unhandled"

def reservedVariants : List String := [genericVariant, unhandledVariant]

def combinedSuffix : String := "Error"

/-- Builder modules of these names would hide a crate that generated code refers to. -/
def reservedModules : List String := ["std", "core", "alloc"]

inductive ResolutionFault where
  | reservedVariant (name : ShapeName)
  | identTaken (previous : String) (name : ShapeName)
  | hidesCrate (name : ShapeName)
  | moduleTaken (previous : String) (name : ShapeName)
  | combinedTaken (previous : String) (name : ShapeName)
deriving DecidableEq

def ResolutionFault.code : ResolutionFault → Code
  | reservedVariant _ => .reservedVariantName
  | identTaken _ _ => .identifierCollision
  | hidesCrate _ => .snakeNameCollision
  | moduleTaken _ _ => .snakeNameCollision
  | combinedTaken _ _ => .combinedNameCollision

def ResolutionFault.message : ResolutionFault → String
  | reservedVariant n =>
    "error shape " ++ quote n.wire ++ " resolves to reserved variant name " ++ quote n.ident
  | identTaken prev n =>
    "shapes " ++ quote prev ++ " and " ++ quote n.wire ++ " both resolve to " ++ quote n.ident
  | hidesCrate n =>
    "shape " ++ quote n.wire ++ " would shadow the `" ++ n.builderModule ++ "` crate"
  | moduleTaken prev n =>
    "shapes " ++ quote prev ++ " and " ++ quote n.wire ++ " both resolve to module "
      ++ quote n.builderModule
  | combinedTaken prev n =>
    "combined error " ++ quote (n.ident ++ combinedSuffix) ++ " of operation " ++ quote n.wire
      ++ " collides with " ++ quote prev

def ResolutionFault.diagnostic (f : ResolutionFault) : Diagnostic := .of f.code f.message

structure Names where
  structures : List ShapeName
  operations : List ShapeName
deriving DecidableEq

def Names.structure? (n : Names) (wire : String) : Option ShapeName :=
  n.structures.find? fun s => s.wire = wire

def Names.operation? (n : Names) (wire : String) : Option ShapeName :=
  n.operations.find? fun s => s.wire = wire

def Names.combinedName? (n : Names) (operation : String) : Option String :=
  (n.operation? operation).map fun o => o.ident ++ combinedSuffix

def pathRoot (path : String) : String :=
  String.ofList ((colonPieces path.toList).headD [])

def identOwner? (taken : List ShapeName) (ident : String) : Option String :=
  (taken.find? fun t => t.ident = ident).map (·.wire)

def moduleOwner? (taken : List ShapeName) (name : String) : Option String :=
  (taken.find? fun t => t.builderModule = name).map (·.wire)

def structureNameFault? (root : String) (taken : List ShapeName) (s : Structure)
    (name : ShapeName) : Option ResolutionFault :=
  if s.isError && name.ident ∈ reservedVariants then some (.reservedVariant name)
  else match identOwner? taken name.ident with
    | some prev => some (.identTaken prev name)
    | none =>
      if name.builderModule ∈ reservedModules || name.builderModule = root then
        some (.hidesCrate name)
      else (moduleOwner? taken name.builderModule).map fun prev => .moduleTaken prev name

def nameStructures (provider : SymbolProvider) (root : String) :
    List ShapeName → List Structure → Except ResolutionFault (List ShapeName)
  | taken, [] => .ok taken
  | taken, s :: r =>
    let name := ⟨s.name, provider.structureIdent s⟩
    match structureNameFault? root taken s name with
    | some f => .error f
    | none => nameStructures provider root (name :: taken) r

def typeOwner? (structures operations : List ShapeName) (typeName : String) : Option String :=
  (identOwner? structures typeName).or <|
    (operations.find? fun o => o.ident ++ combinedSuffix = typeName).map (·.wire)

def nameOperations (provider : SymbolProvider) (structures : List ShapeName) :
    List ShapeName → List Operation → Except ResolutionFault (List ShapeName)
  | taken, [] => .ok taken
  | taken, o :: r =>
    let name := ⟨o.name, provider.operationIdent o⟩
    match typeOwner? structures taken (name.ident ++ combinedSuffix) with
    | some prev => .error (.combinedTaken prev name)
    | none => nameOperations provider structures (name :: taken) r

def Model.resolve (m : Model) (provider : SymbolProvider) (runtime : String) :
    Except ResolutionFault Names := do
  let structures ← nameStructures provider (pathRoot runtime) [] m.structures
  let operations ← nameOperations provider structures [] m.operations
  .ok { structures, operations }

def namedBefore (provider : SymbolProvider) (root : String) :
    List ShapeName → List Structure → List ShapeName
  | _, [] => []
  | taken, s :: r =>
    let name := ⟨s.name, provider.structureIdent s⟩
    match structureNameFault? root taken s name with
    | some _ => []
    | none => name :: namedBefore provider root (name :: taken) r

end ErrorUnion
