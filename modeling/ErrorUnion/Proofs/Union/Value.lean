import ErrorUnion.Proofs.Name.Resolution
import ErrorUnion.Record.Decls
import ErrorUnion.Union.Decls

/- The values of combined types, and what each of them should say of itself. A value is a modeled
   error with any assignment of its members, or holds what the runtime knows of another error. -/
namespace ErrorUnion
open Text Name

inductive Target.Admits : Target → Value → Prop
  | string (t : String) : Admits .string (.text t)
  | integer (i : Int) : Admits .integer (.int i)
  | long (i : Int) : Admits .long (.int i)
  | boolean (b : Bool) : Admits .boolean (.flag b)
  | float (bits : UInt64) : Admits .float (.real bits)
  | double (bits : UInt64) : Admits .double (.real bits)

def Structure.recordValue (s : Structure) (name : ShapeName) (members : Member → Option Value) :
    Value :=
  .record name.ident (s.members.map fun a => (a.field, Value.ofOption id (members a)))

def Value.text? : Value → Option String
  | .text t => some t
  | _ => none

inductive ErrorValue where
  | shape (s : Structure) (fault : FaultSide) (members : Member → Option Value)
  | generic (metadata : Metadata)
  | unhandled (display : String)

/-- The values that the combined type of an operation has. -/
inductive ErrorValue.Of (m : Model) (o : Operation) : ErrorValue → Prop
  | shape {s : Structure} {fault : FaultSide} {members : Member → Option Value}
      (declared : s ∈ m.structures) (listed : s.name ∈ o.errors) (side : s.fault = some fault)
      (typed : ∀ a ∈ s.members, ∀ v, members a = some v → a.target.Admits v) :
      Of m o (.shape s fault members)
  | generic (metadata : Metadata) : Of m o (.generic metadata)
  | unhandled (display : String) : Of m o (.unhandled display)

namespace ErrorValue

def variant (p : SymbolProvider) (classifier : Classifier) : ErrorValue → Variant
  | shape s fault _ => (s.shape (p.structureName s) fault).variant classifier
  | generic _ => ⟨genericVariant, .generic⟩
  | unhandled _ => ⟨unhandledVariant, .unhandled⟩

def payload (p : SymbolProvider) : ErrorValue → Value
  | shape s _ members => s.recordValue (p.structureName s) members
  | generic x => .metadata x
  | unhandled t => .boxed t

/-- The value as the generated code has it. -/
def value (e : ErrorValue) (p : SymbolProvider) (union : String) : Value :=
  match e with
  | shape s _ _ => .variant union (p.structureName s).ident (e.payload p)
  | generic _ => .variant union genericVariant (e.payload p)
  | unhandled _ => .variant union unhandledVariant (e.payload p)

def message : ErrorValue → Option String
  | shape s _ members => s.messageMember?.bind fun a => (members a).bind Value.text?
  | generic x => x.message
  | unhandled _ => none

def code : ErrorValue → Option String
  | shape s _ _ => some s.name
  | generic x => x.code
  | unhandled _ => none

def kind (e : ErrorValue) (p : SymbolProvider) (classifier : Classifier) : Option RetryKind :=
  match e with
  | shape s fault _ => classifier (s.shape (p.structureName s) fault)
  | generic x => x.retryKind
  | unhandled _ => none

def withMessage (ident : String) : Option String → String
  | some t => ident ++ ": " ++ t
  | none => ident

def display (e : ErrorValue) (p : SymbolProvider) : String :=
  match e with
  | shape s _ _ =>
    let ident := (p.structureName s).ident
    if ident ≠ s.name then ident ++ " [" ++ s.name ++ "]" else withMessage ident e.message
  | generic x => x.display
  | unhandled t => t

end ErrorValue

end ErrorUnion
