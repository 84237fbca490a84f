import ErrorUnion.Decl.Meaning
import ErrorUnion.Sample.Services

/- Running the generated code of a service: building records call by call, wrapping them in the
   combined type of an operation, and asking errors all that can be asked of them. -/
namespace ErrorUnion.Sample

structure Session where
  model : Model
  plan : ModulePlan
  program : Program

def Service.session? (s : Service) : Option Session :=
  match s.model.plan s.options s.options.retryPolicy.classify with
  | .error _ => none
  | .ok plan => some ⟨s.model.model, plan, ⟨s.options.runtimeCrate, plan.items⟩⟩

def Session.structure? (s : Session) (type : String) : Option Structure :=
  (s.plan.names.structures.find? fun n => n.ident = type).bind fun n => s.model.structure? n.wire

def Session.builder? (s : Session) (type : String) : Option Value :=
  s.program.start (type ++ "::builder") []

/-- Calls a setter, named without the mark of a raw identifier. -/
def Session.set? (s : Session) (builder : Value) (name : String) (arg : Value) : Option Value := do
  let type ← builder.typeName?
  let m ← s.program.methods.find? fun m =>
    m.type = type && m.trait = none && Value.shownName m.function.name = name
  s.program.ask builder m.function.name [arg]

def Session.build? (s : Session) (builder : Value) : Option Value :=
  s.program.ask builder "build" []

def Session.members (s : Session) (st : Structure) (record : Value) :
    List (String × Option Value) :=
  st.members.map fun m => (Value.shownName m.field, s.program.ask record m.field [])

/-- Records with floating-point members are not shown to programmers here. -/
def showable (st : Structure) : Bool :=
  st.members.all fun m => m.target != .double && m.target != .float

def Session.wrapper? (s : Session) (type : String) : Option CombinedError :=
  s.plan.combined.find? fun c => c.shapeVariants.any fun (_, e, _) => e.record.typePath = type

def Session.wrap? (s : Session) (record : Value) : Option (CombinedError × Value) := do
  let type ← record.typeName?
  let c ← s.wrapper? type
  let (v, _) ← c.shapeVariants.find? fun (_, e, _) => e.record.typePath = type
  let error ← s.program.start (c.name ++ "::" ++ v.name) [record]
  return (c, error)

def Session.combined? (s : Session) (name : String) : Option CombinedError :=
  s.plan.combined.find? fun c => c.name = name

def Session.generic? (s : Session) (c : CombinedError) (m : Metadata) : Option Value :=
  s.program.start (c.name ++ "::generic") [.metadata m]

def Session.unhandled? (s : Session) (c : CombinedError) (text : String) : Option Value :=
  s.program.start (c.name ++ "::unhandled") [.boxed text]

def textOf? : Value → Option String
  | .present (.text t) => some t
  | _ => none

structure ErrorView where
  display : String
  message : Option String
  code : Option String
  kindCode : Option String
  kind : Option RetryKind
  source : Option String
  predicates : List (String × Bool)

def Session.view? (s : Session) (c : CombinedError) (error : Value) : Option ErrorView := do
  let p := s.program
  let source ← p.source error
  return {
    display := ← p.displayText? error
    message := textOf? (← p.ask error "message" [])
    code := textOf? (← p.ask error "code" [])
    kindCode := textOf? (← p.askKind error "code")
    kind := match ← p.askKind error "retryable_error_kind" with
      | .present (.kind k) => some k
      | _ => none
    source := match source with
      | .present v => p.displayText? v
      | _ => none
    predicates := ← c.shapeVariants.mapM fun (_, e, _) => do
      let name := CombinedError.predicateName e
      match ← p.ask error name [] with
      | .flag b => return (name, b)
      | _ => none }

end ErrorUnion.Sample
