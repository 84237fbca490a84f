import ErrorUnion.Decl.Basic
import ErrorUnion.Decl.Value

/- What generated declarations compute. A program is a list of declarations with the path of the
   runtime it refers to; an expression is evaluated in a module of it, on the values of its
   variables and the text that was written so far. Nothing comes out of an expression without a
   meaning here: text taken as it is, or a use of what is not declared. -/
namespace ErrorUnion
open Text

structure Program where
  runtime : String
  items : List Item

/-- The modules around a declaration, the innermost first. -/
abbrev Scope := List String

def qualified (scope : Scope) (type : String) : String :=
  match scope, afterHead? "super::".toList type.toList with
  | _ :: outer, some rest => joinWith "::" (outer.reverse ++ [String.ofList rest])
  | scope, _ => joinWith "::" (scope.reverse ++ [type])

structure Method where
  scope : Scope
  type : String
  trait : Option String
  function : Function

mutual

def Item.methodsIn (scope : Scope) : Item → List Method
  | .methods m => m.functions.map fun f => ⟨scope, qualified scope m.target, m.trait, f⟩
  | .module _ _ name items => itemsMethods (name :: scope) items
  | _ => []

def itemsMethods (scope : Scope) : List Item → List Method
  | [] => []
  | i :: r => i.methodsIn scope ++ itemsMethods scope r

end

mutual

def Item.recordsIn (scope : Scope) : Item → List (String × RecordDecl)
  | .record r => [(qualified scope r.name, r)]
  | .module _ _ name items => itemsRecords (name :: scope) items
  | _ => []

def itemsRecords (scope : Scope) : List Item → List (String × RecordDecl)
  | [] => []
  | i :: r => i.recordsIn scope ++ itemsRecords scope r

end

def Program.methods (p : Program) : List Method := itemsMethods [] p.items

def Program.records (p : Program) : List (String × RecordDecl) := itemsRecords [] p.items

def Program.unions (p : Program) : List UnionDecl :=
  p.items.filterMap fun
    | .union u => some u
    | _ => none

def Program.method? (p : Program) (type : String) (trait : Option String) (name : String) :
    Option Method :=
  p.methods.find? fun m => m.type = type && m.trait = trait && m.function.name = name

/-- Methods of the type itself go before those of traits. -/
def Program.anyMethod? (p : Program) (type name : String) : Option Method :=
  (p.method? type none name).or
    (p.methods.find? fun m => m.type = type && m.function.name = name)

structure State where
  locals : List (String × Value)
  written : String

abbrev Evaluator := Scope → State → Expr → Option (Value × State)

def State.bind (s : State) (name : String) (v : Value) : State :=
  { s with locals := (name, v) :: s.locals }

def State.write (s : State) (text : String) : State := { s with written := s.written ++ text }

def evalAll (ev : State → Expr → Option (Value × State)) :
    State → List Expr → Option (List Value × State)
  | s, [] => some ([], s)
  | s, e :: r =>
    match ev s e with
    | none => none
    | some (v, s) => (evalAll ev s r).map fun (vs, s) => (v :: vs, s)

def Pattern.match? (p : Pattern) (v : Value) : Option (List (String × Value)) :=
  match p, v with
  | .variant u name binding, .variant u' name' payload =>
    if u = u' ∧ name = name' then some (binding.toList.map fun b => (b, payload)) else none
  | .present b, .present v => some [(b, v)]
  | _, _ => none

mutual

def evalStmt (ev : State → Expr → Option (Value × State)) : Stmt → State → Option (Value × State)
  | .run e, s => (ev s e).map fun (_, s) => (.unit, s)
  | .result e, s => ev s e
  | .ifLet p e body, s =>
    match ev s e with
    | none => none
    | some (v, s) =>
      match p.match? v with
      | none => some (.unit, s)
      | some vs => (evalStmts ev body { s with locals := vs ++ s.locals }).map fun (_, t) =>
          (.unit, { t with locals := s.locals })

def evalStmts (ev : State → Expr → Option (Value × State)) :
    List Stmt → State → Option (Value × State)
  | [], s => some (.unit, s)
  | [t], s => evalStmt ev t s
  | t :: u :: r, s =>
    match evalStmt ev t s with
    | none => none
    | some (_, s) => evalStmts ev (u :: r) s

end

def evalArms (ev : State → Expr → Option (Value × State)) (v : Value) (s : State) :
    List Arm → Option (Value × State)
  | [] => none
  | a :: r =>
    match a.pattern.match? v with
    | none => evalArms ev v s r
    | some vs =>
      let s := { s with locals := vs ++ s.locals }
      match a.body with
      | .expr e => ev s e
      | .block body => evalStmts ev body s

def evalBody (ev : State → Expr → Option (Value × State)) (s : State) :
    Body → Option (Value × State)
  | .block stmts => evalStmts ev stmts s
  | .cases e arms =>
    match ev s e with
    | none => none
    | some (v, s) => evalArms ev v s arms

def bindParams : List Param → List Value → Option (List (String × Value))
  | [], [] => some []
  | .typed n _ :: ps, v :: vs => (bindParams ps vs).map ((n, v) :: ·)
  | .verbatim _ :: _, _ => none
  | _ :: ps, v :: vs => (bindParams ps vs).map (("self", v) :: ·)
  | _, _ => none

/-- A call sees its arguments only; what it writes is kept. -/
def Method.invoke (ev : Evaluator) (m : Method) (args : List Value) (s : State) :
    Option (Value × State) :=
  match bindParams m.function.params args with
  | none => none
  | some vs =>
    (evalBody (ev m.scope) ⟨vs, s.written⟩ m.function.body).map fun (v, t) =>
      (v, { s with written := t.written })

def displayTrait : String := "std::fmt::Display"

def errorTrait : String := "std::error::Error"

def Program.display (p : Program) (ev : Evaluator) (v : Value) (s : State) :
    Option (Value × State) :=
  match v with
  | .text t => some (.success .unit, s.write t)
  | .metadata m => some (.success .unit, s.write m.display)
  | .boxed t => some (.success .unit, s.write t)
  | v =>
    match v.typeName?.bind fun t => p.method? t (some displayTrait) "fmt" with
    | none => none
    | some m => m.invoke ev [v, .formatter] s

/-- Calls a method by its name. Options of text are handed on by reference, conversions keep the
value, and an error in a box is its own reference. -/
def Program.callMethod (p : Program) (ev : Evaluator) (v : Value) (name : String)
    (args : List Value) (s : State) : Option (Value × State) :=
  match v, name, args with
  | .absent, "as_deref", [] => some (.absent, s)
  | .present (.text t), "as_deref", [] => some (.present (.text t), s)
  | .text t, "into", [] => some (.text t, s)
  | .boxed t, "into", [] => some (.boxed t, s)
  | .boxed t, "as_ref", [] => some (.boxed t, s)
  | .metadata m, "message", [] => some (.ofOption .text m.message, s)
  | .metadata m, "code", [] => some (.ofOption .text m.code, s)
  | .formatter, "write_str", [.text t] => some (.success .unit, s.write t)
  | v, name, args =>
    match v.typeName?.bind fun t => p.anyMethod? t name with
    | none => none
    | some m => m.invoke ev (v :: args) s

def Program.kindTrait (p : Program) : String := p.runtime ++ "::retry::ProvideErrorKind"

def Program.callKindTrait (p : Program) (ev : Evaluator) (name : String) (v : Value) (s : State) :
    Option (Value × State) :=
  match v, name with
  | .metadata m, "retryable_error_kind" => some (.ofOption .kind m.kindView.retryKind, s)
  | .metadata m, "code" => some (.ofOption .text m.kindView.code, s)
  | v, name =>
    match v.typeName?.bind fun t => p.method? t (some p.kindTrait) name with
    | none => none
    | some m => m.invoke ev [v] s

def Program.variant? (p : Program) (path : String) : Option (String × String) :=
  p.unions.findSome? fun u =>
    (u.variants.find? fun v => u.name ++ "::" ++ v.name = path).map fun v => (u.name, v.name)

def Program.function? (p : Program) (path : String) : Option Method :=
  p.methods.find? fun m => m.trait = none && m.type ++ "::" ++ m.function.name = path

def Program.call (p : Program) (ev : Evaluator) (path : String) (args : List Value) (s : State) :
    Option (Value × State) :=
  match path, args with
  | "Some", [v] => some (.present v, s)
  | "Ok", [v] => some (.success v, s)
  | "std::fmt::Display::fmt", [v, .formatter] => p.display ev v s
  | path, args =>
    if path = p.kindTrait ++ "::retryable_error_kind" then
      match args with
      | [v] => p.callKindTrait ev "retryable_error_kind" v s
      | _ => none
    else match p.variant? path, args with
      | some (u, name), [v] => some (.variant u name v, s)
      | _, args =>
        match p.function? path with
        | none => none
        | some m => m.invoke ev args s

def Program.constant? (p : Program) (path : String) : Option Value :=
  if path = "None" then some .absent
  else
    ([.transient, .throttling, .server, .client].find? fun (k : RetryKind) =>
      p.runtime ++ "::retry::ErrorKind::" ++ k.variant = path).map .kind

def Program.initial? (p : Program) (type : String) : Option Value :=
  (p.records.lookup type).map fun r => .record type (r.fields.map fun f => (f.name, .absent))

def Program.step (p : Program) (ev : Evaluator) : Evaluator
  | _, _, .verbatim _ => none
  | _, s, .var n => (s.locals.lookup n).map fun v => (v, s)
  | _, s, .unit => some (.unit, s)
  | _, s, .path t => (p.constant? t).map fun v => (v, s)
  | _, s, .literal t => some (.text t, s)
  | scope, s, .field o n =>
    match ev scope s o with
    | none => none
    | some (v, s) => (v.field? n).map fun w => (w, s)
  | scope, s, .method o n args =>
    match ev scope s o with
    | none => none
    | some (v, s) =>
      match evalAll (ev scope) s args with
      | none => none
      | some (vs, s) => p.callMethod ev v n vs s
  | scope, s, .call f args =>
    match evalAll (ev scope) s args with
    | none => none
    | some (vs, s) => p.call ev f vs s
  | scope, s, .initial t => (p.initial? (qualified scope t)).map fun v => (v, s)
  | scope, s, .record t fields =>
    (evalAll (ev scope) s (fields.map (·.2))).map fun (vs, s) =>
      (.record (qualified scope t) ((fields.map (·.1)).zip vs), s)
  | scope, s, .assign (.field (.var x) n) e =>
    match ev scope s e, s.locals.lookup x with
    | some (v, s), some w => some (.unit, s.bind x (w.withField n v))
    | _, _ => none
  | _, _, .assign _ _ => none
  | scope, s, .attempt e =>
    match ev scope s e with
    | some (.success v, s) => some (v, s)
    | _ => none
  | scope, s, .matches e pattern =>
    (ev scope s e).map fun (v, s) => (.flag (pattern.match? v).isSome, s)
  | scope, s, .write t lead e =>
    match ev scope s t with
    | some (.formatter, s) =>
      match ev scope s e with
      | some (v, s) => p.display ev v (s.write lead)
      | none => none
    | _ => none

def Program.eval (p : Program) : Nat → Evaluator
  | 0 => fun _ _ _ => none
  | depth + 1 => p.step (p.eval depth)

/-- More than generated code ever nests. -/
def evalDepth : Nat := 16

def Program.ask (p : Program) (v : Value) (name : String) (args : List Value) : Option Value :=
  (p.callMethod (p.eval evalDepth) v name args ⟨[], ""⟩).map (·.1)

def Program.start (p : Program) (path : String) (args : List Value) : Option Value :=
  (p.call (p.eval evalDepth) path args ⟨[], ""⟩).map (·.1)

def Program.displayText? (p : Program) (v : Value) : Option String :=
  (p.display (p.eval evalDepth) v ⟨[], ""⟩).map (·.2.written)

def Program.askKind (p : Program) (v : Value) (name : String) : Option Value :=
  (p.callKindTrait (p.eval evalDepth) name v ⟨[], ""⟩).map (·.1)

/-- The source of an error. One that declares none has none. -/
def Program.source (p : Program) (v : Value) : Option Value :=
  match v.typeName?.bind fun t => p.method? t (some errorTrait) "source" with
  | none => some .absent
  | some m => (m.invoke (p.eval evalDepth) [v] ⟨[], ""⟩).map (·.1)

end ErrorUnion
