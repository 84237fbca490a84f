import ErrorUnion.Union.Basic
import ErrorUnion.Record.Display
import ErrorUnion.Text.Prose

/- The declarations of a combined type: the union itself and its methods. Each method that looks at
   the payload is one case distinction with an arm for every variant, in the order of the union;
   the payload is bound to `inner` in those arms that use it. -/
namespace ErrorUnion
open Text

def runtimePath (runtime path : String) : String := runtime ++ "::" ++ path

def Variant.decl (v : Variant) (runtime : String) : VariantDecl :=
  match v.kind with
  | .shape s _ =>
    ⟨[], (s.deprecation.map fun d => .deprecated d.message d.since).toList, v.name,
      s.record.typePath⟩
  | .generic =>
    ⟨["An error the protocol layer recognized, but whose code matches no modeled error."], [],
      v.name, runtimePath runtime "ErrorMetadata"⟩
  | .unhandled =>
    ⟨["An unexpected error without usable metadata, e.g. a malformed response."], [],
      v.name, runtimePath runtime "BoxError"⟩

namespace CombinedError

def docs (c : CombinedError) : List String :=
  let head := "Error type for the `" ++ c.operation.ident ++ "` operation."
  match docLines c.documentation with
  | [] => [head]
  | more => head :: "" :: more

def decl (c : CombinedError) (runtime : String) : UnionDecl where
  docs := c.docs
  attributes := [.nonExhaustive, .derive ["std::fmt::Debug"]]
  visibility := .everywhere
  name := c.name
  variants := c.variants.map (·.decl runtime)

def inner : Expr := .var "inner"

def pattern (c : CombinedError) (v : Variant) (bound : Bool) : Pattern :=
  .variant c.name v.name (if bound then some "inner" else none)

/-- One arm for every variant; `arm` tells whether it uses the payload. -/
def arms (c : CombinedError) (arm : Variant → Bool × ArmBody) : List Arm :=
  c.variants.map fun v => ⟨c.pattern v (arm v).1, (arm v).2⟩

def bySelf (c : CombinedError) (arm : Variant → Bool × ArmBody) : Body :=
  .cases (.var "self") (c.arms arm)

def messageArm (v : Variant) : Bool × ArmBody :=
  match v.kind with
  | .shape s _ =>
    if s.hasMessage then (true, .expr (.method inner "message" [])) else (false, .expr .absent)
  | .generic => (true, .expr (.method inner "message" []))
  | .unhandled => (false, .expr .absent)

def codeArm (v : Variant) : Bool × ArmBody :=
  match v.kind with
  | .shape s _ => (false, .expr (.present (.literal s.name.wire)))
  | .generic => (true, .expr (.method inner "code" []))
  | .unhandled => (false, .expr .absent)

def kindPath (runtime : String) (k : RetryKind) : String :=
  runtimePath runtime "retry::ErrorKind" ++ "::" ++ k.variant

def kindTrait (runtime : String) : String := runtimePath runtime "retry::ProvideErrorKind"

def kindArm (runtime : String) (v : Variant) : Bool × ArmBody :=
  match v.kind with
  | .shape _ k =>
    match k.retryKind with
    | some kind => (false, .expr (.present (.path (kindPath runtime kind))))
    | none => (false, .expr .absent)
  | .generic =>
    (true, .expr (.call (kindTrait runtime ++ "::retryable_error_kind") [inner]))
  | .unhandled => (false, .expr .absent)

def armBody : List Stmt → ArmBody
  | [.result e] => .expr e
  | stmts => .block stmts

def displayArm (v : Variant) : Bool × ArmBody :=
  match v.kind with
  | .shape s _ =>
    let t := DisplayTemplate.of s.name s.hasMessage
    (t.readsRecord, armBody (t.stmts inner))
  | _ => (true, .expr (.call "std::fmt::Display::fmt" [inner, .var "f"]))

def sourceArm (v : Variant) : Bool × ArmBody :=
  match v.kind with
  | .unhandled => (true, .expr (.present (.method inner "as_ref" [])))
  | _ => (true, .expr (.present inner))

def optionalText : String := "std::option::Option<&str>"

def wrapUnhandled (c : CombinedError) (runtime : String) : Function :=
  (Function.method "unhandled"
    [.typed "err" ("impl std::convert::Into<" ++ runtimePath runtime "BoxError" ++ ">")]
    (some "Self")
    (.value (.call (c.name ++ "::Unhandled") [.method (.var "err") "into" []]))).withDocs
    ["Wraps any error or message in the `Unhandled` variant."]

def wrapGeneric (c : CombinedError) (runtime : String) : Function :=
  (Function.method "generic" [.typed "err" (runtimePath runtime "ErrorMetadata")] (some "Self")
    (.value (.call (c.name ++ "::Generic") [.var "err"]))).withDocs
    ["Wraps protocol-level error metadata in the `Generic` variant."]

def messageFunction (c : CombinedError) : Function :=
  (Function.method "message" [.borrowed] (some optionalText) (c.bySelf messageArm)).withDocs
    ["Human-readable message, if the error carries one."]

def codeFunction (c : CombinedError) : Function :=
  (Function.method "code" [.borrowed] (some optionalText) (c.bySelf codeArm)).withDocs
    ["Wire-level error code.", "",
     "For modeled errors this is the name the service reports, even when the Rust",
     "type was renamed."]

def predicateName (s : ErrorShape) : String := "is_" ++ s.name.snake

def predicate (c : CombinedError) (v : Variant) (s : ErrorShape) : Function :=
  (Function.method (predicateName s) [.borrowed] (some "bool")
    (.value (.matches (.var "self") (c.pattern v false)))).withDocs
    ["Returns `true` if the error is `" ++ c.name ++ "::" ++ v.name ++ "`."]

def methods (c : CombinedError) (trait : Option String) (functions : List Function) : Item :=
  .methods { attributes := [.allow "deprecated"], trait, target := c.name, functions }

def ownMethods (c : CombinedError) (runtime : String) : Item :=
  c.methods none
    ([c.wrapUnhandled runtime, c.wrapGeneric runtime, c.messageFunction, c.codeFunction]
      ++ c.shapeVariants.map fun (v, s, _) => c.predicate v s)

def kindFunction (c : CombinedError) (runtime : String) : Function :=
  (Function.method "retryable_error_kind" [.borrowed]
    (some ("std::option::Option<" ++ runtimePath runtime "retry::ErrorKind" ++ ">"))
    (c.bySelf (kindArm runtime))).withVisibility .inherited

def kindCodeFunction (c : CombinedError) : Function :=
  (Function.method "code" [.borrowed] (some optionalText)
    (.value (.call (c.name ++ "::code") [.var "self"]))).withVisibility .inherited

def displayFunction (c : CombinedError) : Function :=
  (Function.method "fmt" displayParams (some "std::fmt::Result")
    (c.bySelf displayArm)).withVisibility .inherited

def sourceFunction (c : CombinedError) : Function :=
  (Function.method "source" [.borrowed]
    (some "std::option::Option<&(dyn std::error::Error + 'static)>")
    (c.bySelf sourceArm)).withVisibility .inherited

def kindMethods (c : CombinedError) (runtime : String) : Item :=
  c.methods (some (kindTrait runtime)) [c.kindFunction runtime, c.kindCodeFunction]

def displayMethods (c : CombinedError) : Item :=
  c.methods (some "std::fmt::Display") [c.displayFunction]

def errorMethods (c : CombinedError) : Item :=
  c.methods (some "std::error::Error") [c.sourceFunction]

def items (c : CombinedError) (runtime : String) : List Item :=
  [.union (c.decl runtime), c.ownMethods runtime, c.kindMethods runtime, c.displayMethods,
   c.errorMethods]

end CombinedError

end ErrorUnion
