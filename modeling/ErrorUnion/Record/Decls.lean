import ErrorUnion.Record.Display
import ErrorUnion.Model.Rules
import ErrorUnion.Union.Shape
import ErrorUnion.Text.Prose

/- The declarations of a structure: the record with its accessors, what makes an error of it, and
   the module of its builder. Every field holds an option, and each member has two setters. -/
namespace ErrorUnion
open Text Name

def Target.typeText : Target → String
  | string => "std::string::String"
  | integer => "i32"
  | long => "i64"
  | boolean => "bool"
  | float => "f32"
  | double => "f64"

def Target.isCopy (t : Target) : Bool := t != .string

def optionOf (type : String) : String := "std::option::Option<" ++ type ++ ">"

def selfExpr : Expr := .var "self"

def Member.selfField (m : Member) : Expr := .field selfExpr m.field

def Member.docs (m : Member) : List String := docLines m.documentation

def Member.fieldDecl (m : Member) : FieldDecl :=
  ⟨m.docs, .everywhere, m.field, optionOf m.target.typeText⟩

def Structure.recordDecl (s : Structure) (name : ShapeName) : RecordDecl where
  docs := docLines s.documentation
  attributes :=
    [.nonExhaustive, .derive ["std::clone::Clone", "std::cmp::PartialEq", "std::fmt::Debug"]]
  visibility := .everywhere
  name := name.ident
  fields := s.members.map Member.fieldDecl

def Member.accessor (m : Member) : Function :=
  let (returns, value) :=
    if m.target.isCopy then (optionOf m.target.typeText, m.selfField)
    else (optionOf "&str", .method m.selfField "as_deref" [])
  (Function.method m.field [.borrowed] (some returns) (.value value)).withDocs m.docs

def ShapeName.builderType (n : ShapeName) : String := n.builderModule ++ "::Builder"

def ShapeName.builderFunction (n : ShapeName) : Function :=
  (Function.method "builder" [] (some n.builderType) (.value (.initial n.builderType))).withDocs
    ["Creates a new builder-style object to construct a [`" ++ n.ident ++ "`]."]

def Structure.accessors (s : Structure) (name : ShapeName) : MethodsDecl where
  attributes := []
  trait := none
  target := name.ident
  functions := s.members.map Member.accessor ++ [name.builderFunction]

def Structure.display (s : Structure) (name : ShapeName) : DisplayTemplate :=
  .of name s.messageMember?.isSome

def Structure.errorItems (s : Structure) (name : ShapeName) : List Item :=
  if s.isError then
    [.methods
      { attributes := [], trait := some "std::fmt::Display", target := name.ident
        functions :=
          [(Function.method "fmt" displayParams (some "std::fmt::Result")
            (.block ((s.display name).stmts selfExpr))).withVisibility .inherited] },
     .methods
      { attributes := [], trait := some "std::error::Error", target := name.ident
        functions := [] }]
  else []

def ShapeName.outerType (n : ShapeName) : String := "super::" ++ n.ident

def Member.builderField (m : Member) : FieldDecl :=
  ⟨[], .crate, m.field, optionOf m.target.typeText⟩

def Member.valueSetter (m : Member) : Function :=
  let type := m.target.typeText
  let (param, value) : String × Expr :=
    if m.target.isCopy then (type, .var "input")
    else ("impl std::convert::Into<" ++ type ++ ">", .method (.var "input") "into" [])
  (Function.method m.field [.mutable, .typed "input" param] (some "Self")
    (.block [.run (.assign m.selfField (.present value)), .result selfExpr])).withDocs m.docs

/-- Sets a member to an option, so that it can be taken back. -/
def Member.optionSetter (m : Member) : Function :=
  Function.method m.setter [.mutable, .typed "input" (optionOf m.target.typeText)] (some "Self")
    (.block [.run (.assign m.selfField (.var "input")), .result selfExpr])

def Structure.buildFunction (s : Structure) (name : ShapeName) : Function :=
  (Function.method "build" [.owned] (some name.outerType)
    (.value (.record name.outerType (s.members.map fun m => (m.field, m.selfField))))).withDocs
    ["Consumes the builder and constructs a [`" ++ name.ident ++ "`](" ++ name.outerType ++ ")."]

def Structure.builderDecl (s : Structure) (name : ShapeName) : RecordDecl where
  docs := ["A builder for [`" ++ name.ident ++ "`](" ++ name.outerType ++ ")."]
  attributes :=
    [.derive ["std::clone::Clone", "std::cmp::PartialEq", "std::default::Default",
      "std::fmt::Debug"]]
  visibility := .everywhere
  name := "Builder"
  fields := s.members.map Member.builderField

def Structure.builderMethods (s : Structure) (name : ShapeName) : MethodsDecl where
  attributes := []
  trait := none
  target := "Builder"
  functions :=
    s.members.flatMap (fun m => [m.valueSetter, m.optionSetter]) ++ [s.buildFunction name]

def Structure.builderItem (s : Structure) (name : ShapeName) : Item :=
  .module ["See [`" ++ name.ident ++ "`](" ++ name.outerType ++ ")."] .everywhere
    name.builderModule [.record (s.builderDecl name), .methods (s.builderMethods name)]

def Structure.items (s : Structure) (name : ShapeName) : List Item :=
  [.record (s.recordDecl name), .methods (s.accessors name)] ++ s.errorItems name
    ++ [s.builderItem name]

end ErrorUnion
