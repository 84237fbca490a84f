import ErrorUnion.Decl.Expr

/- Declarations of generated code: structures, unions, groups of methods, and modules of them. -/
namespace ErrorUnion

inductive Visibility where
  | everywhere
  | crate
  | inherited
deriving DecidableEq

inductive Attribute where
  | derive (traits : List String)
  | nonExhaustive
  | deprecated (note since : Option String)
  | allow (lint : String)
deriving DecidableEq

structure FieldDecl where
  docs : List String
  visibility : Visibility
  name : String
  type : String
deriving DecidableEq

structure RecordDecl where
  docs : List String
  attributes : List Attribute
  visibility : Visibility
  name : String
  fields : List FieldDecl
deriving DecidableEq

structure VariantDecl where
  docs : List String
  attributes : List Attribute
  name : String
  payload : String
deriving DecidableEq

structure UnionDecl where
  docs : List String
  attributes : List Attribute
  visibility : Visibility
  name : String
  variants : List VariantDecl
deriving DecidableEq

inductive Stmt where
  | run (expr : Expr)
  | result (expr : Expr)
  | ifLet (pattern : Pattern) (value : Expr) (body : List Stmt)

inductive ArmBody where
  | expr (expr : Expr)
  | block (body : List Stmt)

structure Arm where
  pattern : Pattern
  body : ArmBody

inductive Body where
  | block (stmts : List Stmt)
  | cases (subject : Expr) (arms : List Arm)

inductive Param where
  | verbatim (text : String)
  | borrowed
  | owned
  | mutable
  | typed (name type : String)
deriving DecidableEq

structure Function where
  docs : List String
  visibility : Visibility
  name : String
  params : List Param
  returns : Option String
  body : Body

structure MethodsDecl where
  attributes : List Attribute
  trait : Option String
  target : String
  functions : List Function

inductive Item where
  | record (decl : RecordDecl)
  | union (decl : UnionDecl)
  | methods (decl : MethodsDecl)
  | module (docs : List String) (visibility : Visibility) (name : String) (items : List Item)

def Function.method (name : String) (params : List Param) (returns : Option String)
    (body : Body) : Function :=
  { docs := [], visibility := .everywhere, name, params, returns, body }

def Function.withDocs (f : Function) (docs : List String) : Function := { f with docs }

def Function.withVisibility (f : Function) (visibility : Visibility) : Function :=
  { f with visibility }

def Body.value (e : Expr) : Body := .block [.result e]

end ErrorUnion
