import ErrorUnion.Text.Pieces
import ErrorUnion.Text.Quoted

/- Expressions and patterns of generated code, with their text. Those that the generators build
   have a structure, so that they can be evaluated; any other text stands for itself. -/
namespace ErrorUnion
open Text

inductive Pattern where
  | verbatim (text : String)
  | variant (union name : String) (binding : Option String)
  | present (binding : String)
deriving DecidableEq

def Pattern.text : Pattern → String
  | verbatim s => s
  | variant u v binding => u ++ "::" ++ v ++ "(" ++ binding.getD "_" ++ ")"
  | present b => "Some(" ++ b ++ ")"

inductive Expr where
  | verbatim (text : String)
  | var (name : String)
  | unit
  | path (text : String)
  | literal (value : String)
  | field (object : Expr) (name : String)
  | method (object : Expr) (name : String) (args : List Expr)
  | call (function : String) (args : List Expr)
  | initial (type : String)
  | record (type : String) (fields : List (String × Expr))
  | assign (place value : Expr)
  /-- Ends the function at once if `inner` fails. -/
  | attempt (inner : Expr)
  | matches (subject : Expr) (pattern : Pattern)
  | write (target : Expr) (lead : String) (value : Expr)

mutual

def Expr.text : Expr → String
  | .verbatim s => s
  | .var n => n
  | .unit => "()"
  | .path p => p
  | .literal s => quote s
  | .field o n => o.text ++ "." ++ n
  | .method o n args => o.text ++ "." ++ n ++ "(" ++ argsText args ++ ")"
  | .call f args => f ++ "(" ++ argsText args ++ ")"
  | .initial t => "<" ++ t ++ " as std::default::Default>::default()"
  | .record t [] => t ++ " \x7b\x7d"
  | .record t (f :: fs) => t ++ " \x7b " ++ fieldsText (f :: fs) ++ " \x7d"
  | .assign p v => p.text ++ " = " ++ v.text
  | .attempt e => e.text ++ "?"
  | .matches e p => "matches!(" ++ e.text ++ ", " ++ p.text ++ ")"
  | .write t lead v =>
    "write!(" ++ t.text ++ ", " ++ quote (lead ++ "\x7b\x7d") ++ ", " ++ v.text ++ ")"

def argsText : List Expr → String
  | [] => ""
  | [e] => e.text
  | e :: d :: r => e.text ++ ", " ++ argsText (d :: r)

def fieldsText : List (String × Expr) → String
  | [] => ""
  | [(n, e)] => n ++ ": " ++ e.text
  | (n, e) :: f :: r => n ++ ": " ++ e.text ++ ", " ++ fieldsText (f :: r)

end

def Expr.absent : Expr := .path "None"

def Expr.present (e : Expr) : Expr := .call "Some" [e]

end ErrorUnion
