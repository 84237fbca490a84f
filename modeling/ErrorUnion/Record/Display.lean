import ErrorUnion.Name.Resolution
import ErrorUnion.Decl.Basic

/- How an error shape is displayed: by its identifier, with the message behind it if there is one;
   a renamed shape by identifier and wire name, and never with its message. -/
namespace ErrorUnion

inductive DisplayTemplate where
  | withMessage (ident : String)
  | nameOnly (ident : String)
  | renamed (ident wire : String)
deriving DecidableEq

def DisplayTemplate.of (name : ShapeName) (hasMessage : Bool) : DisplayTemplate :=
  if name.isRenamed then .renamed name.ident name.wire
  else if hasMessage then .withMessage name.ident
  else .nameOnly name.ident

def DisplayTemplate.readsRecord : DisplayTemplate → Bool
  | withMessage _ => true
  | _ => false

def writeText (s : String) : Expr := .method (.var "f") "write_str" [.literal s]

def DisplayTemplate.stmts (record : Expr) : DisplayTemplate → List Stmt
  | withMessage ident =>
    [.run (.attempt (writeText ident)),
     .ifLet (.present "message") (.method record "message" [])
       [.run (.attempt (.write (.var "f") ": " (.var "message")))],
     .result (.call "Ok" [.unit])]
  | nameOnly ident => [.result (writeText ident)]
  | renamed ident wire => [.result (writeText (ident ++ " [" ++ wire ++ "]"))]

def displayParams : List Param :=
  [.borrowed, .typed "f" "&mut std::fmt::Formatter<'_>"]

end ErrorUnion
