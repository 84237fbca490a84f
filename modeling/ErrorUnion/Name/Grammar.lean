import ErrorUnion.Text.Pieces
import ErrorUnion.Text.Quoted

/- The forms that names must have, their snake case, and the identifiers that are made of them.
   Letters, digits and case are those of ASCII. -/
namespace ErrorUnion.Name
open ErrorUnion.Text

def isWordStart (c : Char) : Bool := c.isAlpha || c = '_'

def isWordChar (c : Char) : Bool := c.isAlphanum || c = '_'

inductive NameFault where
  | emptyNamespace
  | emptySegment (space : String)
  | segmentStart (space segment : String)
  | segmentChar (space segment : String)
  | emptyShape
  | selfShape
  | shapeStart (name : String)
  | shapeChar (name : String)
  | emptyMember
  | memberStart (name : String)
  | memberChar (name : String)
  | memberBlank (name : String)
deriving DecidableEq

def NameFault.message : NameFault → String
  | emptyNamespace => "namespace must not be empty"
  | emptySegment n => "invalid namespace (empty segment): " ++ quote n
  | segmentStart n seg =>
    "invalid namespace segment start (must be [A-Za-z_]): " ++ quote n ++ " segment=" ++ quote seg
  | segmentChar n seg =>
    "invalid namespace segment char (allowed [A-Za-z0-9_]): " ++ quote n ++ " segment="
      ++ quote seg
  | emptyShape => "shape name must be non-empty"
  | selfShape => "shape name must not be the keyword `Self`"
  | shapeStart n => "invalid shape name start (must be [A-Z]): " ++ quote n
  | shapeChar n => "invalid shape name char (allowed [A-Za-z0-9_]): " ++ quote n
  | emptyMember => "member name must be non-empty"
  | memberStart n => "invalid member name start (must be [A-Za-z_]): " ++ quote n
  | memberChar n => "invalid member name char (allowed [A-Za-z0-9_]): " ++ quote n
  | memberBlank n => "member name must contain a letter or digit: " ++ quote n

def segmentFault? (space : String) (segment : List Char) : Option NameFault :=
  match segment with
  | [] => some (.emptySegment space)
  | c :: r =>
    if !isWordStart c then some (.segmentStart space (String.ofList segment))
    else if !r.all isWordChar then some (.segmentChar space (String.ofList segment))
    else none

/-- White space around a namespace does not count. -/
def namespaceFault? (name : String) : Option NameFault :=
  let name := trim name
  if name = "" then some .emptyNamespace
  else (pieces '.' name.toList).findSome? (segmentFault? name)

def shapeNameFault? (name : String) : Option NameFault :=
  match name.toList with
  | [] => some .emptyShape
  | c :: r =>
    if name = "Self" then some .selfShape
    else if !c.isUpper then some (.shapeStart name)
    else if !r.all isWordChar then some (.shapeChar name)
    else none

def memberNameFault? (name : String) : Option NameFault :=
  match name.toList with
  | [] => some .emptyMember
  | c :: r =>
    if !isWordStart c then some (.memberStart name)
    else if !r.all isWordChar then some (.memberChar name)
    else if (c :: r).all (· = '_') then some (.memberBlank name)
    else none

inductive PathFault where
  | empty
  | emptySegment (path : String)
  | segmentStart (path segment : String)
  | segmentChar (path segment : String)
deriving DecidableEq

def PathFault.message : PathFault → String
  | empty => "runtime crate path must be non-empty"
  | emptySegment p => "invalid runtime crate path (empty segment): " ++ quote p
  | segmentStart p seg =>
    "invalid runtime crate path segment start: " ++ quote p ++ " segment=" ++ quote seg
  | segmentChar p seg =>
    "invalid runtime crate path segment char: " ++ quote p ++ " segment=" ++ quote seg

def pathSegmentFault? (path : String) (segment : List Char) : Option PathFault :=
  match segment with
  | [] => some (.emptySegment path)
  | c :: r =>
    if !isWordStart c then some (.segmentStart path (String.ofList segment))
    else if !r.all isWordChar then some (.segmentChar path (String.ofList segment))
    else none

def cratePathFault? (path : String) : Option PathFault :=
  if path = "" then some .empty
  else (colonPieces path.toList).findSome? (pathSegmentFault? path)

def keywords : List String :=
  ["abstract", "as", "async", "await", "become", "box", "break", "const", "continue", "do", "dyn",
   "else", "enum", "extern", "false", "final", "fn", "for", "gen", "if", "impl", "in", "let",
   "loop", "macro", "match", "mod", "move", "mut", "override", "priv", "pub", "ref", "return",
   "static", "struct", "trait", "true", "try", "type", "typeof", "unsafe", "unsized", "use",
   "virtual", "where", "while", "yield"]

def bareWords : List String := ["self", "super", "crate", "Self", "_"]

/-- A word without raw form gets an underscore, any other keyword becomes a raw identifier. -/
def escapeIdent (name : String) : String :=
  if name ∈ bareWords then name ++ "_"
  else if name ∈ keywords then "r#" ++ name
  else name

/-- Whether a capital after `before` and in front of `after` starts a word: one starts after a
small letter or a digit, and at the last capital of an acronym. -/
def startsWord (before : Char) (after : List Char) : Bool :=
  before.isLower || before.isDigit || (before.isUpper && (after.head?.map Char.isLower).getD false)

def snakeAfter (before : Char) : List Char → List Char
  | [] => []
  | c :: r =>
    if c.isUpper && startsWord before r then '_' :: c.toLower :: snakeAfter c r
    else c.toLower :: snakeAfter c r

def snakeChars : List Char → List Char
  | [] => []
  | c :: r => c.toLower :: snakeAfter c r

def snakeCase (name : String) : String := String.ofList (snakeChars name.toList)

end ErrorUnion.Name
