import ErrorUnion.Text.Pieces

/- Paths as they are written: with slashes between names, to be joined and cut as text. -/
namespace ErrorUnion.Path
open Text

def isAbsolute (p : String) : Bool := p.toList.head? = some '/'

/-- A relative path continues the base, an absolute one replaces it. -/
def join (base p : String) : String :=
  if isAbsolute p || base = "" then p
  else if base.toList.getLast? = some '/' then base ++ p
  else base ++ "/" ++ p

def lead : List Char → List Char × List Char
  | '/' :: r => (['/'], r)
  | ['.'] => (['.'], [])
  | '.' :: '/' :: r => (['.'], '/' :: r)
  | cs => ([], cs)

def isSilent (name : List Char) : Bool := name = [] || name = ['.']

def joinSlashes : List (List Char) → List Char
  | [] => []
  | [n] => n
  | n :: m :: r => n ++ '/' :: joinSlashes (m :: r)

/-- The path without its last name; nothing for the root and for the empty path. -/
def parent? (p : String) : Option String :=
  let (front, body) := lead p.toList
  match (pieces '/' body).reverse.dropWhile isSilent with
  | _ :: before =>
    some (String.ofList (front ++ joinSlashes (before.dropWhile isSilent).reverse))
  | [] => if front = ['.'] then some "" else none

def names (p : String) : List String :=
  ((pieces '/' p.toList).filter (· ≠ [])).map String.ofList

def endsWithSlash (p : String) : Bool := p.toList.getLast? = some '/'

end ErrorUnion.Path
