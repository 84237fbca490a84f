import ErrorUnion.Text.Pieces

/- Prose as the lines of a documentation comment. Code in such a comment would be taken for tests
   of the generated module, so every fenced block is marked as text and closed, and outside of
   fences no line is indented. -/
namespace ErrorUnion.Text

inductive Fence where
  | backticks
  | tildes
deriving DecidableEq

def Fence.char : Fence → Char
  | backticks => '`'
  | tildes => '~'

def Fence.mark (f : Fence) : List Char := List.replicate 3 f.char

def fenceOf? (line : List Char) : Option Fence :=
  if (afterHead? Fence.backticks.mark line).isSome then some .backticks
  else if (afterHead? Fence.tildes.mark line).isSome then some .tildes
  else none

def textMark : List Char := ['t', 'e', 'x', 't']

/-- The lines of a comment for lines of prose; `inside` is the fence that is open. -/
def fenced : Option Fence → List (List Char) → List (List Char)
  | none, [] => []
  | some f, [] => [f.mark]
  | inside, line :: rest =>
    let line := trimEnd line
    let bare := trimStart line
    match inside, fenceOf? bare with
    | none, some f => (f.mark ++ textMark) :: fenced (some f) rest
    | none, none => bare :: fenced none rest
    | some f, some g =>
      if g = f && bare.all (· = f.char) then f.mark :: fenced none rest
      else line :: fenced (some f) rest
    | some f, none => line :: fenced (some f) rest

/-- Lines of prose end at a line feed or a carriage return. -/
def proseLines (cs : List Char) : List (List Char) := (lines cs).flatMap (pieces '\r')

def docLines : Option String → List String
  | none => []
  | some s => (fenced none (proseLines s.toList)).map String.ofList

end ErrorUnion.Text
