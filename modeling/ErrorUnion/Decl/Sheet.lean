import ErrorUnion.Decl.Basic

/- Laying out declarations. A declaration becomes a sequence of marks, a sheet takes marks one by
   one and keeps the depth of open blocks; each depth indents a line by four blanks. -/
namespace ErrorUnion
open Text

inductive Mark where
  | line (text : String)
  | opening (head : String)
  | closing
deriving DecidableEq

structure Sheet where
  text : String
  depth : Nat
deriving DecidableEq

def Sheet.empty : Sheet := ⟨"", 0⟩

def indentation : Nat → String
  | 0 => ""
  | n + 1 => "    " ++ indentation n

/-- An empty line is not indented. -/
def lineText (depth : Nat) (text : String) : String :=
  if text = "" then "\n" else indentation depth ++ text ++ "\n"

def Sheet.line (s : Sheet) (text : String) : Sheet :=
  { s with text := s.text ++ lineText s.depth text }

def Sheet.put (s : Sheet) : Mark → Sheet
  | .line text => s.line text
  | .opening head => { s.line (head ++ " \x7b") with depth := s.depth + 1 }
  | .closing => Sheet.line { s with depth := s.depth - 1 } "\x7d"

def Sheet.putAll (s : Sheet) (marks : List Mark) : Sheet := marks.foldl Sheet.put s

def Visibility.text : Visibility → String
  | everywhere => "pub "
  | crate => "pub(crate) "
  | inherited => ""

def deprecationArgs (note since : Option String) : List String :=
  (since.map fun s => "since = " ++ quote s).toList
    ++ (note.map fun s => "note = " ++ quote s).toList

def Attribute.text : Attribute → String
  | derive traits => "#[derive(" ++ joinWith ", " traits ++ ")]"
  | nonExhaustive => "#[non_exhaustive]"
  | deprecated note since =>
    match deprecationArgs note since with
    | [] => "#[deprecated]"
    | args => "#[deprecated(" ++ joinWith ", " args ++ ")]"
  | allow lint => "#[allow(" ++ lint ++ ")]"

def docText (d : String) : String := if d = "" then "///" else "/// " ++ d

def docMarks (docs : List String) : List Mark := docs.map fun d => .line (docText d)

def attributeMarks (as : List Attribute) : List Mark := as.map fun a => .line a.text

def FieldDecl.marks (f : FieldDecl) : List Mark :=
  docMarks f.docs ++ [.line (f.visibility.text ++ f.name ++ ": " ++ f.type ++ ",")]

/-- A block, or the head with empty braces when nothing stands in it. -/
def blockMarks (head : String) : List Mark → List Mark
  | [] => [.line (head ++ " \x7b\x7d")]
  | body => .opening head :: (body ++ [.closing])

def RecordDecl.marks (r : RecordDecl) : List Mark :=
  docMarks r.docs ++ attributeMarks r.attributes
    ++ blockMarks (r.visibility.text ++ "struct " ++ r.name) (r.fields.flatMap FieldDecl.marks)

def VariantDecl.marks (v : VariantDecl) : List Mark :=
  docMarks v.docs ++ attributeMarks v.attributes ++ [.line (v.name ++ "(" ++ v.payload ++ "),")]

def UnionDecl.marks (u : UnionDecl) : List Mark :=
  docMarks u.docs ++ attributeMarks u.attributes
    ++ [.opening (u.visibility.text ++ "enum " ++ u.name)]
    ++ u.variants.flatMap VariantDecl.marks ++ [.closing]

mutual

def Stmt.marks : Stmt → List Mark
  | .run e => [.line (e.text ++ ";")]
  | .result e => [.line e.text]
  | .ifLet p v body =>
    .opening ("if let " ++ p.text ++ " = " ++ v.text) :: (stmtsMarks body ++ [.closing])

def stmtsMarks : List Stmt → List Mark
  | [] => []
  | s :: r => s.marks ++ stmtsMarks r

end

def Arm.marks (a : Arm) : List Mark :=
  match a.body with
  | .expr e => [.line (a.pattern.text ++ " => " ++ e.text ++ ",")]
  | .block body => .opening (a.pattern.text ++ " =>") :: (stmtsMarks body ++ [.closing])

def Body.marks : Body → List Mark
  | .block stmts => stmtsMarks stmts
  | .cases e arms => .opening ("match " ++ e.text) :: (arms.flatMap Arm.marks ++ [.closing])

def Param.text : Param → String
  | verbatim s => s
  | borrowed => "&self"
  | owned => "self"
  | mutable => "mut self"
  | typed name type => name ++ ": " ++ type

def Function.head (f : Function) : String :=
  f.visibility.text ++ "fn " ++ f.name ++ "(" ++ joinWith ", " (f.params.map Param.text) ++ ")"
    ++ match f.returns with
      | some t => " -> " ++ t
      | none => ""

def Function.marks (f : Function) : List Mark :=
  docMarks f.docs ++ .opening f.head :: (f.body.marks ++ [.closing])

def spaced : List (List Mark) → List Mark
  | [] => []
  | [g] => g
  | g :: h :: r => g ++ .line "" :: spaced (h :: r)

def MethodsDecl.head (m : MethodsDecl) : String :=
  match m.trait with
  | some t => "impl " ++ t ++ " for " ++ m.target
  | none => "impl " ++ m.target

def MethodsDecl.marks (m : MethodsDecl) : List Mark :=
  attributeMarks m.attributes ++ blockMarks m.head (spaced (m.functions.map Function.marks))

mutual

def Item.marks : Item → List Mark
  | .record r => r.marks
  | .union u => u.marks
  | .methods m => m.marks
  | .module docs vis name items =>
    docMarks docs ++ .opening (vis.text ++ "mod " ++ name) :: (itemsMarks items ++ [.closing])

def itemsMarks : List Item → List Mark
  | [] => []
  | [i] => i.marks
  | i :: j :: r => i.marks ++ .line "" :: itemsMarks (j :: r)

end

def Sheet.blank (s : Sheet) : Sheet := s.line ""

def Sheet.comment (s : Sheet) (text : String) : Sheet := s.line ("// " ++ text)

def Sheet.item (s : Sheet) (i : Item) : Sheet := s.putAll i.marks

def Sheet.items (s : Sheet) (is : List Item) : Sheet := s.putAll (itemsMarks is)

end ErrorUnion
