import ErrorUnion.Proofs.Decl.Layout
import ErrorUnion.Proofs.Name.Word
import ErrorUnion.Proofs.Text.Literals

/- The variables that a piece of generated code uses, found in its text: words outside of literals
   and comments that are no segment of a path. -/
namespace ErrorUnion
open Text Name

inductive Lexeme where
  | word (chars : List Char)
  | colons
  | mark
deriving DecidableEq

/-- Letters, digits and underscores, the hash of raw names, and all that is not ASCII. -/
def isNameChar (c : Char) : Bool := isWordChar c || c = '#' || 127 < c.toNat

def Lexeme.longer (c : Char) : List Lexeme → List Lexeme
  | word cs :: r => word (c :: cs) :: r
  | r => word [c] :: r

/-- What a text consists of; a literal counts as one mark and comments as none. -/
def lexemes : Zone → List Char → List Lexeme
  | _, [] => []
  | .code, ':' :: ':' :: r => .colons :: lexemes .code r
  | .code, c :: r =>
    if c = '"' then .mark :: lexemes .literal r
    else if c = '/' ∧ r.head? = some '/' then lexemes .comment r
    else if isNameChar c then Lexeme.longer c (lexemes .code r)
    else .mark :: lexemes .code r
  | .comment, c :: r => if c = '\n' then lexemes .code r else lexemes .comment r
  | .literal, c :: r =>
    if c = '"' then lexemes .code r
    else if c = '\\' then lexemes .escape r
    else lexemes .literal r
  | .escape, _ :: r => lexemes .literal r

/-- Whether a word occurs that stands between no double colons; `joined` if some stand before. -/
def occurs (name : List Char) (joined : Bool) : List Lexeme → Bool
  | [] => false
  | .word cs :: r => (cs = name && !joined && r.head? ≠ some .colons) || occurs name false r
  | .colons :: r => occurs name true r
  | .mark :: r => occurs name false r

/-- Whether a piece of code uses a variable. -/
def Uses (name text : String) : Prop := occurs name.toList false (lexemes .code text.toList) = true

instance (name text : String) : Decidable (Uses name text) := inferInstanceAs (Decidable (_ = _))

example : Uses "inner" "f(inner)" ∧ ¬ Uses "inner" "inner::f(\"inner\", a::inner, inner_)" := by
  decide

def IsPath (path : String) : Prop :=
  ∀ piece ∈ colonPieces path.toList, ∀ c ∈ piece, isNameChar c = true

instance (path : String) : Decidable (IsPath path) :=
  inferInstanceAs (Decidable (∀ piece ∈ _, _))

/-- A text that ends no word and no path, so that what follows is read on its own. -/
def Ending (s : String) : Prop :=
  ∀ rest, lexemes .code (s.toList ++ rest) = lexemes .code s.toList ++ lexemes .code rest

theorem lex_body {body : List Char} (literal : LiteralBody body) (rest : List Char) :
    lexemes .literal (body ++ '"' :: rest) = lexemes .code rest := by
  induction literal with
  | nil => rfl
  | @char c r bare _ ih =>
    simp only [List.mem_cons, List.not_mem_nil, or_false, not_or] at bare
    rw [List.cons_append, lexemes, if_neg bare.1, if_neg bare.2.1, ih]
  | escape _ _ ih =>
    rw [List.cons_append, lexemes, if_neg (by decide), if_pos rfl, List.cons_append, lexemes, ih]

theorem lex_quote (s : String) (rest : List Char) :
    lexemes .code ((quote s).toList ++ rest) = .mark :: lexemes .code rest := by
  obtain ⟨body, shape, literal⟩ := (quote_literal s).quotes
  rw [shape, List.cons_append, List.append_assoc, List.singleton_append]
  exact congrArg _ (lex_body literal rest)

theorem lex_around_quote {a : String} (ending : Ending a) (s b : String) :
    lexemes .code (a ++ quote s ++ b).toList =
      lexemes .code a.toList ++ .mark :: lexemes .code b.toList := by
  rw [String.toList_append, String.toList_append, List.append_assoc, ending, lex_quote]

def wordOf : List Char → List Lexeme
  | [] => []
  | cs => [.word cs]

theorem lex_name_char {c : Char} (name : isNameChar c = true) (rest : List Char) :
    lexemes .code (c :: rest) = Lexeme.longer c (lexemes .code rest) := by
  have quote : c ≠ '"' := by rintro rfl; exact absurd name (by decide)
  have slash : c ≠ '/' := by rintro rfl; exact absurd name (by decide)
  have colon : c ≠ ':' := by rintro rfl; exact absurd name (by decide)
  rw [lexemes, if_neg quote, if_neg fun comment => slash comment.1, if_pos name]
  intro r same
  exact absurd same colon

theorem lex_segment {cs : List Char} (name : ∀ c ∈ cs, isNameChar c = true) (rest : List Char) :
    lexemes .code (cs ++ ':' :: ':' :: rest) = wordOf cs ++ .colons :: lexemes .code rest := by
  induction cs with
  | nil => rfl
  | cons c r ih =>
    rw [List.forall_mem_cons] at name
    rw [List.cons_append, lex_name_char name.1, ih name.2]
    cases r <;> rfl

theorem occurs_segment (name cs : List Char) (joined : Bool) (rest : List Lexeme) :
    occurs name joined (wordOf cs ++ .colons :: rest) = occurs name true rest := by
  cases cs with
  | nil => rfl
  | cons c r => simp [wordOf, occurs]

theorem colon_pieces_filled (cs : List Char) : colonPieces cs ≠ [] := by
  fun_cases colonPieces cs <;> exact List.cons_ne_nil _ _

theorem occurs_behind_path (name : List Char) {cs : List Char}
    (path : ∀ piece ∈ colonPieces cs, ∀ c ∈ piece, isNameChar c = true) (rest : List Char) :
    ∀ first, (∀ c ∈ first, isNameChar c = true) → ∀ joined,
      occurs name joined (lexemes .code (first ++ (cs ++ ':' :: ':' :: rest))) =
        occurs name true (lexemes .code rest) := by
  fun_induction colonPieces cs with
  | case1 =>
    intro first begun joined
    rw [List.nil_append, lex_segment begun, occurs_segment]
  | case2 r ih =>
    intro first begun joined
    rw [List.forall_mem_cons] at path
    rw [List.cons_append, List.cons_append, lex_segment begun, occurs_segment]
    exact ih path.2 [] (List.forall_mem_nil _) true
  | case3 c r _ none ih => exact absurd none (colon_pieces_filled r)
  | case4 c r _ p ps found ih =>
    intro first begun joined
    rw [found] at ih
    simp only [List.forall_mem_cons] at path ih
    have longer := ih ⟨path.1.2, path.2⟩ (first ++ [c])
      (List.forall_mem_append.mpr ⟨begun, List.forall_mem_singleton.mpr path.1.1⟩) joined
    simpa using longer

theorem crate_path_is_path {path : String} (accepted : IsCratePath path) : IsPath path := by
  intro piece listed c member
  have char := word_chars word_start_is_word_char (accepted piece listed) c member
  simp [isNameChar, char]

def ArmBody.text : ArmBody → String
  | .expr e => e.text
  | .block body => marksText 0 (stmtsMarks body)

theorem uses_behind_path {path : String} (isPath : IsPath path) (name rest : String) :
    Uses name (path ++ "::" ++ rest) ↔
      occurs name.toList true (lexemes .code rest.toList) = true := by
  have text : (path ++ "::" ++ rest).toList = [] ++ (path.toList ++ ':' :: ':' :: rest.toList) := by
    simp
  rw [Uses, text, occurs_behind_path name.toList isPath rest.toList [] (List.forall_mem_nil _)]

end ErrorUnion
