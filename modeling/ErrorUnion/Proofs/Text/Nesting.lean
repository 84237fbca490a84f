import Mathlib.Tactic.SplitIfs
import ErrorUnion.Text.Pieces
import ErrorUnion.Text.Quoted

/- Reading generated text for the places of its parts: comments to the end of their line, string
   literals that close on theirs, and delimiters outside of both, of which the last one opened
   closes first. A text is inert if all that stands behind it is read as if it were not there. -/
namespace ErrorUnion.Text

inductive Delimiter where
  | round
  | square
  | curly
deriving DecidableEq

/-- Only the delimiter that was opened last can be closed. -/
def Delimiter.close? (d : Delimiter) : List Delimiter → Option (List Delimiter)
  | [] => none
  | e :: r => if e = d then some r else none

def afterChar (opened : List Delimiter) (c : Char) : Option (List Delimiter) :=
  match c with
  | '(' => some (.round :: opened)
  | ')' => Delimiter.round.close? opened
  | '[' => some (.square :: opened)
  | ']' => Delimiter.square.close? opened
  | '{' => some (.curly :: opened)
  | '}' => Delimiter.curly.close? opened
  | _ => some opened

inductive Zone where
  | code
  | comment
  | literal
  | escape
deriving DecidableEq

/-- The delimiters that are open at the end, unless one is closed out of turn or a literal does not
close on its line. Each line starts with code, for a comment ends with its line. -/
def Zone.read (opened : List Delimiter) : Zone → List Char → Option (List Delimiter)
  | code, [] => some opened
  | comment, [] => some opened
  | literal, [] => none
  | escape, [] => none
  | code, c :: r =>
    if c = '"' then literal.read opened r
    else if c = '/' ∧ r.head? = some '/' then comment.read opened r
    else match afterChar opened c with
      | some later => code.read later r
      | none => none
  | comment, c :: r => if c = '\n' then code.read opened r else comment.read opened r
  | literal, c :: r =>
    if c = '\n' then none
    else if c = '"' then code.read opened r
    else if c = '\\' then escape.read opened r
    else literal.read opened r
  | escape, c :: r => if c = '\n' then none else literal.read opened r

/-- All literals close on their lines and all delimiters in turn. -/
def Nested (text : String) : Prop := Zone.code.read [] text.toList = some []

instance (text : String) : Decidable (Nested text) := inferInstanceAs (Decidable (_ = _))

example : Nested "f(\"]\\\"\"); // \x7b" ∧ ¬ Nested "f(\"\n\")" ∧ ¬ Nested "f([)]" := by decide

/-- Behind the text, `behind` takes the place of `before` as what was opened last, whatever follows.
A fixed text is read by computation. -/
def Reads (before : List Delimiter) (s : String) (behind : List Delimiter) : Prop :=
  ∀ opened rest, Zone.code.read (before ++ opened) (s.toList ++ rest) =
    Zone.code.read (behind ++ opened) rest

abbrev Inert (s : String) : Prop := Reads [] s []

theorem reads_append {a b c : List Delimiter} {s t : String} (first : Reads a s b)
    (second : Reads b t c) : Reads a (s ++ t) c := by
  intro opened rest
  rw [String.toList_append, List.append_assoc, first, second]

theorem reads_inert {s : String} (inert : Inert s) (a : List Delimiter) : Reads a s a :=
  fun opened rest => inert (a ++ opened) rest

theorem inert_append {s t : String} (first : Inert s) (second : Inert t) : Inert (s ++ t) :=
  reads_append first second

theorem inert_between {a : List Delimiter} {l s r : String} (left : Reads [] l a) (inner : Inert s)
    (right : Reads a r []) : Inert (l ++ s ++ r) :=
  reads_append (reads_append left (reads_inert inner a)) right

theorem inert_joined {sep : String} {ss : List String} (between : Inert sep)
    (each : ∀ s ∈ ss, Inert s) : Inert (joinWith sep ss) := by
  induction ss with
  | nil => exact fun _ _ => rfl
  | cons s r ih =>
    have first := each s List.mem_cons_self
    cases r with
    | nil => exact first
    | cons t r =>
      have later := ih fun u member => each u (List.mem_cons_of_mem s member)
      exact inert_append (inert_append first between) later

theorem nested_of_inert {s : String} (inert : Inert s) : Nested s := by
  simpa [Nested, Zone.read] using inert [] []

def isPlain (c : Char) : Bool := c ∉ ['\n', '"', '/', '(', ')', '[', ']', '{', '}']

abbrev Plain (s : String) : Prop := s.toList.all isPlain = true

abbrev OneLine (s : String) : Prop := '\n' ∉ s.toList

theorem plain_append {s t : String} (first : Plain s) (second : Plain t) : Plain (s ++ t) := by
  rw [Plain, String.toList_append, List.all_append, first, second]
  rfl

theorem one_line_append {s t : String} (first : OneLine s) (second : OneLine t) :
    OneLine (s ++ t) := by
  rw [OneLine, String.toList_append, List.mem_append, not_or]
  exact ⟨first, second⟩

theorem one_line_of_plain {s : String} (plain : Plain s) : OneLine s :=
  fun feed => absurd (List.all_eq_true.mp plain '\n' feed) (by decide)

theorem after_plain {c : Char} (plain : isPlain c = true) (opened : List Delimiter) :
    afterChar opened c = some opened := by
  unfold afterChar
  split <;> first | rfl | exact absurd plain (by decide)

theorem read_plain {c : Char} (plain : isPlain c = true) (opened : List Delimiter)
    (rest : List Char) : Zone.code.read opened (c :: rest) = Zone.code.read opened rest := by
  have quote : c ≠ '"' := by rintro rfl; exact absurd plain (by decide)
  have slash : c ≠ '/' := by rintro rfl; exact absurd plain (by decide)
  simp only [Zone.read, quote, slash, false_and, if_false, after_plain plain]

theorem inert_of_plain {s : String} (plain : Plain s) : Inert s := by
  intro opened rest
  rw [Plain, List.all_eq_true] at plain
  generalize s.toList = cs at plain ⊢
  induction cs with
  | nil => rfl
  | cons c r ih =>
    rw [List.cons_append, read_plain (plain c List.mem_cons_self)]
    exact ih fun d later => plain d (List.mem_cons_of_mem c later)

theorem read_comment {cs : List Char} (line : '\n' ∉ cs) (opened : List Delimiter)
    (rest : List Char) :
    Zone.comment.read opened (cs ++ '\n' :: rest) = Zone.code.read opened rest := by
  induction cs with
  | nil => rfl
  | cons c r ih =>
    have other : c ≠ '\n' := fun same => line (same ▸ List.mem_cons_self)
    simp only [List.cons_append, Zone.read, other, if_false]
    exact ih fun later => line (List.mem_cons_of_mem c later)

theorem inert_comment {s : String} (line : OneLine s) : Inert ("//" ++ s ++ "\n") := by
  intro opened rest
  have inside : '\n' ∉ '/' :: s.toList := by simpa using line
  simp only [String.toList_append, List.append_assoc]
  exact read_comment inside opened rest

def isLiteral (c : Char) : Bool := c ≠ '\n' && c ≠ '"' && c ≠ '\\'

theorem read_literal {cs : List Char} (chars : ∀ c ∈ cs, isLiteral c = true)
    (opened : List Delimiter) (rest : List Char) :
    Zone.literal.read opened (cs ++ rest) = Zone.literal.read opened rest := by
  induction cs with
  | nil => rfl
  | cons c r ih =>
    have char := chars c List.mem_cons_self
    simp only [isLiteral, Bool.and_eq_true, decide_eq_true_eq] at char
    simp only [List.cons_append, Zone.read, char, if_false]
    exact ih fun d later => chars d (List.mem_cons_of_mem c later)

theorem hex_digits {kind : Char → Prop} (digit : ∀ d, kind (Nat.digitChar d)) (n : Nat) :
    ∀ c ∈ hex n, kind c := by
  induction n using Nat.strongRecOn with
  | ind n ih =>
    intro c member
    rw [hex, Nat.toDigits_eq_if (by decide)] at member
    split at member
    · rw [List.mem_singleton.mp member]
      exact digit n
    · rcases List.mem_append.mp member with earlier | last
      · exact ih (n / 16) (by omega) c earlier
      · rw [List.mem_singleton.mp last]
        exact digit (n % 16)

theorem hex_literal (n : Nat) : ∀ c ∈ hex n, isLiteral c = true :=
  hex_digits (by simp [isLiteral]) n

theorem read_escape (c : Char) (opened : List Delimiter) (rest : List Char) :
    Zone.literal.read opened (escape c ++ rest) = Zone.literal.read opened rest := by
  unfold escape
  split_ifs with quote slash tab back line null hidden
  any_goals rfl
  · have digits : ∀ d ∈ '{' :: (hex c.toNat ++ ['}']), isLiteral d = true := by
      rw [List.forall_mem_cons, List.forall_mem_append, List.forall_mem_singleton]
      exact ⟨by decide, hex_literal c.toNat, by decide⟩
    exact read_literal digits opened rest
  · have plain : ∀ d ∈ [c], isLiteral d = true := by simp [isLiteral, quote, slash, line]
    exact read_literal plain opened rest

theorem inert_quote (s : String) : Inert (quote s) := by
  intro opened rest
  simp only [quote, String.toList_ofList, quoteChars, List.cons_append, List.append_assoc]
  change Zone.literal.read opened (s.toList.flatMap escape ++ '"' :: rest) = _
  induction s.toList with
  | nil => rfl
  | cons c r ih => rw [List.flatMap_cons, List.append_assoc, read_escape, ih]

end ErrorUnion.Text
