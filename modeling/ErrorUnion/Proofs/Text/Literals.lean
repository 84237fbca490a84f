import Mathlib.Algebra.Group.Nat.Defs
import ErrorUnion.Text.Quoted
import ErrorUnion.Proofs.Text.Nesting
import ErrorUnion.Proofs.Text.Prose

/- Literals as a reader of the generated language takes them, which knows the escapes one by one and
   not how they were written. Each escape gives back its character, whatever stands behind it. -/
namespace ErrorUnion.Text

def escaped? : Char → Option Char
  | 't' => some '\t'
  | 'r' => some '\r'
  | 'n' => some '\n'
  | '0' => some '\x00'
  | '"' => some '"'
  | '\\' => some '\\'
  | _ => none

def charOf? (digits code : Nat) : Option Char :=
  if 0 < digits ∧ digits ≤ 6 ∧ code.isValidChar then some (Char.ofNat code) else none

inductive Reading where
  | text
  | backslash
  | brace
  | code (digits value : Nat)

/-- The text up to the quote that ends a literal, and what follows the quote. The literal has to end
on its line. -/
def Reading.read : Reading → List Char → Option (List Char × List Char)
  | _, [] => none
  | text, c :: r =>
    if c = '"' then some ([], r)
    else if c = '\\' then backslash.read r
    else if c = '\n' ∨ c = '\r' then none
    else (text.read r).map fun (cs, rest) => (c :: cs, rest)
  | backslash, c :: r =>
    if c = 'u' then brace.read r
    else match escaped? c with
      | some d => (text.read r).map fun (cs, rest) => (d :: cs, rest)
      | none => none
  | brace, c :: r => if c = '{' then (code 0 0).read r else none
  | code digits value, c :: r =>
    if c = '}' then match charOf? digits value with
      | some d => (text.read r).map fun (cs, rest) => (d :: cs, rest)
      | none => none
    else match hexValue? c with
      | some d => (code (digits + 1) (16 * value + d)).read r
      | none => none

/-- The text that a literal stands for. -/
def literal? (lit : String) : Option String :=
  match lit.toList with
  | '"' :: r => match Reading.text.read r with
    | some (cs, []) => some (String.ofList cs)
    | _ => none
  | _ => none

/-- What may stand between the quotes of a literal: every quote has a backslash of its own. -/
inductive LiteralBody : List Char → Prop where
  | nil : LiteralBody []
  | char {c : Char} {r : List Char} : c ∉ ['"', '\\', '\n', '\r'] → LiteralBody r →
      LiteralBody (c :: r)
  | escape {c : Char} {r : List Char} : c ∉ ['\n', '\r'] → LiteralBody r →
      LiteralBody ('\\' :: c :: r)

/-- A text in the form of a literal, which closes at its end only and stands for the text. -/
structure LiteralOf (s lit : String) : Prop where
  quotes : ∃ body, lit.toList = '"' :: (body ++ ['"']) ∧ LiteralBody body
  line : Unbroken lit.toList
  value : literal? lit = some s

theorem hex_digit_value {d : Nat} (digit : d < 16) : hexValue? (Nat.digitChar d) = some d := by
  have all : ∀ d < 16, hexValue? (Nat.digitChar d) = some d := by decide
  exact all d digit

theorem read_digit {c : Char} {d : Nat} (digit : hexValue? c = some d) (digits value : Nat)
    (rest : List Char) :
    (Reading.code digits value).read (c :: rest) =
      (Reading.code (digits + 1) (16 * value + d)).read rest := by
  have inside : c ≠ '}' := by
    rintro rfl
    cases digit
  rw [Reading.read, if_neg inside, digit]

theorem read_single_digit {n : Nat} (small : n < 16) (rest : List Char) :
    (Reading.code 0 0).read (hex n ++ rest) = (Reading.code 1 n).read rest := by
  rw [hex, Nat.toDigits_of_lt_base small, List.singleton_append, read_digit (hex_digit_value small),
    Nat.mul_zero, Nat.zero_add, Nat.zero_add]

theorem read_hex (k : Nat) {n : Nat} (size : n < 16 ^ (k + 1)) :
    ∃ digits, 0 < digits ∧ digits ≤ k + 1 ∧ ∀ rest,
      (Reading.code 0 0).read (hex n ++ rest) = (Reading.code digits n).read rest := by
  -- A code is written with its last digit behind the digits of the rest.
  induction k generalizing n with
  | zero =>
    have small : n < 16 := by simpa using size
    exact ⟨1, by omega, by omega, read_single_digit small⟩
  | succ k ih =>
    by_cases small : n < 16
    · exact ⟨1, by omega, by omega, read_single_digit small⟩
    · have shorter : n / 16 < 16 ^ (k + 1) := by omega
      obtain ⟨digits, filled, few, front⟩ := ih shorter
      refine ⟨digits + 1, by omega, by omega, fun rest => ?_⟩
      have last := hex_digit_value (Nat.mod_lt n (by decide : 16 > 0))
      rw [hex, Nat.toDigits_eq_if (by decide), if_neg small, List.append_assoc,
        List.singleton_append, ← hex, front, read_digit last, Nat.div_add_mod]

theorem char_of_own_code {digits : Nat} (filled : 0 < digits) (few : digits ≤ 6) (c : Char) :
    charOf? digits c.toNat = some c := by
  rw [charOf?, if_pos ⟨filled, few, c.valid⟩, Char.ofNat_toNat]

theorem char_code_bound (c : Char) : c.toNat < 16 ^ (5 + 1) := by
  have valid := c.valid
  simp only [UInt32.isValidChar, Nat.isValidChar] at valid
  change c.val.toNat < 16 ^ (5 + 1)
  omega

theorem read_escaped (c : Char) (rest : List Char) :
    Reading.text.read (escape c ++ rest) =
      (Reading.text.read rest).map fun (cs, after) => (c :: cs, after) := by
  unfold escape
  split_ifs with quote slash tab back line null hidden
  · subst c; rfl
  · subst c; rfl
  · subst c; rfl
  · subst c; rfl
  · subst c; rfl
  · subst c; rfl
  · obtain ⟨digits, filled, few, front⟩ := read_hex 5 (char_code_bound c)
    have opened : Reading.text.read ((['\\', 'u', '{'] ++ hex c.toNat ++ ['}']) ++ rest) =
        (Reading.code 0 0).read (hex c.toNat ++ '}' :: rest) := by
      rw [List.append_assoc, List.append_assoc]
      rfl
    rw [opened, front, Reading.read, if_pos rfl, char_of_own_code filled few]
  · simp [Reading.read, quote, slash, line, back]

theorem read_escapes (cs rest : List Char) :
    Reading.text.read (cs.flatMap escape ++ '"' :: rest) = some (cs, rest) := by
  induction cs with
  | nil => rfl
  | cons c r ih => rw [List.flatMap_cons, List.append_assoc, read_escaped, ih, Option.map_some]

theorem hex_digits_bare (n : Nat) : ∀ c ∈ hex n, c ∉ ['"', '\\', '\n', '\r'] :=
  hex_digits (by simp) n

theorem bare_body {cs rest : List Char} (bare : ∀ c ∈ cs, c ∉ ['"', '\\', '\n', '\r'])
    (body : LiteralBody rest) : LiteralBody (cs ++ rest) := by
  induction cs with
  | nil => exact body
  | cons c r ih =>
    rw [List.forall_mem_cons] at bare
    exact .char bare.1 (ih bare.2)

theorem escape_body (c : Char) {rest : List Char} (body : LiteralBody rest) :
    LiteralBody (escape c ++ rest) := by
  unfold escape
  split_ifs with quote slash tab back line null hidden
  iterate 6 exact .escape (by decide) body
  · have digits : ∀ d ∈ '{' :: (hex c.toNat ++ ['}']), d ∉ ['"', '\\', '\n', '\r'] := by
      rw [List.forall_mem_cons, List.forall_mem_append, List.forall_mem_singleton]
      exact ⟨by decide, hex_digits_bare c.toNat, by decide⟩
    have code := bare_body digits body
    exact .escape (c := 'u') (by decide) code
  · have bare : c ∉ ['"', '\\', '\n', '\r'] := by simp [quote, slash, line, back]
    exact .char bare body

theorem escapes_body (cs : List Char) : LiteralBody (cs.flatMap escape) := by
  induction cs with
  | nil => exact .nil
  | cons c r ih =>
    rw [List.flatMap_cons]
    exact escape_body c ih

theorem unbroken_cons_iff {c : Char} {r : List Char} :
    Unbroken (c :: r) ↔ c ∉ ['\n', '\r'] ∧ Unbroken r := by
  simp only [Unbroken, List.mem_cons, not_or, List.not_mem_nil, not_false_eq_true, and_true]
  constructor
  · intro ⟨⟨feed, line⟩, back, rest⟩
    exact ⟨⟨fun same => feed same.symm, fun same => back same.symm⟩, line, rest⟩
  · intro ⟨⟨feed, back⟩, line, rest⟩
    exact ⟨⟨fun same => feed same.symm, line⟩, fun same => back same.symm, rest⟩

theorem body_unbroken {cs rest : List Char} (body : LiteralBody cs) (line : Unbroken rest) :
    Unbroken (cs ++ rest) := by
  induction body with
  | nil => exact line
  | @char c r bare _ ih =>
    have whole : c ∉ ['\n', '\r'] := fun member => bare (by simp_all)
    exact unbroken_cons_iff.mpr ⟨whole, ih⟩
  | escape whole _ ih =>
    exact unbroken_cons_iff.mpr ⟨by decide, unbroken_cons_iff.mpr ⟨whole, ih⟩⟩

theorem quote_literal (s : String) : LiteralOf s (quote s) := by
  have chars : (quote s).toList = '"' :: (s.toList.flatMap escape ++ ['"']) := by
    rw [quote, String.toList_ofList, quoteChars]
  have body := escapes_body s.toList
  refine ⟨⟨_, chars, body⟩, ?_, ?_⟩
  · rw [chars, unbroken_cons_iff]
    exact ⟨by decide, body_unbroken body ⟨by decide, by decide⟩⟩
  · have read := read_escapes s.toList []
    simp only [literal?, chars, read, String.ofList_toList]

end ErrorUnion.Text
