import ErrorUnion.Proofs.Name.Escape

/- Legal identifiers of the generated language, and the ways in which names of a model become some:
   as types they start with a capital, as fields and modules they are escaped, and as methods they
   stand behind a word with which no keyword starts. -/
namespace ErrorUnion.Name
open ErrorUnion.Text

/-- All words with a meaning of their own, those in use and those set aside, in every edition. -/
def languageKeywords : List String :=
  ["as", "break", "const", "continue", "crate", "else", "enum", "extern", "false", "fn", "for",
   "if", "impl", "in", "let", "loop", "match", "mod", "move", "mut", "pub", "ref", "return", "self",
   "Self", "static", "struct", "super", "trait", "true", "type", "unsafe", "use", "where", "while"]
    ++ ["async", "await", "dyn"]
    ++ ["abstract", "become", "box", "do", "final", "macro", "override", "priv", "typeof",
        "unsized", "virtual", "yield"]
    ++ ["try"] ++ ["gen"]

/-- A word that is no keyword, or a keyword in its raw form if it may have one. -/
def IsIdentifier (name : String) : Prop :=
  (IsWord name ∧ name ≠ "_" ∧ name ∉ languageKeywords) ∨
    ∃ word ∈ languageKeywords, word ∉ ["self", "super", "crate", "Self"] ∧ name = "r#" ++ word

instance (name : String) : Decidable (IsIdentifier name) :=
  inferInstanceAs (Decidable (_ ∨ ∃ word ∈ languageKeywords, _ ∧ _))

theorem type_name_identifier {name : String} (word : IsTypeName name) (other : name ≠ "Self") :
    IsIdentifier name := by
  have capital : ∀ w ∈ "_" :: languageKeywords, IsTypeName w → w = "Self" := by decide
  refine Or.inl ⟨type_name_is_word word, ?_, fun keyword => ?_⟩
  · rintro rfl
    exact absurd word (by decide)
  · exact other (capital name (List.mem_cons_of_mem _ keyword) word)

theorem identifier_append {head rest : String} (word : IsWord head)
    (chars : ∀ c ∈ rest.toList, isWordChar c = true)
    (apart : ∀ w ∈ "_" :: languageKeywords, ¬ head.toList <+: w.toList) :
    IsIdentifier (head ++ rest) := by
  have lead : head.toList <+: (head ++ rest).toList := by simp
  have word' : IsWord (head ++ rest) := by
    unfold IsWord at word ⊢
    rw [String.toList_append]
    cases cs : head.toList with
    | nil => simp [cs, isWordFrom] at word
    | cons c r =>
      simp only [cs, isWordFrom, Bool.and_eq_true] at word
      simp only [List.cons_append, isWordFrom, List.all_append, word.1, word.2, Bool.true_and]
      exact List.all_eq_true.mpr chars
  refine Or.inl ⟨word', fun blank => ?_, fun keyword => ?_⟩
  · exact apart "_" List.mem_cons_self (blank ▸ lead)
  · exact apart _ (List.mem_cons_of_mem _ keyword) lead

theorem keyword_escaped {word : String} (keyword : word ∈ languageKeywords) :
    word ∈ bareWords ∨ word ∈ keywords := by
  have all : ∀ w ∈ languageKeywords, w ∈ bareWords ∨ w ∈ keywords := by decide
  exact all word keyword

theorem raw_keyword {word : String} (keyword : word ∈ keywords) :
    word ∈ languageKeywords ∧ word ∉ ["self", "super", "crate", "Self"] := by
  have all : ∀ w ∈ keywords, w ∈ languageKeywords ∧ w ∉ ["self", "super", "crate", "Self"] := by
    decide
  exact all word keyword

theorem escape_identifier {name : String} (word : IsWord name) (other : name ≠ "_") :
    IsIdentifier (escapeIdent name) := by
  by_cases bare : name ∈ bareWords
  · have all : ∀ w ∈ bareWords, w ≠ "_" → IsIdentifier (w ++ "_") := by decide
    rw [escape_bare bare]
    exact all name bare other
  · by_cases keyword : name ∈ keywords
    · rw [escape_keyword bare keyword]
      obtain ⟨listed, raw⟩ := raw_keyword keyword
      exact Or.inr ⟨name, listed, raw, rfl⟩
    · rw [escape_other bare keyword]
      exact Or.inl ⟨word, other, fun listed => (keyword_escaped listed).elim bare keyword⟩

theorem lower_word_start {c : Char} (start : isWordStart c = true) :
    isWordStart c.toLower = true := by
  simp only [isWordStart, Bool.or_eq_true, decide_eq_true_eq] at start ⊢
  rcases start with alpha | rfl
  · exact Or.inl ((alpha_iff _).mpr (Or.inr (letter_to_small alpha)))
  · exact Or.inr (by decide)

theorem snake_is_word {name : String} (word : IsWord name) : IsWord (snakeCase name) := by
  have chars := snake_word word_start_is_word_char word
  unfold IsWord at word ⊢
  simp only [snakeCase, String.toList_ofList] at chars ⊢
  cases cs : name.toList with
  | nil => simp [cs, isWordFrom] at word
  | cons c r =>
    simp only [cs, isWordFrom, Bool.and_eq_true] at word
    simp only [cs, snakeChars, List.forall_mem_cons] at chars
    simp only [snakeChars, isWordFrom, Bool.and_eq_true, List.all_eq_true]
    exact ⟨lower_word_start word.1, fun d later => (chars.2 d later).1⟩

theorem lower_line_iff (c : Char) : c.toLower = '_' ↔ c = '_' := by
  constructor
  · intro line
    by_cases alpha : c.isAlpha = true
    · have small := letter_to_small alpha
      rw [line] at small
      exact absurd small (by decide)
    · have same : c.toLower = c := by
        unfold Char.toLower
        rw [dif_neg]
        intro range
        exact alpha ((alpha_iff c).mpr (Or.inl (decide_eq_true range)))
      rwa [same] at line
  · rintro rfl
    decide

theorem snake_not_line {name : String} (more : ∃ c ∈ name.toList, c ≠ '_') :
    snakeCase name ≠ "_" := by
  intro line
  have chars := congrArg String.toList line
  simp only [snakeCase, String.toList_ofList] at chars
  obtain ⟨d, member, other⟩ := more
  cases cs : name.toList with
  | nil => simp [cs] at member
  | cons c r =>
    have alone : c.toLower = '_' ∧ snakeAfter c r = [] := by
      simpa [cs, snakeChars] using chars
    have rest : r = [] := by
      cases r with
      | nil => rfl
      | cons e t =>
        have empty := alone.2
        simp only [snakeAfter] at empty
        split at empty <;> cases empty
    rw [cs, rest, List.mem_singleton] at member
    exact other (member ▸ (lower_line_iff c).mp alone.1)

theorem escaped_snake_identifier {name : String} (word : IsWord name)
    (more : ∃ c ∈ name.toList, c ≠ '_') : IsIdentifier (escapeIdent (snakeCase name)) :=
  escape_identifier (snake_is_word word) (snake_not_line more)

theorem type_name_not_line {name : String} (word : IsTypeName name) :
    ∃ c ∈ name.toList, c ≠ '_' := by
  cases cs : name.toList with
  | nil => simp [IsTypeName, cs, isWordFrom] at word
  | cons c r =>
    simp only [IsTypeName, cs, isWordFrom, Bool.and_eq_true] at word
    refine ⟨c, List.mem_cons_self, ?_⟩
    rintro rfl
    exact absurd word.1 (by decide)

theorem not_self_with_error (stem : String) : stem ++ "Error" ≠ "Self" := by
  intro same
  have lengths := congrArg String.length same
  rw [String.length_append] at lengths
  change stem.length + 5 = 4 at lengths
  omega

theorem without_exception_not_self {name : String} (other : name ≠ "Self") :
    withoutException name ≠ "Self" := by
  unfold withoutException
  split
  · exact other
  · exact other
  · exact not_self_with_error _

end ErrorUnion.Name
