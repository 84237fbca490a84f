import ErrorUnion.Decl.Value
import ErrorUnion.Name.Grammar
import ErrorUnion.Name.Resolution
import ErrorUnion.Proofs.Text.Pieces

/- Words: the form of the names in a model, and what is left of that form once a name is in snake
   case, loses its exception, or keeps away from the keywords of the language. -/
namespace ErrorUnion.Name
open ErrorUnion.Text

/-- A first character of some kind with letters, digits and underscores behind it. -/
def isWordFrom (start : Char → Bool) : List Char → Bool
  | [] => false
  | c :: r => start c && r.all isWordChar

abbrev IsTypeName (name : String) : Prop := isWordFrom Char.isUpper name.toList = true

abbrev IsWord (name : String) : Prop := isWordFrom isWordStart name.toList = true

theorem word_from_mono {start other : Char → Bool} {cs : List Char}
    (wider : ∀ c, start c = true → other c = true) (word : isWordFrom start cs = true) :
    isWordFrom other cs = true := by
  cases cs with
  | nil => simp [isWordFrom] at word
  | cons c r =>
    simp only [isWordFrom, Bool.and_eq_true] at word ⊢
    exact ⟨wider c word.1, word.2⟩

theorem upper_iff (c : Char) : c.isUpper = true ↔ 65 ≤ c.toNat ∧ c.toNat ≤ 90 := by
  change decide (65 ≤ c.val ∧ c.val ≤ 90) = true ↔ 65 ≤ c.val.toNat ∧ c.val.toNat ≤ 90
  rw [decide_eq_true_iff, UInt32.le_iff_toNat_le, UInt32.le_iff_toNat_le]
  rfl

theorem lower_iff (c : Char) : c.isLower = true ↔ 97 ≤ c.toNat ∧ c.toNat ≤ 122 := by
  change (decide (97 ≤ c.val) && decide (c.val ≤ 122)) = true ↔
    97 ≤ c.val.toNat ∧ c.val.toNat ≤ 122
  rw [Bool.and_eq_true, decide_eq_true_iff, decide_eq_true_iff, UInt32.le_iff_toNat_le,
    UInt32.le_iff_toNat_le]
  rfl

theorem alpha_iff (c : Char) : c.isAlpha = true ↔ c.isUpper = true ∨ c.isLower = true := by
  change (c.isUpper || c.isLower) = true ↔ _
  rw [Bool.or_eq_true]

theorem upper_is_word_start (c : Char) (upper : c.isUpper = true) : isWordStart c = true := by
  simp [isWordStart, (alpha_iff c).mpr (Or.inl upper)]

theorem upper_not_lower {c : Char} (upper : c.isUpper = true) : c.isLower = false := by
  rw [upper_iff] at upper
  rw [← Bool.not_eq_true, lower_iff]
  omega

theorem word_start_is_word_char (c : Char) (start : isWordStart c = true) :
    isWordChar c = true := by
  simp only [isWordStart, isWordChar, Bool.or_eq_true, Char.isAlphanum] at start ⊢
  rcases start with alpha | line
  · exact Or.inl (Or.inl alpha)
  · exact Or.inr line

theorem type_name_is_word {name : String} (h : IsTypeName name) : IsWord name :=
  word_from_mono upper_is_word_start h

theorem word_chars {start : Char → Bool} {cs : List Char}
    (narrow : ∀ c, start c = true → isWordChar c = true) (word : isWordFrom start cs = true) :
    ∀ c ∈ cs, isWordChar c = true := by
  cases cs with
  | nil => simp
  | cons c r =>
    simp only [isWordFrom, Bool.and_eq_true, List.all_eq_true] at word
    intro d member
    rcases List.mem_cons.mp member with rfl | later
    · exact narrow d word.1
    · exact word.2 d later

theorem no_colon_in_word {name : String} (word : IsWord name) : ':' ∉ name.toList := by
  intro member
  have char := word_chars word_start_is_word_char word ':' member
  exact absurd char (by decide)

theorem no_hash_in_word {name : String} (word : IsWord name) : '#' ∉ name.toList := by
  intro member
  have char := word_chars word_start_is_word_char word '#' member
  exact absurd char (by decide)

theorem shape_name_fault_none_iff (name : String) :
    shapeNameFault? name = none ↔ IsTypeName name ∧ name ≠ "Self" := by
  unfold shapeNameFault? IsTypeName
  cases name.toList with
  | nil => simp [isWordFrom]
  | cons c r =>
    simp only [isWordFrom, Bool.and_eq_true]
    by_cases same : name = "Self"
    · simp [same]
    · by_cases upper : c.isUpper = true
      · by_cases rest : r.all isWordChar = true <;> simp [same, upper, rest]
      · simp [same, upper]

theorem member_name_fault_none_iff (name : String) :
    memberNameFault? name = none ↔ IsWord name ∧ ∃ c ∈ name.toList, c ≠ '_' := by
  unfold memberNameFault? IsWord
  cases name.toList with
  | nil => simp [isWordFrom]
  | cons c r =>
    simp only [isWordFrom, Bool.and_eq_true]
    by_cases start : isWordStart c = true
    · by_cases rest : r.all isWordChar = true
      · simp only [start, rest, Bool.not_true, Bool.false_eq_true, if_false, true_and,
          ite_eq_right_iff, reduceCtorEq, imp_false, List.all_eq_true, decide_eq_true_eq,
          not_forall, ne_eq, exists_prop]
      · simp [start, rest]
    · simp [start]

theorem segment_fault_none_iff (space : String) (segment : List Char) :
    segmentFault? space segment = none ↔ isWordFrom isWordStart segment = true := by
  cases segment with
  | nil => simp [segmentFault?, isWordFrom]
  | cons c r =>
    by_cases start : isWordStart c = true
    · by_cases rest : r.all isWordChar = true <;> simp [segmentFault?, isWordFrom, start, rest]
    · simp [segmentFault?, isWordFrom, start]

theorem namespace_fault_none_iff (name : String) :
    namespaceFault? name = none ↔
      ∀ segment ∈ pieces '.' (trim name).toList, isWordFrom isWordStart segment = true := by
  unfold namespaceFault?
  by_cases empty : trim name = ""
  · simp [empty, pieces, isWordFrom]
  · simp only [empty, if_false, List.findSome?_eq_none_iff, segment_fault_none_iff]

def IsCratePath (path : String) : Prop :=
  ∀ segment ∈ colonPieces path.toList, isWordFrom isWordStart segment = true

theorem path_segment_fault_none_iff (path : String) (segment : List Char) :
    pathSegmentFault? path segment = none ↔ isWordFrom isWordStart segment = true := by
  cases segment with
  | nil => simp [pathSegmentFault?, isWordFrom]
  | cons c r =>
    by_cases start : isWordStart c = true
    · by_cases rest : r.all isWordChar = true <;> simp [pathSegmentFault?, isWordFrom, start, rest]
    · simp [pathSegmentFault?, isWordFrom, start]

theorem crate_path_fault_none_iff (path : String) :
    cratePathFault? path = none ↔ IsCratePath path := by
  unfold cratePathFault? IsCratePath
  by_cases empty : path = ""
  · simp [empty, colonPieces, isWordFrom]
  · simp only [empty, if_false, List.findSome?_eq_none_iff, path_segment_fault_none_iff]

theorem lower_of_not_upper {c : Char} (other : c.isUpper = false) : c.toLower = c := by
  unfold Char.toLower
  rw [dif_neg]
  intro range
  have upper : c.isUpper = true := decide_eq_true range
  rw [other] at upper
  cases upper

theorem capital_to_small {c : Char} (upper : c.isUpper = true) : c.toLower.isLower = true := by
  have letters : ∀ n : Fin 26, (Char.ofNat (65 + n)).toLower.isLower = true := by decide
  have range := (upper_iff c).mp upper
  have same : Char.ofNat (65 + (c.toNat - 65)) = c := by
    rw [Nat.add_sub_cancel' range.1, Char.ofNat_toNat]
  have found := letters ⟨c.toNat - 65, by omega⟩
  rwa [same] at found

theorem lower_leaves_no_capital (c : Char) : c.toLower.isUpper = false := by
  cases upper : c.isUpper with
  | true =>
    rw [← Bool.not_eq_true]
    intro still
    have small := capital_to_small upper
    rw [upper_not_lower still] at small
    cases small
  | false => rwa [lower_of_not_upper upper]

theorem letter_to_small {c : Char} (alpha : c.isAlpha = true) : c.toLower.isLower = true := by
  cases upper : c.isUpper with
  | true => exact capital_to_small upper
  | false =>
    rw [lower_of_not_upper upper]
    simpa [upper] using (alpha_iff c).mp alpha

theorem lower_word_char {c : Char} (char : isWordChar c = true) : isWordChar c.toLower = true := by
  cases upper : c.isUpper with
  | true =>
    have alpha := (alpha_iff c.toLower).mpr (Or.inr (capital_to_small upper))
    simp [isWordChar, Char.isAlphanum, alpha]
  | false => rwa [lower_of_not_upper upper]

theorem snake_after_word (before : Char) (cs : List Char) (chars : cs.all isWordChar = true) :
    (snakeAfter before cs).all (fun c => isWordChar c && !c.isUpper) = true := by
  induction cs generalizing before with
  | nil => rfl
  | cons c r ih =>
    simp only [List.all_cons, Bool.and_eq_true] at chars
    have word := lower_word_char chars.1
    have small := lower_leaves_no_capital c
    simp only [snakeAfter]
    split
    · simp only [List.all_cons, word, small, ih c chars.2]
      decide
    · simp only [List.all_cons, word, small, ih c chars.2]
      decide

theorem snake_after_length (before : Char) (cs : List Char) :
    cs.length ≤ (snakeAfter before cs).length := by
  induction cs generalizing before with
  | nil => simp
  | cons c r ih =>
    have rest := ih c
    unfold snakeAfter
    split
    · simp only [List.length_cons]
      omega
    · simpa using rest

theorem snake_length (word : String) : word.toList.length ≤ (snakeCase word).toList.length := by
  rw [snakeCase, String.toList_ofList]
  cases word.toList with
  | nil => simp
  | cons c r => simpa [snakeChars] using snake_after_length c r

theorem snake_word {start : Char → Bool} {name : String}
    (narrow : ∀ c, start c = true → isWordChar c = true)
    (word : isWordFrom start name.toList = true) :
    ∀ c ∈ (snakeCase name).toList, isWordChar c = true ∧ c.isUpper = false := by
  simp only [snakeCase, String.toList_ofList]
  cases cs : name.toList with
  | nil => simp [cs, isWordFrom] at word
  | cons c r =>
    rw [cs] at word
    simp only [isWordFrom, Bool.and_eq_true] at word
    have rest := snake_after_word c r word.2
    intro d member
    rcases List.mem_cons.mp member with rfl | later
    · exact ⟨lower_word_char (narrow c word.1), lower_leaves_no_capital c⟩
    · simpa using List.all_eq_true.mp rest d later

theorem no_hash_in_snake {name : String} (word : IsWord name) :
    '#' ∉ (snakeCase name).toList := by
  intro member
  have char := snake_word word_start_is_word_char word '#' member
  exact absurd char.1 (by decide)

theorem snake_of_type_name {name : String} (h : IsTypeName name) :
    ∃ c r, (snakeCase name).toList = c :: r ∧ c.isLower = true := by
  simp only [snakeCase, String.toList_ofList]
  cases cs : name.toList with
  | nil => simp [IsTypeName, cs, isWordFrom] at h
  | cons c r =>
    simp only [IsTypeName, cs, isWordFrom, Bool.and_eq_true] at h
    exact ⟨c.toLower, snakeAfter c r, rfl, capital_to_small h.1⟩

theorem type_name_append {name tail : String} (word : IsTypeName name)
    (chars : tail.toList.all isWordChar = true) : IsTypeName (name ++ tail) := by
  unfold IsTypeName at word ⊢
  rw [String.toList_append]
  cases cs : name.toList with
  | nil => simp [cs, isWordFrom] at word
  | cons c r =>
    simp only [cs, isWordFrom, Bool.and_eq_true] at word
    simp only [List.cons_append, isWordFrom, List.all_append, word.1, word.2, chars, Bool.and_true]

theorem without_exception_type_name {name : String} (word : IsTypeName name) :
    IsTypeName (withoutException name) := by
  unfold withoutException
  split
  · exact word
  · exact word
  · rename_i stem nonempty found
    rw [before_tail_iff] at found
    obtain ⟨c, r, rfl⟩ := List.exists_cons_of_ne_nil nonempty
    simp only [IsTypeName, found, List.cons_append, isWordFrom, Bool.and_eq_true,
      List.all_append] at word
    simp only [IsTypeName, String.toList_append, String.toList_ofList, List.cons_append,
      isWordFrom, List.all_append, word.1, word.2.1, Bool.true_and]
    decide

end ErrorUnion.Name
