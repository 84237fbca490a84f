import ErrorUnion.Proofs.Name.Word

/- Escaped names against the words they stand for. Two snake names are told apart by their escaped
   forms exactly if they are told apart by the words that the compiler reads in them. -/
namespace ErrorUnion.Name
open ErrorUnion.Text

/-- Names that differ also without the marks of raw identifiers. -/
abbrev WordsDistinct (names : List String) : Prop := (names.map Value.shownName).Nodup

/-- The identifier that is meant by the escaped form of a name. -/
def plainWord (name : String) : String := if name ∈ bareWords then name ++ "_" else name

theorem plain_word_of_not_bare {name : String} (free : name ∉ bareWords) :
    plainWord name = name := if_neg free

theorem shown_of_no_hash {name : String} (clean : '#' ∉ name.toList) :
    Value.shownName name = name := by
  unfold Value.shownName
  split
  · rename_i chars
    simp [chars] at clean
  · rfl

theorem escape_bare {name : String} (bare : name ∈ bareWords) :
    escapeIdent name = name ++ "_" := if_pos bare

theorem escape_keyword {name : String} (free : name ∉ bareWords) (word : name ∈ keywords) :
    escapeIdent name = "r#" ++ name := by
  unfold escapeIdent
  rw [if_neg free, if_pos word]

theorem escape_other {name : String} (free : name ∉ bareWords) (other : name ∉ keywords) :
    escapeIdent name = name := by
  unfold escapeIdent
  rw [if_neg free, if_neg other]

theorem escape_eq_self_iff (name : String) :
    escapeIdent name = name ↔ name ∉ bareWords ∧ name ∉ keywords := by
  constructor
  · intro same
    have lengths := congrArg String.length same
    by_cases bare : name ∈ bareWords
    · rw [escape_bare bare, String.length_append] at lengths
      exact absurd lengths (by simp)
    · by_cases word : name ∈ keywords
      · rw [escape_keyword bare word, String.length_append] at lengths
        exact absurd lengths (by simp)
      · exact ⟨bare, word⟩
  · intro h
    exact escape_other h.1 h.2

theorem shown_escape {name : String} (clean : '#' ∉ name.toList) :
    Value.shownName (escapeIdent name) = plainWord name := by
  by_cases bare : name ∈ bareWords
  · rw [escape_bare bare, plainWord, if_pos bare]
    apply shown_of_no_hash
    simpa [String.toList_append] using clean
  · rw [plain_word_of_not_bare bare]
    by_cases word : name ∈ keywords
    · rw [escape_keyword bare word]
      simp [Value.shownName, String.toList_append]
    · rw [escape_other bare word]
      exact shown_of_no_hash clean

theorem bare_words_extended (name : String) (bare : name ∈ bareWords) :
    name ++ "_" ∉ bareWords ∧ name ++ "_" ∉ keywords := by
  have all : ∀ w ∈ bareWords, w ++ "_" ∉ bareWords ∧ w ++ "_" ∉ keywords := by decide
  exact all name bare

theorem escape_of_plain_bare {a b : String} (bare : a ∈ bareWords)
    (same : plainWord a = plainWord b) : escapeIdent a = escapeIdent b := by
  rw [plainWord, if_pos bare] at same
  by_cases other : b ∈ bareWords
  · rw [plainWord, if_pos other] at same
    rw [escape_bare bare, escape_bare other, same]
  · rw [plain_word_of_not_bare other] at same
    have free := bare_words_extended a bare
    rw [escape_bare bare, same, escape_other other (same ▸ free.2)]

theorem escape_eq_of_plain_eq {a b : String} (same : plainWord a = plainWord b) :
    escapeIdent a = escapeIdent b := by
  by_cases ha : a ∈ bareWords
  · exact escape_of_plain_bare ha same
  · by_cases hb : b ∈ bareWords
    · exact (escape_of_plain_bare hb same.symm).symm
    · rw [plain_word_of_not_bare ha, plain_word_of_not_bare hb] at same
      rw [same]

theorem shown_escape_injective {a b : String} (ha : '#' ∉ a.toList) (hb : '#' ∉ b.toList)
    (same : Value.shownName (escapeIdent a) = Value.shownName (escapeIdent b)) :
    escapeIdent a = escapeIdent b := by
  rw [shown_escape ha, shown_escape hb] at same
  exact escape_eq_of_plain_eq same

theorem shown_escape_head {name : String} {c : Char} {r : List Char}
    (clean : '#' ∉ name.toList) (chars : name.toList = c :: r) :
    ∃ t, (Value.shownName (escapeIdent name)).toList = c :: t := by
  rw [shown_escape clean]
  by_cases bare : name ∈ bareWords
  · exact ⟨r ++ ['_'], by rw [plainWord, if_pos bare]; simp [String.toList_append, chars]⟩
  · exact ⟨r, by rw [plain_word_of_not_bare bare, chars]⟩

theorem escape_length (name : String) :
    name.toList.length ≤ (escapeIdent name).toList.length := by
  by_cases bare : name ∈ bareWords
  · rw [escape_bare bare, String.toList_append, List.length_append]
    omega
  · by_cases word : name ∈ keywords
    · rw [escape_keyword bare word, String.toList_append, List.length_append]
      omega
    · exact Nat.le_of_eq (by rw [escape_other bare word])

theorem no_colon_in_escape {name : String} (clean : ':' ∉ name.toList) :
    ':' ∉ (escapeIdent name).toList := by
  by_cases bare : name ∈ bareWords
  · rw [escape_bare bare]
    simpa [String.toList_append] using clean
  · by_cases word : name ∈ keywords
    · rw [escape_keyword bare word]
      simpa [String.toList_append] using clean
    · rwa [escape_other bare word]

end ErrorUnion.Name
