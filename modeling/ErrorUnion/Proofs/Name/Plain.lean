import ErrorUnion.Proofs.Name.Word
import ErrorUnion.Proofs.Text.Nesting

/- Names and paths as texts that are read as they stand: words have no mark by which code begins or
   ends anything. -/
namespace ErrorUnion.Name
open ErrorUnion.Text

theorem word_char_plain {c : Char} (char : isWordChar c = true) : isPlain c = true := by
  rw [isPlain, decide_eq_true_iff]
  intro mark
  simp only [List.mem_cons, List.not_mem_nil, or_false] at mark
  rcases mark with rfl | rfl | rfl | rfl | rfl | rfl | rfl | rfl | rfl
  all_goals exact absurd char (by decide)

theorem word_plain {name : String} (word : IsWord name) : Plain name :=
  List.all_eq_true.mpr fun c member =>
    word_char_plain (word_chars word_start_is_word_char word c member)

theorem snake_plain {name : String} (word : IsWord name) : Plain (snakeCase name) :=
  List.all_eq_true.mpr fun c member =>
    word_char_plain (snake_word word_start_is_word_char word c member).1

theorem escape_plain {name : String} (plain : Plain name) : Plain (escapeIdent name) := by
  unfold escapeIdent
  split
  · exact plain_append plain (by decide)
  · split
    · exact plain_append (by decide) plain
    · exact plain

theorem crate_path_plain {path : String} (words : IsCratePath path) : Plain path := by
  rw [Plain, List.all_eq_true]
  intro c member
  rcases char_in_colon_piece member with rfl | ⟨segment, listed, inside⟩
  · decide
  · exact word_char_plain (word_chars word_start_is_word_char (words segment listed) c inside)

theorem name_in_docs {head ident tail : String} (before : OneLine head) (plain : Plain ident)
    (behind : OneLine tail) : OneLine (head ++ ident ++ tail) :=
  one_line_append (one_line_append before (one_line_of_plain plain)) behind

end ErrorUnion.Name
