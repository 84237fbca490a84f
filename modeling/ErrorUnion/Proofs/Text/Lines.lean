import ErrorUnion.Text.Pieces
import ErrorUnion.Proofs.Text.Nesting

/- A text with some of its lines deleted. Lines are deleted one by one, so that behind the end of a
   line it does not matter what stands before it. -/
namespace ErrorUnion.Text

/-- The lines of a text with the line feeds that end them; only the last one may go without. -/
def fullLines : List Char → List (List Char)
  | [] => []
  | c :: r =>
    if c = '\n' then [c] :: fullLines r
    else match fullLines r with
      | [] => [[c]]
      | l :: ls => (c :: l) :: ls

def startsWith (head : String) (line : List Char) : Bool :=
  head.toList.isPrefixOf (line.dropWhile (· = ' '))

/-- A text without the lines that say `head` behind their indentation. -/
def withoutLines (head text : String) : String :=
  String.ofList ((fullLines text.toList).filter fun l => !startsWith head l).flatten

example : withoutLines "//" "a // b\n  // c\n//d\n\ne" = "a // b\n\ne" := by decide

def Ended (text : String) : Prop := text = "" ∨ ∃ s, text = s ++ "\n"

theorem full_lines_nil_iff (cs : List Char) : fullLines cs = [] ↔ cs = [] := by
  cases cs with
  | nil => simp [fullLines]
  | cons c r =>
    unfold fullLines
    split
    · simp
    · split <;> simp

theorem full_lines_append (cs rest : List Char) :
    fullLines (cs ++ '\n' :: rest) = fullLines (cs ++ ['\n']) ++ fullLines rest := by
  induction cs with
  | nil => rfl
  | cons c r ih =>
    simp only [List.cons_append, fullLines, ih]
    split
    · rfl
    · cases first : fullLines (r ++ ['\n']) with
      | nil => simp [full_lines_nil_iff] at first
      | cons l ls => rfl

theorem full_line {cs : List Char} (line : '\n' ∉ cs) :
    fullLines (cs ++ ['\n']) = [cs ++ ['\n']] := by
  induction cs with
  | nil => rfl
  | cons c r ih =>
    rw [List.mem_cons, not_or] at line
    simp only [List.cons_append, fullLines, Ne.symm line.1, if_false, ih line.2]

theorem without_lines_append (head : String) {s : String} (ended : Ended s) (t : String) :
    withoutLines head (s ++ t) = withoutLines head s ++ withoutLines head t := by
  obtain rfl | ⟨s, rfl⟩ := ended
  · simp [withoutLines, fullLines]
  · have feed : "\n".toList = ['\n'] := rfl
    apply String.toList_injective
    simp only [withoutLines, String.toList_append, String.toList_ofList, feed, List.append_assoc,
      List.singleton_append, full_lines_append s.toList t.toList, List.filter_append,
      List.flatten_append]

theorem starts_with_append {head : String} {cs : List Char} (starts : startsWith head cs = true)
    (rest : List Char) : startsWith head (cs ++ rest) = true := by
  rw [startsWith, List.isPrefixOf_iff_prefix] at starts ⊢
  rw [List.dropWhile_append]
  split
  · rename_i blank
    rw [List.isEmpty_iff.mp blank, List.prefix_nil] at starts
    rw [starts]
    exact List.nil_prefix
  · exact starts.trans (List.prefix_append _ rest)

theorem starts_with_indented {head : String} {blanks : List Char} (blank : ∀ c ∈ blanks, c = ' ')
    (cs : List Char) : startsWith head (blanks ++ cs) = startsWith head cs := by
  rw [startsWith, List.dropWhile_append_of_pos (by simpa using blank), startsWith]

theorem line_deleted {head text : String} (line : OneLine text)
    (starts : startsWith head text.toList = true) : withoutLines head (text ++ "\n") = "" := by
  have feed : "\n".toList = ['\n'] := rfl
  have whole := starts_with_append starts ['\n']
  rw [withoutLines, String.toList_append, feed, full_line line]
  simp [whole]

theorem one_line_joined {sep : String} {ss : List String} (between : OneLine sep)
    (each : ∀ s ∈ ss, OneLine s) : OneLine (joinWith sep ss) := by
  induction ss with
  | nil => exact List.not_mem_nil
  | cons s r ih =>
    rw [List.forall_mem_cons] at each
    cases r with
    | nil => exact each.1
    | cons t r => exact one_line_append (one_line_append each.1 between) (ih each.2)

theorem escape_one_line (c : Char) : '\n' ∉ escape c := by
  unfold escape
  split_ifs with quote slash tab back line null hidden
  any_goals decide
  · have digits : '\n' ∉ hex c.toNat := fun feed =>
      absurd (hex_literal c.toNat '\n' feed) (by decide)
    simpa using digits
  · rw [List.mem_singleton]
    exact Ne.symm line

theorem quote_one_line (s : String) : OneLine (quote s) := by
  have escaped : '\n' ∉ s.toList.flatMap escape := by
    intro feed
    obtain ⟨c, -, inside⟩ := List.mem_flatMap.mp feed
    exact escape_one_line c inside
  simpa [OneLine, quote, quoteChars] using escaped

end ErrorUnion.Text
