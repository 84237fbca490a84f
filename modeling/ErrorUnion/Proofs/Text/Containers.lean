import ErrorUnion.Proofs.Text.Blocks

/- Code behind the markers of block quotes and of list items. The loop looks at the start of a line
   only, so a line of prose that hides code behind a marker keeps it; no other line that is left
   outside of fences shows code. -/
namespace ErrorUnion.Text

/-- What stands behind a marker at the start of a line. A blank behind that of a quote belongs to
it, that of an item goes with one. -/
def unwrapped? : List Char → Option (List Char)
  | '>' :: ' ' :: r => some r
  | '>' :: r => some r
  | '-' :: ' ' :: r => some r
  | '*' :: ' ' :: r => some r
  | '+' :: ' ' :: r => some r
  | _ => none

def tagOf (f : OpenFence) (line : List Char) : List Char :=
  trimStart (trimEnd ((trimStart line).dropWhile (· = f.char)))

/-- A line of code: it starts a fence that is not tagged as text, or is indented by four blanks. -/
inductive IsCode (line : List Char) : Prop where
  | fence {f : OpenFence} : starts? line = some f → tagOf f line ≠ textMark → IsCode line
  | indented {r : List Char} : line = List.replicate 4 ' ' ++ r → trimStart r ≠ [] → IsCode line

/-- A line that is one of code once some markers are taken away. -/
inductive ShowsCode : List Char → Prop where
  | here {line : List Char} : IsCode line → ShowsCode line
  | within {line inner : List Char} : unwrapped? line = some inner → ShowsCode inner →
      ShowsCode line

/-- The lines of prose that the loop leaves outside of fences. -/
def leftOutside : Option Fence → List (List Char) → List (List Char)
  | _, [] => []
  | none, line :: rest =>
    match fenceOf? (trimStart (trimEnd line)) with
    | some f => leftOutside (some f) rest
    | none => line :: leftOutside none rest
  | some f, line :: rest =>
    if f.opened.closedBy line then leftOutside none rest else leftOutside (some f) rest

theorem left_outside_free {inside : Option Fence} {ls : List (List Char)} {line : List Char}
    (left : line ∈ leftOutside inside ls) : fenceOf? (trimStart (trimEnd line)) = none := by
  fun_induction leftOutside inside ls with
  | case1 => cases left
  | case2 first rest f found ih => exact ih left
  | case3 first rest found ih =>
    rcases List.mem_cons.mp left with rfl | later
    · exact found
    · exact ih later
  | case4 f first rest closed ih => exact ih left
  | case5 f first rest still ih => exact ih left

theorem each_outside_fenced_iff {kind : List Char → Prop}
    (fences : ∀ f : Fence, kind (f.mark ++ textMark)) (inside : Option Fence)
    (ls : List (List Char)) :
    EachOutside kind (inside.map Fence.opened) (fenced inside ls) ↔
      ∀ line ∈ leftOutside inside ls, kind (trimStart (trimEnd line)) := by
  -- As for the reader of fences: it and the loop are inside of the same one at every line.
  fun_induction fenced inside ls with
  | case1 =>
    exact iff_of_true (each_outside_nil _ _) (List.forall_mem_nil _)
  | case2 f =>
    rw [each_outside_cons, Option.map_some, behind_mark]
    refine iff_of_true ⟨fun out => absurd out (Option.some_ne_none _), each_outside_nil _ _⟩ ?_
    exact List.forall_mem_nil _
  | case3 line rest _ _ f found ih =>
    rw [each_outside_cons, Option.map_none, behind_text_fence, leftOutside, found, ← ih]
    exact and_iff_right fun _ => fences f
  | case4 line rest _ _ found ih =>
    rw [each_outside_cons, Option.map_none, behind_prose found, leftOutside, found,
      List.forall_mem_cons, ← ih]
    exact and_congr_left' (forall_prop_of_true rfl)
  | case5 line rest _ _ f g found same ih =>
    rw [each_outside_cons, Option.map_some, behind_mark, leftOutside, closed_line_eq found,
      if_pos same, ← ih]
    exact and_iff_right fun out => absurd out (Option.some_ne_none _)
  | case6 line rest _ _ f g found other ih =>
    have still : f.opened.closedBy line = false :=
      (closed_line_eq found).trans (Bool.eq_false_iff.mpr other)
    rw [each_outside_cons, Option.map_some, behindLine, closed_by_trimmed, leftOutside, still]
    exact (and_iff_right fun out => absurd out (Option.some_ne_none _)).trans ih
  | case7 line rest _ _ f found ih =>
    rw [each_outside_cons, Option.map_some, behindLine, closed_by_trimmed, leftOutside,
      free_line_open found]
    exact (and_iff_right fun out => absurd out (Option.some_ne_none _)).trans ih

theorem shows_code_iff (line : List Char) :
    ShowsCode line ↔ IsCode line ∨ ∃ inner, unwrapped? line = some inner ∧ ShowsCode inner := by
  constructor
  · intro shows
    cases shows with
    | here code => exact Or.inl code
    | within found code => exact Or.inr ⟨_, found, code⟩
  · rintro (code | ⟨inner, found, code⟩)
    · exact .here code
    · exact .within found code

theorem text_fence_no_code (f : Fence) : ¬ ShowsCode (f.mark ++ textMark) := by
  rw [shows_code_iff]
  rintro (code | ⟨inner, found, -⟩)
  · cases code with
    | fence start untagged =>
      rw [text_fence_starts] at start
      cases start
      exact untagged (by cases f <;> decide)
    | indented same _ => cases f <;> cases same
  · cases f <;> cases found

theorem free_line_no_code {line : List Char} (free : fenceOf? (trimStart (trimEnd line)) = none) :
    ¬ IsCode (trimStart (trimEnd line)) := by
  intro code
  cases code with
  | fence start _ =>
    have none : starts? (trimStart (trimEnd line)) = none :=
      no_start_unseen (by rwa [trimmed_twice])
    rw [none] at start
    cases start
  | indented same _ =>
    have flush := drop_blank_head (trimEnd line) ' '
    rw [← trimStart, same] at flush
    exact absurd (flush rfl) (by decide)

/-- A reader of the comment sees code outside of fences only behind a marker, and only where a line
of prose hides it there. -/
theorem code_shown_iff (prose : String) :
    EachOutside (fun line => ¬ ShowsCode line) none (commentLines prose) ↔
      ∀ line ∈ leftOutside none (proseLines prose.toList),
        ∀ inner, unwrapped? (trimStart (trimEnd line)) = some inner → ¬ ShowsCode inner := by
  rw [comment_lines_fenced]
  refine (each_outside_fenced_iff text_fence_no_code none _).trans ?_
  refine forall₂_congr fun line left => ?_
  rw [shows_code_iff, or_iff_right (free_line_no_code (left_outside_free left))]
  rw [not_exists]
  exact forall_congr' fun inner => not_and

theorem quoted_code_shown :
    let indented := ">     f()"
    let fencedOff := "- > ```rust\n- > f()"
    commentLines indented = [indented.toList] ∧
      ¬ EachOutside (fun line => ¬ ShowsCode line) none (commentLines indented) ∧
      commentLines fencedOff = ["- > ```rust", "- > f()"].map String.toList ∧
      ¬ EachOutside (fun line => ¬ ShowsCode line) none (commentLines fencedOff) := by
  intro indented fencedOff
  have first : commentLines indented = [indented.toList] := by decide +kernel
  have second : commentLines fencedOff = ["- > ```rust", "- > f()"].map String.toList := by
    decide +kernel
  refine ⟨first, fun none => ?_, second, fun none => ?_⟩
  · have code : IsCode "    f()".toList := .indented (r := "f()".toList) rfl (by decide)
    have quote : unwrapped? ">     f()".toList = some "    f()".toList := by decide
    exact none [] _ [] first rfl (.within quote (.here code))
  · have code : IsCode "```rust".toList := .fence (f := ⟨'`', 3⟩) (by decide) (by decide)
    have item : unwrapped? "- > ```rust".toList = some "> ```rust".toList := by decide
    have quote : unwrapped? "> ```rust".toList = some "```rust".toList := by decide
    exact none [] _ ["- > f()".toList] second rfl (.within item (.within quote (.here code)))

end ErrorUnion.Text
