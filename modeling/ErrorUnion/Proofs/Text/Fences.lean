import Mathlib.Data.List.DropRight
import Mathlib.Data.List.TakeWhile
import ErrorUnion.Proofs.Text.Prose

/- Fences as a reader of the finished comment finds them. The reader has a rule of its own, which
   counts how long a fence is and knows nothing of the prose behind the lines. Its state stays in
   step with that of the loop that wrote them, so every block that it finds is closed and is marked
   as text. -/
namespace ErrorUnion.Text

/-- A fence that is open: its character, and how often the opening line starts with it. -/
structure OpenFence where
  char : Char
  size : Nat
deriving DecidableEq

def runOf (c : Char) (line : List Char) : Nat := (line.takeWhile (· = c)).length

/-- The fence that a line opens, if it stands outside of fences. -/
def opens? (line : List Char) : Option OpenFence :=
  let bare := trimStart line
  if 3 ≤ runOf '`' bare then some ⟨'`', runOf '`' bare⟩
  else if 3 ≤ runOf '~' bare then some ⟨'~', runOf '~' bare⟩
  else none

/-- Nothing but the character of the fence, at least as often as in the opening line. -/
def OpenFence.closedBy (f : OpenFence) (line : List Char) : Bool :=
  let bare := trimStart (trimEnd line)
  f.size ≤ bare.length && bare.all (· = f.char)

def behindLine : Option OpenFence → List Char → Option OpenFence
  | none, line => opens? line
  | some f, line => if f.closedBy line then none else some f

def behindLines (inside : Option OpenFence) (ls : List (List Char)) : Option OpenFence :=
  ls.foldl behindLine inside

/-- Every line that stands outside of fences, or opens one, is of a kind. -/
def EachOutside (kind : List Char → Prop) (inside : Option OpenFence) (ls : List (List Char)) :
    Prop :=
  ∀ before line after, ls = before ++ line :: after → behindLines inside before = none → kind line

structure PlainOutside (line : List Char) : Prop where
  text : opens? line ≠ none → line = "```text".toList ∨ line = "~~~text".toList
  flush : ∀ c, line.head? = some c → isBlank c = false

inductive Follows (line : List Char) : List Char → Prop where
  | inner : Follows line (trimEnd line)
  | outer : Follows line (trimStart (trimEnd line))
  | opening (f : Fence) : opens? (trimEnd line) ≠ none → Follows line (f.mark ++ textMark)
  | closing (f : Fence) : opens? (trimEnd line) ≠ none → Follows line f.mark

/-- Every line of prose has one line in its place; a closing fence may be added at the end. -/
def FollowsAll (prose ls : List (List Char)) : Prop :=
  ∃ shown last, ls = shown ++ last ∧ List.Forall₂ Follows prose shown ∧
    (last = [] ∨ ∃ f : Fence, last = [f.mark])

theorem each_outside_nil (kind : List Char → Prop) (inside : Option OpenFence) :
    EachOutside kind inside [] := by
  intro before line after split
  simp at split

theorem each_outside_cons (kind : List Char → Prop) (inside : Option OpenFence)
    (x : List Char) (r : List (List Char)) :
    EachOutside kind inside (x :: r) ↔
      (inside = none → kind x) ∧ EachOutside kind (behindLine inside x) r := by
  constructor
  · intro all
    refine ⟨all [] x r rfl, fun before line after split outside => ?_⟩
    exact all (x :: before) line after (by rw [split, List.cons_append]) outside
  · rintro ⟨first, rest⟩ before line after split outside
    rcases List.cons_eq_append_iff.mp split with ⟨rfl, head⟩ | ⟨b, rfl, tail⟩
    · rw [(List.cons.inj head).1]
      exact first outside
    · exact rest b line after tail outside

theorem drop_blank_head (cs : List Char) :
    ∀ c, (cs.dropWhile isBlank).head? = some c → isBlank c = false := by
  intro c head
  have first := List.head?_dropWhile_not isBlank cs
  rw [head] at first
  simpa using first

theorem trim_start_twice (cs : List Char) : trimStart (trimStart cs) = trimStart cs :=
  List.dropWhile_idempotent isBlank cs

theorem trim_end_twice (cs : List Char) : trimEnd (trimEnd cs) = trimEnd cs := by
  rw [trimEnd, trimEnd, List.reverse_reverse, List.dropWhile_idempotent isBlank]

def EndsFull (cs : List Char) : Prop := ∀ c, cs.getLast? = some c → isBlank c = false

theorem trim_end_full (cs : List Char) : EndsFull (trimEnd cs) := by
  intro c last
  rw [trimEnd, List.getLast?_reverse] at last
  exact drop_blank_head _ c last

theorem trim_start_full {cs : List Char} (full : EndsFull cs) : EndsFull (trimStart cs) := by
  intro c last
  obtain ⟨front, whole⟩ := List.dropWhile_suffix (l := cs) isBlank
  refine full c ?_
  rw [← whole, List.getLast?_append, show (cs.dropWhile isBlank).getLast? = some c from last]
  rfl

theorem three_run_iff (f : Fence) (line : List Char) :
    3 ≤ runOf f.char line ↔ (afterHead? f.mark line).isSome = true := by
  simp only [Option.isSome_iff_exists, after_head_iff]
  constructor
  · intro run
    have same : line.takeWhile (· = f.char) = List.replicate (runOf f.char line) f.char :=
      List.eq_replicate_iff.mpr ⟨rfl, fun c member => by simpa using List.mem_takeWhile_imp member⟩
    obtain ⟨more, size⟩ := Nat.exists_eq_add_of_le run
    refine ⟨List.replicate more f.char ++ line.dropWhile (· = f.char), ?_⟩
    rw [Fence.mark, ← List.append_assoc, List.replicate_append_replicate, ← size, ← same,
      List.takeWhile_append_dropWhile]
  · rintro ⟨rest, rfl⟩
    rw [runOf, Fence.mark, List.takeWhile_append_of_pos (by simp), List.length_append,
      List.length_replicate]
    exact Nat.le_add_right 3 _

theorem one_run_only {line : List Char} (first : 3 ≤ runOf '`' line) : runOf '~' line = 0 := by
  cases line with
  | nil => rfl
  | cons c r =>
    by_cases tick : c = '`'
    · subst tick
      rfl
    · simp [runOf, tick] at first

theorem fence_of_some_iff (line : List Char) (f : Fence) :
    fenceOf? line = some f ↔ 3 ≤ runOf f.char line := by
  have ticks : 3 ≤ runOf '`' line ↔ _ := three_run_iff .backticks line
  have tildes : 3 ≤ runOf '~' line ↔ _ := three_run_iff .tildes line
  by_cases first : 3 ≤ runOf '`' line
  · have none := one_run_only first
    cases f <;> simp [fenceOf?, ← ticks, first, Fence.char, none]
  · cases f <;> simp [fenceOf?, ← ticks, ← tildes, first, Fence.char]

def Fence.opened (f : Fence) : OpenFence := ⟨f.char, 3⟩

theorem opens_none_iff (line : List Char) :
    opens? line = none ↔ fenceOf? (trimStart line) = none := by
  have ticks : _ ↔ 3 ≤ runOf '`' (trimStart line) := fence_of_some_iff _ .backticks
  have tildes : _ ↔ 3 ≤ runOf '~' (trimStart line) := fence_of_some_iff _ .tildes
  unfold opens?
  rcases found : fenceOf? (trimStart line) with - | - | -
  all_goals
    simp only [found, reduceCtorEq, Option.some.injEq, true_iff, false_iff] at ticks tildes
    simp [ticks, tildes]

theorem closed_by_iff (f : Fence) (line : List Char) :
    f.opened.closedBy (trimEnd line) = true ↔
      fenceOf? (trimStart (trimEnd line)) = some f ∧
        (trimStart (trimEnd line)).all (· = f.char) = true := by
  rw [OpenFence.closedBy, trim_end_twice, fence_of_some_iff, Bool.and_eq_true, decide_eq_true_eq]
  generalize trimStart (trimEnd line) = bare
  have full : bare.all (· = f.char) = true → runOf f.char bare = bare.length := by
    intro same
    rw [runOf, List.takeWhile_eq_self_iff.mpr (by simpa using same)]
  constructor
  · rintro ⟨size, same⟩
    exact ⟨(full same).symm ▸ size, same⟩
  · rintro ⟨run, same⟩
    exact ⟨full same ▸ run, same⟩

theorem behind_text_fence (f : Fence) : behindLine none (f.mark ++ textMark) = some f.opened := by
  cases f <;> decide

theorem behind_mark (f : Fence) : behindLine (some f.opened) f.mark = none := by cases f <;> decide

theorem behind_prose {line : List Char} (free : fenceOf? (trimStart line) = none) :
    behindLine none (trimStart line) = none := by
  rw [behindLine, opens_none_iff, trim_start_twice]
  exact free

theorem behind_inner {f : Fence} {line : List Char}
    (open_still : fenceOf? (trimStart (trimEnd line)) = some f →
      ¬ (trimStart (trimEnd line)).all (· = f.char) = true) :
    behindLine (some f.opened) (trimEnd line) = some f.opened := by
  refine if_neg fun closed => ?_
  obtain ⟨found, same⟩ := (closed_by_iff f line).mp closed
  exact open_still found same

theorem text_fence_plain (f : Fence) : PlainOutside (f.mark ++ textMark) := by
  refine ⟨fun _ => ?_, fun c head => ?_⟩
  · cases f <;> decide
  · cases f <;> cases head <;> decide

theorem prose_plain {line : List Char} (free : fenceOf? (trimStart line) = none) :
    PlainOutside (trimStart line) := by
  refine ⟨fun opens => absurd ?_ opens, drop_blank_head line⟩
  rw [opens_none_iff, trim_start_twice]
  exact free

theorem fenced_read (inside : Option Fence) (ls : List (List Char)) :
    behindLines (inside.map Fence.opened) (fenced inside ls) = none ∧
      EachOutside PlainOutside (inside.map Fence.opened) (fenced inside ls) := by
  have behind_cons : ∀ i x r, behindLines i (x :: r) = behindLines (behindLine i x) r :=
    fun _ _ _ => rfl
  -- The reader has that fence open which the loop has, before each line and so behind it.
  fun_induction fenced inside ls with
  | case1 => exact ⟨rfl, each_outside_nil _ _⟩
  | case2 f =>
    rw [behind_cons, each_outside_cons, Option.map_some, behind_mark]
    exact ⟨rfl, fun out => absurd out (Option.some_ne_none _), each_outside_nil _ _⟩
  | case3 line rest _ _ f found ih =>
    rw [behind_cons, each_outside_cons, Option.map_none, behind_text_fence]
    exact ⟨ih.1, fun _ => text_fence_plain f, ih.2⟩
  | case4 line rest _ _ found ih =>
    rw [behind_cons, each_outside_cons, Option.map_none, behind_prose found]
    exact ⟨ih.1, fun _ => prose_plain found, ih.2⟩
  | case5 line rest _ _ f _ _ _ ih =>
    rw [behind_cons, each_outside_cons, Option.map_some, behind_mark]
    exact ⟨ih.1, fun out => absurd out (Option.some_ne_none _), ih.2⟩
  | case6 line rest _ _ f g found other ih =>
    rw [behind_cons, each_outside_cons, Option.map_some, behind_inner]
    · exact ⟨ih.1, fun out => absurd out (Option.some_ne_none _), ih.2⟩
    · intro again same
      obtain rfl := Option.some.inj (found.symm.trans again)
      exact other (by simpa using same)
  | case7 line rest _ _ f found ih =>
    rw [behind_cons, each_outside_cons, Option.map_some, behind_inner]
    · exact ⟨ih.1, fun out => absurd out (Option.some_ne_none _), ih.2⟩
    · intro again
      rw [found] at again
      cases again

theorem follows_cons {line out : List Char} {prose ls : List (List Char)}
    (first : Follows line out) (rest : FollowsAll prose ls) :
    FollowsAll (line :: prose) (out :: ls) := by
  obtain ⟨shown, last, rfl, follow, closing⟩ := rest
  exact ⟨out :: shown, last, rfl, .cons first follow, closing⟩

theorem fenced_follows (inside : Option Fence) (ls : List (List Char)) :
    FollowsAll ls (fenced inside ls) := by
  have opens {line : List Char} {f : Fence} (found : fenceOf? (trimStart line) = some f) :
      opens? line ≠ none := by
    rw [Ne, opens_none_iff, found]
    exact Option.some_ne_none f
  fun_induction fenced inside ls with
  | case1 => exact ⟨[], [], rfl, .nil, Or.inl rfl⟩
  | case2 f => exact ⟨[], [f.mark], rfl, .nil, Or.inr ⟨f, rfl⟩⟩
  | case3 line rest _ _ f found ih => exact follows_cons (.opening f (opens found)) ih
  | case4 line rest _ _ found ih => exact follows_cons .outer ih
  | case5 line rest _ _ f g found _ ih => exact follows_cons (.closing f (opens found)) ih
  | case6 line rest _ _ f g found other ih => exact follows_cons .inner ih
  | case7 line rest _ _ f found ih => exact follows_cons .inner ih

theorem fence_mark_full (f : Fence) : EndsFull f.mark ∧ EndsFull (f.mark ++ textMark) := by
  constructor <;> intro c last <;> cases f <;> cases last <;> decide

theorem follows_full {line out : List Char} (follows : Follows line out) : EndsFull out := by
  cases follows with
  | inner => exact trim_end_full line
  | outer => exact trim_start_full (trim_end_full line)
  | opening f => exact (fence_mark_full f).2
  | closing f => exact (fence_mark_full f).1

theorem follows_all_full {prose ls : List (List Char)} (follows : FollowsAll prose ls) :
    ∀ line ∈ ls, EndsFull line := by
  obtain ⟨shown, last, rfl, each, closing⟩ := follows
  have shown_full : ∀ line ∈ shown, EndsFull line := by
    induction each with
    | nil => exact List.forall_mem_nil _
    | cons first _ ih => exact List.forall_mem_cons.mpr ⟨follows_full first, ih⟩
  rw [List.forall_mem_append]
  refine ⟨shown_full, ?_⟩
  rcases closing with rfl | ⟨f, rfl⟩
  · exact List.forall_mem_nil _
  · rw [List.forall_mem_singleton]
    exact (fence_mark_full f).1

def commentLines (prose : String) : List (List Char) :=
  (docLines (some prose)).map String.toList

theorem comment_lines_fenced (prose : String) :
    commentLines prose = fenced none (proseLines prose.toList) := by
  simp [commentLines, docLines, Function.comp_def]

/-- A reader of the comment finds every fence closed and marked as text, and nothing indented
outside of fences. No line holds a line break or ends in white space. The lines stand in the places
of those of the prose. -/
theorem doc_fences_closed (prose : String) :
    behindLines none (commentLines prose) = none ∧
      EachOutside PlainOutside none (commentLines prose) ∧
      (∀ line ∈ commentLines prose, Unbroken line ∧ EndsFull line) ∧
      FollowsAll (proseLines prose.toList) (commentLines prose) := by
  obtain ⟨closed, outside⟩ := fenced_read none (proseLines prose.toList)
  have follows := fenced_follows none (proseLines prose.toList)
  have unbroken := @fenced_unbroken none _ (prose_lines_unbroken prose.toList)
  rw [comment_lines_fenced]
  refine ⟨closed, outside, fun line member => ?_, follows⟩
  exact ⟨unbroken line member, follows_all_full follows line member⟩

theorem unruly_prose_closed :
    let prose := "  ````rust\n  let a; \n```\r~~~~"
    commentLines prose = ["```text", "  let a;", "```", "~~~text", "~~~"].map String.toList ∧
      behindLines none (commentLines prose) = none ∧ PlainOutside "~~~text".toList ∧
      EndsFull "  let a;".toList := by
  intro prose
  have shown : commentLines prose =
      ["```text", "  let a;", "```", "~~~text", "~~~"].map String.toList := by
    decide +kernel
  obtain ⟨closed, outside, lines, -⟩ := doc_fences_closed prose
  refine ⟨shown, closed, ?_, (lines _ ?_).2⟩
  · exact outside (["```text", "  let a;", "```"].map String.toList) _ ["~~~".toList] shown
      (by decide)
  · rw [shown]
    exact List.mem_map_of_mem (by decide)

end ErrorUnion.Text
