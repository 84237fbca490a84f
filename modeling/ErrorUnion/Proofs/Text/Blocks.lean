import ErrorUnion.Proofs.Text.Fences

/- Fences by the rule of the documentation language, which counts their characters, knows that
   backticks behind backticks make text in a line, and allows no more than three blanks in front.
   The loop looks at three characters of the trimmed line instead. Where both rules say the same of
   every line of prose, all blocks come out as they are, and where they differ, one does not. -/
namespace ErrorUnion.Text

def betweenBreaks : List Char → List (List Char)
  | [] => [[]]
  | '\n' :: r => [] :: betweenBreaks r
  | '\r' :: '\n' :: r => [] :: betweenBreaks r
  | '\r' :: r => [] :: betweenBreaks r
  | c :: r => match betweenBreaks r with
    | [] => [[c]]
    | l :: ls => (c :: l) :: ls

/-- What stands behind the blanks at the start of a line, of which there may be three. -/
def behindIndent? (line : List Char) : Option (List Char) :=
  if (line.takeWhile (· = ' ')).length ≤ 3 then some (line.dropWhile (· = ' ')) else none

def starts? (line : List Char) : Option OpenFence :=
  match behindIndent? line with
  | none => none
  | some bare =>
    if 3 ≤ runOf '`' bare ∧ '`' ∉ bare.drop (runOf '`' bare) then some ⟨'`', runOf '`' bare⟩
    else if 3 ≤ runOf '~' bare then some ⟨'~', runOf '~' bare⟩
    else none

section Reading
variable (after : Char → Bool)

def OpenFence.endedBy (f : OpenFence) (line : List Char) : Bool :=
  match behindIndent? line with
  | none => false
  | some bare =>
    let marks := bare.rdropWhile after
    f.size ≤ marks.length && marks.all (· = f.char)

def stepOver : Option OpenFence → List Char → Option OpenFence
  | none, line => starts? line
  | some f, line => if f.endedBy after line then none else some f

inductive Standing where
  | fence
  | inside
  | outside
deriving DecidableEq

def standingOf : Option OpenFence → List Char → Standing
  | none, line => if (starts? line).isSome then .fence else .outside
  | some f, line => if f.endedBy after line then .fence else .inside

/-- The lines of a text with the places where they stand. -/
def standings : Option OpenFence → List (List Char) → List (Standing × List Char)
  | _, [] => []
  | inside, line :: r =>
    (standingOf after inside line, line) :: standings (stepOver after inside line) r

/-- A line that only looks like a fence: white space apart it has three characters of one, but where
it stands it is none. -/
def Misleads : Option OpenFence → List Char → Prop
  | none, line => opens? (trimEnd line) ≠ none ∧ starts? line = none
  | some f, line => OpenFence.closedBy ⟨f.char, 3⟩ line = true ∧ f.endedBy after line = false

def NoneMisleads : Option OpenFence → List (List Char) → Prop
  | _, [] => True
  | inside, line :: r => ¬ Misleads after inside line ∧ NoneMisleads (stepOver after inside line) r

instance : (inside : Option OpenFence) → (line : List Char) →
    Decidable (Misleads after inside line)
  | none, _ => inferInstanceAs (Decidable (_ ∧ _))
  | some _, _ => inferInstanceAs (Decidable (_ ∧ _))

instance decidableNoneMisleads : (inside : Option OpenFence) → (ls : List (List Char)) →
    Decidable (NoneMisleads after inside ls)
  | _, [] => .isTrue trivial
  | inside, line :: r =>
    have := decidableNoneMisleads (stepOver after inside line) r
    inferInstanceAs (Decidable (_ ∧ _))

end Reading

inductive Kept : Standing × List Char → Standing × List Char → Prop where
  | fence {line out : List Char} : Kept (.fence, line) (.fence, out)
  | inside {line : List Char} : Kept (.inside, line) (.inside, trimEnd line)
  | outside {line : List Char} : Kept (.outside, line) (.outside, trimStart (trimEnd line))

/-- Every line comes out in its place; a fence that is still open is closed at the end. -/
inductive BlocksKept : List (Standing × List Char) → List (Standing × List Char) → Prop where
  | nil : BlocksKept [] []
  | closing (f : Fence) : BlocksKept [] [(.fence, f.mark)]
  | cons {x y : Standing × List Char} {xs ys : List (Standing × List Char)} :
      Kept x y → BlocksKept xs ys → BlocksKept (x :: xs) (y :: ys)

theorem lines_of_filled {r : List Char} (filled : r ≠ []) : ∃ l ls, lines r = l :: ls := by
  refine List.exists_cons_of_ne_nil fun none => filled ?_
  revert none
  fun_cases lines r <;> simp

theorem pieces_filled (sep : Char) (cs : List Char) : ∃ p ps, pieces sep cs = p :: ps := by
  rw [pieces_eq_split_on]
  exact List.exists_cons_of_ne_nil (List.splitOn_ne_nil sep cs)

theorem prose_lines_return {r : List Char} (alone : ∀ t, r ≠ '\n' :: t) (filled : r ≠ []) :
    proseLines ('\r' :: r) = [] :: proseLines r := by
  obtain ⟨l, ls, found⟩ := lines_of_filled filled
  have longer : lines ('\r' :: r) = ('\r' :: l) :: ls := by
    rw [lines, found]
    · simp
    · intro t _ same
      exact alone t same
  rw [proseLines, proseLines, longer, found]
  rfl

theorem prose_lines_char {c : Char} {r : List Char} (feed : c ≠ '\n') (back : c ≠ '\r')
    (filled : r ≠ []) :
    ∃ p ps, proseLines r = p :: ps ∧ proseLines (c :: r) = (c :: p) :: ps := by
  obtain ⟨l, ls, found⟩ := lines_of_filled filled
  obtain ⟨p, ps, first⟩ := pieces_filled '\r' l
  have longer : lines (c :: r) = (c :: l) :: ls := by
    rw [lines, found]
    · exact feed
    · intro t same _
      exact back same
  refine ⟨p, ps ++ ls.flatMap (pieces '\r'), ?_, ?_⟩
  · rw [proseLines, found, List.flatMap_cons, first, List.cons_append]
  · rw [proseLines, longer, List.flatMap_cons, pieces, if_neg back, first, List.cons_append]

theorem prose_lines_between_breaks (cs : List Char) :
    betweenBreaks cs = proseLines cs ∨ betweenBreaks cs = proseLines cs ++ [[]] := by
  fun_induction betweenBreaks cs with
  | case1 => exact Or.inr rfl
  | case2 r ih => exact ih.imp (congrArg _) (congrArg _)
  | case3 r ih => exact ih.imp (congrArg _) (congrArg _)
  | case4 r alone ih =>
    by_cases filled : r = []
    · subst filled
      exact Or.inl rfl
    · rw [prose_lines_return alone filled]
      exact ih.imp (congrArg _) (congrArg _)
  | case5 c r feed _ back none ih =>
    -- There is always a first line to put the character on.
    by_cases filled : r = []
    · subst filled
      cases none
    · obtain ⟨p, ps, found, -⟩ := prose_lines_char feed back filled
      simp [none, found] at ih
  | case6 c r feed _ back l ls found ih =>
    by_cases filled : r = []
    · subst filled
      cases found
      have single : lines [c] = [[c]] := by
        rw [lines]
        · rfl
        · exact fun same => feed same
        · exact fun t same _ => back same
      refine Or.inl ?_
      rw [proseLines, single, List.flatMap_singleton, pieces, if_neg fun same => back same]
      rfl
    · obtain ⟨p, ps, first, longer⟩ := prose_lines_char feed back filled
      simpa [found, first, longer] using ih

theorem rdrop_solid {p : Char → Bool} {m : List Char} (solid : ∀ c ∈ m, p c = false)
    (t : List Char) : (m ++ t).rdropWhile p = m ++ t.rdropWhile p := by
  induction t using List.reverseRecOn with
  | nil =>
    rw [List.append_nil, List.rdropWhile_nil, List.append_nil, List.rdropWhile_eq_self_iff]
    intro filled
    simp [solid _ (List.getLast_mem filled)]
  | append_singleton t c ih =>
    rw [← List.append_assoc, List.rdropWhile_concat, List.rdropWhile_concat, ih]
    split
    · rfl
    · rw [List.append_assoc]

theorem rdrop_behind {p : Char → Bool} {b : List Char} (filled : b.rdropWhile p ≠ [])
    (a : List Char) : (a ++ b).rdropWhile p = a ++ b.rdropWhile p := by
  induction b using List.reverseRecOn with
  | nil => exact absurd (List.rdropWhile_nil p) filled
  | append_singleton b c ih =>
    rw [List.rdropWhile_concat] at filled
    rw [← List.append_assoc, List.rdropWhile_concat, List.rdropWhile_concat]
    split_ifs at filled ⊢
    · exact ih filled
    · rw [List.append_assoc]

theorem trimmed_piece {a m : List Char} (blank : ∀ c ∈ a, isBlank c = true)
    (solid : ∀ c ∈ m, isBlank c = false) (filled : m ≠ []) (t : List Char) :
    trimStart (trimEnd (a ++ (m ++ t))) = m ++ trimEnd t := by
  have cut : trimEnd (m ++ t) = m ++ trimEnd t := rdrop_solid solid t
  have stays : trimEnd (m ++ t) ≠ [] := cut ▸ List.append_ne_nil_of_left_ne_nil filled _
  have whole : trimEnd (a ++ (m ++ t)) = a ++ (m ++ trimEnd t) := cut ▸ rdrop_behind stays a
  rw [whole, trimStart, List.dropWhile_append_of_pos blank]
  obtain ⟨c, r, rfl⟩ := List.exists_cons_of_ne_nil filled
  rw [List.cons_append, List.dropWhile_cons_of_neg]
  simp [solid c List.mem_cons_self]

theorem blank_indent {line bare : List Char} (found : behindIndent? line = some bare) :
    ∃ indent, (∀ c ∈ indent, isBlank c = true) ∧ line = indent ++ bare := by
  unfold behindIndent? at found
  split_ifs at found
  obtain rfl := Option.some.inj found
  refine ⟨line.takeWhile (· = ' '), fun c member => ?_, (List.takeWhile_append_dropWhile).symm⟩
  have blank := List.mem_takeWhile_imp member
  simp only [decide_eq_true_eq] at blank
  rw [blank]
  decide

theorem fence_char_solid (f : Fence) : isBlank f.char = false := by cases f <;> decide

theorem mark_solid (f : Fence) : ∀ c ∈ f.mark, isBlank c = false := by
  intro c member
  rw [List.eq_of_mem_replicate member]
  exact fence_char_solid f

theorem starts_char {line : List Char} {g : OpenFence} (found : starts? line = some g) :
    ∃ (f : Fence) (bare : List Char), g.char = f.char ∧ 3 ≤ g.size ∧
      behindIndent? line = some bare ∧ 3 ≤ runOf f.char bare := by
  unfold starts? at found
  split at found
  · cases found
  · rename_i bare behind
    split_ifs at found with ticks tildes
    · cases found
      exact ⟨.backticks, bare, rfl, ticks.1, behind, ticks.1⟩
    · cases found
      exact ⟨.tildes, bare, rfl, tildes, behind, tildes⟩

theorem starts_seen {line : List Char} {g : OpenFence} (found : starts? line = some g) :
    ∃ f : Fence, fenceOf? (trimStart (trimEnd line)) = some f ∧ g.char = f.char ∧ 3 ≤ g.size := by
  obtain ⟨f, bare, char, size, behind, run⟩ := starts_char found
  refine ⟨f, ?_, char, size⟩
  obtain ⟨indent, blank, rfl⟩ := blank_indent behind
  rw [three_run_iff, Option.isSome_iff_exists] at run
  obtain ⟨rest, lead⟩ := run
  rw [(after_head_iff ..).mp lead, trimmed_piece blank (mark_solid f) (by cases f <;> decide),
    fence_of_some_iff, three_run_iff, Option.isSome_iff_exists]
  exact ⟨trimEnd rest, (after_head_iff ..).mpr rfl⟩

section Reading
variable {after : Char → Bool}

/-- The rule and the loop are in the same kind of fence, or both outside. -/
inductive InStep : Option OpenFence → Option Fence → Prop where
  | outside : InStep none none
  | inside (f : Fence) {size : Nat} : 3 ≤ size → InStep (some ⟨f.char, size⟩) (some f)

theorem blocks_kept_cons_iff {x y : Standing × List Char} {xs ys : List (Standing × List Char)} :
    BlocksKept (x :: xs) (y :: ys) ↔ Kept x y ∧ BlocksKept xs ys := by
  constructor
  · intro kept
    cases kept with
    | cons first rest => exact ⟨first, rest⟩
  · intro ⟨first, rest⟩
    exact .cons first rest

/-- From the states `i` of the rule and `o` of the loop on, the lines `ls` come out as `ms`: all are
kept exactly if none misleads. -/
def Agree (after : Char → Bool) (i : Option OpenFence) (o : Option Fence)
    (ls ms : List (List Char)) : Prop :=
  BlocksKept (standings after i ls) (standings after (o.map Fence.opened) ms) ↔
    NoneMisleads after i ls

theorem line_agrees {i : Option OpenFence} {o p : Option Fence} {line out : List Char}
    {ls ms : List (List Char)}
    (first : Kept (standingOf after i line, line)
        (standingOf after (o.map Fence.opened) out, out) ↔ ¬ Misleads after i line)
    (step : stepOver after (o.map Fence.opened) out = p.map Fence.opened)
    (later : ¬ Misleads after i line → Agree after (stepOver after i line) p ls ms) :
    Agree after i o (line :: ls) (out :: ms) := by
  rw [Agree, standings, standings, blocks_kept_cons_iff, first, step, NoneMisleads]
  exact and_congr_right later

theorem text_fence_starts (f : Fence) : starts? (f.mark ++ textMark) = some f.opened := by
  cases f <;> decide

theorem misleads_outside_iff {line : List Char} {f : Fence}
    (found : fenceOf? (trimStart (trimEnd line)) = some f) :
    ¬ Misleads after none line ↔ starts? line ≠ none := by
  have looks : opens? (trimEnd line) ≠ none := by
    rw [Ne, opens_none_iff, found]
    exact Option.some_ne_none f
  rw [Misleads, not_and]
  exact ⟨fun fair => fair looks, fun starts _ => starts⟩

theorem started_in_step {line : List Char} {f : Fence} {g : OpenFence}
    (found : fenceOf? (trimStart (trimEnd line)) = some f) (start : starts? line = some g) :
    InStep (some g) (some f) := by
  obtain ⟨h, seen, same, long⟩ := starts_seen start
  obtain rfl := Option.some.inj (found.symm.trans seen)
  obtain ⟨char, size⟩ := g
  obtain rfl : char = f.char := same
  exact .inside f long

theorem no_start_unseen {line : List Char} (free : fenceOf? (trimStart (trimEnd line)) = none) :
    starts? line = none := by
  by_contra starts
  obtain ⟨g, start⟩ := Option.ne_none_iff_exists'.mp starts
  obtain ⟨f, seen, -⟩ := starts_seen start
  rw [free] at seen
  cases seen

theorem starting_line_agrees {line : List Char} {f : Fence} {ls ms : List (List Char)}
    (found : fenceOf? (trimStart (trimEnd line)) = some f)
    (later : ∀ i, InStep i (some f) → Agree after i (some f) ls ms) :
    Agree after none none (line :: ls) ((f.mark ++ textMark) :: ms) := by
  have step : stepOver after none (f.mark ++ textMark) = (some f).map Fence.opened :=
    text_fence_starts f
  refine line_agrees ?_ step fun fair => ?_
  · rw [misleads_outside_iff found, Option.map_none, standingOf, standingOf, text_fence_starts]
    cases starts? line with
    | none => exact iff_of_false (fun kept => by cases kept) fun starts => starts rfl
    | some g => exact iff_of_true .fence (Option.some_ne_none g)
  · rw [misleads_outside_iff found] at fair
    obtain ⟨g, start⟩ := Option.ne_none_iff_exists'.mp fair
    rw [stepOver, start]
    exact later _ (started_in_step found start)

theorem trimmed_twice (line : List Char) :
    trimStart (trimEnd (trimStart (trimEnd line))) = trimStart (trimEnd line) := by
  have full : trimEnd (trimStart (trimEnd line)) = trimStart (trimEnd line) := by
    refine List.rdropWhile_eq_self_iff.mpr fun filled => ?_
    have last := trim_start_full (trim_end_full line) _ (List.getLast?_eq_some_getLast filled)
    simp [last]
  rw [full, trim_start_twice]

theorem free_line_agrees {line : List Char} {ls ms : List (List Char)}
    (free : fenceOf? (trimStart (trimEnd line)) = none) (later : Agree after none none ls ms) :
    Agree after none none (line :: ls) (trimStart (trimEnd line) :: ms) := by
  have no_start := no_start_unseen free
  have still : starts? (trimStart (trimEnd line)) = none :=
    no_start_unseen (by rwa [trimmed_twice])
  have fair : ¬ Misleads after none line := by
    rintro ⟨looks, -⟩
    exact looks ((opens_none_iff _).mpr free)
  have step : stepOver after none (trimStart (trimEnd line)) = Option.map Fence.opened none :=
    still
  refine line_agrees (iff_of_true ?_ fair) step fun _ => ?_
  · rw [Option.map_none, standingOf, standingOf, no_start, still]
    exact .outside
  · rwa [stepOver, no_start]

theorem closed_by_trimmed (f : OpenFence) (line : List Char) :
    f.closedBy (trimEnd line) = f.closedBy line := by
  rw [OpenFence.closedBy, OpenFence.closedBy, trim_end_twice]

theorem closed_line_eq {f g : Fence} {line : List Char}
    (found : fenceOf? (trimStart (trimEnd line)) = some g) :
    f.opened.closedBy line = (g = f && (trimStart (trimEnd line)).all (· = f.char)) := by
  rw [Bool.eq_iff_iff, ← closed_by_trimmed, closed_by_iff, found, Option.some.injEq,
    Bool.and_eq_true, decide_eq_true_eq]

theorem free_line_open {f : Fence} {line : List Char}
    (free : fenceOf? (trimStart (trimEnd line)) = none) : f.opened.closedBy line = false := by
  rw [← closed_by_trimmed, Bool.eq_false_iff, Ne, closed_by_iff, free]
  rintro ⟨seen, -⟩
  cases seen

theorem misleads_inside_iff (f : Fence) (size : Nat) (line : List Char) :
    ¬ Misleads after (some ⟨f.char, size⟩) line ↔
      (f.opened.closedBy line = true → (OpenFence.mk f.char size).endedBy after line = true) := by
  rw [Misleads, not_and, Bool.not_eq_false]
  rfl

variable (blank : ∀ c, after c = true → isBlank c = true)
include blank

theorem ended_seen {f : Fence} {size : Nat} (long : 3 ≤ size) {line : List Char}
    (ended : (OpenFence.mk f.char size).endedBy after line = true) :
    f.opened.closedBy line = true := by
  unfold OpenFence.endedBy at ended
  split at ended
  · cases ended
  · rename_i bare behind
    obtain ⟨indent, indented, rfl⟩ := blank_indent behind
    simp only [Bool.and_eq_true, decide_eq_true_eq, List.all_eq_true] at ended
    obtain ⟨enough, same⟩ := ended
    have solid : ∀ c ∈ bare.rdropWhile after, isBlank c = false := by
      intro c member
      rw [same c member]
      exact fence_char_solid f
    have filled : bare.rdropWhile after ≠ [] := by
      rw [← List.length_pos_iff]
      omega
    have rest : trimEnd (bare.rtakeWhile after) = [] :=
      List.rdropWhile_eq_nil_iff.mpr fun c member => blank c (List.mem_rtakeWhile_imp member)
    have trimmed := trimmed_piece indented solid filled (bare.rtakeWhile after)
    rw [List.rdropWhile_append_rtakeWhile, rest, List.append_nil] at trimmed
    simp only [OpenFence.closedBy, trimmed, Fence.opened, Bool.and_eq_true, decide_eq_true_eq,
      List.all_eq_true]
    exact ⟨by omega, fun c member => decide_eq_true (same c member)⟩

theorem mark_ends (f : Fence) : f.opened.endedBy after f.mark = true := by
  have kept : f.mark.rdropWhile after = f.mark := by
    have solid : ∀ c ∈ f.mark, after c = false := by
      intro c member
      by_contra stands
      have white := blank c (by simpa using stands)
      rw [mark_solid f c member] at white
      cases white
    simpa using rdrop_solid solid []
  have bare : behindIndent? f.mark = some f.mark := by cases f <;> decide
  simp only [OpenFence.endedBy, bare, kept]
  cases f <;> decide

theorem inner_line_agrees {f : Fence} {size : Nat} (long : 3 ≤ size) {line : List Char}
    {ls ms : List (List Char)} (stays : f.opened.closedBy line = false)
    (later : Agree after (some ⟨f.char, size⟩) (some f) ls ms) :
    Agree after (some ⟨f.char, size⟩) (some f) (line :: ls) (trimEnd line :: ms) := by
  -- What ends no fence in the loop ends none by the rule, neither in the prose nor in the comment.
  have unseen : ∀ n, 3 ≤ n → ∀ l, f.opened.closedBy l = false →
      (OpenFence.mk f.char n).endedBy after l = false := by
    intro n enough l still
    by_contra ended
    rw [ended_seen blank enough (by simpa using ended)] at still
    cases still
  have here : (OpenFence.mk f.char size).endedBy after line = false := unseen size long line stays
  have there : f.opened.endedBy after (trimEnd line) = false := by
    apply unseen 3 (le_refl 3)
    rwa [closed_by_trimmed]
  have fair : ¬ Misleads after (some ⟨f.char, size⟩) line := by
    rw [misleads_inside_iff, stays]
    intro closed
    cases closed
  have step : stepOver after (some f.opened) (trimEnd line) = (some f).map Fence.opened := by
    rw [stepOver, there, if_neg Bool.false_ne_true, Option.map_some]
  refine line_agrees (iff_of_true ?_ fair) step fun _ => ?_
  · rw [Option.map_some, standingOf, standingOf, here, there]
    exact .inside
  · rwa [stepOver, here]

theorem closing_line_agrees {f : Fence} {size : Nat} {line : List Char} {ls ms : List (List Char)}
    (closed : f.opened.closedBy line = true) (later : Agree after none none ls ms) :
    Agree after (some ⟨f.char, size⟩) (some f) (line :: ls) (f.mark :: ms) := by
  have step : stepOver after (some f.opened) f.mark = Option.map Fence.opened none := by
    rw [stepOver, if_pos (mark_ends blank f), Option.map_none]
  refine line_agrees ?_ step fun fair => ?_
  · rw [misleads_inside_iff, Option.map_some, standingOf, standingOf, mark_ends blank]
    by_cases ended : (OpenFence.mk f.char size).endedBy after line = true
    · rw [if_pos ended]
      exact iff_of_true .fence fun _ => ended
    · rw [if_neg ended]
      exact iff_of_false (fun kept => by cases kept) fun ends => ended (ends closed)
  · rwa [stepOver, if_pos ((misleads_inside_iff f size line).mp fair closed)]

theorem fenced_agrees (inside : Option Fence) (ls : List (List Char)) :
    ∀ i, InStep i inside → Agree after i inside ls (fenced inside ls) := by
  -- The rule's fence is any that is in step, since it may be longer than the loop's.
  fun_induction fenced inside ls with
  | case1 =>
    intro i step
    cases step
    exact iff_of_true .nil trivial
  | case2 f =>
    intro i step
    cases step
    rw [Agree, standings, Option.map_some, standings, standings, standingOf, mark_ends blank,
      if_pos rfl]
    exact iff_of_true (.closing f) trivial
  | case3 line rest _ _ f found ih =>
    intro i step
    cases step
    exact starting_line_agrees found ih
  | case4 line rest _ _ found ih =>
    intro i step
    cases step
    exact free_line_agrees found (ih _ .outside)
  | case5 line rest _ _ f g found same ih =>
    intro i step
    cases step
    exact closing_line_agrees blank ((closed_line_eq found).trans same) (ih _ .outside)
  | case6 line rest _ _ f g found other ih =>
    intro i step
    cases step with
    | inside _ long =>
      have still : f.opened.closedBy line = false :=
        (closed_line_eq found).trans (Bool.eq_false_iff.mpr other)
      exact inner_line_agrees blank long still (ih _ (.inside f long))
  | case7 line rest _ _ f found ih =>
    intro i step
    cases step with
    | inside _ long =>
      exact inner_line_agrees blank long (free_line_open found) (ih _ (.inside f long))

/-- All lines of prose come out in their places exactly if none of them only looks like a fence. The
lines are those between line breaks, but for an empty one at the end. -/
theorem blocks_kept_iff (prose : String) :
    (betweenBreaks prose.toList = proseLines prose.toList ∨
      betweenBreaks prose.toList = proseLines prose.toList ++ [[]]) ∧
    (BlocksKept (standings after none (proseLines prose.toList))
        (standings after none (commentLines prose)) ↔
      NoneMisleads after none (proseLines prose.toList)) := by
  refine ⟨prose_lines_between_breaks prose.toList, ?_⟩
  rw [comment_lines_fenced]
  exact fenced_agrees blank none _ none .outside

end Reading

theorem nested_fences_kept :
    let after := fun c => c = ' ' || c = '\t'
    let prose := "Run:\r  ~~~~sh ~\r\n    ``` x\n~~~ y\n~~~~~ \t\n   `````\n  z "
    (∀ c, after c = true → isBlank c = true) ∧
      BlocksKept (standings after none (proseLines prose.toList))
        (standings after none (commentLines prose)) := by
  intro after prose
  have blank : ∀ c, after c = true → isBlank c = true := by
    intro c stands
    simp only [after, Bool.or_eq_true, decide_eq_true_eq] at stands
    rcases stands with rfl | rfl <;> decide
  exact ⟨blank, (blocks_kept_iff blank prose).2.mpr (by decide +kernel)⟩

/-- Code in a line is taken for a fence, and the text behind it is lost; a fence of four characters
is taken to end at three. -/
theorem inline_code_not_kept :
    let inline := "```a``` b\n  c"
    let longer := "````\n```\n  c\n````"
    commentLines inline = ["```text", "  c", "```"].map String.toList ∧
      ¬ BlocksKept (standings (fun _ => false) none (proseLines inline.toList))
        (standings (fun _ => false) none (commentLines inline)) ∧
      commentLines longer = ["```text", "```", "c", "```text", "```"].map String.toList ∧
      ¬ BlocksKept (standings (fun _ => false) none (proseLines longer.toList))
        (standings (fun _ => false) none (commentLines longer)) := by
  intro inline longer
  refine ⟨by decide +kernel, fun kept => ?_, by decide +kernel, fun kept => ?_⟩
  · have prose : standings (fun _ => false) none (proseLines inline.toList) =
        [(.outside, "```a``` b".toList), (.outside, "  c".toList)] := by decide +kernel
    have comment : standings (fun _ => false) none (commentLines inline) =
        [(.fence, "```text".toList), (.inside, "  c".toList), (.fence, "```".toList)] := by
      decide +kernel
    rw [prose, comment, blocks_kept_cons_iff] at kept
    cases kept.1
  · have prose : standings (fun _ => false) none (proseLines longer.toList) =
        [(.fence, "````".toList), (.inside, "```".toList), (.inside, "  c".toList),
          (.fence, "````".toList)] := by
      decide +kernel
    have comment : standings (fun _ => false) none (commentLines longer) =
        [(.fence, "```text".toList), (.fence, "```".toList), (.outside, "c".toList),
          (.fence, "```text".toList), (.fence, "```".toList)] := by
      decide +kernel
    rw [prose, comment, blocks_kept_cons_iff, blocks_kept_cons_iff] at kept
    cases kept.2.1

end ErrorUnion.Text
