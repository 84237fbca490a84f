import ErrorUnion.Text.Prose
import ErrorUnion.Proofs.Text.Pieces

/- The lines that prose becomes in a comment. None of them holds a line break of its own, so none
   goes on behind the comment that it is put in. -/
namespace ErrorUnion.Text

def Unbroken (cs : List Char) : Prop := '\n' ∉ cs ∧ '\r' ∉ cs

theorem unbroken_subset {cs ds : List Char} (within : cs ⊆ ds) (unbroken : Unbroken ds) :
    Unbroken cs :=
  ⟨fun member => unbroken.1 (within member), fun member => unbroken.2 (within member)⟩

theorem trim_end_subset (cs : List Char) : trimEnd cs ⊆ cs := by
  intro c member
  rw [trimEnd, List.mem_reverse] at member
  exact List.mem_reverse.mp ((List.dropWhile_sublist isBlank).subset member)

theorem trim_start_subset (cs : List Char) : trimStart cs ⊆ cs :=
  (List.dropWhile_sublist isBlank).subset

theorem fence_mark_unbroken (f : Fence) : Unbroken f.mark := by
  cases f <;> exact ⟨by decide, by decide⟩

theorem text_fence_unbroken (f : Fence) : Unbroken (f.mark ++ textMark) := by
  cases f <;> exact ⟨by decide, by decide⟩

theorem fenced_unbroken {inside : Option Fence} {ls : List (List Char)}
    (each : ∀ l ∈ ls, Unbroken l) : ∀ l ∈ fenced inside ls, Unbroken l := by
  fun_induction fenced inside ls with
  | case1 => exact each
  | case2 f => rw [List.forall_mem_singleton]; exact fence_mark_unbroken f
  | case3 line rest _ _ f _ ih =>
    rw [List.forall_mem_cons] at each ⊢
    exact ⟨text_fence_unbroken f, ih each.2⟩
  | case4 line rest _ _ _ ih =>
    rw [List.forall_mem_cons] at each ⊢
    have bare : trimStart (trimEnd line) ⊆ line := fun _ member =>
      trim_end_subset line (trim_start_subset _ member)
    exact ⟨unbroken_subset bare each.1, ih each.2⟩
  | case5 line rest _ _ f _ _ _ ih =>
    rw [List.forall_mem_cons] at each ⊢
    exact ⟨fence_mark_unbroken f, ih each.2⟩
  | case6 line rest _ _ f _ _ _ ih =>
    rw [List.forall_mem_cons] at each ⊢
    exact ⟨unbroken_subset (trim_end_subset line) each.1, ih each.2⟩
  | case7 line rest _ _ f _ ih =>
    rw [List.forall_mem_cons] at each ⊢
    exact ⟨unbroken_subset (trim_end_subset line) each.1, ih each.2⟩

theorem no_line_feed_in_lines (cs : List Char) : ∀ l ∈ lines cs, '\n' ∉ l := by
  fun_induction lines cs with
  | case1 => simp
  | case2 r ih => simpa using ih
  | case3 r ih => simpa using ih
  | case4 c r feed _ empty ih =>
    rw [List.forall_mem_singleton, List.mem_singleton]
    exact fun same => feed same.symm
  | case5 c r feed _ l ls found ih =>
    rw [found, List.forall_mem_cons] at ih
    rw [List.forall_mem_cons, List.mem_cons, not_or]
    exact ⟨⟨fun same => feed same.symm, ih.1⟩, ih.2⟩

theorem prose_lines_unbroken (cs : List Char) : ∀ l ∈ proseLines cs, Unbroken l := by
  intro l member
  obtain ⟨line, listed, piece⟩ := List.mem_flatMap.mp member
  obtain ⟨apart, within⟩ := mem_pieces piece
  exact ⟨fun feed => no_line_feed_in_lines cs line listed (within feed), apart⟩

theorem doc_lines_unbroken (prose : Option String) : ∀ l ∈ docLines prose, Unbroken l.toList := by
  intro l member
  cases prose with
  | none => cases member
  | some s =>
    obtain ⟨cs, listed, rfl⟩ := List.mem_map.mp member
    rw [String.toList_ofList]
    exact fenced_unbroken (prose_lines_unbroken s.toList) cs listed

end ErrorUnion.Text
