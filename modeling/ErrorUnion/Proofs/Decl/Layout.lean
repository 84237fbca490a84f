import ErrorUnion.Proofs.Decl.Marks

/- What marks write. It goes behind what stands on a sheet and depends on the sheet's depth only, so
   a text is put together from the texts of its parts, each laid out on a sheet of its own. -/
namespace ErrorUnion
open Text

def Mark.written (depth : Nat) : Mark → String
  | .line text => lineText depth text
  | .opening head => lineText depth (head ++ " \x7b")
  | .closing => lineText (depth - 1) "\x7d"

def Mark.depthBehind (depth : Nat) : Mark → Nat
  | .line _ => depth
  | .opening _ => depth + 1
  | .closing => depth - 1

theorem put_eq (s : Sheet) (m : Mark) :
    s.put m = ⟨s.text ++ m.written s.depth, m.depthBehind s.depth⟩ := by
  cases m <;> rfl

theorem line_text_full (depth : Nat) (text : String) : ∃ s, lineText depth text = s ++ "\n" := by
  unfold lineText
  split
  · exact ⟨"", rfl⟩
  · exact ⟨_, rfl⟩

theorem written_full (depth : Nat) (m : Mark) : ∃ s, m.written depth = s ++ "\n" := by
  cases m <;> exact line_text_full _ _

theorem put_all_cons (s : Sheet) (m : Mark) (ms : List Mark) :
    s.putAll (m :: ms) = (s.put m).putAll ms := rfl

theorem put_all_append (s : Sheet) (ms ns : List Mark) :
    s.putAll (ms ++ ns) = (s.putAll ms).putAll ns :=
  List.foldl_append

/-- The text of marks that start on an empty sheet of a depth. -/
def marksText (depth : Nat) (ms : List Mark) : String := (Sheet.putAll ⟨"", depth⟩ ms).text

theorem put_all_text (s : Sheet) (ms : List Mark) :
    (s.putAll ms).text = s.text ++ marksText s.depth ms := by
  unfold marksText
  induction ms generalizing s with
  | nil => simp [Sheet.putAll]
  | cons m r ih =>
    have fresh := ih (Sheet.put ⟨"", s.depth⟩ m)
    rw [put_all_cons, put_all_cons, ih (s.put m), fresh]
    simp only [put_eq, String.empty_append, String.append_assoc]

theorem marks_text_cons (depth : Nat) (m : Mark) (ms : List Mark) :
    marksText depth (m :: ms) = m.written depth ++ marksText (m.depthBehind depth) ms := by
  rw [marksText, put_all_cons, put_eq, put_all_text, String.empty_append]

theorem marks_text_full (depth : Nat) {ms : List Mark} (some : ms ≠ []) :
    ∃ s, marksText depth ms = s ++ "\n" := by
  induction ms generalizing depth with
  | nil => exact absurd rfl some
  | cons m r ih =>
    rw [marks_text_cons]
    by_cases last : r = []
    · obtain ⟨s, line⟩ := written_full depth m
      rw [last, line]
      exact ⟨s, String.append_empty⟩
    · obtain ⟨s, rest⟩ := ih (m.depthBehind depth) last
      exact ⟨m.written depth ++ s, by rw [rest, String.append_assoc]⟩

theorem put_all_depth {ms : List Mark} (balanced : Balanced ms) (s : Sheet) :
    (s.putAll ms).depth = s.depth := by
  induction balanced generalizing s with
  | nil => rfl
  | line _ ih => exact ih _
  | block _ _ inner later =>
    rw [put_all_cons, put_all_append, put_all_cons, later, put_eq, inner, put_eq]
    exact Nat.add_sub_cancel _ 1

theorem marks_text_append {ms : List Mark} (balanced : Balanced ms) (depth : Nat)
    (ns : List Mark) : marksText depth (ms ++ ns) = marksText depth ms ++ marksText depth ns := by
  rw [marksText, put_all_append, put_all_text, put_all_depth balanced, ← marksText]

theorem marks_text_spaced {groups : List (List Mark)} (each : ∀ g ∈ groups, Balanced g)
    (depth : Nat) :
    marksText depth (spaced groups) = joinWith "\n" (groups.map (marksText depth)) := by
  induction groups with
  | nil => rfl
  | cons g r ih =>
    rw [List.forall_mem_cons] at each
    cases r with
    | nil => rfl
    | cons h r =>
      rw [spaced, marks_text_append each.1, marks_text_cons, Mark.depthBehind, ih each.2,
        ← String.append_assoc]
      rfl

theorem block_marks_filled (head : String) (body : List Mark) : blockMarks head body ≠ [] := by
  cases body <;> exact List.cons_ne_nil _ _

theorem item_marks_filled (i : Item) : i.marks ≠ [] := by
  cases i with
  | record r => exact List.append_ne_nil_of_right_ne_nil _ (block_marks_filled _ _)
  | union u => simp [Item.marks, UnionDecl.marks]
  | methods m => exact List.append_ne_nil_of_right_ne_nil _ (block_marks_filled _ _)
  | module docs vis name items => simp [Item.marks]

theorem items_marks_filled {is : List Item} (some : is ≠ []) : itemsMarks is ≠ [] := by
  match is with
  | [] => exact absurd rfl some
  | [i] => exact item_marks_filled i
  | i :: j :: r => exact List.append_ne_nil_of_left_ne_nil (item_marks_filled i) _

theorem items_marks_append {is js : List Item} (some : is ≠ []) (others : js ≠ []) :
    itemsMarks (is ++ js) = itemsMarks is ++ .line "" :: itemsMarks js := by
  induction is with
  | nil => exact absurd rfl some
  | cons i r ih =>
    cases r with
    | nil =>
      obtain ⟨j, js, rfl⟩ := List.exists_cons_of_ne_nil others
      rfl
    | cons k r =>
      have later := ih (List.cons_ne_nil k r)
      simp only [List.cons_append, itemsMarks, List.append_assoc] at later ⊢
      rw [later]

theorem items_marks_flatten {groups : List (List Item)} (each : ∀ g ∈ groups, g ≠ []) :
    itemsMarks groups.flatten = spaced (groups.map itemsMarks) := by
  induction groups with
  | nil => rfl
  | cons g r ih =>
    rw [List.forall_mem_cons] at each
    cases r with
    | nil => simp [spaced]
    | cons h r =>
      have rest : (h :: r).flatten ≠ [] := by
        rw [List.flatten_cons]
        exact List.append_ne_nil_of_left_ne_nil (each.2 h List.mem_cons_self) _
      rw [List.flatten_cons, items_marks_append each.1 rest, ih each.2]
      rfl

end ErrorUnion
