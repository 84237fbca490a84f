import Mathlib.Data.List.Nodup
import ErrorUnion.Text.Pieces

/- A text that starts or ends with another one, and what is left of it; paths of two names. -/
namespace ErrorUnion.Text

theorem after_head_iff (head cs rest : List Char) :
    afterHead? head cs = some rest ↔ cs = head ++ rest := by
  induction head generalizing cs with
  | nil => simp [afterHead?]
  | cons h hs ih =>
    cases cs with
    | nil => simp [afterHead?]
    | cons c cs =>
      by_cases same : h = c
      · simp [afterHead?, same, ih]
      · simp [afterHead?, same, Ne.symm same]

theorem before_tail_iff (tail cs stem : List Char) :
    beforeTail? tail cs = some stem ↔ cs = stem ++ tail := by
  simp only [beforeTail?, Option.map_eq_some_iff, after_head_iff]
  constructor
  · rintro ⟨rest, reversed, rfl⟩
    rw [← List.reverse_reverse cs, reversed, List.reverse_append, List.reverse_reverse]
  · rintro rfl
    exact ⟨stem.reverse, List.reverse_append, List.reverse_reverse stem⟩

theorem split_at_first {x : α} {as bs cs ds : List α} (first : x ∉ as) (other : x ∉ cs)
    (same : as ++ x :: bs = cs ++ x :: ds) : as = cs ∧ bs = ds := by
  induction as generalizing cs with
  | nil =>
    cases cs with
    | nil => exact ⟨rfl, (List.cons.inj same).2⟩
    | cons c r => exact absurd ((List.cons.inj same).1 ▸ List.mem_cons_self) other
  | cons a r ih =>
    cases cs with
    | nil => exact absurd ((List.cons.inj same).1 ▸ List.mem_cons_self) first
    | cons c t =>
      obtain ⟨rfl, rest⟩ := List.cons.inj same
      obtain ⟨heads, tails⟩ := ih (fun later => first (List.mem_cons_of_mem a later))
        (fun later => other (List.mem_cons_of_mem a later)) rest
      exact ⟨congrArg (List.cons a) heads, tails⟩

theorem path_names {a b c d : String} (first : ':' ∉ a.toList) (other : ':' ∉ c.toList)
    (same : a ++ "::" ++ b = c ++ "::" ++ d) : a = c ∧ b = d := by
  have chars := congrArg String.toList same
  simp only [String.toList_append, List.append_assoc] at chars
  obtain ⟨heads, tails⟩ := split_at_first first other chars
  exact ⟨String.toList_injective heads, String.toList_injective (List.cons.inj tails).2⟩

theorem mem_pieces {sep : Char} {cs p : List Char} (piece : p ∈ pieces sep cs) :
    sep ∉ p ∧ p ⊆ cs := by
  fun_induction pieces sep cs generalizing p with
  | case1 =>
    obtain rfl := List.mem_singleton.mp piece
    simp
  | case2 r ih =>
    rcases List.mem_cons.mp piece with rfl | later
    · simp
    · exact ⟨(ih later).1, List.subset_cons_of_subset sep (ih later).2⟩
  | case3 c r other none ih =>
    obtain rfl := List.mem_singleton.mp piece
    simpa using Ne.symm other
  | case4 c r other q qs found ih =>
    rw [found] at ih
    rcases List.mem_cons.mp piece with rfl | later
    · obtain ⟨apart, within⟩ := ih List.mem_cons_self
      refine ⟨?_, List.cons_subset_cons c within⟩
      simpa using ⟨Ne.symm other, apart⟩
    · obtain ⟨apart, within⟩ := ih (List.mem_cons_of_mem q later)
      exact ⟨apart, List.subset_cons_of_subset c within⟩

theorem pieces_eq_split_on (sep : Char) (cs : List Char) : pieces sep cs = cs.splitOn sep := by
  induction cs with
  | nil => simp [pieces]
  | cons c r ih =>
    rw [List.splitOn_cons_eq_if_modifyHead, pieces, ih]
    by_cases same : c = sep
    · simp [same]
    · obtain ⟨p, ps, found⟩ := List.exists_cons_of_ne_nil (List.splitOn_ne_nil sep r)
      simp [same, found]

/-- All pieces are of one kind exactly if the text consists of such pieces with the separator
between them. -/
theorem all_pieces_iff {sep : Char} {kind : List Char → Prop} (apart : ∀ p, kind p → sep ∉ p)
    (cs : List Char) :
    (∀ p ∈ pieces sep cs, kind p) ↔
      ∃ ps, ps ≠ [] ∧ (∀ p ∈ ps, kind p) ∧ cs = [sep].intercalate ps := by
  rw [pieces_eq_split_on]
  constructor
  · intro each
    exact ⟨cs.splitOn sep, List.splitOn_ne_nil sep cs, each, (List.intercalate_splitOn sep).symm⟩
  · rintro ⟨ps, some, each, rfl⟩
    rwa [List.splitOn_intercalate sep (fun p piece => apart p (each p piece)) some]

theorem char_in_longer_piece {c d : Char} {q : List Char} {qs : List (List Char)}
    (found : ∃ p ∈ q :: qs, c ∈ p) : ∃ p ∈ (d :: q) :: qs, c ∈ p := by
  obtain ⟨p, piece, inside⟩ := found
  rcases List.mem_cons.mp piece with rfl | later
  · exact ⟨d :: p, List.mem_cons_self, List.mem_cons_of_mem d inside⟩
  · exact ⟨p, List.mem_cons_of_mem _ later, inside⟩

theorem char_in_piece (sep : Char) {c : Char} {cs : List Char} (member : c ∈ cs) :
    c = sep ∨ ∃ p ∈ pieces sep cs, c ∈ p := by
  fun_induction pieces sep cs with
  | case1 => cases member
  | case2 r ih =>
    rcases List.mem_cons.mp member with rfl | later
    · exact Or.inl rfl
    · simpa using ih later
  | case3 d r other none ih =>
    rcases List.mem_cons.mp member with rfl | later
    · exact Or.inr ⟨[c], List.mem_cons_self, List.mem_cons_self⟩
    · exact Or.inl (by simpa [none] using ih later)
  | case4 d r other q qs found ih =>
    rcases List.mem_cons.mp member with rfl | later
    · exact Or.inr ⟨c :: q, List.mem_cons_self, List.mem_cons_self⟩
    · rw [found] at ih
      exact (ih later).imp_right char_in_longer_piece

theorem char_in_colon_piece {c : Char} {cs : List Char} (member : c ∈ cs) :
    c = ':' ∨ ∃ p ∈ colonPieces cs, c ∈ p := by
  fun_induction colonPieces cs with
  | case1 => cases member
  | case2 r ih =>
    rcases List.mem_cons.mp member with rfl | second
    · exact Or.inl rfl
    · rcases List.mem_cons.mp second with rfl | later
      · exact Or.inl rfl
      · simpa using ih later
  | case3 d r single none ih =>
    rcases List.mem_cons.mp member with rfl | later
    · exact Or.inr ⟨[c], List.mem_cons_self, List.mem_cons_self⟩
    · exact Or.inl (by simpa [none] using ih later)
  | case4 d r single q qs found ih =>
    rcases List.mem_cons.mp member with rfl | later
    · exact Or.inr ⟨c :: q, List.mem_cons_self, List.mem_cons_self⟩
    · rw [found] at ih
      exact (ih later).imp_right char_in_longer_piece

end ErrorUnion.Text
