import ErrorUnion.Command.FileTree
import ErrorUnion.Proofs.Text.Pieces

/- Paths in normal form: names between single slashes, none of which is passed over or leads back.
   Such a path is given by its names, and its parent is the path of all names but the last. -/
namespace ErrorUnion.Path
open Text

def IsName (name : List Char) : Prop :=
  name ≠ [] ∧ name ≠ ['.'] ∧ name ≠ ['.', '.'] ∧ '/' ∉ name

instance (name : List Char) : Decidable (IsName name) :=
  inferInstanceAs (Decidable (name ≠ [] ∧ name ≠ ['.'] ∧ name ≠ ['.', '.'] ∧ '/' ∉ name))

/-- A path that is written with these names, and with a slash in front if it is absolute. -/
structure Spells (p : String) (absolute : Bool) (ns : List String) : Prop where
  text : p.toList = (if absolute then ['/'] else []) ++ joinSlashes (ns.map String.toList)
  names : ∀ n ∈ ns, IsName n.toList

/-- A path in normal form, to something in the root or in the working folder, or below that. -/
def IsNormal (p : String) : Prop := ∃ absolute ns, ns ≠ [] ∧ Spells p absolute ns

/-- A path that is not refused for its characters or its lengths. -/
structure Fits (p : String) : Prop where
  no_nul : '\x00' ∉ p.toList
  size : p.utf8ByteSize ≤ pathLimit
  names : ∀ name ∈ names p, name.utf8ByteSize ≤ nameLimit

theorem join_slashes_eq (ns : List (List Char)) : joinSlashes ns = ['/'].intercalate ns := by
  induction ns with
  | nil => rfl
  | cons n r ih =>
    cases r with
    | nil => simp [joinSlashes, List.intercalate]
    | cons m s =>
      rw [joinSlashes, ih]
      simp [List.intercalate]

theorem join_slashes_append {ns ms : List (List Char)} (some : ns ≠ []) (more : ms ≠ []) :
    joinSlashes (ns ++ ms) = joinSlashes ns ++ '/' :: joinSlashes ms := by
  induction ns with
  | nil => exact absurd rfl some
  | cons n r ih =>
    cases r with
    | nil =>
      obtain ⟨m, s, rfl⟩ := List.exists_cons_of_ne_nil more
      rfl
    | cons k s =>
      rw [List.cons_append, List.cons_append, joinSlashes, ← List.cons_append, ih (by simp),
        joinSlashes]
      simp

theorem pieces_joined {ns : List (List Char)} (some : ns ≠ []) (each : ∀ n ∈ ns, IsName n) :
    pieces '/' (joinSlashes ns) = ns := by
  rw [pieces_eq_split_on, join_slashes_eq]
  exact List.splitOn_intercalate '/' (fun n member => (each n member).2.2.2) some

theorem joined_head {ns : List (List Char)} (some : ns ≠ []) (each : ∀ n ∈ ns, IsName n) :
    ∃ c r, joinSlashes ns = c :: r ∧ c ≠ '/' := by
  cases ns with
  | nil => exact absurd rfl some
  | cons n r =>
    obtain ⟨full, -, -, apart⟩ := each n List.mem_cons_self
    cases n with
    | nil => exact absurd rfl full
    | cons c cs =>
      have other : c ≠ '/' := fun same => apart (same ▸ List.mem_cons_self)
      cases r with
      | nil => exact ⟨c, cs, rfl, other⟩
      | cons m s => exact ⟨c, _, rfl, other⟩

theorem joined_last {ns : List (List Char)} {n : List Char} (name : IsName n) :
    (joinSlashes (ns ++ [n])).getLast? ≠ some '/' := by
  obtain ⟨full, -, -, apart⟩ := name
  have last : (joinSlashes (ns ++ [n])).getLast? = n.getLast? := by
    by_cases none : ns = []
    · simp [none, joinSlashes]
    · rw [join_slashes_append none (by simp), joinSlashes, List.getLast?_append_cons,
        List.getLast?_cons_of_ne_nil full]
  rw [last]
  exact fun slash => apart (List.mem_of_getLast? slash)

theorem names_of_joined {ns : List (List Char)} (each : ∀ n ∈ ns, IsName n) :
    (pieces '/' (joinSlashes ns)).filter (· ≠ []) = ns := by
  by_cases none : ns = []
  · simp [none, joinSlashes, pieces]
  · rw [pieces_joined none each, List.filter_eq_self]
    intro n member
    simpa using (each n member).1

theorem name_not_silent {n : List Char} (name : IsName n) : isSilent n = false := by
  simp [isSilent, name.1, name.2.1]

theorem no_silent_dropped {ns : List (List Char)} (each : ∀ n ∈ ns, IsName n) :
    ns.dropWhile isSilent = ns := by
  cases ns with
  | nil => rfl
  | cons n r => rw [List.dropWhile_cons_of_neg]; simp [name_not_silent (each n List.mem_cons_self)]

theorem lead_of_joined {ns : List (List Char)} (some : ns ≠ []) (each : ∀ n ∈ ns, IsName n) :
    lead (joinSlashes ns) = ([], joinSlashes ns) := by
  have joined := pieces_joined some each
  have no_dot : ['.'] ∉ ns := fun member => (each _ member).2.1 rfl
  obtain ⟨c, r, head, other⟩ := joined_head some each
  rw [head] at joined ⊢
  unfold lead
  split
  · rename_i same
    exact absurd (List.cons.inj same).1 other
  · rename_i same
    rw [same] at joined
    exact absurd (joined ▸ List.mem_cons_self) no_dot
  · rename_i same
    rw [same] at joined
    exact absurd (joined ▸ List.mem_cons_self) no_dot
  · rfl

section Spelled

variable {p q : String} {absolute : Bool} {ns : List String} {n : String}

theorem spelled_chars (spells : Spells p absolute ns) :
    ∀ cs ∈ ns.map String.toList, IsName cs := by
  intro cs member
  obtain ⟨n, listed, rfl⟩ := List.mem_map.mp member
  exact spells.names n listed

theorem spelled_absolute (spells : Spells p absolute ns) : isAbsolute p = absolute := by
  rw [isAbsolute, spells.text]
  cases absolute with
  | true => simp
  | false =>
    by_cases none : ns = []
    · simp [none, joinSlashes]
    · obtain ⟨c, r, head, other⟩ := joined_head (by simpa using none) (spelled_chars spells)
      simp [head, other]

theorem spelled_names (spells : Spells p absolute ns) : names p = ns := by
  have joined := names_of_joined (spelled_chars spells)
  have kept : (pieces '/' p.toList).filter (· ≠ []) = ns.map String.toList := by
    rw [spells.text]
    cases absolute with
    | true => simpa [pieces] using joined
    | false => simpa using joined
  rw [names, kept, List.map_map]
  simp [Function.comp_def]

theorem spelled_no_slash (spells : Spells p absolute (ns ++ [n])) : endsWithSlash p = false := by
  have chars := spelled_chars spells
  rw [List.map_append, List.map_singleton] at chars
  have last := @joined_last (ns.map String.toList) n.toList (spells.names n (by simp))
  have some : joinSlashes (ns.map String.toList ++ [n.toList]) ≠ [] := by
    obtain ⟨c, r, head, -⟩ := joined_head (by simp) chars
    simp [head]
  rw [endsWithSlash, spells.text, List.map_append, List.map_singleton,
    List.getLast?_append_of_ne_nil _ some]
  simpa using last

theorem spelled_lead (spells : Spells p absolute ns) (some : ns ≠ []) :
    lead p.toList = (if absolute then ['/'] else [], joinSlashes (ns.map String.toList)) := by
  rw [spells.text]
  cases absolute with
  | true => rfl
  | false => exact lead_of_joined (by simpa using some) (spelled_chars spells)

theorem spelled_parent (spells : Spells p absolute (ns ++ [n])) :
    ∃ q, parent? p = some q ∧ Spells q absolute ns := by
  have chars := spelled_chars spells
  have pieces := pieces_joined (by simp) chars
  rw [List.map_append, List.map_singleton] at chars pieces
  have before :
      (ns.map String.toList).reverse.dropWhile isSilent = (ns.map String.toList).reverse :=
    no_silent_dropped fun m member => chars m (List.mem_append_left _ (List.mem_reverse.mp member))
  have all : (n.toList :: (ns.map String.toList).reverse).dropWhile isSilent =
      n.toList :: (ns.map String.toList).reverse :=
    no_silent_dropped fun m member => chars m (by simpa [or_comm] using member)
  refine ⟨String.ofList ((if absolute then ['/'] else []) ++ joinSlashes (ns.map String.toList)),
    ?_, ?_, fun m member => spells.names m (List.mem_append_left _ member)⟩
  · simp only [parent?, spelled_lead spells (by simp), List.map_append, List.map_singleton, pieces,
      List.reverse_append, List.reverse_singleton, List.singleton_append, all, before,
      List.reverse_reverse]
  · rw [String.toList_ofList]

theorem parent_begins (spells : Spells p absolute (ns ++ [n])) (parent : Spells q absolute ns) :
    ∃ rest, p = q ++ rest := by
  have text : ∃ rest, p.toList = q.toList ++ rest := by
    rw [spells.text, parent.text, List.map_append, List.map_singleton]
    by_cases none : ns = []
    · exact ⟨n.toList, by simp [none, joinSlashes]⟩
    · refine ⟨'/' :: n.toList, ?_⟩
      rw [join_slashes_append (by simpa using none) (by simp), joinSlashes, List.append_assoc]
  obtain ⟨rest, text⟩ := text
  exact ⟨String.ofList rest, String.toList_injective (by simp [text])⟩

theorem fits_parent (spells : Spells p absolute (ns ++ [n])) (parent : Spells q absolute ns)
    (fits : Fits p) : Fits q := by
  obtain ⟨rest, text⟩ := parent_begins spells parent
  refine ⟨fun nul => fits.no_nul ?_, ?_, fun name member => fits.names name ?_⟩
  · rw [text, String.toList_append]
    exact List.mem_append_left _ nul
  · have size := fits.size
    rw [text, String.utf8ByteSize_append] at size
    omega
  · rw [spelled_names parent] at member
    rw [spelled_names spells]
    exact List.mem_append_left _ member

theorem spelled_leads_down (spells : Spells p absolute ns) : ∀ n ∈ ns, n ≠ "." ∧ n ≠ ".." := by
  intro n member
  obtain ⟨-, dot, dots, -⟩ := spells.names n member
  exact ⟨fun same => dot (by rw [same]; rfl), fun same => dots (by rw [same]; rfl)⟩

theorem joined_length {ns : List (List Char)} (each : ∀ n ∈ ns, IsName n) :
    ns.length ≤ (joinSlashes ns).length := by
  induction ns with
  | nil => exact Nat.zero_le _
  | cons n r ih =>
    rw [List.forall_mem_cons] at each
    have full : 1 ≤ n.length := List.length_pos_iff.mpr each.1.1
    have longer := ih each.2
    cases r with
    | nil => simpa [joinSlashes] using full
    | cons m s =>
      rw [joinSlashes, List.length_append, List.length_cons, @List.length_cons _ '/']
      omega

theorem spelled_length (spells : Spells p absolute ns) : ns.length ≤ p.length := by
  have longer := joined_length (spelled_chars spells)
  rw [List.length_map] at longer
  rw [← String.length_toList, spells.text, List.length_append]
  omega

theorem spelled_not_empty (spells : Spells p absolute (ns ++ [n])) : p ≠ "" := by
  rintro rfl
  have none : names "" = [] := by decide
  simpa using none.symm.trans (spelled_names spells)

theorem spelled_join {ms : List String} (base : Spells q absolute ns) (spells : Spells p false ms)
    (more : ms ≠ []) : Spells (join q p) absolute (ns ++ ms) := by
  have relative : isAbsolute p = false := spelled_absolute spells
  refine ⟨?_, fun n member => (List.mem_append.mp member).elim (base.names n) (spells.names n)⟩
  by_cases none : ns = []
  · subst none
    cases absolute with
    | true =>
      obtain rfl : q = "/" := String.toList_injective base.text
      simp [join, relative, spells.text]
    | false =>
      obtain rfl : q = "" := String.toList_injective base.text
      simp [join, spells.text]
  · have split := List.dropLast_append_getLast none ▸ base
    have some := spelled_not_empty split
    have open_end : q.toList.getLast? ≠ .some '/' := by
      simpa [endsWithSlash] using spelled_no_slash split
    rw [join, relative, if_neg (by simpa using some), if_neg open_end, List.map_append,
      join_slashes_append (by simpa using none) (by simpa using more)]
    simp [base.text, spells.text]

end Spelled

end ErrorUnion.Path
