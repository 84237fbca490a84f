import Mathlib.Data.List.Nodup
import ErrorUnion.Json.Reader
import ErrorUnion.Json.Writer
import ErrorUnion.Proofs.Json.Token

/- What is written for a value of a schema is read as that value, whatever follows it. This holds of
   every schema whose records and choices have no name twice. -/
namespace ErrorUnion.Json

def Schema.ReadsBack (s : Schema) : Prop :=
  ∀ (x : s.Val) (rest : List Token), s.read ((s.write x).tokens ++ rest) = .ok (x, rest)

mutual

/-- No record has two fields of one name, and no choice has one tag twice. -/
def Schema.isUnambiguous : Schema → Bool
  | .text => true
  | .flag => true
  | .tag first others => decide (first :: others).Nodup
  | .list item => item.isUnambiguous
  | .record _ _ fields => decide (fields.map Prod.fst).Nodup && areUnambiguous fields

def areUnambiguous : List (String × Presence × Schema) → Bool
  | [] => true
  | (_, _, s) :: fs => s.isUnambiguous && areUnambiguous fs

end

def Token.isOpening : Token → Bool
  | .flag _ | .text _ | .leftBracket | .leftBrace => true
  | _ => false

theorem written_opens (s : Schema) (x : s.Val) :
    ∃ t ts, (s.write x).tokens = t :: ts ∧ t.isOpening = true := by
  cases s with
  | text => exact ⟨_, _, rfl, rfl⟩
  | flag => exact ⟨_, _, rfl, rfl⟩
  | tag first others => exact ⟨_, _, rfl, rfl⟩
  | list item => exact ⟨_, _, rfl, rfl⟩
  | record title strict fields => exact ⟨_, _, rfl, rfl⟩

theorem tag_found {first : String} {others : List String} (distinct : (first :: others).Nodup)
    (i : Fin (others.length + 1)) :
    pickTag first others (tagName first others i.val) = .ok i := by
  have named : tagName first others i.val = (first :: others)[i] := by
    rw [tagName, List.getElem?_eq_getElem i.isLt]
    rfl
  have found : tagIndex? (first :: others) (tagName first others i.val) = some i := by
    rw [tagIndex?, List.finIdxOf?_eq_some_iff, named]
    refine ⟨rfl, fun j earlier same => ?_⟩
    exact absurd (Fin.ext ((distinct.getElem_inj_iff).mp same)) (Fin.ne_of_lt earlier)
  simp only [pickTag, found]

theorem tag_reads_back {first : String} {others : List String}
    (distinct : (first :: others).Nodup) : (Schema.tag first others).ReadsBack := by
  intro i rest
  simp only [Schema.write, Tree.tokens, List.cons_append, List.nil_append, Schema.read, readTag,
    tag_found distinct]
  rfl

theorem next_item_found (first : Bool) {t : Token} (opens : t.isOpening = true) (ts : List Token) :
    nextItem first (separator first ++ t :: ts) = .ok (some (t :: ts)) := by
  cases first <;> cases t <;> first | rfl | cases opens

theorem items_read_back {item : Schema} (reads : item.ReadsBack) (rest : List Token) (steps : Nat)
    (first : Bool) (xs : List item.Val) (enough : xs.length < steps) :
    readItems item.read steps first (itemTokens first (xs.map item.write) ++ rest) =
      .ok (xs, rest) := by
  induction xs generalizing steps first with
  | nil =>
    obtain ⟨steps, rfl⟩ := Nat.exists_eq_add_of_lt enough
    rfl
  | cons x r ih =>
    obtain ⟨steps, rfl⟩ : ∃ n, steps = n + 1 := ⟨steps - 1, by omega⟩
    have later := ih steps false (by simpa using enough)
    obtain ⟨t, ts, tokens, opens⟩ := written_opens item x
    have value := reads x (itemTokens false (r.map item.write) ++ rest)
    rw [tokens, List.cons_append] at value
    simp only [List.map_cons, itemTokens, tokens, List.append_assoc, List.cons_append, readItems,
      next_item_found first opens, bind, Except.bind, value, later]

theorem items_counted (first : Bool) (items : List Tree) :
    items.length < (itemTokens first items).length := by
  induction items generalizing first with
  | nil => simp [itemTokens]
  | cons t r ih =>
    have later := ih false
    have some : 0 < t.tokens.length := by cases t <;> simp [Tree.tokens]
    simp only [itemTokens, List.length_cons, List.length_append]
    omega

theorem list_reads_back {item : Schema} (reads : item.ReadsBack) :
    (Schema.list item).ReadsBack := by
  intro xs rest
  -- Each item has a token, so there are as many steps as the reader needs.
  have counted := items_counted true (xs.map item.write)
  simp only [Schema.write, Tree.tokens, List.cons_append, Schema.read]
  apply items_read_back reads
  simp at counted ⊢
  omega

theorem read_or_null_opening {α : Type} (read : Reader α) {t : Token} (opens : t.isOpening = true)
    (ts : List Token) :
    readOrNull read (t :: ts) = (do let (x, r) ← read (t :: ts); .ok (some x, r)) := by
  cases t <;> first | rfl | cases opens

theorem or_null_reads_back {s : Schema} (reads : s.ReadsBack) (x : s.Val) (rest : List Token) :
    readOrNull s.read ((s.write x).tokens ++ rest) = .ok (some x, rest) := by
  have value := reads x rest
  obtain ⟨t, ts, tokens, opens⟩ := written_opens s x
  rw [tokens, List.cons_append] at value ⊢
  rw [read_or_null_opening _ opens, value]
  rfl

theorem slot_reads_back {s : Schema} (reads : s.ReadsBack) {p : Presence} {x : p.Slot s.Val}
    {t : Tree} (written : p.write s.write x = some t) (rest : List Token) :
    readSlot s.read p (t.tokens ++ rest) = .ok (x, rest) := by
  cases p with
  | required => cases written; exact reads x rest
  | lenient => cases written; exact reads x rest
  | nullable =>
    cases x with
    | none => cases written; rfl
    | some a => cases written; exact or_null_reads_back reads a rest
  | optional =>
    cases x with
    | none => cases written
    | some a => cases written; exact or_null_reads_back reads a rest

theorem omitted_slot {s : Schema} {p : Presence} {x : p.Slot s.Val}
    (omitted : p.write s.write x = none) (name : String) : absent name s.blank p = .ok x := by
  cases p with
  | required => cases omitted
  | lenient => cases omitted
  | nullable => cases x <;> cases omitted
  | optional =>
    cases x with
    | none => rfl
    | some a => cases omitted

/-- A draft in which the fields that are written have been filled. -/
def Draft.written : (fs : Fields) → FieldVals fs → Draft fs
  | [], _ => ()
  | (_, p, s) :: fs, (x, rest) => ((p.write s.write x).map fun _ => x, Draft.written fs rest)

theorem written_closes (fs : Fields) (x : FieldVals fs) :
    closeDraft fs (Draft.written fs x) = .ok x := by
  induction fs with
  | nil => rfl
  | cons f fs ih =>
    obtain ⟨name, p, s⟩ := f
    obtain ⟨y, r⟩ := x
    cases written : p.write s.write y with
    | none => simp [closeDraft, Draft.written, written, omitted_slot written, ih, bind, Except.bind]
    | some t => simp [closeDraft, Draft.written, written, ih, bind, Except.bind]

/-- Some of a record's fields inside all of them: the others stay as they are while a named one is
filled. -/
def Inside (fs gs : Fields) (put : Draft gs → Draft fs) : Prop :=
  ∀ draft name ts, name ∈ gs.map Prod.fst →
    fillField fs (put draft) name ts =
      (fillField gs draft name ts).map fun out => out.map fun (d, ts) => (put d, ts)

theorem inside_self (fs : Fields) : Inside fs fs fun draft => draft := by
  intro draft name ts _
  dsimp only
  cases fillField fs draft name ts with
  | none => rfl
  | some out => cases out <;> rfl

theorem inside_tail {fs gs : Fields} {name : String} {p : Presence} {s : Schema}
    {put : Draft ((name, p, s) :: gs) → Draft fs} (inside : Inside fs ((name, p, s) :: gs) put)
    (fresh : name ∉ gs.map Prod.fst) (slot : Option (p.Slot s.Val)) :
    Inside fs gs fun draft => put (slot, draft) := by
  intro draft k ts listed
  have other : k ≠ name := by
    rintro rfl
    exact fresh listed
  rw [inside (slot, draft) k ts (List.mem_cons_of_mem _ listed), fillField, if_neg other]
  cases fillField gs draft k ts with
  | none => rfl
  | some out => cases out <;> rfl

theorem field_filled {fs gs : Fields} {name : String} {p : Presence} {s : Schema}
    {put : Draft ((name, p, s) :: gs) → Draft fs} (inside : Inside fs ((name, p, s) :: gs) put)
    (reads : s.ReadsBack) {x : p.Slot s.Val} {t : Tree} (written : p.write s.write x = some t)
    (draft : Draft gs) (rest : List Token) :
    fillField fs (put (none, draft)) name (.colon :: (t.tokens ++ rest)) =
      some (.ok (put (some x, draft), rest)) := by
  rw [inside (none, draft) name _ List.mem_cons_self, fillField, if_pos rfl]
  simp only [Option.isSome_none, Bool.false_eq_true, if_false, readColon, bind, Except.bind,
    slot_reads_back reads written, Option.map_some, Except.map]

theorem next_key_found (first : Bool) (name : String) (ts : List Token) :
    nextKey first (separator first ++ .text (.ok name) :: ts) =
      .ok (some (.text (.ok name) :: ts)) := by
  cases first <;> rfl

theorem object_reads_back {fs gs : Fields} {put : Draft gs → Draft fs} (inside : Inside fs gs put)
    (distinct : (gs.map Prod.fst).Nodup) (each : ∀ f ∈ gs, f.2.2.ReadsBack) (strict : Bool)
    (x : FieldVals gs) (steps : Nat) (first : Bool) (enough : (writeFields gs x).length < steps)
    (rest : List Token) :
    readObject (fillField fs) strict steps first (put (Draft.empty gs))
        (fieldTokens first (writeFields gs x) ++ rest) =
      (closeDraft fs (put (Draft.written gs x))).map fun y => (y, rest) := by
  -- On the fields still to come, `gs`; in `put` are the slots of those that came before.
  induction gs generalizing steps first with
  | nil =>
    obtain ⟨steps, rfl⟩ : ∃ n, steps = n + 1 := ⟨steps - 1, by omega⟩
    simp only [writeFields, fieldTokens, List.cons_append, List.nil_append, readObject, nextKey,
      bind, Except.bind, Draft.empty, Draft.written]
    cases closeDraft fs (put ()) <;> rfl
  | cons f gs ih =>
    obtain ⟨name, p, s⟩ := f
    obtain ⟨y, r⟩ := x
    rw [List.map_cons, List.nodup_cons] at distinct
    rw [List.forall_mem_cons] at each
    cases written : p.write s.write y with
    | none =>
      -- The field was left out: its slot stays empty, and no step is taken.
      simp only [writeFields, written] at enough ⊢
      simp only [Draft.written, written, Option.map_none]
      exact ih (inside_tail inside distinct.1 none) distinct.2 each.2 r steps first enough
    | some t =>
      simp only [writeFields, written, List.length_cons] at enough ⊢
      obtain ⟨steps, rfl⟩ : ∃ n, steps = n + 1 := ⟨steps - 1, by omega⟩
      have later := ih (inside_tail inside distinct.1 (some y)) distinct.2 each.2 r steps false
        (by omega)
      simp only [fieldTokens, List.append_assoc, List.cons_append, readObject,
        next_key_found, readKey, bind, Except.bind, Draft.empty,
        field_filled inside each.1 written, Draft.written, written, Option.map_some]
      exact later

theorem fields_counted (first : Bool) (fields : List (String × Tree)) :
    fields.length < (fieldTokens first fields).length := by
  induction fields generalizing first with
  | nil => simp [fieldTokens]
  | cons f r ih =>
    have later := ih false
    simp only [fieldTokens, List.length_cons, List.length_append]
    omega

theorem record_reads_back {title : String} {strict : Bool} {fields : Fields}
    (distinct : (fields.map Prod.fst).Nodup) (each : ∀ f ∈ fields, f.2.2.ReadsBack) :
    (Schema.record title strict fields).ReadsBack := by
  intro x rest
  have counted := fields_counted true (writeFields fields x)
  have read := object_reads_back (inside_self fields) distinct each strict x
    ((fieldTokens true (writeFields fields x) ++ rest).length + 1) true
    (by rw [List.length_append]; omega) rest
  rw [written_closes] at read
  simp only [Schema.write, Tree.tokens, List.cons_append, Schema.read]
  exact read

mutual

theorem schema_reads_back : ∀ s : Schema, s.isUnambiguous = true → s.ReadsBack
  | .text, _ => fun _ _ => rfl
  | .flag, _ => fun _ _ => rfl
  | .tag _ _, clear => tag_reads_back (of_decide_eq_true clear)
  | .list item, clear => list_reads_back (schema_reads_back item clear)
  | .record _ _ fields, clear => by
    simp only [Schema.isUnambiguous, Bool.and_eq_true, decide_eq_true_eq] at clear
    exact record_reads_back clear.1 (fields_read_back fields clear.2)

theorem fields_read_back : ∀ fs : List (String × Presence × Schema), areUnambiguous fs = true →
    ∀ f ∈ fs, f.2.2.ReadsBack
  | [], _ => by simp
  | (_, _, s) :: fs, clear => by
    simp only [areUnambiguous, Bool.and_eq_true] at clear
    rw [List.forall_mem_cons]
    exact ⟨schema_reads_back s clear.1, fields_read_back fs clear.2⟩

end

theorem written_parses {s : Schema} (clear : s.isUnambiguous = true) (x : s.Val)
    (layout : Layout) : s.parseString ((s.write x).written layout) = .ok x := by
  have read := schema_reads_back s clear x []
  rw [List.append_nil] at read
  simp only [Schema.parseString, Schema.parse, tokens_of_written, read]
  rfl

end ErrorUnion.Json
