import ErrorUnion.Command.Manifest
import ErrorUnion.Model.Document
import ErrorUnion.Proofs.Loop

/- Manifests and models are different documents. Behind the version a manifest must have its
   entries, which no model has, and both refuse fields that they do not know. -/
namespace ErrorUnion
open Json

namespace Json

section Records

variable {title expected name k : String} {strict first : Bool} {fields fs : Fields}
variable {ts r : List Token}

theorem record_read {x : FieldVals fields}
    (read : (Schema.record title strict fields).read ts = .ok (x, r)) :
    (∃ row, ts = .leftBracket :: row ∧
      readRow (lengthText title fields.length) fields 0 row = .ok (x, r)) ∨
    ∃ body, ts = .leftBrace :: body ∧
      readObject (fillField fields) strict (body.length + 1) true (Draft.empty fields) body =
        .ok (x, r) := by
  unfold Schema.read at read
  split at read
  · exact Or.inl ⟨_, rfl, read⟩
  · exact Or.inr ⟨_, rfl, read⟩
  · cases read

theorem text_read {s : String} (read : Schema.text.read ts = .ok (s, r)) :
    ts = .text (.ok s) :: r := by
  unfold Schema.read readText at read
  split at read
  · cases read
    rfl
  · cases read

theorem list_read {item : Schema} {xs : List item.Val}
    (read : (Schema.list item).read ts = .ok (xs, r)) : ∃ items, ts = .leftBracket :: items := by
  unfold Schema.read at read
  split at read
  · exact ⟨_, rfl⟩
  · cases read

theorem row_read {s : Schema} {x : FieldVals ((name, .required, s) :: fs)} {n : Nat}
    (read : readRow expected ((name, .required, s) :: fs) n ts = .ok (x, r)) :
    ∃ here behind, nextItem (n == 0) ts = .ok (some here) ∧ s.read here = .ok (x.1, behind) ∧
      readRow expected fs (n + 1) behind = .ok (x.2, r) := by
  unfold readRow at read
  obtain ⟨next, found, read⟩ := (bind_ok_iff ..).mp read
  cases next with
  | none => cases read
  | some here =>
    obtain ⟨⟨v, behind⟩, slot, read⟩ := (bind_ok_iff ..).mp read
    obtain ⟨⟨vs, rest⟩, later, read⟩ := (bind_ok_iff ..).mp read
    cases read
    exact ⟨here, behind, found, slot, later⟩

theorem object_read {fill : Fill fs} {steps : Nat} {draft : Draft fs} {x : FieldVals fs}
    (read : readObject fill true steps first draft ts = .ok (x, r)) :
    (nextKey first ts = .ok none ∧ closeDraft fs draft = .ok x) ∨
    ∃ steps here k value filled behind, nextKey first ts = .ok (some here) ∧
      readKey here = .ok (k, value) ∧ fill draft k value = some (.ok (filled, behind)) ∧
      readObject fill true steps false filled behind = .ok (x, r) := by
  cases steps with
  | zero => cases read
  | succ steps =>
    unfold readObject at read
    obtain ⟨next, found, read⟩ := (bind_ok_iff ..).mp read
    cases next with
    | none =>
      obtain ⟨vals, closed, read⟩ := (bind_ok_iff ..).mp read
      cases read
      exact Or.inl ⟨found, closed⟩
    | some here =>
      obtain ⟨⟨k, value⟩, key, read⟩ := (bind_ok_iff ..).mp read
      simp only at read
      cases out : fill draft k value with
      | none => simp [out] at read
      | some out' =>
        simp only [out] at read
        obtain ⟨⟨filled, behind⟩, done, read⟩ := (bind_ok_iff ..).mp read
        subst done
        exact Or.inr ⟨steps, here, k, value, filled, behind, found, key, out, read⟩

theorem key_known {draft : Draft fs} {out : Except Fault (Draft fs × List Token)}
    (known : fillField fs draft k ts = some out) : k ∈ fs.map (·.1) := by
  induction fs with
  | nil => cases known
  | cons f fs ih =>
    obtain ⟨name, p, s⟩ := f
    obtain ⟨slot, rest⟩ := draft
    unfold fillField at known
    by_cases here : k = name
    · exact here ▸ List.mem_cons_self
    · rw [if_neg here, Option.map_eq_some_iff] at known
      obtain ⟨later, known, -⟩ := known
      exact List.mem_cons_of_mem _ (ih known)

theorem field_read {p : Presence} {s : Schema} {draft filled : Draft ((name, p, s) :: fs)}
    {behind : List Token}
    (read : fillField ((name, p, s) :: fs) draft name ts = some (.ok (filled, behind))) :
    draft.1 = none ∧ ∃ x value, readColon ts = .ok value ∧
      readSlot s.read p value = .ok (x, behind) ∧ filled = (some x, draft.2) := by
  obtain ⟨slot, rest⟩ := draft
  unfold fillField at read
  rw [if_pos rfl] at read
  cases slot with
  | some x => simp at read
  | none =>
    rw [if_neg (by simp), Option.some.injEq] at read
    obtain ⟨value, colon, read⟩ := (bind_ok_iff ..).mp read
    obtain ⟨⟨x, after⟩, slot, read⟩ := (bind_ok_iff ..).mp read
    cases read
    exact ⟨rfl, x, value, colon, slot, rfl⟩

theorem draft_closed {s : Schema} {draft : Draft ((name, .required, s) :: fs)}
    {x : FieldVals ((name, .required, s) :: fs)}
    (closed : closeDraft ((name, .required, s) :: fs) draft = .ok x) :
    draft.1 ≠ none ∧ closeDraft fs draft.2 = .ok x.2 := by
  obtain ⟨slot, rest⟩ := draft
  cases slot with
  | none => cases closed
  | some v =>
    obtain ⟨w, -, closed⟩ := (bind_ok_iff ..).mp closed
    obtain ⟨vs, later, closed⟩ := (bind_ok_iff ..).mp closed
    cases closed
    exact ⟨nofun, later⟩

end Records

section Apart

variable {version a b expected other : String} {item : Schema} {gs : Fields}
variable {ts r r' : List Token}

theorem rows_apart {x} {y}
    (one : readRow expected [(version, .required, .text), (a, .required, .list item)] 0 ts =
      .ok (x, r))
    (two : readRow other ((version, .required, .text) :: (b, .required, .text) :: gs) 0 ts =
      .ok (y, r')) : False := by
  obtain ⟨here, behind, found, value, one⟩ := row_read one
  obtain ⟨here', behind', found', value', two⟩ := row_read two
  obtain rfl : here = here' := Option.some.inj (Except.ok.inj (found.symm.trans found'))
  obtain rfl : behind = behind' :=
    (List.cons.inj ((text_read value).symm.trans (text_read value'))).2
  obtain ⟨next, _, found, items, -⟩ := row_read one
  obtain ⟨next', _, found', word, -⟩ := row_read two
  obtain rfl : next = next' := Option.some.inj (Except.ok.inj (found.symm.trans found'))
  obtain ⟨opened, opens⟩ := list_read items
  rw [text_read word] at opens
  cases opens

/-- Two readers at the same place find the same key, and it is known to both. -/
theorem objects_agree {fs gs : Fields} {steps steps' : Nat} {first : Bool} {draft : Draft fs}
    {draft' : Draft gs} {x : FieldVals fs} {y : FieldVals gs}
    (one : readObject (fillField fs) true steps first draft ts = .ok (x, r))
    (two : readObject (fillField gs) true steps' first draft' ts = .ok (y, r')) :
    (closeDraft fs draft = .ok x ∧ closeDraft gs draft' = .ok y) ∨
    ∃ steps steps' k value filled filled' behind behind', k ∈ fs.map (·.1) ∧ k ∈ gs.map (·.1) ∧
      fillField fs draft k value = some (.ok (filled, behind)) ∧
      fillField gs draft' k value = some (.ok (filled', behind')) ∧
      readObject (fillField fs) true steps false filled behind = .ok (x, r) ∧
      readObject (fillField gs) true steps' false filled' behind' = .ok (y, r') := by
  -- Both readers are at the same token: a closing brace for both, or the same key.
  rcases object_read one with ⟨found, closed⟩ | ⟨n, here, k, value, filled, behind, found, key,
    fills, one⟩ <;>
  rcases object_read two with ⟨found', closed'⟩ | ⟨n', here', k', value', filled', behind', found',
    key', fills', two⟩
  · exact Or.inl ⟨closed, closed'⟩
  · rw [found] at found'
    cases found'
  · rw [found] at found'
    cases found'
  · obtain rfl : here = here' := Option.some.inj (Except.ok.inj (found.symm.trans found'))
    obtain ⟨rfl, rfl⟩ := Prod.mk.inj (Except.ok.inj (key.symm.trans key'))
    exact Or.inr ⟨n, n', k, value, filled, filled', behind, behind', key_known fills,
      key_known fills', fills, fills', one, two⟩

theorem objects_apart {steps steps' : Nat} {x} {y} (foreign : a ∉ gs.map (·.1))
    (one : readObject (fillField [(version, .required, .text), (a, .required, item)]) true steps
      true (Draft.empty _) ts = .ok (x, r))
    (two : readObject (fillField ((version, .required, .text) :: gs)) true steps'
      true (Draft.empty _) ts = .ok (y, r')) : False := by
  have shared : ∀ k, k ∈ [version, a] → k ∈ version :: gs.map (·.1) → k = version := by
    intro k here there
    rcases List.mem_cons.mp here with same | rest
    · exact same
    · obtain rfl := List.mem_singleton.mp rest
      exact (List.mem_cons.mp there).resolve_right foreign
  rcases objects_agree one two with ⟨closed, -⟩ | ⟨n, n', k, place, filled, filled', behind,
    behind', known, known', fills, fills', one, two⟩
  · exact (draft_closed closed).1 rfl
  · obtain rfl := shared k known known'
    obtain ⟨-, v, value, colon, text, rfl⟩ := field_read fills
    obtain ⟨-, v', value', colon', text', rfl⟩ := field_read fills'
    obtain rfl : value = value' := Except.ok.inj (colon.symm.trans colon')
    obtain rfl : behind = behind' :=
      (List.cons.inj ((text_read text).symm.trans (text_read text'))).2
    -- The second key is the version again, which is filled by now, or there is none.
    rcases objects_agree one two with ⟨closed, -⟩ | ⟨n, n', k, place, filled, filled', behind,
      behind', known, known', fills, -⟩
    · exact (draft_closed (draft_closed closed).2).1 rfl
    · obtain rfl := shared k known known'
      cases (field_read fills).1

end Apart

end Json

/-- No document is a manifest and a model. -/
theorem manifest_no_model {source : Source} {m : Manifest.schema.Val}
    (manifest : Manifest.schema.parse source = .ok m) (x : Model.schema.Val) :
    Model.schema.parse source ≠ .ok x := by
  intro model
  obtain ⟨⟨m, r⟩, manifest, -⟩ := (bind_ok_iff ..).mp manifest
  obtain ⟨⟨x, r'⟩, model, -⟩ := (bind_ok_iff ..).mp model
  rcases record_read manifest with ⟨row, opens, manifest⟩ | ⟨body, opens, manifest⟩
  · rcases record_read model with ⟨row', opens', model⟩ | ⟨body', opens', model⟩
    · rw [opens] at opens'
      cases opens'
      exact rows_apart manifest model
    · rw [opens] at opens'
      cases opens'
  · rcases record_read model with ⟨row', opens', model⟩ | ⟨body', opens', model⟩
    · rw [opens] at opens'
      cases opens'
    · rw [opens] at opens'
      cases opens'
      exact objects_apart (by decide) manifest model

end ErrorUnion
