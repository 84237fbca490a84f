import ErrorUnion.Proofs.Record.Distinct

/- Whether a structure that is refused for a duplicate member would really define a name twice. The
   rules compare the fields that members become, while builders name setters after the members
   themselves. The two differ for a word that has no raw form, and there the rules may be wrong. -/
namespace ErrorUnion
open Text Name

/-- A model is refused for this structure: those before it keep the rules, and it breaks one. -/
def Model.RefusedFor (m : Model) (s : Structure) (f : ModelFault) : Prop :=
  ∃ before after, m.structures = before ++ s :: after ∧ structuresFault? [] before = none ∧
    s.fault? (before.map Structure.name).reverse = some f

theorem refused_iff (m : Model) (digest : Option String) (f : ModelFault) :
    m.validate digest = .error f ↔ m.fault? = some f := by
  unfold Model.validate
  split
  · rename_i g fault
    rw [fault, Option.some.injEq, Except.error.injEq]
  · rename_i clean
    constructor
    · intro done
      cases done
    · intro fault
      rw [clean] at fault
      cases fault

section Operations

variable {model : Model} {f : ModelFault}

theorem references_fault_code {operation : String} {seen es : List String}
    (found : referencesFault? model operation seen es = some f) : f.code ≠ .duplicateMember := by
  induction es generalizing seen with
  | nil => cases found
  | cons e r ih =>
    rw [referencesFault?] at found
    split at found
    · cases found
      simp [ModelFault.code]
    · split_ifs at found
      · cases found
        simp [ModelFault.code]
      · cases found
        simp [ModelFault.code]
      · exact ih found

theorem operation_fault_code {o : Operation} {seen : List String}
    (found : o.fault? model seen = some f) : f.code ≠ .duplicateMember := by
  rw [Operation.fault?, Option.or_eq_some_iff, Option.map_eq_some_iff] at found
  rcases found with ⟨fault, -, rfl⟩ | ⟨-, found⟩
  · simp [ModelFault.code]
  · split_ifs at found
    · cases found
      simp [ModelFault.code]
    · exact references_fault_code found

theorem operations_fault_code {seen : List String} {os : List Operation}
    (found : operationsFault? model seen os = some f) : f.code ≠ .duplicateMember := by
  induction os generalizing seen with
  | nil => cases found
  | cons o r ih =>
    rw [operationsFault?, Option.or_eq_some_iff] at found
    rcases found with found | ⟨-, found⟩
    · exact operation_fault_code found
    · exact ih found

end Operations

section Structures

variable {s : Structure} {f : ModelFault} {seen : List String}

theorem structures_fault_found {ss : List Structure} (found : structuresFault? seen ss = some f) :
    ∃ before s after, ss = before ++ s :: after ∧ structuresFault? seen before = none ∧
      s.fault? ((before.map Structure.name).reverse ++ seen) = some f := by
  induction ss generalizing seen with
  | nil => cases found
  | cons s r ih =>
    rw [structuresFault?, Option.or_eq_some_iff] at found
    rcases found with found | ⟨clean, found⟩
    · exact ⟨[], s, r, rfl, rfl, found⟩
    · obtain ⟨before, t, after, rfl, earlier, found⟩ := ih found
      refine ⟨s :: before, t, after, rfl, ?_, by simpa using found⟩
      rw [structuresFault?, clean, Option.none_or, earlier]

theorem member_fault_found {owner : String} {ms : List Member}
    (found : memberFault? owner seen ms = some f) (code : f.code = .duplicateMember) :
    (∃ member, f = .duplicateMember owner member) ∧ ¬ FreshKeys seen (ms.map Member.field) := by
  induction ms generalizing seen with
  | nil => cases found
  | cons m r ih =>
    rw [memberFault?, Option.or_eq_some_iff, Option.map_eq_some_iff] at found
    rw [List.map_cons, fresh_keys_cons]
    rcases found with ⟨fault, -, rfl⟩ | ⟨-, found⟩
    · cases code
    · split_ifs at found with reserved taken
      · cases found
        cases code
      · cases found
        exact ⟨⟨m.name, rfl⟩, fun fresh => fresh.1 taken⟩
      · obtain ⟨named, repeated⟩ := ih found
        exact ⟨named, fun fresh => repeated fresh.2⟩

theorem least_mem {names : List String} {name : String} (found : least? names = some name) :
    name ∈ names := by
  induction names generalizing name with
  | nil => cases found
  | cons s r ih =>
    rw [least?] at found
    split at found
    · cases found
      exact List.mem_cons_self
    · rename_i t smallest
      cases found
      split
      · exact List.mem_cons_of_mem _ (ih smallest)
      · exact List.mem_cons_self

theorem clashing_field_found {field : String}
    (found : clashingField? (s.members.map Member.field) = some field) :
    ∃ a ∈ s.members, ∃ b ∈ s.members, a.field = field ∧ field = "set_" ++ b.field := by
  obtain ⟨listed, setter⟩ := List.mem_filter.mp (least_mem found)
  obtain ⟨rest, other, named⟩ := (is_setter_iff _ _).mp setter
  obtain ⟨a, ha, rfl⟩ := List.mem_map.mp listed
  obtain ⟨b, hb, rfl⟩ := List.mem_map.mp other
  exact ⟨a, ha, b, hb, rfl, named⟩

theorem duplicate_fault_cases (found : s.fault? seen = some f) (code : f.code = .duplicateMember) :
    ((∃ member, f = .duplicateMember s.name member) ∧ ¬ (s.members.map Member.field).Nodup) ∨
      s.FieldsSound ∧ ∃ field, f = .setterClash s.name field ∧
        ∃ a ∈ s.members, ∃ b ∈ s.members, a.field = field ∧ field = "set_" ++ b.field := by
  rw [Structure.fault?, Option.or_eq_some_iff, Option.map_eq_some_iff] at found
  rcases found with ⟨fault, -, rfl⟩ | ⟨-, found⟩
  · cases code
  split_ifs at found
  · cases found
    cases code
  · cases found
    cases code
  rw [Option.or_eq_some_iff, Option.or_eq_some_iff, Option.map_eq_some_iff] at found
  rcases found with found | ⟨apart, ⟨field, clash, rfl⟩ | ⟨-, found⟩⟩
  · rw [← fresh_keys_of_none_seen]
    exact Or.inl (member_fault_found found code)
  · obtain ⟨members, fields⟩ := (member_fault_none_iff _ _ _).mp apart
    refine Or.inr ⟨⟨fun m member => ?_, fun m member => (members m member).2, ?_⟩, field, rfl,
      clashing_field_found clash⟩
    · exact (member_name_fault_none_iff _).mp (members m member).1
    · exact (fresh_keys_of_none_seen _).mp fields
  · split at found
    · split_ifs at found
      cases found
      cases code
    · cases found

theorem refused_for_duplicate {m : Model} {digest : Option String}
    (refused : m.validate digest = .error f) (code : f.code = .duplicateMember) :
    ∃ s, m.RefusedFor s f := by
  have found := (refused_iff m digest f).mp refused
  unfold Model.fault? at found
  split_ifs at found
  · cases found
    cases code
  rw [Option.or_eq_some_iff, Option.map_eq_some_iff, Option.or_eq_some_iff] at found
  rcases found with ⟨fault, -, rfl⟩ | ⟨-, found | ⟨-, found⟩⟩
  · cases code
  · obtain ⟨before, s, after, split, earlier, found⟩ := structures_fault_found found
    exact ⟨s, before, after, split, earlier, by simpa using found⟩
  · exact absurd code (operations_fault_code found)

end Structures

section Clashes

variable {s : Structure}

theorem repeated_field_defined_twice (repeated : ¬ (s.members.map Member.field).Nodup)
    (name : ShapeName) : ¬ DefinesOnce (s.items name) := by
  intro once
  have fields := once s.fieldNames (by simp [record_blocks])
  exact repeated (List.Nodup.of_map _ fields)

theorem defined_twice_iff (sound : s.FieldsSound) (name : ShapeName) :
    ¬ DefinesOnce (s.items name) ↔
      ∃ a ∈ s.members, ∃ b ∈ s.members, snakeCase a.name = b.setter := by
  rw [defines_once_iff sound, Structure.SettersApart]
  push Not
  rfl

theorem setter_of_clash {a b : Member} (named : IsWord a.name) (clash : a.field = "set_" ++ b.field)
    (free : snakeCase b.name ∉ bareWords) : snakeCase a.name = b.setter := by
  have word : snakeCase a.name = "set_" ++ b.field := by
    have shown := congrArg Value.shownName clash
    rwa [shown_field named, shown_setter, plain_word_setter_iff] at shown
  have hashless : '#' ∉ b.field.toList := by
    intro member
    refine no_hash_in_snake named ?_
    rw [word, String.toList_append]
    exact List.mem_append_right _ member
  have raw : snakeCase b.name ∉ keywords := by
    intro keyword
    refine hashless ?_
    rw [Member.field, escape_keyword free keyword, String.toList_append]
    exact List.mem_append_left _ (by decide)
  rw [word, Member.setter, Member.field, escape_other free raw]

end Clashes

/-- A model that is refused for a duplicate member is refused for one of its structures, and this
structure would define a name twice exactly if a member is declared twice or is called by the setter
of another one. A clash that is reported is one of these, unless the setter belongs to a member
whose name is a word without raw form. -/
theorem duplicate_alarm_real_iff {m : Model} {digest : Option String} {f : ModelFault}
    (refused : m.validate digest = .error f) (code : f.code = .duplicateMember) :
    (∃ s, m.RefusedFor s f) ∧ ∀ s, m.RefusedFor s f → ∀ name,
      (¬ DefinesOnce (s.items name) ↔ (∃ member, f = .duplicateMember s.name member) ∨
        ∃ a ∈ s.members, ∃ b ∈ s.members, snakeCase a.name = b.setter) ∧
      ∀ field, f = .setterClash s.name field →
        ∃ a ∈ s.members, ∃ b ∈ s.members, a.field = field ∧ field = "set_" ++ b.field ∧
          (snakeCase b.name ∉ bareWords → ¬ DefinesOnce (s.items name)) := by
  refine ⟨refused_for_duplicate refused code, ?_⟩
  rintro s ⟨before, after, -, -, found⟩ name
  rcases duplicate_fault_cases found code with
    ⟨⟨member, rfl⟩, repeated⟩ | ⟨sound, field, rfl, a, ha, b, hb, shown, clash⟩
  · have twice := repeated_field_defined_twice repeated name
    refine ⟨iff_of_true twice (Or.inl ⟨member, rfl⟩), ?_⟩
    rintro field ⟨⟩
  · have real := defined_twice_iff sound name
    refine ⟨real.trans (or_iff_right (by simp)).symm, ?_⟩
    rintro _ ⟨⟩
    refine ⟨a, ha, b, hb, shown, clash, fun free => real.mpr ⟨a, ha, b, hb, ?_⟩⟩
    exact setter_of_clash (sound.memberNames a ha).1 (shown.trans clash) free

def pairRecord (first second : String) : Structure :=
  { taggedRecord with
    name := "Alarm"
    members := [⟨first, .string, none⟩, ⟨second, .string, none⟩] }

def pairModel (first second : String) : Model :=
  ⟨Model.currentVersion, "example", [], [pairRecord first second]⟩

theorem pair_refused {first second : String} {s : Structure} {f : ModelFault}
    (refused : (pairModel first second).RefusedFor s f) : s = pairRecord first second := by
  obtain ⟨before, after, split, -⟩ := refused
  have listed : s ∈ (pairModel first second).structures := split ▸ by simp
  exact List.mem_singleton.mp listed

theorem label_setter_alarm_real :
    ∃ f s, (pairModel "label" "set_label").validate none = .error f ∧
      f.code = .duplicateMember ∧ (pairModel "label" "set_label").RefusedFor s f ∧
        ¬ DefinesOnce (s.items ⟨"Alarm", "Alarm"⟩) := by
  let f : ModelFault := .setterClash "Alarm" "set_label"
  have refused : (pairModel "label" "set_label").validate none = .error f :=
    (refused_iff _ _ _).mpr (by decide +kernel)
  obtain ⟨⟨s, there⟩, all⟩ := duplicate_alarm_real_iff refused rfl
  refine ⟨f, s, refused, rfl, there, (all s there _).1.mpr (Or.inr ?_)⟩
  rw [pair_refused there]
  decide +kernel

/-- The field of `self` is `self_`, but its setter is `set_self`, so that `set_self_` is free. -/
theorem self_setter_alarm_false :
    ¬ ∀ (m : Model) (digest : Option String) (f : ModelFault), m.validate digest = .error f →
      f.code = .duplicateMember → ∀ s, m.RefusedFor s f → ∀ name,
        ¬ DefinesOnce (s.items name) := by
  intro all
  exact all (pairModel "self" "set_self_") none (.setterClash "Alarm" "set_self_")
    ((refused_iff _ _ _).mpr (by decide +kernel)) rfl _ ⟨[], [], rfl, rfl, by decide +kernel⟩
    ⟨"Alarm", "Alarm"⟩ (by decide +kernel)

end ErrorUnion
