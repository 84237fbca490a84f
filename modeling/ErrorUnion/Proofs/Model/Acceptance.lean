import ErrorUnion.Proofs.Model.Rules
import ErrorUnion.Sample.Services

/- Which models are accepted, said without an order of checks, of declarations or of lookups. No
   condition looks at where something stands, so that what is declared side by side may be put in
   any order. -/
namespace ErrorUnion
open Text Name

/-- What a structure must be like by itself. -/
structure Structure.Acceptable (s : Structure) : Prop where
  name : IsTypeName s.name ∧ s.name ≠ "Self"
  retry : s.retryable.isSome = true → s.fault.isSome = true
  memberNames : ∀ m ∈ s.members, IsWord m.name ∧ ∃ c ∈ m.name.toList, c.isAlphanum = true
  entryPoints : ∀ m ∈ s.members, snakeCase m.name ≠ "builder" ∧ snakeCase m.name ≠ "build"
  fields : (s.members.map fun m => escapeIdent (snakeCase m.name)).Nodup
  setters : ∀ a ∈ s.members, ∀ b ∈ s.members,
    escapeIdent (snakeCase a.name) ≠ "set_" ++ escapeIdent (snakeCase b.name)
  message : s.fault.isSome = true →
    ∀ m ∈ s.members, m.name = "message" ∨ m.name = "Message" → m.target = .string

/-- What an operation must be like among the structures of its model. -/
structure Operation.Acceptable (o : Operation) (structures : List Structure) : Prop where
  name : IsTypeName o.name ∧ o.name ≠ "Self"
  errors : ∀ e ∈ o.errors, ∃ s ∈ structures, s.name = e ∧ s.fault.isSome = true
  distinct : o.errors.Nodup

structure Model.Acceptable (m : Model) : Prop where
  version : trim m.schemaVersion = "errgen.model@0.1.0"
  space : ∃ segments, segments ≠ [] ∧ (∀ segment ∈ segments, IsWord segment) ∧
    trim m.namespaceName = ".".intercalate segments
  structures : ∀ s ∈ m.structures, s.Acceptable
  structureNames : (m.structures.map Structure.name).Nodup
  operations : ∀ o ∈ m.operations, o.Acceptable m.structures
  operationNames : (m.operations.map Operation.name).Nodup

theorem namespace_fault_none_iff_words (name : String) :
    namespaceFault? name = none ↔
      ∃ segments, segments ≠ [] ∧ (∀ segment ∈ segments, IsWord segment) ∧
        trim name = ".".intercalate segments := by
  have apart : ∀ p, isWordFrom isWordStart p = true → '.' ∉ p := by
    intro p word member
    exact absurd (word_chars word_start_is_word_char word '.' member) (by decide)
  rw [namespace_fault_none_iff, all_pieces_iff apart]
  constructor
  · rintro ⟨ps, some, words, whole⟩
    refine ⟨ps.map String.ofList, by simpa using some, ?_, ?_⟩
    · simpa [IsWord] using words
    · apply String.toList_injective
      simpa [String.toList_intercalate, Function.comp_def] using whole
  · rintro ⟨segments, some, words, whole⟩
    refine ⟨segments.map String.toList, by simpa using some, ?_, ?_⟩
    · simpa [IsWord] using words
    · simpa [String.toList_intercalate] using congrArg String.toList whole

theorem word_char_not_line_iff {c : Char} (char : isWordChar c = true) :
    c ≠ '_' ↔ c.isAlphanum = true := by
  constructor
  · intro other
    simpa [isWordChar, other] using char
  · rintro alnum rfl
    exact absurd alnum (by decide)

theorem letter_or_digit_iff {name : String} (word : IsWord name) :
    (∃ c ∈ name.toList, c ≠ '_') ↔ ∃ c ∈ name.toList, c.isAlphanum = true := by
  have chars := word_chars word_start_is_word_char word
  refine exists_congr fun c => and_congr_right fun member => ?_
  exact word_char_not_line_iff (chars c member)

theorem message_member_iff {s : Structure} (fields : (s.members.map Member.field).Nodup)
    (m : Member) :
    s.messageMember? = some m ↔ m ∈ s.members ∧ (m.name = "message" ∨ m.name = "Message") := by
  have field : ∀ {m : Member}, m.name = "message" ∨ m.name = "Message" → m.field = "message" := by
    rintro m (named | named) <;> rw [Member.field, named] <;> decide
  constructor
  · intro found
    exact ⟨List.mem_of_find?_eq_some found, by simpa using List.find?_some found⟩
  · rintro ⟨member, named⟩
    refine find_of_unique member (by simpa using named) fun n other hit => ?_
    refine List.inj_on_of_nodup_map fields other member ?_
    rw [field named, field (by simpa using hit)]

theorem structure_sound_iff (s : Structure) : s.Sound ↔ s.Acceptable := by
  constructor
  · intro sound
    refine ⟨⟨sound.typeName, sound.notSelf⟩, sound.retry, ?_, ?_, sound.fields, sound.setters, ?_⟩
    · intro m member
      have named := sound.memberNames m member
      exact ⟨named.1, (letter_or_digit_iff named.1).mp named.2⟩
    · intro m member
      simpa [reservedFields] using sound.unreserved m member
    · intro error m member named
      exact sound.message m ((message_member_iff sound.fields m).mpr ⟨member, named⟩) error
  · intro fine
    refine ⟨fine.name.1, fine.name.2, fine.retry, ?_, ?_, fine.fields, fine.setters, ?_⟩
    · intro m member
      have named := fine.memberNames m member
      exact ⟨named.1, (letter_or_digit_iff named.1).mpr named.2⟩
    · intro m member
      simpa [reservedFields] using fine.entryPoints m member
    · intro m found error
      obtain ⟨member, named⟩ := (message_member_iff fine.fields m).mp found
      exact fine.message error m member named

theorem declared_error_iff {m : Model} (distinct : (m.structures.map Structure.name).Nodup)
    (e : String) :
    (∃ s, m.structure? e = some s ∧ s.isError = true) ↔
      ∃ s ∈ m.structures, s.name = e ∧ s.fault.isSome = true := by
  constructor
  · rintro ⟨s, found, error⟩
    obtain ⟨member, named⟩ := found_structure found
    exact ⟨s, member, named, error⟩
  · rintro ⟨s, member, rfl, error⟩
    exact ⟨s, structure_found distinct member, error⟩

theorem operation_sound_iff {m : Model} (distinct : (m.structures.map Structure.name).Nodup)
    (o : Operation) : o.Sound m ↔ o.Acceptable m.structures := by
  constructor
  · intro sound
    refine ⟨⟨sound.typeName, sound.notSelf⟩, fun e listed => ?_, sound.distinct⟩
    exact (declared_error_iff distinct e).mp (sound.declared e listed)
  · intro fine
    refine ⟨fine.name.1, fine.name.2, fun e listed => ?_, fine.distinct⟩
    exact (declared_error_iff distinct e).mpr (fine.errors e listed)

theorem model_sound_iff (m : Model) : m.Sound ↔ m.Acceptable := by
  constructor
  · intro sound
    refine ⟨sound.version, (namespace_fault_none_iff_words _).mp sound.space, ?_,
      sound.structureNames, ?_, sound.operationNames⟩
    · exact fun s declared => (structure_sound_iff s).mp (sound.structures s declared)
    · intro o declared
      exact (operation_sound_iff sound.structureNames o).mp (sound.operations o declared)
  · intro fine
    refine ⟨fine.version, (namespace_fault_none_iff_words _).mpr fine.space, ?_,
      fine.structureNames, ?_, fine.operationNames⟩
    · exact fun s declared => (structure_sound_iff s).mpr (fine.structures s declared)
    · intro o declared
      exact (operation_sound_iff fine.structureNames o).mpr (fine.operations o declared)

/-- Two lists of the same things up to `R`, in any order. -/
def Rearranged (R : α → α → Prop) (xs zs : List α) : Prop :=
  ∃ ys, xs.Perm ys ∧ List.Forall₂ R ys zs

section Rearranged
variable {R : α → α → Prop} {xs zs : List α}

theorem Rearranged.all_iff {P Q : α → Prop} (same : Rearranged R xs zs)
    (each : ∀ x z, R x z → (P x ↔ Q z)) : (∀ x ∈ xs, P x) ↔ ∀ z ∈ zs, Q z := by
  obtain ⟨ys, perm, pairs⟩ := same
  simp only [perm.mem_iff]
  clear perm
  induction pairs with
  | nil => simp
  | cons pair _ ih => simp only [List.mem_cons, forall_eq_or_imp, each _ _ pair, ih]

theorem Rearranged.map_perm {f : α → β} (same : Rearranged R xs zs)
    (each : ∀ x z, R x z → f x = f z) : (xs.map f).Perm (zs.map f) := by
  obtain ⟨ys, perm, pairs⟩ := same
  have mapped : ys.map f = zs.map f := by
    clear perm
    induction pairs with
    | nil => rfl
    | cons pair _ ih => rw [List.map_cons, List.map_cons, each _ _ pair, ih]
  exact mapped ▸ perm.map f

end Rearranged

def Structure.SameUpToOrder (s t : Structure) : Prop :=
  s.members.Perm t.members ∧ t = { s with members := t.members }

def Operation.SameUpToOrder (o p : Operation) : Prop :=
  o.errors.Perm p.errors ∧ p = { o with errors := p.errors }

/-- The same declarations in any order, with whatever they list in any order too. -/
structure Model.SameUpToOrder (m n : Model) : Prop where
  version : m.schemaVersion = n.schemaVersion
  space : m.namespaceName = n.namespaceName
  structures : Rearranged Structure.SameUpToOrder m.structures n.structures
  operations : Rearranged Operation.SameUpToOrder m.operations n.operations

theorem structure_same_name {s t : Structure} (same : s.SameUpToOrder t) :
    s.name = t.name ∧ s.fault = t.fault := by
  rw [same.2]
  exact ⟨rfl, rfl⟩

theorem structure_acceptable_congr {s t : Structure} (same : s.SameUpToOrder t) :
    s.Acceptable ↔ t.Acceptable := by
  obtain ⟨perm, rest⟩ := same
  have fields := (perm.map fun m => escapeIdent (snakeCase m.name)).nodup_iff
  rw [rest]
  constructor
  · rintro ⟨name, retry, memberNames, entryPoints, distinct, setters, message⟩
    simp only [perm.mem_iff] at memberNames entryPoints setters message
    exact ⟨name, retry, memberNames, entryPoints, fields.mp distinct, setters, message⟩
  · rintro ⟨name, retry, memberNames, entryPoints, distinct, setters, message⟩
    simp only [← perm.mem_iff] at memberNames entryPoints setters message
    exact ⟨name, retry, memberNames, entryPoints, fields.mpr distinct, setters, message⟩

theorem errors_declared_congr {ss ts : List Structure}
    (same : Rearranged Structure.SameUpToOrder ss ts) (e : String) :
    (∃ s ∈ ss, s.name = e ∧ s.fault.isSome = true) ↔
      ∃ t ∈ ts, t.name = e ∧ t.fault.isSome = true := by
  have none : (∀ s ∈ ss, ¬ (s.name = e ∧ s.fault.isSome = true)) ↔
      ∀ t ∈ ts, ¬ (t.name = e ∧ t.fault.isSome = true) := by
    refine same.all_iff fun s t pair => ?_
    rw [(structure_same_name pair).1, (structure_same_name pair).2]
  have some := not_congr none
  push Not at some
  exact some

theorem operation_acceptable_congr {o p : Operation} {ss ts : List Structure}
    (same : o.SameUpToOrder p) (structures : Rearranged Structure.SameUpToOrder ss ts) :
    o.Acceptable ss ↔ p.Acceptable ts := by
  obtain ⟨perm, rest⟩ := same
  rw [rest]
  constructor
  · rintro ⟨name, errors, distinct⟩
    refine ⟨name, fun e listed => ?_, perm.nodup_iff.mp distinct⟩
    exact (errors_declared_congr structures e).mp (errors e (perm.mem_iff.mpr listed))
  · rintro ⟨name, errors, distinct⟩
    refine ⟨name, fun e listed => ?_, perm.nodup_iff.mpr distinct⟩
    exact (errors_declared_congr structures e).mpr (errors e (perm.mem_iff.mp listed))

theorem model_acceptable_congr {m n : Model} (same : m.SameUpToOrder n) :
    m.Acceptable ↔ n.Acceptable := by
  have structures := same.structures.all_iff fun s t => structure_acceptable_congr (s := s) (t := t)
  have operations := same.operations.all_iff fun o p pair =>
    operation_acceptable_congr pair same.structures
  have structureNames :=
    (same.structures.map_perm fun s t pair => (structure_same_name pair).1).nodup_iff
  have operationNames := (same.operations.map_perm (f := Operation.name)
    fun o p pair => by rw [pair.2]).nodup_iff
  constructor
  · rintro ⟨version, space, ss, sNames, os, oNames⟩
    exact ⟨same.version ▸ version, same.space ▸ space, structures.mp ss, structureNames.mp sNames,
      operations.mp os, operationNames.mp oNames⟩
  · rintro ⟨version, space, ss, sNames, os, oNames⟩
    exact ⟨same.version ▸ version, same.space ▸ space, structures.mpr ss,
      structureNames.mpr sNames, operations.mpr os, operationNames.mpr oNames⟩

theorem validate_ok_iff (m : Model) (digest : Option String) :
    (∃ v, m.validate digest = .ok v) ↔ m.Acceptable := by
  rw [← model_sound_iff, ← model_fault_none_iff]
  constructor
  · rintro ⟨v, done⟩
    rw [← (validated done).1]
    exact v.valid
  · intro sound
    exact ⟨_, validate_valid ⟨m, digest, sound⟩⟩

/-- A model is accepted, and then as it is, exactly if it keeps conditions that look neither at the
order of declarations nor at what stands first. So any order of the structures, the operations, the
members and the listed errors is accepted as well as any other. -/
theorem accepted_in_any_order (m : Model) (digest : Option String) :
    ((∃ v, m.validate digest = .ok v) ↔ m.Acceptable) ∧
      (∀ v, m.validate digest = .ok v → v.model = m ∧ v.digest = digest) ∧
      ∀ n, m.SameUpToOrder n →
        ((∃ v, m.validate digest = .ok v) ↔ ∃ w, n.validate digest = .ok w) := by
  refine ⟨validate_ok_iff m digest, fun _ => validated, ?_⟩
  intro n same
  rw [validate_ok_iff, validate_ok_iff, model_acceptable_congr same]

def Model.turned (m : Model) : Model :=
  { m with
    structures := (m.structures.map fun s => { s with members := s.members.reverse }).reverse
    operations := (m.operations.map fun o => { o with errors := o.errors.reverse }).reverse }

theorem same_turned (m : Model) : m.SameUpToOrder m.turned := by
  refine ⟨rfl, rfl, ⟨m.structures.reverse, (List.reverse_perm _).symm, ?_⟩,
    ⟨m.operations.reverse, (List.reverse_perm _).symm, ?_⟩⟩
  · rw [Model.turned, List.forall₂_reverse_iff, List.forall₂_map_right_iff, List.forall₂_same]
    exact fun s _ => ⟨(List.reverse_perm _).symm, rfl⟩
  · rw [Model.turned, List.forall₂_reverse_iff, List.forall₂_map_right_iff, List.forall₂_same]
    exact fun o _ => ⟨(List.reverse_perm _).symm, rfl⟩

theorem turned_weather_accepted :
    Sample.weatherModel.SameUpToOrder Sample.weatherModel.turned ∧
      ∃ v, Sample.weatherModel.turned.validate none = .ok v := by
  have accepted := accepted_in_any_order Sample.weatherModel none
  have weather : ∃ v, Sample.weatherModel.validate none = .ok v :=
    (validate_ok_iff _ none).mpr ((model_sound_iff _).mp Sample.weather.model.sound)
  exact ⟨same_turned _, (accepted.2.2 _ (same_turned _)).mp weather⟩

end ErrorUnion
