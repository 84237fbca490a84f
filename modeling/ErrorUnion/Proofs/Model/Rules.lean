import ErrorUnion.Model.Rules
import ErrorUnion.Proofs.Loop
import ErrorUnion.Proofs.Name.Word

/- The rules of a model as conditions that name no order of checks. A model has no fault exactly if
   it keeps all of them, so that a valid model can be asked for each rule by its name. -/
namespace ErrorUnion
open Text Name

theorem is_setter_iff (fields : List String) (field : String) :
    isSetterOf fields field = true ↔ ∃ rest ∈ fields, field = "set_" ++ rest := by
  unfold isSetterOf
  split
  · rename_i rest found
    rw [after_head_iff] at found
    have whole : field = "set_" ++ String.ofList rest := by
      apply String.toList_injective
      simp only [found, String.toList_append, String.toList_ofList]
    constructor
    · intro member
      exact ⟨String.ofList rest, by simpa using member, whole⟩
    · rintro ⟨other, member, same⟩
      rw [whole, String.append_right_inj] at same
      simpa [same] using member
  · rename_i missing
    constructor
    · intro absurd
      cases absurd
    · rintro ⟨rest, -, rfl⟩
      have found := (after_head_iff "set_".toList ("set_" ++ rest).toList rest.toList).mpr
        String.toList_append
      rw [missing] at found
      cases found

theorem least_none_iff (names : List String) : least? names = none ↔ names = [] := by
  cases names with
  | nil => simp [least?]
  | cons s r => cases h : least? r <;> simp [least?, h]

theorem clashing_field_none_iff (fields : List String) :
    clashingField? fields = none ↔ ∀ a ∈ fields, ∀ b ∈ fields, a ≠ "set_" ++ b := by
  unfold clashingField?
  rw [least_none_iff, List.filter_eq_nil_iff]
  simp only [is_setter_iff, not_exists, not_and]

theorem member_fault_none_iff (owner : String) (seen : List String) (ms : List Member) :
    memberFault? owner seen ms = none ↔
      (∀ m ∈ ms, memberNameFault? m.name = none ∧ snakeCase m.name ∉ reservedFields) ∧
        FreshKeys seen (ms.map Member.field) := by
  induction ms generalizing seen with
  | nil => simp [memberFault?, fresh_keys_nil]
  | cons m r ih =>
    simp only [memberFault?, Option.or_eq_none_iff, Option.map_eq_none_iff, List.map_cons,
      fresh_keys_cons, List.mem_cons, forall_eq_or_imp]
    by_cases reserved : snakeCase m.name ∈ reservedFields
    · simp [reserved]
    · by_cases taken : m.field ∈ seen
      · simp [reserved, taken]
      · simp only [reserved, taken, if_false, ih, not_false_eq_true, and_true, true_and, and_assoc]

structure Structure.Sound (s : Structure) : Prop where
  typeName : IsTypeName s.name
  notSelf : s.name ≠ "Self"
  retry : s.retryable.isSome = true → s.isError = true
  memberNames : ∀ m ∈ s.members, IsWord m.name ∧ ∃ c ∈ m.name.toList, c ≠ '_'
  unreserved : ∀ m ∈ s.members, snakeCase m.name ∉ reservedFields
  fields : (s.members.map Member.field).Nodup
  setters : ∀ a ∈ s.members, ∀ b ∈ s.members, a.field ≠ "set_" ++ b.field
  message : ∀ m, s.messageMember? = some m → s.isError = true → m.target = .string

theorem message_rule_iff (s : Structure) :
    (match s.messageMember? with
      | some m =>
        if s.isError && m.target != .string then
          some (ModelFault.messageTarget s.name m.name m.target)
        else none
      | none => none) = none ↔
      ∀ m, s.messageMember? = some m → s.isError = true → m.target = .string := by
  cases s.messageMember? with
  | none => simp
  | some m =>
    by_cases error : s.isError = true
    · by_cases target : m.target = .string <;> simp [error, target]
    · simp [error]

theorem structure_fault_none_iff (s : Structure) (seen : List String) :
    s.fault? seen = none ↔ s.Sound ∧ s.name ∉ seen := by
  unfold Structure.fault?
  simp only [Option.or_eq_none_iff, Option.map_eq_none_iff, shape_name_fault_none_iff]
  by_cases taken : s.name ∈ seen
  · simp [taken]
  · by_cases retry : s.retryable.isSome && !s.isError
    · simp only [taken, retry, if_true, if_false, reduceCtorEq, and_false, false_iff]
      rintro ⟨sound, -⟩
      simp only [Bool.and_eq_true, Bool.not_eq_true'] at retry
      rw [sound.retry retry.1] at retry
      cases retry.2
    · simp only [taken, retry, Bool.false_eq_true, if_false, Option.or_eq_none_iff,
        Option.map_eq_none_iff, member_fault_none_iff, member_name_fault_none_iff,
        fresh_keys_of_none_seen, clashing_field_none_iff, not_false_eq_true, and_true]
      have kept : s.retryable.isSome = true → s.isError = true := by
        intro some
        simpa [some] using retry
      constructor
      · rintro ⟨⟨name, notSelf⟩, ⟨members, distinct⟩, setters, message⟩
        exact ⟨name, notSelf, kept, fun m hm => (members m hm).1, fun m hm => (members m hm).2,
          distinct, fun a ha b hb => setters _ (List.mem_map_of_mem ha) _ (List.mem_map_of_mem hb),
          (message_rule_iff s).mp message⟩
      · intro sound
        refine ⟨⟨sound.typeName, sound.notSelf⟩, ⟨?_, sound.fields⟩, ?_,
          (message_rule_iff s).mpr sound.message⟩
        · exact fun m hm => ⟨sound.memberNames m hm, sound.unreserved m hm⟩
        · intro a ha b hb
          obtain ⟨m, hm, rfl⟩ := List.mem_map.mp ha
          obtain ⟨n, hn, rfl⟩ := List.mem_map.mp hb
          exact sound.setters m hm n hn

theorem structures_fault_none_iff (seen : List String) (ss : List Structure) :
    structuresFault? seen ss = none ↔
      (∀ s ∈ ss, s.Sound) ∧ FreshKeys seen (ss.map Structure.name) := by
  induction ss generalizing seen with
  | nil => simp [structuresFault?, fresh_keys_nil]
  | cons s r ih =>
    simp only [structuresFault?, Option.or_eq_none_iff, structure_fault_none_iff, ih,
      List.mem_cons, forall_eq_or_imp, List.map_cons, fresh_keys_cons]
    exact and_and_and_comm

theorem references_fault_none_iff (model : Model) (operation : String) (seen es : List String) :
    referencesFault? model operation seen es = none ↔
      (∀ e ∈ es, ∃ s, model.structure? e = some s ∧ s.isError = true) ∧ FreshKeys seen es := by
  induction es generalizing seen with
  | nil => simp [referencesFault?, fresh_keys_nil]
  | cons e r ih =>
    simp only [referencesFault?, List.mem_cons, forall_eq_or_imp, fresh_keys_cons]
    cases found : model.structure? e with
    | none => simp
    | some s =>
      by_cases error : s.isError = true
      · by_cases taken : e ∈ seen
        · simp [error, taken]
        · simp [error, taken, ih]
      · simp [error]

structure Operation.Sound (o : Operation) (model : Model) : Prop where
  typeName : IsTypeName o.name
  notSelf : o.name ≠ "Self"
  declared : ∀ e ∈ o.errors, ∃ s, model.structure? e = some s ∧ s.isError = true
  distinct : o.errors.Nodup

theorem operation_fault_none_iff (o : Operation) (model : Model) (seen : List String) :
    o.fault? model seen = none ↔ o.Sound model ∧ o.name ∉ seen := by
  unfold Operation.fault?
  simp only [Option.or_eq_none_iff, Option.map_eq_none_iff, shape_name_fault_none_iff]
  by_cases taken : o.name ∈ seen
  · simp [taken]
  · simp only [taken, if_false, references_fault_none_iff, fresh_keys_of_none_seen,
      not_false_eq_true, and_true]
    constructor
    · rintro ⟨⟨name, notSelf⟩, declared, distinct⟩
      exact ⟨name, notSelf, declared, distinct⟩
    · intro sound
      exact ⟨⟨sound.typeName, sound.notSelf⟩, sound.declared, sound.distinct⟩

theorem operations_fault_none_iff (model : Model) (seen : List String) (os : List Operation) :
    operationsFault? model seen os = none ↔
      (∀ o ∈ os, o.Sound model) ∧ FreshKeys seen (os.map Operation.name) := by
  induction os generalizing seen with
  | nil => simp [operationsFault?, fresh_keys_nil]
  | cons o r ih =>
    simp only [operationsFault?, Option.or_eq_none_iff, operation_fault_none_iff, ih,
      List.mem_cons, forall_eq_or_imp, List.map_cons, fresh_keys_cons]
    exact and_and_and_comm

structure Model.Sound (m : Model) : Prop where
  version : trim m.schemaVersion = Model.currentVersion
  space : namespaceFault? m.namespaceName = none
  structures : ∀ s ∈ m.structures, s.Sound
  structureNames : (m.structures.map Structure.name).Nodup
  operations : ∀ o ∈ m.operations, o.Sound m
  operationNames : (m.operations.map Operation.name).Nodup

theorem model_fault_none_iff (m : Model) : m.fault? = none ↔ m.Sound := by
  unfold Model.fault?
  by_cases version : trim m.schemaVersion = Model.currentVersion
  · simp only [version, ne_eq, not_true_eq_false, if_false, Option.or_eq_none_iff,
      Option.map_eq_none_iff, structures_fault_none_iff, operations_fault_none_iff,
      fresh_keys_of_none_seen]
    constructor
    · rintro ⟨space, ⟨structures, structureNames⟩, operations, operationNames⟩
      exact ⟨version, space, structures, structureNames, operations, operationNames⟩
    · intro sound
      exact ⟨sound.space, ⟨sound.structures, sound.structureNames⟩, sound.operations,
        sound.operationNames⟩
  · simp only [version, ne_eq, not_false_eq_true, if_true, reduceCtorEq, false_iff]
    intro sound
    exact version sound.version

theorem ValidModel.sound (v : ValidModel) : v.model.Sound :=
  (model_fault_none_iff v.model).mp v.valid

theorem validate_valid (v : ValidModel) : v.model.validate v.digest = .ok v := by
  unfold Model.validate
  split
  · rename_i f fault
    rw [v.valid] at fault
    cases fault
  · rfl

theorem validated {m : Model} {digest : Option String} {v : ValidModel}
    (done : m.validate digest = .ok v) : v.model = m ∧ v.digest = digest := by
  unfold Model.validate at done
  split at done
  · cases done
  · cases done
    exact ⟨rfl, rfl⟩

theorem structure_found {m : Model} (distinct : (m.structures.map Structure.name).Nodup)
    {s : Structure} (member : s ∈ m.structures) : m.structure? s.name = some s := by
  apply find_of_unique member
  · simp
  · intro t other same
    exact List.inj_on_of_nodup_map distinct other member (by simpa using same)

theorem found_structure {m : Model} {wire : String} {s : Structure}
    (found : m.structure? wire = some s) : s ∈ m.structures ∧ s.name = wire := by
  unfold Model.structure? at found
  exact ⟨List.mem_of_find?_eq_some found, by simpa using List.find?_some found⟩

end ErrorUnion
