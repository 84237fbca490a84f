import ErrorUnion.Proofs.Model.Rules
import ErrorUnion.Proofs.Name.Escape

/- When all names of a model can be resolved, and to what. The two loops of the resolver keep the
   names given so far; what they ask of each new one adds up to conditions on the whole model. -/
namespace ErrorUnion
open Text Name

def SymbolProvider.structureName (p : SymbolProvider) (s : Structure) : ShapeName :=
  ⟨s.name, p.structureIdent s⟩

def SymbolProvider.operationName (p : SymbolProvider) (o : Operation) : ShapeName :=
  ⟨o.name, p.operationIdent o⟩

def ShapeName.unionName (n : ShapeName) : String := n.ident ++ combinedSuffix

theorem ident_owner_none_iff (taken : List ShapeName) (ident : String) :
    identOwner? taken ident = none ↔ ident ∉ taken.map ShapeName.ident := by
  simp [identOwner?, List.find?_eq_none]

theorem module_owner_none_iff (taken : List ShapeName) (name : String) :
    moduleOwner? taken name = none ↔ name ∉ taken.map ShapeName.builderModule := by
  simp [moduleOwner?, List.find?_eq_none]

theorem type_owner_none_iff (structures operations : List ShapeName) (name : String) :
    typeOwner? structures operations name = none ↔
      name ∉ structures.map ShapeName.ident ∧ name ∉ operations.map ShapeName.unionName := by
  simp [typeOwner?, ident_owner_none_iff, List.find?_eq_none, ShapeName.unionName]

structure NameAllowed (root : String) (s : Structure) (name : ShapeName) : Prop where
  variant : s.isError = true → name.ident ∉ reservedVariants
  crates : name.builderModule ∉ reservedModules
  root : name.builderModule ≠ root

theorem structure_name_fault_none_iff (root : String) (taken : List ShapeName) (s : Structure)
    (name : ShapeName) :
    structureNameFault? root taken s name = none ↔
      NameAllowed root s name ∧ name.ident ∉ taken.map ShapeName.ident ∧
        name.builderModule ∉ taken.map ShapeName.builderModule := by
  unfold structureNameFault?
  by_cases reserved : s.isError && name.ident ∈ reservedVariants
  · simp only [reserved, if_true, reduceCtorEq, false_iff]
    rintro ⟨allowed, -⟩
    simp only [Bool.and_eq_true, decide_eq_true_eq] at reserved
    exact allowed.variant reserved.1 reserved.2
  · have variant : s.isError = true → name.ident ∉ reservedVariants := by
      intro error member
      exact reserved (by simp [error, member])
    simp only [reserved, Bool.false_eq_true, if_false, ← ident_owner_none_iff]
    cases owner : identOwner? taken name.ident with
    | some prev => simp
    | none =>
      by_cases hides : name.builderModule ∈ reservedModules || name.builderModule = root
      · simp only [hides, if_true, reduceCtorEq, false_iff]
        rintro ⟨allowed, -⟩
        simp only [Bool.or_eq_true, decide_eq_true_eq] at hides
        rcases hides with crate | path
        · exact allowed.crates crate
        · exact allowed.root path
      · simp only [hides, Bool.false_eq_true, if_false, Option.map_eq_none_iff,
          module_owner_none_iff, true_and]
        simp only [Bool.or_eq_true, decide_eq_true_eq, not_or] at hides
        exact ⟨fun fresh => ⟨⟨variant, hides.1, hides.2⟩, fresh⟩, fun all => all.2⟩

theorem name_structures_ok_iff (provider : SymbolProvider) (root : String)
    (taken names : List ShapeName) (ss : List Structure) :
    nameStructures provider root taken ss = .ok names ↔
      names = (ss.map provider.structureName).reverse ++ taken ∧
        (∀ s ∈ ss, NameAllowed root s (provider.structureName s)) ∧
        FreshKeys (taken.map ShapeName.ident)
          (ss.map fun s => (provider.structureName s).ident) ∧
        FreshKeys (taken.map ShapeName.builderModule)
          (ss.map fun s => (provider.structureName s).builderModule) := by
  induction ss generalizing taken with
  | nil => simp [nameStructures, fresh_keys_nil, eq_comm]
  | cons s r ih =>
    have named : (⟨s.name, provider.structureIdent s⟩ : ShapeName) = provider.structureName s := rfl
    simp only [nameStructures, named, List.map_cons, fresh_keys_cons, List.mem_cons,
      forall_eq_or_imp]
    cases fault : structureNameFault? root taken s (provider.structureName s) with
    | some f =>
      simp only [reduceCtorEq, false_iff]
      rintro ⟨-, ⟨allowed, -⟩, ⟨ident, -⟩, module, -⟩
      have none := (structure_name_fault_none_iff root taken s _).mpr ⟨allowed, ident, module⟩
      rw [fault] at none
      cases none
    | none =>
      obtain ⟨allowed, ident, module⟩ := (structure_name_fault_none_iff root taken s _).mp fault
      simp only [ih, List.map_cons, allowed, ident, module, not_false_eq_true, true_and,
        List.reverse_cons, List.append_assoc, List.cons_append, List.nil_append]

theorem name_operations_ok_iff (provider : SymbolProvider) (structures taken names : List ShapeName)
    (os : List Operation) :
    nameOperations provider structures taken os = .ok names ↔
      names = (os.map provider.operationName).reverse ++ taken ∧
        FreshKeys (taken.map ShapeName.unionName)
          (os.map fun o => (provider.operationName o).unionName) ∧
        ∀ o ∈ os, (provider.operationName o).unionName ∉ structures.map ShapeName.ident := by
  induction os generalizing taken with
  | nil => simp [nameOperations, fresh_keys_nil, eq_comm]
  | cons o r ih =>
    have named : (⟨o.name, provider.operationIdent o⟩ : ShapeName) = provider.operationName o := rfl
    have union : provider.operationIdent o ++ combinedSuffix =
      (provider.operationName o).unionName := rfl
    simp only [nameOperations, named, union, List.map_cons, fresh_keys_cons, List.mem_cons,
      forall_eq_or_imp]
    cases owner : typeOwner? structures taken (provider.operationName o).unionName with
    | some prev =>
      simp only [reduceCtorEq, false_iff]
      rintro ⟨-, ⟨operation, -⟩, structure_, -⟩
      have none := (type_owner_none_iff structures taken _).mpr ⟨structure_, operation⟩
      rw [owner] at none
      cases none
    | none =>
      obtain ⟨structure_, operation⟩ := (type_owner_none_iff structures taken _).mp owner
      simp only [ih, List.map_cons, structure_, operation, not_false_eq_true, true_and,
        List.reverse_cons, List.append_assoc, List.cons_append, List.nil_append]

def SymbolProvider.unionAndRecordNames (p : SymbolProvider) (m : Model) : List String :=
  (m.structures.map fun s => (p.structureName s).ident)
    ++ m.operations.map fun o => (p.operationName o).unionName

/-- A model whose names do not get in each other's way. -/
structure Model.Resolvable (m : Model) (p : SymbolProvider) (runtime : String) : Prop where
  allowed : ∀ s ∈ m.structures, NameAllowed (pathRoot runtime) s (p.structureName s)
  types : (p.unionAndRecordNames m).Nodup
  modules : (m.structures.map fun s => (p.structureName s).builderModule).Nodup

def SymbolProvider.names (p : SymbolProvider) (m : Model) : Names :=
  ⟨(m.structures.map p.structureName).reverse, (m.operations.map p.operationName).reverse⟩

theorem types_nodup_iff (p : SymbolProvider) (m : Model) :
    (p.unionAndRecordNames m).Nodup ↔
      (m.structures.map fun s => (p.structureName s).ident).Nodup ∧
        (m.operations.map fun o => (p.operationName o).unionName).Nodup ∧
        ∀ o ∈ m.operations,
          (p.operationName o).unionName ∉ (p.names m).structures.map ShapeName.ident := by
  have named : ∀ name, name ∈ (p.names m).structures.map ShapeName.ident ↔
      name ∈ m.structures.map fun s => (p.structureName s).ident := by
    intro name
    simp only [SymbolProvider.names, List.map_reverse, List.mem_reverse, List.map_map,
      Function.comp_def]
  unfold SymbolProvider.unionAndRecordNames
  rw [List.nodup_append', List.disjoint_comm]
  simp only [named, List.Disjoint, List.forall_mem_map]

theorem resolve_ok_iff (m : Model) (p : SymbolProvider) (runtime : String) (names : Names) :
    m.resolve p runtime = .ok names ↔ m.Resolvable p runtime ∧ names = p.names m := by
  -- Resolution is its two loops, the second of them over what the first one has named.
  have loops : m.resolve p runtime = .ok names ↔
      nameStructures p (pathRoot runtime) [] m.structures = .ok names.structures ∧
        nameOperations p names.structures [] m.operations = .ok names.operations := by
    unfold Model.resolve
    cases first : nameStructures p (pathRoot runtime) [] m.structures with
    | error f => simp [bind, Except.bind]
    | ok structures =>
      cases second : nameOperations p structures [] m.operations with
      | error f =>
        simp only [bind, Except.bind, second, reduceCtorEq, Except.ok.injEq, false_iff, not_and]
        rintro rfl
        simp [second]
      | ok operations =>
        obtain ⟨a, b⟩ := names
        simp only [bind, Except.bind, second, Except.ok.injEq, Names.mk.injEq]
        constructor
        · rintro ⟨rfl, rfl⟩
          exact ⟨rfl, second⟩
        · rintro ⟨rfl, again⟩
          rw [second] at again
          exact ⟨rfl, Except.ok.inj again⟩
  rw [loops, name_structures_ok_iff, name_operations_ok_iff]
  simp only [List.map_nil, List.append_nil, fresh_keys_of_none_seen]
  constructor
  · rintro ⟨⟨structures, allowed, idents, modules⟩, operations, unions, apart⟩
    have same : names = p.names m := by
      obtain ⟨a, b⟩ := names
      exact (Names.mk.injEq ..).mpr ⟨structures, operations⟩
    subst same
    exact ⟨⟨allowed, (types_nodup_iff p m).mpr ⟨idents, unions, apart⟩, modules⟩, rfl⟩
  · rintro ⟨resolvable, rfl⟩
    obtain ⟨idents, unions, apart⟩ := (types_nodup_iff p m).mp resolvable.types
    exact ⟨⟨rfl, resolvable.allowed, idents, resolvable.modules⟩, rfl, unions, apart⟩

theorem structure_name_found {m : Model} (distinct : (m.structures.map Structure.name).Nodup)
    (p : SymbolProvider) {s : Structure} (member : s ∈ m.structures) :
    (p.names m).structure? s.name = some (p.structureName s) := by
  apply find_of_unique
  · simpa [SymbolProvider.names] using ⟨s, member, rfl⟩
  · simp [SymbolProvider.structureName]
  · simp only [SymbolProvider.names, List.mem_reverse, List.mem_map, decide_eq_true_eq]
    rintro name ⟨t, other, rfl⟩ same
    rw [List.inj_on_of_nodup_map distinct other member same]

theorem operation_name_found {m : Model} (distinct : (m.operations.map Operation.name).Nodup)
    (p : SymbolProvider) {o : Operation} (member : o ∈ m.operations) :
    (p.names m).operation? o.name = some (p.operationName o) := by
  apply find_of_unique
  · simpa [SymbolProvider.names] using ⟨o, member, rfl⟩
  · simp [SymbolProvider.operationName]
  · simp only [SymbolProvider.names, List.mem_reverse, List.mem_map, decide_eq_true_eq]
    rintro name ⟨t, other, rfl⟩ same
    rw [List.inj_on_of_nodup_map distinct other member same]

end ErrorUnion
