import ErrorUnion.Proofs.Loop
import ErrorUnion.Proofs.Name.Resolution
import ErrorUnion.Sample.Services

/- Which models can be named, which declaration is blamed when one cannot, and what is found under a
   name afterwards. Models need not be valid here, and identifiers may come from anywhere. -/
namespace ErrorUnion
open Text Name

def ResolutionFault.subject : ResolutionFault → ShapeName
  | reservedVariant n | identTaken _ n | hidesCrate n | moduleTaken _ n | combinedTaken _ n => n

def SymbolProvider.moduleName (p : SymbolProvider) (s : Structure) : String :=
  escapeIdent (snakeCase (p.structureIdent s))

/-- The conditions on the identifiers of a model by which no two names collide. -/
structure Model.NamesApart (m : Model) (p : SymbolProvider) (runtime : String) : Prop where
  variants : ∀ s ∈ m.structures, s.fault.isSome = true →
    p.structureIdent s ≠ "Generic" ∧ p.structureIdent s ≠ "Unhandled"
  types : (m.structures.map p.structureIdent
    ++ m.operations.map fun o => p.operationIdent o ++ "Error").Nodup
  modules : (m.structures.map p.moduleName).Nodup
  crates : ∀ crate ∈ ["std", "core", "alloc", pathRoot runtime],
    crate ∉ m.structures.map p.moduleName

/-- What is wrong with a structure's identifier behind other structures. A reserved name goes before
a taken identifier, and that before a module that is taken or hides a crate. -/
inductive StructureOffence (p : SymbolProvider) (root : String) (before : List Structure)
    (s : Structure) : Code → Prop where
  | variant (error : s.fault.isSome = true)
      (reserved : p.structureIdent s ∈ ["Generic", "Unhandled"]) :
      StructureOffence p root before s .reservedVariantName
  | ident (allowed : s.fault.isSome = true → p.structureIdent s ∉ ["Generic", "Unhandled"])
      (taken : p.structureIdent s ∈ before.map p.structureIdent) :
      StructureOffence p root before s .identifierCollision
  | module (allowed : s.fault.isSome = true → p.structureIdent s ∉ ["Generic", "Unhandled"])
      (free : p.structureIdent s ∉ before.map p.structureIdent)
      (taken : p.moduleName s ∈ ["std", "core", "alloc", root] ∨
        p.moduleName s ∈ before.map p.moduleName) :
      StructureOffence p root before s .snakeNameCollision

def OperationOffence (p : SymbolProvider) (structures : List Structure) (before : List Operation)
    (o : Operation) : Prop :=
  p.operationIdent o ++ "Error" ∈
    structures.map p.structureIdent ++ before.map fun q => p.operationIdent q ++ "Error"

/-- The first declaration of a model that offends, structures before operations, with the code of
its offence and its name. -/
inductive FirstOffence (p : SymbolProvider) (runtime : String) (m : Model) :
    Code → ShapeName → Prop where
  | atStructure {before after : List Structure} {s : Structure} {c : Code}
      (split : m.structures = before ++ s :: after)
      (clean : ∀ b t a d, before = b ++ t :: a → ¬ StructureOffence p (pathRoot runtime) b t d)
      (offence : StructureOffence p (pathRoot runtime) before s c) :
      FirstOffence p runtime m c ⟨s.name, p.structureIdent s⟩
  | atOperation {before after : List Operation} {o : Operation}
      (structures : ∀ b t a d, m.structures = b ++ t :: a →
        ¬ StructureOffence p (pathRoot runtime) b t d)
      (split : m.operations = before ++ o :: after)
      (clean : ∀ b q a, before = b ++ q :: a → ¬ OperationOffence p m.structures b q)
      (offence : OperationOffence p m.structures before o) :
      FirstOffence p runtime m .combinedNameCollision ⟨o.name, p.operationIdent o⟩

section Loops
variable (p : SymbolProvider) (root : String)

def structureFaultAfter? (before : List Structure) (s : Structure) : Option ResolutionFault :=
  structureNameFault? root (before.map p.structureName).reverse s (p.structureName s)

def operationFaultAfter? (structures : List Structure) (before : List Operation) (o : Operation) :
    Option ResolutionFault :=
  (typeOwner? (structures.map p.structureName).reverse (before.map p.operationName).reverse
    (p.operationName o).unionName).map fun prev => .combinedTaken prev (p.operationName o)

theorem name_structures_eq (seen ss : List Structure) :
    nameStructures p root (seen.map p.structureName).reverse ss =
      match firstFault? (structureFaultAfter? p root) seen ss with
      | some f => .error f
      | none => .ok ((seen ++ ss).map p.structureName).reverse := by
  induction ss generalizing seen with
  | nil => simp [nameStructures, firstFault?]
  | cons s r ih =>
    -- The loop has its names from the last to the first, and `seen` is in the model's order.
    have step := ih (seen ++ [s])
    simp only [List.map_append, List.map_cons, List.map_nil, List.reverse_append,
      List.reverse_cons, List.reverse_nil, List.nil_append, List.cons_append] at step
    have named : (⟨s.name, p.structureIdent s⟩ : ShapeName) = p.structureName s := rfl
    simp only [nameStructures, firstFault?, structureFaultAfter?, named]
    cases structureNameFault? root (seen.map p.structureName).reverse s (p.structureName s) with
    | some f => rfl
    | none => simpa using step

theorem name_operations_eq (structures : List Structure) (seen os : List Operation) :
    nameOperations p (structures.map p.structureName).reverse
        (seen.map p.operationName).reverse os =
      match firstFault? (operationFaultAfter? p structures) seen os with
      | some f => .error f
      | none => .ok ((seen ++ os).map p.operationName).reverse := by
  induction os generalizing seen with
  | nil => simp [nameOperations, firstFault?]
  | cons o r ih =>
    have step := ih (seen ++ [o])
    simp only [List.map_append, List.map_cons, List.map_nil, List.reverse_append,
      List.reverse_cons, List.reverse_nil, List.nil_append, List.cons_append] at step
    have named : (⟨o.name, p.operationIdent o⟩ : ShapeName) = p.operationName o := rfl
    have union : p.operationIdent o ++ combinedSuffix = (p.operationName o).unionName := rfl
    simp only [nameOperations, firstFault?, operationFaultAfter?, named, union]
    cases typeOwner? (structures.map p.structureName).reverse (seen.map p.operationName).reverse
      (p.operationName o).unionName with
    | some prev => rfl
    | none => simpa using step

variable {p} {root}

theorem resolve_error_iff {m : Model} {runtime : String} {f : ResolutionFault} :
    m.resolve p runtime = .error f ↔
      firstFault? (structureFaultAfter? p (pathRoot runtime)) [] m.structures = some f ∨
        firstFault? (structureFaultAfter? p (pathRoot runtime)) [] m.structures = none ∧
          firstFault? (operationFaultAfter? p m.structures) [] m.operations = some f := by
  have structures := name_structures_eq p (pathRoot runtime) [] m.structures
  have operations := name_operations_eq p m.structures [] m.operations
  simp only [List.map_nil, List.reverse_nil, List.nil_append] at structures operations
  simp only [Model.resolve, structures]
  cases firstFault? (structureFaultAfter? p (pathRoot runtime)) [] m.structures with
  | some g => simp [bind, Except.bind]
  | none =>
    simp only [bind, Except.bind, operations]
    cases firstFault? (operationFaultAfter? p m.structures) [] m.operations <;> simp

theorem ident_owner_before_none_iff {before : List Structure} {ident : String} :
    identOwner? (before.map p.structureName).reverse ident = none ↔
      ident ∉ before.map p.structureIdent := by
  rw [ident_owner_none_iff, List.map_reverse, List.mem_reverse, List.map_map]
  rfl

theorem module_owner_before_none_iff {before : List Structure} {name : String} :
    moduleOwner? (before.map p.structureName).reverse name = none ↔
      name ∉ before.map p.moduleName := by
  rw [module_owner_none_iff, List.map_reverse, List.mem_reverse, List.map_map]
  rfl

theorem variant_check_iff {s : Structure} :
    (s.isError && (p.structureName s).ident ∈ reservedVariants) = true ↔
      s.fault.isSome = true ∧ p.structureIdent s ∈ ["Generic", "Unhandled"] := by
  rw [Bool.and_eq_true, decide_eq_true_iff]
  rfl

theorem crate_check_iff {s : Structure} :
    ((p.structureName s).builderModule ∈ reservedModules ||
        (p.structureName s).builderModule = root) = true ↔
      p.moduleName s ∈ ["std", "core", "alloc", root] := by
  rw [Bool.or_eq_true, decide_eq_true_iff, decide_eq_true_iff]
  simp only [reservedModules, List.mem_cons, List.not_mem_nil, or_false, or_assoc]
  rfl

theorem fault_of_structure_offence {before : List Structure} {s : Structure} {c : Code}
    (offence : StructureOffence p root before s c) :
    ∃ f, structureFaultAfter? p root before s = some f ∧ f.code = c ∧
      f.subject = p.structureName s := by
  unfold structureFaultAfter? structureNameFault?
  cases offence with
  | variant error reserved =>
    rw [if_pos (variant_check_iff.mpr ⟨error, reserved⟩)]
    exact ⟨_, rfl, rfl, rfl⟩
  | ident allowed taken =>
    rw [if_neg fun refused => and_imp.mpr allowed (variant_check_iff.mp refused)]
    split
    · exact ⟨_, rfl, rfl, rfl⟩
    · rename_i none
      exact absurd taken (ident_owner_before_none_iff.mp none)
  | module allowed free taken =>
    rw [if_neg fun refused => and_imp.mpr allowed (variant_check_iff.mp refused)]
    split
    · rename_i prev owner
      exact absurd (owner.symm.trans (ident_owner_before_none_iff.mpr free)) (by simp)
    · split
      · exact ⟨_, rfl, rfl, rfl⟩
      · rename_i open_
        have listed := taken.resolve_left fun hidden => open_ (crate_check_iff.mpr hidden)
        cases owner : moduleOwner? (before.map p.structureName).reverse
          (p.structureName s).builderModule with
        | none => exact absurd listed (module_owner_before_none_iff.mp owner)
        | some prev => exact ⟨_, rfl, rfl, rfl⟩

theorem structure_offence_of_fault {before : List Structure} {s : Structure}
    {f : ResolutionFault} (found : structureFaultAfter? p root before s = some f) :
    StructureOffence p root before s f.code ∧ f.subject = p.structureName s := by
  unfold structureFaultAfter? structureNameFault? at found
  split at found
  · rename_i refused
    cases found
    obtain ⟨error, reserved⟩ := variant_check_iff.mp refused
    exact ⟨.variant error reserved, rfl⟩
  · rename_i passed
    have allowed : s.fault.isSome = true → p.structureIdent s ∉ ["Generic", "Unhandled"] :=
      fun error reserved => passed (variant_check_iff.mpr ⟨error, reserved⟩)
    split at found
    · rename_i prev owner
      cases found
      refine ⟨.ident allowed ?_, rfl⟩
      by_contra free
      exact absurd (owner.symm.trans (ident_owner_before_none_iff.mpr free)) (by simp)
    · rename_i none
      have free := ident_owner_before_none_iff.mp none
      split at found
      · rename_i hidden
        cases found
        exact ⟨.module allowed free (Or.inl (crate_check_iff.mp hidden)), rfl⟩
      · obtain ⟨prev, owner, rfl⟩ := Option.map_eq_some_iff.mp found
        refine ⟨.module allowed free (Or.inr ?_), rfl⟩
        by_contra fresh
        exact absurd (owner.symm.trans (module_owner_before_none_iff.mpr fresh)) (by simp)

theorem structure_unblamed_iff {before : List Structure} {s : Structure} :
    structureFaultAfter? p root before s = none ↔ ∀ c, ¬ StructureOffence p root before s c := by
  constructor
  · intro none c offence
    obtain ⟨f, found, -⟩ := fault_of_structure_offence offence
    rw [none] at found
    cases found
  · intro clean
    cases found : structureFaultAfter? p root before s with
    | none => rfl
    | some f => exact absurd (structure_offence_of_fault found).1 (clean _)

theorem operation_unblamed_iff {structures : List Structure} {before : List Operation}
    {o : Operation} :
    operationFaultAfter? p structures before o = none ↔
      ¬ OperationOffence p structures before o := by
  unfold operationFaultAfter? OperationOffence
  rw [Option.map_eq_none_iff, type_owner_none_iff, List.mem_append, not_or]
  simp only [List.map_reverse, List.mem_reverse, List.map_map]
  rfl

theorem operation_fault_found {structures : List Structure} {before : List Operation}
    {o : Operation} {f : ResolutionFault}
    (found : operationFaultAfter? p structures before o = some f) :
    f.code = .combinedNameCollision ∧ f.subject = p.operationName o := by
  obtain ⟨prev, -, rfl⟩ := Option.map_eq_some_iff.mp found
  exact ⟨rfl, rfl⟩

theorem resolve_error_of_first_offence_iff (m : Model) (p : SymbolProvider) (runtime : String)
    (c : Code) (name : ShapeName) :
    (∃ f, m.resolve p runtime = .error f ∧ f.code = c ∧ f.subject = name) ↔
      FirstOffence p runtime m c name := by
  have clean : ∀ ss, Faultless (structureFaultAfter? p (pathRoot runtime)) ss ↔
      ∀ b t a d, ss = b ++ t :: a → ¬ StructureOffence p (pathRoot runtime) b t d := by
    intro ss
    unfold Faultless
    simp only [structure_unblamed_iff]
    exact ⟨fun all b t a d split => all b t a split d, fun all b t a split d => all b t a d split⟩
  have free : ∀ os, Faultless (operationFaultAfter? p m.structures) os ↔
      ∀ b q a, os = b ++ q :: a → ¬ OperationOffence p m.structures b q := by
    exact fun os => forall₄_congr fun _ _ _ _ => operation_unblamed_iff
  simp only [resolve_error_iff, first_fault_some_iff, first_fault_none_iff, List.nil_append]
  constructor
  · rintro ⟨f, blamed, rfl, rfl⟩
    rcases blamed with ⟨before, s, after, split, faultless, found⟩ |
      ⟨structures, before, o, after, split, faultless, found⟩
    · obtain ⟨offence, subject⟩ := structure_offence_of_fault found
      rw [subject]
      exact .atStructure split ((clean before).mp faultless) offence
    · obtain ⟨code, subject⟩ := operation_fault_found found
      rw [code, subject]
      refine .atOperation ((clean _).mp structures) split ((free before).mp faultless) ?_
      by_contra none
      rw [operation_unblamed_iff.mpr none] at found
      cases found
  · intro first
    cases first with
    | @atStructure before after s c split faultless offence =>
      obtain ⟨f, found, code, subject⟩ := fault_of_structure_offence offence
      refine ⟨f, Or.inl ?_, code, subject⟩
      exact ⟨before, s, after, split, (clean before).mpr faultless, found⟩
    | @atOperation before after o structures split faultless offence =>
      cases found : operationFaultAfter? p m.structures before o with
      | none => exact absurd offence (operation_unblamed_iff.mp found)
      | some f =>
        obtain ⟨code, subject⟩ := operation_fault_found found
        refine ⟨f, Or.inr ⟨(clean _).mpr structures, ?_⟩, code, subject⟩
        exact ⟨before, o, after, split, (free before).mpr faultless, found⟩

end Loops

theorem unreserved_variant_iff (ident : String) :
    ident ∉ reservedVariants ↔ ident ≠ "Generic" ∧ ident ≠ "Unhandled" := by
  simp [reservedVariants, genericVariant, unhandledVariant]

theorem resolvable_iff_names_apart (m : Model) (p : SymbolProvider) (runtime : String) :
    m.Resolvable p runtime ↔ m.NamesApart p runtime := by
  constructor
  · intro resolvable
    refine ⟨?_, resolvable.types, resolvable.modules, ?_⟩
    · intro s declared error
      exact (unreserved_variant_iff _).mp ((resolvable.allowed s declared).variant error)
    · intro crate listed defined
      obtain ⟨s, declared, rfl⟩ := List.mem_map.mp defined
      have allowed := resolvable.allowed s declared
      rcases Bool.or_eq_true_iff.mp (crate_check_iff.mpr listed) with reserved | root
      · exact allowed.crates (of_decide_eq_true reserved)
      · exact allowed.root (of_decide_eq_true root)
  · intro apart
    refine ⟨fun s declared => ?_, apart.types, apart.modules⟩
    have hidden : ¬ (p.moduleName s ∈ ["std", "core", "alloc", pathRoot runtime]) :=
      fun listed => apart.crates _ listed (List.mem_map_of_mem declared)
    rw [← crate_check_iff, Bool.or_eq_true, decide_eq_true_iff, decide_eq_true_iff, not_or]
      at hidden
    refine ⟨fun error => ?_, hidden.1, hidden.2⟩
    exact (unreserved_variant_iff _).mpr (apart.variants s declared error)

theorem structure_not_found {m : Model} (p : SymbolProvider) {wire : String}
    (absent : wire ∉ m.structures.map Structure.name) : (p.names m).structure? wire = none := by
  rw [Names.structure?, List.find?_eq_none]
  simp only [SymbolProvider.names, List.mem_reverse, List.mem_map, decide_eq_true_eq]
  rintro name ⟨s, declared, rfl⟩ rfl
  exact absent (List.mem_map_of_mem declared)

theorem operation_not_found {m : Model} (p : SymbolProvider) {wire : String}
    (absent : wire ∉ m.operations.map Operation.name) : (p.names m).operation? wire = none := by
  rw [Names.operation?, List.find?_eq_none]
  simp only [SymbolProvider.names, List.mem_reverse, List.mem_map, decide_eq_true_eq]
  rintro name ⟨o, declared, rfl⟩ rfl
  exact absent (List.mem_map_of_mem declared)

/-- Names are resolved exactly if the identifiers of a model are apart. Otherwise the first
declaration that offends is blamed. Where names are given once, each is found with the identifier
that its declaration got, and nothing else is found. -/
theorem names_resolved_iff_apart (m : Model) (p : SymbolProvider) (runtime : String) :
    ((∃ names, m.resolve p runtime = .ok names) ↔ m.NamesApart p runtime) ∧
      (∀ c name, (∃ f, m.resolve p runtime = .error f ∧ f.code = c ∧ f.subject = name) ↔
        FirstOffence p runtime m c name) ∧
      ∀ names, m.resolve p runtime = .ok names →
        ((m.structures.map Structure.name).Nodup →
          (∀ s ∈ m.structures, names.structure? s.name = some ⟨s.name, p.structureIdent s⟩) ∧
          ∀ wire ∉ m.structures.map Structure.name, names.structure? wire = none) ∧
        ((m.operations.map Operation.name).Nodup →
          (∀ o ∈ m.operations, names.operation? o.name = some ⟨o.name, p.operationIdent o⟩) ∧
          ∀ wire ∉ m.operations.map Operation.name, names.operation? wire = none) := by
  refine ⟨?_, resolve_error_of_first_offence_iff m p runtime, ?_⟩
  · rw [← resolvable_iff_names_apart]
    constructor
    · rintro ⟨names, done⟩
      exact ((resolve_ok_iff ..).mp done).1
    · intro resolvable
      exact ⟨_, (resolve_ok_iff ..).mpr ⟨resolvable, rfl⟩⟩
  · intro names done
    obtain ⟨-, rfl⟩ := (resolve_ok_iff ..).mp done
    constructor
    · intro distinct
      exact ⟨fun s declared => structure_name_found distinct p declared,
        fun wire absent => structure_not_found p absent⟩
    · intro distinct
      exact ⟨fun o declared => operation_name_found distinct p declared,
        fun wire absent => operation_not_found p absent⟩

theorem weather_names_found :
    ∃ names, Sample.weatherModel.resolve (.standard true) "errgen_runtime" = .ok names ∧
      (Sample.weatherModel.structures.map Structure.name).Nodup ∧
      names.structure? "ThrottledException" = some ⟨"ThrottledException", "ThrottledError"⟩ ∧
      names.structure? "ThrottledError" = none := by
  obtain ⟨resolves, -, found⟩ :=
    names_resolved_iff_apart Sample.weatherModel (.standard true) "errgen_runtime"
  obtain ⟨names, done⟩ := resolves.mpr
    ⟨by decide +kernel, by decide +kernel, by decide +kernel, by decide +kernel⟩
  have distinct : (Sample.weatherModel.structures.map Structure.name).Nodup := by decide +kernel
  obtain ⟨declared, others⟩ := (found names done).1 distinct
  refine ⟨names, done, distinct, ?_, others _ (by decide +kernel)⟩
  exact declared _ List.mem_cons_self

end ErrorUnion
