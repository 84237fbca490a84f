import ErrorUnion.Generation
import ErrorUnion.Proofs.Model.Rules
import ErrorUnion.Proofs.Name.Resolution

/- What a plan consists of. Whatever is looked up on the way to it is there once the names of a
   valid model are resolved, so the plan can be written down without a lookup by name. -/
namespace ErrorUnion
open Text Name

theorem map_m_ok {f : α → Except ε β} {g : α → β} {xs : List α}
    (each : ∀ x ∈ xs, f x = .ok (g x)) : xs.mapM f = .ok (xs.map g) := by
  induction xs with
  | nil => rfl
  | cons x r ih =>
    have rest := ih fun y later => each y (List.mem_cons_of_mem x later)
    simp only [List.mapM_cons, each x List.mem_cons_self, rest]
    rfl

theorem map_m_ok_filter {f : α → Except ε β} {g : α → Option β} {xs : List α}
    (each : ∀ x ∈ xs, ∃ y, g x = some y ∧ f x = .ok y) : xs.mapM f = .ok (xs.filterMap g) := by
  induction xs with
  | nil => rfl
  | cons x r ih =>
    obtain ⟨y, found, done⟩ := each x List.mem_cons_self
    have rest := ih fun z later => each z (List.mem_cons_of_mem x later)
    simp only [List.mapM_cons, done, rest, List.filterMap_cons_some found]
    rfl

def Model.declaredShape? (m : Model) (p : SymbolProvider) (wire : String) : Option ErrorShape :=
  (m.structure? wire).bind fun s => s.fault.map (s.shape (p.structureName s))

def Operation.errorSetIn (o : Operation) (m : Model) (p : SymbolProvider) : ErrorSet where
  operation := p.operationName o
  documentation := o.documentation
  errors := o.errors.filterMap (m.declaredShape? p)

def Operation.unionIn (o : Operation) (m : Model) (p : SymbolProvider) (classifier : Classifier) :
    CombinedError :=
  (o.errorSetIn m p).combinedOf classifier

def Model.unions (m : Model) (p : SymbolProvider) (classifier : Classifier) :
    List CombinedError :=
  m.operations.map fun o => o.unionIn m p classifier

def Model.planned (m : Model) (p : SymbolProvider) (classifier : Classifier) (runtime : String) :
    ModulePlan where
  names := p.names m
  combined := m.unions p classifier
  items := m.structures.flatMap (fun s => s.items (p.structureName s))
    ++ (m.unions p classifier).flatMap (·.items runtime)

theorem mem_planned_items {m : Model} {p : SymbolProvider} {classifier : Classifier}
    {runtime : String} {i : Item} :
    i ∈ (m.planned p classifier runtime).items ↔
      (∃ s ∈ m.structures, i ∈ s.items (p.structureName s)) ∨
        ∃ c ∈ m.unions p classifier, i ∈ c.items runtime := by
  simp only [Model.planned, List.mem_append, List.mem_flatMap]

theorem named_structure_found {m : Model} (sound : m.Sound) (p : SymbolProvider) {s : Structure}
    (member : s ∈ m.structures) : (p.names m).structure? s.name = some (p.structureName s) :=
  structure_name_found sound.structureNames p member

theorem named_operation_found {m : Model} (sound : m.Sound) (p : SymbolProvider) {o : Operation}
    (member : o ∈ m.operations) : (p.names m).operation? o.name = some (p.operationName o) :=
  operation_name_found sound.operationNames p member

theorem structure_items_ok {m : Model} (sound : m.Sound) (p : SymbolProvider) {s : Structure}
    (member : s ∈ m.structures) :
    structureItems (p.names m) s = .ok (s.items (p.structureName s)) := by
  simp only [structureItems, named_structure_found sound p member]

theorem declared_shape {m : Model} (sound : m.Sound) (p : SymbolProvider) {wire : String}
    (declared : ∃ s, m.structure? wire = some s ∧ s.isError = true) :
    ∃ s fault, s ∈ m.structures ∧ s.name = wire ∧ s.fault = some fault ∧
      m.declaredShape? p wire = some (s.shape (p.structureName s) fault) ∧
      errorShape m (p.names m) wire = .ok (s.shape (p.structureName s) fault) := by
  obtain ⟨s, found, error⟩ := declared
  obtain ⟨fault, side⟩ := Option.isSome_iff_exists.mp error
  obtain ⟨member, rfl⟩ := found_structure found
  refine ⟨s, fault, member, rfl, side, ?_, ?_⟩
  · simp only [Model.declaredShape?, found, Option.bind_some, side, Option.map_some]
  · simp only [errorShape, found, named_structure_found sound p member, side]

theorem error_set_ok {m : Model} (sound : m.Sound) (p : SymbolProvider) {o : Operation}
    (member : o ∈ m.operations) : errorSet m (p.names m) o = .ok (o.errorSetIn m p) := by
  have shapes : o.errors.mapM (errorShape m (p.names m)) =
      .ok (o.errors.filterMap (m.declaredShape? p)) := by
    apply map_m_ok_filter
    intro wire listed
    obtain ⟨s, fault, -, -, -, declared, done⟩ :=
      declared_shape sound p ((sound.operations o member).declared wire listed)
    exact ⟨_, declared, done⟩
  simp only [errorSet, named_operation_found sound p member, shapes]
  rfl

theorem error_sets_ok {m : Model} (sound : m.Sound) (p : SymbolProvider) :
    m.errorSets (p.names m) = .ok (m.operations.map fun o => o.errorSetIn m p) :=
  map_m_ok fun _ member => error_set_ok sound p member

theorem shape_of_listed_error {m : Model} {p : SymbolProvider} {o : Operation} {e : ErrorShape}
    (member : e ∈ (o.errorSetIn m p).errors) :
    ∃ s fault, s ∈ m.structures ∧ s.name ∈ o.errors ∧ s.fault = some fault ∧
      e = s.shape (p.structureName s) fault := by
  simp only [Operation.errorSetIn, List.mem_filterMap, Model.declaredShape?,
    Option.bind_eq_some_iff, Option.map_eq_some_iff] at member
  obtain ⟨wire, listed, s, found, fault, side, rfl⟩ := member
  obtain ⟨declared, rfl⟩ := found_structure found
  exact ⟨s, fault, declared, listed, side, rfl⟩

theorem declared_shape_wire {m : Model} {p : SymbolProvider} {wire : String} {e : ErrorShape}
    (declared : m.declaredShape? p wire = some e) : e.name.wire = wire := by
  simp only [Model.declaredShape?, Option.bind_eq_some_iff, Option.map_eq_some_iff] at declared
  obtain ⟨s, found, fault, -, rfl⟩ := declared
  exact (found_structure found).2

theorem structure_ident_type_name {s : Structure} (sound : s.Sound) (rename : Bool) :
    IsTypeName ((SymbolProvider.standard rename).structureName s).ident := by
  simp only [SymbolProvider.structureName, SymbolProvider.standard]
  split
  · exact without_exception_type_name sound.typeName
  · exact sound.typeName

theorem type_name_not_empty {name : String} (word : IsTypeName name) : name ≠ "" := by
  rintro rfl
  exact absurd word (by decide)

theorem empty_ident_none_iff (set : ErrorSet) :
    emptyIdent? set = none ↔ set.operation.ident ≠ "" ∧ ∀ e ∈ set.errors, e.name.ident ≠ "" := by
  unfold emptyIdent?
  by_cases empty : set.operation.ident = ""
  · simp [empty]
  · simp [empty, List.find?_eq_none]

theorem no_empty_ident {m : Model} (sound : m.Sound) (rename : Bool) {o : Operation}
    (member : o ∈ m.operations) :
    emptyIdent? (o.errorSetIn m (.standard rename)) = none := by
  rw [empty_ident_none_iff]
  constructor
  · exact type_name_not_empty (sound.operations o member).typeName
  · intro e listed
    obtain ⟨s, fault, declared, -, -, rfl⟩ := shape_of_listed_error listed
    exact type_name_not_empty (structure_ident_type_name (sound.structures s declared) rename)

theorem combine_ok {set : ErrorSet} (named : emptyIdent? set = none) (classifier : Classifier) :
    set.combine classifier = .ok (set.combinedOf classifier) := by
  simp only [ErrorSet.combine, named]

theorem unions_ok {m : Model} (sound : m.Sound) (rename : Bool) (classifier : Classifier) :
    (m.operations.map fun o => o.errorSetIn m (.standard rename)).mapM
        (fun (s : ErrorSet) => s.combine classifier) =
      .ok (m.unions (.standard rename) classifier) := by
  have each : ∀ s ∈ m.operations.map fun o => o.errorSetIn m (.standard rename),
      s.combine classifier = .ok (s.combinedOf classifier) := by
    intro s member
    obtain ⟨o, declared, rfl⟩ := List.mem_map.mp member
    exact combine_ok (no_empty_ident sound rename declared) classifier
  rw [map_m_ok each, List.map_map]
  rfl

theorem option_fault_none_iff (o : Options) : o.fault? = none ↔ IsCratePath o.runtimeCrate := by
  rw [Options.fault?, Option.map_eq_none_iff, crate_path_fault_none_iff]

/-- A plan is given up for its options or for a name, and for nothing else. -/
theorem plan_cases (v : ValidModel) (o : Options) (classifier : Classifier) :
    (¬ IsCratePath o.runtimeCrate ∧ ∃ f, v.plan o classifier = .error (.option f)) ∨
      (IsCratePath o.runtimeCrate ∧
        ∃ f, v.model.resolve (.standard o.renameExceptions) o.runtimeCrate = .error f ∧
          v.plan o classifier = .error (.resolution f)) ∨
      (IsCratePath o.runtimeCrate ∧
        v.model.Resolvable (.standard o.renameExceptions) o.runtimeCrate ∧
        v.plan o classifier =
          .ok (v.model.planned (.standard o.renameExceptions) classifier o.runtimeCrate)) := by
  have sound := v.sound
  rw [← option_fault_none_iff]
  cases path : o.fault? with
  | some f =>
    refine Or.inl ⟨by simp, f, ?_⟩
    simp only [ValidModel.plan, path]
  | none =>
    refine Or.inr ?_
    cases resolved : v.model.resolve (.standard o.renameExceptions) o.runtimeCrate with
    | error f =>
      refine Or.inl ⟨rfl, f, rfl, ?_⟩
      simp only [ValidModel.plan, path, resolved]
      rfl
    | ok names =>
      obtain ⟨resolvable, rfl⟩ := (resolve_ok_iff ..).mp resolved
      refine Or.inr ⟨rfl, resolvable, ?_⟩
      have records := map_m_ok fun s member =>
        structure_items_ok sound (.standard o.renameExceptions) (s := s) member
      simp only [ValidModel.plan, path, resolved, Except.mapError, bind, Except.bind,
        error_sets_ok sound, records, unions_ok sound]
      rfl

theorem plan_ok_iff (v : ValidModel) (o : Options) (classifier : Classifier) (plan : ModulePlan) :
    v.plan o classifier = .ok plan ↔
      IsCratePath o.runtimeCrate ∧
        v.model.Resolvable (.standard o.renameExceptions) o.runtimeCrate ∧
        plan = v.model.planned (.standard o.renameExceptions) classifier o.runtimeCrate := by
  obtain ⟨path, f, failed⟩ | ⟨path, f, unresolved, failed⟩ | ⟨path, resolvable, done⟩ :=
    plan_cases v o classifier
  · simp [failed, path]
  · have blocked : ¬ v.model.Resolvable (.standard o.renameExceptions) o.runtimeCrate := by
      intro resolvable
      rw [(resolve_ok_iff ..).mpr ⟨resolvable, rfl⟩] at unresolved
      cases unresolved
    simp [failed, blocked]
  · simp only [done, path, resolvable, true_and, Except.ok.injEq, eq_comm]

theorem generate_checked_ok {v : ValidModel} {check : SyntaxCheck} {o : Options}
    {classifier : Classifier} {g : GeneratedModule}
    (done : v.generateChecked check o classifier = .ok g) :
    ∃ plan, v.plan o classifier = .ok plan ∧ g.source = (moduleSheet v plan.items).text ∧
      g.combined = plan.combined := by
  unfold ValidModel.generateChecked at done
  cases planned : v.plan o classifier with
  | error f => simp [planned, bind, Except.bind] at done
  | ok plan =>
    simp only [planned, bind, Except.bind] at done
    split at done
    · cases done
    · cases done
      exact ⟨plan, rfl, rfl, rfl⟩

theorem generate_checked_of_resolvable {v : ValidModel} {check : SyntaxCheck} {o : Options}
    (path : IsCratePath o.runtimeCrate)
    (resolvable : v.model.Resolvable (.standard o.renameExceptions) o.runtimeCrate)
    (taken : ∀ source, check v.model o.runtimeCrate source = true) (classifier : Classifier) :
    ∃ g, v.generateChecked check o classifier = .ok g := by
  have planned := (plan_ok_iff v o classifier _).mpr ⟨path, resolvable, rfl⟩
  simp only [ValidModel.generateChecked, planned, bind, Except.bind, taken, Bool.not_true,
    Bool.and_false, Bool.false_eq_true, if_false]
  exact ⟨_, rfl⟩

theorem resolvable_of_ok {m : Model} {p : SymbolProvider} {runtime : String}
    (resolved : (m.resolve p runtime).isOk = true) : m.Resolvable p runtime := by
  cases outcome : m.resolve p runtime with
  | error f =>
    rw [outcome] at resolved
    cases resolved
  | ok names => exact ((resolve_ok_iff ..).mp outcome).1

/-- With the runtime under its own path, a model whose names are resolved is generated. -/
theorem generated_under_own_path {v : ValidModel} {o : Options}
    (own : o.runtimeCrate = "errgen_runtime")
    (resolved : (v.model.resolve (.standard o.renameExceptions) o.runtimeCrate).isOk = true)
    (classifier : Classifier) : ∃ g, v.generateChecked .byPath o classifier = .ok g := by
  have path : IsCratePath "errgen_runtime" := (crate_path_fault_none_iff _).mp (by decide +kernel)
  have parsed : isParsablePath "errgen_runtime" = true := by decide +kernel
  refine generate_checked_of_resolvable (own ▸ path) (resolvable_of_ok resolved) (fun _ => ?_)
    classifier
  rw [SyntaxCheck.byPath, parses, own, parsed, Bool.or_true]

def missingItem : Structure where
  name := "MissingItemException"
  fault := some .client
  retryable := some ⟨true⟩
  deprecated := none
  documentation := none
  members := [⟨"Message", .string, none⟩, ⟨"type", .long, none⟩]

def brokenStore : Structure where
  name := "BrokenStore"
  fault := some .server
  retryable := none
  deprecated := some ⟨none, none⟩
  documentation := none
  members := []

def takeItem : Operation := ⟨"TakeItem", ["MissingItemException", "BrokenStore"], none⟩

def storeModel : ValidModel where
  model := ⟨Model.currentVersion, "store", [takeItem], [missingItem, brokenStore]⟩
  digest := none
  valid := by decide +kernel

theorem store_resolvable : storeModel.model.Resolvable (.standard true) "errgen_runtime" := by
  refine ⟨?_, by decide +kernel, by decide +kernel⟩
  intro s member
  simp only [storeModel, List.mem_cons, List.not_mem_nil, or_false] at member
  rcases member with rfl | rfl
  · exact ⟨by decide +kernel, by decide +kernel, by decide +kernel⟩
  · exact ⟨by decide +kernel, by decide +kernel, by decide +kernel⟩

theorem store_generated (classifier : Classifier) :
    ∃ g, storeModel.generateChecked .byPath .default classifier = .ok g :=
  generated_under_own_path rfl (by decide +kernel) classifier

end ErrorUnion
