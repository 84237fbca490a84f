import ErrorUnion.Proofs.Generation.Namespace
import ErrorUnion.Proofs.Union.Identifiers

/- Every identifier of a generated module is a legal one, whatever the model calls its structures,
   members and operations, as soon as the names of the model can be resolved. -/
namespace ErrorUnion
open Text Name

variable {m : Model} {n : String}

theorem structure_ident_not_self {s : Structure} (sound : s.Sound) (rename : Bool) :
    ((SymbolProvider.standard rename).structureName s).ident ≠ "Self" := by
  simp only [SymbolProvider.structureName, SymbolProvider.standard]
  split
  · exact without_exception_not_self sound.notSelf
  · exact sound.notSelf

theorem structure_ident_legal {s : Structure} (sound : s.Sound) (rename : Bool) :
    IsIdentifier ((SymbolProvider.standard rename).structureName s).ident :=
  type_name_identifier (structure_ident_type_name sound rename)
    (structure_ident_not_self sound rename)

theorem structure_items_legal {s : Structure} (sound : s.Sound) (rename : Bool)
    (member : n ∈ itemIdentifiers (s.items ((SymbolProvider.standard rename).structureName s))) :
    IsIdentifier n :=
  record_identifier_legal sound (structure_ident_type_name sound rename)
    (structure_ident_not_self sound rename) (structure_identifiers member)

theorem union_name_legal {o : Operation} (sound : o.Sound m) (rename : Bool) :
    IsIdentifier ((SymbolProvider.standard rename).operationName o).unionName :=
  type_name_identifier (union_name_type_name sound rename) (not_self_with_error _)

theorem union_variant_legal (sound : m.Sound) (rename : Bool) (classifier : Classifier)
    {o : Operation} : ∀ v ∈ (o.unionIn m (.standard rename) classifier).variants,
      IsIdentifier v.name ∧ ∀ e k, v.kind = .shape e k → IsWord e.name.ident := by
  rw [Operation.unionIn, ErrorSet.combinedOf, List.forall_mem_append, List.forall_mem_map]
  constructor
  · intro e listed
    obtain ⟨s, fault, declared, -, -, rfl⟩ := shape_of_listed_error listed
    have keeps := sound.structures s declared
    refine ⟨structure_ident_legal keeps rename, ?_⟩
    rintro e k ⟨⟩
    exact type_name_is_word (structure_ident_type_name keeps rename)
  · have generic : IsIdentifier genericVariant := by decide
    have unhandled : IsIdentifier unhandledVariant := by decide
    rw [fallbackVariants, List.forall_mem_cons, List.forall_mem_singleton]
    exact ⟨⟨generic, by simp⟩, unhandled, by simp⟩

theorem union_items_legal (sound : m.Sound) (rename : Bool) (classifier : Classifier)
    {o : Operation} (declared : o ∈ m.operations) (runtime : String)
    (member : n ∈ itemIdentifiers ((o.unionIn m (.standard rename) classifier).items runtime)) :
    IsIdentifier n := by
  have variants := union_variant_legal sound rename classifier (o := o)
  exact union_identifier_legal (union_name_legal (sound.operations o declared) rename)
    (fun v listed => (variants v listed).1) (fun v listed => (variants v listed).2)
    (union_identifiers member)

theorem planned_items_legal (sound : m.Sound) (rename : Bool) (classifier : Classifier)
    {runtime : String}
    (member : n ∈ itemIdentifiers (m.planned (.standard rename) classifier runtime).items) :
    IsIdentifier n := by
  rw [item_identifiers_flat_map, List.mem_flatMap] at member
  obtain ⟨i, emitted, named⟩ := member
  rcases mem_planned_items.mp emitted with ⟨s, declared, record⟩ | ⟨c, listed, union⟩
  · apply structure_items_legal (sound.structures s declared) rename
    rw [item_identifiers_flat_map]
    exact List.mem_flatMap_of_mem record named
  · obtain ⟨o, declared, rfl⟩ := List.mem_map.mp listed
    apply union_items_legal sound rename classifier declared runtime
    rw [item_identifiers_flat_map]
    exact List.mem_flatMap_of_mem union named

/-- Once the names of a valid model are resolved, every structure and every operation has its
declarations, and whatever identifier these define or name is legal: the types with their fields,
variants and methods, and the modules of builders. So are all identifiers of a planned module. -/
theorem emitted_identifiers_legal {v : ValidModel} {o : Options} {names : Names}
    (resolved : v.model.resolve (.standard o.renameExceptions) o.runtimeCrate = .ok names)
    (classifier : Classifier) :
    (∀ s ∈ v.model.structures, ∃ items, structureItems names s = .ok items ∧
      ∀ n ∈ itemIdentifiers items, IsIdentifier n) ∧
    (∀ p ∈ v.model.operations, ∃ set c, errorSet v.model names p = .ok set ∧
      set.combine classifier = .ok c ∧
      ∀ n ∈ itemIdentifiers (c.items o.runtimeCrate), IsIdentifier n) ∧
    ∀ plan, v.plan o classifier = .ok plan → ∀ n ∈ itemIdentifiers plan.items, IsIdentifier n := by
  obtain ⟨-, rfl⟩ := (resolve_ok_iff ..).mp resolved
  have sound := v.sound
  refine ⟨?structures, ?operations, ?planned⟩
  case structures =>
    intro s declared
    refine ⟨_, structure_items_ok sound _ declared, fun n member => ?_⟩
    exact structure_items_legal (sound.structures s declared) o.renameExceptions member
  case operations =>
    intro p declared
    refine ⟨_, _, error_set_ok sound _ declared,
      combine_ok (no_empty_ident sound o.renameExceptions declared) classifier, fun n member => ?_⟩
    exact union_items_legal sound o.renameExceptions classifier declared _ member
  case planned =>
    intro plan planned n member
    obtain ⟨-, -, rfl⟩ := (plan_ok_iff ..).mp planned
    exact planned_items_legal sound o.renameExceptions classifier member

theorem store_identifiers_legal :
    ∃ names plan, storeModel.model.resolve (.standard true) "errgen_runtime" = .ok names ∧
      storeModel.plan .default RetryPolicy.faultSide.classify = .ok plan ∧
      (∀ n ∈ ["MissingItemError", "missing_item_error", "r#type", "set_type",
        "is_missing_item_error", "TakeItemError"], n ∈ itemIdentifiers plan.items) ∧
      ∀ n ∈ itemIdentifiers plan.items, IsIdentifier n := by
  have resolved := (resolve_ok_iff storeModel.model (.standard true) "errgen_runtime" _).mpr
    ⟨store_resolvable, rfl⟩
  have planned := (plan_ok_iff storeModel .default RetryPolicy.faultSide.classify _).mpr
    ⟨(crate_path_fault_none_iff _).mp (by decide +kernel), store_resolvable, rfl⟩
  obtain ⟨-, -, legal⟩ := emitted_identifiers_legal (o := .default) resolved
    RetryPolicy.faultSide.classify
  exact ⟨_, _, resolved, planned, by decide +kernel, legal _ planned⟩

end ErrorUnion
