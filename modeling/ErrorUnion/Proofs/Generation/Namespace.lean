import ErrorUnion.Proofs.Generation.Plan
import ErrorUnion.Proofs.Record.Distinct

/- The names that a module defines for types and for modules, which share one namespace. Types
   start with a capital and modules with a small letter, so that both may be told apart by kind. -/
namespace ErrorUnion
open Text Name

def Item.typeName? : Item → Option String
  | .record r => some r.name
  | .union u => some u.name
  | .methods _ => none
  | .module _ _ name _ => some name

def typeNames (items : List Item) : List String := items.filterMap Item.typeName?

theorem structure_type_names (s : Structure) (name : ShapeName) :
    typeNames (s.items name) = [name.ident, name.builderModule] := by
  unfold Structure.items Structure.errorItems
  split <;> rfl

theorem union_type_names (c : CombinedError) (runtime : String) :
    typeNames (c.items runtime) = [c.name] := rfl

theorem planned_type_names (m : Model) (p : SymbolProvider) (classifier : Classifier)
    (runtime : String) :
    typeNames (m.planned p classifier runtime).items =
      m.structures.flatMap (fun s =>
          [(p.structureName s).ident, (p.structureName s).builderModule])
        ++ m.operations.map fun o => (p.operationName o).unionName := by
  have records : typeNames (m.structures.flatMap fun s => s.items (p.structureName s)) =
      m.structures.flatMap fun s =>
        [(p.structureName s).ident, (p.structureName s).builderModule] := by
    simp only [typeNames, List.filterMap_flatMap]
    exact List.flatMap_congr fun s _ => structure_type_names s (p.structureName s)
  have unions : typeNames ((m.unions p classifier).flatMap (·.items runtime)) =
      m.operations.map fun o => (p.operationName o).unionName := by
    simp only [typeNames, List.filterMap_flatMap, Model.unions, List.flatMap_map]
    rw [List.map_eq_flatMap]
    exact List.flatMap_congr fun o _ => union_type_names _ runtime
  rw [← records, ← unions]
  exact List.filterMap_append

theorem type_names_by_kind (m : Model) (p : SymbolProvider) (classifier : Classifier)
    (runtime : String) :
    (typeNames (m.planned p classifier runtime).items).Perm
      (p.unionAndRecordNames m ++
        m.structures.map fun s => (p.structureName s).builderModule) := by
  rw [planned_type_names, SymbolProvider.unionAndRecordNames, List.append_assoc]
  have pairs := List.map_append_flatMap_perm m.structures
    (fun s => (p.structureName s).ident) (fun s => [(p.structureName s).builderModule])
  rw [← List.map_eq_flatMap] at pairs
  refine (pairs.symm.append_right _).trans ?_
  rw [List.append_assoc]
  exact List.perm_append_comm.append_left _

theorem type_name_shown {name : String} (word : IsTypeName name) : Value.shownName name = name :=
  shown_of_no_hash (no_hash_in_word (type_name_is_word word))

theorem union_name_type_name {o : Operation} {m : Model} (sound : o.Sound m) (rename : Bool) :
    IsTypeName ((SymbolProvider.standard rename).operationName o).unionName := by
  have word := sound.typeName
  simp only [SymbolProvider.operationName, SymbolProvider.standard, ShapeName.unionName]
  exact type_name_append word (by decide)

theorem type_names_are_type_names {m : Model} (sound : m.Sound) (rename : Bool) :
    ∀ name ∈ (SymbolProvider.standard rename).unionAndRecordNames m, IsTypeName name := by
  intro name member
  rcases List.mem_append.mp member with record | union
  · obtain ⟨s, declared, rfl⟩ := List.mem_map.mp record
    exact structure_ident_type_name (sound.structures s declared) rename
  · obtain ⟨o, declared, rfl⟩ := List.mem_map.mp union
    exact union_name_type_name (sound.operations o declared) rename

theorem module_starts_small {s : Structure} (sound : s.Sound) (rename : Bool) :
    ∃ c t, (Value.shownName
        ((SymbolProvider.standard rename).structureName s).builderModule).toList = c :: t ∧
      c.isLower = true := by
  have word := structure_ident_type_name sound rename
  obtain ⟨c, r, chars, small⟩ := snake_of_type_name word
  have clean := no_hash_in_snake (type_name_is_word word)
  obtain ⟨t, shown⟩ := shown_escape_head clean chars
  exact ⟨c, t, shown, small⟩

theorem modules_shown_distinct {m : Model} (sound : m.Sound) (rename : Bool)
    (distinct : (m.structures.map fun s =>
      ((SymbolProvider.standard rename).structureName s).builderModule).Nodup) :
    WordsDistinct (m.structures.map fun s =>
      ((SymbolProvider.standard rename).structureName s).builderModule) := by
  refine List.Nodup.map_on ?_ distinct
  intro x hx y hy same
  obtain ⟨a, ha, rfl⟩ := List.mem_map.mp hx
  obtain ⟨b, hb, rfl⟩ := List.mem_map.mp hy
  have clean : ∀ s ∈ m.structures,
      '#' ∉ ((SymbolProvider.standard rename).structureName s).snake.toList := fun s hs =>
    no_hash_in_snake (type_name_is_word (structure_ident_type_name (sound.structures s hs) rename))
  exact shown_escape_injective (clean a ha) (clean b hb) same

theorem types_shown_distinct {m : Model} (sound : m.Sound) (rename : Bool)
    (distinct : ((SymbolProvider.standard rename).unionAndRecordNames m).Nodup) :
    WordsDistinct ((SymbolProvider.standard rename).unionAndRecordNames m) := by
  refine List.Nodup.map_on ?_ distinct
  intro x hx y hy same
  have words := type_names_are_type_names sound rename
  rwa [type_name_shown (words x hx), type_name_shown (words y hy)] at same

theorem type_apart_from_module {m : Model} (sound : m.Sound) (rename : Bool) {name : String}
    (type : name ∈ (SymbolProvider.standard rename).unionAndRecordNames m) {s : Structure}
    (member : s ∈ m.structures) :
    Value.shownName name ≠
      Value.shownName ((SymbolProvider.standard rename).structureName s).builderModule := by
  intro same
  have word := type_names_are_type_names sound rename name type
  obtain ⟨c, t, chars, small⟩ := module_starts_small (sound.structures s member) rename
  rw [type_name_shown word] at same
  simp only [IsTypeName, same, chars, isWordFrom, Bool.and_eq_true] at word
  rw [upper_not_lower word.1] at small
  cases small

theorem planned_names_distinct {m : Model} (sound : m.Sound) {rename : Bool} {runtime : String}
    (resolvable : m.Resolvable (.standard rename) runtime) (classifier : Classifier) :
    WordsDistinct (typeNames (m.planned (.standard rename) classifier runtime).items) := by
  have kinds := (type_names_by_kind m (.standard rename) classifier runtime).map Value.shownName
  rw [WordsDistinct, kinds.nodup_iff, List.map_append, List.nodup_append']
  refine ⟨types_shown_distinct sound rename resolvable.types,
    modules_shown_distinct sound rename resolvable.modules, ?_⟩
  intro word type module
  obtain ⟨name, declared, rfl⟩ := List.mem_map.mp type
  obtain ⟨other, named, same⟩ := List.mem_map.mp module
  obtain ⟨s, member, rfl⟩ := List.mem_map.mp named
  exact type_apart_from_module sound rename declared member same.symm

theorem mem_structure_items {s : Structure} {name : ShapeName} {i : Item} :
    i ∈ s.items name ↔ i = .record (s.recordDecl name) ∨ i = .methods (s.accessors name) ∨
      i ∈ s.errorItems name ∨ i = s.builderItem name := by
  simp only [Structure.items, List.mem_append, List.mem_cons, List.not_mem_nil, or_false,
    or_assoc]

theorem planned_record (m : Model) (p : SymbolProvider) (classifier : Classifier)
    (runtime : String) {s : Structure} (declared : s ∈ m.structures) :
    .record (s.recordDecl (p.structureName s)) ∈ (m.planned p classifier runtime).items :=
  mem_planned_items.mpr (Or.inl ⟨s, declared, mem_structure_items.mpr (Or.inl rfl)⟩)

theorem planned_module (m : Model) (p : SymbolProvider) (classifier : Classifier)
    (runtime : String) {s : Structure} (declared : s ∈ m.structures) :
    s.builderItem (p.structureName s) ∈ (m.planned p classifier runtime).items :=
  mem_planned_items.mpr
    (Or.inl ⟨s, declared, mem_structure_items.mpr (Or.inr (Or.inr (Or.inr rfl)))⟩)

/-- What a variant of a combined type holds: the record of a modeled error, or what the runtime
has for other errors. -/
theorem variant_payload {m : Model} {p : SymbolProvider} {classifier : Classifier}
    {path runtime : String} (resolvable : m.Resolvable p path) {c : CombinedError}
    (union : c ∈ m.unions p classifier) {w : VariantDecl}
    (variant : w ∈ (c.decl runtime).variants) :
    (w.name ∉ reservedVariants ∧ ∃ s ∈ m.structures, w.payload = (p.structureName s).ident) ∨
      (w.name = genericVariant ∧ w.payload = runtimePath runtime "ErrorMetadata") ∨
      (w.name = unhandledVariant ∧ w.payload = runtimePath runtime "BoxError") := by
  obtain ⟨o, -, rfl⟩ := List.mem_map.mp union
  simp only [CombinedError.decl, Operation.unionIn, ErrorSet.combinedOf, List.map_append,
    List.map_map, List.mem_append] at variant
  rcases variant with shape | fallback
  · obtain ⟨e, listed, rfl⟩ := List.mem_map.mp shape
    obtain ⟨s, fault, declared, -, side, rfl⟩ := shape_of_listed_error listed
    refine Or.inl ⟨?_, s, declared, rfl⟩
    exact (resolvable.allowed s declared).variant (by simp [Structure.isError, side])
  · simp only [fallbackVariants, List.map_cons, List.map_nil, List.mem_cons, List.not_mem_nil,
      or_false] at fallback
    rcases fallback with rfl | rfl
    · exact Or.inr (Or.inl ⟨rfl, rfl⟩)
    · exact Or.inr (Or.inr ⟨rfl, rfl⟩)

theorem builder_function_of_record {s : Structure} (sound : s.Sound) {name : ShapeName}
    {t : MethodsDecl} {f : Function} (methods : .methods t ∈ s.items name)
    (function : f ∈ t.functions) (named : f.name = "builder") : f = name.builderFunction := by
  rcases mem_structure_items.mp methods with record | accessors | error | builder
  · cases record
  · cases accessors
    simp only [Structure.accessors, List.mem_append, List.mem_map, List.mem_singleton] at function
    rcases function with ⟨m, member, rfl⟩ | rfl
    · rw [accessor_name] at named
      exact absurd (by rw [named]; decide) (field_not_reserved sound member)
    · rfl
  · unfold Structure.errorItems at error
    split at error
    · simp only [List.mem_cons, Item.methods.injEq, List.not_mem_nil, or_false] at error
      rcases error with rfl | rfl
      · simp only [List.mem_singleton] at function
        subst function
        exact absurd named (show "fmt" ≠ "builder" by decide)
      · cases function
    · cases error
  · cases builder

def CombinedError.fixedNames : List String :=
  ["unhandled", "generic", "message", "code", "retryable_error_kind", "fmt", "source"]

theorem CombinedError.own_names_fixed :
    ["unhandled", "generic", "message", "code"] ⊆ fixedNames := by decide

theorem CombinedError.trait_names_fixed :
    ["retryable_error_kind", "code"] ⊆ fixedNames ∧ ["fmt"] ⊆ fixedNames ∧
      ["source"] ⊆ fixedNames := by decide

theorem union_function_name {c : CombinedError} {runtime : String} {t : MethodsDecl}
    {f : Function} (methods : .methods t ∈ c.items runtime) (function : f ∈ t.functions) :
    f.name ∈ CombinedError.fixedNames ∨ ∃ s, f.name = CombinedError.predicateName s := by
  simp only [CombinedError.items, CombinedError.ownMethods, CombinedError.kindMethods,
    CombinedError.displayMethods, CombinedError.errorMethods, CombinedError.methods,
    List.mem_cons, reduceCtorEq, Item.methods.injEq, List.not_mem_nil, or_false, false_or]
    at methods
  rcases methods with rfl | rfl | rfl | rfl
  · rcases List.mem_append.mp function with fixed | predicate
    · have own : f.name ∈ ["unhandled", "generic", "message", "code"] := List.mem_map_of_mem fixed
      exact Or.inl (CombinedError.own_names_fixed own)
    · obtain ⟨⟨v, s, k⟩, -, rfl⟩ := List.mem_map.mp predicate
      exact Or.inr ⟨s, rfl⟩
  · have kind : f.name ∈ ["retryable_error_kind", "code"] := List.mem_map_of_mem function
    exact Or.inl (CombinedError.trait_names_fixed.1 kind)
  · have display : f.name ∈ ["fmt"] := List.mem_map_of_mem function
    exact Or.inl (CombinedError.trait_names_fixed.2.1 display)
  · have source : f.name ∈ ["source"] := List.mem_map_of_mem function
    exact Or.inl (CombinedError.trait_names_fixed.2.2 source)

theorem no_builder_function_of_union {c : CombinedError} {runtime : String} {t : MethodsDecl}
    {f : Function} (methods : .methods t ∈ c.items runtime) (function : f ∈ t.functions) :
    f.name ≠ "builder" := by
  rcases union_function_name methods function with fixed | ⟨s, named⟩
  · intro builder
    rw [builder] at fixed
    exact absurd fixed (by decide)
  · intro builder
    have chars := congrArg String.toList (named.symm.trans builder)
    simp [CombinedError.predicateName, String.toList_append] at chars

theorem union_names (m : Model) (p : SymbolProvider) (classifier : Classifier) (runtime : String) :
    (m.planned p classifier runtime).combined.map CombinedError.name =
      m.operations.map fun o => (p.operationName o).unionName := by
  simp only [Model.planned, Model.unions, List.map_map]
  rfl

theorem no_union_in_structure {s : Structure} {name : ShapeName} {u : UnionDecl} :
    .union u ∉ s.items name := by
  intro member
  rcases mem_structure_items.mp member with record | accessors | error | builder
  · cases record
  · cases accessors
  · unfold Structure.errorItems at error
    split at error
    · simp at error
    · cases error
  · cases builder

theorem planned_union {m : Model} {p : SymbolProvider} {classifier : Classifier}
    {runtime : String} {u : UnionDecl}
    (union : .union u ∈ (m.planned p classifier runtime).items) :
    ∃ c ∈ m.unions p classifier, u = c.decl runtime := by
  rcases mem_planned_items.mp union with ⟨s, -, record⟩ | ⟨c, listed, declared⟩
  · exact absurd record no_union_in_structure
  · refine ⟨c, listed, ?_⟩
    simpa [CombinedError.items, CombinedError.ownMethods, CombinedError.kindMethods,
      CombinedError.displayMethods, CombinedError.errorMethods, CombinedError.methods]
      using declared

/-- All names that a generated module defines for types and modules differ, also without the marks
of raw identifiers, and they are those of the records, their builders' modules and the combined
types. What a variant holds and where a builder is found is one of these definitions, or what the
runtime has for errors without a shape. -/
theorem generated_names_distinct {v : ValidModel} {check : SyntaxCheck} {o : Options}
    {classifier : Classifier} {g : GeneratedModule}
    (done : v.generateChecked check o classifier = .ok g) :
    ∃ plan, v.plan o classifier = .ok plan ∧ g.source = (moduleSheet v plan.items).text ∧
      typeNames plan.items =
        (v.model.structures.flatMap fun s =>
          let name := (SymbolProvider.standard o.renameExceptions).structureName s
          [name.ident, name.builderModule]) ++ g.combined.map CombinedError.name ∧
      g.combined.map CombinedError.name =
        v.model.operations.map (fun p => p.name ++ combinedSuffix) ∧
      WordsDistinct (typeNames plan.items) ∧
      (∀ u, .union u ∈ plan.items → ∀ w ∈ u.variants,
        (w.name ∉ reservedVariants ∧ ∃ r, .record r ∈ plan.items ∧ w.payload = r.name) ∨
        (w.name = genericVariant ∧ w.payload = runtimePath o.runtimeCrate "ErrorMetadata") ∨
        (w.name = unhandledVariant ∧ w.payload = runtimePath o.runtimeCrate "BoxError")) ∧
      ∀ t, .methods t ∈ plan.items → ∀ f ∈ t.functions, f.name = "builder" →
        ∃ docs visibility name items r, .module docs visibility name items ∈ plan.items ∧
          .record r ∈ items ∧ r.name = "Builder" ∧ f.returns = some (name ++ "::Builder") ∧
          f.body = .value (.initial (name ++ "::Builder")) := by
  obtain ⟨plan, planned, source, combined⟩ := generate_checked_ok done
  obtain ⟨path, resolvable, rfl⟩ := (plan_ok_iff ..).mp planned
  have sound := v.sound
  refine ⟨_, planned, source, ?names, ?combined, planned_names_distinct sound resolvable classifier,
    ?variants, ?builders⟩
  case names =>
    rw [planned_type_names, combined, union_names]
  case combined =>
    rw [combined, union_names]
    rfl
  case variants =>
    intro u union w variant
    obtain ⟨c, listed, rfl⟩ := planned_union union
    rcases variant_payload resolvable listed variant with ⟨apart, s, declared, payload⟩ | runtime
    · exact Or.inl ⟨apart, _, planned_record _ _ _ _ declared, payload⟩
    · exact Or.inr runtime
  case builders =>
    intro t methods f function named
    rcases mem_planned_items.mp methods with ⟨s, declared, record⟩ | ⟨c, -, union⟩
    · rw [builder_function_of_record (sound.structures s declared) record function named]
      exact ⟨_, _, _, _, s.builderDecl _, planned_module _ _ _ _ declared, List.mem_cons_self, rfl,
        rfl, rfl⟩
    · exact absurd named (no_builder_function_of_union union function)

theorem store_names_distinct :
    ∃ g plan, storeModel.generateChecked .byPath .default RetryPolicy.faultSide.classify = .ok g ∧
      storeModel.plan .default RetryPolicy.faultSide.classify = .ok plan ∧
      typeNames plan.items = ["MissingItemError", "missing_item_error", "BrokenStore",
        "broken_store", "TakeItemError"] ∧ WordsDistinct (typeNames plan.items) := by
  obtain ⟨g, done⟩ := store_generated RetryPolicy.faultSide.classify
  obtain ⟨plan, planned, -, names, combined, distinct, -⟩ := generated_names_distinct done
  refine ⟨g, plan, done, planned, ?_, distinct⟩
  rw [names, combined]
  decide +kernel

end ErrorUnion
