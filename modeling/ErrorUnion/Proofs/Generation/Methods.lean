import ErrorUnion.Proofs.Decl.Evaluation
import ErrorUnion.Proofs.Generation.Namespace

/- The functions of a generated program. A type's functions are declared in one place, since types
   and modules have different names, so that a call by name ends up in the one that is meant. -/
namespace ErrorUnion
open Text Name

def Model.program (m : Model) (p : SymbolProvider) (classifier : Classifier) (runtime : String) :
    Program :=
  ⟨runtime, (m.planned p classifier runtime).items⟩

theorem program_methods_iff {m : Model} {p : SymbolProvider} {classifier : Classifier}
    {runtime : String} {n : Method} :
    n ∈ (m.program p classifier runtime).methods ↔
      (∃ s ∈ m.structures, n ∈ itemsMethods [] (s.items (p.structureName s))) ∨
        ∃ c ∈ m.unions p classifier, n ∈ itemsMethods [] (c.items runtime) := by
  simp only [Program.methods, Model.program, mem_items_methods, mem_planned_items]
  constructor
  · rintro ⟨i, ⟨s, declared, member⟩ | ⟨c, listed, member⟩, inside⟩
    · exact Or.inl ⟨s, declared, i, member, inside⟩
    · exact Or.inr ⟨c, listed, i, member, inside⟩
  · rintro (⟨s, declared, i, member, inside⟩ | ⟨c, listed, i, member, inside⟩)
    · exact ⟨i, Or.inl ⟨s, declared, member⟩, inside⟩
    · exact ⟨i, Or.inr ⟨c, listed, member⟩, inside⟩

def Structure.displayMethod (s : Structure) (name : ShapeName) : Method :=
  ⟨[], name.ident, some displayTrait,
    (Function.method "fmt" displayParams (some "std::fmt::Result")
      (.block ((s.display name).stmts selfExpr))).withVisibility .inherited⟩

def ShapeName.builderMethod (n : ShapeName) (f : Function) : Method :=
  ⟨[n.builderModule], n.builderType, none, f⟩

theorem builder_type_in_module (n : ShapeName) :
    qualified [n.builderModule] "Builder" = n.builderType := by
  have path : qualified [n.builderModule] "Builder" = n.builderModule ++ "::" ++ "Builder" := by
    simp [qualified, afterHead?, joinWith]
  rw [path, String.append_assoc]
  rfl

theorem outer_type_in_module (n : ShapeName) :
    qualified [n.builderModule] n.outerType = n.ident := by
  have head : afterHead? "super::".toList n.outerType.toList = some n.ident.toList :=
    (after_head_iff _ _ _).mpr (String.toList_append ..)
  simp only [qualified, head, List.reverse_nil, List.nil_append, joinWith, String.ofList_toList]

theorem builder_methods_in_module (s : Structure) (name : ShapeName) :
    (s.builderItem name).methodsIn [] =
      (s.builderMethods name).functions.map name.builderMethod := by
  have type : qualified [name.builderModule] (s.builderMethods name).target = name.builderType :=
    builder_type_in_module name
  simp only [Structure.builderItem, Item.methodsIn, itemsMethods, List.nil_append,
    List.append_nil, type]
  rfl

/-- A function of a record is declared with it, in the scope of all types, displays it, or is one of
its builder. -/
theorem record_method_cases {s : Structure} {name : ShapeName} {n : Method}
    (member : n ∈ itemsMethods [] (s.items name)) :
    (∃ f ∈ (s.accessors name).functions, n = ⟨[], name.ident, none, f⟩) ∨
      n = s.displayMethod name ∨
      ∃ f ∈ (s.builderMethods name).functions, n = name.builderMethod f := by
  obtain ⟨i, item, inside⟩ := mem_items_methods.mp member
  rcases mem_structure_items.mp item with rfl | rfl | error | rfl
  · cases inside
  · obtain ⟨f, function, rfl⟩ := List.mem_map.mp inside
    exact Or.inl ⟨f, function, rfl⟩
  · unfold Structure.errorItems at error
    split at error
    · simp only [List.mem_cons, List.not_mem_nil, or_false] at error
      rcases error with rfl | rfl
      · exact Or.inr (Or.inl (List.mem_singleton.mp inside))
      · cases inside
    · cases error
  · rw [builder_methods_in_module] at inside
    obtain ⟨f, function, rfl⟩ := List.mem_map.mp inside
    exact Or.inr (Or.inr ⟨f, function, rfl⟩)

theorem accessor_declared {s : Structure} {name : ShapeName} {f : Function}
    (function : f ∈ (s.accessors name).functions) :
    ⟨[], name.ident, none, f⟩ ∈ itemsMethods [] (s.items name) :=
  mem_items_methods.mpr
    ⟨.methods (s.accessors name), mem_structure_items.mpr (Or.inr (Or.inl rfl)),
      List.mem_map_of_mem function⟩

theorem accessor_method_unique {s : Structure} (sound : s.FieldsSound) {name : ShapeName}
    (apart : name.builderType ≠ name.ident) {f : Function}
    (function : f ∈ (s.accessors name).functions) {n : Method}
    (member : n ∈ itemsMethods [] (s.items name)) (typed : n.type = name.ident)
    (own : n.trait = none) (named : n.function.name = f.name) : n = ⟨[], name.ident, none, f⟩ := by
  have distinct : ((s.accessors name).functions.map Function.name).Nodup := by
    rw [accessors_block]
    exact List.Nodup.of_map _ (accessors_distinct sound)
  rcases record_method_cases member with ⟨g, other, rfl⟩ | rfl | ⟨g, -, rfl⟩
  · rw [List.inj_on_of_nodup_map distinct other function named]
  · cases own
  · exact absurd typed apart

theorem builder_declared {s : Structure} {name : ShapeName} {f : Function}
    (function : f ∈ (s.builderMethods name).functions) :
    name.builderMethod f ∈ itemsMethods [] (s.items name) := by
  refine mem_items_methods.mpr
    ⟨s.builderItem name, mem_structure_items.mpr (Or.inr (Or.inr (Or.inr rfl))), ?_⟩
  rw [builder_methods_in_module]
  exact List.mem_map_of_mem function

namespace CombinedError

def method (c : CombinedError) (trait : Option String) (f : Function) : Method :=
  ⟨[], c.name, trait, f⟩

/-- The functions of a combined type itself, less those that each ask for one variant. -/
def ownTable (c : CombinedError) (runtime : String) : List Method :=
  [c.method none (c.wrapUnhandled runtime), c.method none (c.wrapGeneric runtime),
   c.method none c.messageFunction, c.method none c.codeFunction]

def traitTable (c : CombinedError) (runtime : String) : List Method :=
  [c.method (some (kindTrait runtime)) (c.kindFunction runtime),
   c.method (some (kindTrait runtime)) c.kindCodeFunction,
   c.method (some displayTrait) c.displayFunction, c.method (some errorTrait) c.sourceFunction]

def predicateTable (c : CombinedError) : List Method :=
  c.shapeVariants.map fun v => c.method none (c.predicate v.1 v.2.1)

theorem methods_of_items (c : CombinedError) (runtime : String) :
    itemsMethods [] (c.items runtime) =
      c.ownTable runtime ++ c.predicateTable ++ c.traitTable runtime := by
  have own : (c.ownMethods runtime).methodsIn [] = c.ownTable runtime ++ c.predicateTable := by
    simp only [ownMethods, methods, Item.methodsIn, List.map_append, List.map_map]
    rfl
  have items : itemsMethods [] (c.items runtime) =
      (c.ownMethods runtime).methodsIn [] ++ c.traitTable runtime := rfl
  rw [items, own]

theorem method_of_union_iff {c : CombinedError} {runtime : String} {n : Method} :
    n ∈ itemsMethods [] (c.items runtime) ↔
      n ∈ c.ownTable runtime ++ c.traitTable runtime ∨ n ∈ c.predicateTable := by
  simp only [methods_of_items, List.mem_append, or_assoc]
  exact or_congr_right or_comm

section Fixed
variable (c : CombinedError) (runtime : String)

theorem message_fixed : c.method none c.messageFunction ∈
    c.ownTable runtime ++ c.traitTable runtime := by
  simp [ownTable]

theorem code_fixed : c.method none c.codeFunction ∈
    c.ownTable runtime ++ c.traitTable runtime := by
  simp [ownTable]

theorem kind_fixed : c.method (some (kindTrait runtime)) (c.kindFunction runtime) ∈
    c.ownTable runtime ++ c.traitTable runtime := by
  simp [traitTable]

theorem kind_code_fixed : c.method (some (kindTrait runtime)) c.kindCodeFunction ∈
    c.ownTable runtime ++ c.traitTable runtime := by
  simp [traitTable]

theorem display_fixed : c.method (some displayTrait) c.displayFunction ∈
    c.ownTable runtime ++ c.traitTable runtime := by
  simp [traitTable]

theorem source_fixed : c.method (some errorTrait) c.sourceFunction ∈
    c.ownTable runtime ++ c.traitTable runtime := by
  simp [traitTable]

end Fixed

theorem union_method_form {c : CombinedError} {runtime : String} {n : Method}
    (member : n ∈ itemsMethods [] (c.items runtime)) : ∃ trait f, n = c.method trait f := by
  rcases method_of_union_iff.mp member with fixed | predicate
  · simp only [ownTable, traitTable, List.cons_append, List.nil_append, List.mem_cons,
      List.not_mem_nil, or_false] at fixed
    rcases fixed with rfl | rfl | rfl | rfl | rfl | rfl | rfl | rfl
    all_goals exact ⟨_, _, rfl⟩
  · obtain ⟨v, -, rfl⟩ := List.mem_map.mp predicate
    exact ⟨_, _, rfl⟩

theorem fixed_methods_distinct (c : CombinedError) (runtime : String) :
    ((c.ownTable runtime ++ c.traitTable runtime).map fun n =>
      (n.trait, n.function.name)).Nodup := by
  have keys : ((c.ownTable runtime ++ c.traitTable runtime).map fun n =>
      (n.trait, n.function.name)) =
    [(none, "unhandled"), (none, "generic"), (none, "message"), (none, "code"),
     (some (kindTrait runtime), "retryable_error_kind"), (some (kindTrait runtime), "code"),
     (some displayTrait, "fmt"), (some errorTrait, "source")] := rfl
  rw [keys]
  simp

theorem fixed_method_name {c : CombinedError} {runtime : String} {n : Method}
    (fixed : n ∈ c.ownTable runtime ++ c.traitTable runtime) : n.function.name ∈ fixedNames := by
  have names : n.function.name ∈ ["unhandled", "generic", "message", "code",
      "retryable_error_kind", "code", "fmt", "source"] :=
    List.mem_map_of_mem (f := fun n => n.function.name) fixed
  have inside : ["unhandled", "generic", "message", "code", "retryable_error_kind", "code", "fmt",
      "source"] ⊆ fixedNames := by decide
  exact inside names

theorem predicate_method_name {c : CombinedError} {n : Method} (predicate : n ∈ c.predicateTable) :
    n.function.name ∉ fixedNames := by
  obtain ⟨v, -, rfl⟩ := List.mem_map.mp predicate
  intro fixed
  have heads : ∀ name ∈ fixedNames, name.toList.take 3 ≠ "is_".toList := by decide
  apply heads _ fixed
  simp [method, CombinedError.predicate, Function.withDocs, Function.method, predicateName,
    String.toList_append]

theorem fixed_method_unique {c : CombinedError} {runtime : String} {n k : Method}
    (fixed : n ∈ c.ownTable runtime ++ c.traitTable runtime)
    (other : k ∈ itemsMethods [] (c.items runtime)) (trait : k.trait = n.trait)
    (name : k.function.name = n.function.name) : k = n := by
  rcases method_of_union_iff.mp other with also | predicate
  · exact List.inj_on_of_nodup_map (fixed_methods_distinct c runtime) also fixed
      (Prod.ext trait name)
  · exact absurd (name ▸ fixed_method_name fixed) (predicate_method_name predicate)

end CombinedError

section Owners
variable {m : Model} {rename : Bool} {classifier : Classifier} {runtime : String}

theorem union_name {c : CombinedError} (listed : c ∈ m.unions (.standard rename) classifier) :
    ∃ o ∈ m.operations, c.name = ((SymbolProvider.standard rename).operationName o).unionName := by
  obtain ⟨o, declared, rfl⟩ := List.mem_map.mp listed
  exact ⟨o, declared, rfl⟩

theorem union_is_type {c : CombinedError} (listed : c ∈ m.unions (.standard rename) classifier) :
    c.name ∈ (SymbolProvider.standard rename).unionAndRecordNames m := by
  obtain ⟨o, declared, name⟩ := union_name listed
  exact List.mem_append_right _ (List.mem_map.mpr ⟨o, declared, name.symm⟩)

theorem record_is_type {s : Structure} (declared : s ∈ m.structures) :
    ((SymbolProvider.standard rename).structureName s).ident ∈
      (SymbolProvider.standard rename).unionAndRecordNames m :=
  List.mem_append_left _ (List.mem_map_of_mem declared)

theorem no_colon_in_type (sound : m.Sound) {name : String}
    (type : name ∈ (SymbolProvider.standard rename).unionAndRecordNames m) : ':' ∉ name.toList :=
  no_colon_in_word (type_name_is_word (type_names_are_type_names sound rename name type))

theorem no_colon_in_module (sound : m.Sound) {s : Structure} (declared : s ∈ m.structures) :
    ':' ∉ ((SymbolProvider.standard rename).structureName s).builderModule.toList := by
  apply no_colon_in_escape
  intro member
  have word := type_name_is_word (structure_ident_type_name (sound.structures s declared) rename)
  have char := snake_word word_start_is_word_char word ':' member
  exact absurd char.1 (by decide)

theorem type_apart_from_builder (sound : m.Sound) {name : String}
    (type : name ∈ (SymbolProvider.standard rename).unionAndRecordNames m) (other : ShapeName) :
    other.builderType ≠ name := by
  rintro rfl
  exact no_colon_in_type sound type (by simp [ShapeName.builderType, String.toList_append])

theorem distinct_unions (resolvable : m.Resolvable (.standard rename) runtime)
    {c d : CombinedError} (hc : c ∈ m.unions (.standard rename) classifier)
    (hd : d ∈ m.unions (.standard rename) classifier) (same : c.name = d.name) : c = d := by
  have names := ((types_nodup_iff _ m).mp resolvable.types).2.1
  rw [← union_names m (.standard rename) classifier runtime] at names
  exact List.inj_on_of_nodup_map names hc hd same

theorem distinct_records (resolvable : m.Resolvable (.standard rename) runtime)
    {s t : Structure} (hs : s ∈ m.structures) (ht : t ∈ m.structures)
    (same : ((SymbolProvider.standard rename).structureName s).ident =
      ((SymbolProvider.standard rename).structureName t).ident) : s = t := by
  have names := ((types_nodup_iff _ m).mp resolvable.types).1
  exact List.inj_on_of_nodup_map names hs ht same

theorem union_apart_from_record (resolvable : m.Resolvable (.standard rename) runtime)
    {c : CombinedError} (listed : c ∈ m.unions (.standard rename) classifier) {s : Structure}
    (declared : s ∈ m.structures) :
    ((SymbolProvider.standard rename).structureName s).ident ≠ c.name := by
  intro same
  have types := resolvable.types
  rw [SymbolProvider.unionAndRecordNames, List.nodup_append'] at types
  obtain ⟨o, operation, name⟩ := union_name listed
  exact types.2.2 (List.mem_map.mpr ⟨s, declared, same⟩)
    (List.mem_map.mpr ⟨o, operation, name.symm⟩)

theorem owner_of_union_method (sound : m.Sound)
    (resolvable : m.Resolvable (.standard rename) runtime) {c : CombinedError}
    (listed : c ∈ m.unions (.standard rename) classifier) {n : Method}
    (member : n ∈ (m.program (.standard rename) classifier runtime).methods)
    (typed : n.type = c.name) : n ∈ itemsMethods [] (c.items runtime) := by
  rcases program_methods_iff.mp member with ⟨s, declared, record⟩ | ⟨d, other, union⟩
  · have apart := union_apart_from_record resolvable listed declared
    rcases record_method_cases record with ⟨f, -, rfl⟩ | rfl | ⟨f, -, rfl⟩
    · exact absurd typed apart
    · exact absurd typed apart
    · exact absurd typed (type_apart_from_builder sound (union_is_type listed) _)
  · obtain ⟨trait, f, rfl⟩ := CombinedError.union_method_form union
    rw [← distinct_unions resolvable other listed typed]
    exact union

theorem owner_of_record_method (sound : m.Sound)
    (resolvable : m.Resolvable (.standard rename) runtime) {s : Structure}
    (declared : s ∈ m.structures) {n : Method}
    (member : n ∈ (m.program (.standard rename) classifier runtime).methods)
    (typed : n.type = ((SymbolProvider.standard rename).structureName s).ident) :
    n ∈ itemsMethods [] (s.items ((SymbolProvider.standard rename).structureName s)) := by
  rcases program_methods_iff.mp member with ⟨t, other, record⟩ | ⟨c, listed, union⟩
  · rcases record_method_cases record with ⟨f, -, rfl⟩ | rfl | ⟨f, -, rfl⟩
    · rw [← distinct_records resolvable other declared typed]
      exact record
    · rw [← distinct_records resolvable other declared typed]
      exact record
    · exact absurd typed (type_apart_from_builder sound (record_is_type declared) _)
  · obtain ⟨trait, f, rfl⟩ := CombinedError.union_method_form union
    exact absurd typed.symm (union_apart_from_record resolvable listed declared)

theorem union_method_found (sound : m.Sound)
    (resolvable : m.Resolvable (.standard rename) runtime) {c : CombinedError}
    (listed : c ∈ m.unions (.standard rename) classifier) {trait : Option String} {f : Function}
    (fixed : c.method trait f ∈ c.ownTable runtime ++ c.traitTable runtime) (name : String)
    (named : f.name = name) :
    (m.program (.standard rename) classifier runtime).method? c.name trait name =
      some (c.method trait f) := by
  subst named
  have declared := CombinedError.method_of_union_iff.mpr (Or.inl fixed)
  apply method_found (m := c.method trait f)
    (program_methods_iff.mpr (Or.inr ⟨c, listed, declared⟩))
  intro n member type same name
  exact CombinedError.fixed_method_unique fixed
    (owner_of_union_method sound resolvable listed member type) same name

variable (classifier) in
theorem accessor_found (sound : m.Sound)
    (resolvable : m.Resolvable (.standard rename) runtime) {s : Structure}
    (declared : s ∈ m.structures) {a : Member} (member : a ∈ s.members) :
    (m.program (.standard rename) classifier runtime).method?
        ((SymbolProvider.standard rename).structureName s).ident none a.field =
      some ⟨[], ((SymbolProvider.standard rename).structureName s).ident, none, a.accessor⟩ := by
  have function : a.accessor ∈
      (s.accessors ((SymbolProvider.standard rename).structureName s)).functions :=
    List.mem_append_left _ (List.mem_map_of_mem member)
  rw [← accessor_name a]
  apply method_found (program_methods_iff.mpr (Or.inl ⟨s, declared, accessor_declared function⟩))
  intro n inside typed trait name
  exact accessor_method_unique (sound.structures s declared)
    (type_apart_from_builder sound (record_is_type declared) _) function
    (owner_of_record_method sound resolvable declared inside typed) typed trait name

theorem union_listed {o : Operation} (declared : o ∈ m.operations) (p : SymbolProvider)
    (classifier : Classifier) : o.unionIn m p classifier ∈ m.unions p classifier :=
  List.mem_map_of_mem declared

theorem code_path (name : String) : name ++ "::code" = name ++ "::" ++ "code" := by
  rw [String.append_assoc]
  rfl

theorem builder_path (module function : String) :
    module ++ "::Builder" ++ "::" ++ function = module ++ "::" ++ ("Builder::" ++ function) := by
  simp only [String.append_assoc]
  rfl

theorem code_function_found (sound : m.Sound)
    (resolvable : m.Resolvable (.standard rename) runtime) {c : CombinedError}
    (listed : c ∈ m.unions (.standard rename) classifier) :
    (m.program (.standard rename) classifier runtime).function? (c.name ++ "::code") =
      some (c.method none c.codeFunction) := by
  have fixed := CombinedError.code_fixed c runtime
  have declared := CombinedError.method_of_union_iff.mpr (Or.inl fixed)
  have plain := no_colon_in_type sound (union_is_type listed)
  rw [code_path]
  apply function_found (m := c.method none c.codeFunction)
    (program_methods_iff.mpr (Or.inr ⟨c, listed, declared⟩)) rfl
  intro n member own path
  rcases program_methods_iff.mp member with ⟨s, record, inside⟩ | ⟨d, union, inside⟩
  · rcases record_method_cases inside with ⟨f, -, rfl⟩ | rfl | ⟨f, -, rfl⟩
    · have same := (path_names (no_colon_in_type sound (record_is_type record)) plain path).1
      exact absurd same (union_apart_from_record resolvable listed record)
    · cases own
    · rw [ShapeName.builderMethod, ShapeName.builderType, builder_path] at path
      have same := (path_names (no_colon_in_module sound record) plain path).1
      exact absurd (congrArg Value.shownName same.symm)
        (type_apart_from_module sound rename (union_is_type listed) record)
  · obtain ⟨trait, f, rfl⟩ := CombinedError.union_method_form inside
    obtain ⟨same, name⟩ := path_names (no_colon_in_type sound (union_is_type union)) plain path
    rw [distinct_unions resolvable union listed same] at inside ⊢
    exact CombinedError.fixed_method_unique fixed inside own name

theorem variant_is_type_name (sound : m.Sound) {c : CombinedError}
    (listed : c ∈ m.unions (.standard rename) classifier) {w : Variant} (member : w ∈ c.variants) :
    IsTypeName w.name := by
  obtain ⟨o, -, rfl⟩ := List.mem_map.mp listed
  rcases List.mem_append.mp member with shape | fallback
  · obtain ⟨e, error, rfl⟩ := List.mem_map.mp shape
    obtain ⟨s, fault, declared, -, -, rfl⟩ := shape_of_listed_error error
    exact structure_ident_type_name (sound.structures s declared) rename
  · have all : ∀ v ∈ fallbackVariants, IsTypeName v.name := by decide
    exact all w fallback

theorem variant_decl_name (w : Variant) (runtime : String) : (w.decl runtime).name = w.name := by
  unfold Variant.decl
  split <;> rfl

theorem declared_union {p : Program} {u : UnionDecl} (member : u ∈ p.unions) :
    .union u ∈ p.items := by
  obtain ⟨i, item, found⟩ := List.mem_filterMap.mp member
  cases i with
  | union d =>
    cases found
    exact item
  | _ => cases found

theorem code_is_no_variant (sound : m.Sound) {c : CombinedError}
    (listed : c ∈ m.unions (.standard rename) classifier) :
    (m.program (.standard rename) classifier runtime).variant? (c.name ++ "::code") = none := by
  apply variant_none
  intro u union v variant path
  obtain ⟨d, other, rfl⟩ := planned_union (declared_union union)
  obtain ⟨w, member, rfl⟩ := List.mem_map.mp variant
  rw [code_path] at path
  have name := (path_names (no_colon_in_type sound (union_is_type other))
    (no_colon_in_type sound (union_is_type listed)) path).2
  have word := variant_is_type_name sound other member
  rw [variant_decl_name] at name
  rw [name] at word
  exact absurd word (by decide)

end Owners

end ErrorUnion
