import ErrorUnion.Proofs.Decl.Identifiers
import ErrorUnion.Proofs.Name.Identifier
import ErrorUnion.Proofs.Record.Distinct

/- What the declarations of a structure name: words of the generators, and the names of the
   structure and its members in the few forms that these are given. -/
namespace ErrorUnion
open Text Name

/-- The words that generators use for identifiers of their own. -/
def ownWords : List String :=
  ["Builder", "builder", "build", "fmt", "write_str", "message", "as_deref", "into", "unhandled",
   "generic", "code", "retryable_error_kind", "source", "as_ref"]

theorem own_word_identifier {n : String} (own : n ∈ ownWords) : IsIdentifier n := by
  have all : ∀ w ∈ ownWords, IsIdentifier w := by decide
  exact all n own

theorem template_identifiers (t : DisplayTemplate) {e : Expr} (plain : e.identifiers = []) :
    stmtIdentifiers (t.stmts e) ⊆ ownWords := by
  cases t with
  | withMessage ident => simp [DisplayTemplate.stmts, writeText, plain, ownWords]
  | nameOnly ident => simp [DisplayTemplate.stmts, writeText, ownWords]
  | renamed ident wire => simp [DisplayTemplate.stmts, writeText, ownWords]

variable {s : Structure} {name : ShapeName} {n : String}

inductive RecordIdentifier (s : Structure) (name : ShapeName) : String → Prop where
  | own {n : String} (own : n ∈ ownWords) : RecordIdentifier s name n
  | type : RecordIdentifier s name name.ident
  | module : RecordIdentifier s name name.builderModule
  | field {m : Member} (member : m ∈ s.members) : RecordIdentifier s name m.field
  | setter {m : Member} (member : m ∈ s.members) : RecordIdentifier s name m.setter

theorem self_field_identifiers (m : Member) : m.selfField.identifiers = [m.field] := by
  simp [Member.selfField, selfExpr]

theorem accessor_identifiers (m : Member) : m.accessor.identifiers ⊆ [m.field, "as_deref"] := by
  by_cases copy : m.target.isCopy = true
  · simp [Member.accessor, copy, self_field_identifiers]
  · simp [Member.accessor, copy, self_field_identifiers]

theorem value_setter_identifiers (m : Member) :
    m.valueSetter.identifiers ⊆ [m.field, "into"] := by
  by_cases copy : m.target.isCopy = true
  · simp [Member.valueSetter, Expr.present, copy, self_field_identifiers, selfExpr]
  · simp [Member.valueSetter, Expr.present, copy, self_field_identifiers, selfExpr]

theorem option_setter_identifiers (m : Member) :
    m.optionSetter.identifiers = [m.setter, m.field] := by
  simp [Member.optionSetter, self_field_identifiers, selfExpr]

theorem initialiser_identifiers (ms : List Member) :
    fieldIdentifiers (ms.map fun m => (m.field, m.selfField)) =
      ms.flatMap fun m => [m.field, m.field] := by
  induction ms with
  | nil => rfl
  | cons m r ih => simp [self_field_identifiers, ih]

theorem record_fields_identifiers (s : Structure) (name : ShapeName) :
    (s.recordDecl name).identifiers = name.ident :: s.members.map Member.field := by
  rw [RecordDecl.identifiers, record_fields_block]
  rfl

theorem builder_fields_identifiers (s : Structure) (name : ShapeName) :
    (s.builderDecl name).identifiers = "Builder" :: s.members.map Member.field := by
  rw [RecordDecl.identifiers, builder_fields_block]
  rfl

theorem members_fields_identifiers (member : n ∈ s.members.map Member.field) :
    RecordIdentifier s name n := by
  obtain ⟨m, declared, rfl⟩ := List.mem_map.mp member
  exact .field declared

theorem accessors_identifiers (member : n ∈ (s.accessors name).identifiers) :
    RecordIdentifier s name n := by
  simp only [MethodsDecl.identifiers, Structure.accessors, List.flatMap_append, List.flatMap_map,
    List.flatMap_singleton, List.mem_cons, List.mem_append, List.mem_flatMap] at member
  rcases member with rfl | ⟨m, declared, inside⟩ | builder
  · exact .type
  · have named := accessor_identifiers m inside
    simp only [List.mem_cons, List.not_mem_nil, or_false] at named
    rcases named with rfl | rfl
    · exact .field declared
    · exact .own (by decide)
  · simp [ShapeName.builderFunction] at builder
    rw [builder]
    exact .own (by decide)

theorem error_items_identifiers (member : n ∈ (s.errorItems name).flatMap Item.identifiers) :
    RecordIdentifier s name n := by
  unfold Structure.errorItems at member
  split at member
  · have template := template_identifiers (s.display name) (e := selfExpr) (by simp [selfExpr])
    simp only [List.flatMap_cons, List.flatMap_nil, Item.identifiers, MethodsDecl.identifiers,
      with_visibility_identifiers, method_identifiers, block_identifiers, List.append_nil,
      List.mem_append, List.mem_cons, List.not_mem_nil, or_false] at member
    rcases member with (rfl | rfl | display) | rfl
    · exact .type
    · exact .own (by decide)
    · exact .own (template display)
    · exact .type
  · cases member

theorem builder_methods_identifiers (member : n ∈ (s.builderMethods name).identifiers) :
    RecordIdentifier s name n := by
  simp only [MethodsDecl.identifiers, Structure.builderMethods, List.flatMap_append,
    List.flatMap_singleton, List.mem_cons, List.mem_append, List.mem_flatMap, List.not_mem_nil,
    or_false] at member
  rcases member with rfl | ⟨f, ⟨m, declared, rfl | rfl⟩, inside⟩ | build
  · exact .own (by decide)
  · have named := value_setter_identifiers m inside
    simp only [List.mem_cons, List.not_mem_nil, or_false] at named
    rcases named with rfl | rfl
    · exact .field declared
    · exact .own (by decide)
  · simp only [option_setter_identifiers, List.mem_cons, List.not_mem_nil, or_false] at inside
    rcases inside with rfl | rfl
    · exact .setter declared
    · exact .field declared
  · simp only [Structure.buildFunction, with_docs_identifiers, method_identifiers,
      value_identifiers, Expr.identifiers, initialiser_identifiers, List.mem_cons, List.mem_flatMap,
      List.not_mem_nil, or_false, or_self] at build
    rcases build with rfl | ⟨m, declared, rfl⟩
    · exact .own (by decide)
    · exact .field declared

theorem structure_identifiers (member : n ∈ itemIdentifiers (s.items name)) :
    RecordIdentifier s name n := by
  rw [item_identifiers_flat_map, Structure.items, List.flatMap_append, List.flatMap_append,
    List.mem_append, List.mem_append] at member
  simp only [List.flatMap_cons, List.flatMap_nil, List.append_nil, Item.identifiers,
    Structure.builderItem, itemIdentifiers, List.mem_append, List.mem_cons,
    record_fields_identifiers, builder_fields_identifiers] at member
  rcases member with (((rfl | field) | accessor) | error) | rfl | (rfl | field) | setter
  · exact .type
  · exact members_fields_identifiers field
  · exact accessors_identifiers accessor
  · exact error_items_identifiers error
  · exact .module
  · exact .own (by decide)
  · exact members_fields_identifiers field
  · exact builder_methods_identifiers setter

theorem record_identifier_legal (sound : s.Sound) (word : IsTypeName name.ident)
    (other : name.ident ≠ "Self") (named : RecordIdentifier s name n) : IsIdentifier n := by
  cases named with
  | own listed => exact own_word_identifier listed
  | type => exact type_name_identifier word other
  | module => exact escaped_snake_identifier (type_name_is_word word) (type_name_not_line word)
  | field member =>
    obtain ⟨word, more⟩ := sound.memberNames _ member
    exact escaped_snake_identifier word more
  | setter member =>
    have chars := snake_word word_start_is_word_char (sound.memberNames _ member).1
    exact identifier_append (by decide) (fun c inside => (chars c inside).1) (by decide)

end ErrorUnion
