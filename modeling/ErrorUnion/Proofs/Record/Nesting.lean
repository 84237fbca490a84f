import ErrorUnion.Record.Decls
import ErrorUnion.Proofs.Decl.Nesting
import ErrorUnion.Proofs.Name.Plain
import ErrorUnion.Proofs.Text.Prose

/- The declarations of a structure stay in their places, if its members and its type are called by
   words. What its documentation says does not matter. -/
namespace ErrorUnion
open Text Name

theorem doc_lines_one_line (prose : Option String) : ∀ d ∈ docLines prose, OneLine d :=
  fun d listed => (doc_lines_unbroken prose d listed).1

theorem type_text_plain (t : Target) : Plain t.typeText := by
  cases t <;> decide

theorem option_plain {type : String} (plain : Plain type) : Plain (optionOf type) :=
  plain_append (plain_append (by decide) plain) (by decide)

theorem template_contained (t : DisplayTemplate) {record : Expr} (contained : record.Contained) :
    stmtsContained (t.stmts record) := by
  have formatter : Inert "f" := fun _ _ => rfl
  have message : Inert "message" := fun _ _ => rfl
  have write (text : String) : (writeText text).Contained :=
    ⟨formatter, fun _ _ => rfl, trivial, trivial⟩
  have ok : (Expr.call "Ok" [.unit]).Contained := ⟨fun _ _ => rfl, trivial, trivial⟩
  cases t with
  | withMessage ident =>
    exact ⟨write ident, ⟨message, ⟨contained, message, trivial⟩, ⟨formatter, message⟩, trivial⟩, ok,
      trivial⟩
  | nameOnly ident => exact ⟨write ident, trivial⟩
  | renamed ident wire => exact ⟨write _, trivial⟩

theorem display_params_contained : ∀ p ∈ displayParams, p.Contained := by
  rw [displayParams, List.forall_mem_cons, List.forall_mem_singleton]
  exact ⟨trivial, fun _ _ => rfl, fun _ _ => rfl⟩

variable {m : Member} {s : Structure} {name : ShapeName}

theorem field_plain (word : IsWord m.name) : Plain m.field := escape_plain (snake_plain word)

theorem self_contained : selfExpr.Contained := fun _ _ => rfl

theorem builder_inert : Inert "Builder" := fun _ _ => rfl

theorem self_field_contained (word : IsWord m.name) : m.selfField.Contained :=
  ⟨fun _ _ => rfl, inert_of_plain (field_plain word)⟩

theorem input_contained {type : String} (plain : Plain type) :
    ∀ p ∈ [Param.mutable, Param.typed "input" type], p.Contained := by
  rw [List.forall_mem_cons, List.forall_mem_singleton]
  exact ⟨trivial, fun _ _ => rfl, inert_of_plain plain⟩

theorem accessor_contained (word : IsWord m.name) : m.accessor.Contained := by
  have field := self_field_contained word
  have named := inert_of_plain (field_plain word)
  by_cases copy : m.target.isCopy = true
  · simp only [Member.accessor, copy, if_true]
    have type := inert_of_plain (option_plain (type_text_plain m.target))
    exact with_docs_contained
      (method_contained named borrowed_contained type (value_contained field))
      (doc_lines_one_line m.documentation)
  · simp only [Member.accessor, copy]
    have text : Plain (optionOf "&str") := by decide
    have type := inert_of_plain text
    have slice : (Expr.method m.selfField "as_deref" []).Contained :=
      ⟨field, fun _ _ => rfl, trivial⟩
    exact with_docs_contained
      (method_contained named borrowed_contained type (value_contained slice))
      (doc_lines_one_line m.documentation)

theorem setter_contained (word : IsWord m.name) {setter type : String} {value : Expr}
    (named : Plain setter) (typed : Plain type) (contained : value.Contained) :
    (Function.method setter [.mutable, .typed "input" type] (some "Self")
      (.block [.run (.assign m.selfField value), .result selfExpr])).Contained :=
  method_contained (inert_of_plain named) (input_contained typed) (fun _ _ => rfl)
    ⟨⟨self_field_contained word, contained⟩, fun _ _ => rfl, trivial⟩

theorem value_setter_contained (word : IsWord m.name) : m.valueSetter.Contained := by
  have input : (Expr.var "input").Contained := fun _ _ => rfl
  have type := type_text_plain m.target
  by_cases copy : m.target.isCopy = true
  · simp only [Member.valueSetter, copy, if_true]
    exact with_docs_contained
      (setter_contained word (field_plain word) type (present_contained input))
      (doc_lines_one_line m.documentation)
  · simp only [Member.valueSetter, copy]
    have wide : Plain ("impl std::convert::Into<" ++ m.target.typeText ++ ">") :=
      plain_append (plain_append (by decide) type) (by decide)
    have value : (Expr.method (.var "input") "into" []).Contained :=
      ⟨input, fun _ _ => rfl, trivial⟩
    exact with_docs_contained
      (setter_contained word (field_plain word) wide (present_contained value))
      (doc_lines_one_line m.documentation)

theorem option_setter_contained (word : IsWord m.name) : m.optionSetter.Contained :=
  setter_contained word (plain_append (by decide) (snake_plain word))
    (option_plain (type_text_plain m.target)) fun _ _ => rfl

theorem fields_contained {ms : List Member} (words : ∀ m ∈ ms, IsWord m.name) :
    fieldsContained (ms.map fun m => (m.field, m.selfField)) := by
  induction ms with
  | nil => trivial
  | cons m r ih =>
    rw [List.forall_mem_cons] at words
    exact ⟨inert_of_plain (field_plain words.1), self_field_contained words.1, ih words.2⟩

structure ShapeName.Plain (n : ShapeName) : Prop where
  ident : Text.Plain n.ident
  module : Text.Plain n.builderModule

theorem outer_type_plain (plain : name.Plain) : Plain name.outerType :=
  plain_append (by decide) plain.ident

theorem builder_type_plain (plain : name.Plain) : Plain name.builderType :=
  plain_append plain.module (by decide)

theorem builder_function_contained (plain : name.Plain) : name.builderFunction.Contained := by
  have type := inert_of_plain (builder_type_plain plain)
  have params : ∀ p ∈ ([] : List Param), p.Contained := fun _ none => absurd none List.not_mem_nil
  have value : (Expr.initial name.builderType).Contained := type
  exact with_docs_contained (method_contained (fun _ _ => rfl) params type (value_contained value))
    (one_line_docs (name_in_docs (by decide) plain.ident (by decide)))

theorem link_one_line (plain : name.Plain) {head tail : String} (before : OneLine head)
    (behind : OneLine tail) :
    OneLine (head ++ name.ident ++ "`](" ++ name.outerType ++ tail) :=
  name_in_docs (name_in_docs before plain.ident (by decide)) (outer_type_plain plain) behind

theorem build_function_contained (plain : name.Plain) (words : ∀ m ∈ s.members, IsWord m.name) :
    (s.buildFunction name).Contained := by
  have type := inert_of_plain (outer_type_plain plain)
  have params : ∀ p ∈ [Param.owned], p.Contained := by
    rw [List.forall_mem_singleton]
    trivial
  have value : (Expr.record name.outerType
      (s.members.map fun m => (m.field, m.selfField))).Contained :=
    ⟨type, fields_contained words⟩
  exact with_docs_contained (method_contained (fun _ _ => rfl) params type (value_contained value))
    (one_line_docs (link_one_line plain (by decide) (by decide)))

theorem member_field_contained (word : IsWord m.name) {docs : List String}
    (lines : ∀ d ∈ docs, OneLine d) (v : Visibility) :
    (FieldDecl.mk docs v m.field (optionOf m.target.typeText)).Contained :=
  ⟨lines, inert_of_plain (field_plain word),
    inert_of_plain (option_plain (type_text_plain m.target))⟩

theorem record_decl_contained (plain : name.Plain) (words : ∀ m ∈ s.members, IsWord m.name) :
    (s.recordDecl name).Contained where
  docs := doc_lines_one_line s.documentation
  attributes := by
    rw [Structure.recordDecl, List.forall_mem_cons, List.forall_mem_singleton]
    exact ⟨trivial, derive_contained (by decide)⟩
  name := inert_of_plain plain.ident
  fields := by
    rw [Structure.recordDecl, List.forall_mem_map]
    exact fun m listed =>
      member_field_contained (words m listed) (doc_lines_one_line m.documentation) .everywhere

theorem accessors_contained (plain : name.Plain) (words : ∀ m ∈ s.members, IsWord m.name) :
    (s.accessors name).Contained where
  attributes := no_attributes
  trait := none_inert
  target := inert_of_plain plain.ident
  functions := by
    rw [Structure.accessors, List.forall_mem_append, List.forall_mem_map, List.forall_mem_singleton]
    exact ⟨fun m listed => accessor_contained (words m listed), builder_function_contained plain⟩

theorem error_items_contained (plain : name.Plain) : ∀ i ∈ s.errorItems name, i.Contained := by
  have target := inert_of_plain plain.ident
  have display : ((Function.method "fmt" displayParams (some "std::fmt::Result")
      (.block ((s.display name).stmts selfExpr))).withVisibility .inherited).Contained :=
    with_visibility_contained (method_contained (fun _ _ => rfl) display_params_contained
      (fun _ _ => rfl) (block_contained (template_contained _ self_contained))) .inherited
  unfold Structure.errorItems
  split
  · rw [List.forall_mem_cons, List.forall_mem_singleton]
    constructor
    · refine ⟨no_attributes, some_inert fun _ _ => rfl, target, ?_⟩
      rwa [List.forall_mem_singleton]
    · exact ⟨no_attributes, some_inert fun _ _ => rfl, target, fun _ none =>
        absurd none List.not_mem_nil⟩
  · exact fun _ none => absurd none List.not_mem_nil

theorem builder_decl_contained (plain : name.Plain) (words : ∀ m ∈ s.members, IsWord m.name) :
    (s.builderDecl name).Contained where
  docs := by
    have link : OneLine ("A builder for [`" ++ name.ident ++ "`](" ++ name.outerType ++ ").") :=
      link_one_line plain (by decide) (by decide)
    exact one_line_docs link
  attributes := by
    rw [Structure.builderDecl, List.forall_mem_singleton]
    exact derive_contained (by decide)
  name := builder_inert
  fields := by
    rw [Structure.builderDecl, List.forall_mem_map]
    exact fun m listed => member_field_contained (words m listed) no_docs .crate

theorem builder_methods_contained (plain : name.Plain) (words : ∀ m ∈ s.members, IsWord m.name) :
    (s.builderMethods name).Contained where
  attributes := no_attributes
  trait := none_inert
  target := builder_inert
  functions := by
    rw [Structure.builderMethods, List.forall_mem_append, List.forall_mem_singleton]
    refine ⟨?_, build_function_contained plain words⟩
    intro f member
    obtain ⟨m, listed, setter⟩ := List.mem_flatMap.mp member
    simp only [List.mem_cons, List.not_mem_nil, or_false] at setter
    rcases setter with rfl | rfl
    · exact value_setter_contained (words m listed)
    · exact option_setter_contained (words m listed)

theorem builder_item_contained (plain : name.Plain) (words : ∀ m ∈ s.members, IsWord m.name) :
    (s.builderItem name).Contained := by
  have link : OneLine ("See [`" ++ name.ident ++ "`](" ++ name.outerType ++ ").") :=
    link_one_line plain (by decide) (by decide)
  exact ⟨one_line_docs link, inert_of_plain plain.module, builder_decl_contained plain words,
    builder_methods_contained plain words, trivial⟩

theorem structure_items_contained (plain : name.Plain) (words : ∀ m ∈ s.members, IsWord m.name) :
    ∀ i ∈ s.items name, i.Contained := by
  intro i member
  simp only [Structure.items, List.mem_append, List.mem_cons, List.not_mem_nil, or_false] at member
  rcases member with ((rfl | rfl) | error) | rfl
  · exact record_decl_contained plain words
  · exact accessors_contained plain words
  · exact error_items_contained plain i error
  · exact builder_item_contained plain words

end ErrorUnion
