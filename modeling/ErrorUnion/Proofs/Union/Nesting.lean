import ErrorUnion.Union.Decls
import ErrorUnion.Proofs.Record.Nesting

/- The declarations of a combined type stay in their places, if all names in it and the path of the
   runtime are words. Wire names and deprecations are quoted, whatever they are. -/
namespace ErrorUnion
open Text Name

structure Variant.Plain (v : Variant) : Prop where
  name : Text.Plain v.name
  record : ∀ e k, v.kind = .shape e k → Text.Plain e.record.typePath
  snake : ∀ e k, v.kind = .shape e k → Text.Plain e.name.snake

structure CombinedError.Plain (c : CombinedError) : Prop where
  name : Text.Plain c.name
  operation : Text.Plain c.operation.ident
  variants : ∀ v ∈ c.variants, v.Plain

variable {c : CombinedError} {runtime : String}

theorem runtime_path_plain {runtime path : String} (root : Plain runtime) (plain : Plain path) :
    Plain (runtimePath runtime path) :=
  plain_append (plain_append root (by decide)) plain

theorem inner_contained : CombinedError.inner.Contained := fun _ _ => rfl

theorem variant_pattern_contained (plain : c.Plain) {v : Variant} (listed : v ∈ c.variants)
    (bound : Bool) : (c.pattern v bound).Contained := by
  refine ⟨inert_of_plain plain.name, inert_of_plain (plain.variants v listed).name, ?_⟩
  cases bound with
  | false => exact none_inert
  | true => exact some_inert fun _ _ => rfl

theorem by_self_contained (plain : c.Plain) {arm : Variant → Bool × ArmBody}
    (each : ∀ v, (arm v).2.Contained) : (c.bySelf arm).Contained := by
  refine ⟨fun _ _ => rfl, ?_⟩
  rw [CombinedError.arms, List.forall_mem_map]
  exact fun v listed => ⟨variant_pattern_contained plain listed _, each v⟩

theorem message_arm_contained (v : Variant) : (CombinedError.messageArm v).2.Contained := by
  have message : (Expr.method CombinedError.inner "message" []).Contained :=
    ⟨inner_contained, fun _ _ => rfl, trivial⟩
  unfold CombinedError.messageArm
  split
  · split
    · exact message
    · exact absent_contained
  · exact message
  · exact absent_contained

theorem code_arm_contained (v : Variant) : (CombinedError.codeArm v).2.Contained := by
  have code : (Expr.method CombinedError.inner "code" []).Contained :=
    ⟨inner_contained, fun _ _ => rfl, trivial⟩
  unfold CombinedError.codeArm
  split
  · exact present_contained trivial
  · exact code
  · exact absent_contained

theorem kind_trait_plain (root : Plain runtime) : Plain (CombinedError.kindTrait runtime) :=
  runtime_path_plain root (by decide)

theorem kind_path_plain (root : Plain runtime) (k : RetryKind) :
    Plain (CombinedError.kindPath runtime k) := by
  have variant : Plain k.variant := by cases k <;> decide
  exact plain_append (plain_append (runtime_path_plain root (by decide)) (by decide)) variant

theorem kind_arm_contained (root : Plain runtime) (v : Variant) :
    (CombinedError.kindArm runtime v).2.Contained := by
  unfold CombinedError.kindArm
  split
  · split
    · exact present_contained (inert_of_plain (kind_path_plain root _))
    · exact absent_contained
  · have function : Plain (CombinedError.kindTrait runtime ++ "::retryable_error_kind") :=
      plain_append (kind_trait_plain root) (by decide)
    exact ⟨inert_of_plain function, inner_contained, trivial⟩
  · exact absent_contained

theorem arm_body_contained {stmts : List Stmt} (contained : stmtsContained stmts) :
    (CombinedError.armBody stmts).Contained := by
  unfold CombinedError.armBody
  split
  · exact contained.1
  · exact contained

theorem display_arm_contained (v : Variant) : (CombinedError.displayArm v).2.Contained := by
  unfold CombinedError.displayArm
  split
  · exact arm_body_contained (template_contained _ inner_contained)
  · have formatter : (Expr.var "f").Contained := fun _ _ => rfl
    exact ⟨fun _ _ => rfl, inner_contained, formatter, trivial⟩

theorem source_arm_contained (v : Variant) : (CombinedError.sourceArm v).2.Contained := by
  unfold CombinedError.sourceArm
  split
  · exact present_contained ⟨inner_contained, fun _ _ => rfl, trivial⟩
  · exact present_contained inner_contained

theorem wrapper_contained {function type path : String} {value : Expr} (named : Inert function)
    (typed : Plain type) (variant : Plain path) (contained : value.Contained) :
    (Function.method function [.typed "err" type] (some "Self")
      (.value (.call path [value]))).Contained := by
  have params : ∀ p ∈ [Param.typed "err" type], p.Contained := by
    rw [List.forall_mem_singleton]
    exact ⟨fun _ _ => rfl, inert_of_plain typed⟩
  exact method_contained named params (fun _ _ => rfl)
    (value_contained ⟨inert_of_plain variant, contained, trivial⟩)

theorem optional_text_inert : Inert CombinedError.optionalText := fun _ _ => rfl

theorem wrap_unhandled_contained (plain : c.Plain) (root : Plain runtime) :
    (c.wrapUnhandled runtime).Contained := by
  have type : Plain ("impl std::convert::Into<" ++ runtimePath runtime "BoxError" ++ ">") :=
    plain_append (plain_append (by decide) (runtime_path_plain root (by decide))) (by decide)
  have value : (Expr.method (.var "err") "into" []).Contained :=
    ⟨fun _ _ => rfl, fun _ _ => rfl, trivial⟩
  exact with_docs_contained
    (wrapper_contained (fun _ _ => rfl) type (plain_append plain.name (by decide)) value)
    (one_line_docs (by decide))

theorem wrap_generic_contained (plain : c.Plain) (root : Plain runtime) :
    (c.wrapGeneric runtime).Contained := by
  have value : (Expr.var "err").Contained := fun _ _ => rfl
  exact with_docs_contained
    (wrapper_contained (fun _ _ => rfl) (runtime_path_plain root (by decide))
      (plain_append plain.name (by decide)) value)
    (one_line_docs (by decide))

theorem message_function_contained (plain : c.Plain) : c.messageFunction.Contained :=
  with_docs_contained
    (method_contained (fun _ _ => rfl) borrowed_contained optional_text_inert
      (by_self_contained plain message_arm_contained))
    (one_line_docs (by decide))

theorem code_function_contained (plain : c.Plain) : c.codeFunction.Contained :=
  with_docs_contained
    (method_contained (fun _ _ => rfl) borrowed_contained optional_text_inert
      (by_self_contained plain code_arm_contained))
    (by decide)

theorem predicate_contained (plain : c.Plain) {v : Variant} (listed : v ∈ c.variants)
    {e : ErrorShape} {k : Classification} (shape : v.kind = .shape e k) :
    (c.predicate v e).Contained := by
  have named : Inert (CombinedError.predicateName e) :=
    inert_of_plain (plain_append (by decide) ((plain.variants v listed).snake e k shape))
  have test : (Expr.matches (.var "self") (c.pattern v false)).Contained :=
    ⟨fun _ _ => rfl, variant_pattern_contained plain listed false⟩
  have docs : OneLine ("Returns `true` if the error is `" ++ c.name ++ "::" ++ v.name ++ "`.") :=
    name_in_docs (name_in_docs (by decide) plain.name (by decide)) (plain.variants v listed).name
      (by decide)
  exact with_docs_contained
    (method_contained named borrowed_contained (fun _ _ => rfl) (value_contained test))
    (one_line_docs docs)

theorem kind_function_contained (plain : c.Plain) (root : Plain runtime) :
    (c.kindFunction runtime).Contained := by
  have type : Plain ("std::option::Option<" ++ runtimePath runtime "retry::ErrorKind" ++ ">") :=
    plain_append (plain_append (by decide) (runtime_path_plain root (by decide))) (by decide)
  exact with_visibility_contained
    (method_contained (fun _ _ => rfl) borrowed_contained (inert_of_plain type)
      (by_self_contained plain (kind_arm_contained root))) .inherited

theorem kind_code_function_contained (plain : c.Plain) : c.kindCodeFunction.Contained := by
  have function : Inert (c.name ++ "::code") := inert_of_plain (plain_append plain.name (by decide))
  have call : (Expr.call (c.name ++ "::code") [.var "self"]).Contained :=
    ⟨function, fun _ _ => rfl, trivial⟩
  exact with_visibility_contained
    (method_contained (fun _ _ => rfl) borrowed_contained optional_text_inert
      (value_contained call)) .inherited

theorem display_function_contained (plain : c.Plain) : c.displayFunction.Contained :=
  with_visibility_contained
    (method_contained (fun _ _ => rfl) display_params_contained (fun _ _ => rfl)
      (by_self_contained plain display_arm_contained)) .inherited

theorem source_function_contained (plain : c.Plain) : c.sourceFunction.Contained :=
  with_visibility_contained
    (method_contained (fun _ _ => rfl) borrowed_contained (fun _ _ => rfl)
      (by_self_contained plain source_arm_contained)) .inherited

theorem union_methods_contained (plain : c.Plain) {trait : Option String}
    (named : ∀ t ∈ trait, Inert t) {functions : List Function}
    (each : ∀ f ∈ functions, f.Contained) : (c.methods trait functions).Contained := by
  refine ⟨?_, named, inert_of_plain plain.name, each⟩
  rw [List.forall_mem_singleton]
  exact fun _ _ => rfl

theorem own_methods_contained (plain : c.Plain) (root : Plain runtime) :
    (c.ownMethods runtime).Contained := by
  refine union_methods_contained plain none_inert ?_
  rw [List.forall_mem_append, List.forall_mem_map]
  constructor
  · simp only [List.mem_cons, List.not_mem_nil, or_false, forall_eq_or_imp, forall_eq]
    exact ⟨wrap_unhandled_contained plain root, wrap_generic_contained plain root,
      message_function_contained plain, code_function_contained plain⟩
  · rintro ⟨v, e, k⟩ member
    obtain ⟨w, listed, shape⟩ := List.mem_filterMap.mp member
    split at shape
    · cases shape
      exact predicate_contained plain listed ‹_›
    · cases shape

theorem variant_decl_contained (plain : c.Plain) (root : Plain runtime) {v : Variant}
    (listed : v ∈ c.variants) : (v.decl runtime).Contained := by
  have plain := plain.variants v listed
  have named := inert_of_plain plain.name
  unfold Variant.decl
  split
  · rename_i e k shape
    refine ⟨no_docs, ?_, named, inert_of_plain (plain.record e k shape)⟩
    cases e.deprecation with
    | none => exact no_attributes
    | some d =>
      simp only [Option.map_some, Option.toList_some, List.forall_mem_singleton]
      trivial
  · exact ⟨one_line_docs (by decide), no_attributes, named,
      inert_of_plain (runtime_path_plain root (by decide))⟩
  · exact ⟨one_line_docs (by decide), no_attributes, named,
      inert_of_plain (runtime_path_plain root (by decide))⟩

theorem union_docs_one_line (plain : c.Plain) : ∀ d ∈ c.docs, OneLine d := by
  have head : OneLine ("Error type for the `" ++ c.operation.ident ++ "` operation.") :=
    name_in_docs (by decide) plain.operation (by decide)
  have lines := doc_lines_one_line c.documentation
  unfold CombinedError.docs
  split
  · exact one_line_docs head
  · rw [List.forall_mem_cons, List.forall_mem_cons]
    exact ⟨head, by decide, lines⟩

theorem union_decl_contained (plain : c.Plain) (root : Plain runtime) :
    (c.decl runtime).Contained where
  docs := union_docs_one_line plain
  attributes := by
    rw [CombinedError.decl, List.forall_mem_cons, List.forall_mem_singleton]
    exact ⟨trivial, derive_contained (by decide)⟩
  name := inert_of_plain plain.name
  variants := by
    rw [CombinedError.decl, List.forall_mem_map]
    exact fun v listed => variant_decl_contained plain root listed

theorem union_items_contained (plain : c.Plain) (root : Plain runtime) :
    ∀ i ∈ c.items runtime, i.Contained := by
  have kind := inert_of_plain (kind_trait_plain root)
  simp only [CombinedError.items, List.mem_cons, List.not_mem_nil, or_false, forall_eq_or_imp,
    forall_eq]
  refine ⟨union_decl_contained plain root, own_methods_contained plain root,
    union_methods_contained plain (some_inert kind) ?_,
    union_methods_contained plain (some_inert fun _ _ => rfl) ?_,
    union_methods_contained plain (some_inert fun _ _ => rfl) ?_⟩
  · rw [List.forall_mem_cons, List.forall_mem_singleton]
    exact ⟨kind_function_contained plain root, kind_code_function_contained plain⟩
  · rw [List.forall_mem_singleton]
    exact display_function_contained plain
  · rw [List.forall_mem_singleton]
    exact source_function_contained plain

end ErrorUnion
