import ErrorUnion.Proofs.Record.Identifiers
import ErrorUnion.Union.Decls

/- What the declarations of a combined type name: words of the generators, the type and its
   variants, and for each modeled error a predicate. -/
namespace ErrorUnion
open Name

variable {c : CombinedError} {runtime n : String}

/-- What may be named in the declarations of a combined type. -/
inductive UnionIdentifier (c : CombinedError) : String → Prop where
  | own {n : String} (own : n ∈ ownWords) : UnionIdentifier c n
  | type : UnionIdentifier c c.name
  | variant {v : Variant} (listed : v ∈ c.variants) : UnionIdentifier c v.name
  | predicate {v : Variant} {e : ErrorShape} {k : Classification} (listed : v ∈ c.variants)
      (shape : v.kind = .shape e k) : UnionIdentifier c (CombinedError.predicateName e)

@[simp] theorem inner_identifiers : CombinedError.inner.identifiers = [] := by
  simp [CombinedError.inner]

theorem message_arm_identifiers (v : Variant) :
    (CombinedError.messageArm v).2.identifiers ⊆ ownWords := by
  unfold CombinedError.messageArm
  split
  · split <;> simp [ArmBody.identifiers, Expr.absent, ownWords]
  · simp [ArmBody.identifiers, ownWords]
  · simp [ArmBody.identifiers, Expr.absent]

theorem code_arm_identifiers (v : Variant) :
    (CombinedError.codeArm v).2.identifiers ⊆ ownWords := by
  unfold CombinedError.codeArm
  split <;> simp [ArmBody.identifiers, Expr.present, Expr.absent, ownWords]

theorem kind_arm_identifiers (runtime : String) (v : Variant) :
    (CombinedError.kindArm runtime v).2.identifiers ⊆ ownWords := by
  unfold CombinedError.kindArm
  split
  · split <;> simp [ArmBody.identifiers, Expr.present, Expr.absent]
  · simp [ArmBody.identifiers]
  · simp [ArmBody.identifiers, Expr.absent]

theorem arm_body_identifiers (stmts : List Stmt) :
    (CombinedError.armBody stmts).identifiers = stmtIdentifiers stmts := by
  unfold CombinedError.armBody
  split <;> simp [ArmBody.identifiers]

theorem display_arm_identifiers (v : Variant) :
    (CombinedError.displayArm v).2.identifiers ⊆ ownWords := by
  unfold CombinedError.displayArm
  split
  · rw [arm_body_identifiers]
    exact template_identifiers _ inner_identifiers
  · simp [ArmBody.identifiers]

theorem source_arm_identifiers (v : Variant) :
    (CombinedError.sourceArm v).2.identifiers ⊆ ownWords := by
  unfold CombinedError.sourceArm
  split <;> simp [ArmBody.identifiers, Expr.present, ownWords]

theorem union_decl_identifiers (member : n ∈ (c.decl runtime).identifiers) :
    UnionIdentifier c n := by
  have kept : ∀ v : Variant, (v.decl runtime).name = v.name := by
    intro v
    unfold Variant.decl
    split <;> rfl
  simp only [UnionDecl.identifiers, CombinedError.decl, List.map_map, List.mem_cons,
    List.mem_map, Function.comp_apply, kept] at member
  rcases member with rfl | ⟨v, listed, rfl⟩
  · exact .type
  · exact .variant listed

theorem by_self_identifiers {arm : Variant → Bool × ArmBody}
    (each : ∀ v, (arm v).2.identifiers ⊆ ownWords) (member : n ∈ (c.bySelf arm).identifiers) :
    UnionIdentifier c n := by
  simp only [CombinedError.bySelf, Body.identifiers, Expr.identifiers, List.nil_append,
    CombinedError.arms, List.flatMap_map, Arm.identifiers, CombinedError.pattern,
    Pattern.identifiers, List.mem_flatMap, List.mem_append, List.mem_cons, List.not_mem_nil,
    or_false] at member
  obtain ⟨v, listed, (rfl | rfl) | body⟩ := member
  · exact .type
  · exact .variant listed
  · exact .own (each v body)

theorem predicate_identifiers {v : Variant} {e : ErrorShape} {k : Classification}
    (shape : (v, e, k) ∈ c.shapeVariants) (member : n ∈ (c.predicate v e).identifiers) :
    UnionIdentifier c n := by
  simp only [CombinedError.shapeVariants, List.mem_filterMap] at shape
  obtain ⟨w, listed, kind⟩ := shape
  split at kind
  · rename_i shaped
    cases kind
    simp only [CombinedError.predicate, CombinedError.pattern, with_docs_identifiers,
      method_identifiers, value_identifiers, Expr.identifiers, Pattern.identifiers,
      List.nil_append, List.mem_cons, List.not_mem_nil, or_false] at member
    rcases member with rfl | rfl | rfl
    · exact .predicate listed shaped
    · exact .type
    · exact .variant listed
  · cases kind

theorem own_methods_identifiers (member : n ∈ (c.ownMethods runtime).identifiers) :
    UnionIdentifier c n := by
  simp only [CombinedError.ownMethods, CombinedError.methods, Item.identifiers,
    MethodsDecl.identifiers, List.flatMap_append, List.flatMap_cons, List.flatMap_nil,
    List.flatMap_map, List.append_nil, List.mem_cons, List.mem_append, List.mem_flatMap] at member
  rcases member with rfl | (unhandled | generic | message | code) | ⟨⟨v, e, k⟩, shape, predicate⟩
  · exact .type
  · simp only [CombinedError.wrapUnhandled, with_docs_identifiers, method_identifiers,
      value_identifiers, Expr.identifiers, argIdentifiers, List.append_nil, List.mem_cons,
      List.not_mem_nil, or_false] at unhandled
    rcases unhandled with rfl | rfl <;> exact .own (by decide)
  · simp only [CombinedError.wrapGeneric, with_docs_identifiers, method_identifiers,
      value_identifiers, Expr.identifiers, argIdentifiers, List.append_nil, List.mem_cons,
      List.not_mem_nil, or_false] at generic
    exact generic ▸ .own (by decide)
  · simp only [CombinedError.messageFunction, with_docs_identifiers, method_identifiers,
      List.mem_cons] at message
    rcases message with rfl | arm
    · exact .own (by decide)
    · exact by_self_identifiers message_arm_identifiers arm
  · simp only [CombinedError.codeFunction, with_docs_identifiers, method_identifiers,
      List.mem_cons] at code
    rcases code with rfl | arm
    · exact .own (by decide)
    · exact by_self_identifiers code_arm_identifiers arm
  · exact predicate_identifiers shape predicate

theorem kind_methods_identifiers (member : n ∈ (c.kindMethods runtime).identifiers) :
    UnionIdentifier c n := by
  simp only [CombinedError.kindMethods, CombinedError.methods, Item.identifiers,
    MethodsDecl.identifiers, CombinedError.kindFunction, CombinedError.kindCodeFunction,
    List.flatMap_cons, List.flatMap_nil, with_visibility_identifiers, method_identifiers,
    value_identifiers, Expr.identifiers, argIdentifiers, List.append_nil, List.mem_cons,
    List.mem_append, List.not_mem_nil, or_false] at member
  rcases member with rfl | (rfl | arm) | rfl
  · exact .type
  · exact .own (by decide)
  · exact by_self_identifiers (kind_arm_identifiers runtime) arm
  · exact .own (by decide)

theorem case_methods_identifiers {trait : Option String} {function : String} {params : List Param}
    {returns : Option String} {arm : Variant → Bool × ArmBody} (own : function ∈ ownWords)
    (each : ∀ v, (arm v).2.identifiers ⊆ ownWords)
    (member : n ∈ (c.methods trait [(Function.method function params returns
      (c.bySelf arm)).withVisibility .inherited]).identifiers) : UnionIdentifier c n := by
  simp only [CombinedError.methods, Item.identifiers, MethodsDecl.identifiers, List.flatMap_cons,
    List.flatMap_nil, with_visibility_identifiers, method_identifiers, List.append_nil,
    List.mem_cons] at member
  rcases member with rfl | rfl | arm
  · exact .type
  · exact .own own
  · exact by_self_identifiers each arm

theorem union_identifiers (member : n ∈ itemIdentifiers (c.items runtime)) :
    UnionIdentifier c n := by
  simp only [CombinedError.items, itemIdentifiers, Item.identifiers, List.append_nil,
    List.mem_append] at member
  rcases member with decl | own | kind | display | source
  · exact union_decl_identifiers decl
  · exact own_methods_identifiers own
  · exact kind_methods_identifiers kind
  · exact case_methods_identifiers (by decide) display_arm_identifiers display
  · exact case_methods_identifiers (by decide) source_arm_identifiers source

theorem union_identifier_legal (type : IsIdentifier c.name)
    (variants : ∀ v ∈ c.variants, IsIdentifier v.name)
    (shapes : ∀ v ∈ c.variants, ∀ e k, v.kind = .shape e k → IsWord e.name.ident)
    (named : UnionIdentifier c n) : IsIdentifier n := by
  cases named with
  | own listed => exact own_word_identifier listed
  | type => exact type
  | variant listed => exact variants _ listed
  | predicate listed shape =>
    have chars := snake_word word_start_is_word_char (shapes _ listed _ _ shape)
    exact identifier_append (by decide) (fun c inside => (chars c inside).1) (by decide)

end ErrorUnion
