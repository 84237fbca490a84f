import ErrorUnion.Proofs.Union.Variants

/- The functions of a combined type that each ask for one variant. They have names of their own, and
   of all of them only that of the value's own variant says yes. -/
namespace ErrorUnion
open Text Name

/-- Whether a function answers a value with yes. -/
def Program.holds (p : Program) (v : Value) (name : String) : Bool :=
  match p.ask v name [] with
  | some (.flag b) => b
  | _ => false

/-- The function that asks for the variant of an error; none asks for the fallbacks. -/
def ErrorValue.predicate? (e : ErrorValue) (p : SymbolProvider) : Option String :=
  match e with
  | shape s _ _ => some ("is_" ++ snakeCase (p.structureName s).ident)
  | generic _ => none
  | unhandled _ => none

structure OwnGroup (items : List Item) (type : String) (d : MethodsDecl) : Prop where
  declared : .methods d ∈ items
  trait : d.trait = none
  target : d.target = type
  only : ∀ t, .methods t ∈ items → t.trait = none → t.target = type → t = d

namespace CombinedError

def ownGroup (c : CombinedError) (runtime : String) : MethodsDecl where
  attributes := [.allow "deprecated"]
  trait := none
  target := c.name
  functions :=
    [c.wrapUnhandled runtime, c.wrapGeneric runtime, c.messageFunction, c.codeFunction]
      ++ c.shapeVariants.map fun v => c.predicate v.1 v.2.1

theorem own_methods_group (c : CombinedError) (runtime : String) :
    c.ownMethods runtime = .methods (c.ownGroup runtime) := rfl

theorem own_group_of_items {c : CombinedError} {runtime : String} {t : MethodsDecl}
    (methods : .methods t ∈ c.items runtime) (own : t.trait = none) : t = c.ownGroup runtime := by
  simp only [items, own_methods_group, kindMethods, displayMethods, errorMethods,
    CombinedError.methods, List.mem_cons, reduceCtorEq, Item.methods.injEq, List.not_mem_nil,
    or_false, false_or] at methods
  rcases methods with rfl | rfl | rfl | rfl
  · rfl
  all_goals cases own

theorem shape_variants_of_set (set : ErrorSet) (classifier : Classifier) :
    (set.combinedOf classifier).shapeVariants =
      set.errors.map fun e => (e.variant classifier, e, classify classifier e) := by
  rw [shapeVariants, ErrorSet.combinedOf, List.filterMap_append, List.filterMap_map]
  refine (congrArg₂ (· ++ ·) ?_ (rfl : _ = [])).trans (List.append_nil _)
  exact congrFun List.filterMap_eq_map set.errors

theorem own_function_names (set : ErrorSet) (classifier : Classifier) (runtime : String) :
    ((set.combinedOf classifier).ownGroup runtime).functions.map Function.name =
      ["unhandled", "generic", "message", "code"] ++ set.errors.map predicateName := by
  rw [ownGroup, shape_variants_of_set, List.map_append, List.map_map, List.map_map]
  rfl

theorem predicate_shown (s : ErrorShape) : Value.shownName (predicateName s) = predicateName s := by
  unfold Value.shownName
  split
  · rename_i chars
    simp [predicateName, String.toList_append] at chars
  · rfl

theorem predicate_answer (c : CombinedError) (v : Variant) (s : ErrorShape) (p : Program)
    (depth : Nat) (name : String) (payload : Value) (t : State) :
    (c.method none (c.predicate v s)).invoke (p.eval (depth + 2)) [.variant c.name name payload] t =
      some (.flag (decide (v.name = name)), t) := by
  apply invoke_value rfl rfl
  have self := eval_var p depth [] ⟨[("self", .variant c.name name payload)], t.written⟩ "self"
  refine (eval_matches p (depth + 1) [] _ _ self).trans ?_
  rw [pattern_match]
  by_cases same : v.name = name <;> simp [same]

end CombinedError

section Predicates
variable {m : Model} {rename : Bool} {classifier : Classifier} {runtime : String} {o : Operation}

/-- One predicate asks for one shape: builder modules differ, and so do the names they escape. -/
theorem predicate_of_shape (resolvable : m.Resolvable (.standard rename) runtime)
    {x y : ErrorShape} (hx : x ∈ (o.errorSetIn m (.standard rename)).errors)
    (hy : y ∈ (o.errorSetIn m (.standard rename)).errors)
    (same : CombinedError.predicateName x = CombinedError.predicateName y) : x = y := by
  have snake : x.name.snake = y.name.snake := by
    simpa [CombinedError.predicateName, String.append_right_inj] using same
  exact shape_known_by ShapeName.builderModule resolvable.modules hx hy
    (congrArg escapeIdent snake)

theorem predicates_distinct (sound : m.Sound)
    (resolvable : m.Resolvable (.standard rename) runtime) (declared : o ∈ m.operations) :
    ((o.errorSetIn m (.standard rename)).errors.map CombinedError.predicateName).Nodup :=
  List.Nodup.map_on (fun _ hx _ hy => predicate_of_shape resolvable hx hy)
    (shapes_nodup sound declared _)

theorem own_functions_distinct (sound : m.Sound)
    (resolvable : m.Resolvable (.standard rename) runtime) (declared : o ∈ m.operations)
    (classifier : Classifier) :
    WordsDistinct (((o.unionIn m (.standard rename) classifier).ownGroup runtime).functions.map
      Function.name) := by
  rw [Operation.unionIn, CombinedError.own_function_names, WordsDistinct, List.map_append,
    List.map_map, List.nodup_append']
  have shown : Value.shownName ∘ CombinedError.predicateName = CombinedError.predicateName :=
    funext CombinedError.predicate_shown
  refine ⟨by decide, by rw [shown]; exact predicates_distinct sound resolvable declared, ?_⟩
  intro name fixed predicate
  rw [shown] at predicate
  obtain ⟨e, -, rfl⟩ := List.mem_map.mp predicate
  have heads : ∀ name ∈ ["unhandled", "generic", "message", "code"].map Value.shownName,
      name.toList.take 3 ≠ "is_".toList := by decide
  apply heads _ fixed
  simp [CombinedError.predicateName, String.toList_append]

theorem own_group_of_union (resolvable : m.Resolvable (.standard rename) runtime)
    {c : CombinedError} (listed : c ∈ m.unions (.standard rename) classifier) :
    OwnGroup (m.planned (.standard rename) classifier runtime).items c.name
      (c.ownGroup runtime) where
  declared := mem_planned_items.mpr (Or.inr ⟨c, listed, by simp [CombinedError.items,
    CombinedError.own_methods_group]⟩)
  trait := rfl
  target := rfl
  only := by
    intro t methods own target
    rcases mem_planned_items.mp methods with ⟨s, declared, record⟩ | ⟨d, other, union⟩
    · rcases mem_structure_items.mp record with item | accessors | error | builder
      · cases item
      · cases accessors
        exact absurd target (union_apart_from_record resolvable listed declared)
      · unfold Structure.errorItems at error
        split at error
        · simp only [List.mem_cons, Item.methods.injEq, List.not_mem_nil, or_false] at error
          rcases error with rfl | rfl <;> cases own
        · cases error
      · cases builder
    · obtain rfl := CombinedError.own_group_of_items union own
      rw [distinct_unions resolvable other listed target]

variable (classifier) in
theorem predicate_found (sound : m.Sound) (resolvable : m.Resolvable (.standard rename) runtime)
    (declared : o ∈ m.operations) {e : ErrorShape}
    (shape : e ∈ (o.errorSetIn m (.standard rename)).errors) :
    let c := o.unionIn m (.standard rename) classifier
    (m.program (.standard rename) classifier runtime).method? c.name none
        (CombinedError.predicateName e) =
      some (c.method none (c.predicate (e.variant classifier) e)) := by
  intro c
  have listed := union_listed declared (.standard rename) classifier
  have table : c.predicateTable = (o.errorSetIn m (.standard rename)).errors.map fun e =>
      c.method none (c.predicate (e.variant classifier) e) := by
    rw [CombinedError.predicateTable, show c.shapeVariants = _ from
      CombinedError.shape_variants_of_set (o.errorSetIn m (.standard rename)) classifier,
      List.map_map]
    rfl
  have member : c.method none (c.predicate (e.variant classifier) e) ∈ c.predicateTable :=
    table ▸ List.mem_map_of_mem shape
  apply method_found (m := c.method none (c.predicate (e.variant classifier) e))
    (program_methods_iff.mpr
      (Or.inr ⟨c, listed, CombinedError.method_of_union_iff.mpr (Or.inr member)⟩))
  intro n inside type trait name
  rcases CombinedError.method_of_union_iff.mp
    (owner_of_union_method sound resolvable listed inside type) with fixed | predicate
  · exact absurd (name ▸ CombinedError.fixed_method_name fixed)
      (CombinedError.predicate_method_name member)
  · rw [table] at predicate
    obtain ⟨x, also, rfl⟩ := List.mem_map.mp predicate
    rw [predicate_of_shape resolvable also shape name]

theorem predicate_asked (sound : m.Sound) (resolvable : m.Resolvable (.standard rename) runtime)
    (declared : o ∈ m.operations) {x : ErrorShape}
    (shape : x ∈ (o.errorSetIn m (.standard rename)).errors) (e : ErrorValue) :
    let c := o.unionIn m (.standard rename) classifier
    (m.program (.standard rename) classifier runtime).ask (e.value (.standard rename) c.name)
        (CombinedError.predicateName x) [] =
      some (.flag (decide (x.name.ident = (e.variant (.standard rename) classifier).name))) := by
  intro c
  have found := predicate_found classifier sound resolvable declared shape
  have value := c.predicate_answer (x.variant classifier) x
    (m.program (.standard rename) classifier runtime) 14
    (e.variant (.standard rename) classifier).name (e.payload (.standard rename)) ⟨[], ""⟩
  rw [← value_is_variant] at value
  rw [Program.ask, call_method_own (value_type e _ _) found]
  exact congrArg (Option.map Prod.fst) value

theorem shape_of_value_iff (sound : m.Sound) (resolvable : m.Resolvable (.standard rename) runtime)
    {e : ErrorValue} (fits : e.Of m o) {x : ErrorShape}
    (shape : x ∈ (o.errorSetIn m (.standard rename)).errors) :
    x.name.ident = (e.variant (.standard rename) classifier).name ↔
      e.predicate? (.standard rename) = some (CombinedError.predicateName x) := by
  have apart := shape_unreserved resolvable shape
  cases fits with
  | @shape s fault members declared listed side typed =>
    have own := shape_listed sound declared listed side (.standard rename)
    simp only [ErrorValue.variant, ErrorShape.variant, ErrorValue.predicate?, Option.some.injEq]
    constructor
    · intro same
      rw [CombinedError.predicateName, ShapeName.snake, same]
      rfl
    · intro same
      rw [predicate_of_shape resolvable shape own same.symm]
  | generic x =>
    simp only [ErrorValue.variant, ErrorValue.predicate?, reduceCtorEq, iff_false]
    intro same
    simp [reservedVariants, same] at apart
  | unhandled t =>
    simp only [ErrorValue.variant, ErrorValue.predicate?, reduceCtorEq, iff_false]
    intro same
    simp [reservedVariants, same] at apart

theorem value_predicate_listed (sound : m.Sound) {e : ErrorValue} (fits : e.Of m o) {name : String}
    (asks : e.predicate? (.standard rename) = some name) :
    name ∈ (o.errorSetIn m (.standard rename)).errors.map CombinedError.predicateName := by
  cases fits with
  | @shape s fault members declared listed side typed =>
    have own := shape_listed sound declared listed side (.standard rename)
    exact List.mem_map.mpr ⟨_, own, Option.some.inj asks⟩
  | generic x => cases asks
  | unhandled t => cases asks

theorem filter_named {names : List String} (distinct : names.Nodup) {asked : Option String}
    (member : ∀ name, asked = some name → name ∈ names) :
    (names.filter fun name => asked = some name) = asked.toList := by
  cases asked with
  | none => simp
  | some name =>
    have once := List.count_eq_one_of_mem distinct (member name rfl)
    have equal : (fun other => decide (some name = some other)) = (· == name) := by
      funext other
      by_cases same : other = name
      · simp [same]
      · simp [same, Ne.symm same]
    rw [equal, List.filter_beq, once]
    rfl

end Predicates

/-- Each predicate of an operation's combined type has the name of a declared error's identifier.
The type's own functions all differ. Of the predicates, a modeled error fulfils its own alone, and
no other error fulfils any. -/
theorem one_predicate_holds {v : ValidModel} {check : SyntaxCheck} {o : Options}
    {classifier : Classifier} {g : GeneratedModule}
    (done : v.generateChecked check o classifier = .ok g) :
    ∃ plan, v.plan o classifier = .ok plan ∧ g.source = (moduleSheet v plan.items).text ∧
      v.model.resolve (.standard o.renameExceptions) o.runtimeCrate = .ok plan.names ∧
      ∀ operation ∈ v.model.operations, ∃ own predicates,
        OwnGroup plan.items (operation.name ++ "Error") own ∧
        List.Forall₂ (fun wire name => ∃ n, plan.names.structure? wire = some n ∧
          name = "is_" ++ snakeCase n.ident) operation.errors predicates ∧
        own.functions.map Function.name =
          ["unhandled", "generic", "message", "code"] ++ predicates ∧
        WordsDistinct (own.functions.map Function.name) ∧
        ∀ e : ErrorValue, e.Of v.model operation →
          let p := SymbolProvider.standard o.renameExceptions
          let program : Program := ⟨o.runtimeCrate, plan.items⟩
          let value := e.value p (operation.name ++ "Error")
          (∀ name ∈ predicates, ∃ b, program.ask value name [] = some (.flag b)) ∧
          predicates.filter (program.holds value) = (e.predicate? p).toList := by
  obtain ⟨plan, planned, source, -⟩ := generate_checked_ok done
  obtain ⟨-, resolvable, rfl⟩ := (plan_ok_iff ..).mp planned
  have sound := v.sound
  refine ⟨_, planned, source, (resolve_ok_iff ..).mpr ⟨resolvable, rfl⟩, ?_⟩
  intro operation declared
  have listed := union_listed declared (.standard o.renameExceptions) classifier
  refine ⟨_, _, own_group_of_union resolvable listed, ?predicates,
    CombinedError.own_function_names _ classifier o.runtimeCrate,
    own_functions_distinct sound resolvable declared classifier, ?values⟩
  case predicates =>
    rw [List.forall₂_map_right_iff]
    apply forall₂_filter_map
    intro wire named
    obtain ⟨e, shape, s, name, stands⟩ :=
      variant_of_error o.renameExceptions classifier o.runtimeCrate sound declared named
    refine ⟨e, shape, name, stands.resolved, ?_⟩
    rw [CombinedError.predicateName, ShapeName.snake, stands.ident]
  case values =>
    intro e fits p program value
    -- Both parts read the same answer: whether the predicate is the one for this error.
    have answer : ∀ x ∈ (operation.errorSetIn v.model p).errors,
        program.ask value (CombinedError.predicateName x) [] =
          some (.flag (decide (e.predicate? p = some (CombinedError.predicateName x)))) := by
      intro x shape
      rw [← decide_eq_decide.mpr (shape_of_value_iff sound resolvable fits shape)]
      exact predicate_asked sound resolvable declared shape e
    refine ⟨?_, ?_⟩
    · intro name member
      obtain ⟨x, shape, rfl⟩ := List.mem_map.mp member
      exact ⟨_, answer x shape⟩
    · rw [← filter_named (predicates_distinct sound resolvable declared)
        fun name asks => value_predicate_listed sound fits asks]
      apply List.filter_congr
      intro name member
      obtain ⟨x, shape, rfl⟩ := List.mem_map.mp member
      rw [Program.holds, answer x shape]

theorem store_predicates_hold :
    ∃ g plan own predicates,
      storeModel.generateChecked .byPath .default RetryPolicy.faultSide.classify = .ok g ∧
      storeModel.plan .default RetryPolicy.faultSide.classify = .ok plan ∧
      OwnGroup plan.items "TakeItemError" own ∧
      own.functions.map Function.name = ["unhandled", "generic", "message", "code"] ++ predicates ∧
      let program : Program := ⟨"errgen_runtime", plan.items⟩
      predicates.filter (program.holds ((ErrorValue.shape brokenStore .server fun _ => none).value
        (.standard true) "TakeItemError")) = ["is_broken_store"] ∧
      predicates.filter (program.holds ((ErrorValue.unhandled "lost").value
        (.standard true) "TakeItemError")) = [] := by
  obtain ⟨g, done⟩ := store_generated RetryPolicy.faultSide.classify
  obtain ⟨plan, planned, -, -, holds⟩ := one_predicate_holds done
  obtain ⟨own, predicates, group, -, names, -, values⟩ := holds takeItem (by simp [storeModel])
  have broken : (ErrorValue.shape brokenStore .server fun _ => none).Of storeModel.model
      takeItem := by
    refine .shape (by simp [storeModel]) (by simp [takeItem, brokenStore]) rfl ?_
    intro a member
    cases member
  refine ⟨g, plan, own, predicates, done, planned, group, names, (values _ broken).2.trans ?_,
    (values _ (.unhandled "lost")).2⟩
  decide +kernel

end ErrorUnion
