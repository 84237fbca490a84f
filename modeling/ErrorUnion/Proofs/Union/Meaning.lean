import ErrorUnion.Proofs.Union.Arms

/- What the functions of a combined type compute. A call by name ends up in the type's own function,
   and that in the arm of the value's variant. -/
namespace ErrorUnion
open Text Name

section Queries
variable {m : Model} {rename : Bool} {classifier : Classifier} {runtime : String} {o : Operation}
  {e : ErrorValue} {c : CombinedError}

theorem message_asked (sound : m.Sound) (resolvable : m.Resolvable (.standard rename) runtime)
    (listed : c ∈ m.unions (.standard rename) classifier) (fits : e.Of m o)
    (member : e.variant (.standard rename) classifier ∈ c.variants) :
    (m.program (.standard rename) classifier runtime).ask (e.value (.standard rename) c.name)
        "message" [] =
      some (.ofOption .text e.message) := by
  have found := union_method_found sound resolvable listed (c.message_fixed runtime) "message" rfl
  have value := invoke_by_self (variants_distinct sound resolvable listed) member none
    (f := c.messageFunction) rfl rfl (message_arm sound resolvable fits 12) ⟨[], ""⟩
  rw [← value_is_variant] at value
  rw [Program.ask, call_method_own (value_type e _ _) found]
  exact congrArg (Option.map Prod.fst) value

theorem own_code_value (distinct : (c.variants.map Variant.name).Nodup)
    (member : e.variant (.standard rename) classifier ∈ c.variants) (p : Program) (depth : Nat)
    (s : State) :
    (c.method none c.codeFunction).invoke (p.eval (depth + 2))
        [e.value (.standard rename) c.name] s =
      some (.ofOption .text e.code, s) := by
  rw [value_is_variant e (.standard rename) classifier]
  exact invoke_by_self distinct member none rfl rfl (code_arm p (.standard rename) e depth) s

theorem code_asked (sound : m.Sound) (resolvable : m.Resolvable (.standard rename) runtime)
    (listed : c ∈ m.unions (.standard rename) classifier)
    (member : e.variant (.standard rename) classifier ∈ c.variants) :
    (m.program (.standard rename) classifier runtime).ask (e.value (.standard rename) c.name)
        "code" [] =
      some (.ofOption .text e.code) := by
  have found := union_method_found sound resolvable listed (c.code_fixed runtime) "code" rfl
  have value := own_code_value (variants_distinct sound resolvable listed) member
    (m.program (.standard rename) classifier runtime) 14 ⟨[], ""⟩
  rw [Program.ask, call_method_own (value_type e _ _) found]
  exact congrArg (Option.map Prod.fst) value

theorem kind_code_asked (sound : m.Sound) (resolvable : m.Resolvable (.standard rename) runtime)
    (listed : c ∈ m.unions (.standard rename) classifier)
    (member : e.variant (.standard rename) classifier ∈ c.variants) :
    (m.program (.standard rename) classifier runtime).askKind (e.value (.standard rename) c.name)
        "code" =
      some (.ofOption .text e.code) := by
  have found := union_method_found sound resolvable listed (c.kind_code_fixed runtime) "code" rfl
  have trait := kind_trait_path (m.program (.standard rename) classifier runtime)
  have self := eval_var (m.program (.standard rename) classifier runtime) 14 []
    ⟨[("self", e.value (.standard rename) c.name)], ""⟩ "self"
  have call := eval_call (m.program (.standard rename) classifier runtime) 15 [] _
    (c.name ++ "::code") self
  have other := not_builtin c.name "::code" (by decide) (by decide)
  have kind := kind_path_apart (m.program (.standard rename) classifier runtime) c.name "::code"
    (by decide) (by decide)
  rw [call_function other kind (code_is_no_variant sound listed)
      (code_function_found sound resolvable listed),
    own_code_value (variants_distinct sound resolvable listed) member _ 13] at call
  rw [Program.askKind, call_kind_trait_own (value_type e _ _) (trait ▸ found),
    invoke_value rfl rfl call]
  rfl

theorem kind_asked (sound : m.Sound) (resolvable : m.Resolvable (.standard rename) runtime)
    (listed : c ∈ m.unions (.standard rename) classifier)
    (member : e.variant (.standard rename) classifier ∈ c.variants) :
    (m.program (.standard rename) classifier runtime).askKind (e.value (.standard rename) c.name)
        "retryable_error_kind" =
      some (.ofOption .kind (e.kind (.standard rename) classifier)) := by
  have found := union_method_found sound resolvable listed (c.kind_fixed runtime)
    "retryable_error_kind" rfl
  have trait := kind_trait_path (m.program (.standard rename) classifier runtime)
  have value := invoke_by_self (variants_distinct sound resolvable listed) member
    (some (CombinedError.kindTrait runtime)) (f := c.kindFunction runtime) rfl rfl
    (kind_arm (m.program (.standard rename) classifier runtime) (.standard rename) e 13) ⟨[], ""⟩
  rw [← value_is_variant] at value
  rw [Program.askKind, call_kind_trait_own (value_type e _ _) (trait ▸ found)]
  exact congrArg (Option.map Prod.fst) value

theorem display_shown (sound : m.Sound) (resolvable : m.Resolvable (.standard rename) runtime)
    (listed : c ∈ m.unions (.standard rename) classifier) (fits : e.Of m o)
    (member : e.variant (.standard rename) classifier ∈ c.variants) :
    (m.program (.standard rename) classifier runtime).displayText?
        (e.value (.standard rename) c.name) =
      some (e.display (.standard rename)) := by
  have found := union_method_found sound resolvable listed (c.display_fixed runtime) "fmt" rfl
  have value := display_by_self (p := m.program (.standard rename) classifier runtime) 15
    (variants_distinct sound resolvable listed) member (e.payload (.standard rename)) ⟨[], ""⟩
  rw [display_arm sound resolvable fits 12 rfl, ← value_is_variant] at value
  rw [Program.displayText?, display_own (value_type e _ _) found]
  exact congrArg (Option.map fun r => r.2.written) value

theorem source_told (sound : m.Sound) (resolvable : m.Resolvable (.standard rename) runtime)
    (listed : c ∈ m.unions (.standard rename) classifier)
    (member : e.variant (.standard rename) classifier ∈ c.variants) :
    (m.program (.standard rename) classifier runtime).source (e.value (.standard rename) c.name) =
      some (.present (e.payload (.standard rename))) := by
  have found := union_method_found sound resolvable listed (c.source_fixed runtime) "source" rfl
  have value := invoke_by_self (variants_distinct sound resolvable listed) member (some errorTrait)
    (f := c.sourceFunction) rfl rfl
    (source_arm (m.program (.standard rename) classifier runtime) (.standard rename) e 13) ⟨[], ""⟩
  rw [← value_is_variant] at value
  rw [Program.source, value_type, Option.bind_some, found]
  exact congrArg (Option.map Prod.fst) value

end Queries

/-- Evaluating the generated functions on any value of an operation's combined type gives the
message, code, kind, display and source of the error. A renamed error is displayed with both of its
names, any other one by its name with the message if it has one. -/
theorem generated_functions_mean {v : ValidModel} {check : SyntaxCheck} {o : Options}
    {classifier : Classifier} {g : GeneratedModule}
    (done : v.generateChecked check o classifier = .ok g) :
    ∃ plan, v.plan o classifier = .ok plan ∧ g.source = (moduleSheet v plan.items).text ∧
      ∀ operation ∈ v.model.operations, ∀ e : ErrorValue, e.Of v.model operation →
        let p := SymbolProvider.standard o.renameExceptions
        let program : Program := ⟨o.runtimeCrate, plan.items⟩
        let value := e.value p (operation.name ++ combinedSuffix)
        program.ask value "message" [] = some (.ofOption .text e.message) ∧
        program.ask value "code" [] = some (.ofOption .text e.code) ∧
        program.askKind value "code" = some (.ofOption .text e.code) ∧
        program.askKind value "retryable_error_kind" =
          some (.ofOption .kind (e.kind p classifier)) ∧
        program.displayText? value = some (e.display p) ∧
        program.source value = some (.present (e.payload p)) := by
  obtain ⟨plan, planned, source, -⟩ := generate_checked_ok done
  obtain ⟨-, resolvable, rfl⟩ := (plan_ok_iff ..).mp planned
  refine ⟨_, planned, source, ?_⟩
  intro operation declared e fits
  have sound := v.sound
  have listed := union_listed declared (.standard o.renameExceptions) classifier
  have member := variant_listed sound fits (.standard o.renameExceptions) classifier
  exact ⟨message_asked sound resolvable listed fits member,
    code_asked sound resolvable listed member, kind_code_asked sound resolvable listed member,
    kind_asked sound resolvable listed member, display_shown sound resolvable listed fits member,
    source_told sound resolvable listed member⟩

def missingItemValue : ErrorValue :=
  .shape missingItem .client fun a => if a.name = "Message" then some (.text "gone") else none

theorem missing_item_value_of_take_item :
    missingItemValue.Of storeModel.model takeItem := by
  refine .shape (by simp [storeModel]) (by simp [takeItem, missingItem]) rfl ?_
  intro a member v set
  simp only [missingItem, List.mem_cons, List.not_mem_nil, or_false] at member
  rcases member with rfl | rfl
  · cases set
    exact .string "gone"
  · cases set

theorem missing_item_functions_mean :
    ∃ g plan, storeModel.generateChecked .byPath .default RetryPolicy.faultSide.classify = .ok g ∧
      storeModel.plan .default RetryPolicy.faultSide.classify = .ok plan ∧
      let program : Program := ⟨"errgen_runtime", plan.items⟩
      let value := missingItemValue.value (.standard true) "TakeItemError"
      program.ask value "message" [] = some (.present (.text "gone")) ∧
      program.ask value "code" [] = some (.present (.text "MissingItemException")) ∧
      program.askKind value "retryable_error_kind" = some (.present (.kind .throttling)) ∧
      program.displayText? value = some "MissingItemError [MissingItemException]" := by
  obtain ⟨g, done⟩ := store_generated RetryPolicy.faultSide.classify
  obtain ⟨plan, planned, -, means⟩ := generated_functions_mean done
  obtain ⟨message, code, -, kind, display, -⟩ :=
    means takeItem (by simp [storeModel]) missingItemValue missing_item_value_of_take_item
  exact ⟨g, plan, done, planned, message, code, kind, display⟩

end ErrorUnion
