import Mathlib.Data.List.Induction
import ErrorUnion.Proofs.Union.Arms

/- What a builder keeps. Each setter writes the field of its own member and leaves the others alone,
   `build` reads every field once, and an accessor hands out what the last call for its member gave.
-/
namespace ErrorUnion
open Text Name

inductive SetterCall where
  | value (member : Member) (input : Value)
  | option (member : Member) (input : Option Value)

namespace SetterCall

def member : SetterCall → Member
  | value a _ => a
  | option a _ => a

/-- What the member should hold behind the call. -/
def given : SetterCall → Option Value
  | value _ x => some x
  | option _ x => x

def function : SetterCall → Function
  | value a _ => a.valueSetter
  | option a _ => a.optionSetter

def argument : SetterCall → Value
  | value _ x => x
  | option _ x => Value.ofOption id x

/-- A call for a member of the structure, with a value of its type. -/
structure Fits (s : Structure) (c : SetterCall) : Prop where
  declared : c.member ∈ s.members
  typed : ∀ x, c.given = some x → c.member.target.Admits x

def run (p : Program) (name : ShapeName) (builder : Value) (c : SetterCall) : Option Value :=
  ((name.builderMethod c.function).invoke (p.eval evalDepth) [builder, c.argument] ⟨[], ""⟩).map
    (·.1)

def byName (p : Program) (builder : Value) (c : SetterCall) : Option Value :=
  p.ask builder c.function.name [c.argument]

end SetterCall

/-- What the last call for a member gave it. -/
def lastGiven (calls : List SetterCall) (a : Member) : Option Value :=
  (calls.filter fun c => c.member = a).getLast?.bind SetterCall.given

def Structure.builderValue (s : Structure) (name : ShapeName) (members : Member → Option Value) :
    Value :=
  .record name.builderType (s.members.map fun a => (a.field, Value.ofOption id (members a)))

theorem last_given_append (calls : List SetterCall) (c : SetterCall) :
    lastGiven (calls ++ [c]) = Function.update (lastGiven calls) c.member c.given := by
  funext a
  by_cases same : a = c.member
  · subst same
    simp [lastGiven]
  · simp [lastGiven, Ne.symm same, Function.update_of_ne same]

theorem last_given_typed {s : Structure} {calls : List SetterCall}
    (fits : ∀ c ∈ calls, c.Fits s) (a : Member) (x : Value) (last : lastGiven calls a = some x) :
    a.target.Admits x := by
  obtain ⟨c, found, given⟩ := Option.bind_eq_some_iff.mp last
  have called := List.mem_filter.mp (List.mem_of_getLast? found)
  obtain rfl : c.member = a := of_decide_eq_true called.2
  exact (fits c called.1).typed x given

theorem with_builder_field {s : Structure} (sound : s.FieldsSound) (name : ShapeName)
    (members : Member → Option Value) {a : Member} (member : a ∈ s.members) (x : Option Value) :
    (s.builderValue name members).withField a.field (Value.ofOption id x) =
      s.builderValue name (Function.update members a x) := by
  simp only [Structure.builderValue, Value.withField, List.map_map]
  congr 1
  apply List.map_congr_left
  intro b other
  by_cases same : b = a
  · subst same
    simp
  · have apart : b.field ≠ a.field :=
      fun field => same (List.inj_on_of_nodup_map sound.fields other member field)
    simp [apart, Function.update_of_ne same]

section Functions
variable {p : Program} {a : Member} (name : ShapeName) (depth : Nat)

theorem setter_invoked {f : Function} {e : Expr} {type : String} {builder x y : Value} {t : State}
    (params : f.params = [.mutable, .typed "input" type])
    (body : f.body = .block [.run (.assign a.selfField e), .result selfExpr])
    (given : p.eval depth [name.builderModule] ⟨[("self", builder), ("input", x)], t.written⟩ e =
      some (y, ⟨[("self", builder), ("input", x)], t.written⟩)) :
    (name.builderMethod f).invoke (p.eval (depth + 1)) [builder, x] t =
      some (builder.withField a.field y, t) := by
  have locals : bindParams f.params [builder, x] = some [("self", builder), ("input", x)] := by
    simp only [params, bindParams, Option.map_some]
  have assigned : p.eval (depth + 1) [name.builderModule]
      ⟨[("self", builder), ("input", x)], t.written⟩ (.assign a.selfField e) =
        some (.unit, ⟨[("self", builder.withField a.field y), ("self", builder), ("input", x)],
          t.written⟩) :=
    eval_assign p depth _ _ given rfl
  rw [invoke_bound (m := name.builderMethod f) locals]
  simp only [ShapeName.builderMethod, body, evalBody, evalStmts, evalStmt, selfExpr, assigned,
    eval_var, List.lookup_cons_self, Option.map_some]

theorem value_setter_invoked {x : Value} (admitted : a.target.Admits x) (builder : Value)
    (t : State) :
    (name.builderMethod a.valueSetter).invoke (p.eval (depth + 4)) [builder, x] t =
      some (builder.withField a.field (.present x), t) := by
  by_cases copy : a.target.isCopy = true
  · have params : a.valueSetter.params = [.mutable, .typed "input" a.target.typeText] := by
      simp [Member.valueSetter, copy, Function.withDocs, Function.method]
    have body : a.valueSetter.body =
        .block [.run (.assign a.selfField (.present (.var "input"))), .result selfExpr] := by
      simp [Member.valueSetter, copy, Function.withDocs, Function.method]
    exact setter_invoked name (depth + 3) params body (eval_present p (depth + 2) _ _ rfl)
  · obtain text : a.target = .string := by simpa [Target.isCopy] using copy
    have params : a.valueSetter.params =
        [.mutable, .typed "input" ("impl std::convert::Into<" ++ a.target.typeText ++ ">")] := by
      simp [Member.valueSetter, copy, Function.withDocs, Function.method]
    have body : a.valueSetter.body =
        .block [.run (.assign a.selfField (.present (.method (.var "input") "into" []))),
          .result selfExpr] := by
      simp [Member.valueSetter, copy, Function.withDocs, Function.method]
    have input := eval_var p depth [name.builderModule]
      ⟨[("self", builder), ("input", x)], t.written⟩ "input"
    apply setter_invoked name (depth + 3) params body (eval_present p (depth + 2) _ _ _)
    rw [eval_method p (depth + 1) _ _ input]
    rw [text] at admitted
    cases admitted
    rfl

theorem option_setter_invoked (builder x : Value) (t : State) :
    (name.builderMethod a.optionSetter).invoke (p.eval (depth + 4)) [builder, x] t =
      some (builder.withField a.field x, t) :=
  setter_invoked name (depth + 3) rfl rfl rfl

theorem accessor_value {record : Value} {x : Option Value}
    (field : record.field? a.field = some (Value.ofOption id x))
    (typed : ∀ v, x = some v → a.target.Admits v) (type : String) (t : State) :
    (⟨[], type, none, a.accessor⟩ : Method).invoke (p.eval (depth + 3)) [record] t =
      some (Value.ofOption id x, t) := by
  by_cases copy : a.target.isCopy = true
  · have params : a.accessor.params = [.borrowed] := by
      simp [Member.accessor, copy, Function.withDocs, Function.method]
    have body : a.accessor.body = .value a.selfField := by
      simp [Member.accessor, copy, Function.withDocs, Function.method]
    have self : p.eval (depth + 2) [] ⟨[("self", record)], t.written⟩ selfExpr =
        some (record, ⟨[("self", record)], t.written⟩) := rfl
    apply invoke_value params body
    rw [Member.selfField, eval_field _ _ _ _ self, field]
    rfl
  · obtain text : a.target = .string := by simpa [Target.isCopy] using copy
    rw [text_accessor_value text field typed]
    cases x with
    | none => rfl
    | some v =>
      have admitted := typed v rfl
      rw [text] at admitted
      cases admitted
      rfl

end Functions

def Structure.program (s : Structure) (name : ShapeName) (runtime : String) : Program :=
  ⟨runtime, s.items name⟩

section Declarations
variable {s : Structure} (name : ShapeName) (runtime : String)

theorem records_of_program (s : Structure) :
    (s.program name runtime).records =
      [(name.ident, s.recordDecl name), (name.builderType, s.builderDecl name)] := by
  have builder : qualified [name.builderModule] (s.builderDecl name).name = name.builderType :=
    builder_type_in_module name
  cases error : s.isError <;>
    simp only [Program.records, Structure.program, Structure.items, Structure.errorItems, error,
      if_true, if_false, Bool.false_eq_true, Structure.builderItem, List.cons_append,
      List.nil_append, itemsRecords, Item.recordsIn, builder]
  · rfl
  · rfl

theorem builder_type_length (n : ShapeName) :
    n.ident.toList.length + 9 ≤ n.builderType.toList.length := by
  have snake := snake_length n.ident
  have module := escape_length n.snake
  simp only [ShapeName.builderType, ShapeName.builderModule, String.toList_append,
    List.length_append]
  have tail : "::Builder".toList.length = 9 := by decide
  unfold ShapeName.snake at module ⊢
  omega

theorem builder_type_apart (n : ShapeName) : n.builderType ≠ n.ident := by
  intro same
  have long := builder_type_length n
  rw [same] at long
  omega

theorem builder_initial (s : Structure) :
    (s.program name runtime).initial? name.builderType =
      some (s.builderValue name fun _ => none) := by
  have other : (name.builderType == name.ident) = false := by
    rw [beq_eq_false_iff_ne]
    exact builder_type_apart name
  simp only [Program.initial?, records_of_program, List.lookup_cons, other, beq_self_eq_true,
    Option.map_some, Structure.builderDecl, Structure.builderValue, List.map_map,
    Function.comp_def, Member.builderField, Value.ofOption]

theorem setter_declared {c : SetterCall} (fits : c.Fits s) (name : ShapeName) :
    c.function ∈ (s.builderMethods name).functions := by
  refine List.mem_append_left _ (List.mem_flatMap.mpr ⟨c.member, fits.declared, ?_⟩)
  cases c with
  | value a x => exact List.mem_cons_self
  | option a x => exact List.mem_cons_of_mem _ List.mem_cons_self

theorem owner_of_builder_method {n : Method} (inside : n ∈ (s.program name runtime).methods)
    (typed : n.type = name.builderType) (own : n.trait = none) :
    ∃ f ∈ (s.builderMethods name).functions, n = name.builderMethod f := by
  rcases record_method_cases inside with ⟨f, -, rfl⟩ | rfl | builder
  · exact absurd typed.symm (builder_type_apart name)
  · cases own
  · exact builder

section Lookups
variable (sound : s.FieldsSound)
include sound

theorem own_accessor_found {a : Member} (member : a ∈ s.members) :
    (s.program name runtime).method? name.ident none a.field =
      some ⟨[], name.ident, none, a.accessor⟩ := by
  have function : a.accessor ∈ (s.accessors name).functions :=
    List.mem_append_left _ (List.mem_map_of_mem member)
  rw [← accessor_name a]
  apply method_found (p := s.program name runtime) (accessor_declared function)
  intro n inside typed own named
  exact accessor_method_unique sound (builder_type_apart name) function inside typed own named

theorem build_found :
    (s.program name runtime).method? name.builderType none "build" =
      some (name.builderMethod (s.buildFunction name)) := by
  have function : s.buildFunction name ∈ (s.builderMethods name).functions :=
    List.mem_append_right _ (List.mem_singleton.mpr rfl)
  apply method_found (p := s.program name runtime) (builder_declared function)
  intro n inside typed own named
  obtain ⟨f, member, rfl⟩ := owner_of_builder_method name runtime inside typed own
  rcases List.mem_append.mp member with setter | build
  · obtain ⟨a, declared, either⟩ := List.mem_flatMap.mp setter
    simp only [List.mem_cons, List.not_mem_nil, or_false] at either
    rcases either with rfl | rfl
    · have field : a.field = "build" := (value_setter_name a).symm.trans named
      exact absurd (by rw [field]; decide) (field_not_reserved sound declared)
    · exact absurd named (setter_not_build a)
  · rw [List.mem_singleton.mp build]

theorem builder_function_found :
    (s.program name runtime).function? (name.ident ++ "::builder") =
      some ⟨[], name.ident, none, name.builderFunction⟩ := by
  have function : name.builderFunction ∈ (s.accessors name).functions :=
    List.mem_append_right _ (List.mem_singleton.mpr rfl)
  have path : name.ident ++ "::builder" = name.ident ++ "::" ++ name.builderFunction.name := by
    rw [String.append_assoc]
    rfl
  rw [path]
  apply function_found (p := s.program name runtime) (accessor_declared function) rfl
  intro n inside own same
  rcases record_method_cases inside with ⟨f, -, rfl⟩ | rfl | ⟨f, -, rfl⟩
  · have named : f.name = name.builderFunction.name := by
      simpa [String.append_right_inj] using same
    exact accessor_method_unique sound (builder_type_apart name) function inside rfl rfl named
  · cases own
  · -- Any path into the builder is longer than this one.
    have long := builder_type_length name
    have chars : (name.builderType ++ "::" ++ f.name).toList.length =
        (name.ident ++ "::" ++ "builder").toList.length :=
      congrArg (fun path => path.toList.length) same
    have entry : "builder".toList.length = 7 := by decide
    simp only [String.toList_append, List.length_append] at chars
    omega

theorem setter_found (apart : s.SettersApart) {f : Function}
    (function : f ∈ (s.builderMethods name).functions) :
    (s.program name runtime).method? name.builderType none f.name =
      some (name.builderMethod f) := by
  have distinct : ((s.builderMethods name).functions.map Function.name).Nodup := by
    rw [builder_methods_block]
    exact List.Nodup.of_map _ ((builder_methods_distinct_iff sound).mpr apart)
  apply method_found (p := s.program name runtime) (builder_declared function)
  intro n inside typed own named
  obtain ⟨g, other, rfl⟩ := owner_of_builder_method name runtime inside typed own
  rw [List.inj_on_of_nodup_map distinct other function named]

theorem builder_started :
    (s.program name runtime).start (name.ident ++ "::builder") [] =
      some (s.builderValue name fun _ => none) := by
  have kind := kind_path_apart (s.program name runtime) name.ident "::builder" (by decide)
    (by decide)
  have initial : (s.program name runtime).eval evalDepth [] ⟨[], ""⟩ (.initial name.builderType) =
      some (s.builderValue name fun _ => none, ⟨[], ""⟩) :=
    eval_initial _ 15 [] _ (builder_initial name runtime s)
  have value : (⟨[], name.ident, none, name.builderFunction⟩ : Method).invoke
      ((s.program name runtime).eval evalDepth) [] ⟨[], ""⟩ = _ := invoke_expr rfl rfl initial
  rw [Program.start, call_without_args kind (builder_function_found name runtime sound), value]
  rfl

theorem record_built (members : Member → Option Value) :
    (s.program name runtime).ask (s.builderValue name members) "build" [] =
      some (s.recordValue name members) := by
  have type : (s.builderValue name members).typeName? = some name.builderType := rfl
  let locals : List (String × Value) := [("self", s.builderValue name members)]
  have fields : ∀ a ∈ s.members, (s.program name runtime).eval 15 [name.builderModule]
      ⟨locals, ""⟩ a.selfField = some (Value.ofOption id (members a), ⟨locals, ""⟩) := by
    intro a member
    have held : (s.builderValue name members).field? a.field =
        some (Value.ofOption id (members a)) := lookup_of_unique sound.fields member
    rw [Member.selfField, eval_field _ _ _ _ (v := s.builderValue name members) rfl, held]
    rfl
  have record : (s.program name runtime).eval evalDepth [name.builderModule] ⟨locals, ""⟩
      (.record name.outerType (s.members.map fun a => (a.field, a.selfField))) =
        some (s.recordValue name members, ⟨locals, ""⟩) := by
    refine (eval_record _ 15 _ _ name.outerType Member.field fields).trans ?_
    rw [outer_type_in_module]
    rfl
  have value : (name.builderMethod (s.buildFunction name)).invoke
      ((s.program name runtime).eval evalDepth) [s.builderValue name members] ⟨[], ""⟩ = _ :=
    invoke_expr rfl rfl record
  rw [Program.ask, call_method_own type (build_found name runtime sound), value]
  rfl

theorem accessor_asked {members : Member → Option Value} {a : Member} (member : a ∈ s.members)
    (typed : ∀ x, members a = some x → a.target.Admits x) :
    (s.program name runtime).ask (s.recordValue name members) a.field [] =
      some (Value.ofOption id (members a)) := by
  have type : (s.recordValue name members).typeName? = some name.ident := rfl
  have field : (s.recordValue name members).field? a.field =
      some (Value.ofOption id (members a)) := lookup_of_unique sound.fields member
  have value := accessor_value (p := s.program name runtime) 13 field typed name.ident ⟨[], ""⟩
  rw [Program.ask, call_method_own type (own_accessor_found name runtime sound member)]
  exact congrArg (Option.map Prod.fst) value

theorem call_run {c : SetterCall} (fits : c.Fits s) (members : Member → Option Value) :
    c.run (s.program name runtime) name (s.builderValue name members) =
      some (s.builderValue name (Function.update members c.member c.given)) := by
  cases c with
  | value a x =>
    have called := value_setter_invoked (p := s.program name runtime) name 12 (fits.typed x rfl)
      (s.builderValue name members) ⟨[], ""⟩
    have kept := with_builder_field sound name members fits.declared (some x)
    exact (congrArg (Option.map Prod.fst) called).trans (congrArg some kept)
  | option a x =>
    have called := option_setter_invoked (p := s.program name runtime) (a := a) name 12
      (s.builderValue name members) (Value.ofOption id x) ⟨[], ""⟩
    have kept := with_builder_field sound name members fits.declared x
    exact (congrArg (Option.map Prod.fst) called).trans (congrArg some kept)

theorem call_by_name (apart : s.SettersApart) {c : SetterCall} (fits : c.Fits s)
    (members : Member → Option Value) :
    c.byName (s.program name runtime) (s.builderValue name members) =
      c.run (s.program name runtime) name (s.builderValue name members) := by
  have type : (s.builderValue name members).typeName? = some name.builderType := rfl
  have found := setter_found name runtime sound apart (setter_declared fits name)
  rw [SetterCall.byName, Program.ask, call_method_own type found]
  rfl

end Lookups

theorem calls_run {step : Value → SetterCall → Option Value}
    (each : ∀ members, ∀ c : SetterCall, c.Fits s → step (s.builderValue name members) c =
      some (s.builderValue name (Function.update members c.member c.given)))
    (calls : List SetterCall) (fits : ∀ c ∈ calls, c.Fits s) :
    calls.foldlM step (s.builderValue name fun _ => none) =
      some (s.builderValue name (lastGiven calls)) := by
  -- From the last call on, as that one alone decides about its member.
  induction calls using List.reverseRecOn with
  | nil => rfl
  | append_singleton calls c ih =>
    obtain ⟨before, last⟩ := List.forall_mem_append.mp fits
    rw [List.foldlM_append, ih before, last_given_append]
    simp only [Option.bind_eq_bind, Option.bind_some, List.foldlM_cons, List.foldlM_nil,
      each _ c (last c List.mem_cons_self), Option.pure_def]

end Declarations

def RecordDecl.typedFields (r : RecordDecl) : List (String × String) :=
  r.fields.map fun f => (f.name, f.type)

theorem typed_fields_of_members (s : Structure) (name : ShapeName) :
    (s.recordDecl name).typedFields =
      s.members.map fun a => (a.field, optionOf a.target.typeText) := by
  simp only [RecordDecl.typedFields, Structure.recordDecl, List.map_map]
  rfl

theorem builder_typed_fields (s : Structure) (name : ShapeName) :
    (s.builderDecl name).typedFields = (s.recordDecl name).typedFields := by
  rw [typed_fields_of_members]
  simp only [RecordDecl.typedFields, Structure.builderDecl, List.map_map]
  rfl

/-- The record of a structure in a valid model has the fields of its builder, and `build` gives each
of them once, from the field of the same name. After any calls of setters a built record has, for
each member, what the last call for it gave. It makes no difference whether setters are called by
name as long as no two of them have the same. -/
theorem builder_keeps_last_given (v : ValidModel) {s : Structure}
    (declared : s ∈ v.model.structures) (name : ShapeName) (runtime : String) :
    let p := s.program name runtime
    (∃ record builder build, p.records = [(name.ident, record), (name.builderType, builder)] ∧
      p.method? name.builderType none "build" = some build ∧
      builder.typedFields = record.typedFields ∧ (record.typedFields.map Prod.fst).Nodup ∧
      build.function.body =
        .value (.record name.outerType
          (record.typedFields.map fun f => (f.1, .field selfExpr f.1)))) ∧
    ∀ calls : List SetterCall, (∀ c ∈ calls, c.Fits s) →
      (∀ c ∈ calls, name.builderMethod c.function ∈ p.methods) ∧
      ∃ empty full record, p.start (name.ident ++ "::builder") [] = some empty ∧
        calls.foldlM (SetterCall.run p name) empty = some full ∧
        (s.SettersApart → calls.foldlM (SetterCall.byName p) empty = some full) ∧
        p.ask full "build" [] = some record ∧
        ∀ a ∈ s.members, p.ask record a.field [] = some (.ofOption id (lastGiven calls a)) := by
  have sound : s.FieldsSound := v.sound.structures s declared
  intro p
  constructor
  · refine ⟨_, _, _, records_of_program name runtime s, build_found name runtime sound,
      builder_typed_fields s name, ?_, ?_⟩
    · rw [typed_fields_of_members, List.map_map]
      exact sound.fields
    · rw [typed_fields_of_members, List.map_map]
      rfl
  · intro calls fits
    refine ⟨fun c called => builder_declared (setter_declared (fits c called) name), _, _, _,
      builder_started name runtime sound,
      calls_run name (fun members c fit => call_run name runtime sound fit members) calls fits, ?_,
      record_built name runtime sound _, ?_⟩
    · intro apart
      apply calls_run name _ calls fits
      intro members c fit
      rw [call_by_name name runtime sound apart fit, call_run name runtime sound fit]
    · intro a member
      exact accessor_asked name runtime sound member (last_given_typed fits a)

def missingItemCalls : List SetterCall :=
  [.value ⟨"Message", .string, none⟩ (.text "lost"), .option ⟨"type", .long, none⟩ (some (.int 3)),
   .value ⟨"Message", .string, none⟩ (.text "gone"), .option ⟨"type", .long, none⟩ none]

theorem missing_item_keeps_last_given :
    let p := missingItem.program ⟨"MissingItemException", "MissingItemError"⟩ "errgen_runtime"
    ∃ empty full record, p.start "MissingItemError::builder" [] = some empty ∧
      missingItemCalls.foldlM (SetterCall.byName p) empty = some full ∧
      p.ask full "build" [] = some record ∧
      p.ask record "message" [] = some (.present (.text "gone")) ∧
      p.ask record "r#type" [] = some .absent := by
  have fits : ∀ c ∈ missingItemCalls, c.Fits missingItem := by
    simp only [missingItemCalls, List.forall_mem_cons, List.not_mem_nil, false_imp_iff,
      implies_true, and_true]
    refine ⟨⟨by simp [SetterCall.member, missingItem], ?_⟩,
      ⟨by simp [SetterCall.member, missingItem], ?_⟩,
      ⟨by simp [SetterCall.member, missingItem], ?_⟩,
      ⟨by simp [SetterCall.member, missingItem], ?_⟩⟩
    · rintro _ ⟨⟩
      exact .string "lost"
    · rintro _ ⟨⟩
      exact .long 3
    · rintro _ ⟨⟩
      exact .string "gone"
    · rintro _ ⟨⟩
  have apart : missingItem.SettersApart := by
    unfold Structure.SettersApart
    decide +kernel
  obtain ⟨-, keeps⟩ := builder_keeps_last_given storeModel (s := missingItem)
    (by simp [storeModel]) ⟨"MissingItemException", "MissingItemError"⟩ "errgen_runtime"
  obtain ⟨-, empty, full, record, started, -, called, built, asked⟩ := keeps missingItemCalls fits
  have message := asked ⟨"Message", .string, none⟩ (by simp [missingItem])
  have type := asked ⟨"type", .long, none⟩ (by simp [missingItem])
  exact ⟨empty, full, record, started, called apart, built, message, type⟩

end ErrorUnion
