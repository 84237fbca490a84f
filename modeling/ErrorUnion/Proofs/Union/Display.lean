import ErrorUnion.Proofs.Union.Meaning

/- An error is displayed by its record as by the combined type that holds it. Both write the same
   template, the type with what normalization tells of the error and the record with its own
   structure. -/
namespace ErrorUnion
open Text Name

theorem display_declared {s : Structure} (error : s.isError = true) (name : ShapeName) :
    s.displayMethod name ∈ itemsMethods [] (s.items name) := by
  obtain ⟨i, item, inside⟩ : ∃ i ∈ s.errorItems name, s.displayMethod name ∈ i.methodsIn [] := by
    rw [Structure.errorItems, if_pos error]
    exact ⟨_, List.mem_cons_self, List.mem_singleton.mpr rfl⟩
  exact mem_items_methods.mpr ⟨i, mem_structure_items.mpr (Or.inr (Or.inr (Or.inl item))), inside⟩

section Record
variable {m : Model} {rename : Bool} {classifier : Classifier} {runtime : String}

variable (classifier) in
theorem record_display_found (sound : m.Sound)
    (resolvable : m.Resolvable (.standard rename) runtime) {s : Structure}
    (declared : s ∈ m.structures) (error : s.isError = true) :
    (m.program (.standard rename) classifier runtime).method?
        ((SymbolProvider.standard rename).structureName s).ident (some displayTrait) "fmt" =
      some (s.displayMethod ((SymbolProvider.standard rename).structureName s)) := by
  apply method_found (m := s.displayMethod ((SymbolProvider.standard rename).structureName s))
    (program_methods_iff.mpr (Or.inl ⟨s, declared, display_declared error _⟩))
  intro n member typed trait _
  have own := owner_of_record_method sound resolvable declared member typed
  rcases record_method_cases own with ⟨f, -, rfl⟩ | display | ⟨f, -, rfl⟩
  · cases trait
  · exact display
  · exact absurd typed (type_apart_from_builder sound (record_is_type declared) _)

theorem record_displayed (sound : m.Sound)
    (resolvable : m.Resolvable (.standard rename) runtime) {s : Structure}
    (declared : s ∈ m.structures) (error : s.isError = true) {members : Member → Option Value}
    (typed : ∀ a ∈ s.members, ∀ x, members a = some x → a.target.Admits x) :
    let name := (SymbolProvider.standard rename).structureName s
    (m.program (.standard rename) classifier runtime).displayText? (s.recordValue name members) =
      some (shownBy (s.messageMember?.bind fun a => (members a).bind Value.text?)
        (s.display name)) := by
  intro name
  have type : (s.recordValue name members).typeName? = some name.ident := rfl
  have found := record_display_found classifier sound resolvable declared error
  -- The function sees the record as `self` and the formatter it writes to.
  let locals : List (String × Value) := [("self", s.recordValue name members), ("f", .formatter)]
  have called : (s.display name).readsRecord = true → ∀ written,
      (m.program (.standard rename) classifier runtime).eval 16 [] ⟨locals, written⟩
          (.method selfExpr "message" []) =
        some (.ofOption .text (s.messageMember?.bind fun a => (members a).bind Value.text?),
          ⟨locals, written⟩) := by
    intro reads written
    obtain ⟨a, message⟩ := template_reads_message reads
    have self := eval_var (m.program (.standard rename) classifier runtime) 14 []
      ⟨locals, written⟩ "self"
    rw [message, selfExpr, eval_method _ _ _ _ self]
    exact record_message_called sound resolvable declared error message typed 12 _
  have body := template_writes (m.program (.standard rename) classifier runtime) 12
    (s := ⟨locals, ""⟩) rfl (s.display name) called
  rw [Program.displayText?, display_own type found, invoke_with_formatter rfl, Option.map_map]
  exact congrArg (Option.map fun (r : Value × State) => r.2.written) body

end Record

/-- For every error that an operation lists and every assignment of its members, the value of the
operation's combined type and the record itself are displayed, and as the same text. -/
theorem displays_agree {v : ValidModel} {check : SyntaxCheck} {o : Options}
    {classifier : Classifier} {g : GeneratedModule}
    (done : v.generateChecked check o classifier = .ok g) :
    ∃ plan, v.plan o classifier = .ok plan ∧ g.source = (moduleSheet v plan.items).text ∧
      ∀ operation ∈ v.model.operations, ∀ wire ∈ operation.errors,
        ∃ s name, v.model.structure? wire = some s ∧ plan.names.structure? wire = some name ∧
          ∀ members : Member → Option Value,
            (∀ a ∈ s.members, ∀ x, members a = some x → a.target.Admits x) →
            let program : Program := ⟨o.runtimeCrate, plan.items⟩
            let record := s.recordValue name members
            let union := operation.name ++ combinedSuffix
            ∃ text, program.displayText? record = some text ∧
              program.displayText? (.variant union name.ident record) = some text := by
  obtain ⟨plan, planned, source, -⟩ := generate_checked_ok done
  obtain ⟨-, resolvable, rfl⟩ := (plan_ok_iff ..).mp planned
  refine ⟨_, planned, source, ?_⟩
  intro operation declared wire listed
  have sound := v.sound
  have union := union_listed declared (.standard o.renameExceptions) classifier
  obtain ⟨s, found, error⟩ := (sound.operations operation declared).declared wire listed
  obtain ⟨fault, side⟩ := Option.isSome_iff_exists.mp error
  obtain ⟨member, rfl⟩ := found_structure found
  refine ⟨s, _, found, named_structure_found sound _ member, ?_⟩
  intro members typed
  have fits : (ErrorValue.shape s fault members).Of v.model operation :=
    .shape member listed side typed
  have held := display_shown sound resolvable union fits
    (variant_listed sound fits _ classifier)
  rw [display_by_template] at held
  exact ⟨_, record_displayed sound resolvable member error typed, held⟩

def keepingNames : Options := { Options.default with renameExceptions := false }

theorem missing_item_displays_agree :
    ∃ g plan, storeModel.generateChecked .byPath keepingNames RetryPolicy.faultSide.classify =
        .ok g ∧
      storeModel.plan keepingNames RetryPolicy.faultSide.classify = .ok plan ∧
      let program : Program := ⟨"errgen_runtime", plan.items⟩
      let record := missingItemValue.payload (.standard false)
      program.displayText? record = some "MissingItemException: gone" ∧
        program.displayText? (.variant "TakeItemError" "MissingItemException" record) =
          some "MissingItemException: gone" := by
  obtain ⟨g, done⟩ : ∃ g, storeModel.generateChecked .byPath keepingNames
      RetryPolicy.faultSide.classify = .ok g := generated_under_own_path rfl (by decide +kernel) _
  obtain ⟨plan, planned, -, agree⟩ := displays_agree done
  obtain ⟨s, name, found, named, same⟩ :=
    agree takeItem (by simp [storeModel]) "MissingItemException" (by simp [takeItem])
  obtain ⟨-, -, rfl⟩ := (plan_ok_iff ..).mp planned
  obtain rfl : missingItem = s := Option.some.inj found
  obtain rfl : (SymbolProvider.standard false).structureName missingItem = name :=
    Option.some.inj named
  have fits : ErrorValue.Of storeModel.model takeItem (.shape missingItem .client _) :=
    missing_item_value_of_take_item
  cases fits with
  | shape declared listed side typed =>
    obtain ⟨text, own, held⟩ := same _ typed
    obtain rfl : "MissingItemException: gone" = text := by
      refine Option.some.inj (Eq.trans ?_ own)
      decide +kernel
    exact ⟨g, _, done, planned, own, held⟩

end ErrorUnion
