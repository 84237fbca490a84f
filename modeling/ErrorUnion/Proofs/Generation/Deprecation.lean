import ErrorUnion.Proofs.Decl.Indentation
import ErrorUnion.Proofs.Generation.Pairs

/- Deprecation in generated source. A deprecated error has an attribute at its variant, on one line
   whatever its message is, and is otherwise treated like any other error. -/
namespace ErrorUnion
open Text Name

def Structure.undeprecated (s : Structure) : Structure := { s with deprecated := none }

def Model.undeprecated (m : Model) : Model := m.retouched Structure.undeprecated id

def ErrorShape.undeprecated (e : ErrorShape) : ErrorShape := { e with deprecation := none }

def Classification.undeprecated (k : Classification) : Classification :=
  { k with deprecated := false }

def VariantKind.undeprecated : VariantKind → VariantKind
  | .shape e k => .shape e.undeprecated k.undeprecated
  | .generic => .generic
  | .unhandled => .unhandled

def Variant.undeprecated (v : Variant) : Variant := { v with kind := v.kind.undeprecated }

def CombinedError.undeprecated (c : CombinedError) : CombinedError :=
  { c with variants := c.variants.map Variant.undeprecated }

/-- The fault side and retry kind by which each modeled error is classified. -/
def CombinedError.sidesAndKinds (c : CombinedError) :
    List (String × FaultSide × Option RetryKind) :=
  c.shapeVariants.map fun (v, _, k) => (v.name, k.fault, k.retryKind)

theorem undeprecated_keeps_names : KeepsNames Structure.undeprecated id :=
  ⟨fun _ => rfl, fun _ => rfl, fun _ => rfl⟩

def Attribute.isDeprecation : Attribute → Bool
  | deprecated _ _ => true
  | _ => false

def noDeprecation : Pruning where
  doc _ := false
  attr := Attribute.isDeprecation

theorem no_deprecation_deletes : noDeprecation.Deletes "#[deprecated" := by
  constructor
  · intro d goes
    cases goes
  · intro a goes
    cases a with
    | deprecated note since =>
      have lines := deprecation_args_one_line note since
      simp only [Attribute.text]
      generalize deprecationArgs note since = args at lines
      cases args with
      | nil => exact ⟨by decide, by decide⟩
      | cons t r =>
        have joined := one_line_joined (by decide : OneLine ", ") lines
        refine ⟨one_line_append (one_line_append (by decide) joined) (by decide), ?_⟩
        rw [String.toList_append, String.toList_append, List.append_assoc]
        exact starts_with_append (by decide) _
    | _ => cases goes

theorem structure_items_undeprecated (s : Structure) (name : ShapeName) :
    s.undeprecated.items name = s.items name := rfl

namespace CombinedError
variable (c : CombinedError)

def IgnoresDeprecation (arm : Variant → Bool × ArmBody) : Prop :=
  ∀ v : Variant, arm v.undeprecated = arm v

theorem arms_ignore_deprecation (runtime : String) :
    IgnoresDeprecation messageArm ∧ IgnoresDeprecation codeArm ∧
      IgnoresDeprecation (kindArm runtime) ∧ IgnoresDeprecation displayArm ∧
      IgnoresDeprecation sourceArm := by
  refine ⟨?_, ?_, ?_, ?_, ?_⟩
  all_goals
    rintro ⟨name, kind⟩
    cases kind <;> rfl

theorem by_self_undeprecated {arm : Variant → Bool × ArmBody} (ignores : IgnoresDeprecation arm) :
    c.undeprecated.bySelf arm = c.bySelf arm := by
  simp only [bySelf, arms, undeprecated, List.map_map, Function.comp_def, ignores _]
  rfl

theorem shape_variants_undeprecated :
    c.undeprecated.shapeVariants = c.shapeVariants.map fun (v, e, k) =>
      (v.undeprecated, e.undeprecated, k.undeprecated) := by
  simp only [shapeVariants, undeprecated, List.filterMap_map, List.map_filterMap]
  apply List.filterMap_congr
  rintro ⟨name, kind⟩ -
  cases kind <;> rfl

theorem own_methods_undeprecated (runtime : String) :
    c.undeprecated.ownMethods runtime = c.ownMethods runtime := by
  obtain ⟨message, code, -⟩ := arms_ignore_deprecation runtime
  simp only [ownMethods, messageFunction, codeFunction, shape_variants_undeprecated, List.map_map,
    by_self_undeprecated c message, by_self_undeprecated c code]
  rfl

theorem trait_methods_undeprecated (runtime : String) :
    c.undeprecated.kindMethods runtime = c.kindMethods runtime ∧
      c.undeprecated.displayMethods = c.displayMethods ∧
      c.undeprecated.errorMethods = c.errorMethods := by
  obtain ⟨-, -, kind, display, source⟩ := arms_ignore_deprecation runtime
  simp only [kindMethods, displayMethods, errorMethods, kindFunction, displayFunction,
    sourceFunction, by_self_undeprecated c kind, by_self_undeprecated c display,
    by_self_undeprecated c source]
  exact ⟨rfl, rfl, rfl⟩

theorem variant_undeprecated (v : Variant) (runtime : String) :
    noDeprecation.variant (v.undeprecated.decl runtime) =
      noDeprecation.variant (v.decl runtime) := by
  obtain ⟨name, kind⟩ := v
  cases kind with
  | shape e k => cases deprecated : e.deprecation <;> simp [Pruning.variant, Pruning.attributes,
      Variant.undeprecated, VariantKind.undeprecated, ErrorShape.undeprecated, Variant.decl,
      noDeprecation, Attribute.isDeprecation, deprecated]
  | generic => rfl
  | unhandled => rfl

theorem items_undeprecated (runtime : String) :
    (c.undeprecated.items runtime).map noDeprecation.item =
      (c.items runtime).map noDeprecation.item := by
  have decl : noDeprecation.union (c.undeprecated.decl runtime) =
      noDeprecation.union (c.decl runtime) := by
    simp only [Pruning.union, CombinedError.decl, undeprecated, List.map_map, Function.comp_def,
      variant_undeprecated]
    rfl
  obtain ⟨kind, display, error⟩ := c.trait_methods_undeprecated runtime
  simp only [CombinedError.items, List.map_cons, Pruning.item, decl, own_methods_undeprecated,
    kind, display, error]

theorem sides_and_kinds_undeprecated : c.undeprecated.sidesAndKinds = c.sidesAndKinds := by
  simp only [sidesAndKinds, shape_variants_undeprecated, List.map_map]
  rfl

end CombinedError

section Unions
variable {classifier : Classifier}
  (blind : ∀ e : ErrorShape, classifier e.undeprecated = classifier e)
include blind

theorem error_variant_undeprecated (e : ErrorShape) :
    e.undeprecated.variant classifier = (e.variant classifier).undeprecated := by
  simp only [ErrorShape.variant, classify, blind]
  rfl

theorem union_undeprecated (m : Model) (rename : Bool) (o : Operation) :
    o.unionIn m.undeprecated (.standard rename) classifier =
      (o.unionIn m (.standard rename) classifier).undeprecated := by
  have shape (wire : String) : m.undeprecated.declaredShape? (.standard rename) wire =
      (m.declaredShape? (.standard rename) wire).map ErrorShape.undeprecated := by
    simp only [Model.declaredShape?, Model.undeprecated,
      retouched_structure undeprecated_keeps_names, Option.bind_map, Option.map_bind,
      Function.comp_def, retouched_structure_name undeprecated_keeps_names, Option.map_map]
    rfl
  have errors : o.errors.filterMap (m.undeprecated.declaredShape? (.standard rename)) =
      (o.errors.filterMap (m.declaredShape? (.standard rename))).map ErrorShape.undeprecated := by
    rw [List.map_filterMap]
    exact List.filterMap_congr fun wire _ => shape wire
  simp only [Operation.unionIn, Operation.errorSetIn, ErrorSet.combinedOf,
    CombinedError.undeprecated, errors, List.map_append, List.map_map, Function.comp_def,
    error_variant_undeprecated blind]
  rfl

theorem unions_undeprecated (m : Model) (rename : Bool) :
    m.undeprecated.unions (.standard rename) classifier =
      (m.unions (.standard rename) classifier).map CombinedError.undeprecated := by
  simp only [Model.unions, List.map_map, Function.comp_def, ← union_undeprecated blind]
  simp only [Model.undeprecated, Model.retouched, List.map_id]

theorem planned_undeprecated (m : Model) (rename : Bool) (runtime : String) :
    (m.undeprecated.planned (.standard rename) classifier runtime).items.map noDeprecation.item =
      (m.planned (.standard rename) classifier runtime).items.map noDeprecation.item := by
  simp only [Model.planned, unions_undeprecated blind, List.map_append, List.map_flatMap,
    List.flatMap_map, CombinedError.items_undeprecated]
  simp only [Model.undeprecated, Model.retouched, List.flatMap_map,
    retouched_structure_name undeprecated_keeps_names, structure_items_undeprecated]

end Unions

theorem policy_blind (policy : RetryPolicy) (e : ErrorShape) :
    policy.classify e.undeprecated = policy.classify e := rfl

/-- Deprecation never influences behaviour. On two models that differ in it only, generation by a
policy without a check of the syntax fails with the same diagnostic, or succeeds with sources that
are the same without the lines of deprecations, and with combined types that classify each error
alike. -/
theorem deprecation_without_influence {v w : ValidModel}
    (same : v.model.undeprecated = w.model.undeprecated) (digest : v.digest = w.digest)
    {o : Options} (unasked : o.verifySyntax = false) (check : SyntaxCheck) (policy : RetryPolicy) :
    EndAlike v w check o policy.classify fun g h =>
      withoutLines "#[deprecated" g.source = withoutLines "#[deprecated" h.source ∧
        g.combined.map CombinedError.undeprecated = h.combined.map CombinedError.undeprecated ∧
        g.combined.map CombinedError.sidesAndKinds =
          h.combined.map CombinedError.sidesAndKinds := by
  have blind := policy_blind policy
  have alike := retouched_outcomes no_deprecation_deletes undeprecated_keeps_names same digest
    unasked (fun m => planned_undeprecated blind m o.renameExceptions o.runtimeCrate) check
  refine end_alike_imp alike ?_
  rintro g h - - ⟨sources, combined, combined'⟩
  have unions : g.combined.map CombinedError.undeprecated =
      h.combined.map CombinedError.undeprecated := by
    rw [combined, combined', ← unions_undeprecated blind, ← unions_undeprecated blind, same]
  have classified := congrArg (List.map CombinedError.sidesAndKinds) unions
  simp only [List.map_map, Function.comp_def, CombinedError.sides_and_kinds_undeprecated]
    at classified
  exact ⟨sources, unions, classified⟩

def retiredStoreModel : ValidModel where
  model :=
    { storeModel.model with
      structures :=
        [{ missingItem with deprecated := some ⟨some "\"]\n#[deny(warnings)]", some "\r\n2.0\\"⟩ },
          { brokenStore with deprecated := none }] }
  digest := none
  valid := by decide +kernel

def uncheckedByFault : Options := ⟨true, .faultSide, "errgen_runtime", false⟩

theorem retired_store_alike :
    storeModel.model.undeprecated = retiredStoreModel.model.undeprecated ∧
      ∃ g h, storeModel.generateChecked .byPath uncheckedByFault RetryPolicy.faultSide.classify =
          .ok g ∧
        retiredStoreModel.generateChecked .byPath uncheckedByFault RetryPolicy.faultSide.classify =
          .ok h ∧
        withoutLines "#[deprecated" g.source = withoutLines "#[deprecated" h.source ∧
        g.combined.map CombinedError.undeprecated = h.combined.map CombinedError.undeprecated ∧
        g.combined.map CombinedError.sidesAndKinds =
          h.combined.map CombinedError.sidesAndKinds := by
  have same : storeModel.model.undeprecated = retiredStoreModel.model.undeprecated := by
    decide +kernel
  obtain ⟨g, done⟩ : ∃ g, storeModel.generateChecked .byPath uncheckedByFault
      RetryPolicy.faultSide.classify = .ok g := generated_under_own_path rfl (by decide +kernel) _
  obtain ⟨h, also, alike⟩ := succeeds_alike done
    (deprecation_without_influence same rfl rfl .byPath .faultSide)
  exact ⟨same, g, h, done, also, alike⟩

end ErrorUnion
