import ErrorUnion.Proofs.Union.Arms

/- The combined types of a module against its model: one for each operation, with a variant for each
   error that the operation declares and the two fallbacks behind them. -/
namespace ErrorUnion
open Text Name

/-- A variant that stands for an error by its wire name. It is called by the resolved identifier,
keeps what the model says of the first structure of that name, and holds that structure's record. -/
structure VariantOf (m : Model) (plan : ModulePlan) (wire : String) (v : Variant) (s : Structure)
    (name : ShapeName) (e : ErrorShape) : Prop where
  declared : m.structure? wire = some s
  resolved : plan.names.structure? wire = some name
  called : v.name = name.ident
  shape : ∃ classification, v.kind = .shape e classification
  wire : e.name.wire = wire
  ident : e.name.ident = name.ident
  fault : s.fault = some e.fault
  retryable : e.retryable = true ↔ ∃ r, s.retryable = some r
  throttling : e.throttling = true ↔ ∃ r, s.retryable = some r ∧ r.throttling = true
  deprecation : e.deprecation = s.deprecated
  payload : ∃ r, .record r ∈ plan.items ∧ r = s.recordDecl name ∧ e.record.typePath = r.name

/-- The combined type of an operation. -/
structure UnionOf (m : Model) (plan : ModulePlan) (o : Operation) (c : CombinedError) : Prop where
  name : ∃ n, plan.names.operation? o.name = some n ∧ c.operation = n ∧ c.name = n.ident ++ "Error"
  count : c.variants.length = o.errors.length + 2
  variants : ∃ shapes, c.variants = shapes ++ [⟨"Generic", .generic⟩, ⟨"Unhandled", .unhandled⟩] ∧
    List.Forall₂ (fun wire v => ∃ s name e, VariantOf m plan wire v s name e) o.errors shapes
  distinct : (c.variants.map Variant.name).Nodup
  unreserved : ∀ v ∈ c.variants, ∀ e k, v.kind = .shape e k →
    v.name ≠ "Generic" ∧ v.name ≠ "Unhandled"

theorem forall₂_filter_map {R : α → β → Prop} {g : α → Option β} {xs : List α}
    (each : ∀ x ∈ xs, ∃ y, g x = some y ∧ R x y) : List.Forall₂ R xs (xs.filterMap g) := by
  induction xs with
  | nil => exact .nil
  | cons x r ih =>
    obtain ⟨y, found, holds⟩ := each x List.mem_cons_self
    rw [List.filterMap_cons_some found]
    exact .cons holds (ih fun z later => each z (List.mem_cons_of_mem x later))

section Planned
variable {m : Model} {rename : Bool} {classifier : Classifier} {runtime : String}

variable (rename classifier runtime) in
theorem variant_of_error (sound : m.Sound) {o : Operation} (declared : o ∈ m.operations)
    {wire : String} (listed : wire ∈ o.errors) :
    ∃ e, m.declaredShape? (.standard rename) wire = some e ∧ ∃ s name,
      VariantOf m (m.planned (.standard rename) classifier runtime) wire (e.variant classifier) s
        name e := by
  obtain ⟨s, fault, member, rfl, side, shape, -⟩ :=
    declared_shape sound (.standard rename) ((sound.operations o declared).declared wire listed)
  refine ⟨_, shape, s, _, structure_found sound.structureNames member,
    named_structure_found sound (.standard rename) member, rfl, ⟨_, rfl⟩, rfl, rfl, side,
    ?retryable, ?throttling, rfl, _, planned_record m _ classifier runtime member, rfl, rfl⟩
  case retryable => exact Option.isSome_iff_exists
  case throttling => cases retry : s.retryable <;> simp [Structure.shape, retry]

theorem union_of_operation (sound : m.Sound) (resolvable : m.Resolvable (.standard rename) runtime)
    {o : Operation} (declared : o ∈ m.operations) :
    UnionOf m (m.planned (.standard rename) classifier runtime) o
      (o.unionIn m (.standard rename) classifier) := by
  have shapes := forall₂_filter_map fun _ listed =>
    variant_of_error rename classifier runtime sound declared listed
  have distinct := variants_distinct sound resolvable
    (union_listed declared (.standard rename) classifier)
  refine ⟨⟨_, named_operation_found sound _ declared, rfl, rfl⟩, ?count, ⟨_, rfl, ?variants⟩,
    distinct, ?unreserved⟩
  case count =>
    have errors : (o.errorSetIn m (.standard rename)).errors.length = o.errors.length :=
      shapes.length_eq.symm
    rw [Operation.unionIn, ErrorSet.combinedOf, List.length_append, List.length_map, errors]
    rfl
  case variants =>
    rw [List.forall₂_map_right_iff]
    apply shapes.imp
    rintro wire e ⟨s, name, stands⟩
    exact ⟨s, name, e, stands⟩
  case unreserved =>
    -- A shape's variant is none of the fallbacks, which have these names.
    intro v member e k shape
    rw [Operation.unionIn, ErrorSet.combinedOf, List.map_append, List.nodup_append'] at distinct
    rcases List.mem_append.mp member with own | fallback
    · have apart := distinct.2.2 (List.mem_map_of_mem own)
      simpa [fallbackVariants, genericVariant, unhandledVariant] using apart
    · simp only [fallbackVariants, List.mem_cons, List.not_mem_nil, or_false] at fallback
      rcases fallback with rfl | rfl <;> cases shape

end Planned

/-- The combined types of a generated module are those of the model's operations, in their order. -/
theorem combined_types_follow_operations {v : ValidModel} {check : SyntaxCheck} {o : Options}
    {classifier : Classifier} {g : GeneratedModule}
    (done : v.generateChecked check o classifier = .ok g) :
    ∃ plan, v.plan o classifier = .ok plan ∧ g.source = (moduleSheet v plan.items).text ∧
      v.model.resolve (.standard o.renameExceptions) o.runtimeCrate = .ok plan.names ∧
      List.Forall₂ (UnionOf v.model plan) v.model.operations g.combined := by
  obtain ⟨plan, planned, source, combined⟩ := generate_checked_ok done
  obtain ⟨-, resolvable, rfl⟩ := (plan_ok_iff ..).mp planned
  refine ⟨_, planned, source, (resolve_ok_iff ..).mpr ⟨resolvable, rfl⟩, ?_⟩
  rw [combined, Model.planned, Model.unions, List.forall₂_map_right_iff, List.forall₂_same]
  intro operation declared
  exact union_of_operation v.sound resolvable declared

theorem store_type_follows_operation :
    ∃ g plan, storeModel.generateChecked .byPath .default RetryPolicy.faultSide.classify = .ok g ∧
      storeModel.plan .default RetryPolicy.faultSide.classify = .ok plan ∧
      List.Forall₂ (UnionOf storeModel.model plan) [takeItem] g.combined := by
  obtain ⟨g, done⟩ := store_generated RetryPolicy.faultSide.classify
  obtain ⟨plan, planned, -, -, follow⟩ := combined_types_follow_operations done
  exact ⟨g, plan, done, planned, follow⟩

end ErrorUnion
