import ErrorUnion.Proofs.Generation.Namespace

/- The crates that generated code refers to, against the names that it defines beside them. Modules
   never hide a crate. A type does if the path of the runtime starts with its name, which is checked
   for modules only. -/
namespace ErrorUnion
open Text Name

/-- The names by which generated code reaches crates: those of the language, and the first one in
the path of the runtime. -/
def crateNames (runtime : String) : List String := ["std", "core", "alloc", pathRoot runtime]

def KeepsCrates (runtime : String) (items : List Item) : Prop :=
  ∀ name ∈ typeNames items, name ∉ crateNames runtime

theorem mem_crate_names {runtime name : String} :
    name ∈ crateNames runtime ↔ name ∈ reservedModules ∨ name = pathRoot runtime := by
  simp [crateNames, reservedModules, or_assoc]

theorem type_name_not_reserved {name : String} (word : IsTypeName name) :
    name ∉ reservedModules := by
  have small : ∀ w ∈ reservedModules, ¬ IsTypeName w := by decide
  exact fun reserved => small name reserved word

theorem module_keeps_crates {m : Model} {p : SymbolProvider} {runtime : String}
    (resolvable : m.Resolvable p runtime) {s : Structure} (declared : s ∈ m.structures) :
    (p.structureName s).builderModule ∉ crateNames runtime := by
  have allowed := resolvable.allowed s declared
  rw [mem_crate_names]
  rintro (reserved | root)
  · exact allowed.crates reserved
  · exact allowed.root root

theorem planned_keeps_crates_iff {m : Model} (sound : m.Sound) {rename : Bool} {runtime : String}
    (resolvable : m.Resolvable (.standard rename) runtime) (classifier : Classifier) :
    KeepsCrates runtime (m.planned (.standard rename) classifier runtime).items ↔
      pathRoot runtime ∉ (SymbolProvider.standard rename).unionAndRecordNames m := by
  have kinds := type_names_by_kind m (.standard rename) classifier runtime
  constructor
  · intro keeps type
    refine keeps (pathRoot runtime) ?_ (mem_crate_names.mpr (Or.inr rfl))
    exact kinds.mem_iff.mpr (List.mem_append_left _ type)
  · intro apart name defined
    rcases List.mem_append.mp (kinds.mem_iff.mp defined) with type | module
    · rw [mem_crate_names]
      rintro (reserved | rfl)
      · exact type_name_not_reserved (type_names_are_type_names sound rename name type) reserved
      · exact apart type
    · obtain ⟨s, declared, rfl⟩ := List.mem_map.mp module
      exact module_keeps_crates resolvable declared

/-- Once names are resolved, crates are hidden exactly if a record or a combined type is called like
the root of the runtime's path. No root that starts with a small letter is hidden. -/
theorem crates_kept_iff {v : ValidModel} {o : Options} {names : Names}
    (path : IsCratePath o.runtimeCrate)
    (resolved : v.model.resolve (.standard o.renameExceptions) o.runtimeCrate = .ok names)
    (classifier : Classifier) :
    ∃ plan, v.plan o classifier = .ok plan ∧ plan.names = names ∧
      (KeepsCrates o.runtimeCrate plan.items ↔
        (∀ s ∈ v.model.structures,
          ((SymbolProvider.standard o.renameExceptions).structureName s).ident ≠
            pathRoot o.runtimeCrate) ∧
        ∀ operation ∈ v.model.operations, operation.name ++ "Error" ≠ pathRoot o.runtimeCrate) ∧
      (¬ IsTypeName (pathRoot o.runtimeCrate) → KeepsCrates o.runtimeCrate plan.items) := by
  obtain ⟨resolvable, rfl⟩ := (resolve_ok_iff ..).mp resolved
  have sound := v.sound
  have keeps := planned_keeps_crates_iff sound resolvable classifier
  refine ⟨_, (plan_ok_iff ..).mpr ⟨path, resolvable, rfl⟩, rfl, ?_, ?_⟩
  · rw [keeps, SymbolProvider.unionAndRecordNames, List.mem_append, not_or]
    simp only [List.mem_map, not_exists, not_and]
    exact Iff.rfl
  · intro small
    rw [keeps]
    exact fun type => small (type_names_are_type_names sound o.renameExceptions _ type)

theorem store_keeps_crates :
    ∃ plan, storeModel.plan .default RetryPolicy.faultSide.classify = .ok plan ∧
      KeepsCrates "errgen_runtime" plan.items := by
  have path : IsCratePath Options.default.runtimeCrate :=
    (crate_path_fault_none_iff _).mp (by decide +kernel)
  have resolved := (resolve_ok_iff ..).mpr ⟨store_resolvable, rfl⟩
  obtain ⟨plan, planned, -, -, keeps⟩ :=
    crates_kept_iff (v := storeModel) (o := .default) path resolved RetryPolicy.faultSide.classify
  exact ⟨plan, planned, keeps (by decide +kernel)⟩

def runtimeModel : ValidModel where
  model := ⟨Model.currentVersion, "example", [⟨"Ping", ["Runtime"], none⟩],
    [⟨"Runtime", some .client, none, none, none, []⟩]⟩
  digest := none
  valid := by decide +kernel

/-- Resolving names does not keep records from hiding the runtime. -/
theorem record_hides_runtime :
    ¬ ∀ (v : ValidModel) (o : Options) (classifier : Classifier) (names : Names),
      IsCratePath o.runtimeCrate →
      v.model.resolve (.standard o.renameExceptions) o.runtimeCrate = .ok names →
      ∀ plan, v.plan o classifier = .ok plan → KeepsCrates o.runtimeCrate plan.items := by
  intro all
  have path : IsCratePath "Runtime" := (crate_path_fault_none_iff _).mp (by decide +kernel)
  have resolvable : runtimeModel.model.Resolvable (.standard true) "Runtime" := by
    refine ⟨?_, by decide +kernel, by decide +kernel⟩
    intro s member
    obtain rfl := List.mem_singleton.mp member
    exact ⟨by decide +kernel, by decide +kernel, by decide +kernel⟩
  have keeps := all runtimeModel { Options.default with runtimeCrate := "Runtime" }
    RetryPolicy.clientOnly.classify _ path ((resolve_ok_iff ..).mpr ⟨resolvable, rfl⟩) _
    ((plan_ok_iff ..).mpr ⟨path, resolvable, rfl⟩)
  exact keeps "Runtime" (by decide +kernel) (by decide +kernel)

end ErrorUnion
