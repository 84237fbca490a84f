import ErrorUnion.Proofs.Decl.Pruning
import ErrorUnion.Proofs.Generation.Locality
import ErrorUnion.Proofs.Generation.Outcome

/- Two models side by side, one of them the other with its structures and operations retouched. As
   long as names and fault sides stay, both fail for the same reason or none does; and where their
   declarations differ in what a pruning takes away, so do their sources. -/
namespace ErrorUnion
open Text Name

def Model.retouched (m : Model) (f : Structure → Structure) (g : Operation → Operation) : Model :=
  { m with operations := m.operations.map g, structures := m.structures.map f }

structure KeepsNames (f : Structure → Structure) (g : Operation → Operation) : Prop where
  structureName : ∀ s, (f s).name = s.name
  error : ∀ s, (f s).isError = s.isError
  operationName : ∀ o, (g o).name = o.name

section Retouched
variable {f : Structure → Structure} {g : Operation → Operation} (keeps : KeepsNames f g)
include keeps

theorem retouched_structure_name (rename : Bool) (s : Structure) :
    (SymbolProvider.standard rename).structureName (f s) =
      (SymbolProvider.standard rename).structureName s := by
  simp only [SymbolProvider.structureName, SymbolProvider.standard, keeps.structureName,
    keeps.error]

theorem retouched_structure (m : Model) (wire : String) :
    (m.retouched f g).structure? wire = (m.structure? wire).map f := by
  simp only [Model.structure?, Model.retouched, List.find?_map, Function.comp_def,
    keeps.structureName]

theorem name_retouched_structures (rename : Bool) (root : String) (taken : List ShapeName)
    (ss : List Structure) :
    nameStructures (.standard rename) root taken (ss.map f) =
      nameStructures (.standard rename) root taken ss := by
  induction ss generalizing taken with
  | nil => rfl
  | cons s r ih =>
    have name := retouched_structure_name keeps rename s
    have fault (n : ShapeName) : structureNameFault? root taken (f s) n =
        structureNameFault? root taken s n := by
      simp only [structureNameFault?, keeps.error]
    simp only [SymbolProvider.structureName] at name
    simp only [List.map_cons, nameStructures, name, fault, ih]

theorem name_retouched_operations (rename : Bool) (structures taken : List ShapeName)
    (os : List Operation) :
    nameOperations (.standard rename) structures taken (os.map g) =
      nameOperations (.standard rename) structures taken os := by
  induction os generalizing taken with
  | nil => rfl
  | cons o r ih =>
    have ident : (SymbolProvider.standard rename).operationIdent (g o) =
        (SymbolProvider.standard rename).operationIdent o := keeps.operationName o
    simp only [List.map_cons, nameOperations, ident, keeps.operationName, ih]

theorem resolve_retouched (m : Model) (rename : Bool) (runtime : String) :
    (m.retouched f g).resolve (.standard rename) runtime =
      m.resolve (.standard rename) runtime := by
  simp only [Model.resolve, Model.retouched, name_retouched_structures keeps,
    name_retouched_operations keeps]

end Retouched

/-- Two runs that fail with the same diagnostic, or succeed with modules that are related. -/
def EndAlike (v w : ValidModel) (check : SyntaxCheck) (o : Options) (classifier : Classifier)
    (related : GeneratedModule → GeneratedModule → Prop) : Prop :=
  (∃ f d, v.generateChecked check o classifier = .error f ∧
      w.generateChecked check o classifier = .error f ∧ f.diagnosed = .ok d) ∨
    ∃ g h, v.generateChecked check o classifier = .ok g ∧
      w.generateChecked check o classifier = .ok h ∧ related g h

section EndAlike
variable {v w : ValidModel} {check : SyntaxCheck} {o : Options} {classifier : Classifier}
  {related related' : GeneratedModule → GeneratedModule → Prop}

theorem end_alike_imp (alike : EndAlike v w check o classifier related)
    (each : ∀ g h, v.generateChecked check o classifier = .ok g →
      w.generateChecked check o classifier = .ok h → related g h → related' g h) :
    EndAlike v w check o classifier related' := by
  obtain failed | ⟨g, h, done, also, pair⟩ := alike
  · exact Or.inl failed
  · exact Or.inr ⟨g, h, done, also, each g h done also pair⟩

theorem succeeds_alike {g : GeneratedModule} (done : v.generateChecked check o classifier = .ok g)
    (alike : EndAlike v w check o classifier related) :
    ∃ h, w.generateChecked check o classifier = .ok h ∧ related g h := by
  obtain ⟨f, d, failed, -⟩ | ⟨g', h, done', also, pair⟩ := alike
  · rw [done] at failed
    cases failed
  · rw [done] at done'
    cases done'
    exact ⟨h, also, pair⟩

end EndAlike

theorem generated_of_resolved {v : ValidModel} {o : Options} (unasked : o.verifySyntax = false)
    (path : o.fault? = none) {names : Names}
    (resolved : v.model.resolve (.standard o.renameExceptions) o.runtimeCrate = .ok names)
    (check : SyntaxCheck) (classifier : Classifier) :
    ∃ g, v.generateChecked check o classifier = .ok g := by
  obtain ⟨option, -⟩ | ⟨-, f, unresolved, -⟩ | ⟨-, asked, -⟩ | ⟨-, done⟩ :=
    generate_checked_cases v check o classifier
  · exact absurd ((option_fault_none_iff o).mp path) option
  · rw [resolved] at unresolved
    cases unresolved
  · rw [unasked] at asked
    cases asked
  · exact done

theorem outcomes_paired {v w : ValidModel} {o : Options} (unasked : o.verifySyntax = false)
    (resolved : v.model.resolve (.standard o.renameExceptions) o.runtimeCrate =
      w.model.resolve (.standard o.renameExceptions) o.runtimeCrate)
    (check : SyntaxCheck) (classifier : Classifier) :
    EndAlike v w check o classifier fun _ _ => True := by
  have failed (f : GenerationFault) (u : ValidModel) (planned : u.plan o classifier = .error f) :
      u.generateChecked check o classifier = .error f := by
    rw [ValidModel.generateChecked, planned]
    rfl
  cases path : o.fault? with
  | some f =>
    have planned (u : ValidModel) : u.plan o classifier = .error (.option f) := by
      simp only [ValidModel.plan, path]
    exact Or.inl ⟨_, _, failed _ v (planned v), failed _ w (planned w), rfl⟩
  | none =>
    cases outcome : v.model.resolve (.standard o.renameExceptions) o.runtimeCrate with
    | error f =>
      have planned (u : ValidModel)
          (same : u.model.resolve (.standard o.renameExceptions) o.runtimeCrate = .error f) :
          u.plan o classifier = .error (.resolution f) := by
        simp only [ValidModel.plan, path, same]
        rfl
      exact Or.inl ⟨_, _, failed _ v (planned v outcome),
        failed _ w (planned w (resolved ▸ outcome)), rfl⟩
    | ok names =>
      obtain ⟨g, done⟩ := generated_of_resolved unasked path outcome check classifier
      obtain ⟨h, also⟩ := generated_of_resolved unasked path (resolved ▸ outcome) check classifier
      exact Or.inr ⟨g, h, done, also, trivial⟩

theorem sources_alike {k : Pruning} {head : String} (deletes : k.Deletes head) {v w : ValidModel}
    (space : v.model.namespaceName = w.model.namespaceName) (digest : v.digest = w.digest)
    {is js : List Item} (same : is.map k.item = js.map k.item) :
    withoutLines head (moduleSheet v is).text = withoutLines head (moduleSheet w js).text := by
  have pruned (is : List Item) :
      withoutLines head (itemsText is) = withoutLines head (itemsText (is.map k.item)) := by
    rw [← Pruning.items_eq_map]
    exact (thinned_text (Pruning.items_thinned deletes is) 0).symm
  have ended : Ended (headerText v.model.namespaceName v.digest ++ "\n") := Or.inr ⟨_, rfl⟩
  rw [module_text, module_text, ← space, ← digest, without_lines_append head ended,
    without_lines_append head ended, pruned is, pruned js, same]

/-- Two runs on models that are the same once retouched. What a retouch changes in declarations is
nothing but what the pruning takes away. -/
theorem retouched_outcomes {k : Pruning} {head : String} (deletes : k.Deletes head)
    {f : Structure → Structure} {g : Operation → Operation} (keeps : KeepsNames f g)
    {v w : ValidModel} (same : v.model.retouched f g = w.model.retouched f g)
    (digest : v.digest = w.digest) {o : Options} (unasked : o.verifySyntax = false)
    {classifier : Classifier}
    (items : ∀ m : Model,
      ((m.retouched f g).planned (.standard o.renameExceptions) classifier
          o.runtimeCrate).items.map k.item =
        (m.planned (.standard o.renameExceptions) classifier o.runtimeCrate).items.map k.item)
    (check : SyntaxCheck) :
    EndAlike v w check o classifier fun g h =>
      withoutLines head g.source = withoutLines head h.source ∧
        g.combined = v.model.unions (.standard o.renameExceptions) classifier ∧
        h.combined = w.model.unions (.standard o.renameExceptions) classifier := by
  have space := congrArg Model.namespaceName same
  have resolved : v.model.resolve (.standard o.renameExceptions) o.runtimeCrate =
      w.model.resolve (.standard o.renameExceptions) o.runtimeCrate := by
    rw [← resolve_retouched keeps v.model, same, resolve_retouched keeps w.model]
  have pruned := items v.model
  rw [same, items w.model] at pruned
  refine end_alike_imp (outcomes_paired unasked resolved check classifier) ?_
  intro g h done also _
  obtain ⟨plan, planned, source, combined⟩ := generate_checked_ok done
  obtain ⟨plan', planned', source', combined'⟩ := generate_checked_ok also
  obtain ⟨-, -, rfl⟩ := (plan_ok_iff ..).mp planned
  obtain ⟨-, -, rfl⟩ := (plan_ok_iff ..).mp planned'
  refine ⟨?_, combined, combined'⟩
  rw [source, source']
  exact sources_alike deletes space digest pruned.symm

end ErrorUnion
