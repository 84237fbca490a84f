import ErrorUnion.Options
import ErrorUnion.Proofs.Json.Reader
import ErrorUnion.Proofs.Model.Rules
import ErrorUnion.Sample.Services

/- Models, diagnostics and overrides as JSON documents. Each of them comes back from the value of
   the schema that it is written as, so it comes back from its document. -/
namespace ErrorUnion
open Json Digest

theorem list_val {toVal : α → β} {ofVal : β → α} (back : ∀ x, ofVal (toVal x) = x) (xs : List α) :
    (xs.map toVal).map ofVal = xs := by
  simp [Function.comp_def, back]

theorem option_val {toVal : α → β} {ofVal : β → α} (back : ∀ x, ofVal (toVal x) = x)
    (x : Option α) : (x.map toVal).map ofVal = x := by
  simp [Function.comp_def, back]

theorem fault_side_val (f : FaultSide) : FaultSide.ofVal f.toVal = f := by cases f <;> rfl

theorem target_val (t : Target) : Target.ofVal t.toVal = t := by cases t <;> rfl

theorem retryable_val (r : Retryable) : Retryable.ofVal r.toVal = r := rfl

theorem deprecation_val (d : Deprecation) : Deprecation.ofVal d.toVal = d := rfl

theorem member_val (m : Member) : Member.ofVal m.toVal = m := by
  simp only [Member.toVal, Member.ofVal, target_val]

theorem structure_val (s : Structure) : Structure.ofVal s.toVal = s := by
  simp only [Structure.toVal, Structure.ofVal, option_val fault_side_val, option_val retryable_val,
    option_val deprecation_val, list_val member_val]

theorem operation_val (o : Operation) : Operation.ofVal o.toVal = o := rfl

theorem model_val (m : Model) : Model.ofVal m.toVal = m := by
  simp only [Model.toVal, Model.ofVal, list_val operation_val, list_val structure_val]

theorem code_val (c : Code) : Code.ofVal c.toVal = c := by cases c <;> rfl

theorem phase_val (p : Phase) : Phase.ofVal p.toVal = p := by cases p <;> rfl

theorem severity_val (s : Severity) : Severity.ofVal s.toVal = s := by cases s <;> rfl

theorem diagnostic_val (d : Diagnostic) : Diagnostic.ofVal d.toVal = d := by
  simp only [Diagnostic.toVal, Diagnostic.ofVal, code_val, phase_val, severity_val]

theorem retry_policy_val (p : RetryPolicy) : RetryPolicy.ofVal p.toVal = p := by cases p <;> rfl

theorem override_val (o : Override) : Override.ofVal o.toVal = o := by
  simp only [Override.toVal, Override.ofVal, option_val retry_policy_val]

theorem model_parses (m : Model) (layout : Layout) :
    Model.parse (m.toTree.written layout) = .ok m := by
  have clear : Model.schema.isUnambiguous = true := by decide +kernel
  rw [Model.parse, Model.toTree, written_parses clear, Except.map, model_val]

theorem diagnostic_parses (d : Diagnostic) (layout : Layout) :
    Diagnostic.parse (d.toTree.written layout) = .ok d := by
  have clear : Diagnostic.schema.isUnambiguous = true := by decide +kernel
  rw [Diagnostic.parse, Diagnostic.toTree, written_parses clear, Except.map, diagnostic_val]

theorem override_parses (o : Override) (layout : Layout) :
    Override.parse (o.toTree.written layout) = .ok o := by
  have clear : Override.schema.isUnambiguous = true := by decide +kernel
  rw [Override.parse, Override.toTree, written_parses clear, Except.map, override_val]

theorem validate_any_digest {m : Model} {given : Option String} {w : ValidModel}
    (accepted : m.validate given = .ok w) (digest : Option String) :
    ∃ v, m.validate digest = .ok v ∧ v.model = m := by
  have sound := w.valid
  rw [(validated accepted).1] at sound
  exact ⟨_, validate_valid ⟨m, digest, sound⟩, rfl⟩

theorem document_loads {m : Model} {digest : Option String} {w : ValidModel}
    (accepted : m.validate digest = .ok w) (layout : Layout) :
    ∃ v, ValidModel.load (m.toTree.written layout) = .ok v ∧ v.model = m := by
  obtain ⟨v, valid, same⟩ := validate_any_digest accepted
    (some (sha256Hex (m.toTree.written layout).toUTF8.toList))
  refine ⟨v, ?_, same⟩
  simp only [ValidModel.load, model_parses, valid]

/-- What is written for a model, for a diagnostic or for overrides is read as what it was written
for, whatever texts and optional parts that has; and the document of an accepted model is loaded as
that model. -/
theorem documents_read_back (layout : Layout) :
    (∀ m : Model, Model.parse (m.toTree.written layout) = .ok m ∧
      ∀ digest w, m.validate digest = .ok w →
        ∃ v, ValidModel.load (m.toTree.written layout) = .ok v ∧ v.model = m) ∧
    (∀ d : Diagnostic, Diagnostic.parse (d.toTree.written layout) = .ok d) ∧
    ∀ o : Override, Override.parse (o.toTree.written layout) = .ok o :=
  ⟨fun m => ⟨model_parses m layout, fun _ _ accepted => document_loads accepted layout⟩,
    fun d => diagnostic_parses d layout, fun o => override_parses o layout⟩

theorem edge_document_loads :
    Sample.edgeModel.validate none = .ok Sample.edge.model ∧
      ∃ v, ValidModel.load Sample.edgeModel.document = .ok v ∧ v.model = Sample.edgeModel := by
  have accepted : Sample.edgeModel.validate none = .ok Sample.edge.model :=
    validate_valid Sample.edge.model
  exact ⟨accepted, ((documents_read_back .line).1 Sample.edgeModel).2 none _ accepted⟩

end ErrorUnion
