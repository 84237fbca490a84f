import Mathlib.Data.List.Forall2
import ErrorUnion.Proofs.Loop
import ErrorUnion.Proofs.Model.Rules
import ErrorUnion.Sample.Services
import ErrorUnion.Union.Shape

/- Where the errors of an operation come from. Everything is looked up by its name, in a model and
   in names that may belong to another one, so each lookup can fail. The sets are complete if none
   does, and otherwise the first one that fails is reported, in the order of the document. -/
namespace ErrorUnion
open Text Name

/-- A structure has a name, and none before it has. -/
def Model.FirstNamed (m : Model) (wire : String) (s : Structure) : Prop :=
  ∃ before after, m.structures = before ++ s :: after ∧ s.name = wire ∧
    ∀ t ∈ before, t.name ≠ wire

inductive Lookup where
  | operation (wire : String)
  | error (wire : String)

/-- An operation is looked up before the errors that it lists. -/
def Operation.lookups (o : Operation) : List Lookup := .operation o.name :: o.errors.map .error

def Model.lookups (m : Model) : List Lookup := m.operations.flatMap Operation.lookups

def unresolvedDiagnostic (wire : String) : Diagnostic :=
  .of .internalBug (quote wire ++ " was not resolved before normalization")

def sidelessDiagnostic (wire : String) : Diagnostic :=
  .of .missingFaultSide (quote wire ++ " has no fault side")

inductive LookupFails (m : Model) (names : Names) : Lookup → Diagnostic → Prop where
  | operation {wire : String} (unresolved : names.operation? wire = none) :
      LookupFails m names (.operation wire) (unresolvedDiagnostic wire)
  | undeclared {wire : String} (absent : ∀ s ∈ m.structures, s.name ≠ wire) :
      LookupFails m names (.error wire) (unresolvedDiagnostic wire)
  | unresolved {wire : String} (unresolved : names.structure? wire = none) :
      LookupFails m names (.error wire) (unresolvedDiagnostic wire)
  | sideless {wire : String} {s : Structure} {name : ShapeName}
      (declared : m.FirstNamed wire s) (resolved : names.structure? wire = some name)
      (side : s.fault = none) :
      LookupFails m names (.error wire) (sidelessDiagnostic wire)

structure ErrorShape.TellsOf (e : ErrorShape) (s : Structure) (name : ShapeName) : Prop where
  named : e.name = name
  fault : s.fault = some e.fault
  retryable : e.retryable = s.retryable.isSome
  throttling : e.throttling = true ↔ s.retryable = some ⟨true⟩
  deprecation : e.deprecation = s.deprecated
  message : e.hasMessage = true ↔ ∃ a ∈ s.members, a.name = "message" ∨ a.name = "Message"
  record : e.record = ⟨name.ident, escapeIdent (snakeCase name.ident)⟩

/-- The errors of a set are those that its operation lists, each as often as it is listed. -/
structure ErrorSet.Collects (m : Model) (names : Names) (o : Operation) (set : ErrorSet) :
    Prop where
  operation : names.operation? o.name = some set.operation
  documentation : set.documentation = o.documentation
  errors : List.Forall₂ (fun wire (e : ErrorShape) => ∃ s name, m.FirstNamed wire s ∧
    names.structure? wire = some name ∧ e.TellsOf s name) o.errors set.errors

theorem first_named_iff (m : Model) (wire : String) (s : Structure) :
    m.structure? wire = some s ↔ m.FirstNamed wire s := by
  simp only [Model.structure?, List.find?_eq_some_iff_append, Model.FirstNamed,
    decide_eq_true_eq, Bool.not_eq_true', decide_eq_false_iff_not]
  constructor
  · rintro ⟨named, before, after, split, others⟩
    exact ⟨before, after, split, named, others⟩
  · rintro ⟨before, after, split, named, others⟩
    exact ⟨named, before, after, split, others⟩

theorem undeclared_iff (m : Model) (wire : String) :
    m.structure? wire = none ↔ ∀ s ∈ m.structures, s.name ≠ wire := by
  simp only [Model.structure?, List.find?_eq_none, decide_eq_true_eq, ne_eq]

theorem tells_of_iff (e : ErrorShape) (s : Structure) (name : ShapeName) :
    e.TellsOf s name ↔ ∃ fault, s.fault = some fault ∧ e = s.shape name fault := by
  have message : s.messageMember?.isSome = true ↔
      ∃ a ∈ s.members, a.name = "message" ∨ a.name = "Message" := by
    simp [Structure.messageMember?]
  have throttling : (s.retryable.map Retryable.throttling).getD false = true ↔
      s.retryable = some ⟨true⟩ := by
    cases s.retryable with
    | none => simp
    | some r =>
      obtain ⟨throttled⟩ := r
      cases throttled <;> simp
  constructor
  · intro tells
    have throttled : e.throttling = (s.retryable.map Retryable.throttling).getD false := by
      rw [Bool.eq_iff_iff, tells.throttling, throttling]
    have carries : e.hasMessage = s.messageMember?.isSome := by
      rw [Bool.eq_iff_iff, tells.message, message]
    refine ⟨e.fault, tells.fault, ?_⟩
    change e = ⟨name, e.fault, s.retryable.isSome, _, s.deprecated, s.messageMember?.isSome,
      ⟨name.ident, escapeIdent (snakeCase name.ident)⟩⟩
    rw [← tells.record, ← tells.named, ← tells.retryable, ← throttled, ← tells.deprecation,
      ← carries]
  · rintro ⟨fault, side, rfl⟩
    exact ⟨rfl, side, rfl, throttling, rfl, message, rfl⟩

section Sets
variable (m : Model) (names : Names)

theorem error_shape_ok_iff (wire : String) (e : ErrorShape) :
    errorShape m names wire = .ok e ↔
      ∃ s name, m.FirstNamed wire s ∧ names.structure? wire = some name ∧ e.TellsOf s name := by
  simp only [← first_named_iff, tells_of_iff]
  unfold errorShape
  cases m.structure? wire with
  | none => simp
  | some s =>
    cases names.structure? wire with
    | none => simp
    | some name =>
      cases side : s.fault with
      | none => simp [side]
      | some fault => simp [side, eq_comm]

def lookupFault? : Lookup → Option ShapeFault
  | .operation wire =>
    match names.operation? wire with
    | none => some (.unresolved wire)
    | some _ => none
  | .error wire =>
    match errorShape m names wire with
    | .error f => some f
    | .ok _ => none

theorem operation_fails_iff (wire : String) (d : Diagnostic) :
    LookupFails m names (.operation wire) d ↔
      names.operation? wire = none ∧ unresolvedDiagnostic wire = d := by
  constructor
  · intro fails
    cases fails with
    | operation unresolved => exact ⟨unresolved, rfl⟩
  · rintro ⟨unresolved, rfl⟩
    exact .operation unresolved

theorem error_fails_iff (wire : String) (d : Diagnostic) :
    LookupFails m names (.error wire) d ↔
      (m.structure? wire = none ∨ names.structure? wire = none) ∧
          unresolvedDiagnostic wire = d ∨
        (∃ s name, m.structure? wire = some s ∧ names.structure? wire = some name ∧
          s.fault = none) ∧ sidelessDiagnostic wire = d := by
  constructor
  · intro fails
    cases fails with
    | undeclared absent => exact Or.inl ⟨Or.inl ((undeclared_iff m wire).mpr absent), rfl⟩
    | unresolved unresolved => exact Or.inl ⟨Or.inr unresolved, rfl⟩
    | sideless declared resolved side =>
      exact Or.inr ⟨⟨_, _, (first_named_iff m wire _).mpr declared, resolved, side⟩, rfl⟩
  · rintro (⟨absent | unresolved, rfl⟩ | ⟨⟨s, name, declared, resolved, side⟩, rfl⟩)
    · exact .undeclared ((undeclared_iff m wire).mp absent)
    · exact .unresolved unresolved
    · exact .sideless ((first_named_iff m wire s).mp declared) resolved side

theorem lookup_fails_iff (x : Lookup) (d : Diagnostic) :
    (∃ f, lookupFault? m names x = some f ∧ f.diagnostic = d) ↔ LookupFails m names x d := by
  cases x with
  | operation wire =>
    rw [operation_fails_iff, lookupFault?]
    cases names.operation? wire with
    | none => simp [ShapeFault.diagnostic, unresolvedDiagnostic]
    | some name => simp
  | error wire =>
    rw [error_fails_iff, lookupFault?, errorShape]
    cases m.structure? wire with
    | none => simp [ShapeFault.diagnostic, unresolvedDiagnostic]
    | some s =>
      cases names.structure? wire with
      | none => simp [ShapeFault.diagnostic, unresolvedDiagnostic]
      | some name =>
        cases side : s.fault with
        | none => simp [side, ShapeFault.diagnostic, sidelessDiagnostic]
        | some fault => simp [side]

theorem lookup_passes_iff (x : Lookup) :
    lookupFault? m names x = none ↔ ∀ d, ¬ LookupFails m names x d := by
  simp only [← lookup_fails_iff, not_exists, not_and]
  cases lookupFault? m names x with
  | none => simp
  | some f => simp

theorem operation_found_iff (wire : String) :
    lookupFault? m names (.operation wire) = none ↔ ∃ name, names.operation? wire = some name := by
  rw [lookupFault?]
  cases names.operation? wire <;> simp

theorem error_found_iff (wire : String) :
    lookupFault? m names (.error wire) = none ↔
      (∃ s ∈ m.structures, s.name = wire) ∧ (∃ name, names.structure? wire = some name) ∧
        ∀ s, m.FirstNamed wire s → s.fault.isSome = true := by
  simp only [← first_named_iff, lookupFault?, errorShape]
  cases declared : m.structure? wire with
  | none =>
    have absent := (undeclared_iff m wire).mp declared
    simpa using fun s member named => absurd named (absent s member)
  | some s =>
    obtain ⟨member, named⟩ := found_structure declared
    have present : ∃ s ∈ m.structures, s.name = wire := ⟨s, member, named⟩
    cases names.structure? wire with
    | none => simp
    | some name => cases side : s.fault <;> simp [side, present]

theorem error_set_ok_iff (o : Operation) (set : ErrorSet) :
    errorSet m names o = .ok set ↔ set.Collects m names o := by
  unfold errorSet
  constructor
  · intro done
    split at done
    · cases done
    · rename_i name resolved
      obtain ⟨errors, taken, rest⟩ := (bind_ok_iff ..).mp done
      cases rest
      refine ⟨resolved, rfl, ?_⟩
      exact (map_m_ok_iff.mp taken).imp fun wire e => (error_shape_ok_iff m names wire e).mp
  · intro collects
    obtain ⟨name, documentation, errors⟩ := set
    obtain ⟨resolved, rfl, listed⟩ := collects
    have taken : o.errors.mapM (errorShape m names) = .ok errors :=
      map_m_ok_iff.mpr (listed.imp fun wire e => (error_shape_ok_iff m names wire e).mpr)
    simp only at resolved
    rw [resolved]
    simp only [taken]
    rfl

theorem error_sets_ok_iff (sets : List ErrorSet) :
    m.errorSets names = .ok sets ↔
      List.Forall₂ (fun o set => ErrorSet.Collects m names o set) m.operations sets := by
  simp only [Model.errorSets, map_m_ok_iff, error_set_ok_iff]

theorem error_shape_error_iff (wire : String) (f : ShapeFault) :
    errorShape m names wire = .error f ↔ lookupFault? m names (.error wire) = some f := by
  rw [lookupFault?]
  cases errorShape m names wire <;> simp

theorem error_set_error_iff (o : Operation) (f : ShapeFault) :
    errorSet m names o = .error f ↔ o.lookups.findSome? (lookupFault? m names) = some f := by
  have errors : o.errors.mapM (errorShape m names) = .error f ↔ _ :=
    map_m_error_iff (fun wire _ => error_shape_error_iff m names wire) f
  rw [errorSet, Operation.lookups, List.findSome?_cons, List.findSome?_map, lookupFault?]
  cases names.operation? o.name with
  | none => simp
  | some name =>
    refine Iff.trans ?_ errors
    cases o.errors.mapM (errorShape m names) <;> simp [bind, Except.bind]

theorem find_some_flat_map (f : β → Option γ) (g : α → List β) (xs : List α) :
    (xs.flatMap g).findSome? f = xs.findSome? fun x => (g x).findSome? f := by
  induction xs with
  | nil => rfl
  | cons x r ih =>
    rw [List.flatMap_cons, List.findSome?_append, ih, List.findSome?_cons]
    cases (g x).findSome? f <;> rfl

theorem error_sets_error_iff (f : ShapeFault) :
    m.errorSets names = .error f ↔ m.lookups.findSome? (lookupFault? m names) = some f := by
  rw [Model.lookups, find_some_flat_map]
  exact map_m_error_iff (fun o _ => error_set_error_iff m names o) f

end Sets

/-- The first lookup of a document that fails, and its diagnostic. -/
def FirstFailure (m : Model) (names : Names) (d : Diagnostic) : Prop :=
  ∃ before x after, m.lookups = before ++ x :: after ∧
    (∀ y ∈ before, ∀ e, ¬ LookupFails m names y e) ∧ LookupFails m names x d

theorem first_failure_iff (m : Model) (names : Names) (d : Diagnostic) :
    (∃ f, m.errorSets names = .error f ∧ f.diagnostic = d) ↔ FirstFailure m names d := by
  simp only [error_sets_error_iff, List.findSome?_eq_some_iff, lookup_passes_iff, FirstFailure,
    ← lookup_fails_iff m names _ d]
  constructor
  · rintro ⟨f, ⟨before, x, after, split, found, clean⟩, report⟩
    exact ⟨before, x, after, split, clean, f, found, report⟩
  · rintro ⟨before, x, after, split, clean, f, found, report⟩
    exact ⟨f, ⟨before, x, after, split, found, clean⟩, report⟩

/-- Whatever names are looked up for a model, its error sets are complete exactly if every operation
has a name, and every error that it lists has one and is declared, with a side. They tell of the
first structures so named. Otherwise the first lookup that fails is reported. -/
theorem error_sets_follow_lookups (m : Model) (names : Names) :
    ((∃ sets, m.errorSets names = .ok sets) ↔
        ∀ o ∈ m.operations, (∃ name, names.operation? o.name = some name) ∧
          ∀ wire ∈ o.errors, (∃ s ∈ m.structures, s.name = wire) ∧
            (∃ name, names.structure? wire = some name) ∧
            ∀ s, m.FirstNamed wire s → s.fault.isSome = true) ∧
      (∀ sets, m.errorSets names = .ok sets ↔
        List.Forall₂ (fun o set => ErrorSet.Collects m names o set) m.operations sets) ∧
      ∀ d, (∃ f, m.errorSets names = .error f ∧ f.diagnostic = d) ↔ FirstFailure m names d := by
  refine ⟨?_, error_sets_ok_iff m names, first_failure_iff m names⟩
  have complete : (∃ sets, m.errorSets names = .ok sets) ↔
      ∀ x ∈ m.lookups, lookupFault? m names x = none := by
    rw [← List.findSome?_eq_none_iff]
    cases outcome : m.errorSets names with
    | error f =>
      rw [(error_sets_error_iff m names f).mp outcome]
      simp
    | ok sets =>
      cases found : m.lookups.findSome? (lookupFault? m names) with
      | none => simp
      | some f =>
        rw [(error_sets_error_iff m names f).mpr found] at outcome
        cases outcome
  simp only [complete, Model.lookups, List.forall_mem_flatMap, Operation.lookups,
    List.forall_mem_cons, List.forall_mem_map, operation_found_iff, error_found_iff]

def sendLetter : Operation := ⟨"SendLetter", ["Late", "Late"], none⟩

def stopLetter : Operation := ⟨"StopLetter", ["Late", "Plain", "Gone"], none⟩

def letterModel : Model where
  schemaVersion := Model.currentVersion
  namespaceName := "letters"
  operations := [sendLetter, stopLetter]
  structures :=
    [Sample.shape "Late" (some .server) [], Sample.shape "Late" none [],
     Sample.shape "Plain" none []]

def parcelNames : Names :=
  ⟨[⟨"Late", "Later"⟩, ⟨"Plain", "Plain"⟩],
    [⟨"StopLetter", "StopLetter"⟩, ⟨"SendLetter", "SendParcel"⟩]⟩

def sentModel : Model := { letterModel with operations := [sendLetter] }

/-- The plain record is reported, and not the error behind it that is not declared at all. An error
that is listed twice is in the set twice. -/
theorem plain_letter_reported :
    FirstFailure letterModel parcelNames (sidelessDiagnostic "Plain") ∧
      ∃ set, ErrorSet.Collects sentModel parcelNames sendLetter set ∧ set.errors.length = 2 := by
  obtain ⟨-, -, reported⟩ := error_sets_follow_lookups letterModel parcelNames
  refine ⟨(reported _).mp ⟨.missingFaultSide "Plain", by decide +kernel, rfl⟩, ?_⟩
  obtain ⟨complete, collected, -⟩ := error_sets_follow_lookups sentModel parcelNames
  have sent : ∃ sets, sentModel.errorSets parcelNames = .ok sets := by
    rw [complete]
    intro o declared
    obtain rfl : o = sendLetter := List.mem_singleton.mp declared
    refine ⟨⟨_, rfl⟩, fun wire listed => ?_⟩
    obtain rfl : wire = "Late" := by simpa [sendLetter] using listed
    refine ⟨⟨Sample.shape "Late" (some .server) [], List.mem_cons_self, rfl⟩, ⟨_, rfl⟩, ?_⟩
    intro s first
    cases (first_named_iff _ _ _).mpr first
    rfl
  obtain ⟨sets, done⟩ := sent
  obtain ⟨set, rest, collects, -⟩ := List.forall₂_cons_left_iff.mp ((collected sets).mp done)
  exact ⟨set, collects, collects.errors.length_eq.symm⟩

end ErrorUnion
