import ErrorUnion.Proofs.Generation.Plan

/- How generation ends. It fails for the path of the runtime, for a name, or because a parser
   refuses the text, and each of these is told by a diagnostic of its own code. -/
namespace ErrorUnion
open Text Name

def resolutionCodes : List Code :=
  [.reservedVariantName, .identifierCollision, .snakeNameCollision, .combinedNameCollision]

/-- A run of the generator that ends with a diagnostic. -/
def ValidModel.FailsWith (v : ValidModel) (check : SyntaxCheck) (o : Options)
    (classifier : Classifier) (d : Diagnostic) : Prop :=
  ∃ f, v.generateChecked check o classifier = .error f ∧ f.diagnosed = .ok d

/-- The text of a plan that a parser refuses. -/
def ValidModel.Refused (v : ValidModel) (check : SyntaxCheck) (o : Options)
    (classifier : Classifier) : Prop :=
  ∃ plan, v.plan o classifier = .ok plan ∧
    check v.model o.runtimeCrate (moduleSheet v plan.items).text = false

/-- A parser that takes every generated text, unless it writes a path to the runtime with a
segment that is no identifier. -/
def RefusesPathsOnly (check : SyntaxCheck) : Prop :=
  ∀ (v : ValidModel) (o : Options) (classifier : Classifier), v.Refused check o classifier →
    v.model.operations ≠ [] ∧ ∃ segment ∈ colonPieces o.runtimeCrate.toList,
      String.ofList segment = "_" ∨ String.ofList segment ∈ parserKeywords

theorem resolution_code (f : ResolutionFault) : f.diagnostic.code ∈ resolutionCodes := by
  cases f <;> simp [ResolutionFault.diagnostic, Diagnostic.of, Diagnostic.error,
    ResolutionFault.code, resolutionCodes]

theorem generate_checked_cases (v : ValidModel) (check : SyntaxCheck) (o : Options)
    (classifier : Classifier) :
    (¬ IsCratePath o.runtimeCrate ∧
        ∃ f, v.generateChecked check o classifier = .error (.option f)) ∨
      (IsCratePath o.runtimeCrate ∧
        ∃ f, v.model.resolve (.standard o.renameExceptions) o.runtimeCrate = .error f ∧
          v.generateChecked check o classifier = .error (.resolution f)) ∨
      (IsCratePath o.runtimeCrate ∧ o.verifySyntax = true ∧ v.Refused check o classifier ∧
        v.generateChecked check o classifier = .error .unparsable) ∨
      (IsCratePath o.runtimeCrate ∧ ∃ g, v.generateChecked check o classifier = .ok g) := by
  obtain ⟨path, f, failed⟩ | ⟨path, f, unresolved, failed⟩ | ⟨path, -, planned⟩ :=
    plan_cases v o classifier
  · refine Or.inl ⟨path, f, ?_⟩
    simp only [ValidModel.generateChecked, failed, bind, Except.bind]
  · refine Or.inr (Or.inl ⟨path, f, unresolved, ?_⟩)
    simp only [ValidModel.generateChecked, failed, bind, Except.bind]
  · refine Or.inr (Or.inr ?_)
    simp only [ValidModel.generateChecked, planned, bind, Except.bind]
    split
    · rename_i refused
      simp only [Bool.and_eq_true, Bool.not_eq_true'] at refused
      exact Or.inl ⟨path, refused.1, ⟨_, planned, refused.2⟩, rfl⟩
    · exact Or.inr ⟨path, _, rfl⟩

theorem failure_diagnosed {v : ValidModel} {check : SyntaxCheck} {o : Options}
    {classifier : Classifier} {f : GenerationFault}
    (failed : v.generateChecked check o classifier = .error f) :
    ∃ d, f.diagnosed = .ok d ∧ v.FailsWith check o classifier d := by
  obtain ⟨-, option, ended⟩ | ⟨-, name, -, ended⟩ | ⟨-, -, -, ended⟩ | ⟨-, g, ended⟩ :=
    generate_checked_cases v check o classifier
  all_goals
    rw [ended] at failed
    cases failed
  · exact ⟨option.diagnostic, rfl, _, ended, rfl⟩
  · exact ⟨name.diagnostic, rfl, _, ended, rfl⟩
  · exact ⟨_, rfl, _, ended, rfl⟩

theorem fails_with_cases {v : ValidModel} {check : SyntaxCheck} {o : Options}
    {classifier : Classifier} {d : Diagnostic} (fails : v.FailsWith check o classifier d) :
    (¬ IsCratePath o.runtimeCrate ∧ d.code = .invalidOption) ∨
      (∃ f, v.model.resolve (.standard o.renameExceptions) o.runtimeCrate = .error f ∧
        d = f.diagnostic) ∨
      (o.verifySyntax = true ∧ v.Refused check o classifier ∧ d.code = .internalBug) := by
  obtain ⟨f, failed, told⟩ := fails
  obtain ⟨path, option, ended⟩ | ⟨-, name, unresolved, ended⟩ | ⟨-, asked, refused, ended⟩ |
    ⟨-, g, ended⟩ := generate_checked_cases v check o classifier
  all_goals
    rw [ended] at failed
    cases failed
  · cases told
    exact Or.inl ⟨path, rfl⟩
  · cases told
    exact Or.inr (Or.inl ⟨name, unresolved, rfl⟩)
  · cases told
    exact Or.inr (Or.inr ⟨asked, refused, rfl⟩)

theorem fails_for_option_iff (v : ValidModel) (check : SyntaxCheck) (o : Options)
    (classifier : Classifier) :
    (∃ d, v.FailsWith check o classifier d ∧ d.code = .invalidOption) ↔
      ¬ IsCratePath o.runtimeCrate := by
  constructor
  · rintro ⟨d, fails, code⟩
    obtain ⟨path, -⟩ | ⟨f, -, rfl⟩ | ⟨-, -, bug⟩ := fails_with_cases fails
    · exact path
    · exact absurd (code ▸ resolution_code f) (by decide)
    · exact absurd (code.symm.trans bug) (by decide)
  · intro invalid
    obtain ⟨-, f, failed⟩ | ⟨path, -⟩ | ⟨path, -⟩ | ⟨path, -⟩ :=
      generate_checked_cases v check o classifier
    · exact ⟨f.diagnostic, ⟨_, failed, rfl⟩, rfl⟩
    all_goals exact absurd path invalid

theorem fails_for_name {v : ValidModel} {check : SyntaxCheck} {o : Options}
    {classifier : Classifier} {d : Diagnostic} (fails : v.FailsWith check o classifier d)
    (code : d.code ∈ resolutionCodes) :
    ∃ f, v.model.resolve (.standard o.renameExceptions) o.runtimeCrate = .error f ∧
      d = f.diagnostic := by
  obtain ⟨-, option⟩ | resolution | ⟨-, -, bug⟩ := fails_with_cases fails
  · exact absurd (option ▸ code) (by decide)
  · exact resolution
  · exact absurd (bug ▸ code) (by decide)

theorem fails_for_text {v : ValidModel} {check : SyntaxCheck} {o : Options}
    {classifier : Classifier} {d : Diagnostic} (fails : v.FailsWith check o classifier d)
    (code : d.code = .internalBug) : o.verifySyntax = true ∧ v.Refused check o classifier := by
  obtain ⟨-, option⟩ | ⟨f, -, rfl⟩ | ⟨asked, refused, -⟩ := fails_with_cases fails
  · exact absurd (code.symm.trans option) (by decide)
  · exact absurd (code ▸ resolution_code f) (by decide)
  · exact ⟨asked, refused⟩

theorem fails_with_known_code {v : ValidModel} {check : SyntaxCheck} {o : Options}
    {classifier : Classifier} {d : Diagnostic} (fails : v.FailsWith check o classifier d) :
    d.code = .invalidOption ∨ d.code ∈ resolutionCodes ∨ d.code = .internalBug := by
  obtain ⟨-, option⟩ | ⟨f, -, rfl⟩ | ⟨-, -, bug⟩ := fails_with_cases fails
  · exact Or.inl option
  · exact Or.inr (Or.inl (resolution_code f))
  · exact Or.inr (Or.inr bug)

theorem default_path_not_refused {v : ValidModel} {check : SyntaxCheck} {classifier : Classifier}
    (narrow : RefusesPathsOnly check) : ¬ v.Refused check .default classifier := by
  intro refused
  obtain ⟨-, segment, member, keyword⟩ := narrow v .default classifier refused
  have single : colonPieces Options.default.runtimeCrate.toList = ["errgen_runtime".toList] := by
    decide
  rw [single, List.mem_singleton] at member
  subst member
  exact absurd keyword (by decide)

theorem no_path_start (segment : String) (refused : isPathStart segment = false) :
    segment = "_" ∨ segment ∈ parserKeywords := by
  by_cases line : segment = "_"
  · exact Or.inl line
  · exact Or.inr (by simpa [isPathStart, line] using refused)

theorem unparsable_path_segment {path : String} (refused : isParsablePath path = false) :
    ∃ segment ∈ colonPieces path.toList,
      String.ofList segment = "_" ∨ String.ofList segment ∈ parserKeywords := by
  unfold isParsablePath at refused
  split at refused
  · cases refused
  · rename_i first rest pieces
    rw [pieces]
    rw [Bool.and_eq_false_iff, List.all_eq_false] at refused
    rcases refused with start | ⟨segment, later, inner⟩
    · exact ⟨first, List.mem_cons_self, no_path_start _ start⟩
    · simp only [isPathSegment, Bool.or_eq_true, not_or, Bool.not_eq_true] at inner
      exact ⟨segment, List.mem_cons_of_mem first later, no_path_start _ inner.2⟩

theorem by_path_refuses_paths_only : RefusesPathsOnly .byPath := by
  rintro v o classifier ⟨plan, -, refused⟩
  simp only [SyntaxCheck.byPath, parses, Bool.or_eq_false_iff, List.isEmpty_eq_false_iff]
    at refused
  exact ⟨refused.1, unparsable_path_segment refused.2⟩

theorem generate_source_cases (check : SyntaxCheck) (document : String) (o : Options) :
    (∃ f, generateSource check document o = .error (.load f)) ∨
      ∃ v, ValidModel.load document = .ok v ∧
        ((∃ f, v.generateChecked check o o.retryPolicy.classify = .error f ∧
            generateSource check document o = .error (.generation f)) ∨
          ∃ source, generateSource check document o = .ok source) := by
  unfold generateSource
  cases loaded : ValidModel.load document with
  | error f => exact Or.inl ⟨f, rfl⟩
  | ok v =>
    refine Or.inr ⟨v, rfl, ?_⟩
    simp only [Except.mapError, bind, Except.bind]
    cases generated : v.generateChecked check o o.retryPolicy.classify with
    | error f => exact Or.inl ⟨f, rfl, rfl⟩
    | ok g => exact Or.inr ⟨g.source, rfl⟩

/-- Whatever the document, the options and the parser, every failure has a diagnostic. A valid
model fails for its options, its names or the parser only, and with a parser that refuses nothing
but paths never for the parser under the default options. -/
theorem generation_ends_diagnosed (check : SyntaxCheck) (o : Options) :
    (∀ document, (∃ source, generateSource check document o = .ok source) ∨
      ∃ f d, generateSource check document o = .error f ∧ f.diagnosed = .ok d) ∧
    ∀ (v : ValidModel) (classifier : Classifier),
      (∀ names, v.model.resolve (.standard o.renameExceptions) o.runtimeCrate = .ok names →
        ∃ sets, v.model.errorSets names = .ok sets ∧ ∀ set ∈ sets, emptyIdent? set = none) ∧
      (∀ f, v.generateChecked check o classifier = .error f → ∃ d, f.diagnosed = .ok d ∧
        (d.code = .invalidOption ∨ d.code ∈ resolutionCodes ∨ d.code = .internalBug)) ∧
      ((∃ d, v.FailsWith check o classifier d ∧ d.code = .invalidOption) ↔
        ¬ IsCratePath o.runtimeCrate) ∧
      (∀ d, v.FailsWith check o classifier d → d.code ∈ resolutionCodes →
        ∃ f, v.model.resolve (.standard o.renameExceptions) o.runtimeCrate = .error f ∧
          d = f.diagnostic) ∧
      (∀ d, v.FailsWith check o classifier d → d.code = .internalBug →
        o.verifySyntax = true ∧ v.Refused check o classifier) ∧
      (∀ d, v.FailsWith check o classifier d → d.code ≠ .missingFaultSide) ∧
      (RefusesPathsOnly check →
        ∀ d, v.FailsWith check .default classifier d → d.code ≠ .internalBug) := by
  refine ⟨?documents, fun v classifier => ⟨?idents, ?codes,
    fails_for_option_iff v check o classifier, fun d fails => fails_for_name fails,
    fun d fails => fails_for_text fails, ?side, ?default⟩⟩
  case documents =>
    intro document
    obtain ⟨f, failed⟩ | ⟨v, -, ⟨f, generated, failed⟩ | done⟩ :=
      generate_source_cases check document o
    · exact Or.inr ⟨_, f.diagnostic, failed, rfl⟩
    · obtain ⟨d, told, -⟩ := failure_diagnosed generated
      exact Or.inr ⟨_, d, failed, told⟩
    · exact Or.inl done
  case idents =>
    intro names resolved
    obtain ⟨-, rfl⟩ := (resolve_ok_iff ..).mp resolved
    refine ⟨_, error_sets_ok v.sound _, ?_⟩
    intro set member
    obtain ⟨p, declared, rfl⟩ := List.mem_map.mp member
    exact no_empty_ident v.sound o.renameExceptions declared
  case codes =>
    intro f failed
    obtain ⟨d, told, fails⟩ := failure_diagnosed failed
    exact ⟨d, told, fails_with_known_code fails⟩
  case side =>
    intro d fails side
    obtain option | name | bug := fails_with_known_code fails
    · exact absurd (side.symm.trans option) (by decide)
    · exact absurd (side ▸ name) (by decide)
    · exact absurd (side.symm.trans bug) (by decide)
  case default =>
    intro narrow d fails code
    exact default_path_not_refused narrow (fails_for_text fails code).2

theorem store_failure_not_internal :
    RefusesPathsOnly .byPath ∧ ∀ d,
      storeModel.FailsWith .byPath .default RetryPolicy.faultSide.classify d →
        d.code ≠ .internalBug := by
  have ends := (generation_ends_diagnosed .byPath .default).2
  obtain ⟨-, -, -, -, -, -, default⟩ := ends storeModel RetryPolicy.faultSide.classify
  exact ⟨by_path_refuses_paths_only, default by_path_refuses_paths_only⟩

end ErrorUnion
