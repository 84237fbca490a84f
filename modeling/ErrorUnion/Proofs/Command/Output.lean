import ErrorUnion.Command.Run
import ErrorUnion.Proofs.Generation.Outcome

/- What becomes of one model: there is a source for it or a reason why not, and with a source its
   output is written or compared. A failure is told by a diagnostic, unless a file is the reason. -/
namespace ErrorUnion

def FileTree.sourceOf (t : FileTree) (parser : SyntaxCheck) (model : String) (o : Options) :
    Except Cause String :=
  match t.readText model with
  | .error c => .error c
  | .ok document => (generateSource parser document o).mapError SourceFault.cause

def putOutput (t : FileTree) (out source : String) (check : Bool) : Turn Verdict :=
  if check then checkOutput t out source else writeOutput t out source

/-- An output that is missing, or is not the source byte for byte. -/
def FileTree.OutputDiffers (t : FileTree) (out source : String) : Prop :=
  t.read out = .error .notFound ∨ ∃ bytes, t.read out = .ok bytes ∧ bytes ≠ source.toUTF8

/-- The reasons that lie in files, not in a model or in options. -/
def Cause.OfFiles (c : Cause) : Prop := (∃ f, c = .file f) ∨ c = .notText

/-- The reasons that are told by a diagnostic, which is an error. -/
def Cause.Told (c : Cause) : Prop := ∃ d, c = .diagnostic d ∧ d.severity = .error

theorem from_utf8_some_iff (bytes : ByteArray) (s : String) :
    String.fromUTF8? bytes = some s ↔ bytes = s.toUTF8 := by
  unfold String.fromUTF8?
  constructor
  · intro read
    split at read
    · cases read
      rfl
    · cases read
  · rintro rfl
    exact dif_pos s.isValidUTF8

theorem read_text_ok_iff (t : FileTree) (p text : String) :
    t.readText p = .ok text ↔ t.read p = .ok text.toUTF8 := by
  unfold FileTree.readText
  cases t.read p with
  | error f => simp
  | ok bytes =>
    rw [Except.ok.injEq, ← from_utf8_some_iff]
    cases text : String.fromUTF8? bytes <;> simp [text]

theorem read_text_missing_iff (t : FileTree) (p : String) :
    t.readText p = .error (.file .notFound) ↔ t.read p = .error .notFound := by
  unfold FileTree.readText
  cases t.read p with
  | error f => simp
  | ok bytes => cases text : String.fromUTF8? bytes <;> simp [text]

theorem read_text_failure {t : FileTree} {p : String} {c : Cause}
    (failed : t.readText p = .error c) : c.OfFiles := by
  unfold FileTree.readText at failed
  cases read : t.read p with
  | error f =>
    rw [read] at failed
    cases failed
    exact Or.inl ⟨f, rfl⟩
  | ok bytes =>
    rw [read] at failed
    cases text : String.fromUTF8? bytes with
    | none => simp only [text] at failed; cases failed; exact Or.inr rfl
    | some s => simp only [text] at failed; cases failed

theorem load_fault_severity (f : LoadFault) : f.diagnostic.severity = .error := by cases f <;> rfl

theorem generation_fault_severity {f : GenerationFault} {d : Diagnostic}
    (told : f.diagnosed = .ok d) : d.severity = .error := by
  cases f <;> cases told <;> first | rfl | (rename_i s; cases s <;> rfl)

theorem source_fault_told {parser : SyntaxCheck} {document : String} {o : Options} {f : SourceFault}
    (failed : generateSource parser document o = .error f) : f.cause.Told := by
  unfold SourceFault.cause
  obtain ⟨load, ended⟩ | ⟨v, -, ⟨g, generated, ended⟩ | ⟨source, ended⟩⟩ :=
    generate_source_cases parser document o
  all_goals
    rw [ended] at failed
    cases failed
  · exact ⟨load.diagnostic, rfl, load_fault_severity load⟩
  · obtain ⟨d, told, -⟩ := failure_diagnosed generated
    refine ⟨d, ?_, generation_fault_severity told⟩
    simp only [SourceFault.diagnosed, told]

theorem source_failure {parser : SyntaxCheck} {t : FileTree} {model : String} {o : Options}
    {c : Cause} (failed : t.sourceOf parser model o = .error c) : c.OfFiles ∨ c.Told := by
  unfold FileTree.sourceOf at failed
  cases text : t.readText model with
  | error file =>
    rw [text] at failed
    cases failed
    exact Or.inl (read_text_failure text)
  | ok document =>
    simp only [text] at failed
    cases generated : generateSource parser document o with
    | error f =>
      rw [generated] at failed
      cases failed
      exact Or.inr (source_fault_told generated)
    | ok source => rw [generated] at failed; cases failed

theorem check_output_files (t : FileTree) (out source : String) :
    (checkOutput t out source).files = t := by
  unfold checkOutput
  split
  · rfl
  · rfl
  · split <;> rfl

theorem check_output_clean_iff (t : FileTree) (out source : String) :
    (checkOutput t out source).result = .ok .clean ↔ t.read out = .ok source.toUTF8 := by
  rw [← read_text_ok_iff, checkOutput]
  split
  · simp_all
  · simp_all
  · rename_i current read
    by_cases same : current = source <;> simp [read, same]

theorem check_output_drift_iff (t : FileTree) (out source : String) :
    (checkOutput t out source).result = .ok .drift ↔
      t.readText out = .error (.file .notFound) ∨
        ∃ current, t.readText out = .ok current ∧ current ≠ source := by
  unfold checkOutput
  split
  · simp_all
  · simp_all
  · rename_i current read
    by_cases same : current = source <;> simp [read, same]

theorem check_output_failure {t : FileTree} {out source : String} {f : Failure}
    (failed : (checkOutput t out source).result = .error f) : f.cause.OfFiles := by
  unfold checkOutput at failed
  split at failed
  · cases failed
  · rename_i c read
    cases failed
    exact read_text_failure read
  · split at failed <;> cases failed

theorem output_differs_of_drift {t : FileTree} {out source : String}
    (drift : (checkOutput t out source).result = .ok .drift) : t.OutputDiffers out source := by
  rcases (check_output_drift_iff t out source).mp drift with missing | ⟨current, read, other⟩
  · exact Or.inl ((read_text_missing_iff t out).mp missing)
  · refine Or.inr ⟨_, (read_text_ok_iff t out current).mp read, ?_⟩
    exact fun same => other (String.toByteArray_inj.mp same)

theorem clean_output_same {t : FileTree} {out source : String}
    (clean : (checkOutput t out source).result = .ok .clean) : ¬ t.OutputDiffers out source := by
  rw [check_output_clean_iff] at clean
  rintro (missing | ⟨bytes, read, other⟩)
  · rw [clean] at missing
    cases missing
  · rw [clean] at read
    cases read
    exact other rfl

def FileTree.makeParents (t : FileTree) (out : String) : FileTree × Option FileFault :=
  match Path.parent? out with
  | some folder => t.makeFolders folder
  | none => (t, none)

theorem write_output_cases (t : FileTree) (out source : String) :
    (∃ f contexts, (t.makeParents out).2 = some f ∧
      writeOutput t out source = ⟨(t.makeParents out).1, [], .error ⟨contexts, .file f⟩⟩) ∨
    (t.makeParents out).2 = none ∧
      ((∃ f contexts, (t.makeParents out).1.write out source.toUTF8 = .error f ∧
        writeOutput t out source = ⟨(t.makeParents out).1, [], .error ⟨contexts, .file f⟩⟩) ∨
      ∃ u notices, (t.makeParents out).1.write out source.toUTF8 = .ok u ∧
        writeOutput t out source = ⟨u, notices, .ok .clean⟩) := by
  unfold writeOutput FileTree.makeParents
  cases Path.parent? out with
  | none =>
    refine Or.inr ⟨rfl, ?_⟩
    simp only
    cases t.write out source.toUTF8 with
    | error f => exact Or.inl ⟨f, _, rfl, rfl⟩
    | ok u => exact Or.inr ⟨u, _, rfl, rfl⟩
  | some folder =>
    simp only
    cases (t.makeFolders folder).2 with
    | some f => exact Or.inl ⟨f, _, rfl, rfl⟩
    | none =>
      refine Or.inr ⟨rfl, ?_⟩
      cases (t.makeFolders folder).1.write out source.toUTF8 with
      | error f => exact Or.inl ⟨f, _, rfl, rfl⟩
      | ok u => exact Or.inr ⟨u, _, rfl, rfl⟩

theorem write_output_not_drift (t : FileTree) (out source : String) :
    (writeOutput t out source).result ≠ .ok .drift := by
  obtain ⟨f, contexts, -, ended⟩ | ⟨-, ⟨f, contexts, -, ended⟩ | ⟨u, notices, -, ended⟩⟩ :=
    write_output_cases t out source
  all_goals
    rw [ended]
    simp

theorem write_output_failure {t : FileTree} {out source : String} {f : Failure}
    (failed : (writeOutput t out source).result = .error f) : f.cause.OfFiles := by
  obtain ⟨f, contexts, -, ended⟩ | ⟨-, ⟨f, contexts, -, ended⟩ | ⟨u, notices, -, ended⟩⟩ :=
    write_output_cases t out source
  all_goals
    rw [ended] at failed
    cases failed
  · exact Or.inl ⟨f, rfl⟩
  · exact Or.inl ⟨f, rfl⟩

theorem put_output_failure {t : FileTree} {out source : String} {check : Bool} {f : Failure}
    (failed : (putOutput t out source check).result = .error f) : f.cause.OfFiles := by
  cases check with
  | true => exact check_output_failure failed
  | false => exact write_output_failure failed

theorem run_without_source {parser : SyntaxCheck} {t : FileTree} {model : String} {o : Options}
    {c : Cause} (failed : t.sourceOf parser model o = .error c) (out : String) (check : Bool) :
    ∃ contexts, (runGenerate parser t model out o check).files = t ∧
      (runGenerate parser t model out o check).result = .error ⟨contexts, c⟩ := by
  unfold FileTree.sourceOf at failed
  unfold runGenerate
  cases text : t.readText model with
  | error file =>
    rw [text] at failed
    cases failed
    exact ⟨_, rfl, rfl⟩
  | ok document =>
    simp only [text] at failed ⊢
    cases generated : generateSource parser document o with
    | error f =>
      rw [generated] at failed
      cases failed
      exact ⟨_, rfl, rfl⟩
    | ok source => rw [generated] at failed; cases failed

theorem run_with_source {parser : SyntaxCheck} {t : FileTree} {model : String} {o : Options}
    {source : String} (found : t.sourceOf parser model o = .ok source) (out : String)
    (check : Bool) :
    (runGenerate parser t model out o check).files = (putOutput t out source check).files ∧
      (runGenerate parser t model out o check).result = (putOutput t out source check).result := by
  unfold FileTree.sourceOf at found
  unfold runGenerate putOutput
  cases text : t.readText model with
  | error file => rw [text] at found; cases found
  | ok document =>
    simp only [text] at found ⊢
    cases generated : generateSource parser document o with
    | error f => rw [generated] at found; cases found
    | ok s =>
      rw [generated] at found
      cases found
      exact ⟨rfl, rfl⟩

end ErrorUnion
