import ErrorUnion.Proofs.Command.Order
import ErrorUnion.Proofs.Command.Settings

/- A check of one output. What is on file is read as text before it is compared, so the exit code
   tells exactly whether the bytes are those that would be generated, as long as they are text. -/
namespace ErrorUnion
open ErrorUnion.Path

namespace FileTree

def Missing (t : FileTree) (p : String) : Prop :=
  ∃ place slash, t.locate p = .ok (.entry place slash) ∧ t.find place = .ok none

/-- There is a file at a path that can be read. -/
def HasFile (t : FileTree) (p : String) (bytes : ByteArray) : Prop :=
  ∃ place access, t.locate p = .ok (.entry place false) ∧
    t.find place = .ok (some (.file bytes access)) ∧ access.reads = true

theorem read_missing {t : FileTree} {p : String} (missing : t.Missing p) :
    t.read p = .error .notFound := by
  obtain ⟨place, slash, located, absent⟩ := missing
  simp [read, located, absent, bind, Except.bind]

theorem read_file {t : FileTree} {p : String} {bytes : ByteArray} (file : t.HasFile p bytes) :
    t.read p = .ok bytes := by
  obtain ⟨place, access, located, there, reads⟩ := file
  simp [read, located, there, bind, Except.bind, Node.read, reads]

end FileTree

def IsUtf8 (bytes : ByteArray) : Prop := ∃ text : String, bytes = text.toUTF8

section Compared

variable {t : FileTree} {out source : String} {bytes : ByteArray}

theorem missing_output_drifts (missing : t.read out = .error .notFound) :
    (checkOutput t out source).result = .ok .drift :=
  (check_output_drift_iff t out source).mpr (Or.inl ((read_text_missing_iff t out).mpr missing))

theorem same_output_clean_iff (read : t.read out = .ok bytes) :
    (checkOutput t out source).result = .ok .clean ↔ bytes = source.toUTF8 := by
  rw [check_output_clean_iff, read, Except.ok.injEq]

theorem other_text_drifts_iff (read : t.read out = .ok bytes) :
    (checkOutput t out source).result = .ok .drift ↔ bytes ≠ source.toUTF8 ∧ IsUtf8 bytes := by
  rw [check_output_drift_iff, read_text_missing_iff, read]
  simp only [read_text_ok_iff, read, Except.ok.injEq, reduceCtorEq, false_or]
  constructor
  · rintro ⟨text, rfl, other⟩
    exact ⟨fun same => other (String.toByteArray_inj.mp same), text, rfl⟩
  · rintro ⟨other, text, rfl⟩
    exact ⟨text, rfl, fun same => other (congrArg String.toUTF8 same)⟩

end Compared

theorem outcome_one_iff (turn : Turn Verdict) (stdout : String) :
    (turn.outcome stdout).exit = 1 ↔ turn.result = .ok .drift := by
  unfold Turn.outcome
  rcases turn.result with f | ⟨- | -⟩ <;> simp

theorem outcome_two_iff (turn : Turn Verdict) (stdout : String) :
    (turn.outcome stdout).exit = 2 ↔ turn.result ≠ .ok .clean ∧ turn.result ≠ .ok .drift := by
  unfold Turn.outcome
  rcases turn.result with f | ⟨- | -⟩ <;> simp

section Checked

variable {parser : SyntaxCheck} {t : FileTree} {env : Environment} {args : List String}
variable {verbose : Bool} {a : GenerateArgs} {o : Options} {document source : String}

theorem check_exit_code (call : Invocation.ofArgs args = .ok ⟨verbose, .generate a⟩)
    (checks : a.check = true) (accepted : effectiveOptions env a.flags = .ok o)
    (model : t.read a.model = .ok document.toUTF8)
    (generated : generateSource parser document o = .ok source) :
    let exit := (runArgs parser t env args).exit
    let result := (checkOutput t a.out source).result
    (exit = 0 ↔ result = .ok .clean) ∧ (exit = 1 ↔ result = .ok .drift) ∧
      (exit = 2 ↔ result ≠ .ok .clean ∧ result ≠ .ok .drift) := by
  have found := (FileTree.source_of_ok_iff a.model).mpr ⟨document, model, generated⟩
  obtain ⟨-, result⟩ := run_with_source found a.out true
  simp only [runArgs, call, run, run_by_options, accepted, checks, outcome_zero_iff,
    outcome_one_iff, outcome_two_iff, result]
  exact ⟨.rfl, .rfl, .rfl⟩

/-- A check ends with zero if the output is there with the bytes of the source, and with one if it
is missing or holds another text. Bytes that are no text are not compared: they make the check fail,
though they differ from every source. -/
theorem check_exact_for_texts (call : Invocation.ofArgs args = .ok ⟨verbose, .generate a⟩)
    (checks : a.check = true) (accepted : effectiveOptions env a.flags = .ok o)
    (model : t.read a.model = .ok document.toUTF8)
    (generated : generateSource parser document o = .ok source) :
    let exit := (runArgs parser t env args).exit
    (t.Missing a.out → exit = 1) ∧
      ∀ bytes, t.HasFile a.out bytes →
        (exit = 0 ↔ bytes = source.toUTF8) ∧
        (exit = 1 ↔ bytes ≠ source.toUTF8 ∧ IsUtf8 bytes) ∧ (exit = 2 ↔ ¬ IsUtf8 bytes) := by
  obtain ⟨zero, one, two⟩ := check_exit_code call checks accepted model generated
  intro exit
  refine ⟨fun missing => ?_, fun bytes file => ?_⟩
  · exact one.mpr (missing_output_drifts (FileTree.read_missing missing))
  · have read := FileTree.read_file file
    rw [same_output_clean_iff read] at zero
    rw [other_text_drifts_iff read] at one
    rw [Ne, Ne, same_output_clean_iff read, other_text_drifts_iff read] at two
    refine ⟨zero, one, two.trans ⟨?_, fun broken => ?_⟩⟩
    · rintro ⟨other, untold⟩ text
      exact untold ⟨other, text⟩
    · exact ⟨fun same => broken ⟨source, same⟩, fun drifts => broken drifts.2⟩

end Checked

def plainDocument : String :=
  "\x7b\"schema_version\":\"errgen.model@0.1.0\",\"namespace\":\"a\"\x7d"

def writtenFolder (bytes : ByteArray) : FileTree :=
  plainFolder.put ["work", "o.rs"] (.file bytes .full)

def checkArgs : List String := ["gen", "--model", "m.json", "--out", "o.rs", "--check"]

def checkCall : GenerateArgs := ⟨"m.json", "o.rs", true, ⟨none, none, none⟩⟩

theorem check_args_read : Invocation.ofArgs checkArgs = .ok ⟨false, .generate checkCall⟩ := by
  decide +kernel

theorem check_options_accepted :
    effectiveOptions (fun _ => none) checkCall.flags = .ok .default := by decide +kernel

theorem plain_document_generates :
    ∃ source, generateSource .byPath plainDocument .default = .ok source := by
  have generates : (generateSource .byPath plainDocument .default).toOption.isSome = true := by
    decide +kernel
  cases generated : generateSource .byPath plainDocument .default with
  | error f => simp [generated, Except.toOption] at generates
  | ok source => exact ⟨source, rfl⟩

theorem written_model (bytes : ByteArray) :
    (writtenFolder bytes).read "m.json" = .ok plainDocument.toUTF8 := rfl

theorem written_output (bytes : ByteArray) : (writtenFolder bytes).HasFile "o.rs" bytes :=
  ⟨["work", "o.rs"], .full, rfl, rfl, rfl⟩

theorem no_output_yet : plainFolder.Missing "o.rs" := ⟨["work", "o.rs"], false, rfl, rfl⟩

def brokenBytes : ByteArray := ⟨#[0xff]⟩

theorem broken_bytes_no_text : ¬ IsUtf8 brokenBytes := by
  rintro ⟨text, same⟩
  have broken : String.fromUTF8? brokenBytes = none := by decide +kernel
  rw [(from_utf8_some_iff brokenBytes text).mpr same] at broken
  cases broken

theorem outputs_checked :
    Invocation.ofArgs checkArgs = .ok ⟨false, .generate checkCall⟩ ∧
      effectiveOptions (fun _ => none) checkCall.flags = .ok .default ∧
      (runArgs .byPath plainFolder (fun _ => none) checkArgs).exit = 1 ∧
      (runArgs .byPath (writtenFolder "// stale\n".toUTF8) (fun _ => none) checkArgs).exit = 1 ∧
      (runArgs .byPath (writtenFolder brokenBytes) (fun _ => none) checkArgs).exit = 2 ∧
      ∃ source, generateSource .byPath plainDocument .default = .ok source ∧
        (runArgs .byPath (writtenFolder source.toUTF8) (fun _ => none) checkArgs).exit = 0 := by
  obtain ⟨source, generated⟩ := plain_document_generates
  have checks {t : FileTree} (model : t.read "m.json" = .ok plainDocument.toUTF8) :=
    check_exact_for_texts check_args_read rfl check_options_accepted model generated
  have written (bytes : ByteArray) := (checks (written_model bytes)).2 bytes (written_output bytes)
  have other : "// stale\n".toUTF8 ≠ source.toUTF8 := by
    intro same
    have stale : (generateSource .byPath plainDocument .default).toOption ≠ some "// stale\n" := by
      decide +kernel
    rw [generated, ← String.toByteArray_inj.mp same] at stale
    exact stale rfl
  refine ⟨check_args_read, check_options_accepted, (checks rfl).1 no_output_yet, ?_, ?_, source,
    generated, (written _).1.mpr rfl⟩
  · exact (written _).2.1.mpr ⟨other, _, rfl⟩
  · exact (written _).2.2.mpr broken_bytes_no_text

/-- An output that differs from the source is not told as drift if it is no text. -/
theorem broken_output_not_drift :
    ¬ ∀ (t : FileTree) (env : Environment) (args : List String) (verbose : Bool) (a : GenerateArgs)
      (o : Options) (document source : String),
      Invocation.ofArgs args = .ok ⟨verbose, .generate a⟩ → a.check = true →
      effectiveOptions env a.flags = .ok o → t.read a.model = .ok document.toUTF8 →
      generateSource .byPath document o = .ok source → ∀ bytes, t.HasFile a.out bytes →
      (bytes = source.toUTF8 → (runArgs .byPath t env args).exit = 0) ∧
        (bytes ≠ source.toUTF8 → (runArgs .byPath t env args).exit = 1) := by
  intro all
  obtain ⟨source, generated⟩ := plain_document_generates
  obtain ⟨-, drifts⟩ := all (writtenFolder brokenBytes) (fun _ => none) checkArgs false checkCall
    .default plainDocument source check_args_read rfl check_options_accepted
    (written_model brokenBytes) generated brokenBytes (written_output brokenBytes)
  have drift := drifts fun same => broken_bytes_no_text ⟨source, same⟩
  have failed :
      (runArgs .byPath (writtenFolder brokenBytes) (fun _ => none) checkArgs).exit = 2 := by
    decide +kernel
  rw [failed] at drift
  cases drift

end ErrorUnion
