import ErrorUnion.Proofs.Command.Output

/- The entries of a manifest, one after the other. Each is run on the files that those before it
   left. A run of all of them goes on after an entry, or it ends there and the rest is not run. -/
namespace ErrorUnion
open ErrorUnion.Path

structure EntryTurn where
  entry : ManifestEntry
  before : FileTree
  turn : Turn Verdict

/-- The turns of all entries, whatever each of them comes to. -/
def entryTurns (parser : SyntaxCheck) (folder : String) (o : Options) (check : Bool) :
    FileTree → Nat → List ManifestEntry → List EntryTurn
  | _, _, [] => []
  | t, index, e :: rest =>
    let turn := runEntry parser t folder o check index e
    ⟨e, t, turn⟩ :: entryTurns parser folder o check turn.files (index + 1) rest

def FileTree.entrySource (t : FileTree) (parser : SyntaxCheck) (folder : String) (o : Options)
    (e : ManifestEntry) : Except Cause String :=
  match e.override.apply o with
  | .error f => .error (.diagnostic f.diagnostic)
  | .ok own => t.sourceOf parser (join folder e.model) own

namespace EntryTurn

def failure? (x : EntryTurn) : Option Failure :=
  match x.turn.result with
  | .ok _ => none
  | .error f => some f

def drifts (x : EntryTurn) : Bool :=
  match x.turn.result with
  | .ok .drift => true
  | _ => false

def diagnostic? (x : EntryTurn) : Option Diagnostic := x.failure?.bind Failure.diagnostic?

/-- A failure ends the run, unless it can go into a report. -/
def Ends (reportJson : Bool) (x : EntryTurn) : Prop :=
  ∃ f, x.failure? = some f ∧ (reportJson = true → f.diagnostic? = none)

end EntryTurn

def filesAfter (t : FileTree) : List EntryTurn → FileTree
  | [] => t
  | x :: rest => filesAfter x.turn.files rest

def Report.note (folder : String) (r : Report) (x : EntryTurn) : Report :=
  match x.turn.result with
  | .ok .clean => r
  | .ok .drift => r.addDrift (join folder x.entry.out)
  | .error f => match f.diagnostic? with
    | some d => r.addDiagnostic d
    | none => r

section Runs

variable {parser : SyntaxCheck} {folder : String} {o : Options} {check reportJson : Bool}

theorem entry_passed {t : FileTree} {index : Nat} {report : Report} {e : ManifestEntry}
    {rest : List ManifestEntry} {x : EntryTurn}
    (same : x = ⟨e, t, runEntry parser t folder o check index e⟩) (goes : ¬ x.Ends reportJson) :
    runEntries parser folder o check reportJson t index report (e :: rest) =
      let later := runEntries parser folder o check reportJson x.turn.files (index + 1)
        (report.note folder x) rest
      { later with notices := x.turn.notices ++ later.notices } := by
  subst same
  cases result : (runEntry parser t folder o check index e).result with
  | ok verdict => cases verdict <;> simp [runEntries, Report.note, result]
  | error f =>
    have failed : EntryTurn.failure? ⟨e, t, runEntry parser t folder o check index e⟩ = some f := by
      simp only [EntryTurn.failure?, result]
    cases reportJson with
    | false => exact absurd ⟨f, failed, nofun⟩ goes
    | true =>
      cases told : f.diagnostic? with
      | none => exact absurd ⟨f, failed, fun _ => told⟩ goes
      | some d => simp [runEntries, Report.note, result, told]

theorem entry_ended {t : FileTree} {index : Nat} {report : Report} {e : ManifestEntry}
    {rest : List ManifestEntry} {x : EntryTurn} {f : Failure}
    (same : x = ⟨e, t, runEntry parser t folder o check index e⟩) (ends : x.Ends reportJson)
    (failed : x.failure? = some f) :
    runEntries parser folder o check reportJson t index report (e :: rest) =
      ⟨x.turn.files, x.turn.notices, .error f⟩ := by
  subst same
  obtain ⟨g, cause, untold⟩ := ends
  obtain rfl : f = g := Option.some.inj (failed.symm.trans cause)
  cases result : (runEntry parser t folder o check index e).result with
  | ok verdict => simp [EntryTurn.failure?, result] at failed
  | error h =>
    obtain rfl : h = f := by simpa [EntryTurn.failure?, result] using failed
    cases reportJson with
    | false => simp [runEntries, result]
    | true => simp [runEntries, result, untold rfl]

theorem entries_all_run {t : FileTree} {index : Nat} {report : Report}
    {entries : List ManifestEntry}
    (goes : ∀ x ∈ entryTurns parser folder o check t index entries, ¬ x.Ends reportJson) :
    let turns := entryTurns parser folder o check t index entries
    runEntries parser folder o check reportJson t index report entries =
      ⟨filesAfter t turns, turns.flatMap (·.turn.notices),
        .ok (turns.foldl (.note folder) report)⟩ := by
  induction entries generalizing t index report with
  | nil => rfl
  | cons e rest ih =>
    rw [entryTurns, List.forall_mem_cons] at goes
    simp only [entry_passed rfl goes.1, ih goes.2, entryTurns, filesAfter, List.flatMap_cons,
      List.foldl_cons]

/-- The first entry that ends the run is the last one that is run. -/
theorem entries_cut {t : FileTree} {index : Nat} {report : Report} {entries : List ManifestEntry}
    {before after : List EntryTurn} {x : EntryTurn} {f : Failure}
    (split : entryTurns parser folder o check t index entries = before ++ x :: after)
    (goes : ∀ y ∈ before, ¬ y.Ends reportJson) (ends : x.Ends reportJson)
    (failed : x.failure? = some f) :
    runEntries parser folder o check reportJson t index report entries =
      ⟨x.turn.files, (before ++ [x]).flatMap (·.turn.notices), .error f⟩ := by
  -- The first entry ends the run, or goes on and the split is one of the entries behind it.
  induction entries generalizing t index report before with
  | nil => simp [entryTurns] at split
  | cons e rest ih =>
    rw [entryTurns] at split
    rcases List.cons_eq_append_iff.mp split with ⟨rfl, head⟩ | ⟨b, rfl, tail⟩
    · rw [entry_ended (List.cons.inj head).1 ends failed]
      simp
    · rw [List.forall_mem_cons] at goes
      simp only [entry_passed rfl goes.1, ih tail goes.2, List.cons_append, List.flatMap_cons]

end Runs

section Results

variable {parser : SyntaxCheck} {folder : String} {o : Options} {check : Bool}

theorem entry_without_source {t : FileTree} {e : ManifestEntry} {c : Cause}
    (failed : t.entrySource parser folder o e = .error c) (check : Bool) (index : Nat) :
    (runEntry parser t folder o check index e).files = t ∧
      ∃ contexts, (runEntry parser t folder o check index e).result = .error ⟨contexts, c⟩ := by
  unfold FileTree.entrySource at failed
  unfold runEntry
  cases own : e.override.apply o with
  | error f =>
    rw [own] at failed
    cases failed
    exact ⟨rfl, _, rfl⟩
  | ok p =>
    simp only [own] at failed
    obtain ⟨contexts, files, result⟩ := run_without_source failed (join folder e.out) check
    exact ⟨files, _, congrArg (Except.mapError _) result⟩

theorem entry_with_source {t : FileTree} {e : ManifestEntry} {source : String}
    (found : t.entrySource parser folder o e = .ok source) (check : Bool) (index : Nat) :
    (runEntry parser t folder o check index e).files =
        (putOutput t (join folder e.out) source check).files ∧
      ∃ context, (runEntry parser t folder o check index e).result =
        (putOutput t (join folder e.out) source check).result.mapError (·.within context) := by
  unfold FileTree.entrySource at found
  unfold runEntry
  cases own : e.override.apply o with
  | error f => rw [own] at found; cases found
  | ok p =>
    simp only [own] at found
    obtain ⟨files, result⟩ := run_with_source found (join folder e.out) check
    exact ⟨files, _, congrArg (Except.mapError _) result⟩

theorem entry_source_failure {t : FileTree} {e : ManifestEntry} {c : Cause}
    (failed : t.entrySource parser folder o e = .error c) : c.OfFiles ∨ c.Told := by
  unfold FileTree.entrySource at failed
  cases own : e.override.apply o with
  | error f =>
    rw [own] at failed
    cases failed
    exact Or.inr ⟨f.diagnostic, rfl, rfl⟩
  | ok p =>
    simp only [own] at failed
    exact source_failure failed

theorem entry_failure {t : FileTree} {e : ManifestEntry} {index : Nat} {f : Failure}
    (failed : (runEntry parser t folder o check index e).result = .error f) :
    t.entrySource parser folder o e = .error f.cause ∨
      (∃ source, t.entrySource parser folder o e = .ok source) ∧ f.cause.OfFiles := by
  cases found : t.entrySource parser folder o e with
  | error c =>
    obtain ⟨-, contexts, result⟩ := entry_without_source found check index
    rw [result] at failed
    cases failed
    exact Or.inl rfl
  | ok source =>
    obtain ⟨-, context, result⟩ := entry_with_source found check index
    rw [result] at failed
    cases put : (putOutput t (join folder e.out) source check).result with
    | ok v => rw [put] at failed; cases failed
    | error g =>
      rw [put] at failed
      cases failed
      have ofFiles : g.cause.OfFiles := put_output_failure put
      exact Or.inr ⟨⟨source, rfl⟩, ofFiles⟩

theorem entry_turn_result {t : FileTree} {index : Nat} {entries : List ManifestEntry}
    {x : EntryTurn} (member : x ∈ entryTurns parser folder o check t index entries) :
    ∃ i, x.turn = runEntry parser x.before folder o check i x.entry := by
  induction entries generalizing t index with
  | nil => cases member
  | cons e rest ih =>
    rcases List.mem_cons.mp member with rfl | later
    · exact ⟨index, rfl⟩
    · exact ih later

variable {t : FileTree} {index : Nat} {entries : List ManifestEntry} {x : EntryTurn}

theorem turn_failure (member : x ∈ entryTurns parser folder o check t index entries)
    {f : Failure} (failed : x.failure? = some f) :
    x.before.entrySource parser folder o x.entry = .error f.cause ∨
      (∃ source, x.before.entrySource parser folder o x.entry = .ok source) ∧ f.cause.OfFiles := by
  obtain ⟨i, turn⟩ := entry_turn_result member
  unfold EntryTurn.failure? at failed
  rw [turn] at failed
  cases result : (runEntry parser x.before folder o check i x.entry).result with
  | ok v => simp [result] at failed
  | error g =>
    simp only [result] at failed
    cases failed
    exact entry_failure result

theorem turn_diagnostic_iff (member : x ∈ entryTurns parser folder o check t index entries)
    (d : Diagnostic) :
    x.diagnostic? = some d ↔
      x.before.entrySource parser folder o x.entry = .error (.diagnostic d) := by
  constructor
  · intro told
    obtain ⟨f, failed, diagnosed⟩ := Option.bind_eq_some_iff.mp told
    have cause : f.cause = .diagnostic d := by
      unfold Failure.diagnostic? at diagnosed
      split at diagnosed
      · rename_i d' cause
        cases diagnosed
        exact cause
      · cases diagnosed
    rcases turn_failure member failed with sourceless | ⟨-, ⟨file, other⟩ | other⟩
    · rw [sourceless, cause]
    · rw [cause] at other; cases other
    · rw [cause] at other; cases other
  · intro sourceless
    obtain ⟨i, turn⟩ := entry_turn_result member
    obtain ⟨-, contexts, result⟩ := entry_without_source sourceless check i
    simp only [EntryTurn.diagnostic?, EntryTurn.failure?, turn, result]
    rfl

theorem turn_diagnostic_severity (member : x ∈ entryTurns parser folder o check t index entries)
    {d : Diagnostic} (told : x.diagnostic? = some d) : d.severity = .error := by
  rcases entry_source_failure ((turn_diagnostic_iff member d).mp told) with
    (⟨f, file⟩ | text) | ⟨d', same, severe⟩
  · cases file
  · cases text
  · cases same
    exact severe

theorem turn_untold_iff (member : x ∈ entryTurns parser folder o check t index entries)
    {f : Failure} (failed : x.failure? = some f) : f.diagnostic? = none ↔ f.cause.OfFiles := by
  constructor
  · intro untold
    have cause : f.cause.OfFiles ∨ f.cause.Told := by
      rcases turn_failure member failed with sourceless | ⟨-, files⟩
      · exact entry_source_failure sourceless
      · exact Or.inl files
    rcases cause with files | ⟨d, told, -⟩
    · exact files
    · simp [Failure.diagnostic?, told] at untold
  · rintro (⟨file, cause⟩ | cause) <;> simp [Failure.diagnostic?, cause]

theorem turn_drifts_iff (member : x ∈ entryTurns parser folder o check t index entries)
    (readable : ∀ f, x.failure? = some f → ¬ f.cause.OfFiles) :
    x.drifts = true ↔ check = true ∧
      ∃ source, x.before.entrySource parser folder o x.entry = .ok source ∧
        x.before.OutputDiffers (join folder x.entry.out) source := by
  obtain ⟨i, turn⟩ := entry_turn_result member
  simp only [EntryTurn.drifts, EntryTurn.failure?, turn] at readable ⊢
  cases found : x.before.entrySource parser folder o x.entry with
  | error c =>
    obtain ⟨-, contexts, result⟩ := entry_without_source found check i
    simp [result]
  | ok source =>
    obtain ⟨-, context, result⟩ := entry_with_source found check i
    cases put : (putOutput x.before (join folder x.entry.out) source check).result with
    | error f =>
      rw [put] at result
      simp only [result, Except.mapError] at readable
      exact absurd (put_output_failure put) (readable (f.within context) rfl)
    | ok v =>
      rw [put] at result
      cases check with
      | false =>
        cases v with
        | clean => simp [result, Except.mapError]
        | drift => exact absurd put (write_output_not_drift _ _ _)
      | true =>
        cases v with
        | clean => simp [result, Except.mapError, clean_output_same put]
        | drift => simp [result, Except.mapError, output_differs_of_drift put]

end Results

end ErrorUnion
