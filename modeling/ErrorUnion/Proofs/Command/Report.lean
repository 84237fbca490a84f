import ErrorUnion.Proofs.Command.Entries

/- The report of a batch run. It says of each entry what it came to, in their order, and the exit
   code goes with it. A failure that lies in the files cannot go into a report: the run ends there
   without one, and the entries behind are not run. -/
namespace ErrorUnion
open ErrorUnion.Path

def Report.exitCode (r : Report) : Nat :=
  if r.diagnostics ≠ [] then 2 else if r.drifted ≠ [] then 1 else 0

/-- An entry for which there is no source, for a reason that is told by a diagnostic. -/
def EntryTurn.Rejected (parser : SyntaxCheck) (folder : String) (o : Options) (x : EntryTurn)
    (d : Diagnostic) : Prop :=
  x.before.entrySource parser folder o x.entry = .error (.diagnostic d)

/-- An entry whose output is compared with its source, and is missing or different. -/
def EntryTurn.Stale (parser : SyntaxCheck) (folder : String) (o : Options) (check : Bool)
    (x : EntryTurn) : Prop :=
  check = true ∧ ∃ source, x.before.entrySource parser folder o x.entry = .ok source ∧
    x.before.OutputDiffers (join folder x.entry.out) source

/-- A report of turns: the diagnostic of each failure and the output of each drift, in the order of
the turns. -/
structure Report.Tells (r : Report) (folder : String) (turns : List EntryTurn) : Prop where
  diagnostics : List.Forall₂ (fun f d => Failure.diagnostic? f = some d)
    (turns.filterMap EntryTurn.failure?) r.diagnostics
  drifted : r.drifted = (turns.filter EntryTurn.drifts).map fun x => join folder x.entry.out
  ok : r.ok = true ↔ r.diagnostics = [] ∧ r.drifted = []

theorem noted_diagnostics (folder : String) (turns : List EntryTurn) (r : Report) :
    (turns.foldl (.note folder) r).diagnostics =
      r.diagnostics ++ turns.filterMap EntryTurn.diagnostic? := by
  induction turns generalizing r with
  | nil => simp
  | cons x rest ih =>
    have first : (r.note folder x).diagnostics = r.diagnostics ++ x.diagnostic?.toList := by
      unfold Report.note EntryTurn.diagnostic? EntryTurn.failure?
      cases x.turn.result with
      | ok v => cases v <;> simp [Report.addDrift]
      | error f => cases told : f.diagnostic? <;> simp [told, Report.addDiagnostic]
    rw [List.foldl_cons, ih, first, List.append_assoc, List.filterMap_cons]
    cases x.diagnostic? <;> rfl

theorem noted_drifted (folder : String) (turns : List EntryTurn) (r : Report) :
    (turns.foldl (.note folder) r).drifted =
      r.drifted ++ (turns.filter EntryTurn.drifts).map fun x => join folder x.entry.out := by
  induction turns generalizing r with
  | nil => simp
  | cons x rest ih =>
    rw [List.foldl_cons, ih, List.filter_cons]
    unfold Report.note EntryTurn.drifts
    cases x.turn.result with
    | ok v => cases v <;> simp [Report.addDrift]
    | error f => cases told : f.diagnostic? <;> simp [told, Report.addDiagnostic]

theorem noted_ok {folder : String} {turns : List EntryTurn}
    (severe : ∀ x ∈ turns, ∀ d, x.diagnostic? = some d → d.severity = .error) {r : Report}
    (before : r.ok = true ↔ r.diagnostics = [] ∧ r.drifted = []) :
    (turns.foldl (.note folder) r).ok = true ↔
      (turns.foldl (.note folder) r).diagnostics = [] ∧
        (turns.foldl (.note folder) r).drifted = [] := by
  induction turns generalizing r with
  | nil => exact before
  | cons x rest ih =>
    rw [List.forall_mem_cons] at severe
    apply ih severe.2
    unfold Report.note
    cases result : x.turn.result with
    | ok v =>
      cases v with
      | clean => exact before
      | drift => simp [Report.addDrift]
    | error f =>
      cases told : f.diagnostic? with
      | none => simpa [told] using before
      | some d =>
        have error := severe.1 d (by simp [EntryTurn.diagnostic?, EntryTurn.failure?, result, told])
        simp [told, Report.addDiagnostic, error]

theorem failures_told {turns : List EntryTurn}
    (told : ∀ x ∈ turns, ¬ x.Ends true) :
    List.Forall₂ (fun f d => Failure.diagnostic? f = some d)
      (turns.filterMap EntryTurn.failure?) (turns.filterMap EntryTurn.diagnostic?) := by
  induction turns with
  | nil => exact .nil
  | cons x rest ih =>
    rw [List.forall_mem_cons] at told
    have later := ih told.2
    cases failed : x.failure? with
    | none => simpa [EntryTurn.diagnostic?, failed] using later
    | some f =>
      cases diagnosed : f.diagnostic? with
      | none => exact absurd ⟨f, failed, fun _ => diagnosed⟩ told.1
      | some d => simpa [EntryTurn.diagnostic?, failed, diagnosed] using later

def Report.of (folder : String) (turns : List EntryTurn) : Report :=
  turns.foldl (Report.note folder) Report.clean

theorem noted_tells {parser : SyntaxCheck} {folder : String} {o : Options} {check : Bool}
    {t : FileTree} {entries : List ManifestEntry}
    (told : ∀ x ∈ entryTurns parser folder o check t 0 entries, ¬ x.Ends true) :
    (Report.of folder (entryTurns parser folder o check t 0 entries)).Tells folder
      (entryTurns parser folder o check t 0 entries) where
  diagnostics := by
    rw [Report.of, noted_diagnostics]
    exact failures_told told
  drifted := noted_drifted folder _ .clean
  ok := noted_ok (fun _ member _ => turn_diagnostic_severity member) (by decide)

theorem none_or_first {α : Type} (P : α → Prop) (xs : List α) :
    (∀ x ∈ xs, ¬ P x) ∨
      ∃ before x after, xs = before ++ x :: after ∧ (∀ y ∈ before, ¬ P y) ∧ P x := by
  induction xs with
  | nil => exact Or.inl nofun
  | cons x rest ih =>
    by_cases here : P x
    · exact Or.inr ⟨[], x, rest, rfl, nofun, here⟩
    · rcases ih with never | ⟨before, y, after, rfl, earlier, there⟩
      · exact Or.inl (List.forall_mem_cons.mpr ⟨here, never⟩)
      · exact Or.inr ⟨x :: before, y, after, rfl, List.forall_mem_cons.mpr ⟨here, earlier⟩, there⟩

section Batch

variable {parser : SyntaxCheck} {t : FileTree} {env : Environment} {a : BatchArgs}
variable {m : Manifest} {o : Options}

theorem batch_runs_entries (read : readManifest t a.manifest = .ok m)
    (accepted : Options.default.withEnvironment env = .ok o) :
    run parser t env (.batch a) = batchOutcome (runEntries parser (manifestFolder a.manifest) o
      a.check a.reportJson t 0 .clean m.entries) a.reportJson := by
  simp only [run, runBatch, read, accepted]

theorem report_outcome (r : Report) (files : FileTree) (notices : List Notice) (stdout : String) :
    let outcome := Turn.outcome ⟨files, notices, r.verdict⟩ stdout
    outcome.exit = r.exitCode ∧ outcome.stdout = stdout ∧ outcome.files = files ∧
      notices <+: outcome.stderr := by
  unfold Report.verdict Report.exitCode
  by_cases told : r.diagnostics = []
  · by_cases drift : r.drifted = [] <;> simp [told, drift, Turn.outcome]
  · simp [told, Turn.outcome]

theorem batch_gets_through (read : readManifest t a.manifest = .ok m)
    (accepted : Options.default.withEnvironment env = .ok o)
    (goes : ∀ x ∈ entryTurns parser (manifestFolder a.manifest) o a.check t 0 m.entries,
      ¬ x.Ends a.reportJson) :
    let turns := entryTurns parser (manifestFolder a.manifest) o a.check t 0 m.entries
    let r := Report.of (manifestFolder a.manifest) turns
    let outcome := run parser t env (.batch a)
    outcome.exit = r.exitCode ∧
      outcome.stdout = (if a.reportJson then r.pretty ++ "\n" else "") ∧
      outcome.files = filesAfter t turns ∧ turns.flatMap (·.turn.notices) <+: outcome.stderr := by
  simp only [batch_runs_entries read accepted, entries_all_run goes, batchOutcome]
  exact report_outcome _ _ _ _

theorem batch_cut (read : readManifest t a.manifest = .ok m)
    (accepted : Options.default.withEnvironment env = .ok o)
    {before after : List EntryTurn} {x : EntryTurn} {f : Failure}
    (split : entryTurns parser (manifestFolder a.manifest) o a.check t 0 m.entries =
      before ++ x :: after)
    (goes : ∀ y ∈ before, ¬ y.Ends a.reportJson) (ends : x.Ends a.reportJson)
    (failed : x.failure? = some f) :
    run parser t env (.batch a) =
      ⟨2, "", (before ++ [x]).flatMap (·.turn.notices) ++ [.line f.message], x.turn.files⟩ := by
  rw [batch_runs_entries read accepted, entries_cut split goes ends failed]
  rfl

theorem printed_report (printed : (run parser t env (.batch a)).stdout ≠ "") :
    a.reportJson = true ∧ ∃ m o, readManifest t a.manifest = .ok m ∧
      Options.default.withEnvironment env = .ok o ∧
      ∀ x ∈ entryTurns parser (manifestFolder a.manifest) o a.check t 0 m.entries,
        ¬ x.Ends true := by
  cases read : readManifest t a.manifest with
  | error f => simp [run, runBatch, read, batchOutcome, Turn.outcome] at printed
  | ok m =>
    cases accepted : Options.default.withEnvironment env with
    | error f => simp [run, runBatch, read, accepted, batchOutcome, Turn.outcome] at printed
    | ok o =>
      rcases none_or_first (EntryTurn.Ends a.reportJson)
        (entryTurns parser (manifestFolder a.manifest) o a.check t 0 m.entries) with
        goes | ⟨before, x, after, split, goes, ends⟩
      · have asked : a.reportJson = true := by
          by_contra quiet
          obtain ⟨-, stdout, -⟩ := batch_gets_through read accepted goes
          rw [if_neg quiet] at stdout
          exact printed stdout
        rw [asked] at goes
        exact ⟨asked, m, o, rfl, rfl, goes⟩
      · obtain ⟨f, failed, untold⟩ := ends
        rw [batch_cut read accepted split goes ⟨f, failed, untold⟩ failed] at printed
        exact absurd rfl printed

theorem goes_quietly_iff (x : EntryTurn) : ¬ x.Ends false ↔ x.failure? = none := by
  unfold EntryTurn.Ends
  cases x.failure? <;> simp

theorem unfailing_exit_code {folder : String} {turns : List EntryTurn}
    (none : ∀ x ∈ turns, x.failure? = none) :
    (Report.of folder turns).exitCode = if turns.any (·.drifts) then 1 else 0 := by
  have diagnostics : (Report.of folder turns).diagnostics = [] := by
    rw [Report.of, noted_diagnostics, Report.clean, List.nil_append, List.filterMap_eq_nil_iff]
    intro x member
    rw [EntryTurn.diagnostic?, none x member, Option.bind_none]
  have drifted : (Report.of folder turns).drifted =
      (turns.filter EntryTurn.drifts).map fun x => join folder x.entry.out :=
    noted_drifted folder turns .clean
  rw [Report.exitCode, if_neg (not_not.mpr diagnostics), drifted]
  by_cases some : turns.any (·.drifts) = true
  · rw [if_pos some, if_pos]
    obtain ⟨x, member, drifts⟩ := List.any_eq_true.mp some
    exact List.ne_nil_of_mem (List.mem_map_of_mem (List.mem_filter.mpr ⟨member, drifts⟩))
  · rw [if_neg some, if_neg]
    simpa using some

theorem quiet_exit_code (quiet : a.reportJson = false) (read : readManifest t a.manifest = .ok m)
    (accepted : Options.default.withEnvironment env = .ok o) :
    let turns := entryTurns parser (manifestFolder a.manifest) o a.check t 0 m.entries
    (run parser t env (.batch a)).exit =
      if turns.any (·.failure?.isSome) then 2 else if turns.any (·.drifts) then 1 else 0 := by
  intro turns
  rcases none_or_first (EntryTurn.Ends false) turns with
    goes | ⟨before, x, after, split, goes, ends⟩
  · have unfailing : ∀ x ∈ turns, x.failure? = none :=
      fun x member => (goes_quietly_iff x).mp (goes x member)
    have calm : turns.any (·.failure?.isSome) = false := by
      rw [List.any_eq_false]
      intro x member
      simp [unfailing x member]
    have through := batch_gets_through read accepted (by rw [quiet]; exact goes)
    rw [through.1, unfailing_exit_code unfailing, calm]
    rfl
  · obtain ⟨f, failed, untold⟩ := ends
    have some : turns.any (·.failure?.isSome) = true :=
      List.any_eq_true.mpr ⟨x, by rw [split]; simp, by simp [failed]⟩
    rw [batch_cut read accepted split (by rw [quiet]; exact goes)
      (by rw [quiet]; exact ⟨f, failed, untold⟩) failed, some]
    rfl

end Batch

def batchFolder (entries : String) : FileTree where
  nodes :=
    [(["work"], .folder),
     (["work", "m.json"], .file
       "\x7b\"schema_version\":\"errgen.model@0.1.0\",\"namespace\":\"a\"\x7d".toUTF8 .full),
     (["work", "bad.json"], .file "[]".toUTF8 .full),
     (["work", "e.json"], .file
       ("[\"errgen.manifest@0.1.0\",[" ++ entries ++ "]]").toUTF8 .full)]
  here := ["work"]

def driftAndFailure : FileTree := batchFolder "[\"m.json\",\"o.rs\"],[\"bad.json\",\"p.rs\"]"

theorem entry_turns_entries (parser : SyntaxCheck) (folder : String) (o : Options) (check : Bool)
    (t : FileTree) (index : Nat) (entries : List ManifestEntry) :
    (entryTurns parser folder o check t index entries).map (·.entry) = entries := by
  induction entries generalizing t index with
  | nil => rfl
  | cons e rest ih => rw [entryTurns, List.map_cons, ih]

theorem goes_reported_iff {parser : SyntaxCheck} {folder : String} {o : Options} {check : Bool}
    {t : FileTree} {entries : List ManifestEntry} {x : EntryTurn}
    (member : x ∈ entryTurns parser folder o check t 0 entries) :
    ¬ x.Ends true ↔ ∀ f, x.failure? = some f → ¬ f.cause.OfFiles := by
  unfold EntryTurn.Ends
  constructor
  · intro goes f failed files
    exact goes ⟨f, failed, fun _ => (turn_untold_iff member failed).mpr files⟩
  · rintro told ⟨f, failed, untold⟩
    exact told f failed ((turn_untold_iff member failed).mp (untold rfl))

theorem report_line_not_empty (r : Report) : r.pretty ++ "\n" ≠ "" := by
  intro empty
  have length := congrArg String.length empty
  simp at length

/-- With a report, failing entries hide no others as long as they fail for their model or their
options. The first one that fails for a file hides all behind it, and the report. -/
theorem report_hidden_by_files {parser : SyntaxCheck} {t : FileTree} {env : Environment}
    {a : BatchArgs} {m : Manifest} {o : Options} (asked : a.reportJson = true)
    (read : readManifest t a.manifest = .ok m)
    (accepted : Options.default.withEnvironment env = .ok o) :
    let folder := manifestFolder a.manifest
    let turns := entryTurns parser folder o a.check t 0 m.entries
    let outcome := run parser t env (.batch a)
    turns.map (·.entry) = m.entries ∧
    ((∃ r : Report, outcome.stdout = r.pretty ++ "\n") ↔
      ∀ x ∈ turns, ∀ f, x.failure? = some f → ¬ f.cause.OfFiles) ∧
    ((∀ x ∈ turns, ∀ f, x.failure? = some f → ¬ f.cause.OfFiles) →
      outcome.files = filesAfter t turns ∧ turns.flatMap (·.turn.notices) <+: outcome.stderr ∧
        ∃ r : Report, outcome.stdout = r.pretty ++ "\n" ∧ r.Tells folder turns) ∧
    ∀ before x after f, turns = before ++ x :: after →
      (∀ y ∈ before, ∀ g, y.failure? = some g → ¬ g.cause.OfFiles) →
      x.failure? = some f → f.cause.OfFiles →
      outcome.exit = 2 ∧ outcome.stdout = "" ∧ outcome.files = x.turn.files := by
  intro folder turns outcome
  -- Only failures that lie in files end a run that is to give a report.
  have through : (∀ x ∈ turns, ∀ f, x.failure? = some f → ¬ f.cause.OfFiles) →
      outcome.files = filesAfter t turns ∧ turns.flatMap (·.turn.notices) <+: outcome.stderr ∧
        ∃ r : Report, outcome.stdout = r.pretty ++ "\n" ∧ r.Tells folder turns := by
    intro told
    have goes : ∀ x ∈ turns, ¬ x.Ends true :=
      fun x member => (goes_reported_iff member).mpr (told x member)
    obtain ⟨-, stdout, files, notices⟩ :=
      batch_gets_through read accepted (by rw [asked]; exact goes)
    exact ⟨files, notices, _, stdout.trans (if_pos asked), noted_tells goes⟩
  refine ⟨entry_turns_entries .., ⟨?_, fun told => ?_⟩, through, ?_⟩
  · rintro ⟨r, stdout⟩ x member
    have printed : outcome.stdout ≠ "" := stdout ▸ report_line_not_empty r
    obtain ⟨-, m', o', read', accepted', goes⟩ := printed_report printed
    obtain rfl := Except.ok.inj (read.symm.trans read')
    obtain rfl := Except.ok.inj (accepted.symm.trans accepted')
    exact (goes_reported_iff member).mp (goes x member)
  · obtain ⟨-, -, r, stdout, -⟩ := through told
    exact ⟨r, stdout⟩
  · intro before x after f split told failed files
    have listed : ∀ y ∈ before ++ x :: after, y ∈ turns := fun y member => split ▸ member
    have untold := turn_untold_iff (listed x (by simp)) failed
    have cut := batch_cut read accepted split ?_ ⟨f, failed, fun _ => untold.mpr files⟩ failed
    · exact ⟨congrArg Outcome.exit cut, congrArg Outcome.stdout cut, congrArg Outcome.files cut⟩
    · intro y earlier
      rw [asked, goes_reported_iff (listed y (List.mem_append_left _ earlier))]
      exact told y earlier

theorem drift_and_failure_both_run :
    let m : Manifest := ⟨"errgen.manifest@0.1.0",
      [⟨"m.json", "o.rs", ⟨none, none, none⟩⟩, ⟨"bad.json", "p.rs", ⟨none, none, none⟩⟩]⟩
    readManifest driftAndFailure "e.json" = .ok m ∧
      Options.default.withEnvironment (fun _ => none) = .ok .default ∧
      ∃ r : Report,
        (run .byPath driftAndFailure (fun _ => none) (.batch ⟨"e.json", true, true⟩)).stdout =
            r.pretty ++ "\n" ∧
          r.Tells (manifestFolder "e.json")
            (entryTurns .byPath (manifestFolder "e.json") .default true driftAndFailure 0
              m.entries) := by
  intro m
  have read : readManifest driftAndFailure "e.json" = .ok m := by decide +kernel
  have accepted : Options.default.withEnvironment (fun _ => none) = .ok .default := by
    decide +kernel
  have told : ∀ x ∈ entryTurns .byPath (manifestFolder "e.json") .default true driftAndFailure 0
      m.entries, x.failure?.isSome → x.diagnostic?.isSome := by decide +kernel
  obtain ⟨-, -, through, -⟩ := @report_hidden_by_files .byPath driftAndFailure (fun _ => none)
    ⟨"e.json", true, true⟩ m .default rfl read accepted
  refine ⟨read, accepted, (through ?_).2.2⟩
  intro x member f failed files
  have untold := (turn_untold_iff member failed).mpr files
  have some := told x member (by rw [failed]; rfl)
  rw [EntryTurn.diagnostic?, failed, Option.bind_some, untold] at some
  cases some

def missingModel : FileTree := batchFolder "[\"n.json\",\"n.rs\"],[\"m.json\",\"o.rs\"]"

/-- A model that cannot be read hides the report, and the entry behind it. -/
theorem missing_model_hides_report :
    ¬ ∀ (t : FileTree) (env : Environment) (a : BatchArgs) (m : Manifest) (o : Options),
      a.reportJson = true → readManifest t a.manifest = .ok m →
      Options.default.withEnvironment env = .ok o →
      (∃ r : Report, (run .byPath t env (.batch a)).stdout = r.pretty ++ "\n") ∧
        (run .byPath t env (.batch a)).files =
          filesAfter t
            (entryTurns .byPath (manifestFolder a.manifest) o a.check t 0 m.entries) := by
  intro all
  obtain ⟨⟨r, stdout⟩, -⟩ := all missingModel (fun _ => none) ⟨"e.json", false, true⟩
    ⟨"errgen.manifest@0.1.0",
      [⟨"n.json", "n.rs", ⟨none, none, none⟩⟩, ⟨"m.json", "o.rs", ⟨none, none, none⟩⟩]⟩
    .default rfl (by decide +kernel) (by decide +kernel)
  have silent :
      (run .byPath missingModel (fun _ => none) (.batch ⟨"e.json", false, true⟩)).stdout = "" := by
    decide +kernel
  exact report_line_not_empty r (stdout.symm.trans silent)

end ErrorUnion
