import ErrorUnion.Proofs.Command.Manifest
import ErrorUnion.Proofs.Command.Outputs
import ErrorUnion.Proofs.Command.Report

/- A batch run that succeeds leaves the same files in whatever order its entries stand. A check
   behind it finds them all as they should be, if they are files that can be read: a device takes
   what is written to it and does not give it back. -/
namespace ErrorUnion
open ErrorUnion.Path

section Exit

variable {parser : SyntaxCheck} {t : FileTree} {env : Environment} {a : BatchArgs}
variable {m : Manifest} {o : Options}

theorem clean_goes {x : EntryTurn} (clean : x.turn.result = .ok .clean) (reportJson : Bool) :
    ¬ x.Ends reportJson := by
  rintro ⟨f, failed, -⟩
  simp [EntryTurn.failure?, clean] at failed

theorem reported_zero_iff {folder : String} {turns : List EntryTurn} {reportJson : Bool}
    (goes : ∀ x ∈ turns, ¬ x.Ends reportJson) :
    (Report.of folder turns).exitCode = 0 ↔ ∀ x ∈ turns, x.turn.result = .ok .clean := by
  have empty : (Report.of folder turns).exitCode = 0 ↔
      (Report.of folder turns).diagnostics = [] ∧ (Report.of folder turns).drifted = [] := by
    unfold Report.exitCode
    by_cases told : (Report.of folder turns).diagnostics = []
    · by_cases drift : (Report.of folder turns).drifted = [] <;> simp [told, drift]
    · simp [told]
  rw [empty, Report.of, noted_diagnostics, noted_drifted, Report.clean, List.nil_append,
    List.nil_append, List.filterMap_eq_nil_iff, List.map_eq_nil_iff, List.filter_eq_nil_iff,
    ← forall₂_and]
  refine forall₂_congr fun x member => ?_
  have passes := goes x member
  unfold EntryTurn.Ends EntryTurn.failure? at passes
  unfold EntryTurn.diagnostic? EntryTurn.failure? EntryTurn.drifts
  cases result : x.turn.result with
  | ok v => cases v <;> simp
  | error f =>
    simp only [result] at passes
    cases told : f.diagnostic? with
    | none => exact absurd ⟨f, rfl, fun _ => told⟩ passes
    | some d => simp [told]

theorem exit_zero_iff (read : readManifest t a.manifest = .ok m)
    (accepted : Options.default.withEnvironment env = .ok o) :
    (run parser t env (.batch a)).exit = 0 ↔
      ∀ x ∈ entryTurns parser (manifestFolder a.manifest) o a.check t 0 m.entries,
        x.turn.result = .ok .clean := by
  rcases none_or_first (EntryTurn.Ends a.reportJson)
    (entryTurns parser (manifestFolder a.manifest) o a.check t 0 m.entries) with
    goes | ⟨before, x, after, split, goes, ends⟩
  · rw [(batch_gets_through read accepted goes).1]
    exact reported_zero_iff goes
  · obtain ⟨f, failed, untold⟩ := ends
    rw [batch_cut read accepted split goes ⟨f, failed, untold⟩ failed]
    refine ⟨nofun, fun clean => ?_⟩
    exact absurd ⟨f, failed, untold⟩ (clean_goes (clean x (split ▸ by simp)) a.reportJson)

theorem clean_files (read : readManifest t a.manifest = .ok m)
    (accepted : Options.default.withEnvironment env = .ok o)
    (clean : ∀ x ∈ entryTurns parser (manifestFolder a.manifest) o a.check t 0 m.entries,
      x.turn.result = .ok .clean) :
    (run parser t env (.batch a)).files =
      filesAfter t (entryTurns parser (manifestFolder a.manifest) o a.check t 0 m.entries) :=
  (batch_gets_through read accepted fun x member => clean_goes (clean x member) _).2.2.1

theorem zero_accepts (read : readManifest t a.manifest = .ok m)
    (zero : (run parser t env (.batch a)).exit = 0) :
    ∃ o, Options.default.withEnvironment env = .ok o := by
  cases accepted : Options.default.withEnvironment env with
  | ok o => exact ⟨o, rfl⟩
  | error f => simp [run, runBatch, read, accepted, batchOutcome, Turn.outcome] at zero

end Exit

section Check

variable {parser : SyntaxCheck} {t : FileTree} {folder : String} {o : Options}
variable {e : ManifestEntry} {entries : List ManifestEntry}

theorem generate_checked (parser : SyntaxCheck) (t : FileTree) (model out : String) (o : Options) :
    (runGenerate parser t model out o true).files = t := by
  cases found : t.sourceOf parser model o with
  | error c =>
    obtain ⟨-, files, -⟩ := run_without_source found out true
    exact files
  | ok source => rw [(run_with_source found out true).1, putOutput, if_pos rfl, check_output_files]

theorem entry_checked (parser : SyntaxCheck) (t : FileTree) (folder : String) (o : Options)
    (index : Nat) (e : ManifestEntry) : (runEntry parser t folder o true index e).files = t := by
  unfold runEntry
  cases e.override.apply o with
  | error f => rfl
  | ok own => exact generate_checked parser t _ _ own

theorem entries_checked (t : FileTree) (reportJson : Bool) (index : Nat) (report : Report)
    (entries : List ManifestEntry) :
    (runEntries parser folder o true reportJson t index report entries).files = t := by
  induction entries generalizing index report with
  | nil => rfl
  | cons e rest ih =>
    have same := entry_checked parser t folder o index e
    let x : EntryTurn := ⟨e, t, runEntry parser t folder o true index e⟩
    by_cases ends : x.Ends reportJson
    · obtain ⟨f, failed, untold⟩ := ends
      rw [entry_ended (x := x) rfl ⟨f, failed, untold⟩ failed]
      exact same
    · rw [entry_passed (x := x) rfl ends]
      simp only [x, same]
      exact ih _ _

theorem entry_fresh {source : String} (found : t.entrySource parser folder o e = .ok source)
    (there : t.read (join folder e.out) = .ok source.toUTF8) (index : Nat) :
    (runEntry parser t folder o true index e).result = .ok .clean := by
  obtain ⟨-, context, result⟩ := entry_with_source found true index
  rw [result, putOutput, if_pos rfl, (check_output_clean_iff t _ source).mpr there]
  rfl

theorem turns_fresh (fresh : ∀ e ∈ entries, ∃ source, t.entrySource parser folder o e = .ok source ∧
      t.read (join folder e.out) = .ok source.toUTF8) (index : Nat) :
    ∀ x ∈ entryTurns parser folder o true t index entries, x.turn.result = .ok .clean := by
  -- A check leaves the tree alone, so every entry is compared on the same one.
  induction entries generalizing index with
  | nil => exact List.forall_mem_nil _
  | cons e rest ih =>
    rw [List.forall_mem_cons] at fresh
    obtain ⟨⟨source, found, there⟩, later⟩ := fresh
    rw [entryTurns, List.forall_mem_cons, entry_checked]
    exact ⟨entry_fresh found there index, ih later (index + 1)⟩

end Check

section Manifests

variable {parser : SyntaxCheck} {t u : FileTree} {p : String} {m : Manifest} {o : Options}

theorem manifest_parsed (read : readManifest t p = .ok m) :
    ∃ bytes, t.read p = .ok bytes ∧ Manifest.parse bytes = .ok m := by
  unfold readManifest at read
  cases found : t.read p with
  | error f => simp [found] at read
  | ok bytes =>
    simp only [found] at read
    cases parsed : Manifest.parse bytes with
    | error f => simp [parsed] at read
    | ok m' =>
      simp only [parsed] at read
      split at read
      · cases read
        exact ⟨bytes, rfl, parsed⟩
      · cases read

theorem manifest_at_place (sound : t.Sound) (normal : IsNormal p)
    (read : readManifest t p = .ok m) :
    Fits p ∧ ∃ bytes, t.Holds (t.place p) bytes ∧ Manifest.parse bytes = .ok m := by
  obtain ⟨bytes, found, parsed⟩ := manifest_parsed read
  obtain ⟨fits, there⟩ := (FileTree.read_ok_iff sound normal bytes).mp found
  exact ⟨fits, bytes, there, parsed⟩

theorem manifest_no_source {document : String} (parsed : Manifest.parse document.toUTF8 = .ok m)
    (source : String) : generateSource parser document o ≠ .ok source := by
  intro generated
  obtain ⟨f, failed⟩ | ⟨v, loaded, -⟩ := generate_source_cases parser document o
  · rw [failed] at generated
    cases generated
  · have text : Json.Source.ofBytes document.toUTF8 = .ofString document := by
      rw [Json.Source.ofBytes, (from_utf8_some_iff _ document).mpr rfl]
    rw [Manifest.parse, text] at parsed
    unfold ValidModel.load Model.parse Json.Schema.parseString at loaded
    cases manifest : Manifest.schema.parse (.ofString document) with
    | error f => rw [manifest] at parsed; cases parsed
    | ok mv =>
      cases model : Model.schema.parse (.ofString document) with
      | error f => simp [model, Except.map] at loaded
      | ok x => exact manifest_no_model manifest x model

theorem model_not_manifest {folder : String} {e : ManifestEntry} {source : String}
    (sound : t.Sound) (normal : IsNormal p) (read : readManifest t p = .ok m)
    (model : IsNormal (join folder e.model))
    (found : t.entrySource parser folder o e = .ok source) :
    t.modelPlace folder e ≠ t.place p := by
  intro same
  obtain ⟨-, bytes, ⟨node, there, reads⟩, parsed⟩ := manifest_at_place sound normal read
  obtain ⟨own, document, -, ⟨-, node', there', reads'⟩, generated⟩ :=
    (FileTree.entry_source_iff sound model).mp found
  rw [same, there] at there'
  cases there'
  rw [reads] at reads'
  cases reads'
  exact manifest_no_source parsed source generated

end Manifests

structure FileTree.SameBeside (place : List String) (t u : FileTree) : Prop where
  here : u.here = t.here
  nodes : ∀ q, q ≠ place → u.node? q = t.node? q

/-- Paths in normal form, with outputs that are apart from each other, from the manifest and from
all models. -/
structure Manifest.Apart (m : Manifest) (t : FileTree) (path : String) : Prop where
  normal : IsNormal path
  models : ∀ e ∈ m.entries, IsNormal e.model
  outs : ∀ e ∈ m.entries, IsNormal e.out
  distinct : (m.entries.map (t.outPlace (manifestFolder path))).Nodup
  no_manifest : ∀ e ∈ m.entries, t.outPlace (manifestFolder path) e ≠ t.place path
  no_model : ∀ e ∈ m.entries, ∀ f ∈ m.entries,
    t.outPlace (manifestFolder path) e ≠ t.modelPlace (manifestFolder path) f

theorem normal_in_folder {manifest p : String} (base : IsNormal manifest) (normal : IsNormal p) :
    IsNormal (join (manifestFolder manifest) p) := by
  obtain ⟨absolute, ns, n, spells⟩ := FileTree.normal_spelled base
  obtain ⟨q, parent, above⟩ := spelled_parent spells
  rw [manifestFolder, parent, Option.getD_some]
  obtain ⟨rooted, ms, some, spells⟩ := normal
  cases rooted with
  | true =>
    rw [join, spelled_absolute spells]
    exact ⟨true, ms, some, spells⟩
  | false => exact ⟨absolute, ns ++ ms, by simp [some], spelled_join above spells some⟩

theorem apart_spread {t : FileTree} {m : Manifest} {path : String} (apart : m.Apart t path) :
    t.Spread (manifestFolder path) m.entries where
  models e member := normal_in_folder apart.normal (apart.models e member)
  outs e member := normal_in_folder apart.normal (apart.outs e member)
  distinct := apart.distinct
  no_model := apart.no_model

section Runs

variable {parser : SyntaxCheck} {t t' u u' : FileTree} {folder : String} {o : Options}
variable {entries : List ManifestEntry} {place : List String}

theorem ready_beside (sound : t.Sound) (sound' : t'.Sound) (spread : t.Spread folder entries)
    (same : t.SameBeside place t') {bytes : ByteArray} (holds : t.Holds place bytes)
    (no_out : ∀ e ∈ entries, t.outPlace folder e ≠ place)
    (no_model : ∀ e ∈ entries, t.modelPlace folder e ≠ place)
    (ready : t.Ready parser folder o entries) :
    t'.Ready parser folder o entries ∧ ∀ e ∈ entries, ∀ source,
      t'.entrySource parser folder o e = .ok source ↔
        t.entrySource parser folder o e = .ok source := by
  have outs := FileTree.out_place_same same.here folder
  have sources : ∀ e ∈ entries, ∀ source,
      t'.entrySource parser folder o e = .ok source ↔
        t.entrySource parser folder o e = .ok source :=
    fun e member source => FileTree.source_kept sound sound' same.here (spread.models e member)
      fun bytes => FileTree.holds_same (same.nodes _ (no_model e member)) bytes
  refine ⟨⟨fun e member => ?_, by rw [outs]; exact ready.beside⟩, sources⟩
  obtain ⟨⟨source, found⟩, fits, free⟩ := ready.each e member
  refine ⟨⟨source, (sources e member source).mpr found⟩, fits, ?_⟩
  rw [outs]
  constructor
  · intro q way higher
    have aside : q ≠ place := by
      rintro rfl
      exact FileTree.folder_holds_nothing (free.way q way higher) bytes holds
    rw [same.nodes q aside]
    exact free.way q way higher
  · rw [same.nodes _ (no_out e member)]
    exact free.takes

/-- What a run leaves is told by what was there at first, whatever the order of the entries. -/
theorem leaves_beside (same : t.SameBeside place t') (ready : t.Ready parser folder o entries)
    (sources : ∀ e ∈ entries, ∀ source,
      t'.entrySource parser folder o e = .ok source ↔ t.entrySource parser folder o e = .ok source)
    (leaves : t.Leaves parser folder o entries u) (leaves' : t'.Leaves parser folder o entries u') :
    u.SameBeside place u' := by
  have outs := FileTree.out_place_same same.here folder
  obtain ⟨here, files, ways, rest⟩ := leaves
  obtain ⟨here', files', ways', rest'⟩ := leaves'
  rw [outs] at files' ways' rest'
  refine ⟨by rw [here', here, same.here], fun q aside => ?_⟩
  by_cases touched : ∃ e ∈ entries, q <+: t.outPlace folder e
  · obtain ⟨e, member, way⟩ := touched
    by_cases output : q = t.outPlace folder e
    · obtain ⟨source, found⟩ := (ready.each e member).source
      rw [output] at aside ⊢
      rw [files e member source found,
        files' e member source ((sources e member source).mpr found), same.nodes _ aside]
    · rw [ways e member q way output, ways' e member q way output]
  · have untouched : ∀ e ∈ entries, ¬ q <+: t.outPlace folder e :=
      fun e member way => touched ⟨e, member, way⟩
    rw [rest q untouched, rest' q untouched, same.nodes q aside]

theorem leaves_fresh (sound : t.Sound) (sound' : u.Sound) (spread : t.Spread folder entries)
    (ready : t.Ready parser folder o entries) (leaves : t.Leaves parser folder o entries u)
    (plain : ∀ e ∈ entries, t.Plain (t.outPlace folder e)) :
    ∀ e ∈ entries, ∃ source, u.entrySource parser folder o e = .ok source ∧
      u.read (join folder e.out) = .ok source.toUTF8 := by
  intro e member
  obtain ⟨⟨source, found⟩, fits, free⟩ := ready.each e member
  refine ⟨source, ?_, ?_⟩
  · have normal := spread.models e member
    rw [FileTree.entry_source_iff sound normal] at found
    obtain ⟨own, document, applied, ⟨short, holds⟩, generated⟩ := found
    rw [FileTree.entry_source_iff sound' normal]
    refine ⟨own, document, applied, ⟨short, ?_⟩, generated⟩
    have kept := FileTree.leaves_rest ready leaves holds
      fun f member' => spread.no_model f member' e member
    rw [FileTree.modelPlace, FileTree.place_same leaves.here]
    exact (FileTree.holds_same kept _).mpr holds
  · rw [FileTree.read_ok_iff sound' (spread.outs e member), FileTree.place_same leaves.here]
    exact ⟨fits, FileTree.left_holds free (plain e member) (leaves.files e member source found)⟩

end Runs

section Batch

variable {parser : SyntaxCheck} {t u : FileTree} {env : Environment} {a : BatchArgs}
variable {m : Manifest} {o : Options}

theorem apart_perm {m' : Manifest} {path : String} (apart : m.Apart t path) (here : u.here = t.here)
    (same : m'.entries.Perm m.entries) : m'.Apart u path := by
  have place := FileTree.place_same here
  have outs := FileTree.out_place_same here (manifestFolder path)
  refine ⟨apart.normal, fun e member => apart.models e (same.subset member),
    fun e member => apart.outs e (same.subset member), ?_, fun e member => ?_,
    fun e member f member' => ?_⟩
  · rw [outs]
    exact (same.map _).nodup_iff.mpr apart.distinct
  · rw [outs, place]
    exact apart.no_manifest e (same.subset member)
  · rw [outs, FileTree.modelPlace, place]
    exact apart.no_model e (same.subset member) f (same.subset member')

theorem batch_zero_iff (sound : t.Sound) (writes : a.check = false)
    (read : readManifest t a.manifest = .ok m) (apart : m.Apart t a.manifest)
    (accepted : Options.default.withEnvironment env = .ok o) :
    (run parser t env (.batch a)).exit = 0 ↔
      t.Ready parser (manifestFolder a.manifest) o m.entries := by
  rw [exit_zero_iff read accepted, writes]
  exact FileTree.turns_clean_iff sound (apart_spread apart) 0

theorem batch_leaves (sound : t.Sound) (writes : a.check = false)
    (read : readManifest t a.manifest = .ok m) (apart : m.Apart t a.manifest)
    (accepted : Options.default.withEnvironment env = .ok o)
    (ready : t.Ready parser (manifestFolder a.manifest) o m.entries) :
    (run parser t env (.batch a)).files.Sound ∧
      t.Leaves parser (manifestFolder a.manifest) o m.entries
        (run parser t env (.batch a)).files := by
  have clean := (FileTree.turns_clean_iff sound (apart_spread apart) 0).mpr ready
  rw [clean_files read accepted (by rw [writes]; exact clean), writes]
  exact FileTree.turns_leave sound (apart_spread apart) ready 0

theorem leaves_manifest (sound : t.Sound) (read : readManifest t a.manifest = .ok m)
    (apart : m.Apart t a.manifest) (ready : t.Ready parser (manifestFolder a.manifest) o m.entries)
    (leaves : t.Leaves parser (manifestFolder a.manifest) o m.entries u) :
    u.node? (t.place a.manifest) = t.node? (t.place a.manifest) := by
  obtain ⟨-, bytes, there, -⟩ := manifest_at_place sound apart.normal read
  exact FileTree.leaves_rest ready leaves there apart.no_manifest

theorem manifest_kept {p : String} (sound : t.Sound) (sound' : u.Sound) (normal : IsNormal p)
    (here : u.here = t.here) (kept : u.node? (t.place p) = t.node? (t.place p))
    (read : readManifest t p = .ok m) : readManifest u p = .ok m := by
  obtain ⟨bytes, found, -⟩ := manifest_parsed read
  have found' : u.read p = .ok bytes := by
    rw [FileTree.read_ok_iff sound' normal, FileTree.place_same here, FileTree.holds_same kept]
    exact (FileTree.read_ok_iff sound normal bytes).mp found
  unfold readManifest at read ⊢
  rw [found']
  rwa [found] at read

theorem outcome_zero_iff (turn : Turn Verdict) (stdout : String) :
    (turn.outcome stdout).exit = 0 ↔ turn.result = .ok .clean := by
  unfold Turn.outcome
  rcases turn.result with f | ⟨- | -⟩ <;> simp

theorem outcome_files (turn : Turn Verdict) (stdout : String) :
    (turn.outcome stdout).files = turn.files := by
  unfold Turn.outcome
  rcases turn.result with f | ⟨- | -⟩ <;> rfl

theorem batch_files (parser : SyntaxCheck) (t : FileTree) (env : Environment) (a : BatchArgs) :
    (run parser t env (.batch a)).files = (runBatch parser t env a).files := by
  unfold run batchOutcome
  simp only
  split <;> rw [outcome_files]

theorem batch_checked (checks : a.check = true) : (run parser t env (.batch a)).files = t := by
  rw [batch_files, runBatch, checks]
  cases readManifest t a.manifest with
  | error f => rfl
  | ok m =>
    cases Options.default.withEnvironment env with
    | error f => rfl
    | ok o => exact entries_checked t a.reportJson 0 Report.clean m.entries

end Batch

section Generate

variable {parser : SyntaxCheck} {t : FileTree} {env : Environment} {o : Options}
variable {model out : String}

theorem generate_zero_accepts {g : GenerateArgs}
    (zero : (run parser t env (.generate g)).exit = 0) :
    ∃ o, ∀ u check, run parser u env (.generate { g with check := check }) =
      (runGenerate parser u g.model g.out o check).outcome "" := by
  unfold run runGenerateArgs at zero
  unfold run runGenerateArgs
  cases accepted : Options.default.withEnvironment env with
  | error f => simp [accepted, Turn.outcome] at zero
  | ok o =>
    cases flags : g.flags.apply o with
    | error f => simp [accepted, flags, Turn.outcome] at zero
    | ok own => exact ⟨own, fun u check => by simp only [flags]⟩

theorem generated_fresh (sound : t.Sound) (model_normal : IsNormal model)
    (out_normal : IsNormal out) (apart : t.place out ≠ t.place model)
    (plain : t.Plain (t.place out))
    (clean : (runGenerate parser t model out o false).result = .ok .clean) :
    (runGenerate parser (runGenerate parser t model out o false).files model out o true).result =
      .ok .clean := by
  cases found : t.sourceOf parser model o with
  | error c =>
    obtain ⟨contexts, -, result⟩ := run_without_source found out false
    rw [result] at clean
    cases clean
  | ok source =>
    obtain ⟨files, result⟩ := run_with_source found out false
    rw [result, putOutput, if_neg Bool.false_ne_true] at clean
    obtain ⟨fits, free, laid⟩ := FileTree.write_output_laid sound out_normal source clean
    rw [files, putOutput, if_neg Bool.false_ne_true]
    generalize (writeOutput t out source).files = u at laid
    have sound' := FileTree.laid_sound sound free laid
    have found' : u.sourceOf parser model o = .ok source := by
      simp only [FileTree.source_of_ok_iff, FileTree.read_ok_iff sound model_normal,
        FileTree.read_ok_iff sound' model_normal, FileTree.place_same laid.here,
        FileTree.laid_holds_iff free laid (Ne.symm apart)] at found ⊢
      exact found
    have there : u.read out = .ok source.toUTF8 := by
      rw [FileTree.read_ok_iff sound' out_normal, FileTree.place_same laid.here]
      exact ⟨fits, FileTree.left_holds free plain laid.left⟩
    obtain ⟨-, result'⟩ := run_with_source found' out true
    rw [result', putOutput, if_pos rfl]
    exact (check_output_clean_iff u out source).mpr there

end Generate

theorem sound_of_nodes {t : FileTree} (here : t.node? t.here = some .folder)
    (above : ∀ x ∈ t.nodes, t.node? x.1.dropLast = some .folder) : t.Sound where
  here_folder := here
  in_folder folder name node there := by
    rw [FileTree.node?, if_neg (by simp)] at there
    obtain ⟨before, after, split, -⟩ := List.lookup_eq_some_iff.mp there
    simpa using above (folder ++ [name], node) (by simp [split])

theorem batch_folder_sound (entries : String) : (batchFolder entries).Sound := by
  refine sound_of_nodes rfl ?_
  simp [batchFolder, FileTree.node?]

theorem batch_folders_same (entries others : String) :
    (batchFolder entries).SameBeside ["work", "e.json"] (batchFolder others) := by
  refine ⟨rfl, fun q aside => ?_⟩
  simp [batchFolder, FileTree.node?, FileTree.lookup_pair, aside]

theorem plain_of_missing {t : FileTree} {place : List String} (missing : t.node? place = none) :
    t.Plain place := by
  intro node there
  rw [missing] at there
  cases there

def folderWithDevice (entries : String) : FileTree where
  nodes :=
    (["dev"], .folder) :: (["dev", "null"], .device .empty .full) :: (batchFolder entries).nodes
  here := ["work"]

theorem folder_with_device_sound (entries : String) : (folderWithDevice entries).Sound := by
  refine sound_of_nodes rfl ?_
  simp [folderWithDevice, batchFolder, FileTree.node?, FileTree.lookup_pair]

/-- A file that is closed to reading takes an output as well. The check behind it fails. -/
example :
    let env : Environment := fun _ => none
    let t := (batchFolder "").put ["work", "o.rs"] (.file .empty ⟨false, true⟩)
    let generate := fun check => Subcommand.generate ⟨"m.json", "o.rs", check, ⟨none, none, none⟩⟩
    (run .byPath t env (generate false)).exit = 0 ∧
      (run .byPath (run .byPath t env (generate false)).files env (generate true)).exit = 2 := by
  decide +kernel

end ErrorUnion
