import ErrorUnion.Proofs.Command.Entries
import ErrorUnion.Proofs.Command.FileTree

/- Outputs that are written one after the other. Whether all of them can be written is known from
   the files that are there at first, and so is what lies where in the end. Neither depends on the
   order of the entries. -/
namespace ErrorUnion
open ErrorUnion.Path

namespace FileTree

def outPlace (t : FileTree) (folder : String) (e : ManifestEntry) : List String :=
  t.place (join folder e.out)

def modelPlace (t : FileTree) (folder : String) (e : ManifestEntry) : List String :=
  t.place (join folder e.model)

/-- Entries that have paths in normal form, each with an output of its own that is no model. -/
structure Spread (t : FileTree) (folder : String) (entries : List ManifestEntry) : Prop where
  models : ∀ e ∈ entries, IsNormal (join folder e.model)
  outs : ∀ e ∈ entries, IsNormal (join folder e.out)
  distinct : (entries.map (t.outPlace folder)).Nodup
  no_model : ∀ e ∈ entries, ∀ f ∈ entries, t.outPlace folder e ≠ t.modelPlace folder f

structure Runs (t : FileTree) (parser : SyntaxCheck) (folder : String) (o : Options)
    (e : ManifestEntry) : Prop where
  source : ∃ source, t.entrySource parser folder o e = .ok source
  fits : Fits (join folder e.out)
  free : t.Free (t.outPlace folder e)

/-- All entries can be run, and no output lies below another one. -/
structure Ready (t : FileTree) (parser : SyntaxCheck) (folder : String) (o : Options)
    (entries : List ManifestEntry) : Prop where
  each : ∀ e ∈ entries, t.Runs parser folder o e
  beside : ∀ e ∈ entries, ∀ f ∈ entries,
    t.outPlace folder e <+: t.outPlace folder f → t.outPlace folder e = t.outPlace folder f

/-- All outputs have been written, in folders, and the rest is as it was. -/
structure Leaves (t : FileTree) (parser : SyntaxCheck) (folder : String) (o : Options)
    (entries : List ManifestEntry) (u : FileTree) : Prop where
  here : u.here = t.here
  files : ∀ e ∈ entries, ∀ source, t.entrySource parser folder o e = .ok source →
    u.node? (t.outPlace folder e) =
      (Node.written source.toUTF8 (t.node? (t.outPlace folder e))).toOption
  ways : ∀ e ∈ entries, ∀ above, above <+: t.outPlace folder e → above ≠ t.outPlace folder e →
    u.node? above = some .folder
  rest : ∀ q, (∀ e ∈ entries, ¬ q <+: t.outPlace folder e) → u.node? q = t.node? q

section Sources

variable {t u : FileTree} {parser : SyntaxCheck} {folder : String} {o : Options}
variable {e f : ManifestEntry} {source : String}

theorem out_place_same (here : u.here = t.here) (folder : String) :
    u.outPlace folder = t.outPlace folder :=
  funext fun e => place_same here (join folder e.out)

theorem source_of_ok_iff (model : String) :
    t.sourceOf parser model o = .ok source ↔ ∃ document, t.read model = .ok document.toUTF8 ∧
      generateSource parser document o = .ok source := by
  simp only [← read_text_ok_iff]
  unfold sourceOf
  cases t.readText model with
  | error c => simp
  | ok document =>
    cases generated : generateSource parser document o <;> simp [Except.mapError, generated]

theorem entry_source_iff (sound : t.Sound) (normal : IsNormal (join folder e.model)) :
    t.entrySource parser folder o e = .ok source ↔
      ∃ own document, e.override.apply o = .ok own ∧
        (Fits (join folder e.model) ∧ t.Holds (t.modelPlace folder e) document.toUTF8) ∧
        generateSource parser document own = .ok source := by
  simp only [modelPlace, ← read_ok_iff sound normal]
  unfold entrySource
  cases e.override.apply o with
  | error f => simp
  | ok own => simp [source_of_ok_iff]

theorem source_kept (sound : t.Sound) (sound' : u.Sound) (here : u.here = t.here)
    (normal : IsNormal (join folder e.model))
    (kept : ∀ bytes, u.Holds (t.modelPlace folder e) bytes ↔
      t.Holds (t.modelPlace folder e) bytes) :
    u.entrySource parser folder o e = .ok source ↔
      t.entrySource parser folder o e = .ok source := by
  have place : u.modelPlace folder e = t.modelPlace folder e := place_same here _
  simp only [entry_source_iff sound normal, entry_source_iff sound' normal, place, kept]

end Sources

section Laying

variable {t u : FileTree} {place : List String} {bytes : ByteArray}

theorem folder_holds_nothing {q : List String}
    (folder : ∀ node, t.node? q = some node → node = .folder) (old : ByteArray) :
    ¬ t.Holds q old := by
  rintro ⟨node, there, reads⟩
  rw [folder node there] at reads
  cases reads

theorem laid_holds_iff (free : t.Free place) (laid : t.Laid place bytes u) {q : List String}
    (other : q ≠ place) (old : ByteArray) : u.Holds q old ↔ t.Holds q old := by
  by_cases way : q <+: place
  · have folder := laid.way q way other
    refine iff_of_false (folder_holds_nothing (fun node there => ?_) old)
      (folder_holds_nothing (free.way q way other) old)
    rw [folder] at there
    exact (Option.some.inj there).symm
  · exact holds_same (laid.rest q way) old

theorem laid_there (free : t.Free place) (laid : t.Laid place bytes u) :
    ∃ node, u.node? place = some node ∧ node ≠ .folder := by
  obtain ⟨node, written⟩ := free.takes bytes
  refine ⟨node, ?_, (written_no_folder written).2⟩
  rw [laid.left, written]
  rfl

theorem laid_free_iff (free : t.Free place) (laid : t.Laid place bytes u) {next : List String}
    (other : next ≠ place) :
    u.Free next ↔ t.Free next ∧ ¬ place <+: next ∧ ¬ next <+: place := by
  constructor
  · intro room
    have below : ¬ place <+: next := by
      obtain ⟨node, there, no_folder⟩ := laid_there free laid
      exact fun way => no_folder (room.way place way (Ne.symm other) node there)
    have above : ¬ next <+: place := fun way => free_no_folder room (laid.way next way other)
    refine ⟨⟨fun q way higher node there => ?_, ?_⟩, below, above⟩
    · have apart : q ≠ place := fun same => below (same ▸ way)
      by_cases shared : q <+: place
      · exact free.way q shared apart node there
      · exact room.way q way higher node ((laid.rest q shared).trans there)
    · rw [← laid.rest next above]
      exact room.takes
  · rintro ⟨room, below, above⟩
    refine ⟨fun q way higher node there => ?_, ?_⟩
    · have apart : q ≠ place := fun same => below (same ▸ way)
      by_cases shared : q <+: place
      · rw [laid.way q shared apart] at there
        exact (Option.some.inj there).symm
      · exact room.way q way higher node ((laid.rest q shared).symm.trans there)
    · rw [laid.rest next above]
      exact room.takes

end Laying

section Entry

variable {t u : FileTree} {parser : SyntaxCheck} {folder : String} {o : Options}
variable {e f : ManifestEntry} {source : String}

theorem entry_clean_iff (sound : t.Sound) (normal : IsNormal (join folder e.out)) (index : Nat) :
    (runEntry parser t folder o false index e).result = .ok .clean ↔ t.Runs parser folder o e := by
  cases found : t.entrySource parser folder o e with
  | error c =>
    obtain ⟨-, contexts, result⟩ := entry_without_source found false index
    rw [result]
    refine ⟨nofun, fun runs => ?_⟩
    obtain ⟨source, found'⟩ := runs.source
    rw [found] at found'
    cases found'
  | ok source =>
    obtain ⟨-, context, result⟩ := entry_with_source found false index
    have written := write_output_clean_iff sound normal source
    have clean : (runEntry parser t folder o false index e).result = .ok .clean ↔
        (writeOutput t (join folder e.out) source).result = .ok .clean := by
      rw [result, putOutput, if_neg Bool.false_ne_true]
      cases (writeOutput t (join folder e.out) source).result <;> simp [Except.mapError]
    rw [clean, written]
    exact ⟨fun ⟨fits, free⟩ => ⟨⟨source, found⟩, fits, free⟩, fun runs => ⟨runs.fits, runs.free⟩⟩

theorem entry_laid (sound : t.Sound) (normal : IsNormal (join folder e.out)) (index : Nat)
    (runs : t.Runs parser folder o e) (found : t.entrySource parser folder o e = .ok source) :
    t.Laid (t.outPlace folder e) source.toUTF8
      (runEntry parser t folder o false index e).files := by
  obtain ⟨files, -⟩ := entry_with_source found false index
  rw [files, putOutput, if_neg Bool.false_ne_true]
  exact (write_output_laid sound normal source
    (write_output_free sound normal source runs.fits runs.free)).2.2

end Entry

section Step

variable {t u : FileTree} {parser : SyntaxCheck} {folder : String} {o : Options}
variable {e : ManifestEntry} {source : String} {rest : List ManifestEntry}

theorem spread_rest (spread : t.Spread folder (e :: rest)) (here : u.here = t.here) :
    u.Spread folder rest := by
  have outs := out_place_same here folder
  refine ⟨fun f later => spread.models f (List.mem_cons_of_mem _ later),
    fun f later => spread.outs f (List.mem_cons_of_mem _ later), ?_, fun f later g later' => ?_⟩
  · rw [outs]
    exact (List.nodup_cons.mp spread.distinct).2
  · rw [outs, modelPlace, place_same here]
    exact spread.no_model f (List.mem_cons_of_mem _ later) g (List.mem_cons_of_mem _ later')

theorem spread_apart (spread : t.Spread folder (e :: rest)) {f : ManifestEntry} (later : f ∈ rest) :
    t.outPlace folder f ≠ t.outPlace folder e := by
  intro same
  exact (List.nodup_cons.mp spread.distinct).1 (same ▸ List.mem_map_of_mem later)

theorem laid_keeps_source (sound : t.Sound) (spread : t.Spread folder (e :: rest))
    (runs : t.Runs parser folder o e) (laid : t.Laid (t.outPlace folder e) source.toUTF8 u)
    {f : ManifestEntry} (later : f ∈ rest) (s : String) :
    u.entrySource parser folder o f = .ok s ↔ t.entrySource parser folder o f = .ok s := by
  have listed := List.mem_cons_of_mem e later
  refine source_kept sound (laid_sound sound runs.free laid) laid.here (spread.models f listed) ?_
  exact laid_holds_iff runs.free laid (Ne.symm (spread.no_model e List.mem_cons_self f listed))

theorem ready_step (sound : t.Sound) (spread : t.Spread folder (e :: rest))
    (runs : t.Runs parser folder o e) (laid : t.Laid (t.outPlace folder e) source.toUTF8 u) :
    t.Ready parser folder o (e :: rest) ↔ u.Ready parser folder o rest := by
  have outs := out_place_same laid.here folder
  have room := fun {f : ManifestEntry} (later : f ∈ rest) =>
    laid_free_iff runs.free laid (spread_apart spread later)
  have sources := fun {f : ManifestEntry} (later : f ∈ rest) =>
    laid_keeps_source sound spread runs laid later
  -- That no output lies below another one is asked on both sides, but of the first one only on the
  -- left: on the right it is the room that later ones still have.
  constructor
  · rintro ⟨each, beside⟩
    refine ⟨fun f later => ?_, fun f later g later' => ?_⟩
    · have listed := List.mem_cons_of_mem e later
      obtain ⟨⟨s, found⟩, fits, free⟩ := each f listed
      refine ⟨⟨s, (sources later s).mpr found⟩, fits, ?_⟩
      rw [outs]
      refine (room later).mpr ⟨free, fun way => ?_, fun way => ?_⟩
      · exact spread_apart spread later (beside e List.mem_cons_self f listed way).symm
      · exact spread_apart spread later (beside f listed e List.mem_cons_self way)
    · rw [outs]
      exact beside f (List.mem_cons_of_mem _ later) g (List.mem_cons_of_mem _ later')
  · rintro ⟨each, beside⟩
    rw [outs] at beside
    have apart : ∀ f ∈ rest, ¬ t.outPlace folder e <+: t.outPlace folder f ∧
        ¬ t.outPlace folder f <+: t.outPlace folder e :=
      fun f later => ((room later).mp (outs ▸ (each f later).free)).2
    refine ⟨List.forall_mem_cons.mpr ⟨runs, fun f later => ?_⟩, ?_⟩
    · obtain ⟨⟨s, found⟩, fits, free⟩ := each f later
      exact ⟨⟨s, (sources later s).mp found⟩, fits, ((room later).mp (outs ▸ free)).1⟩
    · intro f listed g listed' way
      rcases List.mem_cons.mp listed with rfl | later <;>
        rcases List.mem_cons.mp listed' with rfl | later'
      · rfl
      · exact absurd way (apart g later').1
      · exact absurd way (apart f later).2
      · exact beside f later g later' way

theorem leaves_step {v : FileTree} (sound : t.Sound) (spread : t.Spread folder (e :: rest))
    (ready : t.Ready parser folder o (e :: rest))
    (found : t.entrySource parser folder o e = .ok source)
    (laid : t.Laid (t.outPlace folder e) source.toUTF8 u)
    (leaves : u.Leaves parser folder o rest v) :
    t.Leaves parser folder o (e :: rest) v := by
  obtain ⟨here, files, ways, kept⟩ := leaves
  have outs := out_place_same laid.here folder
  rw [outs] at files ways kept
  have apart : ∀ f ∈ rest, ¬ t.outPlace folder e <+: t.outPlace folder f := fun f later way =>
    spread_apart spread later
      (ready.beside e List.mem_cons_self f (List.mem_cons_of_mem _ later) way).symm
  refine ⟨here.trans laid.here, List.forall_mem_cons.mpr ⟨fun s found' => ?_, fun f later s => ?_⟩,
    List.forall_mem_cons.mpr ⟨fun q way higher => ?_, ways⟩, fun q aside => ?_⟩
  · cases found.symm.trans found'
    rw [kept _ apart, laid.left]
  · have aside : ¬ t.outPlace folder f <+: t.outPlace folder e := fun way =>
      spread_apart spread later
        (ready.beside f (List.mem_cons_of_mem _ later) e List.mem_cons_self way)
    rw [← laid_keeps_source sound spread (ready.each e List.mem_cons_self) laid later,
      ← laid.rest _ aside]
    exact files f later s
  · -- A folder on the way may be needed for a later output too.
    by_cases shared : ∃ f ∈ rest, q <+: t.outPlace folder f
    · obtain ⟨f, later, way'⟩ := shared
      refine ways f later q way' ?_
      rintro rfl
      exact higher (ready.beside f (List.mem_cons_of_mem _ later) e List.mem_cons_self way)
    · rw [kept q fun f later way' => shared ⟨f, later, way'⟩, laid.way q way higher]
  · rw [List.forall_mem_cons] at aside
    rw [kept q aside.2, laid.rest q aside.1]

end Step

section Runs

variable {t : FileTree} {parser : SyntaxCheck} {folder : String} {o : Options}
variable {entries : List ManifestEntry}

theorem turns_clean_iff (sound : t.Sound) (spread : t.Spread folder entries) (index : Nat) :
    (∀ x ∈ entryTurns parser folder o false t index entries, x.turn.result = .ok .clean) ↔
      t.Ready parser folder o entries := by
  -- The first entry runs on the tree, and the rest on what it leaves: there the rest is ready
  -- exactly if it was before.
  induction entries generalizing t index with
  | nil =>
    refine ⟨fun _ => ⟨List.forall_mem_nil _, List.forall_mem_nil _⟩, fun _ => ?_⟩
    exact List.forall_mem_nil _
  | cons e rest ih =>
    have normal := spread.outs e List.mem_cons_self
    rw [entryTurns, List.forall_mem_cons, entry_clean_iff sound normal]
    have later : t.Runs parser folder o e →
        ((∀ x ∈ entryTurns parser folder o false (runEntry parser t folder o false index e).files
          (index + 1) rest, x.turn.result = .ok .clean) ↔
            t.Ready parser folder o (e :: rest)) := by
      intro runs
      obtain ⟨source, found⟩ := runs.source
      have laid := entry_laid sound normal index runs found
      rw [ready_step sound spread runs laid]
      exact ih (laid_sound sound runs.free laid) (spread_rest spread laid.here) _
    constructor
    · rintro ⟨runs, clean⟩
      exact (later runs).mp clean
    · intro ready
      have runs := ready.each e List.mem_cons_self
      exact ⟨runs, (later runs).mpr ready⟩

theorem turns_leave (sound : t.Sound) (spread : t.Spread folder entries)
    (ready : t.Ready parser folder o entries) (index : Nat) :
    let u := filesAfter t (entryTurns parser folder o false t index entries)
    u.Sound ∧ t.Leaves parser folder o entries u := by
  induction entries generalizing t index with
  | nil =>
    exact ⟨sound, rfl, List.forall_mem_nil _, List.forall_mem_nil _, fun _ _ => rfl⟩
  | cons e rest ih =>
    have normal := spread.outs e List.mem_cons_self
    have runs := ready.each e List.mem_cons_self
    obtain ⟨source, found⟩ := runs.source
    have laid := entry_laid sound normal index runs found
    obtain ⟨sound', leaves⟩ := ih (laid_sound sound runs.free laid) (spread_rest spread laid.here)
      ((ready_step sound spread runs laid).mp ready) (index + 1)
    exact ⟨sound', leaves_step sound spread ready found laid leaves⟩

end Runs

section Order

variable {t u : FileTree} {parser : SyntaxCheck} {folder : String} {o : Options}
variable {entries others : List ManifestEntry}

theorem ready_perm (same : others.Perm entries) (ready : t.Ready parser folder o entries) :
    t.Ready parser folder o others where
  each e member := ready.each e (same.subset member)
  beside e member f member' := ready.beside e (same.subset member) f (same.subset member')

theorem leaves_perm (same : others.Perm entries) (leaves : t.Leaves parser folder o entries u) :
    t.Leaves parser folder o others u where
  here := leaves.here
  files e member := leaves.files e (same.subset member)
  ways e member := leaves.ways e (same.subset member)
  rest q aside := leaves.rest q fun e member => aside e (same.symm.subset member)

theorem leaves_rest (ready : t.Ready parser folder o entries)
    (leaves : t.Leaves parser folder o entries u) {q : List String} {bytes : ByteArray}
    (holds : t.Holds q bytes) (other : ∀ e ∈ entries, t.outPlace folder e ≠ q) :
    u.node? q = t.node? q := by
  refine leaves.rest q fun e member way => ?_
  have folder := (ready.each e member).free.way q way (Ne.symm (other e member))
  exact folder_holds_nothing folder bytes holds

end Order

end FileTree

end ErrorUnion
