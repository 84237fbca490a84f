import ErrorUnion.Proofs.Command.Order
import ErrorUnion.Proofs.Command.Settings

/- What a run may change on file. Each operation is told by the files that it may write and the
   folders that it may make. Folders stay folders and nothing is lost, so that a path leads to the
   same place behind later operations, and what several of them may change is put together. -/
namespace ErrorUnion
open ErrorUnion.Path

/-- A path that is left when names are cut off the end of another one. -/
inductive Path.IsAbove : String → String → Prop where
  | parent {p q : String} : parent? p = some q → IsAbove q p
  | higher {p q r : String} : parent? p = some q → IsAbove r q → IsAbove r p

namespace FileTree

/-- A file that is written here has the rights that it had, or all of them if it is new. -/
def Rights (t : FileTree) (q : List String) (access : Access) : Prop :=
  (t.node? q = none ∧ access = .full) ∨ ∃ old, t.node? q = some (.file old access)

/-- How a place has changed: a file was written under a path that may be written, or a folder was
made that had been missing, under a path that may be made. -/
inductive Change (writes : String → ByteArray → Prop) (makes : String → Prop) (t u : FileTree)
    (q : List String) : Prop where
  | written (p : String) (bytes : ByteArray) (access : Access) : writes p bytes →
      u.locate p = .ok (.entry q false) → t.Rights q access →
      u.node? q = some (.file bytes access) → Change writes makes t u q
  | made (p : String) (slash : Bool) : makes p →
      u.locate p = .ok (.entry q slash) → t.node? q = none → u.node? q = some .folder →
      Change writes makes t u q

structure Changes (writes : String → ByteArray → Prop) (makes : String → Prop)
    (t u : FileTree) : Prop where
  here : u.here = t.here
  folders : ∀ q, t.node? q = some .folder → u.node? q = some .folder
  kept : ∀ q, u.node? q = none → t.node? q = none
  each : ∀ q, u.node? q ≠ t.node? q → Change writes makes t u q

section Places

variable {t u v : FileTree} {writes others : String → ByteArray → Prop}
variable {makes more : String → Prop}

theorem find_kept (folders : ∀ q, t.node? q = some .folder → u.node? q = some .folder)
    {q : List String} (there : t.find q = .ok (some .folder)) : u.find q = .ok (some .folder) := by
  unfold find at there ⊢
  split
  · rename_i long
    rw [if_pos long] at there
    cases there
  · rename_i short
    rw [if_neg short, Except.ok.injEq] at there
    rw [folders q there]

theorem walk_kept (folders : ∀ q, t.node? q = some .folder → u.node? q = some .folder)
    {folder ns place : List String} (walked : t.walk folder ns = .ok place) :
    u.walk folder ns = .ok place := by
  induction ns generalizing folder with
  | nil => exact walked
  | cons n r ih =>
    by_cases dot : n = "."
    · rw [walk, if_pos dot] at walked ⊢
      exact ih walked
    · by_cases dots : n = ".."
      · rw [walk, if_neg dot, if_pos dots] at walked ⊢
        exact ih walked
      · rw [walk_name ⟨dot, dots⟩] at walked ⊢
        split at walked
        · cases walked
        · cases walked
        · rename_i there
          simp only [find_kept folders there]
          exact ih walked
        · cases walked

theorem walk_map_kept (folders : ∀ q, t.node? q = some .folder → u.node? q = some .folder)
    {folder ns : List String} {found : List String → Place} {x : Place}
    (walked : (t.walk folder ns).map found = .ok x) : (u.walk folder ns).map found = .ok x := by
  cases walk : t.walk folder ns with
  | error f => rw [walk] at walked; cases walked
  | ok place =>
    rw [walk] at walked
    rw [walk_kept folders walk]
    exact walked

theorem locate_cases (p : String) :
    (∃ f, ∀ t : FileTree, t.locate p = .error f) ∨
    (∀ t : FileTree, t.locate p = .ok (.folder [])) ∨
    (∀ t : FileTree, t.locate p = (t.walk (t.start (isAbsolute p)) (names p)).map .folder) ∨
    ∃ before last, ∀ t : FileTree, t.locate p =
      (t.walk (t.start (isAbsolute p)) before).map fun folder =>
        .entry (folder ++ [last]) (endsWithSlash p) := by
  unfold locate start
  by_cases nul : '\x00' ∈ p.toList
  · exact Or.inl ⟨_, fun t => if_pos nul⟩
  by_cases empty : p = ""
  · exact Or.inl ⟨_, fun t => by rw [if_neg nul, if_pos empty]⟩
  by_cases long : pathLimit < p.utf8ByteSize
  · exact Or.inl ⟨_, fun t => by rw [if_neg nul, if_neg empty, if_pos long]⟩
  simp only [if_neg nul, if_neg empty, if_neg long]
  cases (names p).reverse with
  | nil => exact Or.inr (Or.inl fun t => rfl)
  | cons last before =>
    by_cases dots : (last = "." || last = "..") = true
    · exact Or.inr (Or.inr (Or.inl fun t => if_pos dots))
    · exact Or.inr (Or.inr (Or.inr ⟨before.reverse, last, fun t => if_neg dots⟩))

theorem locate_kept (here : u.here = t.here)
    (folders : ∀ q, t.node? q = some .folder → u.node? q = some .folder) {p : String} {x : Place}
    (located : t.locate p = .ok x) : u.locate p = .ok x := by
  obtain ⟨f, refused⟩ | root | walks | ⟨before, last, walks⟩ := locate_cases p
  · rw [refused] at located
    cases located
  · rw [root] at located ⊢
    exact located
  · rw [walks] at located ⊢
    rw [start_same here]
    exact walk_map_kept folders located
  · rw [walks] at located ⊢
    rw [start_same here]
    exact walk_map_kept folders located

theorem entry_not_root {p : String} {q : List String} {slash : Bool}
    (located : t.locate p = .ok (.entry q slash)) : q ≠ [] := by
  obtain ⟨f, refused⟩ | root | walks | ⟨before, last, walks⟩ := locate_cases p
  · rw [refused] at located
    cases located
  · rw [root] at located
    cases located
  · rw [walks] at located
    cases walk : t.walk (t.start (isAbsolute p)) (names p) <;>
      rw [walk] at located <;> cases located
  · rw [walks] at located
    cases walk : t.walk (t.start (isAbsolute p)) before <;> rw [walk] at located <;> cases located
    simp

theorem changes_refl (writes : String → ByteArray → Prop) (makes : String → Prop) (t : FileTree) :
    Changes writes makes t t :=
  ⟨rfl, fun _ => id, fun _ => id, fun _ other => absurd rfl other⟩

theorem changes_mono (files : ∀ p bytes, writes p bytes → others p bytes)
    (folders : ∀ p, makes p → more p) (changes : Changes writes makes t u) :
    Changes others more t u where
  here := changes.here
  folders := changes.folders
  kept := changes.kept
  each q other := by
    cases changes.each q other with
    | written p bytes access may located rights file =>
      exact .written p bytes access (files p bytes may) located rights file
    | made p slash may located missing folder =>
      exact .made p slash (folders p may) located missing folder

theorem rights_before {q : List String} {access : Access} (first : Changes writes makes t u)
    (rights : u.Rights q access) : t.Rights q access := by
  rcases rights with ⟨missing, full⟩ | ⟨old, there⟩
  · exact Or.inl ⟨first.kept q missing, full⟩
  · by_cases same : u.node? q = t.node? q
    · exact Or.inr ⟨old, same ▸ there⟩
    · cases first.each q same with
      | written p bytes before may located rights file =>
        rw [there] at file
        cases file
        exact rights
      | made p slash may located missing folder =>
        rw [there] at folder
        cases folder

theorem changes_trans (first : Changes writes makes t u) (second : Changes writes makes u v) :
    Changes writes makes t v where
  here := second.here.trans first.here
  folders q folder := second.folders q (first.folders q folder)
  kept q none := first.kept q (second.kept q none)
  each q other := by
    by_cases later : v.node? q = u.node? q
    · rw [later] at other
      cases first.each q other with
      | written p bytes access may located rights file =>
        exact .written p bytes access may (locate_kept second.here second.folders located) rights
          (later.trans file)
      | made p slash may located missing folder =>
        exact .made p slash may (locate_kept second.here second.folders located) missing
          (later.trans folder)
    · cases second.each q later with
      | written p bytes access may located rights file =>
        exact .written p bytes access may located (rights_before first rights) file
      | made p slash may located missing folder =>
        exact .made p slash may located (first.kept q missing) folder

theorem put_keeps_folders {q : List String} (below : q ≠ []) (no_folder : t.node? q ≠ some .folder)
    (n : Node) : ∀ r, t.node? r = some .folder → (t.put q n).node? r = some .folder := by
  intro r folder
  rw [node_put below, if_neg, folder]
  rintro rfl
  exact no_folder folder

theorem put_changes {p : String} {q : List String} {slash : Bool} {n : Node}
    (located : t.locate p = .ok (.entry q slash)) (no_folder : t.node? q ≠ some .folder)
    (change : t.node? q ≠ some n → (t.put q n).locate p = .ok (.entry q slash) →
      (t.put q n).node? q = some n → Change writes makes t (t.put q n) q) :
    Changes writes makes t (t.put q n) := by
  have below := entry_not_root located
  have folders := put_keeps_folders below no_folder n
  refine ⟨rfl, folders, fun r none => ?_, fun r other => ?_⟩
  · rw [node_put below] at none
    split at none
    · cases none
    · exact none
  · rw [node_put below] at other
    split at other
    · rename_i same
      subst same
      exact change (Ne.symm other) (locate_kept (t := t) (u := t.put r n) rfl folders located)
        (by rw [node_put below, if_pos rfl])
    · exact absurd rfl other

end Places

section Operations

variable {t u : FileTree} {p out source : String}

def NoFiles (_ : String) (_ : ByteArray) : Prop := False

def NoFolders (_ : String) : Prop := False

theorem find_ok {q : List String} {n : Option Node} (found : t.find q = .ok n) :
    t.node? q = n := by
  unfold find at found
  split at found
  · cases found
  · exact Except.ok.inj found

theorem make_folder_changes (made : t.makeFolder p = .ok u) : Changes NoFiles (· = p) t u := by
  obtain ⟨place, located, made⟩ := (bind_ok_iff _ _ _).mp made
  cases place with
  | folder q => cases made
  | entry q slash =>
    obtain ⟨node, found, made⟩ := (bind_ok_iff _ _ _).mp made
    cases node with
    | some n => cases made
    | none =>
      cases made
      have missing := find_ok found
      refine put_changes located (by simp [missing]) fun _ leads there => ?_
      exact .made p slash rfl leads missing there

theorem write_changes {bytes : ByteArray} (written : t.write p bytes = .ok u) :
    Changes (fun q b => q = p ∧ b = bytes) NoFolders t u := by
  obtain ⟨place, located, written⟩ := (bind_ok_iff _ _ _).mp written
  cases place with
  | folder q => cases written
  | entry q slash =>
    cases slash with
    | true => cases written
    | false =>
      obtain ⟨old, found, written⟩ := (bind_ok_iff _ _ _).mp written
      obtain ⟨node, taken, ended⟩ := (bind_ok_iff _ _ _).mp written
      cases ended
      obtain rfl := find_ok found
      refine put_changes located (written_no_folder taken).1 fun other leads there => ?_
      -- A device is left as it was, so that only files have changed.
      obtain ⟨missing, rfl⟩ | ⟨former, access, before, -, rfl⟩ | ⟨given, access, before, -, rfl⟩ :=
        written_cases taken
      · exact .written p bytes .full ⟨rfl, rfl⟩ leads (Or.inl ⟨missing, rfl⟩) there
      · exact .written p bytes access ⟨rfl, rfl⟩ leads (Or.inr ⟨former, before⟩) there
      · exact absurd before other

theorem ensure_folder_changes (ensured : t.ensureFolder p = .ok u) :
    Changes NoFiles (· = p) t u := by
  unfold ensureFolder at ensured
  cases made : t.makeFolder p with
  | ok v =>
    rw [made] at ensured
    cases ensured
    exact make_folder_changes made
  | error f =>
    simp only [made] at ensured
    split at ensured
    · cases ensured
      exact changes_refl _ _ t
    · cases ensured

theorem make_folders_changes (steps : Nat) (t : FileTree) (p : String) :
    Changes NoFiles (fun q => q = p ∨ IsAbove q p) t (makeFoldersWithin steps t p).1 := by
  induction steps generalizing p with
  | zero => exact changes_refl _ _ t
  | succ steps ih =>
    -- Only the last split comes behind a change: what was made above may still be there on a fault.
    rw [makeFoldersWithin]
    split
    · exact changes_refl _ _ t
    · split
      · rename_i u ensured
        exact changes_mono (fun _ _ => id) (fun _ => Or.inl) (ensure_folder_changes ensured)
      · split
        · exact changes_refl _ _ t
        · rename_i q parent
          have above : Changes NoFiles (fun r => r = p ∨ IsAbove r p) t
              (makeFoldersWithin steps t q).1 := by
            refine changes_mono (fun _ _ => id) (fun r higher => Or.inr ?_) (ih q)
            rcases higher with rfl | higher
            · exact .parent parent
            · exact .higher parent higher
          split
          · rename_i v f made
            rw [made] at above
            exact above
          · rename_i v made
            rw [made] at above
            split
            · rename_i u ensured
              exact changes_trans above
                (changes_mono (fun _ _ => id) (fun _ => Or.inl) (ensure_folder_changes ensured))
            · exact above
      · exact changes_refl _ _ t

theorem make_parents_changes (t : FileTree) (out : String) :
    Changes NoFiles (IsAbove · out) t (t.makeParents out).1 := by
  unfold makeParents
  split
  · rename_i folder parent
    refine changes_mono (fun _ _ => id) (fun r higher => ?_) (make_folders_changes _ t folder)
    rcases higher with rfl | higher
    · exact .parent parent
    · exact .higher parent higher
  · exact changes_refl _ _ t

theorem write_output_changes (t : FileTree) (out source : String) :
    Changes (fun p bytes => p = out ∧ bytes = source.toUTF8) (IsAbove · out) t
      (writeOutput t out source).files := by
  have parents : Changes (fun p bytes => p = out ∧ bytes = source.toUTF8) (IsAbove · out) t
      (t.makeParents out).1 :=
    changes_mono (fun _ _ none => none.elim) (fun _ => id) (make_parents_changes t out)
  obtain ⟨f, contexts, -, ended⟩ | ⟨-, ⟨f, contexts, -, ended⟩ | ⟨u, notices, written, ended⟩⟩ :=
    write_output_cases t out source
  · rw [ended]
    exact parents
  · rw [ended]
    exact parents
  · rw [ended]
    exact changes_trans parents
      (changes_mono (fun _ _ => id) (fun _ none => none.elim) (write_changes written))

end Operations

end FileTree

namespace EntryTurn

def Writes (parser : SyntaxCheck) (folder : String) (o : Options) (x : EntryTurn) (p : String)
    (bytes : ByteArray) : Prop :=
  ∃ source, x.before.entrySource parser folder o x.entry = .ok source ∧
    p = join folder x.entry.out ∧ bytes = source.toUTF8

/-- An entry may make the folders above its output, if it has a source. -/
def Makes (parser : SyntaxCheck) (folder : String) (o : Options) (x : EntryTurn) (p : String) :
    Prop :=
  (∃ source, x.before.entrySource parser folder o x.entry = .ok source) ∧
    IsAbove p (join folder x.entry.out)

/-- An entry that a run gets to, since none before it ends the run. -/
def Reached (reportJson : Bool) (turns : List EntryTurn) (x : EntryTurn) : Prop :=
  ∃ before after, turns = before ++ x :: after ∧ ∀ y ∈ before, ¬ y.Ends reportJson

end EntryTurn

def TurnsChange (parser : SyntaxCheck) (folder : String) (o : Options) (reportJson : Bool)
    (turns : List EntryTurn) (t u : FileTree) : Prop :=
  FileTree.Changes
    (fun p bytes => ∃ x : EntryTurn,
      x.Reached reportJson turns ∧ x.Writes parser folder o p bytes)
    (fun p => ∃ x : EntryTurn, x.Reached reportJson turns ∧ x.Makes parser folder o p) t u

section Runs

variable {parser : SyntaxCheck} {folder : String} {o : Options} {reportJson : Bool}

theorem reached_first (x : EntryTurn) (rest : List EntryTurn) :
    x.Reached reportJson (x :: rest) := ⟨[], rest, rfl, List.forall_mem_nil _⟩

theorem reached_later {x y : EntryTurn} {rest : List EntryTurn} (goes : ¬ x.Ends reportJson)
    (reached : y.Reached reportJson rest) : y.Reached reportJson (x :: rest) := by
  obtain ⟨before, after, rfl, earlier⟩ := reached
  exact ⟨x :: before, after, rfl, List.forall_mem_cons.mpr ⟨goes, earlier⟩⟩

theorem entry_changes {x : EntryTurn} {index : Nat}
    (turn : x.turn = runEntry parser x.before folder o false index x.entry) :
    FileTree.Changes (x.Writes parser folder o) (x.Makes parser folder o) x.before
      x.turn.files := by
  rw [turn]
  cases found : x.before.entrySource parser folder o x.entry with
  | error c =>
    rw [(entry_without_source found false index).1]
    exact FileTree.changes_refl _ _ _
  | ok source =>
    rw [(entry_with_source found false index).1, putOutput, if_neg Bool.false_ne_true]
    refine FileTree.changes_mono ?_ ?_ (FileTree.write_output_changes _ _ source)
    · rintro p bytes ⟨path, written⟩
      exact ⟨source, found, path, written⟩
    · exact fun p above => ⟨⟨source, found⟩, above⟩

theorem entries_change (t : FileTree) (index : Nat) (report : Report)
    (entries : List ManifestEntry) :
    TurnsChange parser folder o reportJson (entryTurns parser folder o false t index entries) t
      (runEntries parser folder o false reportJson t index report entries).files := by
  induction entries generalizing t index report with
  | nil => exact FileTree.changes_refl _ _ t
  | cons e rest ih =>
    let x : EntryTurn := ⟨e, t, runEntry parser t folder o false index e⟩
    let turns := x :: entryTurns parser folder o false x.turn.files (index + 1) rest
    have first : TurnsChange parser folder o reportJson turns t x.turn.files :=
      FileTree.changes_mono (fun _ _ writes => ⟨x, reached_first x _, writes⟩)
        (fun _ makes => ⟨x, reached_first x _, makes⟩) (entry_changes (x := x) rfl)
    -- What is reached behind the first entry is reached in the whole run if the first one goes on.
    by_cases ends : x.Ends reportJson
    · obtain ⟨f, failed, untold⟩ := ends
      rw [entry_ended rfl ⟨f, failed, untold⟩ failed]
      exact first
    · rw [entry_passed rfl ends]
      refine FileTree.changes_trans first (FileTree.changes_mono ?_ ?_ (ih x.turn.files _ _))
      · rintro p bytes ⟨y, reached, writes⟩
        exact ⟨y, reached_later ends reached, writes⟩
      · rintro p ⟨y, reached, makes⟩
        exact ⟨y, reached_later ends reached, makes⟩

end Runs

section Calls

variable {parser : SyntaxCheck} {t : FileTree} {env : Environment}

theorem generate_leaves_files {a : GenerateArgs}
    (idle : a.check = true ∨ ∀ o, effectiveOptions env a.flags = .ok o →
      ∃ c, t.sourceOf parser a.model o = .error c) :
    (run parser t env (.generate a)).files = t := by
  rw [run, outcome_files, run_by_options]
  cases accepted : effectiveOptions env a.flags with
  | error f => rfl
  | ok o =>
    rcases idle with checks | sourceless
    · rw [checks]
      exact generate_checked parser t a.model a.out o
    · obtain ⟨c, missing⟩ := sourceless o accepted
      obtain ⟨-, files, -⟩ := run_without_source missing a.out a.check
      exact files

end Calls

/-- A check leaves everything as it was, and so does the generation of a module if there is no
source for it. A batch run changes the outputs of the entries that it gets to and that have a
source, each to that source, and makes folders above these outputs; all else is as it was. -/
theorem runs_change_outputs_only (parser : SyntaxCheck) (t : FileTree) (env : Environment)
    (args : List String) :
    (∀ verbose a, Invocation.ofArgs args = .ok ⟨verbose, .generate a⟩ →
      (a.check = true ∨ ∀ o, effectiveOptions env a.flags = .ok o →
        ∃ c, t.sourceOf parser a.model o = .error c) →
      (runArgs parser t env args).files = t) ∧
    ∀ verbose a, Invocation.ofArgs args = .ok ⟨verbose, .batch a⟩ →
      (a.check = true → (runArgs parser t env args).files = t) ∧
      ((∀ m o, readManifest t a.manifest = .ok m →
        Options.default.withEnvironment env ≠ .ok o) → (runArgs parser t env args).files = t) ∧
      ∀ m o, a.check = false → readManifest t a.manifest = .ok m →
        Options.default.withEnvironment env = .ok o →
        let folder := manifestFolder a.manifest
        TurnsChange parser folder o a.reportJson (entryTurns parser folder o false t 0 m.entries) t
          (runArgs parser t env args).files := by
  have ran {i : Invocation} (call : Invocation.ofArgs args = .ok i) :
      (runArgs parser t env args).files = (run parser t env i.command).files := by
    simp only [runArgs, call]
  refine ⟨fun verbose a call idle => ?_, fun verbose a call => ?_⟩
  · rw [ran call]
    exact generate_leaves_files idle
  · rw [ran call]
    refine ⟨batch_checked, fun refused => ?_, fun m o writes read accepted => ?_⟩
    · rw [batch_files, runBatch]
      cases read : readManifest t a.manifest with
      | error f => rfl
      | ok m =>
        cases accepted : Options.default.withEnvironment env with
        | error f => rfl
        | ok o => exact absurd accepted (refused m o read)
    · simp only [batch_files, runBatch, read, accepted, writes]
      exact entries_change t 0 Report.clean m.entries

def stoppedBatch : FileTree :=
  batchFolder "[\"m.json\",\"b/c.rs\"],[\"bad.json\",\"p.rs\"],[\"m.json\",\"o.rs\"]"

theorem stopped_batch_changes_outputs :
    let env : Environment := fun _ => none
    let m : Manifest := ⟨"errgen.manifest@0.1.0", [⟨"m.json", "b/c.rs", ⟨none, none, none⟩⟩,
      ⟨"bad.json", "p.rs", ⟨none, none, none⟩⟩, ⟨"m.json", "o.rs", ⟨none, none, none⟩⟩]⟩
    let refused := ["gen", "--model", "bad.json", "--out", "x/p.rs"]
    let checked := ["gen", "--model", "m.json", "--out", "o.rs", "--check"]
    let batch := ["batch", "--manifest", "e.json"]
    (runArgs .byPath stoppedBatch env refused).files = stoppedBatch ∧
      (runArgs .byPath stoppedBatch env checked).files = stoppedBatch ∧
      (runArgs .byPath stoppedBatch env ["batch", "--manifest", "e.json", "--check"]).files =
        stoppedBatch ∧
      (runArgs .byPath stoppedBatch (fun _ => some "x") batch).files = stoppedBatch ∧
      TurnsChange .byPath "" .default false
        (entryTurns .byPath "" .default false stoppedBatch 0 m.entries) stoppedBatch
        (runArgs .byPath stoppedBatch env batch).files := by
  intro env m refused checked batch
  have read : readManifest stoppedBatch "e.json" = .ok m := by decide +kernel
  have accepted : Options.default.withEnvironment env = .ok .default := by decide +kernel
  have rejected : (Options.default.withEnvironment fun _ => some "x").isOk = false := by
    decide +kernel
  have folder : manifestFolder "e.json" = "" := by decide
  have sourceless : (stoppedBatch.sourceOf .byPath "bad.json" .default).isOk = false := by
    decide +kernel
  obtain ⟨one, -⟩ := runs_change_outputs_only .byPath stoppedBatch env refused
  obtain ⟨other, -⟩ := runs_change_outputs_only .byPath stoppedBatch env checked
  obtain ⟨-, still⟩ :=
    runs_change_outputs_only .byPath stoppedBatch env ["batch", "--manifest", "e.json", "--check"]
  obtain ⟨-, idle⟩ := runs_change_outputs_only .byPath stoppedBatch (fun _ => some "x") batch
  obtain ⟨-, all⟩ := runs_change_outputs_only .byPath stoppedBatch env batch
  refine ⟨?_, ?_, ?_, ?_, ?_⟩
  · refine one false ⟨"bad.json", "x/p.rs", false, ⟨none, none, none⟩⟩ (by decide +kernel)
      (.inr fun o chosen => ?_)
    obtain rfl : Options.default = o :=
      Except.ok.inj ((by decide +kernel :
        effectiveOptions env ⟨none, none, none⟩ = .ok .default).symm.trans chosen)
    cases found : stoppedBatch.sourceOf .byPath "bad.json" .default with
    | ok source => rw [found] at sourceless; cases sourceless
    | error c => exact ⟨c, rfl⟩
  · exact other false ⟨"m.json", "o.rs", true, ⟨none, none, none⟩⟩ (by decide +kernel) (.inl rfl)
  · exact (still false ⟨"e.json", true, false⟩ (by decide +kernel)).1 rfl
  · refine (idle false ⟨"e.json", false, false⟩ (by decide +kernel)).2.1 fun m o _ ok => ?_
    rw [ok] at rejected
    cases rejected
  · rw [← folder]
    exact (all false ⟨"e.json", false, false⟩ (by decide +kernel)).2.2 m .default rfl read accepted

end ErrorUnion
