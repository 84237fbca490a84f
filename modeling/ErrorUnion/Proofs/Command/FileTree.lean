import Mathlib.Data.List.Induction
import ErrorUnion.Proofs.Command.Output
import ErrorUnion.Proofs.Command.Path
import ErrorUnion.Proofs.Loop

/- Trees in which everything lies in a folder, and the operations on them along paths in normal
   form: what each of them needs, and which places it changes. -/
namespace ErrorUnion
open ErrorUnion.Path

/-- A tree in which everything lies in a folder, and the working folder is there. -/
structure FileTree.Sound (t : FileTree) : Prop where
  here_folder : t.node? t.here = some .folder
  in_folder : ∀ folder name node, t.node? (folder ++ [name]) = some node →
    t.node? folder = some .folder

def FileTree.start (t : FileTree) (absolute : Bool) : List String := if absolute then [] else t.here

def FileTree.place (t : FileTree) (p : String) : List String := t.start (isAbsolute p) ++ names p

namespace FileTree

theorem lookup_pair (path q : List String) (n : Node) (rest : List (List String × Node)) :
    List.lookup q ((path, n) :: rest) = if q = path then some n else rest.lookup q := by
  by_cases same : q = path
  · simp [same]
  · rw [List.lookup_cons, beq_eq_false_iff_ne.mpr same, if_neg same]

theorem lookup_put_node (path q : List String) (n : Node) (nodes : List (List String × Node)) :
    (putNode path n nodes).lookup q = if q = path then some n else nodes.lookup q := by
  induction nodes with
  | nil => rw [putNode, lookup_pair]
  | cons head rest ih =>
    obtain ⟨p, m⟩ := head
    rw [putNode, lookup_pair]
    by_cases found : p = path
    · rw [if_pos found, lookup_pair, found]
      by_cases same : q = path <;> simp [same]
    · rw [if_neg found, lookup_pair, ih]
      by_cases same : q = p
      · simp [same, found]
      · simp [same]

theorem node_put {path : List String} (some : path ≠ []) (t : FileTree) (n : Node)
    (q : List String) : (t.put path n).node? q = if q = path then .some n else t.node? q := by
  by_cases root : q = []
  · simp [node?, root, Ne.symm some]
  · simp only [node?, put, if_neg root, lookup_put_node]

theorem node_root (t : FileTree) : t.node? [] = some .folder := if_pos rfl

theorem has_folder_iff (t : FileTree) (path : List String) :
    t.hasFolder path = true ↔ t.node? path = some .folder := by
  unfold hasFolder
  split <;> simp_all

theorem find_short {name : String} (short : name.utf8ByteSize ≤ nameLimit) (t : FileTree)
    (folder : List String) : t.find (folder ++ [name]) = .ok (t.node? (folder ++ [name])) := by
  simp [find, Nat.not_lt.mpr short]

theorem find_long {name : String} (long : ¬ name.utf8ByteSize ≤ nameLimit) (t : FileTree)
    (folder : List String) : t.find (folder ++ [name]) = .error .nameTooLong := by
  simp [find, Nat.lt_of_not_le long]

theorem walk_name {name : String} (down : name ≠ "." ∧ name ≠ "..") (t : FileTree)
    (folder rest : List String) :
    t.walk folder (name :: rest) = match t.find (folder ++ [name]) with
      | .error f => .error f
      | .ok none => .error .notFound
      | .ok (some .folder) => t.walk (folder ++ [name]) rest
      | .ok (some _) => .error .notFolder := by
  rcases found : t.find (folder ++ [name]) with f | - | ⟨bytes, access⟩ | ⟨given, access⟩ | -
  all_goals
    simp only [walk, if_neg down.1, if_neg down.2, found]

end FileTree

namespace FileTree

section Places

variable {t : FileTree}

theorem folder_above (sound : t.Sound) {place above : List String} {node : Node}
    (there : t.node? place = some node) (way : above <+: place) (higher : above ≠ place) :
    t.node? above = some .folder := by
  obtain ⟨below, rfl⟩ := way
  -- From the end of the place, since a tree only says of each thing that it lies in a folder.
  induction below using List.reverseRecOn generalizing node with
  | nil => simp at higher
  | append_singleton r name ih =>
    rw [← List.append_assoc] at there
    have folder := sound.in_folder _ _ _ there
    by_cases last : r = []
    · simpa [last] using folder
    · exact ih folder (by simpa using last)

theorem folder_above_folder (sound : t.Sound) {place above : List String}
    (there : t.node? place = some .folder) (way : above <+: place) :
    t.node? above = some .folder := by
  by_cases same : above = place
  · rw [same, there]
  · exact folder_above sound there way same

theorem walk_ok_iff (sound : t.Sound) {folder ns : List String}
    (start : t.node? folder = some .folder) (down : ∀ n ∈ ns, n ≠ "." ∧ n ≠ "..")
    (place : List String) :
    t.walk folder ns = .ok place ↔ place = folder ++ ns ∧
      (∀ n ∈ ns, n.utf8ByteSize ≤ nameLimit) ∧ t.node? (folder ++ ns) = some .folder := by
  -- From the first name, with the folder that the walk has come to.
  induction ns generalizing folder with
  | nil => simp [walk, start, eq_comm]
  | cons n r ih =>
    rw [List.forall_mem_cons] at down
    have deeper : folder ++ n :: r = (folder ++ [n]) ++ r := by simp
    have way : folder ++ [n] <+: folder ++ n :: r := ⟨r, deeper.symm⟩
    rw [walk_name down.1, List.forall_mem_cons]
    by_cases short : n.utf8ByteSize ≤ nameLimit
    · rw [find_short short]
      by_cases there : t.node? (folder ++ [n]) = some .folder
      · simp only [there, ih there down.2, ← deeper, short, true_and]
      · have stops : t.node? (folder ++ n :: r) ≠ some .folder :=
          fun below => there (folder_above_folder sound below way)
        simp only [stops, and_false, iff_false]
        intro walked
        split at walked <;> first | cases walked | skip
        rename_i found
        exact there (Except.ok.inj found)
    · rw [find_long short]
      simp [short]

/-- Nothing but folders is in the way to a folder at this place. -/
def Clear (t : FileTree) (place : List String) : Prop :=
  ∀ above, above <+: place → ∀ node, t.node? above = some node → node = .folder

theorem walk_not_found {folder ns : List String} (down : ∀ n ∈ ns, n ≠ "." ∧ n ≠ "..")
    (short : ∀ n ∈ ns, n.utf8ByteSize ≤ nameLimit) (start : t.node? folder = some .folder)
    (clear : t.Clear (folder ++ ns)) (missing : t.node? (folder ++ ns) ≠ some .folder) :
    t.walk folder ns = .error .notFound := by
  induction ns generalizing folder with
  | nil => simp [start] at missing
  | cons n r ih =>
    rw [List.forall_mem_cons] at down short
    have deeper : folder ++ n :: r = (folder ++ [n]) ++ r := by simp
    rw [deeper] at clear missing
    rw [walk_name down.1, find_short short.1]
    cases there : t.node? (folder ++ [n]) with
    | none => rfl
    | some node =>
      obtain rfl := clear _ (List.prefix_append ..) node there
      exact ih down.2 short.2 there clear missing

theorem not_above_itself (folder : List String) (name : String) :
    ¬ folder ++ [name] <+: folder := by
  intro way
  have length := way.length_le
  rw [List.length_append, List.length_singleton] at length
  omega

/-- The folders down to this place are there, and the rest is as it was. -/
structure Opens (t : FileTree) (place : List String) (u : FileTree) : Prop where
  here : u.here = t.here
  way : ∀ q, q <+: place → u.node? q = some .folder
  rest : ∀ q, ¬ q <+: place → u.node? q = t.node? q

theorem opens_inside {u : FileTree} {folder : List String} (opens : t.Opens folder u)
    (name : String) : u.node? (folder ++ [name]) = t.node? (folder ++ [name]) :=
  opens.rest _ (not_above_itself folder name)

theorem opens_there (sound : t.Sound) {place : List String} (there : t.node? place = some .folder) :
    t.Opens place t :=
  ⟨rfl, fun _ => folder_above_folder sound there, fun _ _ => rfl⟩

theorem opens_put (sound : t.Sound) {folder : List String} {name : String}
    (there : t.node? folder = some .folder) :
    t.Opens (folder ++ [name]) (t.put (folder ++ [name]) .folder) := by
  refine ⟨rfl, fun q way => ?_, fun q other => ?_⟩
  · rw [node_put (by simp)]
    rcases List.prefix_concat_iff.mp way with same | above
    · rw [if_pos same]
    · have higher : q ≠ folder ++ [name] := by
        rintro rfl
        exact not_above_itself folder name above
      rw [if_neg higher, folder_above_folder sound there above]
  · rw [node_put (by simp), if_neg]
    rintro rfl
    exact other (List.prefix_refl _)

theorem opens_below {u v : FileTree} {folder : List String} {name : String}
    (above : t.Opens folder u) (below : u.Opens (folder ++ [name]) v) :
    t.Opens (folder ++ [name]) v := by
  refine ⟨below.here.trans above.here, below.way, fun q other => ?_⟩
  have higher : ¬ q <+: folder := fun way => other (way.trans (List.prefix_append ..))
  rw [below.rest q other, above.rest q higher]

theorem opens_sound {u : FileTree} {place : List String} (sound : t.Sound)
    (opens : t.Opens place u) : u.Sound := by
  constructor
  · rw [opens.here]
    by_cases way : t.here <+: place
    · exact opens.way _ way
    · rw [opens.rest _ way, sound.here_folder]
  · intro folder name node there
    by_cases way : folder <+: place
    · exact opens.way _ way
    · have aside : ¬ folder ++ [name] <+: place :=
        fun below => way ((List.prefix_append ..).trans below)
      rw [opens.rest _ aside] at there
      rw [opens.rest _ way, sound.in_folder _ _ _ there]

theorem clear_below {folder : List String} {name : String} (above : t.Clear folder)
    (last : ∀ node, t.node? (folder ++ [name]) = some node → node = .folder) :
    t.Clear (folder ++ [name]) := by
  intro q way
  rcases List.prefix_concat_iff.mp way with rfl | higher
  · exact last
  · exact above q higher

theorem clear_of_folder (sound : t.Sound) {place : List String}
    (there : t.node? place = some .folder) : t.Clear place := by
  intro q way node found
  rw [folder_above_folder sound there way] at found
  exact (Option.some.inj found).symm

end Places

section Paths

variable {t u : FileTree} {p : String} {absolute : Bool} {ns : List String} {n : String}

theorem start_folder (sound : t.Sound) (absolute : Bool) :
    t.node? (t.start absolute) = some .folder := by
  cases absolute with
  | true => exact t.node_root
  | false => exact sound.here_folder

theorem start_same (here : u.here = t.here) (absolute : Bool) :
    u.start absolute = t.start absolute := by
  rw [start, start, here]

theorem place_same (here : u.here = t.here) (p : String) : u.place p = t.place p := by
  rw [place, place, start_same here]

theorem place_spelled (spells : Spells p absolute ns) : t.place p = t.start absolute ++ ns := by
  rw [place, spelled_absolute spells, spelled_names spells]

theorem place_below {q : String} (spells : Spells p absolute (ns ++ [n]))
    (above : Spells q absolute ns) : t.place p = t.place q ++ [n] := by
  rw [place_spelled spells, place_spelled above, List.append_assoc]

theorem locate_spelled (spells : Spells p absolute (ns ++ [n])) :
    t.locate p =
      if '\x00' ∈ p.toList then .error .nulInName
      else if pathLimit < p.utf8ByteSize then .error .nameTooLong
      else (t.walk (t.start absolute) ns).map fun folder => .entry (folder ++ [n]) false := by
  have down := spelled_leads_down spells n (by simp)
  rw [locate, if_neg (spelled_not_empty spells), spelled_absolute spells, spelled_names spells,
    spelled_no_slash spells]
  simp [down.1, down.2, start]

theorem locate_ok_iff (sound : t.Sound) (spells : Spells p absolute (ns ++ [n])) (x : Place) :
    t.locate p = .ok x ↔ x = .entry (t.place p) false ∧
      '\x00' ∉ p.toList ∧ p.utf8ByteSize ≤ pathLimit ∧
      (∀ m ∈ ns, m.utf8ByteSize ≤ nameLimit) ∧
      t.node? (t.start absolute ++ ns) = some .folder := by
  have walks := walk_ok_iff sound (start_folder sound absolute)
    fun m member => spelled_leads_down spells m (List.mem_append_left _ member)
  rw [locate_spelled spells, place_spelled spells, ← List.append_assoc]
  by_cases nul : '\x00' ∈ p.toList
  · simp [nul]
  · by_cases long : pathLimit < p.utf8ByteSize
    · simp [nul, long, Nat.not_le.mpr long]
    · rw [if_neg nul, if_neg long]
      cases walked : t.walk (t.start absolute) ns with
      | error f =>
        have none := fun facts => (walks _).mpr ⟨rfl, facts⟩
        rw [walked] at none
        simp only [reduceCtorEq, imp_false] at none
        simp [Except.map, none]
      | ok place =>
        obtain ⟨rfl, facts⟩ := (walks place).mp walked
        refine ⟨fun same => ?_, fun same => same.1 ▸ rfl⟩
        exact ⟨(Except.ok.inj same).symm, nul, Nat.not_lt.mp long, facts⟩

theorem fits_spelled (spells : Spells p absolute (ns ++ [n])) :
    Fits p ↔ '\x00' ∉ p.toList ∧ p.utf8ByteSize ≤ pathLimit ∧
      (∀ m ∈ ns, m.utf8ByteSize ≤ nameLimit) ∧ n.utf8ByteSize ≤ nameLimit := by
  have names := spelled_names spells
  constructor
  · rintro ⟨nul, size, short⟩
    rw [names] at short
    exact ⟨nul, size, fun m member => short m (List.mem_append_left _ member), short n (by simp)⟩
  · rintro ⟨nul, size, short, last⟩
    refine ⟨nul, size, fun m member => ?_⟩
    rw [names, List.mem_append, List.mem_singleton] at member
    exact member.elim (short m) fun same => same ▸ last

theorem find_ok_iff (spells : Spells p absolute (ns ++ [n])) (x : Option Node) :
    t.find (t.place p) = .ok x ↔ n.utf8ByteSize ≤ nameLimit ∧ t.node? (t.place p) = x := by
  rw [place_spelled spells, ← List.append_assoc]
  by_cases short : n.utf8ByteSize ≤ nameLimit
  · rw [find_short short]
    simp [short]
  · rw [find_long short]
    simp [short]

theorem look_ok_iff {α : Type} (sound : t.Sound) (spells : Spells p absolute (ns ++ [n]))
    (found : Option Node → Except FileFault α) (x : α) (operation : Place → Except FileFault α)
    (looks : operation (.entry (t.place p) false) = t.find (t.place p) >>= found) :
    (t.locate p >>= operation) = .ok x ↔ Fits p ∧
      t.node? (t.start absolute ++ ns) = some .folder ∧ found (t.node? (t.place p)) = .ok x := by
  simp only [bind_ok_iff, locate_ok_iff sound spells, fits_spelled spells]
  constructor
  · rintro ⟨-, ⟨rfl, nul, size, short, folder⟩, comes⟩
    rw [looks, bind_ok_iff] at comes
    obtain ⟨node, there, comes⟩ := comes
    obtain ⟨last, rfl⟩ := (find_ok_iff spells node).mp there
    exact ⟨⟨nul, size, short, last⟩, folder, comes⟩
  · rintro ⟨⟨nul, size, short, last⟩, folder, comes⟩
    refine ⟨_, ⟨rfl, nul, size, short, folder⟩, ?_⟩
    rw [looks, bind_ok_iff]
    exact ⟨_, (find_ok_iff spells _).mpr ⟨last, rfl⟩, comes⟩

theorem normal_spelled (normal : IsNormal p) :
    ∃ absolute ns n, Spells p absolute (ns ++ [n]) := by
  obtain ⟨absolute, ns, some, spells⟩ := normal
  refine ⟨absolute, ns.dropLast, ns.getLast some, ?_⟩
  rwa [List.dropLast_append_getLast]

def Holds (t : FileTree) (place : List String) (bytes : ByteArray) : Prop :=
  ∃ node, t.node? place = some node ∧ node.read = .ok bytes

theorem holds_same {q : List String} (same : u.node? q = t.node? q) (bytes : ByteArray) :
    u.Holds q bytes ↔ t.Holds q bytes := by
  rw [Holds, Holds, same]

/-- What is at a place, if anything is, is a file that can be read, and no device. -/
def Plain (t : FileTree) (place : List String) : Prop :=
  ∀ node, t.node? place = some node →
    ∃ bytes access, node = .file bytes access ∧ access.reads = true

theorem read_ok_iff (sound : t.Sound) (normal : IsNormal p) (bytes : ByteArray) :
    t.read p = .ok bytes ↔ Fits p ∧ t.Holds (t.place p) bytes := by
  obtain ⟨absolute, ns, n, spells⟩ := normal_spelled normal
  rw [FileTree.read, look_ok_iff sound spells _ _ _ rfl, Holds]
  constructor
  · rintro ⟨fits, folder, comes⟩
    rcases there : t.node? (t.place p) with - | ⟨old, access⟩ | ⟨given, access⟩ | -
    all_goals
      rw [there] at comes
      first | cases comes | exact ⟨fits, _, rfl, comes⟩
  · rintro ⟨fits, node, there, reads⟩
    refine ⟨fits, ?_, ?_⟩
    · rw [place_spelled spells, ← List.append_assoc] at there
      exact sound.in_folder _ _ _ there
    · rw [there]
      cases node with
      | folder => cases reads
      | _ => exact reads

theorem write_ok_iff (sound : t.Sound) (spells : Spells p absolute (ns ++ [n]))
    (bytes : ByteArray) :
    t.write p bytes = .ok u ↔ Fits p ∧ t.node? (t.start absolute ++ ns) = some .folder ∧
      ∃ node, Node.written bytes (t.node? (t.place p)) = .ok node ∧
        u = t.put (t.place p) node := by
  rw [FileTree.write, look_ok_iff sound spells _ _ _ rfl]
  cases Node.written bytes (t.node? (t.place p)) <;>
    simp [bind, Except.bind, pure, Except.pure, eq_comm]

theorem make_folder_ok_iff (sound : t.Sound) (spells : Spells p absolute (ns ++ [n])) :
    t.makeFolder p = .ok u ↔ Fits p ∧ t.node? (t.start absolute ++ ns) = some .folder ∧
      t.node? (t.place p) = none ∧ u = t.put (t.place p) .folder := by
  rw [FileTree.makeFolder, look_ok_iff sound spells _ _ _ rfl]
  rcases t.node? (t.place p) with - | - <;> simp [eq_comm]

theorem is_folder_iff (sound : t.Sound) (spells : Spells p absolute (ns ++ [n])) :
    t.isFolderAt p = true ↔ (∃ x, t.locate p = .ok x) ∧ t.node? (t.place p) = some .folder := by
  unfold isFolderAt
  cases located : t.locate p with
  | error f => simp
  | ok x =>
    obtain ⟨rfl, -⟩ := (locate_ok_iff sound spells x).mp located
    simp [has_folder_iff]

theorem ensure_folder_opens (sound : t.Sound) (spells : Spells p absolute (ns ++ [n]))
    (ensured : t.ensureFolder p = .ok u) : t.Clear (t.place p) ∧ t.Opens (t.place p) u := by
  unfold ensureFolder at ensured
  cases made : t.makeFolder p with
  | ok v =>
    rw [made] at ensured
    cases ensured
    obtain ⟨-, folder, none, rfl⟩ := (make_folder_ok_iff sound spells).mp made
    rw [place_spelled spells, ← List.append_assoc] at none ⊢
    refine ⟨clear_below (clear_of_folder sound folder) fun node found => ?_, opens_put sound folder⟩
    rw [none] at found
    cases found
  | error f =>
    simp only [made] at ensured
    split at ensured
    · rename_i there
      cases ensured
      have folder := ((is_folder_iff sound spells).mp there).2
      exact ⟨clear_of_folder sound folder, opens_there sound folder⟩
    · cases ensured

theorem ensure_folder_there (sound : t.Sound) (spells : Spells p absolute (ns ++ [n]))
    (fits : Fits p) (clear : t.Clear (t.place p))
    (folder : t.node? (t.start absolute ++ ns) = some .folder) :
    ∃ u, t.ensureFolder p = .ok u := by
  unfold ensureFolder
  cases made : t.makeFolder p with
  | ok v => exact ⟨v, rfl⟩
  | error f =>
    obtain ⟨nul, size, short, last⟩ := (fits_spelled spells).mp fits
    have located := (locate_ok_iff sound spells _).mpr ⟨rfl, nul, size, short, folder⟩
    have there : t.node? (t.place p) = some .folder := by
      cases found : t.node? (t.place p) with
      | none =>
        rw [(make_folder_ok_iff sound spells).mpr ⟨fits, folder, found, rfl⟩] at made
        cases made
      | some node => rw [clear _ (List.prefix_refl _) node found]
    exact ⟨t, if_pos ((is_folder_iff sound spells).mpr ⟨⟨_, located⟩, there⟩)⟩

theorem ensure_folder_missing (sound : t.Sound) (spells : Spells p absolute (ns ++ [n]))
    (fits : Fits p) (clear : t.Clear (t.place p))
    (missing : t.node? (t.start absolute ++ ns) ≠ some .folder) :
    t.ensureFolder p = .error .notFound := by
  obtain ⟨nul, size, short, -⟩ := (fits_spelled spells).mp fits
  rw [place_spelled spells, ← List.append_assoc] at clear
  have walked := walk_not_found
    (fun m member => spelled_leads_down spells m (List.mem_append_left _ member)) short
    (start_folder sound absolute) (fun q way => clear q (way.trans (List.prefix_append ..))) missing
  have located : t.locate p = .error .notFound := by
    rw [locate_spelled spells, if_neg nul, if_neg (Nat.not_lt.mpr size), walked]
    rfl
  simp [ensureFolder, makeFolder, isFolderAt, located, bind, Except.bind]

theorem make_folders_start (steps : Nat) (spells : Spells p absolute []) :
    makeFoldersWithin (steps + 1) t p = (t, none) := by
  have chars := spells.text
  cases absolute with
  | true =>
    obtain rfl : p = "/" := String.toList_injective chars
    have located : t.locate "/" = .ok (.folder []) := by
      rw [locate, if_neg (by decide), if_neg (by decide), if_neg (by decide)]
      rfl
    simp [makeFoldersWithin, ensureFolder, makeFolder, isFolderAt, located, bind, Except.bind]
  | false =>
    obtain rfl : p = "" := String.toList_injective chars
    rw [makeFoldersWithin, if_pos rfl]

theorem make_folders_ensured {steps : Nat} (some : p ≠ "") (ensured : t.ensureFolder p = .ok u) :
    makeFoldersWithin (steps + 1) t p = (u, none) := by
  rw [makeFoldersWithin, if_neg some, ensured]

theorem make_folders_above {steps : Nat} {q : String} (some : p ≠ "")
    (parent : parent? p = .some q) (missing : t.ensureFolder p = .error .notFound)
    (above : (makeFoldersWithin steps t q).2 = none) :
    makeFoldersWithin (steps + 1) t p =
      match (makeFoldersWithin steps t q).1.ensureFolder p with
      | .ok u => (u, none)
      | .error f => ((makeFoldersWithin steps t q).1, .some f) := by
  rw [makeFoldersWithin, if_neg some, missing]
  simp only [parent]
  rcases made : makeFoldersWithin steps t q with ⟨v, - | f⟩
  · cases ensured : v.ensureFolder p <;> simp only [ensured]
  · rw [made] at above
    cases above

theorem make_folders_fails {steps : Nat} {q : String} {f : FileFault} (some : p ≠ "")
    (parent : parent? p = .some q) (failed : t.ensureFolder p = .error f)
    (other : f = .notFound → (makeFoldersWithin steps t q).2 ≠ none) :
    (makeFoldersWithin (steps + 1) t p).2 ≠ none := by
  rw [makeFoldersWithin, if_neg some, failed]
  cases f with
  | notFound =>
    simp only [parent]
    rcases above : makeFoldersWithin steps t q with ⟨v, - | f⟩
    · exact absurd (by rw [above]) (other rfl)
    · simp
  | _ => simp

theorem make_folders_opens {steps : Nat} (sound : t.Sound) (spells : Spells p absolute ns)
    (enough : ns.length < steps) (made : (makeFoldersWithin steps t p).2 = none) :
    t.Clear (t.place p) ∧ t.Opens (t.place p) (makeFoldersWithin steps t p).1 := by
  -- On the names from the last one on, as the parent of a path is the path without it.
  induction ns using List.reverseRecOn generalizing p steps with
  | nil =>
    obtain ⟨steps, rfl⟩ := Nat.exists_eq_add_of_lt enough
    have folder := start_folder sound absolute
    rw [make_folders_start _ spells, place_spelled spells, List.append_nil]
    exact ⟨clear_of_folder sound folder, opens_there sound folder⟩
  | append_singleton ns n ih =>
    obtain ⟨steps, rfl⟩ := Nat.exists_eq_add_one_of_ne_zero (Nat.ne_zero_of_lt enough)
    obtain ⟨q, parent, above⟩ := spelled_parent spells
    have some := spelled_not_empty spells
    rw [List.length_append, List.length_singleton] at enough
    cases ensured : t.ensureFolder p with
    | ok u =>
      rw [make_folders_ensured some ensured]
      exact ensure_folder_opens sound spells ensured
    | error f =>
      have first : f = .notFound ∧ (makeFoldersWithin steps t q).2 = none := by
        by_contra other
        exact make_folders_fails some parent ensured (by simpa using other) made
      obtain ⟨rfl, first⟩ := first
      obtain ⟨clear, opens⟩ := ih above (by omega) first
      -- The parent leaves a sound tree in which only places down to it have changed.
      rw [make_folders_above some parent ensured first] at made ⊢
      generalize (makeFoldersWithin steps t q).1 = v at made opens ⊢
      cases last : v.ensureFolder p with
      | error f => rw [last] at made; cases made
      | ok u =>
        obtain ⟨below, opened⟩ := ensure_folder_opens (opens_sound sound opens) spells last
        rw [place_same opens.here, place_below spells above] at below opened
        rw [place_below spells above]
        refine ⟨clear_below clear fun node => ?_, opens_below opens opened⟩
        rw [← opens_inside opens n]
        exact below _ (List.prefix_refl _) node

theorem ensure_folder_opened {q : String} {v : FileTree} (sound : t.Sound)
    (spells : Spells p absolute (ns ++ [n])) (above : Spells q absolute ns) (fits : Fits p)
    (clear : t.Clear (t.place p)) (opens : t.Opens (t.place q) v) :
    ∃ u, v.ensureFolder p = .ok u := by
  have sound' := opens_sound sound opens
  have there : v.node? (t.place q) = some .folder := opens.way _ (List.prefix_refl _)
  rw [place_below spells above] at clear
  refine ensure_folder_there sound' spells fits ?_ ?_
  · rw [place_same opens.here, place_below spells above]
    refine clear_below (clear_of_folder sound' there) fun node => ?_
    rw [opens_inside opens n]
    exact clear _ (List.prefix_refl _) node
  · rw [start_same opens.here, ← place_spelled above]
    exact there

theorem make_folders_clear {steps : Nat} (sound : t.Sound) (spells : Spells p absolute ns)
    (enough : ns.length < steps) (fits : Fits p) (clear : t.Clear (t.place p)) :
    (makeFoldersWithin steps t p).2 = none := by
  induction ns using List.reverseRecOn generalizing p steps with
  | nil =>
    obtain ⟨steps, rfl⟩ := Nat.exists_eq_add_of_lt enough
    rw [make_folders_start _ spells]
  | append_singleton ns n ih =>
    obtain ⟨steps, rfl⟩ := Nat.exists_eq_add_one_of_ne_zero (Nat.ne_zero_of_lt enough)
    obtain ⟨q, parent, above⟩ := spelled_parent spells
    have some := spelled_not_empty spells
    rw [List.length_append, List.length_singleton] at enough
    by_cases folder : t.node? (t.start absolute ++ ns) = .some .folder
    · obtain ⟨u, ensured⟩ := ensure_folder_there sound spells fits clear folder
      rw [make_folders_ensured some ensured]
    · have missing := ensure_folder_missing sound spells fits clear folder
      have enough : ns.length < steps := by omega
      have way : t.Clear (t.place q) := fun r higher =>
        clear r (place_below spells above ▸ higher.trans (List.prefix_append ..))
      have first := ih above enough (fits_parent spells above fits) way
      obtain ⟨-, opens⟩ := make_folders_opens sound above enough first
      obtain ⟨u, ensured⟩ := ensure_folder_opened sound spells above fits clear opens
      rw [make_folders_above some parent missing first, ensured]

/-- A file can be put here: only folders are in the way down to it, and what is in its own place, if
anything is, lets itself be written. -/
structure Free (t : FileTree) (place : List String) : Prop where
  way : ∀ above, above <+: place → above ≠ place → ∀ node, t.node? above = some node →
    node = .folder
  takes : ∀ bytes, ∃ node, Node.written bytes (t.node? place) = .ok node

/-- A file has been written here, in folders down to it, and the rest is as it was. -/
structure Laid (t : FileTree) (place : List String) (bytes : ByteArray) (u : FileTree) : Prop where
  here : u.here = t.here
  left : u.node? place = (Node.written bytes (t.node? place)).toOption
  way : ∀ above, above <+: place → above ≠ place → u.node? above = some .folder
  rest : ∀ q, ¬ q <+: place → u.node? q = t.node? q

section Written

variable {old : Option Node} {bytes : ByteArray} {node : Node}

theorem written_cases (written : Node.written bytes old = .ok node) :
    (old = none ∧ node = .file bytes .full) ∨
    (∃ former access, old = some (.file former access) ∧ access.writes = true ∧
      node = .file bytes access) ∨
    ∃ given access, old = some (.device given access) ∧ access.writes = true ∧
      node = .device given access := by
  rcases old with - | ⟨former, access⟩ | ⟨given, access⟩ | -
  · cases written
    exact Or.inl ⟨rfl, rfl⟩
  · by_cases writes : access.writes = true
    · rw [Node.written, if_pos writes] at written
      cases written
      exact Or.inr (Or.inl ⟨former, access, rfl, writes, rfl⟩)
    · rw [Node.written, if_neg writes] at written
      cases written
  · by_cases writes : access.writes = true
    · rw [Node.written, if_pos writes] at written
      cases written
      exact Or.inr (Or.inr ⟨given, access, rfl, writes, rfl⟩)
    · rw [Node.written, if_neg writes] at written
      cases written
  · cases written

theorem written_any (written : Node.written bytes old = .ok node) (others : ByteArray) :
    ∃ other, Node.written others old = .ok other := by
  obtain ⟨rfl, -⟩ | ⟨former, access, rfl, writes, -⟩ | ⟨given, access, rfl, writes, -⟩ :=
    written_cases written
  · exact ⟨_, rfl⟩
  · exact ⟨_, if_pos writes⟩
  · exact ⟨_, if_pos writes⟩

theorem written_no_folder (written : Node.written bytes old = .ok node) :
    old ≠ some .folder ∧ node ≠ .folder := by
  obtain ⟨rfl, rfl⟩ | ⟨former, access, rfl, -, rfl⟩ | ⟨given, access, rfl, -, rfl⟩ :=
    written_cases written <;> simp

theorem written_plain {place : List String} (plain : t.Plain place)
    (written : Node.written bytes (t.node? place) = .ok node) : node.read = .ok bytes := by
  obtain ⟨-, rfl⟩ | ⟨former, access, there, -, rfl⟩ | ⟨given, access, there, -, -⟩ :=
    written_cases written
  · rfl
  · obtain ⟨_, _, same, reads⟩ := plain _ there
    cases same
    exact if_pos reads
  · obtain ⟨_, _, other, -⟩ := plain _ there
    cases other

end Written

theorem free_iff (folder : List String) (name : String) :
    t.Free (folder ++ [name]) ↔ t.Clear folder ∧
      ∀ bytes, ∃ node, Node.written bytes (t.node? (folder ++ [name])) = .ok node := by
  constructor
  · rintro ⟨way, takes⟩
    refine ⟨fun q above => way q (above.trans (List.prefix_append ..)) ?_, takes⟩
    rintro rfl
    exact not_above_itself _ _ above
  · rintro ⟨clear, takes⟩
    refine ⟨fun q above higher => clear q ?_, takes⟩
    exact (List.prefix_concat_iff.mp above).resolve_left higher

theorem left_holds {place : List String} {bytes : ByteArray} (free : t.Free place)
    (plain : t.Plain place) (left : u.node? place = (Node.written bytes (t.node? place)).toOption) :
    u.Holds place bytes := by
  obtain ⟨node, written⟩ := free.takes bytes
  rw [written] at left
  exact ⟨node, left, written_plain plain written⟩

theorem free_no_folder {place : List String} (free : t.Free place) :
    t.node? place ≠ some .folder := by
  obtain ⟨node, written⟩ := free.takes .empty
  exact (written_no_folder written).1

theorem laid_sound (sound : t.Sound) {place : List String} {bytes : ByteArray}
    (free : t.Free place) (laid : t.Laid place bytes u) : u.Sound := by
  have kept : ∀ q, t.node? q = some .folder → u.node? q = some .folder := by
    intro q folder
    by_cases way : q <+: place
    · exact laid.way q way fun same => free_no_folder free (same ▸ folder)
    · rw [laid.rest q way, folder]
  constructor
  · rw [laid.here]
    exact kept _ sound.here_folder
  · intro folder name node there
    by_cases way : folder ++ [name] <+: place
    · refine laid.way folder ((List.prefix_append ..).trans way) ?_
      rintro rfl
      exact not_above_itself _ _ way
    · rw [laid.rest _ way] at there
      exact kept _ (sound.in_folder _ _ _ there)

theorem make_parents_opens (sound : t.Sound) (spells : Spells p absolute (ns ++ [n]))
    (made : (t.makeParents p).2 = none) :
    t.Clear (t.start absolute ++ ns) ∧ t.Opens (t.start absolute ++ ns) (t.makeParents p).1 := by
  obtain ⟨q, parent, above⟩ := spelled_parent spells
  simp only [makeParents, parent, makeFolders] at made ⊢
  rw [← place_spelled above]
  exact make_folders_opens sound above (Nat.lt_succ_of_le (spelled_length above)) made

theorem make_parents_clear (sound : t.Sound) (spells : Spells p absolute (ns ++ [n]))
    (fits : Fits p) (clear : t.Clear (t.start absolute ++ ns)) : (t.makeParents p).2 = none := by
  obtain ⟨q, parent, above⟩ := spelled_parent spells
  simp only [makeParents, parent, makeFolders]
  rw [← place_spelled above] at clear
  exact make_folders_clear sound above (Nat.lt_succ_of_le (spelled_length above))
    (fits_parent spells above fits) clear

theorem laid_put {folder : List String} {name : String} {bytes : ByteArray} {node : Node}
    (opens : t.Opens folder u)
    (written : Node.written bytes (t.node? (folder ++ [name])) = .ok node) :
    t.Laid (folder ++ [name]) bytes (u.put (folder ++ [name]) node) := by
  refine ⟨opens.here, ?_, fun q above higher => ?_, fun q other => ?_⟩
  · rw [node_put (by simp), if_pos rfl, written]
    rfl
  · rw [node_put (by simp), if_neg higher]
    exact opens.way q ((List.prefix_concat_iff.mp above).resolve_left higher)
  · rw [node_put (by simp), if_neg]
    · exact opens.rest q fun way => other (way.trans (List.prefix_append ..))
    · rintro rfl
      exact other (List.prefix_refl _)

theorem write_output_laid (sound : t.Sound) (normal : IsNormal p) (source : String)
    (clean : (writeOutput t p source).result = .ok .clean) :
    Fits p ∧ t.Free (t.place p) ∧
      t.Laid (t.place p) source.toUTF8 (writeOutput t p source).files := by
  obtain ⟨absolute, ns, n, spells⟩ := normal_spelled normal
  obtain ⟨f, contexts, -, ended⟩ | ⟨made, ⟨f, contexts, -, ended⟩ | ⟨u, notices, written, ended⟩⟩ :=
    write_output_cases t p source
  · rw [ended] at clean
    cases clean
  · rw [ended] at clean
    cases clean
  · obtain ⟨clear, opens⟩ := make_parents_opens sound spells made
    obtain ⟨fits, -, node, takes, rfl⟩ :=
      (write_ok_iff (opens_sound sound opens) spells _).mp written
    have place : t.place p = t.start absolute ++ ns ++ [n] := by
      rw [place_spelled spells, List.append_assoc]
    rw [place_same opens.here, place, opens_inside opens] at takes
    rw [ended, place_same opens.here, place]
    exact ⟨fits, (free_iff _ n).mpr ⟨clear, written_any takes⟩, laid_put opens takes⟩

theorem write_output_free (sound : t.Sound) (normal : IsNormal p) (source : String)
    (fits : Fits p) (free : t.Free (t.place p)) :
    (writeOutput t p source).result = .ok .clean := by
  obtain ⟨absolute, ns, n, spells⟩ := normal_spelled normal
  have place : t.place p = t.start absolute ++ ns ++ [n] := by
    rw [place_spelled spells, List.append_assoc]
  rw [place, free_iff] at free
  have made := make_parents_clear sound spells fits free.1
  obtain ⟨-, opens⟩ := make_parents_opens sound spells made
  have folder := opens.way _ (List.prefix_refl _)
  have takes : ∃ node, Node.written source.toUTF8 ((t.makeParents p).1.node? (t.place p)) =
      .ok node := by
    rw [place, opens_inside opens]
    exact free.2 _
  rw [← start_same opens.here] at folder
  rw [← place_same opens.here] at takes
  obtain ⟨node, takes⟩ := takes
  have written := (write_ok_iff (opens_sound sound opens) spells source.toUTF8).mpr
    ⟨fits, folder, node, takes, rfl⟩
  obtain ⟨f, contexts, failed, -⟩ | ⟨-, ⟨f, contexts, failed, -⟩ | ⟨u, notices, -, ended⟩⟩ :=
    write_output_cases t p source
  · rw [made] at failed
    cases failed
  · rw [written] at failed
    cases failed
  · rw [ended]

theorem write_output_clean_iff (sound : t.Sound) (normal : IsNormal p) (source : String) :
    (writeOutput t p source).result = .ok .clean ↔ Fits p ∧ t.Free (t.place p) := by
  constructor
  · intro clean
    obtain ⟨fits, free, -⟩ := write_output_laid sound normal source clean
    exact ⟨fits, free⟩
  · rintro ⟨fits, free⟩
    exact write_output_free sound normal source fits free

end Paths

end FileTree

end ErrorUnion
