import Mathlib.Data.List.Basic
import Mathlib.Data.List.Forall2
import Mathlib.Data.List.Nodup

/- Loops that take one thing after the other with those before it in view. Keys are fresh if each of
   them is new to such a loop, and a lookup by a key can then end in one place only. A check that
   stops at the first fault finds a fact about the list: its first place where the check fails. -/
namespace ErrorUnion

/-- Keys that a loop may meet one by one when it has `seen` some others before. -/
def FreshKeys (seen keys : List String) : Prop := keys.Nodup ∧ ∀ k ∈ keys, k ∉ seen

theorem fresh_keys_nil (seen : List String) : FreshKeys seen [] := by simp [FreshKeys]

theorem fresh_keys_cons (seen : List String) (k : String) (keys : List String) :
    FreshKeys seen (k :: keys) ↔ k ∉ seen ∧ FreshKeys (k :: seen) keys := by
  simp only [FreshKeys, List.nodup_cons, List.mem_cons, forall_eq_or_imp, not_or]
  constructor
  · rintro ⟨⟨absent, distinct⟩, fresh, later⟩
    exact ⟨fresh, distinct, fun x hx => ⟨fun same => absent (same ▸ hx), later x hx⟩⟩
  · rintro ⟨fresh, distinct, later⟩
    exact ⟨⟨fun member => (later k member).1 rfl, distinct⟩, fresh, fun x hx => (later x hx).2⟩

theorem fresh_keys_of_none_seen (keys : List String) : FreshKeys [] keys ↔ keys.Nodup := by
  simp [FreshKeys]

theorem find_of_unique {q : α → Bool} {xs : List α} {x : α} (member : x ∈ xs)
    (hit : q x = true) (only : ∀ y ∈ xs, q y = true → y = x) : xs.find? q = some x := by
  cases found : xs.find? q with
  | none => exact absurd hit (List.find?_eq_none.mp found x member)
  | some y => rw [only y (List.mem_of_find?_eq_some found) (List.find?_some found)]

theorem lookup_of_unique {key : α → String} {value : α → β} {xs : List α} {x : α}
    (distinct : (xs.map key).Nodup) (member : x ∈ xs) :
    (xs.map fun y => (key y, value y)).lookup (key x) = some (value x) := by
  induction xs with
  | nil => cases member
  | cons y r ih =>
    rw [List.map_cons, List.nodup_cons] at distinct
    rcases List.mem_cons.mp member with rfl | later
    · simp
    · have other : (key x == key y) = false := by
        rw [beq_eq_false_iff_ne]
        intro same
        exact distinct.1 (same ▸ List.mem_map_of_mem later)
      rw [List.map_cons, List.lookup_cons, other]
      exact ih distinct.2 later

theorem bind_ok_iff (x : Except ε α) (next : α → Except ε β) (b : β) :
    (x >>= next) = .ok b ↔ ∃ a, x = .ok a ∧ next a = .ok b := by
  cases x <;> simp [bind, Except.bind]

theorem map_m_ok_iff {f : α → Except ε β} {xs : List α} {ys : List β} :
    xs.mapM f = .ok ys ↔ List.Forall₂ (fun x y => f x = .ok y) xs ys := by
  induction xs generalizing ys with
  | nil => simp [pure, Except.pure, eq_comm]
  | cons x r ih =>
    simp only [List.mapM_cons, bind_ok_iff, ih, List.forall₂_cons_left_iff]
    constructor
    · rintro ⟨y, here, rest, later, done⟩
      cases done
      exact ⟨y, rest, here, later, rfl⟩
    · rintro ⟨y, rest, here, later, rfl⟩
      exact ⟨y, here, rest, later, rfl⟩

theorem map_m_error_iff {f : α → Except ε β} {fault? : α → Option ε} {xs : List α}
    (each : ∀ x ∈ xs, ∀ e, f x = .error e ↔ fault? x = some e) (e : ε) :
    xs.mapM f = .error e ↔ xs.findSome? fault? = some e := by
  induction xs with
  | nil => simp [pure, Except.pure]
  | cons x r ih =>
    rw [List.forall_mem_cons] at each
    rw [List.mapM_cons, List.findSome?_cons]
    cases here : f x with
    | error d =>
      rw [(each.1 d).mp here]
      simp [bind, Except.bind]
    | ok y =>
      have passed : fault? x = none := by
        rw [Option.eq_none_iff_forall_ne_some]
        intro d fails
        rw [(each.1 d).mpr fails] at here
        cases here
      rw [passed, ← ih each.2]
      cases r.mapM f <;> simp [bind, Except.bind, pure, Except.pure]

/-- Stops at the first fault; `seen` are those that have been checked already. -/
def firstFault? (fault? : List α → α → Option ε) : List α → List α → Option ε
  | _, [] => none
  | seen, x :: r => (fault? seen x).or (firstFault? fault? (seen ++ [x]) r)

def Faultless (fault? : List α → α → Option ε) (xs : List α) : Prop :=
  ∀ before x after, xs = before ++ x :: after → fault? before x = none

theorem faultless_nil (fault? : List α → α → Option ε) : Faultless fault? [] := by
  intro before x after split
  simp at split

theorem faultless_cons (fault? : List α → α → Option ε) (x : α) (r : List α) :
    Faultless fault? (x :: r) ↔
      fault? [] x = none ∧ Faultless (fun before => fault? (x :: before)) r := by
  constructor
  · intro all
    exact ⟨all [] x r rfl, fun before y after split => all (x :: before) y after (by simp [split])⟩
  · rintro ⟨first, rest⟩ before y after split
    rcases List.cons_eq_append_iff.mp split with ⟨rfl, head⟩ | ⟨b, rfl, tail⟩
    · rw [(List.cons.inj head).1]
      exact first
    · exact rest b y after tail

theorem first_fault_none_iff (fault? : List α → α → Option ε) (seen xs : List α) :
    firstFault? fault? seen xs = none ↔ Faultless (fun before => fault? (seen ++ before)) xs := by
  induction xs generalizing seen with
  | nil => simp [firstFault?, faultless_nil]
  | cons x r ih =>
    simp only [firstFault?, Option.or_eq_none_iff, ih, faultless_cons, List.append_nil,
      List.append_assoc, List.cons_append, List.nil_append]

theorem first_fault_some_iff (fault? : List α → α → Option ε) (seen xs : List α) (f : ε) :
    firstFault? fault? seen xs = some f ↔
      ∃ before x after, xs = before ++ x :: after ∧
        Faultless (fun b => fault? (seen ++ b)) before ∧ fault? (seen ++ before) x = some f := by
  -- What was seen before the list stays in front: it grows while the list gets shorter.
  induction xs generalizing seen with
  | nil => simp [firstFault?]
  | cons x r ih =>
    simp only [firstFault?, Option.or_eq_some_iff, ih]
    constructor
    · rintro (here | ⟨clean, before, y, after, rfl, faultless, there⟩)
      · exact ⟨[], x, r, rfl, faultless_nil _, by simpa using here⟩
      · refine ⟨x :: before, y, after, rfl, (faultless_cons _ _ _).mpr ⟨?_, ?_⟩, ?_⟩
        · simpa using clean
        · simpa using faultless
        · simpa using there
    · rintro ⟨before, y, after, split, faultless, found⟩
      rcases List.cons_eq_append_iff.mp split with ⟨rfl, head⟩ | ⟨b, rfl, tail⟩
      · rw [← (List.cons.inj head).1]
        exact Or.inl (by simpa using found)
      · obtain ⟨clean, rest⟩ := (faultless_cons _ _ _).mp faultless
        refine Or.inr ⟨by simpa using clean, b, y, after, tail, ?_, ?_⟩
        · simpa using rest
        · simpa using found

end ErrorUnion
