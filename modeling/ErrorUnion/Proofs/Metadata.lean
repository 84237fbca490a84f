import Mathlib.Data.List.Induction
import ErrorUnion.Metadata

/- What a builder of metadata keeps. A call writes one field, so that a field holds what the last
   call for it gave, and calls for different fields may change places. -/
namespace ErrorUnion
open Text

inductive MetadataField where
  | code
  | message
  | retryKind
deriving DecidableEq

namespace MetadataCall

def field : MetadataCall → MetadataField
  | code _ => .code
  | setCode _ => .code
  | message _ => .message
  | setMessage _ => .message
  | retryKind _ => .retryKind

def givenCode? : MetadataCall → Option (Option String)
  | code c => some (some c)
  | setCode c => some c
  | _ => none

def givenMessage? : MetadataCall → Option (Option String)
  | message t => some (some t)
  | setMessage t => some t
  | _ => none

/-- A category is never taken back. -/
def givenKind? : MetadataCall → Option (Option RetryKind)
  | retryKind k => some (some k)
  | _ => none

/-- What is given by the last call that gives something, and nothing without such a call. -/
def last (given? : MetadataCall → Option (Option α)) (calls : List MetadataCall) : Option α :=
  (calls.filterMap given?).getLast?.join

end MetadataCall

open MetadataCall

def Metadata.ofCalls (calls : List MetadataCall) : Metadata :=
  (calls.foldl MetadataCall.run .empty).build

def Metadata.parts (m : Metadata) : List String := m.code.toList ++ m.message.toList

namespace MetadataCall

theorem run_fields (b : MetadataBuilder) (c : MetadataCall) :
    c.run b = ⟨c.givenCode?.getD b.code, c.givenMessage?.getD b.message,
      c.givenKind?.getD b.retryKind⟩ := by
  cases c <;> rfl

theorem given_apart (c : MetadataCall) :
    (c.field ≠ .code → c.givenCode? = none) ∧ (c.field ≠ .message → c.givenMessage? = none) ∧
      (c.field ≠ .retryKind → c.givenKind? = none) := by
  cases c <;> simp [field, givenCode?, givenMessage?, givenKind?]

theorem given_comm {given other : Option α} (held : α) (alone : given = none ∨ other = none) :
    other.getD (given.getD held) = given.getD (other.getD held) := by
  rcases alone with rfl | rfl
  · rfl
  · rfl

theorem run_comm (b : MetadataBuilder) {c d : MetadataCall} (apart : c.field ≠ d.field) :
    d.run (c.run b) = c.run (d.run b) := by
  have other : ∀ f, c.field ≠ f ∨ d.field ≠ f := by
    intro f
    by_cases own : c.field = f
    · exact Or.inr fun same => apart (own.trans same.symm)
    · exact Or.inl own
  have code := (other .code).imp (given_apart c).1 (given_apart d).1
  have message := (other .message).imp (given_apart c).2.1 (given_apart d).2.1
  have kind := (other .retryKind).imp (given_apart c).2.2 (given_apart d).2.2
  simp only [run_fields, given_comm b.code code, given_comm b.message message,
    given_comm b.retryKind kind]

theorem last_append (given? : MetadataCall → Option (Option α)) (calls : List MetadataCall)
    (c : MetadataCall) : last given? (calls ++ [c]) = (given? c).getD (last given? calls) := by
  cases given : given? c <;> simp [last, given]

theorem builder_of_calls (calls : List MetadataCall) :
    calls.foldl run .empty =
      ⟨last givenCode? calls, last givenMessage? calls, last givenKind? calls⟩ := by
  -- From the last call on, since it decides about what it gives.
  induction calls using List.reverseRecOn with
  | nil => rfl
  | append_singleton calls c ih =>
    rw [List.foldl_append, ih, List.foldl_cons, List.foldl_nil, run_fields]
    simp only [last_append]

theorem last_of_field {given? : MetadataCall → Option (Option α)} {f : MetadataField}
    (only : ∀ c : MetadataCall, c.field ≠ f → given? c = none) (calls : List MetadataCall) :
    last given? (calls.filter fun c => c.field = f) = last given? calls := by
  have same : (fun c : MetadataCall => if decide (c.field = f) = true then given? c else none) =
      given? := by
    funext c
    by_cases own : c.field = f
    · simp [own]
    · simp [own, only c own]
  rw [last, List.filterMap_filter, same, last]

theorem last_of_same {given? : MetadataCall → Option (Option α)} {f : MetadataField}
    (only : ∀ c : MetadataCall, c.field ≠ f → given? c = none) {calls other : List MetadataCall}
    (same : (other.filter fun c => c.field = f) = calls.filter fun c => c.field = f) :
    last given? other = last given? calls := by
  rw [← last_of_field only other, same, last_of_field only calls]

end MetadataCall

theorem metadata_of_calls (calls : List MetadataCall) :
    Metadata.ofCalls calls =
      ⟨last givenCode? calls, last givenMessage? calls, last givenKind? calls⟩ := by
  rw [Metadata.ofCalls, builder_of_calls]
  rfl

theorem metadata_of_same_calls {calls other : List MetadataCall}
    (same : ∀ f, (other.filter fun c => c.field = f) = calls.filter fun c => c.field = f) :
    Metadata.ofCalls other = Metadata.ofCalls calls := by
  have code := last_of_same (fun c => (given_apart c).1) (same .code)
  have message := last_of_same (fun c => (given_apart c).2.1) (same .message)
  have kind := last_of_same (fun c => (given_apart c).2.2) (same .retryKind)
  rw [metadata_of_calls, metadata_of_calls, code, message, kind]

theorem display_of_parts (m : Metadata) :
    m.display = if m.parts = [] then "unknown error" else joinWith ": " m.parts := by
  obtain ⟨code, message, kind⟩ := m
  cases code <;> cases message <;> rfl

/-- After any calls on a new builder the built metadata has in each field what the last call for it
gave, by its own accessors as by those that all errors have. It shows the parts that are set and no
others. Calls for different fields commute on every builder, so that all that matters is which calls
there are for each field, in their order. -/
theorem metadata_follows_calls (calls : List MetadataCall) :
    let built := Metadata.ofCalls calls
    built.code = last givenCode? calls ∧ built.message = last givenMessage? calls ∧
    built.kindView = ⟨last givenKind? calls, built.code⟩ ∧
    built.display = (if built.parts = [] then "unknown error" else joinWith ": " built.parts) ∧
    (∀ (b : MetadataBuilder) (c d : MetadataCall), c.field ≠ d.field →
      d.run (c.run b) = c.run (d.run b)) ∧
    ∀ other : List MetadataCall,
      (∀ f, (other.filter fun c => c.field = f) = calls.filter fun c => c.field = f) →
      Metadata.ofCalls other = built := by
  refine ⟨?_, ?_, ?_, display_of_parts _, fun b c d => run_comm b, fun other =>
    metadata_of_same_calls⟩
  · rw [metadata_of_calls]
  · rw [metadata_of_calls]
  · rw [metadata_of_calls, Metadata.kindView]

def throttledCalls : List MetadataCall :=
  [.code "Throttled", .message "wait", .retryKind .throttling, .setCode none, .message "slow down"]

theorem throttled_calls_followed :
    (Metadata.ofCalls throttledCalls).code = none ∧
      (Metadata.ofCalls throttledCalls).kindView = ⟨some .throttling, none⟩ ∧
      (Metadata.ofCalls throttledCalls).display = "slow down" ∧
      MetadataCall.run (MetadataCall.run .empty (.code "Throttled")) (.message "wait") =
        MetadataCall.run (MetadataCall.run .empty (.message "wait")) (.code "Throttled") ∧
      Metadata.ofCalls [.message "wait", .message "slow down", .retryKind .throttling,
        .code "Throttled", .setCode none] = Metadata.ofCalls throttledCalls := by
  obtain ⟨code, message, view, shown, commute, reordered⟩ := metadata_follows_calls throttledCalls
  refine ⟨code, view, shown, ?_, ?_⟩
  · exact commute .empty (.code "Throttled") (.message "wait") (by decide)
  · apply reordered
    intro f
    cases f <;> rfl

end ErrorUnion
