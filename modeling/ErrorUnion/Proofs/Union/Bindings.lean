import ErrorUnion.Proofs.Decl.Variables
import ErrorUnion.Proofs.Generation.Methods

/- The case distinctions among the functions of a combined type. Whether an arm takes its payload is
   chosen apart from its body, and both agree: the payload is bound to `inner` in those arms whose
   text uses this variable. The names that an arm writes, and the path of the runtime, may contain
   the word as well. -/
namespace ErrorUnion
open Text Name

/-- An arm takes its payload exactly if the text of its body uses it. -/
def Binds (arm : Bool × ArmBody) : Prop := arm.1 = true ↔ Uses "inner" arm.2.text

instance (arm : Bool × ArmBody) : Decidable (Binds arm) := inferInstanceAs (Decidable (_ ↔ _))

theorem message_arm_binds (v : Variant) : Binds (CombinedError.messageArm v) := by
  unfold CombinedError.messageArm
  split
  · split <;> decide
  · decide
  · decide

theorem source_arm_binds (v : Variant) : Binds (CombinedError.sourceArm v) := by
  unfold CombinedError.sourceArm
  split <;> decide

theorem quoting_arm_binds {body : ArmBody} {a s b : String} (text : body.text = a ++ quote s ++ b)
    (ending : Ending a)
    (silent : occurs "inner".toList false
      (lexemes .code a.toList ++ .mark :: lexemes .code b.toList) = false) :
    Binds (false, body) := by
  refine iff_of_false Bool.false_ne_true ?_
  rw [text, Uses, lex_around_quote ending, silent]
  exact Bool.false_ne_true

theorem code_arm_binds (v : Variant) : Binds (CombinedError.codeArm v) := by
  unfold CombinedError.codeArm
  split
  · exact quoting_arm_binds (a := "Some(") (b := ")") rfl (fun _ => rfl) (by decide)
  · decide
  · decide

theorem kind_arm_binds {runtime : String} (path : IsPath runtime) (v : Variant) :
    Binds (CombinedError.kindArm runtime v) := by
  unfold CombinedError.kindArm
  split
  · split
    · rename_i kind _
      have text : (Expr.present (.path (CombinedError.kindPath runtime kind))).text.toList =
          "Some(".toList ++
            (runtime ++ "::" ++ ("retry::ErrorKind::" ++ kind.variant ++ ")")).toList := by
        simp [Expr.present, Expr.text, argsText, CombinedError.kindPath, runtimePath]
      have head (rest : List Char) : occurs "inner".toList false
          (lexemes .code ("Some(".toList ++ rest)) =
          occurs "inner".toList false (lexemes .code rest) := rfl
      -- The constant's path begins with that of the runtime, which may have a segment `inner`.
      refine iff_of_false Bool.false_ne_true ?_
      rw [ArmBody.text, Uses, text, head, ← Uses, uses_behind_path path]
      cases kind <;> decide
    · decide
  · have text : (ArmBody.expr (.call (CombinedError.kindTrait runtime ++ "::retryable_error_kind")
          [CombinedError.inner])).text =
        runtime ++ "::" ++ "retry::ProvideErrorKind::retryable_error_kind(inner)" := by
      apply String.toList_injective
      simp [ArmBody.text, Expr.text, argsText, CombinedError.kindTrait, runtimePath,
        CombinedError.inner]
    refine iff_of_true rfl ?_
    rw [text, uses_behind_path path]
    decide
  · decide

def messageLines : String :=
  "if let Some(message) = inner.message() \x7b\n" ++
    "    write!(f, \": \x7b\x7d\", message)?;\n\x7d\nOk(())\n"

theorem message_template_text (ident : String) :
    (CombinedError.armBody ((DisplayTemplate.withMessage ident).stmts CombinedError.inner)).text =
      "f.write_str(" ++ quote ident ++ (")?;\n" ++ messageLines) := by
  have first : lineText 0 ((writeText ident).attempt.text ++ ";") =
      "f.write_str(" ++ quote ident ++ ")?;\n" := by
    rw [lineText, if_neg fun none => by simpa using congrArg String.toList none]
    apply String.toList_injective
    simp [indentation, Expr.text, writeText, argsText]
  have later : marksText 0 (stmtsMarks (((DisplayTemplate.withMessage ident).stmts
      CombinedError.inner).drop 1)) = messageLines := rfl
  calc
    _ = lineText 0 ((writeText ident).attempt.text ++ ";") ++
        marksText 0 (stmtsMarks (((DisplayTemplate.withMessage ident).stmts
          CombinedError.inner).drop 1)) := marks_text_cons ..
    _ = _ := by rw [first, later, String.append_assoc]

theorem display_arm_binds (v : Variant) : Binds (CombinedError.displayArm v) := by
  unfold CombinedError.displayArm
  split
  · rename_i s k _
    dsimp only
    cases DisplayTemplate.of s.name s.hasMessage with
    | withMessage ident =>
      -- The identifier stands in a literal, and the next line asks the payload for its message.
      refine iff_of_true rfl ?_
      rw [message_template_text, Uses, lex_around_quote fun _ => rfl]
      decide
    | nameOnly ident =>
      exact quoting_arm_binds (a := "f.write_str(") (b := ")") rfl (fun _ => rfl) (by decide)
    | renamed ident wire =>
      exact quoting_arm_binds (a := "f.write_str(") (b := ")") rfl (fun _ => rfl) (by decide)
  · decide

def Arm.takes (a : Arm) (v : Value) : Bool := (a.pattern.match? v).isSome

/-- An arm names a variant, and binds the payload exactly if its body uses it. -/
def ArmOf (u : UnionDecl) (v : VariantDecl) (a : Arm) : Prop :=
  a.pattern = .variant u.name v.name (if Uses "inner" a.body.text then some "inner" else none)

/-- A case distinction on the value of a union. -/
structure Dispatches (u : UnionDecl) (subject : Expr) (arms : List Arm) : Prop where
  subject : subject = .var "self"
  each : List.Forall₂ (ArmOf u) u.variants arms
  exhaustive : ∀ v ∈ u.variants, ∀ payload,
    ∃ a ∈ arms, a.takes (.variant u.name v.name payload) = true
  single : (u.variants.map VariantDecl.name).Nodup →
    List.Forall₂ (fun v a => ∀ payload,
      (arms.filter fun b => b.takes (.variant u.name v.name payload)) = [a]) u.variants arms

section Arms
variable {u : UnionDecl} {variants : List VariantDecl} {arms : List Arm}

theorem arm_takes_iff {v : VariantDecl} {a : Arm} (arm : ArmOf u v a) (name : String)
    (payload : Value) : a.takes (.variant u.name name payload) = true ↔ v.name = name := by
  rw [Arm.takes, arm]
  simp [Pattern.match?]

theorem arm_for_variant (each : List.Forall₂ (ArmOf u) variants arms) {v : VariantDecl}
    (member : v ∈ variants) (payload : Value) :
    ∃ a ∈ arms, a.takes (.variant u.name v.name payload) = true := by
  induction each with
  | nil => cases member
  | cons arm _ ih =>
    rcases List.mem_cons.mp member with rfl | later
    · exact ⟨_, List.mem_cons_self, (arm_takes_iff arm _ payload).mpr rfl⟩
    · obtain ⟨a, listed, takes⟩ := ih later
      exact ⟨a, List.mem_cons_of_mem _ listed, takes⟩

theorem no_arm_for_other (each : List.Forall₂ (ArmOf u) variants arms) {name : String}
    (other : name ∉ variants.map VariantDecl.name) (payload : Value) :
    (arms.filter fun a => a.takes (.variant u.name name payload)) = [] := by
  induction each with
  | nil => rfl
  | cons arm _ ih =>
    rw [List.map_cons, List.mem_cons, not_or] at other
    rw [List.filter_cons,
      if_neg fun takes => other.1 ((arm_takes_iff arm _ payload).mp takes).symm]
    exact ih other.2

theorem single_arm_for_variant (each : List.Forall₂ (ArmOf u) variants arms)
    (distinct : (variants.map VariantDecl.name).Nodup) :
    List.Forall₂ (fun v a => ∀ payload,
      (arms.filter fun b => b.takes (.variant u.name v.name payload)) = [a]) variants arms := by
  induction each with
  | nil => exact .nil
  | @cons v a r arms arm later ih =>
    rw [List.map_cons, List.nodup_cons] at distinct
    refine .cons (fun payload => ?_) ?_
    · rw [List.filter_cons, if_pos ((arm_takes_iff arm _ payload).mpr rfl),
        no_arm_for_other later distinct.1]
    · have others : ∀ w ∈ r, v.name ≠ w.name := fun w member same =>
        distinct.1 (same ▸ List.mem_map_of_mem member)
      apply ((List.forall₂_and_left ..).mpr ⟨others, ih distinct.2⟩).imp
      rintro w b ⟨other, only⟩ payload
      rw [List.filter_cons, if_neg fun takes => other ((arm_takes_iff arm _ payload).mp takes)]
      exact only payload

end Arms

theorem arms_of_variants (c : CombinedError) (runtime : String) {arm : Variant → Bool × ArmBody}
    (binds : ∀ v, Binds (arm v)) :
    List.Forall₂ (ArmOf (c.decl runtime)) (c.decl runtime).variants (c.arms arm) := by
  simp only [CombinedError.decl, CombinedError.arms, List.forall₂_map_left_iff,
    List.forall₂_map_right_iff, List.forall₂_same]
  intro v _
  rw [ArmOf, variant_decl_name, CombinedError.pattern]
  exact congrArg _ (if_congr (binds v) rfl rfl)

theorem dispatches_by_self (c : CombinedError) (runtime : String) {arm : Variant → Bool × ArmBody}
    (binds : ∀ v, Binds (arm v)) :
    Dispatches (c.decl runtime) (.var "self") (c.arms arm) := by
  have each := arms_of_variants c runtime binds
  exact ⟨rfl, each, fun _ => arm_for_variant each, single_arm_for_variant each⟩

def Function.cases? (f : Function) : Option (Expr × List Arm) :=
  match f.body with
  | .cases subject arms => some (subject, arms)
  | .block _ => none

def Program.caseMethods (p : Program) : List Method :=
  p.methods.filter fun m => m.function.cases?.isSome

namespace CombinedError

theorem case_methods (c : CombinedError) (runtime : String) :
    Program.caseMethods ⟨runtime, c.items runtime⟩ =
      [c.method none c.messageFunction, c.method none c.codeFunction,
       c.method (some (kindTrait runtime)) (c.kindFunction runtime),
       c.method (some displayTrait) c.displayFunction,
       c.method (some errorTrait) c.sourceFunction] := by
  have predicates : (c.predicateTable.filter fun m => m.function.cases?.isSome) = [] := by
    rw [List.filter_eq_nil_iff]
    intro m member
    obtain ⟨v, -, rfl⟩ := List.mem_map.mp member
    exact Bool.false_ne_true
  rw [Program.caseMethods, Program.methods, methods_of_items, List.filter_append,
    List.filter_append, predicates]
  rfl

end CombinedError

/-- Every case distinction of a combined type goes through the variants of the emitted union in
their order, and binds the payload in those arms that use it. -/
theorem arms_follow_variants {set : ErrorSet} {runtime : String}
    (operation : set.operation.ident ≠ "") (errors : ∀ e ∈ set.errors, e.name.ident ≠ "")
    (path : IsPath runtime) (classifier : Classifier) :
    ∃ c, set.combine classifier = .ok c ∧
      let program : Program := ⟨runtime, c.items runtime⟩
      program.unions = [c.decl runtime] ∧
      program.caseMethods.map (fun m => (m.trait, m.function.name)) =
        [(none, "message"), (none, "code"),
         (some (runtime ++ "::" ++ "retry::ProvideErrorKind"), "retryable_error_kind"),
         (some "std::fmt::Display", "fmt"), (some "std::error::Error", "source")] ∧
      ∀ m ∈ program.caseMethods, ∀ subject arms, m.function.body = .cases subject arms →
        Dispatches (c.decl runtime) subject arms := by
  have named := (empty_ident_none_iff set).mpr ⟨operation, errors⟩
  refine ⟨_, combine_ok named classifier, rfl, ?methods, ?dispatch⟩
  case methods =>
    rw [CombinedError.case_methods]
    rfl
  case dispatch =>
    intro m member subject arms body
    rw [CombinedError.case_methods] at member
    simp only [List.mem_cons, List.not_mem_nil, or_false] at member
    rcases member with rfl | rfl | rfl | rfl | rfl <;> cases body
    · exact dispatches_by_self _ runtime message_arm_binds
    · exact dispatches_by_self _ runtime code_arm_binds
    · exact dispatches_by_self _ runtime (kind_arm_binds path)
    · exact dispatches_by_self _ runtime display_arm_binds
    · exact dispatches_by_self _ runtime source_arm_binds

def innerErrors : ErrorSet where
  operation := ⟨"inner", "inner"⟩
  documentation := none
  errors :=
    [⟨⟨"x(inner)\"", "inner"⟩, .client, true, true, none, true, ⟨"inner", "inner"⟩⟩,
     ⟨⟨"Plain", "Plain"⟩, .server, false, false, none, true, ⟨"Plain", "plain"⟩⟩]

theorem inner_errors_dispatched :
    let c := innerErrors.combinedOf RetryPolicy.faultSide.classify
    innerErrors.combine RetryPolicy.faultSide.classify = .ok c ∧
      ((c.decl "inner::inner").variants.map VariantDecl.name =
        ["inner", "Plain", "Generic", "Unhandled"]) ∧
      ((c.arms CombinedError.displayArm).map fun a => a.pattern.text) =
        ["innerError::inner(_)", "innerError::Plain(inner)", "innerError::Generic(inner)",
         "innerError::Unhandled(inner)"] ∧
      ((c.arms (CombinedError.kindArm "inner::inner")).map fun a => a.pattern.text) =
        ["innerError::inner(_)", "innerError::Plain(_)", "innerError::Generic(inner)",
         "innerError::Unhandled(_)"] ∧
      ∀ m ∈ Program.caseMethods ⟨"inner::inner", c.items "inner::inner"⟩, ∀ subject arms,
        m.function.body = .cases subject arms →
          Dispatches (c.decl "inner::inner") subject arms := by
  have operation : innerErrors.operation.ident ≠ "" := by decide
  have path : IsPath "inner::inner" :=
    crate_path_is_path ((crate_path_fault_none_iff _).mp (by decide))
  obtain ⟨c, done, -, -, dispatches⟩ :=
    arms_follow_variants operation (by decide) path RetryPolicy.faultSide.classify
  have combined : innerErrors.combine RetryPolicy.faultSide.classify =
      .ok (innerErrors.combinedOf RetryPolicy.faultSide.classify) := rfl
  obtain rfl := Except.ok.inj (combined.symm.trans done)
  exact ⟨combined, rfl, by decide, by decide, dispatches⟩

end ErrorUnion
