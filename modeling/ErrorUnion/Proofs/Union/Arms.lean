import ErrorUnion.Proofs.Generation.Methods
import ErrorUnion.Proofs.Union.Value

/- The arms of case distinctions. Each variant has one arm in every function, which is found by the
   variant's name, and gives what the value should say of itself. -/
namespace ErrorUnion
open Text Name

def armResult (ev : State → Expr → Option (Value × State)) (s : State) :
    ArmBody → Option (Value × State)
  | .expr e => ev s e
  | .block body => evalStmts ev body s

def boundPayload (bound : Bool) (payload : Value) : List (String × Value) :=
  if bound then [("inner", payload)] else []

theorem pattern_match (c : CombinedError) (v : Variant) (bound : Bool) (name : String)
    (payload : Value) :
    (c.pattern v bound).match? (.variant c.name name payload) =
      if v.name = name then some (boundPayload bound payload) else none := by
  cases bound <;> simp [CombinedError.pattern, Pattern.match?, boundPayload]

theorem eval_arms {c : CombinedError} {w : Variant}
    (distinct : (c.variants.map Variant.name).Nodup) (member : w ∈ c.variants)
    (arm : Variant → Bool × ArmBody) (ev : State → Expr → Option (Value × State)) (s : State)
    (payload : Value) :
    evalArms ev (.variant c.name w.name payload) s (c.arms arm) =
      armResult ev { s with locals := boundPayload (arm w).1 payload ++ s.locals } (arm w).2 := by
  unfold CombinedError.arms
  generalize c.variants = variants at distinct member
  induction variants with
  | nil => cases member
  | cons v r ih =>
    rw [List.map_cons, List.nodup_cons] at distinct
    rw [List.map_cons, evalArms, pattern_match]
    -- Variants have different names, so that no arm before that of the variant takes the value.
    rcases List.mem_cons.mp member with rfl | later
    · rw [if_pos rfl]
      cases (arm w).2 <;> rfl
    · have other : v.name ≠ w.name := fun same => distinct.1 (same ▸ List.mem_map_of_mem later)
      rw [if_neg other]
      exact ih distinct.2 later

/-- A function that asks for the variant gives what the variant's arm gives. -/
theorem invoke_by_self {p : Program} {depth : Nat} {c : CombinedError} {w : Variant}
    (distinct : (c.variants.map Variant.name).Nodup) (member : w ∈ c.variants)
    {arm : Variant → Bool × ArmBody} (trait : Option String) {f : Function}
    (params : f.params = [.borrowed]) (body : f.body = c.bySelf arm) {payload x : Value}
    (result : ∀ others written,
      let s : State := ⟨boundPayload (arm w).1 payload ++ others, written⟩
      armResult (p.eval (depth + 1) []) s (arm w).2 = some (x, s)) (s : State) :
    (c.method trait f).invoke (p.eval (depth + 1)) [.variant c.name w.name payload] s =
      some (x, s) := by
  rw [invoke_borrowed params]
  simp only [CombinedError.method, body, CombinedError.bySelf, evalBody, eval_var,
    List.lookup_cons_self, Option.map_some]
  rw [eval_arms distinct member, result]
  rfl

theorem display_by_self {p : Program} (depth : Nat) {c : CombinedError} {w : Variant}
    (distinct : (c.variants.map Variant.name).Nodup) (member : w ∈ c.variants) (payload : Value)
    (s : State) :
    (c.method (some displayTrait) c.displayFunction).invoke (p.eval (depth + 1))
        [.variant c.name w.name payload, .formatter] s =
      (armResult (p.eval (depth + 1) []) ⟨boundPayload (CombinedError.displayArm w).1 payload ++
          [("self", .variant c.name w.name payload), ("f", .formatter)], s.written⟩
          (CombinedError.displayArm w).2).map fun (v, t) =>
        (v, { s with written := t.written }) := by
  rw [invoke_with_formatter rfl]
  simp only [CombinedError.method, CombinedError.displayFunction, Function.withVisibility,
    Function.method, CombinedError.bySelf, evalBody, eval_var, List.lookup_cons_self,
    Option.map_some]
  rw [eval_arms distinct member]

section Variants
variable {m : Model} {rename : Bool} {classifier : Classifier} {runtime : String}

theorem shape_listed (sound : m.Sound) {o : Operation} {s : Structure} {fault : FaultSide}
    (declared : s ∈ m.structures) (listed : s.name ∈ o.errors)
    (side : s.fault = some fault) (p : SymbolProvider) :
    s.shape (p.structureName s) fault ∈ (o.errorSetIn m p).errors := by
  refine List.mem_filterMap.mpr ⟨s.name, listed, ?_⟩
  simp only [Model.declaredShape?, structure_found sound.structureNames declared,
    Option.bind_some, side, Option.map_some]

theorem shapes_nodup (sound : m.Sound) {o : Operation} (declared : o ∈ m.operations)
    (p : SymbolProvider) : (o.errorSetIn m p).errors.Nodup := by
  refine List.Nodup.filterMap ?_ (sound.operations o declared).distinct
  intro wire other e first second
  exact (declared_shape_wire first).symm.trans (declared_shape_wire second)

theorem shape_known_by (key : ShapeName → String) {p : SymbolProvider} {o : Operation}
    (distinct : (m.structures.map fun s => key (p.structureName s)).Nodup) {x y : ErrorShape}
    (hx : x ∈ (o.errorSetIn m p).errors) (hy : y ∈ (o.errorSetIn m p).errors)
    (same : key x.name = key y.name) : x = y := by
  obtain ⟨s, fault, hs, -, side, rfl⟩ := shape_of_listed_error hx
  obtain ⟨t, other, ht, -, back, rfl⟩ := shape_of_listed_error hy
  obtain rfl := List.inj_on_of_nodup_map distinct hs ht same
  rw [Option.some.inj (side.symm.trans back)]

theorem shapes_distinct (sound : m.Sound) (resolvable : m.Resolvable (.standard rename) runtime)
    {o : Operation} (declared : o ∈ m.operations) :
    ((o.errorSetIn m (.standard rename)).errors.map fun e => e.name.ident).Nodup := by
  have idents := ((types_nodup_iff _ m).mp resolvable.types).1
  exact List.Nodup.map_on (fun _ hx _ hy => shape_known_by ShapeName.ident idents hx hy)
    (shapes_nodup sound declared _)

theorem shape_unreserved {p : SymbolProvider} (resolvable : m.Resolvable p runtime) {o : Operation}
    {e : ErrorShape} (member : e ∈ (o.errorSetIn m p).errors) :
    e.name.ident ∉ reservedVariants := by
  obtain ⟨s, fault, declared, -, side, rfl⟩ := shape_of_listed_error member
  exact (resolvable.allowed s declared).variant (by simp [Structure.isError, side])

theorem variants_distinct (sound : m.Sound) (resolvable : m.Resolvable (.standard rename) runtime)
    {c : CombinedError} (listed : c ∈ m.unions (.standard rename) classifier) :
    (c.variants.map Variant.name).Nodup := by
  obtain ⟨o, declared, rfl⟩ := List.mem_map.mp listed
  simp only [Operation.unionIn, ErrorSet.combinedOf, List.map_append, List.map_map]
  rw [List.nodup_append']
  refine ⟨shapes_distinct sound resolvable declared, by decide, ?_⟩
  intro name shape fallback
  obtain ⟨e, error, rfl⟩ := List.mem_map.mp shape
  exact shape_unreserved resolvable error fallback

theorem value_type (e : ErrorValue) (p : SymbolProvider) (union : String) :
    (e.value p union).typeName? = some union := by
  cases e <;> rfl

theorem value_is_variant (e : ErrorValue) (p : SymbolProvider) (classifier : Classifier)
    (union : String) :
    e.value p union = .variant union (e.variant p classifier).name (e.payload p) := by
  cases e <;> rfl

theorem variant_listed (sound : m.Sound) {o : Operation} {e : ErrorValue} (fits : e.Of m o)
    (p : SymbolProvider) (classifier : Classifier) :
    e.variant p classifier ∈ (o.unionIn m p classifier).variants := by
  cases fits with
  | @shape s fault members declared listed side typed =>
    exact List.mem_append_left _
      (List.mem_map_of_mem (shape_listed sound declared listed side p))
  | generic x => exact List.mem_append_right _ List.mem_cons_self
  | unhandled t => exact List.mem_append_right _ (List.mem_cons_of_mem _ List.mem_cons_self)

end Variants

theorem message_member {s : Structure} {a : Member} (found : s.messageMember? = some a) :
    a ∈ s.members ∧ a.field = "message" := by
  refine ⟨List.mem_of_find?_eq_some found, ?_⟩
  have name := List.find?_some found
  simp only [Bool.or_eq_true, decide_eq_true_eq] at name
  rcases name with small | capital
  · rw [Member.field, small]
    decide
  · rw [Member.field, capital]
    decide

theorem record_field {s : Structure} (sound : s.Sound) (name : ShapeName)
    (members : Member → Option Value) {a : Member} (member : a ∈ s.members) :
    (s.recordValue name members).field? a.field = some (Value.ofOption id (members a)) :=
  lookup_of_unique sound.fields member

theorem payload_bound (p : Program) (depth : Nat) (payload : Value) (others : List (String × Value))
    (written : String) :
    p.eval (depth + 1) [] ⟨boundPayload true payload ++ others, written⟩ CombinedError.inner =
      some (payload, ⟨boundPayload true payload ++ others, written⟩) := rfl

theorem text_accessor_value {p : Program} {depth : Nat} {a : Member} (target : a.target = .string)
    {record : Value} {x : Option Value} (field : record.field? a.field = some (Value.ofOption id x))
    (typed : ∀ v, x = some v → a.target.Admits v) (type : String) (s : State) :
    (⟨[], type, none, a.accessor⟩ : Method).invoke (p.eval (depth + 3)) [record] s =
      some (Value.ofOption .text (x.bind Value.text?), s) := by
  have body : a.accessor.body = .value (.method a.selfField "as_deref" []) := by
    simp [Member.accessor, Target.isCopy, target, Function.withDocs, Function.method]
  have params : a.accessor.params = [.borrowed] := by
    simp [Member.accessor, Target.isCopy, target, Function.withDocs, Function.method]
  have self : p.eval (depth + 1) [] ⟨[("self", record)], s.written⟩ selfExpr =
      some (record, ⟨[("self", record)], s.written⟩) := rfl
  have read : p.eval (depth + 2) [] ⟨[("self", record)], s.written⟩ a.selfField =
      some (Value.ofOption id x, ⟨[("self", record)], s.written⟩) := by
    rw [Member.selfField, eval_field _ _ _ _ self, field]
    rfl
  apply invoke_value params body
  rw [eval_method _ _ _ _ read]
  cases x with
  | none => rfl
  | some v =>
    have admitted := typed v rfl
    rw [target] at admitted
    cases admitted
    rfl

section Arms
variable {m : Model} {rename : Bool} {classifier : Classifier} {runtime : String}

theorem record_message_called (sound : m.Sound)
    (resolvable : m.Resolvable (.standard rename) runtime) {s : Structure}
    (declared : s ∈ m.structures) (error : s.isError = true) {a : Member}
    (found : s.messageMember? = some a) {members : Member → Option Value}
    (typed : ∀ a ∈ s.members, ∀ v, members a = some v → a.target.Admits v) (depth : Nat)
    (t : State) :
    (m.program (.standard rename) classifier runtime).callMethod
        ((m.program (.standard rename) classifier runtime).eval (depth + 3))
        (s.recordValue ((SymbolProvider.standard rename).structureName s) members) "message" [] t =
      some (Value.ofOption .text ((members a).bind Value.text?), t) := by
  obtain ⟨member, field⟩ := message_member found
  have structure_ := sound.structures s declared
  have accessor := accessor_found classifier sound resolvable declared member
  rw [field] at accessor
  have record : (Structure.recordValue s ((SymbolProvider.standard rename).structureName s)
      members).typeName? = some ((SymbolProvider.standard rename).structureName s).ident := rfl
  rw [call_method_own record accessor]
  exact text_accessor_value (structure_.message a found error)
    (record_field structure_ _ members member) (typed a member) _ t

theorem message_arm (sound : m.Sound) (resolvable : m.Resolvable (.standard rename) runtime)
    {o : Operation} {e : ErrorValue} (fits : e.Of m o) (depth : Nat)
    (others : List (String × Value)) (written : String) :
    let arm := CombinedError.messageArm (e.variant (.standard rename) classifier)
    let s : State := ⟨boundPayload arm.1 (e.payload (.standard rename)) ++ others, written⟩
    armResult ((m.program (.standard rename) classifier runtime).eval (depth + 4) []) s arm.2 =
      some (Value.ofOption .text e.message, s) := by
  cases fits with
  | @shape s fault members declared listed side typed =>
    cases found : s.messageMember? with
    | none =>
      have plain : (s.shape ((SymbolProvider.standard rename).structureName s) fault).hasMessage =
          false := by simp [Structure.shape, found]
      simp only [CombinedError.messageArm, ErrorValue.variant, ErrorShape.variant, plain,
        ErrorValue.message, found]
      rfl
    | some a =>
      have reads : (s.shape ((SymbolProvider.standard rename).structureName s) fault).hasMessage =
          true := by simp [Structure.shape, found]
      simp only [CombinedError.messageArm, ErrorValue.variant, ErrorShape.variant, reads,
        ErrorValue.message, found, if_true, Option.bind_some, armResult]
      rw [eval_method _ _ _ _ (payload_bound _ _ _ _ _)]
      exact record_message_called sound resolvable declared (by simp [Structure.isError, side])
        found typed depth _
  | generic x => rfl
  | unhandled t => rfl

theorem code_arm (p : Program) (provider : SymbolProvider) (e : ErrorValue) (depth : Nat)
    (others : List (String × Value)) (written : String) :
    let arm := CombinedError.codeArm (e.variant provider classifier)
    let s : State := ⟨boundPayload arm.1 (e.payload provider) ++ others, written⟩
    armResult (p.eval (depth + 2) []) s arm.2 = some (Value.ofOption .text e.code, s) := by
  cases e <;> rfl

theorem source_arm (p : Program) (provider : SymbolProvider) (e : ErrorValue) (depth : Nat)
    (others : List (String × Value)) (written : String) :
    let arm := CombinedError.sourceArm (e.variant provider classifier)
    let s : State := ⟨boundPayload arm.1 (e.payload provider) ++ others, written⟩
    armResult (p.eval (depth + 3) []) s arm.2 = some (.present (e.payload provider), s) := by
  cases e <;> rfl

theorem kind_trait_path (p : Program) : CombinedError.kindTrait p.runtime = p.kindTrait := by
  rw [CombinedError.kindTrait, runtimePath, String.append_assoc]
  rfl

theorem kind_variant_injective {k l : RetryKind} (same : k.variant = l.variant) : k = l := by
  cases k <;> cases l <;> first | rfl | exact absurd same (by decide)

theorem kind_constant (p : Program) (k : RetryKind) :
    p.constant? (CombinedError.kindPath p.runtime k) = some (.kind k) := by
  have path : CombinedError.kindPath p.runtime k =
      p.runtime ++ "::retry::ErrorKind::" ++ k.variant := by
    simp only [CombinedError.kindPath, runtimePath, String.append_assoc]
    rfl
  have deep : p.runtime ++ "::retry::ErrorKind::" ++ k.variant ≠ "None" := by
    intro same
    have colon : ':' ∈ "None".toList := by
      rw [← same]
      simp [String.toList_append]
    exact absurd colon (by decide)
  have found : [.transient, .throttling, .server, .client].find? (fun (l : RetryKind) =>
      p.runtime ++ "::retry::ErrorKind::" ++ l.variant =
        p.runtime ++ "::retry::ErrorKind::" ++ k.variant) = some k := by
    apply find_of_unique (by cases k <;> decide) (by simp)
    intro l _ same
    exact kind_variant_injective (by simpa using same)
  rw [path, Program.constant?, if_neg deep, found]
  rfl

theorem kind_arm (p : Program) (provider : SymbolProvider) (e : ErrorValue) (depth : Nat)
    (others : List (String × Value)) (written : String) :
    let arm := CombinedError.kindArm p.runtime (e.variant provider classifier)
    let s : State := ⟨boundPayload arm.1 (e.payload provider) ++ others, written⟩
    armResult (p.eval (depth + 3) []) s arm.2 =
      some (Value.ofOption .kind (e.kind provider classifier), s) := by
  cases e with
  | shape s fault members =>
    simp only [CombinedError.kindArm, ErrorValue.variant, ErrorShape.variant, classify,
      ErrorValue.kind]
    cases classifier (s.shape (provider.structureName s) fault) with
    | none => rfl
    | some k =>
      simp only [armResult]
      rw [eval_present (v := .kind k)]
      · rfl
      · rw [eval_path, kind_constant]
        rfl
  | generic x =>
    simp only [CombinedError.kindArm, ErrorValue.variant, armResult, kind_trait_path]
    rw [eval_call _ _ _ _ _ (payload_bound _ _ _ _ _), call_kind_path]
    rfl
  | unhandled t => rfl

theorem write_text (p : Program) (depth : Nat) {s : State}
    (formatter : s.locals.lookup "f" = some .formatter) (text : String) :
    p.eval (depth + 2) [] s (writeText text) = some (.success .unit, s.write text) := by
  apply eval_write_str
  rw [eval_var, formatter]
  rfl

theorem write_bound_text (p : Program) (depth : Nat) {s : State}
    (formatter : s.locals.lookup "f" = some .formatter) (t : String) :
    p.eval (depth + 3) [] { s with locals := ("message", .text t) :: s.locals }
        (.attempt (.write (.var "f") ": " (.var "message"))) =
      some (.unit, ⟨("message", .text t) :: s.locals, s.written ++ ": " ++ t⟩) := by
  apply eval_attempt
  have bound : List.lookup "f" (("message", Value.text t) :: s.locals) = some .formatter := by
    rw [List.lookup_cons]
    exact formatter
  have target : p.eval (depth + 1) [] { s with locals := ("message", .text t) :: s.locals }
      (.var "f") = some (.formatter, { s with locals := ("message", .text t) :: s.locals }) := by
    rw [eval_var, bound]
    rfl
  rw [eval_write _ _ _ _ target (eval_var p depth [] _ "message")]
  rfl

theorem write_with_message (p : Program) (depth : Nat) {s : State}
    (formatter : s.locals.lookup "f" = some .formatter) {record : Expr} {x : Option String}
    (message : ∀ w, p.eval (depth + 4) [] { s with written := w } (.method record "message" []) =
      some (Value.ofOption .text x, { s with written := w })) (ident : String) :
    evalStmts (p.eval (depth + 4) [])
        ((DisplayTemplate.withMessage ident).stmts record) s =
      some (.success .unit, s.write (ErrorValue.withMessage ident x)) := by
  have head : p.eval (depth + 4) [] s (.attempt (writeText ident)) = some (.unit, s.write ident) :=
    eval_attempt _ _ _ _ (write_text p (depth + 1) formatter ident)
  simp only [DisplayTemplate.stmts, evalStmts, evalStmt, head, Option.map_some, State.write,
    message]
  cases x with
  | none => rfl
  | some t =>
    have tail := write_bound_text p (depth + 1) (s := s.write ident) formatter t
    simp only [Value.ofOption, Pattern.match?, List.cons_append, List.nil_append]
    rw [show depth + 1 + 3 = depth + 4 from rfl] at tail
    simp only [State.write] at tail
    rw [tail]
    simp only [Option.map_some, ErrorValue.withMessage, String.append_assoc]
    rfl

theorem formatter_bound {others : List (String × Value)}
    (formatter : others.lookup "f" = some .formatter) (bound : Bool) (payload : Value) :
    (boundPayload bound payload ++ others).lookup "f" = some .formatter := by
  cases bound with
  | false => exact formatter
  | true =>
    simp only [boundPayload, if_true, List.cons_append, List.nil_append, List.lookup_cons]
    exact formatter

theorem formatter_variable (p : Program) (depth : Nat) {locals : List (String × Value)}
    (formatter : locals.lookup "f" = some .formatter) (written : String) :
    p.eval (depth + 1) [] ⟨locals, written⟩ (.var "f") = some (.formatter, ⟨locals, written⟩) := by
  rw [eval_var, formatter]
  rfl

theorem template_without_message (name : ShapeName) :
    (DisplayTemplate.of name false).readsRecord = false := by
  unfold DisplayTemplate.of
  split <;> rfl

theorem template_reads_message {s : Structure} {name : ShapeName}
    (reads : (s.display name).readsRecord = true) : ∃ a, s.messageMember? = some a := by
  rw [Structure.display] at reads
  cases found : s.messageMember? with
  | none =>
    rw [found, Option.isSome_none, template_without_message] at reads
    cases reads
  | some a => exact ⟨a, rfl⟩

/-- What a template writes for a record with a message or none. -/
def shownBy (message : Option String) : DisplayTemplate → String
  | .withMessage ident => ErrorValue.withMessage ident message
  | .nameOnly ident => ident
  | .renamed ident wire => ident ++ " [" ++ wire ++ "]"

theorem template_writes (p : Program) (depth : Nat) {s : State}
    (formatter : s.locals.lookup "f" = some .formatter) {record : Expr} {message : Option String}
    (t : DisplayTemplate)
    (called : t.readsRecord = true → ∀ w, p.eval (depth + 4) [] { s with written := w }
      (.method record "message" []) =
        some (Value.ofOption .text message, { s with written := w })) :
    evalStmts (p.eval (depth + 4) []) (t.stmts record) s =
      some (.success .unit, s.write (shownBy message t)) := by
  cases t with
  | withMessage ident => exact write_with_message p depth formatter (called rfl) ident
  | nameOnly ident => exact write_text p (depth + 2) formatter _
  | renamed ident wire => exact write_text p (depth + 2) formatter _

theorem arm_body_result (ev : State → Expr → Option (Value × State)) (s : State)
    (stmts : List Stmt) :
    armResult ev s (CombinedError.armBody stmts) = evalStmts ev stmts s := by
  unfold CombinedError.armBody
  split <;> rfl

theorem template_arm (p : Program) (depth : Nat) {others : List (String × Value)}
    (formatter : others.lookup "f" = some .formatter) (written : String) {payload : Value}
    {message : Option String} (t : DisplayTemplate)
    (called : t.readsRecord = true → ∀ s, p.callMethod (p.eval (depth + 3)) payload "message" [] s =
      some (Value.ofOption .text message, s)) :
    armResult (p.eval (depth + 4) []) ⟨boundPayload t.readsRecord payload ++ others, written⟩
        (CombinedError.armBody (t.stmts CombinedError.inner)) =
      some (.success .unit,
        ⟨boundPayload t.readsRecord payload ++ others, written ++ shownBy message t⟩) := by
  rw [arm_body_result]
  apply template_writes p depth (formatter_bound formatter t.readsRecord payload)
  intro reads w
  rw [reads, eval_method _ _ _ _ (payload_bound _ _ _ _ _)]
  exact called reads _

theorem display_by_template (p : SymbolProvider) (s : Structure) (fault : FaultSide)
    (members : Member → Option Value) :
    (ErrorValue.shape s fault members).display p =
      shownBy (ErrorValue.shape s fault members).message
        (DisplayTemplate.of (p.structureName s) s.messageMember?.isSome) := by
  have wire : (p.structureName s).wire = s.name := rfl
  by_cases same : (p.structureName s).ident = s.name
  · have plain : (p.structureName s).isRenamed = false := by
      simp [ShapeName.isRenamed, wire, same]
    cases found : s.messageMember? with
    | none => simp [ErrorValue.display, DisplayTemplate.of, plain, same, shownBy,
        ErrorValue.message, found, ErrorValue.withMessage]
    | some a => simp [ErrorValue.display, DisplayTemplate.of, plain, same, shownBy]
  · have renamed : (p.structureName s).isRenamed = true := by
      simpa [ShapeName.isRenamed, wire] using Ne.symm same
    simp [ErrorValue.display, DisplayTemplate.of, renamed, same, shownBy, wire]

theorem display_arm (sound : m.Sound) (resolvable : m.Resolvable (.standard rename) runtime)
    {o : Operation} {e : ErrorValue} (fits : e.Of m o) (depth : Nat)
    {others : List (String × Value)} (formatter : others.lookup "f" = some .formatter)
    (written : String) :
    let arm := CombinedError.displayArm (e.variant (.standard rename) classifier)
    let s : State := ⟨boundPayload arm.1 (e.payload (.standard rename)) ++ others, written⟩
    armResult ((m.program (.standard rename) classifier runtime).eval (depth + 4) []) s arm.2 =
      some (.success .unit, s.write (e.display (.standard rename))) := by
  cases fits with
  | @shape s fault members declared listed side typed =>
    rw [display_by_template]
    refine template_arm _ depth formatter written _ ?_
    intro reads t
    obtain ⟨a, found⟩ := template_reads_message reads
    rw [ErrorValue.message, found]
    exact record_message_called sound resolvable declared (by simp [Structure.isError, side])
      found typed depth t
  | generic x =>
    have target := formatter_variable (m.program (.standard rename) classifier runtime) (depth + 2)
      (formatter_bound formatter true (.metadata x)) written
    have call := eval_call_with_formatter _ _ _ _ "std::fmt::Display::fmt"
      (payload_bound _ _ _ _ _) target
    exact call
  | unhandled t =>
    have target := formatter_variable (m.program (.standard rename) classifier runtime) (depth + 2)
      (formatter_bound formatter true (.boxed t)) written
    have call := eval_call_with_formatter _ _ _ _ "std::fmt::Display::fmt"
      (payload_bound _ _ _ _ _) target
    exact call

end Arms

end ErrorUnion
