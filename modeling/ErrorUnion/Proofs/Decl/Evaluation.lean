import ErrorUnion.Decl.Meaning
import ErrorUnion.Proofs.Loop

/- How programs are evaluated, form by form: what one more level of depth does to an expression,
   which function a call ends up in, and what an invoked function starts with. -/
namespace ErrorUnion
open Text

theorem eval_all_map {ev : State → Expr → Option (Value × State)} {s : State} {xs : List α}
    {e : α → Expr} {v : α → Value} (each : ∀ x ∈ xs, ev s (e x) = some (v x, s)) :
    evalAll ev s (xs.map e) = some (xs.map v, s) := by
  induction xs with
  | nil => rfl
  | cons x r ih =>
    rw [List.forall_mem_cons] at each
    simp only [List.map_cons, evalAll, each.1, ih each.2, Option.map_some]

section Expressions
variable (p : Program) (depth : Nat) (scope : Scope) (s : State)

-- One level of depth is opened in this section only; behind it these lemmas are all that is used.
attribute [local simp] Program.eval Program.step

theorem eval_var (name : String) :
    p.eval (depth + 1) scope s (.var name) = (s.locals.lookup name).map fun v => (v, s) := rfl

theorem eval_literal (text : String) :
    p.eval (depth + 1) scope s (.literal text) = some (.text text, s) := rfl

theorem eval_path (text : String) :
    p.eval (depth + 1) scope s (.path text) = (p.constant? text).map fun v => (v, s) := rfl

theorem eval_field {object : Expr} {name : String} {v : Value}
    (evaluated : p.eval depth scope s object = some (v, s)) :
    p.eval (depth + 1) scope s (.field object name) = (v.field? name).map fun w => (w, s) := by
  simp [evaluated]

theorem eval_method {object : Expr} {name : String} {v : Value}
    (evaluated : p.eval depth scope s object = some (v, s)) :
    p.eval (depth + 1) scope s (.method object name []) =
      p.callMethod (p.eval depth) v name [] s := by
  simp [evaluated, evalAll]

theorem eval_call (path : String) {arg : Expr} {v : Value}
    (evaluated : p.eval depth scope s arg = some (v, s)) :
    p.eval (depth + 1) scope s (.call path [arg]) = p.call (p.eval depth) path [v] s := by
  simp [evaluated, evalAll]

theorem eval_present {arg : Expr} {v : Value}
    (evaluated : p.eval depth scope s arg = some (v, s)) :
    p.eval (depth + 1) scope s (.present arg) = some (.present v, s) := by
  rw [Expr.present, eval_call p depth scope s "Some" evaluated]
  rfl

theorem eval_call_with_formatter (path : String) {arg target : Expr} {v w : Value}
    (evaluated : p.eval depth scope s arg = some (v, s))
    (formatted : p.eval depth scope s target = some (w, s)) :
    p.eval (depth + 1) scope s (.call path [arg, target]) =
      p.call (p.eval depth) path [v, w] s := by
  simp [evaluated, formatted, evalAll]

theorem eval_write_str {target : Expr} {text : String}
    (formatted : p.eval (depth + 1) scope s target = some (.formatter, s)) :
    p.eval (depth + 2) scope s (.method target "write_str" [.literal text]) =
      some (.success .unit, s.write text) := by
  rw [Program.eval]
  simp only [Program.step, formatted, evalAll, eval_literal, Option.map_some]
  rfl

theorem eval_attempt {e : Expr} {v : Value} {t : State}
    (evaluated : p.eval depth scope s e = some (.success v, t)) :
    p.eval (depth + 1) scope s (.attempt e) = some (v, t) := by
  simp [evaluated]

theorem eval_matches {e : Expr} (pattern : Pattern) {v : Value}
    (evaluated : p.eval depth scope s e = some (v, s)) :
    p.eval (depth + 1) scope s (.matches e pattern) =
      some (.flag (pattern.match? v).isSome, s) := by
  simp [evaluated]

theorem eval_write {target e : Expr} {lead : String} {v : Value}
    (formatted : p.eval depth scope s target = some (.formatter, s))
    (evaluated : p.eval depth scope s e = some (v, s)) :
    p.eval (depth + 1) scope s (.write target lead e) =
      p.display (p.eval depth) v (s.write lead) := by
  simp [formatted, evaluated]

theorem eval_assign {x name : String} {e : Expr} {v w : Value}
    (evaluated : p.eval depth scope s e = some (v, s)) (held : s.locals.lookup x = some w) :
    p.eval (depth + 1) scope s (.assign (.field (.var x) name) e) =
      some (.unit, s.bind x (w.withField name v)) := by
  simp [evaluated, held]

theorem eval_initial {type : String} {v : Value}
    (initial : p.initial? (qualified scope type) = some v) :
    p.eval (depth + 1) scope s (.initial type) = some (v, s) := by
  simp [initial]

theorem eval_record (type : String) {xs : List α} (name : α → String) {e : α → Expr}
    {v : α → Value} (each : ∀ x ∈ xs, p.eval depth scope s (e x) = some (v x, s)) :
    p.eval (depth + 1) scope s (.record type (xs.map fun x => (name x, e x))) =
      some (.record (qualified scope type) (xs.map fun x => (name x, v x)), s) := by
  have values := eval_all_map each
  simp [Function.comp_def, values, List.zip_map']

end Expressions

def builtinPaths : List String := ["Some", "Ok", "std::fmt::Display::fmt"]

theorem not_builtin (head tail : String) (long : 2 ≤ tail.toList.length)
    (apart : ∀ path ∈ builtinPaths, path.toList.reverse.take 2 ≠ tail.toList.reverse.take 2) :
    head ++ tail ∉ builtinPaths := by
  intro member
  apply apart _ member
  rw [String.toList_append, List.reverse_append,
    List.take_append_of_le_length (by rwa [List.length_reverse])]

theorem kind_path_apart (p : Program) (head tail : String) (filled : tail.toList ≠ [])
    (last : tail.toList.getLast? ≠ some 'd') :
    head ++ tail ≠ p.kindTrait ++ "::retryable_error_kind" := by
  intro same
  have chars := congrArg (fun path => path.toList.getLast?) same
  have kind : "::retryable_error_kind".toList ≠ [] := by decide
  simp only [String.toList_append, List.getLast?_append_of_ne_nil _ filled,
    List.getLast?_append_of_ne_nil _ kind] at chars
  exact last chars

section Calls
variable {p : Program} {ev : Evaluator} {s : State}

theorem typed_value {v : Value} {type : String} (typed : v.typeName? = some type) :
    (∃ fields, v = .record type fields) ∨ ∃ name payload, v = .variant type name payload := by
  cases v with
  | record t fields =>
    cases typed
    exact Or.inl ⟨fields, rfl⟩
  | variant u name payload =>
    cases typed
    exact Or.inr ⟨name, payload, rfl⟩
  | _ => cases typed

theorem call_method_own {v : Value} {type name : String} {args : List Value} {m : Method}
    (typed : v.typeName? = some type) (found : p.method? type none name = some m) :
    p.callMethod ev v name args s = m.invoke ev (v :: args) s := by
  have any : p.anyMethod? type name = some m := by
    rw [Program.anyMethod?, found, Option.some_or]
  obtain ⟨fields, rfl⟩ | ⟨variant, payload, rfl⟩ := typed_value typed
  · simp only [Program.callMethod, Value.typeName?, Option.bind_some, any]
  · simp only [Program.callMethod, Value.typeName?, Option.bind_some, any]

theorem call_kind_trait_own {v : Value} {type name : String} {m : Method}
    (typed : v.typeName? = some type) (found : p.method? type (some p.kindTrait) name = some m) :
    p.callKindTrait ev name v s = m.invoke ev [v] s := by
  obtain ⟨fields, rfl⟩ | ⟨variant, payload, rfl⟩ := typed_value typed
  · simp only [Program.callKindTrait, Value.typeName?, Option.bind_some, found]
  · simp only [Program.callKindTrait, Value.typeName?, Option.bind_some, found]

theorem display_own {v : Value} {type : String} {m : Method} (typed : v.typeName? = some type)
    (found : p.method? type (some displayTrait) "fmt" = some m) :
    p.display ev v s = m.invoke ev [v, .formatter] s := by
  obtain ⟨fields, rfl⟩ | ⟨variant, payload, rfl⟩ := typed_value typed
  · simp only [Program.display, Value.typeName?, Option.bind_some, found]
  · simp only [Program.display, Value.typeName?, Option.bind_some, found]

theorem call_not_builtin {path : String} {v : Value} (other : path ∉ builtinPaths) :
    p.call ev path [v] s =
      if path = p.kindTrait ++ "::retryable_error_kind" then
        p.callKindTrait ev "retryable_error_kind" v s
      else match p.variant? path with
        | some (u, name) => some (.variant u name v, s)
        | none => (p.function? path).bind fun m => m.invoke ev [v] s := by
  unfold Program.call
  split
  · exact absurd (by simp [builtinPaths]) other
  · exact absurd (by simp [builtinPaths]) other
  · exact absurd (by simp [builtinPaths]) other
  · rename_i path _ _ _ _ _
    split
    · rfl
    · cases p.variant? path with
      | some found => rfl
      | none => cases p.function? path <;> rfl

theorem call_function {path : String} {v : Value} {m : Method} (other : path ∉ builtinPaths)
    (kind : path ≠ p.kindTrait ++ "::retryable_error_kind") (variant : p.variant? path = none)
    (found : p.function? path = some m) : p.call ev path [v] s = m.invoke ev [v] s := by
  rw [call_not_builtin other, if_neg kind, variant, found]
  rfl

theorem call_without_args {path : String} {m : Method}
    (kind : path ≠ p.kindTrait ++ "::retryable_error_kind") (found : p.function? path = some m) :
    p.call ev path [] s = m.invoke ev [] s := by
  simp only [Program.call, if_neg kind]
  cases p.variant? path <;> simp only [found]

theorem call_kind_path (v : Value) :
    p.call ev (p.kindTrait ++ "::retryable_error_kind") [v] s =
      p.callKindTrait ev "retryable_error_kind" v s := by
  rw [call_not_builtin (not_builtin _ _ (by decide) (by decide)), if_pos rfl]

theorem mem_items_methods {scope : Scope} {items : List Item} {n : Method} :
    n ∈ itemsMethods scope items ↔ ∃ i ∈ items, n ∈ i.methodsIn scope := by
  induction items with
  | nil => simp [itemsMethods]
  | cons i r ih => simp only [itemsMethods, List.mem_append, ih, List.mem_cons, exists_eq_or_imp]

theorem method_found {m : Method} (member : m ∈ p.methods)
    (only : ∀ n ∈ p.methods, n.type = m.type → n.trait = m.trait →
      n.function.name = m.function.name → n = m) :
    p.method? m.type m.trait m.function.name = some m := by
  apply find_of_unique member
  · simp
  · intro n other same
    simp only [Bool.and_eq_true, decide_eq_true_eq] at same
    exact only n other same.1.1 same.1.2 same.2

theorem function_found {m : Method} (member : m ∈ p.methods) (own : m.trait = none)
    (only : ∀ n ∈ p.methods, n.trait = none →
      n.type ++ "::" ++ n.function.name = m.type ++ "::" ++ m.function.name → n = m) :
    p.function? (m.type ++ "::" ++ m.function.name) = some m := by
  apply find_of_unique member
  · simp [own]
  · intro n other same
    simp only [Bool.and_eq_true, decide_eq_true_eq] at same
    exact only n other same.1 same.2

theorem variant_none {path : String}
    (other : ∀ u ∈ p.unions, ∀ v ∈ u.variants, u.name ++ "::" ++ v.name ≠ path) :
    p.variant? path = none := by
  unfold Program.variant?
  rw [List.findSome?_eq_none_iff]
  intro u member
  rw [Option.map_eq_none_iff, List.find?_eq_none]
  intro v variant
  simpa using other u member v variant

theorem invoke_bound {m : Method} {args : List Value} {locals : List (String × Value)}
    (bound : bindParams m.function.params args = some locals) :
    m.invoke ev args s =
      (evalBody (ev m.scope) ⟨locals, s.written⟩ m.function.body).map fun (w, t) =>
        (w, { s with written := t.written }) := by
  simp only [Method.invoke, bound]

theorem invoke_with_formatter {m : Method} {name type : String}
    (params : m.function.params = [.borrowed, .typed name type]) (v : Value) :
    m.invoke ev [v, .formatter] s =
      (evalBody (ev m.scope) ⟨[("self", v), (name, .formatter)], s.written⟩ m.function.body).map
        fun (w, t) => (w, { s with written := t.written }) := by
  apply invoke_bound
  simp only [params, bindParams, Option.map_some]

theorem invoke_borrowed {m : Method} (params : m.function.params = [.borrowed]) (v : Value) :
    m.invoke ev [v] s =
      (evalBody (ev m.scope) ⟨[("self", v)], s.written⟩ m.function.body).map fun (w, t) =>
        (w, { s with written := t.written }) := by
  apply invoke_bound
  simp only [params, bindParams, Option.map_some]

theorem invoke_expr {m : Method} {args : List Value} {locals : List (String × Value)} {e : Expr}
    {x : Value} (bound : bindParams m.function.params args = some locals)
    (body : m.function.body = .value e)
    (evaluated : ev m.scope ⟨locals, s.written⟩ e = some (x, ⟨locals, s.written⟩)) :
    m.invoke ev args s = some (x, s) := by
  rw [invoke_bound bound, body]
  simp only [Body.value, evalBody, evalStmts, evalStmt, evaluated, Option.map_some]

theorem invoke_value {m : Method} {e : Expr} {v x : Value}
    (params : m.function.params = [.borrowed]) (body : m.function.body = .value e)
    (evaluated : ev m.scope ⟨[("self", v)], s.written⟩ e =
      some (x, ⟨[("self", v)], s.written⟩)) :
    m.invoke ev [v] s = some (x, s) := by
  refine invoke_expr ?_ body evaluated
  simp only [params, bindParams, Option.map_some]

end Calls

end ErrorUnion
