import ErrorUnion.Proofs.Decl.Marks
import ErrorUnion.Proofs.Text.Nesting

/- Declarations whose texts stay in their places. If every text that a declaration takes over as it
   is is inert, and every line of its documentation is one, then the declaration can be read as
   code in which all that it opens is closed, wherever it is laid out. -/
namespace ErrorUnion
open Text

theorem inert_call {head s : String} (callee : Inert head) (args : Inert s) :
    Inert (head ++ "(" ++ s ++ ")") :=
  inert_between (a := [.round]) (reads_append callee fun _ _ => rfl) args fun _ _ => rfl

def Pattern.Contained : Pattern → Prop
  | .verbatim s => Inert s
  | .variant u v binding => Inert u ∧ Inert v ∧ ∀ b ∈ binding, Inert b
  | .present b => Inert b

theorem pattern_inert {p : Pattern} (contained : p.Contained) : Inert p.text := by
  cases p with
  | verbatim s => exact contained
  | present b =>
    exact inert_between (a := [.round]) (fun _ _ => rfl) contained fun _ _ => rfl
  | variant u v binding =>
    obtain ⟨union, variant, bound⟩ := contained
    have path := inert_append (inert_append union (fun _ _ => rfl : Inert "::")) variant
    refine inert_call path ?_
    cases binding with
    | none => exact fun _ _ => rfl
    | some b => exact bound b rfl

mutual

def Expr.Contained : Expr → Prop
  | .verbatim s => Inert s
  | .var n => Inert n
  | .unit => True
  | .path p => Inert p
  | .literal _ => True
  | .field o n => o.Contained ∧ Inert n
  | .method o n args => o.Contained ∧ Inert n ∧ argsContained args
  | .call f args => Inert f ∧ argsContained args
  | .initial t => Inert t
  | .record t fields => Inert t ∧ fieldsContained fields
  | .assign p v => p.Contained ∧ v.Contained
  | .attempt e => e.Contained
  | .matches e p => e.Contained ∧ p.Contained
  | .write t _ v => t.Contained ∧ v.Contained

def argsContained : List Expr → Prop
  | [] => True
  | e :: r => e.Contained ∧ argsContained r

def fieldsContained : List (String × Expr) → Prop
  | [] => True
  | (n, e) :: r => Inert n ∧ e.Contained ∧ fieldsContained r

end

mutual

theorem expr_inert {e : Expr} (contained : e.Contained) : Inert e.text :=
  match e with
  | .verbatim _ => contained
  | .var _ => contained
  | .unit => fun _ _ => rfl
  | .path _ => contained
  | .literal s => inert_quote s
  | .field o _ => by
    have object : Inert (o.text ++ ".") := inert_append (expr_inert contained.1) fun _ _ => rfl
    exact inert_append object contained.2
  | .method o n _ => by
    have object : Inert (o.text ++ ".") := inert_append (expr_inert contained.1) fun _ _ => rfl
    have callee : Inert (o.text ++ "." ++ n) := inert_append object contained.2.1
    exact inert_call callee (args_inert contained.2.2)
  | .call _ _ => inert_call contained.1 (args_inert contained.2)
  | .initial _ => inert_append (inert_append (fun _ _ => rfl) contained) fun _ _ => rfl
  | .record _ [] => inert_append contained.1 fun _ _ => rfl
  | .record t (_ :: _) => by
    have head : Reads [] (t ++ " \x7b ") [.curly] := reads_append contained.1 fun _ _ => rfl
    exact inert_between head (fields_inert contained.2) fun _ _ => rfl
  | .assign p _ => by
    have place : Inert (p.text ++ " = ") := inert_append (expr_inert contained.1) fun _ _ => rfl
    exact inert_append place (expr_inert contained.2)
  | .attempt _ => inert_append (expr_inert contained) fun _ _ => rfl
  | .matches e _ => by
    have subject := reads_inert (expr_inert contained.1) [.round]
    have head : Reads [] ("matches!(" ++ e.text ++ ", ") [.round] :=
      reads_append (reads_append (fun _ _ => rfl) subject) fun _ _ => rfl
    exact inert_between head (pattern_inert contained.2) fun _ _ => rfl
  | .write t lead _ => by
    have target := reads_inert (expr_inert contained.1) [.round]
    have form := reads_inert (inert_quote (lead ++ "\x7b\x7d")) [.round]
    have start : Reads [] ("write!(" ++ t.text ++ ", ") [.round] :=
      reads_append (reads_append (fun _ _ => rfl) target) fun _ _ => rfl
    have head : Reads [] ("write!(" ++ t.text ++ ", " ++ quote (lead ++ "\x7b\x7d") ++ ", ")
        [.round] :=
      reads_append (reads_append start form) fun _ _ => rfl
    exact inert_between head (expr_inert contained.2) fun _ _ => rfl

theorem args_inert {es : List Expr} (contained : argsContained es) : Inert (argsText es) :=
  match es with
  | [] => fun _ _ => rfl
  | [_] => expr_inert contained.1
  | e :: _ :: _ => by
    have first : Inert (e.text ++ ", ") := inert_append (expr_inert contained.1) fun _ _ => rfl
    exact inert_append first (args_inert contained.2)

theorem fields_inert {fs : List (String × Expr)} (contained : fieldsContained fs) :
    Inert (fieldsText fs) :=
  match fs with
  | [] => fun _ _ => rfl
  | [(n, _)] => by
    have name : Inert (n ++ ": ") := inert_append contained.1 fun _ _ => rfl
    exact inert_append name (expr_inert contained.2.1)
  | (n, e) :: _ :: _ => by
    have name : Inert (n ++ ": ") := inert_append contained.1 fun _ _ => rfl
    have first : Inert (n ++ ": " ++ e.text ++ ", ") :=
      inert_append (inert_append name (expr_inert contained.2.1)) fun _ _ => rfl
    exact inert_append first (fields_inert contained.2.2)

end

theorem present_contained {e : Expr} (contained : e.Contained) : e.present.Contained :=
  ⟨fun _ _ => rfl, contained, trivial⟩

theorem absent_contained : Expr.absent.Contained := fun _ _ => rfl

theorem indentation_inert (depth : Nat) : Inert (indentation depth) := by
  induction depth with
  | zero => exact fun _ _ => rfl
  | succ n ih => exact inert_append (fun _ _ => rfl) ih

/-- A mark that comes to nothing but a block that it opens or closes. A line may be a comment, which
ends with it. -/
def Mark.Settled : Mark → Prop
  | .line text => Inert (text ++ "\n")
  | .opening head => Inert head
  | .closing => True

theorem code_settled {text : String} (inert : Inert text) : (Mark.line text).Settled :=
  inert_append inert fun _ _ => rfl

theorem blank_settled : (Mark.line "").Settled := fun _ _ => rfl

theorem comment_settled {s : String} (line : OneLine s) : (Mark.line ("//" ++ s)).Settled :=
  inert_comment line

theorem line_text_reads {a b : List Delimiter} {text : String} (line : Reads a (text ++ "\n") b)
    (depth : Nat) : Reads a (lineText depth text) b := by
  unfold lineText
  split
  · subst text
    exact line
  · rw [String.append_assoc]
    exact reads_append (reads_inert (indentation_inert depth) a) line

theorem line_reads {s : Sheet} {a b : List Delimiter} (here : Reads [] s.text a) {text : String}
    (line : Reads a (text ++ "\n") b) : Reads [] (s.line text).text b :=
  reads_append here (line_text_reads line s.depth)

theorem opening_reads {s : Sheet} {opened : List Delimiter} (here : Reads [] s.text opened)
    {head : String} (inert : Inert head) :
    Reads [] (s.put (.opening head)).text (.curly :: opened) := by
  have brace : Reads opened (head ++ " \x7b") (.curly :: opened) :=
    reads_append (reads_inert inert opened) fun _ _ => rfl
  exact line_reads here (reads_append brace fun _ _ => rfl)

theorem closing_reads {s : Sheet} {opened : List Delimiter}
    (here : Reads [] s.text (.curly :: opened)) : Reads [] (s.put .closing).text opened := by
  have brace : Reads (.curly :: opened) "\x7d" opened := fun _ _ => rfl
  exact line_reads (s := { s with depth := s.depth - 1 }) here (reads_append brace fun _ _ => rfl)

theorem put_all_reads {ms : List Mark} (balanced : Balanced ms) (settled : ∀ m ∈ ms, m.Settled)
    {s : Sheet} {opened : List Delimiter} (here : Reads [] s.text opened) :
    Reads [] (s.putAll ms).text opened := by
  -- By the blocks of the marks: inside of a block its brace is open as well, so that what was read
  -- before is any text with any delimiters open behind it.
  induction balanced generalizing s opened with
  | nil => exact here
  | line _ ih =>
    rw [List.forall_mem_cons] at settled
    exact ih settled.2 (line_reads here (reads_inert settled.1 opened))
  | @block head body rest _ _ inner later =>
    simp only [List.forall_mem_cons, List.forall_mem_append] at settled
    obtain ⟨head, body, -, rest⟩ := settled
    simp only [Sheet.putAll, List.foldl_cons, List.foldl_append] at inner later ⊢
    exact later rest (closing_reads (inner body (opening_reads here head)))

theorem doc_text_settled {d : String} (line : OneLine d) : (Mark.line (docText d)).Settled := by
  unfold docText
  split
  · exact comment_settled (s := "/") (by decide)
  · have inside : OneLine ("/ " ++ d) := one_line_append (by decide) line
    have whole := comment_settled inside
    rwa [← String.append_assoc] at whole

theorem docs_settled {docs : List String} (lines : ∀ d ∈ docs, OneLine d) :
    ∀ m ∈ docMarks docs, m.Settled := by
  intro m member
  obtain ⟨d, listed, rfl⟩ := List.mem_map.mp member
  exact doc_text_settled (lines d listed)

theorem one_line_docs {d : String} (line : OneLine d) : ∀ e ∈ [d], OneLine e := by
  rwa [List.forall_mem_singleton]

theorem no_docs : ∀ d ∈ ([] : List String), OneLine d := fun _ none => absurd none List.not_mem_nil

theorem visibility_inert (v : Visibility) : Inert v.text := by
  cases v <;> exact fun _ _ => rfl

def Attribute.Contained : Attribute → Prop
  | .derive traits => ∀ t ∈ traits, Inert t
  | .nonExhaustive => True
  | .deprecated _ _ => True
  | .allow lint => Inert lint

theorem derive_contained {traits : List String}
    (plain : traits.all (fun t => t.toList.all isPlain) = true) :
    (Attribute.derive traits).Contained :=
  fun t listed => inert_of_plain (List.all_eq_true.mp plain t listed)

theorem no_attributes : ∀ a ∈ ([] : List Attribute), a.Contained :=
  fun _ none => absurd none List.not_mem_nil

theorem quoted_arg_inert {key : String} (inert : Inert key) (value : Option String) :
    ∀ a ∈ (value.map fun s => key ++ quote s).toList, Inert a := by
  intro a member
  simp only [Option.mem_toList, Option.map_eq_some_iff] at member
  obtain ⟨s, -, rfl⟩ := member
  exact inert_append inert (inert_quote s)

theorem deprecation_args_inert (note since : Option String) :
    ∀ a ∈ deprecationArgs note since, Inert a := by
  rw [deprecationArgs, List.forall_mem_append]
  exact ⟨quoted_arg_inert (fun _ _ => rfl) since, quoted_arg_inert (fun _ _ => rfl) note⟩

theorem attribute_inert {a : Attribute} (contained : a.Contained) : Inert a.text := by
  have comma : Inert ", " := fun _ _ => rfl
  cases a with
  | derive traits =>
    exact inert_between (a := [.round, .square]) (fun _ _ => rfl) (inert_joined comma contained)
      fun _ _ => rfl
  | nonExhaustive => exact fun _ _ => rfl
  | allow lint =>
    exact inert_between (a := [.round, .square]) (fun _ _ => rfl) contained fun _ _ => rfl
  | deprecated note since =>
    have args := deprecation_args_inert note since
    simp only [Attribute.text]
    split
    · exact fun _ _ => rfl
    · exact inert_between (a := [.round, .square]) (fun _ _ => rfl) (inert_joined comma args)
        fun _ _ => rfl

theorem attributes_settled {as : List Attribute} (contained : ∀ a ∈ as, a.Contained) :
    ∀ m ∈ attributeMarks as, m.Settled := by
  intro m member
  obtain ⟨a, listed, rfl⟩ := List.mem_map.mp member
  exact code_settled (attribute_inert (contained a listed))

theorem block_settled {head : String} (inert : Inert head) {body : List Mark}
    (inner : ∀ m ∈ body, m.Settled) :
    ∀ m ∈ Mark.opening head :: (body ++ [.closing]), m.Settled := by
  rw [List.forall_mem_cons, List.forall_mem_append, List.forall_mem_singleton]
  exact ⟨inert, inner, trivial⟩

theorem block_marks_settled {head : String} (inert : Inert head) {body : List Mark}
    (inner : ∀ m ∈ body, m.Settled) : ∀ m ∈ blockMarks head body, m.Settled := by
  cases body with
  | nil =>
    rw [blockMarks, List.forall_mem_singleton]
    exact code_settled (inert_append inert fun _ _ => rfl)
  | cons m r => exact block_settled inert inner

theorem flat_map_settled {marks : α → List Mark} {xs : List α}
    (each : ∀ x ∈ xs, ∀ m ∈ marks x, m.Settled) : ∀ m ∈ xs.flatMap marks, m.Settled := by
  intro m member
  obtain ⟨x, listed, within⟩ := List.mem_flatMap.mp member
  exact each x listed m within

theorem spaced_settled {groups : List (List Mark)} (each : ∀ g ∈ groups, ∀ m ∈ g, m.Settled) :
    ∀ m ∈ spaced groups, m.Settled := by
  induction groups with
  | nil => exact fun m member => absurd member List.not_mem_nil
  | cons g r ih =>
    rw [List.forall_mem_cons] at each
    cases r with
    | nil => exact each.1
    | cons h r =>
      simp only [spaced, List.forall_mem_append, List.forall_mem_cons]
      exact ⟨each.1, blank_settled, ih each.2⟩

structure FieldDecl.Contained (f : FieldDecl) : Prop where
  docs : ∀ d ∈ f.docs, OneLine d
  name : Inert f.name
  type : Inert f.type

theorem field_settled {f : FieldDecl} (contained : f.Contained) : ∀ m ∈ f.marks, m.Settled := by
  have name := inert_append (visibility_inert f.visibility) contained.name
  have typed : Inert (f.visibility.text ++ f.name ++ ": " ++ f.type) :=
    inert_append (inert_append name fun _ _ => rfl) contained.type
  rw [FieldDecl.marks, List.forall_mem_append, List.forall_mem_singleton]
  exact ⟨docs_settled contained.docs, code_settled (inert_append typed fun _ _ => rfl)⟩

structure RecordDecl.Contained (r : RecordDecl) : Prop where
  docs : ∀ d ∈ r.docs, OneLine d
  attributes : ∀ a ∈ r.attributes, a.Contained
  name : Inert r.name
  fields : ∀ f ∈ r.fields, f.Contained

theorem record_settled {r : RecordDecl} (contained : r.Contained) :
    ∀ m ∈ r.marks, m.Settled := by
  have head : Inert (r.visibility.text ++ "struct " ++ r.name) :=
    inert_append (inert_append (visibility_inert r.visibility) fun _ _ => rfl) contained.name
  have fields := flat_map_settled fun f listed => field_settled (contained.fields f listed)
  simp only [RecordDecl.marks, List.forall_mem_append]
  exact ⟨⟨docs_settled contained.docs, attributes_settled contained.attributes⟩,
    block_marks_settled head fields⟩

structure VariantDecl.Contained (v : VariantDecl) : Prop where
  docs : ∀ d ∈ v.docs, OneLine d
  attributes : ∀ a ∈ v.attributes, a.Contained
  name : Inert v.name
  payload : Inert v.payload

theorem variant_settled {v : VariantDecl} (contained : v.Contained) :
    ∀ m ∈ v.marks, m.Settled := by
  have line : Inert (v.name ++ "(" ++ v.payload ++ "),") :=
    inert_between (a := [.round]) (reads_append contained.name fun _ _ => rfl) contained.payload
      fun _ _ => rfl
  simp only [VariantDecl.marks, List.forall_mem_append, List.forall_mem_singleton]
  exact ⟨⟨docs_settled contained.docs, attributes_settled contained.attributes⟩,
    code_settled line⟩

structure UnionDecl.Contained (u : UnionDecl) : Prop where
  docs : ∀ d ∈ u.docs, OneLine d
  attributes : ∀ a ∈ u.attributes, a.Contained
  name : Inert u.name
  variants : ∀ v ∈ u.variants, v.Contained

theorem union_settled {u : UnionDecl} (contained : u.Contained) : ∀ m ∈ u.marks, m.Settled := by
  have head : Inert (u.visibility.text ++ "enum " ++ u.name) :=
    inert_append (inert_append (visibility_inert u.visibility) fun _ _ => rfl) contained.name
  have variants := flat_map_settled fun v listed => variant_settled (contained.variants v listed)
  simp only [UnionDecl.marks, List.forall_mem_append, List.forall_mem_singleton]
  exact ⟨⟨⟨⟨docs_settled contained.docs, attributes_settled contained.attributes⟩, head⟩,
    variants⟩, trivial⟩

mutual

def Stmt.Contained : Stmt → Prop
  | .run e => e.Contained
  | .result e => e.Contained
  | .ifLet p v body => p.Contained ∧ v.Contained ∧ stmtsContained body

def stmtsContained : List Stmt → Prop
  | [] => True
  | s :: r => s.Contained ∧ stmtsContained r

end

mutual

theorem stmt_settled {s : Stmt} (contained : s.Contained) : ∀ m ∈ s.marks, m.Settled :=
  match s with
  | .run _ => by
    rw [Stmt.marks, List.forall_mem_singleton]
    exact code_settled (inert_append (expr_inert contained) fun _ _ => rfl)
  | .result _ => by
    rw [Stmt.marks, List.forall_mem_singleton]
    exact code_settled (expr_inert contained)
  | .ifLet p v body => by
    have head : Inert ("if let " ++ p.text ++ " = " ++ v.text) :=
      inert_append (inert_append (inert_append (fun _ _ => rfl) (pattern_inert contained.1))
        fun _ _ => rfl) (expr_inert contained.2.1)
    exact block_settled head (stmts_settled contained.2.2)

theorem stmts_settled {ss : List Stmt} (contained : stmtsContained ss) :
    ∀ m ∈ stmtsMarks ss, m.Settled :=
  match ss with
  | [] => fun _ member => absurd member List.not_mem_nil
  | _ :: _ => by
    rw [stmtsMarks, List.forall_mem_append]
    exact ⟨stmt_settled contained.1, stmts_settled contained.2⟩

end

def ArmBody.Contained : ArmBody → Prop
  | .expr e => e.Contained
  | .block body => stmtsContained body

structure Arm.Contained (a : Arm) : Prop where
  pattern : a.pattern.Contained
  body : a.body.Contained

theorem arm_settled {a : Arm} (contained : a.Contained) : ∀ m ∈ a.marks, m.Settled := by
  obtain ⟨pattern, body⟩ := a
  have head := pattern_inert contained.pattern
  cases body with
  | expr e =>
    have value : Inert e.text := expr_inert contained.body
    have line : Inert (pattern.text ++ " => " ++ e.text ++ ",") :=
      inert_append (inert_append (inert_append head fun _ _ => rfl) value) fun _ _ => rfl
    rw [Arm.marks, List.forall_mem_singleton]
    exact code_settled line
  | block stmts =>
    have opening : Inert (pattern.text ++ " =>") := inert_append head fun _ _ => rfl
    exact block_settled opening (stmts_settled contained.body)

def Body.Contained : Body → Prop
  | .block stmts => stmtsContained stmts
  | .cases subject arms => subject.Contained ∧ ∀ a ∈ arms, a.Contained

theorem block_contained {ss : List Stmt} (contained : stmtsContained ss) :
    (Body.block ss).Contained :=
  contained

theorem value_contained {e : Expr} (contained : e.Contained) : (Body.value e).Contained :=
  ⟨contained, trivial⟩

theorem body_settled {b : Body} (contained : b.Contained) : ∀ m ∈ b.marks, m.Settled := by
  cases b with
  | block stmts => exact stmts_settled contained
  | cases subject arms =>
    have head : Inert ("match " ++ subject.text) :=
      inert_append (fun _ _ => rfl) (expr_inert contained.1)
    exact block_settled head (flat_map_settled fun a listed => arm_settled (contained.2 a listed))

def Param.Contained : Param → Prop
  | .verbatim s => Inert s
  | .borrowed => True
  | .owned => True
  | .mutable => True
  | .typed name type => Inert name ∧ Inert type

theorem borrowed_contained : ∀ p ∈ [Param.borrowed], p.Contained := by
  rw [List.forall_mem_singleton]
  trivial

theorem param_inert {p : Param} (contained : p.Contained) : Inert p.text := by
  cases p with
  | verbatim s => exact contained
  | borrowed => exact fun _ _ => rfl
  | owned => exact fun _ _ => rfl
  | mutable => exact fun _ _ => rfl
  | typed name type => exact inert_append (inert_append contained.1 fun _ _ => rfl) contained.2

structure Function.Contained (f : Function) : Prop where
  docs : ∀ d ∈ f.docs, OneLine d
  name : Inert f.name
  params : ∀ p ∈ f.params, p.Contained
  returns : ∀ t ∈ f.returns, Inert t
  body : f.body.Contained

theorem some_inert {s : String} (inert : Inert s) : ∀ t ∈ some s, Inert t := by
  rintro t ⟨⟩
  exact inert

theorem none_inert : ∀ t ∈ (none : Option String), Inert t := fun _ given => nomatch given

theorem method_contained {name : String} {params : List Param} {type : String} {body : Body}
    (named : Inert name) (listed : ∀ p ∈ params, p.Contained) (typed : Inert type)
    (inner : body.Contained) : (Function.method name params (some type) body).Contained where
  docs := fun _ none => absurd none List.not_mem_nil
  name := named
  params := listed
  returns := some_inert typed
  body := inner

theorem with_docs_contained {f : Function} (contained : f.Contained) {docs : List String}
    (lines : ∀ d ∈ docs, OneLine d) : (f.withDocs docs).Contained :=
  ⟨lines, contained.name, contained.params, contained.returns, contained.body⟩

theorem with_visibility_contained {f : Function} (contained : f.Contained) (v : Visibility) :
    (f.withVisibility v).Contained :=
  ⟨contained.docs, contained.name, contained.params, contained.returns, contained.body⟩

theorem function_head_inert {f : Function} (contained : f.Contained) : Inert f.head := by
  have params : Inert (joinWith ", " (f.params.map Param.text)) := by
    refine inert_joined (fun _ _ => rfl) ?_
    intro s member
    obtain ⟨p, listed, rfl⟩ := List.mem_map.mp member
    exact param_inert (contained.params p listed)
  have name : Inert (f.visibility.text ++ "fn " ++ f.name) :=
    inert_append (inert_append (visibility_inert f.visibility) fun _ _ => rfl) contained.name
  refine inert_append (inert_call name params) ?_
  cases returned : f.returns with
  | none => exact fun _ _ => rfl
  | some t => exact inert_append (fun _ _ => rfl) (contained.returns t returned)

theorem function_settled {f : Function} (contained : f.Contained) :
    ∀ m ∈ f.marks, m.Settled := by
  rw [Function.marks, List.forall_mem_append]
  exact ⟨docs_settled contained.docs,
    block_settled (function_head_inert contained) (body_settled contained.body)⟩

structure MethodsDecl.Contained (t : MethodsDecl) : Prop where
  attributes : ∀ a ∈ t.attributes, a.Contained
  trait : ∀ s ∈ t.trait, Inert s
  target : Inert t.target
  functions : ∀ f ∈ t.functions, f.Contained

theorem methods_settled {t : MethodsDecl} (contained : t.Contained) :
    ∀ m ∈ t.marks, m.Settled := by
  have head : Inert t.head := by
    unfold MethodsDecl.head
    split
    · rename_i trait given
      have named : Inert ("impl " ++ trait) :=
        inert_append (fun _ _ => rfl) (contained.trait trait given)
      exact inert_append (inert_append named fun _ _ => rfl) contained.target
    · exact inert_append (fun _ _ => rfl) contained.target
  rw [MethodsDecl.marks, List.forall_mem_append]
  refine ⟨attributes_settled contained.attributes, block_marks_settled head (spaced_settled ?_)⟩
  intro g member
  obtain ⟨f, listed, rfl⟩ := List.mem_map.mp member
  exact function_settled (contained.functions f listed)

mutual

def Item.Contained : Item → Prop
  | .record r => r.Contained
  | .union u => u.Contained
  | .methods t => t.Contained
  | .module docs _ name items => (∀ d ∈ docs, OneLine d) ∧ Inert name ∧ itemsContained items

def itemsContained : List Item → Prop
  | [] => True
  | i :: r => i.Contained ∧ itemsContained r

end

mutual

theorem item_settled {i : Item} (contained : i.Contained) : ∀ m ∈ i.marks, m.Settled :=
  match i with
  | .record _ => record_settled contained
  | .union _ => union_settled contained
  | .methods _ => methods_settled contained
  | .module docs visibility name items => by
    have head : Inert (visibility.text ++ "mod " ++ name) :=
      inert_append (inert_append (visibility_inert visibility) fun _ _ => rfl) contained.2.1
    rw [Item.marks, List.forall_mem_append]
    exact ⟨docs_settled contained.1, block_settled head (items_settled contained.2.2)⟩

theorem items_settled {is : List Item} (contained : itemsContained is) :
    ∀ m ∈ itemsMarks is, m.Settled :=
  match is with
  | [] => fun _ member => absurd member List.not_mem_nil
  | [_] => item_settled contained.1
  | _ :: _ :: _ => by
    simp only [itemsMarks, List.forall_mem_append, List.forall_mem_cons]
    exact ⟨item_settled contained.1, blank_settled, items_settled contained.2⟩

end

theorem items_contained_iff (is : List Item) : itemsContained is ↔ ∀ i ∈ is, i.Contained := by
  induction is with
  | nil => simp [itemsContained]
  | cons i r ih => rw [itemsContained, ih, List.forall_mem_cons]

theorem items_read {is : List Item} (contained : itemsContained is) {s : Sheet}
    {opened : List Delimiter} (here : Reads [] s.text opened) :
    Reads [] (s.items is).text opened :=
  put_all_reads (items_balanced is) (items_settled contained) here

theorem comments_read {texts : List String} (lines : ∀ t ∈ texts, OneLine t) {s : Sheet}
    {opened : List Delimiter} (here : Reads [] s.text opened) :
    Reads [] (texts.foldl Sheet.comment s).text opened := by
  induction texts generalizing s with
  | nil => exact here
  | cons t r ih =>
    rw [List.forall_mem_cons] at lines
    have inside : OneLine (" " ++ t) := one_line_append (by decide) lines.1
    have comment := comment_settled inside
    rw [← String.append_assoc] at comment
    exact ih lines.2 (line_reads here (reads_inert comment opened))

end ErrorUnion
