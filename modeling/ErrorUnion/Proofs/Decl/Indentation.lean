import ErrorUnion.Proofs.Decl.Layout
import ErrorUnion.Proofs.Text.Lines

/- Declarations at any depth. What is laid out closes its own blocks only, so it ends at the depth
   that it started from; and each line stands as it would at the margin, behind the blanks of that
   depth, as long as no text in the declaration breaks a line. -/
namespace ErrorUnion
open Text

def Attribute.strings : Attribute → List String
  | derive traits => traits
  | nonExhaustive => []
  | deprecated note since => note.toList ++ since.toList
  | allow lint => [lint]

def attributeStrings (as : List Attribute) : List String := as.flatMap Attribute.strings

def FieldDecl.strings (f : FieldDecl) : List String := f.docs ++ [f.name, f.type]

def RecordDecl.strings (r : RecordDecl) : List String :=
  r.docs ++ attributeStrings r.attributes ++ r.name :: r.fields.flatMap FieldDecl.strings

def VariantDecl.strings (v : VariantDecl) : List String :=
  v.docs ++ attributeStrings v.attributes ++ [v.name, v.payload]

def UnionDecl.strings (u : UnionDecl) : List String :=
  u.docs ++ attributeStrings u.attributes ++ u.name :: u.variants.flatMap VariantDecl.strings

mutual

def Stmt.strings : Stmt → List String
  | .run e => [e.text]
  | .result e => [e.text]
  | .ifLet p v body => p.text :: v.text :: stmtsStrings body

def stmtsStrings : List Stmt → List String
  | [] => []
  | s :: r => s.strings ++ stmtsStrings r

end

def ArmBody.strings : ArmBody → List String
  | .expr e => [e.text]
  | .block body => stmtsStrings body

def Arm.strings (a : Arm) : List String := a.pattern.text :: a.body.strings

def Body.strings : Body → List String
  | .block stmts => stmtsStrings stmts
  | .cases subject arms => subject.text :: arms.flatMap Arm.strings

def Function.strings (f : Function) : List String :=
  f.docs ++ f.name :: (f.params.map Param.text ++ f.returns.toList ++ f.body.strings)

def MethodsDecl.strings (m : MethodsDecl) : List String :=
  attributeStrings m.attributes ++ m.trait.toList
    ++ m.target :: m.functions.flatMap Function.strings

mutual

def Item.strings : Item → List String
  | .record r => r.strings
  | .union u => u.strings
  | .methods m => m.strings
  | .module docs _ name items => docs ++ name :: itemsStrings items

def itemsStrings : List Item → List String
  | [] => []
  | i :: r => i.strings ++ itemsStrings r

end

abbrev OneLineEach (texts : List String) : Prop := ∀ t ∈ texts, OneLine t

def Mark.Unbroken : Mark → Prop
  | .line text => OneLine text
  | .opening head => OneLine head
  | .closing => True

abbrev Unbroken (ms : List Mark) : Prop := ∀ m ∈ ms, m.Unbroken

def indentedLine (depth : Nat) (line : List Char) : List Char :=
  if line = ['\n'] then line else List.replicate (4 * depth) ' ' ++ line

def indented (depth : Nat) (text : String) : String :=
  String.ofList ((fullLines text.toList).flatMap (indentedLine depth))

example : indented 1 "a \x7b\n\n    b\n\x7d\n" = "    a \x7b\n\n        b\n    \x7d\n" := by decide

theorem indentation_blanks (n : Nat) : (indentation n).toList = List.replicate (4 * n) ' ' := by
  induction n with
  | zero => rfl
  | succ n ih =>
    rw [indentation, String.toList_append, ih, Nat.mul_succ, Nat.add_comm,
      ← List.replicate_append_replicate]
    rfl

theorem indented_append (depth : Nat) {s : String} (ended : Ended s) (t : String) :
    indented depth (s ++ t) = indented depth s ++ indented depth t := by
  obtain rfl | ⟨s, rfl⟩ := ended
  · simp [indented, fullLines]
  · have feed : "\n".toList = ['\n'] := rfl
    apply String.toList_injective
    simp only [indented, String.toList_append, String.toList_ofList, feed, List.append_assoc,
      List.singleton_append, full_lines_append s.toList t.toList, List.flatMap_append]

theorem indentation_one_line (n : Nat) : OneLine (indentation n) := by
  rw [OneLine, indentation_blanks]
  intro feed
  exact absurd (List.eq_of_mem_replicate feed) (by decide)

theorem indented_line_text {text : String} (line : OneLine text) (depth more : Nat) :
    indented depth (lineText more text) = lineText (depth + more) text := by
  have feed : "\n".toList = ['\n'] := rfl
  apply String.toList_injective
  unfold lineText
  split
  · rfl
  · rename_i filled
    have whole : OneLine (indentation more ++ text) :=
      one_line_append (indentation_one_line more) line
    have lines : fullLines (indentation more ++ text ++ "\n").toList =
        [(indentation more ++ text).toList ++ ['\n']] := by
      rw [String.toList_append, feed, full_line whole]
    have kept : (indentation more ++ text).toList ++ ['\n'] ≠ ['\n'] := by
      rw [ne_eq, List.append_left_eq_self]
      simp [String.toList_append, filled]
    rw [indented, lines, String.toList_ofList, List.flatMap_singleton, indentedLine, if_neg kept]
    simp only [String.toList_append, feed, indentation_blanks, Nat.mul_add,
      ← List.replicate_append_replicate, List.append_assoc]

theorem marks_text_ended (depth : Nat) (ms : List Mark) : Ended (marksText depth ms) := by
  by_cases some : ms = []
  · subst some
    exact Or.inl rfl
  · exact Or.inr (marks_text_full depth some)

theorem written_indented {m : Mark} (unbroken : m.Unbroken) (depth more : Nat)
    (inside : m = .closing → 0 < more) :
    m.written (depth + more) = indented depth (m.written more) := by
  cases m with
  | line text => exact (indented_line_text unbroken depth more).symm
  | opening head =>
    have line : OneLine (head ++ " \x7b") := one_line_append unbroken (by decide)
    exact (indented_line_text line depth more).symm
  | closing =>
    have line : OneLine "\x7d" := by decide
    rw [Mark.written, Mark.written, indented_line_text line,
      Nat.add_sub_assoc (inside rfl)]

/-- Marks that start at a depth write what they write further out, with the blanks between. -/
theorem marks_text_indented {ms : List Mark} (balanced : Balanced ms) (unbroken : Unbroken ms)
    (depth more : Nat) : marksText (depth + more) ms = indented depth (marksText more ms) := by
  induction balanced generalizing more with
  | nil => rfl
  | line _ ih =>
    rw [Unbroken, List.forall_mem_cons] at unbroken
    rw [marks_text_cons, marks_text_cons, written_indented unbroken.1 depth more (by simp),
      indented_append depth (Or.inr (written_full more _))]
    exact congrArg _ (ih unbroken.2 more)
  | @block head body rest inner _ within behind =>
    simp only [Unbroken, List.forall_mem_cons, List.forall_mem_append] at unbroken
    obtain ⟨opening, inside, -, outside⟩ := unbroken
    have closing : Mark.closing.written (depth + (more + 1)) =
        indented depth (Mark.closing.written (more + 1)) :=
      written_indented (m := .closing) trivial depth (more + 1) fun _ => Nat.succ_pos more
    -- The block is one deeper on both sides, and what follows it stands where the block began.
    have block : ∀ k, marksText k (.opening head :: (body ++ .closing :: rest)) =
        (Mark.opening head).written k ++ (marksText (k + 1) body ++
          (Mark.closing.written (k + 1) ++ marksText k rest)) := by
      intro k
      rw [marks_text_cons, marks_text_append inner, marks_text_cons]
      rfl
    rw [block, block, indented_append depth (Or.inr (written_full more _)),
      indented_append depth (marks_text_ended (more + 1) body),
      indented_append depth (Or.inr (written_full (more + 1) _)), ← within inside (more + 1),
      ← behind outside more, ← closing,
      written_indented (m := .opening head) opening depth more (by simp)]
    rfl

theorem closing_above {ms : List Mark} (balanced : Balanced ms) (s : Sheet)
    {before after : List Mark} (split : ms = before ++ .closing :: after) :
    s.depth < (s.putAll before).depth := by
  induction balanced generalizing s before after with
  | nil => simp at split
  | @line text rest _ ih =>
    cases before with
    | nil => simp at split
    | cons m before =>
      obtain ⟨rfl, tail⟩ := List.cons.inj split
      exact ih (s.put (.line text)) tail
  | @block head body rest inner _ within behind =>
    cases before with
    | nil => simp at split
    | cons m before =>
      obtain ⟨rfl, tail⟩ := List.cons.inj split
      have opened : s.depth < (s.put (.opening head)).depth := Nat.lt_succ_self s.depth
      have full : s.depth < ((s.put (.opening head)).putAll body).depth := by
        rwa [put_all_depth inner]
      rw [put_all_cons]
      -- The mark stands behind the block, is its own closing one, or stands inside of it.
      rcases List.append_eq_append_iff.mp tail with ⟨more, rfl, later⟩ | ⟨more, rfl, later⟩
      · cases more with
        | nil => simpa using full
        | cons m more =>
          obtain ⟨rfl, last⟩ := List.cons.inj later
          have behindBlock := behind (((s.put (.opening head)).putAll body).put .closing) last
          have back : (((s.put (.opening head)).putAll body).put .closing).depth = s.depth := by
            rw [put_eq, put_all_depth inner]
            exact Nat.add_sub_cancel s.depth 1
          rw [put_all_append, put_all_cons]
          rwa [back] at behindBlock
      · cases more with
        | nil => simpa using full
        | cons m more =>
          obtain ⟨rfl, -⟩ := List.cons.inj later
          exact Nat.lt_trans opened (within (s.put (.opening head)) rfl)

theorem docs_unbroken {docs : List String} (lines : OneLineEach docs) :
    Unbroken (docMarks docs) := by
  rw [Unbroken, docMarks, List.forall_mem_map]
  intro d listed
  rw [Mark.Unbroken, docText]
  split
  · decide
  · exact one_line_append (by decide) (lines d listed)

theorem visibility_one_line (v : Visibility) : OneLine v.text := by
  cases v <;> decide

theorem deprecation_args_one_line (note since : Option String) :
    ∀ t ∈ deprecationArgs note since, OneLine t := by
  rw [deprecationArgs, List.forall_mem_append]
  constructor
  · intro t member
    simp only [Option.mem_toList, Option.map_eq_some_iff] at member
    obtain ⟨s, -, rfl⟩ := member
    exact one_line_append (by decide) (quote_one_line s)
  · intro t member
    simp only [Option.mem_toList, Option.map_eq_some_iff] at member
    obtain ⟨s, -, rfl⟩ := member
    exact one_line_append (by decide) (quote_one_line s)

theorem attribute_one_line {a : Attribute} (lines : OneLineEach a.strings) : OneLine a.text := by
  have comma : OneLine ", " := by decide
  cases a with
  | derive traits =>
    exact one_line_append (one_line_append (by decide) (one_line_joined comma lines)) (by decide)
  | nonExhaustive => decide
  | allow lint =>
    have line : OneLine lint := lines lint List.mem_cons_self
    exact one_line_append (one_line_append (by decide) line) (by decide)
  | deprecated note since =>
    have args := one_line_joined comma (deprecation_args_one_line note since)
    simp only [Attribute.text]
    split
    · decide
    · exact one_line_append (one_line_append (by decide) args) (by decide)

theorem attributes_unbroken {as : List Attribute} (lines : OneLineEach (attributeStrings as)) :
    Unbroken (attributeMarks as) := by
  rw [OneLineEach, attributeStrings, List.forall_mem_flatMap] at lines
  rw [Unbroken, attributeMarks, List.forall_mem_map]
  exact fun a listed => attribute_one_line (lines a listed)

theorem block_unbroken {head : String} (line : OneLine head) {body : List Mark}
    (inner : Unbroken body) : Unbroken (.opening head :: (body ++ [.closing])) := by
  rw [Unbroken, List.forall_mem_cons, List.forall_mem_append, List.forall_mem_singleton]
  exact ⟨line, inner, trivial⟩

theorem block_marks_unbroken {head : String} (line : OneLine head) {body : List Mark}
    (inner : Unbroken body) : Unbroken (blockMarks head body) := by
  cases body with
  | nil =>
    rw [blockMarks, Unbroken, List.forall_mem_singleton]
    exact one_line_append line (by decide)
  | cons m r => exact block_unbroken line inner

theorem spaced_unbroken {groups : List (List Mark)} (each : ∀ g ∈ groups, Unbroken g) :
    Unbroken (spaced groups) := by
  induction groups with
  | nil => exact fun m member => absurd member List.not_mem_nil
  | cons g r ih =>
    rw [List.forall_mem_cons] at each
    cases r with
    | nil => exact each.1
    | cons h r =>
      simp only [spaced, Unbroken, List.forall_mem_append, List.forall_mem_cons]
      exact ⟨each.1, List.not_mem_nil, ih each.2⟩

theorem field_unbroken {f : FieldDecl} (lines : OneLineEach f.strings) : Unbroken f.marks := by
  simp only [OneLineEach, FieldDecl.strings, List.forall_mem_append, List.forall_mem_cons] at lines
  obtain ⟨docs, name, type, -⟩ := lines
  have head := one_line_append (visibility_one_line f.visibility) name
  have typed := one_line_append (one_line_append head (by decide : OneLine ": ")) type
  rw [FieldDecl.marks, Unbroken, List.forall_mem_append, List.forall_mem_singleton]
  exact ⟨docs_unbroken docs, one_line_append typed (by decide)⟩

theorem record_unbroken {r : RecordDecl} (lines : OneLineEach r.strings) : Unbroken r.marks := by
  simp only [OneLineEach, RecordDecl.strings, List.forall_mem_append, List.forall_mem_cons,
    List.forall_mem_flatMap] at lines
  obtain ⟨⟨docs, attributes⟩, name, fields⟩ := lines
  have head := one_line_append (visibility_one_line r.visibility) (by decide : OneLine "struct ")
  simp only [RecordDecl.marks, Unbroken, List.forall_mem_append]
  refine ⟨⟨docs_unbroken docs, attributes_unbroken attributes⟩,
    block_marks_unbroken (one_line_append head name) ?_⟩
  rw [Unbroken, List.forall_mem_flatMap]
  exact fun f listed => field_unbroken (fields f listed)

theorem variant_unbroken {v : VariantDecl} (lines : OneLineEach v.strings) : Unbroken v.marks := by
  simp only [OneLineEach, VariantDecl.strings, List.forall_mem_append, List.forall_mem_cons]
    at lines
  obtain ⟨⟨docs, attributes⟩, name, payload, -⟩ := lines
  have head := one_line_append (one_line_append name (by decide : OneLine "(")) payload
  simp only [VariantDecl.marks, Unbroken, List.forall_mem_append, List.forall_mem_singleton]
  exact ⟨⟨docs_unbroken docs, attributes_unbroken attributes⟩, one_line_append head (by decide)⟩

theorem union_unbroken {u : UnionDecl} (lines : OneLineEach u.strings) : Unbroken u.marks := by
  simp only [OneLineEach, UnionDecl.strings, List.forall_mem_append, List.forall_mem_cons,
    List.forall_mem_flatMap] at lines
  obtain ⟨⟨docs, attributes⟩, name, variants⟩ := lines
  have head := one_line_append (visibility_one_line u.visibility) (by decide : OneLine "enum ")
  simp only [UnionDecl.marks, Unbroken, List.forall_mem_append, List.forall_mem_singleton,
    List.forall_mem_flatMap]
  exact ⟨⟨⟨⟨docs_unbroken docs, attributes_unbroken attributes⟩, one_line_append head name⟩,
    fun v listed => variant_unbroken (variants v listed)⟩, trivial⟩

mutual

theorem stmt_unbroken {s : Stmt} (lines : OneLineEach s.strings) : Unbroken s.marks :=
  match s with
  | .run _ => by
    rw [Unbroken, Stmt.marks, List.forall_mem_singleton]
    exact one_line_append (lines _ List.mem_cons_self) (by decide)
  | .result _ => by
    rw [Unbroken, Stmt.marks, List.forall_mem_singleton]
    exact lines _ List.mem_cons_self
  | .ifLet _ _ _ => by
    simp only [OneLineEach, Stmt.strings, List.forall_mem_cons] at lines
    obtain ⟨pattern, value, body⟩ := lines
    have head := one_line_append (one_line_append (by decide : OneLine "if let ") pattern)
      (by decide : OneLine " = ")
    exact block_unbroken (one_line_append head value) (stmts_unbroken body)

theorem stmts_unbroken {ss : List Stmt} (lines : OneLineEach (stmtsStrings ss)) :
    Unbroken (stmtsMarks ss) :=
  match ss with
  | [] => fun _ member => absurd member List.not_mem_nil
  | _ :: _ => by
    simp only [OneLineEach, stmtsStrings, List.forall_mem_append] at lines
    rw [Unbroken, stmtsMarks, List.forall_mem_append]
    exact ⟨stmt_unbroken lines.1, stmts_unbroken lines.2⟩

end

theorem arm_unbroken {a : Arm} (lines : OneLineEach a.strings) : Unbroken a.marks := by
  obtain ⟨pattern, body⟩ := a
  simp only [OneLineEach, Arm.strings, List.forall_mem_cons] at lines
  obtain ⟨head, rest⟩ := lines
  cases body with
  | expr e =>
    have value : OneLine e.text := rest _ List.mem_cons_self
    have line := one_line_append (one_line_append head (by decide : OneLine " => ")) value
    rw [Unbroken, Arm.marks, List.forall_mem_singleton]
    exact one_line_append line (by decide)
  | block stmts =>
    exact block_unbroken (one_line_append head (by decide)) (stmts_unbroken rest)

theorem body_unbroken {b : Body} (lines : OneLineEach b.strings) : Unbroken b.marks := by
  cases b with
  | block stmts => exact stmts_unbroken lines
  | cases subject arms =>
    simp only [OneLineEach, Body.strings, List.forall_mem_cons, List.forall_mem_flatMap] at lines
    refine block_unbroken (one_line_append (by decide) lines.1) ?_
    rw [Unbroken, List.forall_mem_flatMap]
    exact fun a listed => arm_unbroken (lines.2 a listed)

theorem function_unbroken {f : Function} (lines : OneLineEach f.strings) : Unbroken f.marks := by
  simp only [OneLineEach, Function.strings, List.forall_mem_append, List.forall_mem_cons] at lines
  obtain ⟨docs, name, ⟨params, returns⟩, body⟩ := lines
  have head : OneLine f.head := by
    have word := one_line_append (visibility_one_line f.visibility) (by decide : OneLine "fn ")
    have opened := one_line_append (one_line_append word name) (by decide : OneLine "(")
    have listed := one_line_joined (by decide : OneLine ", ") params
    refine one_line_append (one_line_append (one_line_append opened listed) (by decide)) ?_
    cases returns' : f.returns with
    | none => decide
    | some t => exact one_line_append (by decide) (returns t (by simp [returns']))
  rw [Function.marks, Unbroken, List.forall_mem_append]
  exact ⟨docs_unbroken docs, block_unbroken head (body_unbroken body)⟩

theorem methods_unbroken {m : MethodsDecl} (lines : OneLineEach m.strings) : Unbroken m.marks := by
  simp only [OneLineEach, MethodsDecl.strings, List.forall_mem_append, List.forall_mem_cons,
    List.forall_mem_flatMap] at lines
  obtain ⟨⟨attributes, trait⟩, target, functions⟩ := lines
  have head : OneLine m.head := by
    unfold MethodsDecl.head
    split
    · rename_i t is
      have named := one_line_append (by decide : OneLine "impl ") (trait t (by simp [is]))
      exact one_line_append (one_line_append named (by decide)) target
    · exact one_line_append (by decide) target
  rw [MethodsDecl.marks, Unbroken, List.forall_mem_append]
  refine ⟨attributes_unbroken attributes, block_marks_unbroken head (spaced_unbroken ?_)⟩
  rw [List.forall_mem_map]
  exact fun f listed => function_unbroken (functions f listed)

mutual

theorem item_unbroken {i : Item} (lines : OneLineEach i.strings) : Unbroken i.marks :=
  match i with
  | .record _ => record_unbroken lines
  | .union _ => union_unbroken lines
  | .methods _ => methods_unbroken lines
  | .module _ vis _ _ => by
    simp only [OneLineEach, Item.strings, List.forall_mem_append, List.forall_mem_cons] at lines
    obtain ⟨docs, name, items⟩ := lines
    have head := one_line_append (visibility_one_line vis) (by decide : OneLine "mod ")
    rw [Item.marks, Unbroken, List.forall_mem_append]
    exact ⟨docs_unbroken docs, block_unbroken (one_line_append head name) (items_unbroken items)⟩

theorem items_unbroken {is : List Item} (lines : OneLineEach (itemsStrings is)) :
    Unbroken (itemsMarks is) :=
  match is with
  | [] => fun _ member => absurd member List.not_mem_nil
  | [_] => by
    simp only [OneLineEach, itemsStrings, List.append_nil] at lines
    exact item_unbroken lines
  | _ :: _ :: _ => by
    simp only [OneLineEach, itemsStrings, List.forall_mem_append] at lines
    simp only [itemsMarks, Unbroken, List.forall_mem_append, List.forall_mem_cons]
    refine ⟨item_unbroken lines.1, List.not_mem_nil, items_unbroken ?_⟩
    simp only [OneLineEach, itemsStrings, List.forall_mem_append]
    exact lines.2

end

inductive SheetCall where
  | line (text : String)
  | blank
  | comment (text : String)
  | item (i : Item)
  | items (is : List Item)

def SheetCall.run (s : Sheet) : SheetCall → Sheet
  | line text => s.line text
  | blank => s.blank
  | comment text => s.comment text
  | item i => s.item i
  | items is => s.items is

def SheetCall.marks : SheetCall → List Mark
  | line text => [.line text]
  | blank => [.line ""]
  | comment text => [.line ("// " ++ text)]
  | item i => i.marks
  | items is => itemsMarks is

theorem call_by_marks (s : Sheet) (c : SheetCall) : c.run s = s.putAll c.marks := by
  cases c <;> rfl

theorem call_balanced (c : SheetCall) : Balanced c.marks := by
  cases c with
  | line text => exact balanced_line text
  | blank => exact balanced_line ""
  | comment text => exact balanced_line _
  | item i => exact item_balanced i
  | items is => exact items_balanced is

theorem put_all_balanced {ms : List Mark} (balanced : Balanced ms) (s : Sheet) :
    s.putAll ms = ⟨s.text ++ marksText s.depth ms, s.depth⟩ :=
  (Sheet.mk.injEq ..).mpr ⟨put_all_text s ms, put_all_depth balanced s⟩

theorem calls_at_margin (calls : List SheetCall) (s : Sheet) (margin : s.depth = 0) :
    (calls.foldl SheetCall.run s).depth = 0 := by
  induction calls generalizing s with
  | nil => exact margin
  | cons c r ih =>
    apply ih
    rw [call_by_marks, put_all_depth (call_balanced c), margin]

/-- A declaration goes behind what stands on a sheet and leaves its depth as it was; it closes no
block but its own. If none of its texts breaks a line, it is written as at the margin, indented to
the depth. So a sheet is at the margin between two calls, and what a call writes hangs on nothing
that was written before. -/
theorem declarations_laid_out :
    (∀ (i : Item) (s : Sheet),
      (∃ written, s.item i = ⟨s.text ++ written, s.depth⟩) ∧
      (∀ before after, i.marks = before ++ .closing :: after →
        s.depth < (s.putAll before).depth) ∧
      (OneLineEach i.strings →
        s.item i = ⟨s.text ++ indented s.depth (Sheet.empty.item i).text, s.depth⟩)) ∧
    ∀ (before : List SheetCall) (c : SheetCall),
      let s := before.foldl SheetCall.run .empty
      s.depth = 0 ∧ c.run s = ⟨s.text ++ (c.run .empty).text, 0⟩ := by
  constructor
  · intro i s
    have balanced := item_balanced i
    refine ⟨⟨_, put_all_balanced balanced s⟩, fun _ _ => closing_above balanced s, ?_⟩
    intro lines
    have text := marks_text_indented balanced (item_unbroken lines) s.depth 0
    rw [Sheet.item, put_all_balanced balanced s]
    exact congrArg (fun written => (⟨s.text ++ written, s.depth⟩ : Sheet)) text
  · intro before c s
    have margin : s.depth = 0 := calls_at_margin before .empty rfl
    refine ⟨margin, ?_⟩
    rw [call_by_marks, call_by_marks, put_all_balanced (call_balanced c), margin]
    rfl

def nestedItem : Item :=
  .module ["Nested."] .everywhere "inner"
    [.methods ⟨[], none, "E", [Function.method "get" [.borrowed] (some "u8")
      (.cases (.var "self")
        [⟨.variant "E" "A" none, .expr (.verbatim "1")⟩,
         ⟨.variant "E" "B" (some "inner"), .block
           [.ifLet (.present "x") (.method (.var "inner") "get" []) [.run (.verbatim "return x")],
            .result (.verbatim "0")]⟩])]⟩]

theorem nested_item_indented :
    OneLineEach nestedItem.strings ∧
      Sheet.item ⟨"mod outer \x7b\n", 1⟩ nestedItem =
        ⟨"mod outer \x7b\n" ++ indented 1 (Sheet.empty.item nestedItem).text, 1⟩ := by
  have lines : OneLineEach nestedItem.strings := by decide +kernel
  exact ⟨lines, (declarations_laid_out.1 nestedItem _).2.2 lines⟩

end ErrorUnion
