import ErrorUnion.Decl.Sheet

/- The marks of declarations, whatever their texts are. Every declaration closes the blocks that it
   opens, and none that was open before. -/
namespace ErrorUnion

inductive Balanced : List Mark → Prop where
  | nil : Balanced []
  | line {text : String} {rest : List Mark} : Balanced rest → Balanced (.line text :: rest)
  | block {head : String} {body rest : List Mark} :
      Balanced body → Balanced rest → Balanced (.opening head :: (body ++ .closing :: rest))

theorem balanced_append {ms ns : List Mark} (first : Balanced ms) (second : Balanced ns) :
    Balanced (ms ++ ns) := by
  induction first with
  | nil => exact second
  | line rest ih => exact .line ih
  | block body rest _ ih =>
    rw [List.cons_append, List.append_assoc, List.cons_append]
    exact .block body ih

theorem balanced_line (text : String) : Balanced [.line text] := .line .nil

theorem balanced_block (head : String) {body : List Mark} (inner : Balanced body) :
    Balanced (.opening head :: (body ++ [.closing])) :=
  .block inner .nil

theorem balanced_lines (text : α → String) (xs : List α) :
    Balanced (xs.map fun x => .line (text x)) := by
  induction xs with
  | nil => exact .nil
  | cons x r ih => exact .line ih

theorem balanced_flat_map {marks : α → List Mark} {xs : List α}
    (each : ∀ x ∈ xs, Balanced (marks x)) : Balanced (xs.flatMap marks) := by
  induction xs with
  | nil => exact .nil
  | cons x r ih =>
    rw [List.forall_mem_cons] at each
    exact balanced_append each.1 (ih each.2)

theorem balanced_spaced {groups : List (List Mark)} (each : ∀ g ∈ groups, Balanced g) :
    Balanced (spaced groups) := by
  induction groups with
  | nil => exact .nil
  | cons g r ih =>
    rw [List.forall_mem_cons] at each
    cases r with
    | nil => exact each.1
    | cons h r => exact balanced_append each.1 (.line (ih each.2))

theorem balanced_block_marks (head : String) {body : List Mark} (inner : Balanced body) :
    Balanced (blockMarks head body) := by
  cases body with
  | nil => exact balanced_line _
  | cons m r => exact balanced_block head inner

theorem balanced_docs (docs : List String) : Balanced (docMarks docs) := balanced_lines docText docs

theorem balanced_attributes (as : List Attribute) : Balanced (attributeMarks as) :=
  balanced_lines Attribute.text as

theorem field_balanced (f : FieldDecl) : Balanced f.marks :=
  balanced_append (balanced_docs f.docs) (balanced_line _)

theorem record_balanced (r : RecordDecl) : Balanced r.marks :=
  balanced_append (balanced_append (balanced_docs r.docs) (balanced_attributes r.attributes))
    (balanced_block_marks _ (balanced_flat_map fun f _ => field_balanced f))

theorem variant_balanced (v : VariantDecl) : Balanced v.marks :=
  balanced_append (balanced_append (balanced_docs v.docs) (balanced_attributes v.attributes))
    (balanced_line _)

theorem union_balanced (u : UnionDecl) : Balanced u.marks := by
  have head := balanced_append (balanced_docs u.docs) (balanced_attributes u.attributes)
  have variants : Balanced (u.variants.flatMap VariantDecl.marks) :=
    balanced_flat_map fun v _ => variant_balanced v
  simp only [UnionDecl.marks, List.append_assoc, List.singleton_append]
  rw [← List.append_assoc]
  exact balanced_append head (balanced_block _ variants)

mutual

theorem stmt_balanced (s : Stmt) : Balanced s.marks :=
  match s with
  | .run _ => balanced_line _
  | .result _ => balanced_line _
  | .ifLet _ _ body => balanced_block _ (stmts_balanced body)

theorem stmts_balanced (ss : List Stmt) : Balanced (stmtsMarks ss) :=
  match ss with
  | [] => .nil
  | s :: r => balanced_append (stmt_balanced s) (stmts_balanced r)

end

theorem arm_balanced (a : Arm) : Balanced a.marks := by
  unfold Arm.marks
  split
  · exact balanced_line _
  · exact balanced_block _ (stmts_balanced _)

theorem body_balanced (b : Body) : Balanced b.marks := by
  cases b with
  | block stmts => exact stmts_balanced stmts
  | cases subject arms =>
    exact balanced_block _ (balanced_flat_map fun a _ => arm_balanced a)

theorem function_balanced (f : Function) : Balanced f.marks :=
  balanced_append (balanced_docs f.docs) (balanced_block _ (body_balanced f.body))

theorem methods_balanced (m : MethodsDecl) : Balanced m.marks := by
  refine balanced_append (balanced_attributes m.attributes) (balanced_block_marks _ ?_)
  refine balanced_spaced fun g member => ?_
  obtain ⟨f, -, rfl⟩ := List.mem_map.mp member
  exact function_balanced f

mutual

theorem item_balanced (i : Item) : Balanced i.marks :=
  match i with
  | .record r => record_balanced r
  | .union u => union_balanced u
  | .methods m => methods_balanced m
  | .module docs _ _ items =>
    balanced_append (balanced_docs docs) (balanced_block _ (items_balanced items))

theorem items_balanced (is : List Item) : Balanced (itemsMarks is) :=
  match is with
  | [] => .nil
  | [i] => item_balanced i
  | i :: j :: r => balanced_append (item_balanced i) (.line (items_balanced (j :: r)))

end

end ErrorUnion
