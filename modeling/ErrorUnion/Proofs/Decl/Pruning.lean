import ErrorUnion.Proofs.Decl.Layout
import ErrorUnion.Proofs.Text.Lines

/- Declarations without some of their lines of documentation and some of their attributes. Each of
   these is laid out on one line of its own, so what goes is found in the text again as the lines
   that start alike. -/
namespace ErrorUnion
open Text

/-- The first marks are the second ones without some lines, all of which say `head`. -/
inductive Thinned (head : String) : List Mark → List Mark → Prop where
  | nil : Thinned head [] []
  | keep (m : Mark) {ms ns : List Mark} : Thinned head ms ns → Thinned head (m :: ms) (m :: ns)
  | drop {text : String} {ms ns : List Mark} (line : OneLine text)
      (starts : startsWith head text.toList = true) :
      Thinned head ms ns → Thinned head ms (.line text :: ns)

section Thinned
variable {head : String}

theorem thinned_refl (ms : List Mark) : Thinned head ms ms := by
  induction ms with
  | nil => exact .nil
  | cons m r ih => exact .keep m ih

theorem thinned_append {ms ns ms' ns' : List Mark} (first : Thinned head ms ns)
    (second : Thinned head ms' ns') : Thinned head (ms ++ ms') (ns ++ ns') := by
  induction first with
  | nil => exact second
  | keep m _ ih => exact .keep m ih
  | drop line starts _ ih => exact .drop line starts ih

theorem thinned_flat_map {f g : α → List Mark} {xs : List α}
    (each : ∀ x ∈ xs, Thinned head (f x) (g x)) : Thinned head (xs.flatMap f) (xs.flatMap g) := by
  induction xs with
  | nil => exact .nil
  | cons x r ih =>
    rw [List.forall_mem_cons] at each
    exact thinned_append each.1 (ih each.2)

theorem thinned_spaced {f g : α → List Mark} {xs : List α}
    (each : ∀ x ∈ xs, Thinned head (f x) (g x)) :
    Thinned head (spaced (xs.map f)) (spaced (xs.map g)) := by
  induction xs with
  | nil => exact .nil
  | cons x r ih =>
    rw [List.forall_mem_cons] at each
    cases r with
    | nil => exact each.1
    | cons y r => exact thinned_append each.1 (.keep _ (ih each.2))

theorem thinned_block (opening : String) {ms ns : List Mark} (inner : Thinned head ms ns) :
    Thinned head (.opening opening :: (ms ++ [.closing]))
      (.opening opening :: (ns ++ [.closing])) :=
  .keep _ (thinned_append inner (thinned_refl _))

theorem thinned_block_marks (opening : String) {ms ns : List Mark} (inner : Thinned head ms ns)
    (filled : ns ≠ [] → ms ≠ []) :
    Thinned head (blockMarks opening ms) (blockMarks opening ns) := by
  cases inner with
  | nil => exact thinned_refl _
  | keep m rest => exact thinned_block opening (.keep m rest)
  | drop line starts rest =>
    cases ms with
    | nil => exact absurd rfl (filled (List.cons_ne_nil _ _))
    | cons m r => exact thinned_block opening (.drop line starts rest)

theorem thinned_lines {text : α → String} {goes : α → Bool}
    (dropped : ∀ x, goes x = true → OneLine (text x) ∧ startsWith head (text x).toList = true)
    (xs : List α) :
    Thinned head ((xs.filter fun x => !goes x).map fun x => .line (text x))
      (xs.map fun x => .line (text x)) := by
  induction xs with
  | nil => exact .nil
  | cons x r ih =>
    rw [List.filter_cons, List.map_cons]
    cases gone : goes x with
    | false => exact .keep _ ih
    | true => exact .drop (dropped x gone).1 (dropped x gone).2 ih

theorem line_indented (depth : Nat) : ∀ c ∈ (indentation depth).toList, c = ' ' := by
  induction depth with
  | zero => simp [indentation]
  | succ n ih =>
    rw [indentation, String.toList_append, List.forall_mem_append]
    exact ⟨by simp, ih⟩

theorem written_line_deleted {text : String} (line : OneLine text)
    (starts : startsWith head text.toList = true) (depth : Nat) :
    withoutLines head (lineText depth text) = "" := by
  unfold lineText
  split
  · rename_i empty
    have feed : "\n" = text ++ "\n" := by rw [empty, String.empty_append]
    rw [feed, line_deleted line starts]
  · apply line_deleted
    · rw [OneLine, String.toList_append, List.mem_append, not_or]
      exact ⟨fun feed => absurd (line_indented depth _ feed) (by decide), line⟩
    · rw [String.toList_append, starts_with_indented (line_indented depth), starts]

theorem thinned_text {ms ns : List Mark} (thinned : Thinned head ms ns) (depth : Nat) :
    withoutLines head (marksText depth ms) = withoutLines head (marksText depth ns) := by
  -- Every mark writes full lines, so that lines are deleted from the first one apart from the rest.
  induction thinned generalizing depth with
  | nil => rfl
  | keep m _ ih =>
    have ended : Ended (m.written depth) := Or.inr (written_full depth m)
    rw [marks_text_cons, marks_text_cons, without_lines_append head ended,
      without_lines_append head ended, ih]
  | @drop text _ _ line starts _ ih =>
    have ended : Ended (Mark.written depth (.line text)) := Or.inr (written_full depth _)
    rw [marks_text_cons, without_lines_append head ended, Mark.written,
      written_line_deleted line starts, String.empty_append, ih]
    rfl

end Thinned

/-- The lines of documentation and the attributes that go from declarations. -/
structure Pruning where
  doc : String → Bool
  attr : Attribute → Bool

/-- What goes is laid out on one line, which says `head`. -/
structure Pruning.Deletes (k : Pruning) (head : String) : Prop where
  doc : ∀ d, k.doc d = true → OneLine (docText d) ∧ startsWith head (docText d).toList = true
  attr : ∀ a, k.attr a = true → OneLine a.text ∧ startsWith head a.text.toList = true

namespace Pruning

def docs (k : Pruning) (ds : List String) : List String := ds.filter fun d => !k.doc d

def attributes (k : Pruning) (as : List Attribute) : List Attribute :=
  as.filter fun a => !k.attr a

def field (k : Pruning) (f : FieldDecl) : FieldDecl := { f with docs := k.docs f.docs }

def record (k : Pruning) (r : RecordDecl) : RecordDecl where
  docs := k.docs r.docs
  attributes := k.attributes r.attributes
  visibility := r.visibility
  name := r.name
  fields := r.fields.map k.field

def variant (k : Pruning) (v : VariantDecl) : VariantDecl :=
  { v with docs := k.docs v.docs, attributes := k.attributes v.attributes }

def union (k : Pruning) (u : UnionDecl) : UnionDecl where
  docs := k.docs u.docs
  attributes := k.attributes u.attributes
  visibility := u.visibility
  name := u.name
  variants := u.variants.map k.variant

def function (k : Pruning) (f : Function) : Function := { f with docs := k.docs f.docs }

def methods (k : Pruning) (m : MethodsDecl) : MethodsDecl :=
  { m with attributes := k.attributes m.attributes, functions := m.functions.map k.function }

mutual

def item (k : Pruning) : Item → Item
  | .record r => .record (k.record r)
  | .union u => .union (k.union u)
  | .methods m => .methods (k.methods m)
  | .module docs vis name items => .module (k.docs docs) vis name (k.items items)

def items (k : Pruning) : List Item → List Item
  | [] => []
  | i :: r => k.item i :: k.items r

end

theorem docs_append (k : Pruning) (ds es : List String) :
    k.docs (ds ++ es) = k.docs ds ++ k.docs es :=
  List.filter_append ds es

theorem items_eq_map (k : Pruning) (is : List Item) : k.items is = is.map k.item := by
  induction is with
  | nil => rfl
  | cons i r ih => rw [items, ih, List.map_cons]

section Layout
variable {k : Pruning} {head : String} (deletes : k.Deletes head)
include deletes

theorem docs_thinned (ds : List String) : Thinned head (docMarks (k.docs ds)) (docMarks ds) :=
  thinned_lines deletes.doc ds

theorem attributes_thinned (as : List Attribute) :
    Thinned head (attributeMarks (k.attributes as)) (attributeMarks as) :=
  thinned_lines deletes.attr as

theorem field_thinned (f : FieldDecl) : Thinned head (k.field f).marks f.marks :=
  thinned_append (docs_thinned deletes f.docs) (thinned_refl _)

theorem record_thinned (r : RecordDecl) : Thinned head (k.record r).marks r.marks := by
  refine thinned_append (thinned_append (docs_thinned deletes r.docs)
    (attributes_thinned deletes r.attributes)) (thinned_block_marks _ ?fields ?filled)
  case fields =>
    rw [record, List.flatMap_map]
    exact thinned_flat_map fun f _ => field_thinned deletes f
  case filled =>
    -- Every field keeps the line of its declaration.
    cases fields : r.fields with
    | nil => simp
    | cons f rest => simp [record, fields, FieldDecl.marks]

theorem variant_thinned (v : VariantDecl) : Thinned head (k.variant v).marks v.marks :=
  thinned_append (thinned_append (docs_thinned deletes v.docs)
    (attributes_thinned deletes v.attributes)) (thinned_refl _)

theorem union_thinned (u : UnionDecl) : Thinned head (k.union u).marks u.marks := by
  have variants : Thinned head ((u.variants.map k.variant).flatMap VariantDecl.marks)
      (u.variants.flatMap VariantDecl.marks) := by
    rw [List.flatMap_map]
    exact thinned_flat_map fun v _ => variant_thinned deletes v
  have top := thinned_append (docs_thinned deletes u.docs) (attributes_thinned deletes u.attributes)
  exact thinned_append (thinned_append (thinned_append top (thinned_refl _)) variants)
    (thinned_refl _)

theorem function_thinned (f : Function) : Thinned head (k.function f).marks f.marks :=
  thinned_append (docs_thinned deletes f.docs) (thinned_refl _)

theorem methods_thinned (m : MethodsDecl) : Thinned head (k.methods m).marks m.marks := by
  refine thinned_append (attributes_thinned deletes m.attributes)
    (thinned_block_marks _ ?functions ?filled)
  case functions =>
    rw [methods, List.map_map]
    exact thinned_spaced fun f _ => function_thinned deletes f
  case filled =>
    match functions : m.functions with
    | [] => simp [spaced]
    | [f] => simp [methods, functions, spaced, Function.marks]
    | f :: g :: r => simp [methods, functions, spaced]

end Layout

mutual

theorem item_thinned {k : Pruning} {head : String} (deletes : k.Deletes head) (i : Item) :
    Thinned head (k.item i).marks i.marks :=
  match i with
  | .record r => record_thinned deletes r
  | .union u => union_thinned deletes u
  | .methods m => methods_thinned deletes m
  | .module docs _ _ items =>
    thinned_append (docs_thinned deletes docs) (thinned_block _ (items_thinned deletes items))

theorem items_thinned {k : Pruning} {head : String} (deletes : k.Deletes head) (is : List Item) :
    Thinned head (itemsMarks (k.items is)) (itemsMarks is) :=
  match is with
  | [] => .nil
  | [i] => item_thinned deletes i
  | i :: j :: r =>
    thinned_append (item_thinned deletes i) (.keep _ (items_thinned deletes (j :: r)))

end

end Pruning

end ErrorUnion
