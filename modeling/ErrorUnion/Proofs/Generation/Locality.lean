import ErrorUnion.Proofs.Decl.Layout
import ErrorUnion.Proofs.Generation.Plan

/- Generated source in blocks. Names are resolved for a whole model and all text goes on one sheet,
   yet no name is changed for another one and no text for what stands before it. So the declarations
   of a structure or an operation are the same text in the source of every model that declares it
   so. -/
namespace ErrorUnion
open Text Name

def itemsText (items : List Item) : String := (Sheet.empty.items items).text

/-- The declarations of a structure, whose name hangs on whether exceptions are renamed. -/
def Structure.block (s : Structure) (rename : Bool) : String :=
  itemsText (s.items ((SymbolProvider.standard rename).structureName s))

/-- The combined type of an operation that lists some structures. -/
def Operation.unionOver (o : Operation) (listed : List Structure) (rename : Bool)
    (classifier : Classifier) : CombinedError :=
  let p := SymbolProvider.standard rename
  let shapes := listed.filterMap fun s => s.fault.map (s.shape (p.structureName s))
  ErrorSet.combinedOf ⟨p.operationName o, o.documentation, shapes⟩ classifier

def Operation.block (o : Operation) (listed : List Structure) (options : Options)
    (classifier : Classifier) : String :=
  itemsText ((o.unionOver listed options.renameExceptions classifier).items options.runtimeCrate)

namespace Model

def listed (m : Model) (o : Operation) : List Structure := o.errors.filterMap m.structure?

def recordBlocks (m : Model) (options : Options) : List String :=
  m.structures.map fun s => s.block options.renameExceptions

def unionBlocks (m : Model) (options : Options) (classifier : Classifier) : List String :=
  m.operations.map fun o => o.block (m.listed o) options classifier

end Model

def headerText (space : String) (digest : Option String) : String :=
  concat ((("Code generated by " ++ generatorId ++ " from namespace `" ++ trim space
      ++ "`. DO NOT EDIT.")
    :: (digest.map fun d => "model-sha256: " ++ d).toList).map fun t => "// " ++ t ++ "\n")

theorem union_over_listed (o : Operation) (m : Model) (rename : Bool) (classifier : Classifier) :
    o.unionIn m (.standard rename) classifier = o.unionOver (m.listed o) rename classifier := by
  simp only [Operation.unionIn, Operation.errorSetIn, Operation.unionOver, Model.listed,
    List.filterMap_filterMap]
  rfl

theorem listed_congr {m n : Model} {o : Operation}
    (same : ∀ e ∈ o.errors, m.structure? e = n.structure? e) : m.listed o = n.listed o :=
  List.filterMap_congr same

theorem comment_line (text t : String) :
    Sheet.comment ⟨text, 0⟩ t = ⟨text ++ ("// " ++ t ++ "\n"), 0⟩ := by
  have filled : "// " ++ t ≠ "" := by simp
  simp only [Sheet.comment, Sheet.line, lineText, filled, if_false, indentation,
    String.empty_append]

theorem comments_sheet (texts : List String) (text : String) :
    texts.foldl Sheet.comment ⟨text, 0⟩ =
      ⟨text ++ concat (texts.map fun t => "// " ++ t ++ "\n"), 0⟩ := by
  induction texts generalizing text with
  | nil => simp only [List.foldl_nil, List.map_nil, concat, String.append_empty]
  | cons t r ih =>
    rw [List.foldl_cons, comment_line, ih, List.map_cons, concat, String.append_assoc]

theorem header_sheet (v : ValidModel) :
    (headerComments v).foldl Sheet.comment Sheet.empty =
      ⟨headerText v.model.namespaceName v.digest, 0⟩ := by
  rw [Sheet.empty, comments_sheet, String.empty_append]
  rfl

theorem module_text (v : ValidModel) (items : List Item) :
    (moduleSheet v items).text =
      headerText v.model.namespaceName v.digest ++ "\n" ++ itemsText items := by
  rw [moduleSheet, header_sheet, Sheet.items, put_all_text]
  rfl

theorem joined_items_text {groups : List (List Item)} (filled : ∀ g ∈ groups, g ≠ []) :
    itemsText groups.flatten = joinWith "\n" (groups.map itemsText) := by
  have balanced : ∀ g ∈ groups.map itemsMarks, Balanced g := by
    rw [List.forall_mem_map]
    exact fun g _ => items_balanced g
  calc itemsText groups.flatten
      = marksText 0 (spaced (groups.map itemsMarks)) := by rw [← items_marks_flatten filled]; rfl
    _ = joinWith "\n" (groups.map itemsText) := by
      rw [marks_text_spaced balanced, List.map_map]
      rfl

def Model.itemGroups (m : Model) (options : Options) (classifier : Classifier) :
    List (List Item) :=
  let p := SymbolProvider.standard options.renameExceptions
  m.structures.map (fun s => s.items (p.structureName s))
    ++ m.operations.map fun o => (o.unionIn m p classifier).items options.runtimeCrate

theorem item_groups_filled (m : Model) (options : Options) (classifier : Classifier) :
    ∀ g ∈ m.itemGroups options classifier, g ≠ [] := by
  rw [Model.itemGroups, List.forall_mem_append, List.forall_mem_map, List.forall_mem_map]
  exact ⟨fun s _ => by simp [Structure.items], fun o _ => by simp [CombinedError.items]⟩

theorem item_groups_text (m : Model) (options : Options) (classifier : Classifier) :
    (m.itemGroups options classifier).map itemsText =
      m.recordBlocks options ++ m.unionBlocks options classifier := by
  simp only [Model.itemGroups, List.map_append, List.map_map, union_over_listed, Function.comp_def]
  rfl

theorem planned_text (m : Model) (options : Options) (classifier : Classifier) :
    itemsText (m.planned (.standard options.renameExceptions) classifier
        options.runtimeCrate).items =
      joinWith "\n" (m.recordBlocks options ++ m.unionBlocks options classifier) := by
  have items : (m.planned (.standard options.renameExceptions) classifier
      options.runtimeCrate).items = (m.itemGroups options classifier).flatten := by
    simp only [Model.itemGroups, Model.planned, Model.unions, List.flatMap_def,
      List.flatten_append, List.map_map, Function.comp_def]
  rw [items, joined_items_text (item_groups_filled m options classifier), item_groups_text]

theorem blocks_full (m : Model) (options : Options) (classifier : Classifier) :
    ∀ b ∈ m.recordBlocks options ++ m.unionBlocks options classifier, ∃ s, b = s ++ "\n" := by
  rw [← item_groups_text, List.forall_mem_map]
  intro g listed
  exact marks_text_full 0 (items_marks_filled (item_groups_filled m options classifier g listed))

theorem planned_unions (m : Model) (rename : Bool) (classifier : Classifier) :
    m.unions (.standard rename) classifier =
      m.operations.map fun o => o.unionOver (m.listed o) rename classifier :=
  List.map_congr_left fun o _ => union_over_listed o m rename classifier

/-- A source is its header and, behind an empty line, the blocks of all structures and those of all
operations, each in the order of the model and with an empty line between any two. -/
structure InBlocks (v : ValidModel) (o : Options) (classifier : Classifier) (g : GeneratedModule) :
    Prop where
  source : g.source = headerText v.model.namespaceName v.digest ++ "\n"
    ++ joinWith "\n" (v.model.recordBlocks o ++ v.model.unionBlocks o classifier)
  lines : ∀ b ∈ v.model.recordBlocks o ++ v.model.unionBlocks o classifier, ∃ s, b = s ++ "\n"
  combined : g.combined = v.model.operations.map fun p =>
    p.unionOver (v.model.listed p) o.renameExceptions classifier

theorem generated_in_blocks {v : ValidModel} {check : SyntaxCheck} {o : Options}
    {classifier : Classifier} {g : GeneratedModule}
    (done : v.generateChecked check o classifier = .ok g) : InBlocks v o classifier g := by
  obtain ⟨plan, planned, source, combined⟩ := generate_checked_ok done
  obtain ⟨-, -, rfl⟩ := (plan_ok_iff ..).mp planned
  constructor
  · rw [source, module_text, planned_text]
  · exact blocks_full v.model o classifier
  · rw [combined, ← planned_unions]
    rfl

/-- Generated text is local. Whatever else two models declare, and in whatever order, a structure of
both has the same block in both sources, and an operation of both the same block and combined type
if the structures that it lists are the same. Namespace and digest appear in the header only. -/
theorem generated_text_local {v w : ValidModel} {check check' : SyntaxCheck} {o : Options}
    {classifier : Classifier} {g h : GeneratedModule}
    (done : v.generateChecked check o classifier = .ok g)
    (also : w.generateChecked check' o classifier = .ok h) :
    InBlocks v o classifier g ∧ InBlocks w o classifier h ∧
      (∀ (i j : Nat) (s : Structure), v.model.structures[i]? = some s →
        w.model.structures[j]? = some s →
        ∃ block, (v.model.recordBlocks o)[i]? = some block ∧
          (w.model.recordBlocks o)[j]? = some block) ∧
      (∀ (i j : Nat) (p : Operation), v.model.operations[i]? = some p →
        w.model.operations[j]? = some p →
        (∀ e ∈ p.errors, v.model.structure? e = w.model.structure? e) →
        ∃ block c, (v.model.unionBlocks o classifier)[i]? = some block ∧
          (w.model.unionBlocks o classifier)[j]? = some block ∧
          g.combined[i]? = some c ∧ h.combined[j]? = some c) ∧
      (v.model.structures = w.model.structures → v.model.operations = w.model.operations →
        ∃ rest, g.source = headerText v.model.namespaceName v.digest ++ rest ∧
          h.source = headerText w.model.namespaceName w.digest ++ rest) := by
  have first := generated_in_blocks done
  have second := generated_in_blocks also
  refine ⟨first, second, ?records, ?unions, ?header⟩
  case records =>
    intro i j s here there
    refine ⟨s.block o.renameExceptions, ?_, ?_⟩
    · rw [Model.recordBlocks, List.getElem?_map, here, Option.map_some]
    · rw [Model.recordBlocks, List.getElem?_map, there, Option.map_some]
  case unions =>
    intro i j p here there listed
    have same := listed_congr listed
    refine ⟨p.block (v.model.listed p) o classifier,
      p.unionOver (v.model.listed p) o.renameExceptions classifier, ?_, ?_, ?_, ?_⟩
    · rw [Model.unionBlocks, List.getElem?_map, here, Option.map_some]
    · rw [Model.unionBlocks, List.getElem?_map, there, Option.map_some, same]
    · rw [first.combined, List.getElem?_map, here, Option.map_some]
    · rw [second.combined, List.getElem?_map, there, Option.map_some, same]
  case header =>
    -- Behind the header nothing looks at the model but for its declarations.
    intro structures operations
    have listed : v.model.listed = w.model.listed := by
      funext p
      exact listed_congr fun e _ => by rw [Model.structure?, structures, Model.structure?]
    refine ⟨_, by rw [first.source, String.append_assoc], ?_⟩
    rw [second.source, String.append_assoc, Model.recordBlocks, Model.recordBlocks,
      Model.unionBlocks, Model.unionBlocks, structures, operations, listed]

def listItems : Operation := ⟨"ListItems", ["BrokenStore", "Refused"], none⟩

def warehouseModel : ValidModel where
  model :=
    ⟨Model.currentVersion, "warehouse", [listItems, takeItem],
      [brokenStore, ⟨"Refused", some .client, none, none, some "Refused.", []⟩, missingItem]⟩
  digest := some "00"
  valid := by decide +kernel

theorem store_blocks_kept :
    ∃ g h, storeModel.generateChecked .byPath .default RetryPolicy.faultSide.classify = .ok g ∧
      warehouseModel.generateChecked .byPath .default RetryPolicy.faultSide.classify = .ok h ∧
      (∃ block, (storeModel.model.recordBlocks .default)[0]? = some block ∧
        (warehouseModel.model.recordBlocks .default)[2]? = some block) ∧
      ∃ block c, (storeModel.model.unionBlocks .default
          RetryPolicy.faultSide.classify)[0]? = some block ∧
        (warehouseModel.model.unionBlocks .default
          RetryPolicy.faultSide.classify)[1]? = some block ∧
        g.combined[0]? = some c ∧ h.combined[1]? = some c := by
  obtain ⟨g, done⟩ := store_generated RetryPolicy.faultSide.classify
  obtain ⟨h, also⟩ : ∃ h, warehouseModel.generateChecked .byPath .default
      RetryPolicy.faultSide.classify = .ok h := generated_under_own_path rfl (by decide +kernel) _
  obtain ⟨-, -, records, unions, -⟩ := generated_text_local done also
  exact ⟨g, h, done, also, records 0 2 missingItem rfl rfl,
    unions 0 1 takeItem rfl rfl (by decide +kernel)⟩

end ErrorUnion
