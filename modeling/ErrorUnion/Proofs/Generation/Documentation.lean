import ErrorUnion.Proofs.Generation.Pairs
import ErrorUnion.Proofs.Record.Nesting

/- Documentation in generated source. It is put in comments line by line and read for nothing else,
   so models that differ in it only are generated alike but for these comments. -/
namespace ErrorUnion
open Text Name

def Member.undocumented (a : Member) : Member := { a with documentation := none }

def Structure.undocumented (s : Structure) : Structure :=
  { s with documentation := none, members := s.members.map Member.undocumented }

def Operation.undocumented (o : Operation) : Operation := { o with documentation := none }

def Model.undocumented (m : Model) : Model :=
  m.retouched Structure.undocumented Operation.undocumented

def CombinedError.undocumented (c : CombinedError) : CombinedError :=
  { c with documentation := none }

theorem undocumented_keeps_names : KeepsNames Structure.undocumented Operation.undocumented :=
  ⟨fun _ => rfl, fun _ => rfl, fun _ => rfl⟩

/-- Takes away every line of documentation that is one line indeed. -/
def noDocs : Pruning where
  doc d := !d.toList.contains '\n'
  attr _ := false

theorem doc_text_line {d : String} (line : OneLine d) : OneLine (docText d) := by
  unfold docText
  split
  · decide
  · exact one_line_append (by decide) line

theorem doc_text_starts (d : String) : startsWith "///" (docText d).toList = true := by
  unfold docText
  split
  · decide
  · rw [String.toList_append]
    exact starts_with_append (by decide) _

theorem no_docs_deletes : noDocs.Deletes "///" := by
  constructor
  · intro d goes
    have line : OneLine d := by simpa [noDocs] using goes
    exact ⟨doc_text_line line, doc_text_starts d⟩
  · intro a goes
    cases goes

theorem lines_pruned {ds : List String} (lines : ∀ d ∈ ds, OneLine d) : noDocs.docs ds = [] := by
  rw [Pruning.docs, List.filter_eq_nil_iff]
  intro d member
  simpa [noDocs] using lines d member

theorem prose_pruned (prose : Option String) : noDocs.docs (docLines prose) = [] :=
  lines_pruned (doc_lines_one_line prose)

section Records
variable (a : Member) (s : Structure) (name : ShapeName)

theorem field_undocumented : noDocs.field a.undocumented.fieldDecl = noDocs.field a.fieldDecl := by
  simp only [Pruning.field, Member.fieldDecl, Member.docs, prose_pruned]
  rfl

theorem accessor_undocumented :
    noDocs.function a.undocumented.accessor = noDocs.function a.accessor := by
  simp only [Pruning.function, Member.accessor, Function.withDocs, Member.docs, prose_pruned]
  rfl

theorem setter_undocumented :
    noDocs.function a.undocumented.valueSetter = noDocs.function a.valueSetter := by
  simp only [Pruning.function, Member.valueSetter, Function.withDocs, Member.docs, prose_pruned]
  rfl

theorem record_undocumented :
    noDocs.record (s.undocumented.recordDecl name) = noDocs.record (s.recordDecl name) := by
  simp only [Pruning.record, Structure.recordDecl, Structure.undocumented, prose_pruned,
    List.map_map, Function.comp_def, field_undocumented]

theorem accessors_undocumented :
    noDocs.methods (s.undocumented.accessors name) = noDocs.methods (s.accessors name) := by
  simp only [Pruning.methods, Structure.accessors, Structure.undocumented, List.map_append,
    List.map_map, Function.comp_def, accessor_undocumented]

theorem message_undocumented :
    s.undocumented.messageMember? = s.messageMember?.map Member.undocumented := by
  simp only [Structure.messageMember?, Structure.undocumented, List.find?_map]
  rfl

theorem display_undocumented : s.undocumented.display name = s.display name := by
  simp only [Structure.display, message_undocumented, Option.isSome_map]

theorem setters_undocumented :
    (s.undocumented.members.flatMap fun m => [m.valueSetter, m.optionSetter]).map noDocs.function =
      (s.members.flatMap fun m => [m.valueSetter, m.optionSetter]).map noDocs.function := by
  simp only [Structure.undocumented, List.flatMap_map, List.map_flatMap, List.map_cons,
    setter_undocumented]
  rfl

theorem build_undocumented : s.undocumented.buildFunction name = s.buildFunction name := by
  simp only [Structure.buildFunction, Structure.undocumented, List.map_map]
  rfl

theorem builder_undocumented :
    noDocs.item (s.undocumented.builderItem name) = noDocs.item (s.builderItem name) := by
  have record : s.undocumented.builderDecl name = s.builderDecl name := by
    simp only [Structure.builderDecl, Structure.undocumented, List.map_map]
    rfl
  have methods : noDocs.methods (s.undocumented.builderMethods name) =
      noDocs.methods (s.builderMethods name) := by
    simp only [Pruning.methods, Structure.builderMethods, List.map_append, setters_undocumented,
      build_undocumented]
  simp only [Structure.builderItem, Pruning.item, Pruning.items, record, methods]

theorem items_undocumented :
    (s.undocumented.items name).map noDocs.item = (s.items name).map noDocs.item := by
  have errors : s.undocumented.errorItems name = s.errorItems name := by
    simp only [Structure.errorItems, display_undocumented]
    rfl
  simp only [Structure.items, List.map_append, List.map_cons, List.map_nil, errors,
    builder_undocumented, Pruning.item, record_undocumented, accessors_undocumented]

end Records

section Unions
variable (m : Model) (rename : Bool)

theorem shape_undocumented (wire : String) :
    m.undocumented.declaredShape? (.standard rename) wire =
      m.declaredShape? (.standard rename) wire := by
  have shape (s : Structure) (name : ShapeName) : s.undocumented.shape name = s.shape name := by
    funext fault
    simp only [Structure.shape, message_undocumented, Option.isSome_map]
    rfl
  simp only [Model.declaredShape?, Model.undocumented,
    retouched_structure undocumented_keeps_names, Option.bind_map, Function.comp_def,
    retouched_structure_name undocumented_keeps_names, shape]
  rfl

theorem union_undocumented (o : Operation) (classifier : Classifier) :
    o.undocumented.unionIn m.undocumented (.standard rename) classifier =
      (o.unionIn m (.standard rename) classifier).undocumented := by
  simp only [Operation.unionIn, Operation.errorSetIn, shape_undocumented]
  rfl

theorem union_docs_pruned (c : CombinedError) :
    noDocs.docs c.docs =
      noDocs.docs ["Error type for the `" ++ c.operation.ident ++ "` operation."] := by
  have lines := doc_lines_one_line c.documentation
  simp only [CombinedError.docs]
  generalize docLines c.documentation = more at lines
  cases more with
  | nil => rfl
  | cons d r =>
    have rest : noDocs.docs ("" :: d :: r) = [] :=
      lines_pruned (List.forall_mem_cons.mpr ⟨by decide, lines⟩)
    have first := noDocs.docs_append
      ["Error type for the `" ++ c.operation.ident ++ "` operation."] ("" :: d :: r)
    rwa [rest, List.append_nil] at first

theorem union_items_undocumented (c : CombinedError) (runtime : String) :
    (c.undocumented.items runtime).map noDocs.item = (c.items runtime).map noDocs.item := by
  have decl : noDocs.union (c.undocumented.decl runtime) = noDocs.union (c.decl runtime) := by
    simp only [Pruning.union, CombinedError.decl, union_docs_pruned]
    rfl
  simp only [CombinedError.items, List.map_cons, Pruning.item, decl]
  rfl

theorem unions_undocumented (classifier : Classifier) :
    m.undocumented.unions (.standard rename) classifier =
      (m.unions (.standard rename) classifier).map CombinedError.undocumented := by
  simp only [Model.unions, List.map_map, Function.comp_def, ← union_undocumented]
  simp only [Model.undocumented, Model.retouched, List.map_map, Function.comp_def]

theorem planned_undocumented (classifier : Classifier) (runtime : String) :
    (m.undocumented.planned (.standard rename) classifier runtime).items.map noDocs.item =
      (m.planned (.standard rename) classifier runtime).items.map noDocs.item := by
  simp only [Model.planned, unions_undocumented, List.map_append, List.map_flatMap,
    List.flatMap_map, union_items_undocumented]
  simp only [Model.undocumented, Model.retouched, List.flatMap_map,
    retouched_structure_name undocumented_keeps_names, items_undocumented]

end Unions

/-- Documentation never influences code. On two models that differ in it only, generation without a
check of the syntax fails with the same diagnostic, or succeeds with sources that are the same
without the lines of their documentation comments, and with combined types that differ in their
documentation at most. -/
theorem documentation_without_influence {v w : ValidModel}
    (same : v.model.undocumented = w.model.undocumented) (digest : v.digest = w.digest)
    {o : Options} (unasked : o.verifySyntax = false) (check : SyntaxCheck)
    (classifier : Classifier) :
    EndAlike v w check o classifier fun g h =>
      withoutLines "///" g.source = withoutLines "///" h.source ∧
        g.combined.map CombinedError.undocumented = h.combined.map CombinedError.undocumented := by
  have alike := retouched_outcomes no_docs_deletes undocumented_keeps_names same digest unasked
    (fun m => planned_undocumented m o.renameExceptions classifier o.runtimeCrate) check
  refine end_alike_imp alike ?_
  rintro g h - - ⟨sources, combined, combined'⟩
  refine ⟨sources, ?_⟩
  rw [combined, combined', ← unions_undocumented, ← unions_undocumented, same]

def unchecked : Options := { Options.default with verifySyntax := false }

def wordyModel : ValidModel where
  model :=
    ⟨Model.currentVersion, "wordy",
      [⟨"Take", ["Broken"], some "```\r\nlet x = 1;\n\n  \x7d // \r"⟩],
      [⟨"Broken", some .client, none, none, some "\n\n~~~ rust\n/* \"",
        [⟨"message", .string, some "/// a\rpub struct B;\r\n#[test]"⟩]⟩]⟩
  digest := none
  valid := by decide +kernel

def wordlessModel : ValidModel where
  model := wordyModel.model.undocumented
  digest := none
  valid := by decide +kernel

theorem wordy_source_alike :
    wordyModel.model.undocumented = wordlessModel.model.undocumented ∧
      ∃ g h, wordyModel.generateChecked .byPath unchecked unchecked.retryPolicy.classify = .ok g ∧
        wordlessModel.generateChecked .byPath unchecked unchecked.retryPolicy.classify = .ok h ∧
        withoutLines "///" g.source = withoutLines "///" h.source ∧
        g.combined.map CombinedError.undocumented =
          h.combined.map CombinedError.undocumented := by
  have same : wordyModel.model.undocumented = wordlessModel.model.undocumented := by decide +kernel
  obtain ⟨g, done⟩ : ∃ g, wordyModel.generateChecked .byPath unchecked
      unchecked.retryPolicy.classify = .ok g := generated_under_own_path rfl (by decide +kernel) _
  obtain ⟨h, also, alike⟩ := succeeds_alike done
    (documentation_without_influence same rfl rfl .byPath unchecked.retryPolicy.classify)
  exact ⟨same, g, h, done, also, alike⟩

end ErrorUnion
