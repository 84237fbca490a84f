import ErrorUnion.Proofs.Generation.Namespace
import ErrorUnion.Proofs.Union.Nesting

/- Generated source as code. Names and paths are words, prose stands in comments line by line, and
   all else that is taken from a model is quoted, so no text of a model can leave the place that it
   was put in. -/
namespace ErrorUnion
open Text Name Digest

theorem structure_name_plain {s : Structure} (sound : s.Sound) (rename : Bool) :
    ((SymbolProvider.standard rename).structureName s).Plain := by
  have word := type_name_is_word (structure_ident_type_name sound rename)
  exact ⟨word_plain word, escape_plain (snake_plain word)⟩

theorem union_variant_plain {m : Model} (sound : m.Sound) (rename : Bool)
    (classifier : Classifier) {o : Operation} :
    ∀ v ∈ (o.unionIn m (.standard rename) classifier).variants, v.Plain := by
  rw [Operation.unionIn, ErrorSet.combinedOf, List.forall_mem_append, List.forall_mem_map]
  constructor
  · intro e listed
    obtain ⟨s, fault, declared, -, -, rfl⟩ := shape_of_listed_error listed
    have word := type_name_is_word (structure_ident_type_name (sound.structures s declared) rename)
    refine ⟨word_plain word, ?_, ?_⟩
    · rintro e k ⟨⟩
      exact word_plain word
    · rintro e k ⟨⟩
      exact snake_plain word
  · have generic : Plain genericVariant := by decide
    have unhandled : Plain unhandledVariant := by decide
    rw [fallbackVariants, List.forall_mem_cons, List.forall_mem_singleton]
    exact ⟨⟨generic, by simp, by simp⟩, ⟨unhandled, by simp, by simp⟩⟩

theorem union_plain {m : Model} (sound : m.Sound) (rename : Bool) (classifier : Classifier)
    {c : CombinedError} (listed : c ∈ m.unions (.standard rename) classifier) : c.Plain := by
  obtain ⟨o, declared, rfl⟩ := List.mem_map.mp listed
  have word := (sound.operations o declared).typeName
  have named := union_name_type_name (sound.operations o declared) rename
  exact ⟨word_plain (type_name_is_word named), word_plain (type_name_is_word word),
    union_variant_plain sound rename classifier⟩

theorem planned_contained {m : Model} (sound : m.Sound) (rename : Bool) (classifier : Classifier)
    {runtime : String} (path : IsCratePath runtime) :
    itemsContained (m.planned (.standard rename) classifier runtime).items := by
  rw [items_contained_iff]
  intro i member
  rcases mem_planned_items.mp member with ⟨s, declared, record⟩ | ⟨c, listed, union⟩
  · have members := (sound.structures s declared).memberNames
    exact structure_items_contained (structure_name_plain (sound.structures s declared) rename)
      (fun m listed => (members m listed).1) i record
  · exact union_items_contained (union_plain sound rename classifier listed) (crate_path_plain path)
      i union

theorem digest_one_line (message : List UInt8) : OneLine (sha256Hex message) := by
  simp [OneLine, sha256Hex, hexWord, hexByte]

theorem namespace_one_line {name : String} (valid : namespaceFault? name = none) :
    OneLine (trim name) := by
  intro feed
  rw [namespace_fault_none_iff] at valid
  rcases char_in_piece '.' feed with dot | ⟨segment, listed, inside⟩
  · exact absurd dot (by decide)
  · have char := word_chars word_start_is_word_char (valid segment listed) _ inside
    exact absurd char (by decide)

/-- The ways to a valid model: by its rules alone, or from a document, whose digest it keeps. -/
def ValidModel.Obtained (v : ValidModel) : Prop :=
  v.model.validate none = .ok v ∨ ∃ text, ValidModel.load text = .ok v

theorem load_digest {text : String} {v : ValidModel} (done : ValidModel.load text = .ok v) :
    v.digest = some (sha256Hex text.toUTF8.toList) := by
  unfold ValidModel.load at done
  split at done
  · cases done
  · split at done
    · cases done
    · rename_i w valid
      cases done
      exact (validated valid).2

theorem header_one_line {v : ValidModel} (origin : v.Obtained) :
    ∀ t ∈ headerComments v, OneLine t := by
  have space := namespace_one_line v.sound.space
  rw [headerComments, List.forall_mem_cons]
  constructor
  · exact one_line_append (one_line_append (by decide) space) (by decide)
  · intro t member
    simp only [Option.mem_toList, Option.map_eq_some_iff] at member
    obtain ⟨d, given, rfl⟩ := member
    rcases origin with valid | ⟨text, loaded⟩
    · rw [(validated valid).2] at given
      cases given
    · rw [load_digest loaded] at given
      cases given
      exact one_line_append (by decide) (digest_one_line _)

/-- Whatever the texts of a model are, and whatever the options: in generated source, every string
literal closes on its line, and outside of literals and comments all delimiters close in turn. -/
theorem generated_source_nested {v : ValidModel} (origin : v.Obtained) {check : SyntaxCheck}
    {o : Options} {classifier : Classifier} {g : GeneratedModule}
    (done : v.generateChecked check o classifier = .ok g) : Nested g.source := by
  obtain ⟨plan, planned, source, -⟩ := generate_checked_ok done
  obtain ⟨path, -, rfl⟩ := (plan_ok_iff ..).mp planned
  have start : Reads [] Sheet.empty.text [] := fun _ _ => rfl
  have header := comments_read (header_one_line origin) start
  have blank := line_reads header (reads_inert blank_settled [])
  have items := items_read (planned_contained v.sound o.renameExceptions classifier path) blank
  rw [source]
  exact nested_of_inert items

def unrulyModel : ValidModel where
  model :=
    ⟨Model.currentVersion, " store ", [⟨"Take", ["Broken"], some "*/ \x7b\r\n#[doc = \"(\"]"⟩],
      [⟨"Broken", some .client, none, some ⟨some "\\\")]\nfn f() \x7b", some "\"\\"⟩,
        some "~~~\n\" ]\r) // \u2028 \x7d", [⟨"message", .string, some "\"\"\""⟩]⟩]⟩
  digest := none
  valid := by decide +kernel

theorem unruly_source_nested :
    unrulyModel.Obtained ∧ ∃ g, unrulyModel.generateChecked .byPath .default
      RetryPolicy.faultSide.classify = .ok g ∧ Nested g.source := by
  have origin : unrulyModel.Obtained := Or.inl (validate_valid unrulyModel)
  obtain ⟨g, done⟩ : ∃ g, unrulyModel.generateChecked .byPath .default
      RetryPolicy.faultSide.classify = .ok g := generated_under_own_path rfl (by decide +kernel) _
  exact ⟨origin, g, done, generated_source_nested origin done⟩

end ErrorUnion
