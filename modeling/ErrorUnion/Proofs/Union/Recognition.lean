import ErrorUnion.Proofs.Union.Display

/- Telling the modeled errors of an operation apart from outside. Their codes are names of different
   structures. Their displays start with identifiers, and what stands behind an identifier never
   goes on with it, so that the first word of a display is the variant that wrote it. -/
namespace ErrorUnion
open Text Name

/-- The word that a text starts with. -/
def leadingWord (text : String) : String := String.ofList (text.toList.takeWhile isWordChar)

example : leadingWord "Full: Exception" = "Full" ∧
    leadingWord "FullError [Full]" = "FullError" := by
  decide

def ErrorValue.isShape : ErrorValue → Bool
  | shape _ _ _ => true
  | _ => false

def Value.variantName? : Value → Option String
  | .variant _ name _ => some name
  | _ => none

def Program.TellsCode (p : Program) (v : Value) (code : String) : Prop :=
  p.ask v "code" [] = some (.present (.text code)) ∧
    p.askKind v "code" = some (.present (.text code))

theorem leading_word_exact {word rest : String} (inside : ∀ c ∈ word.toList, isWordChar c = true)
    (stop : ∀ c, rest.toList.head? = some c → isWordChar c = false) :
    leadingWord (word ++ rest) = word := by
  have none : rest.toList.takeWhile isWordChar = [] := by
    cases chars : rest.toList with
    | nil => rfl
    | cons c r => simp [stop c (by simp [chars])]
  rw [leadingWord, String.toList_append, List.takeWhile_append_of_pos inside, none,
    List.append_nil, String.ofList_toList]

/-- Separators are no part of a word, whatever the message is. -/
theorem display_leading_word {p : SymbolProvider} {s : Structure}
    (named : IsTypeName (p.structureName s).ident) (fault : FaultSide)
    (members : Member → Option Value) :
    leadingWord ((ErrorValue.shape s fault members).display p) = (p.structureName s).ident := by
  have inside := word_chars word_start_is_word_char (type_name_is_word named)
  have blank : isWordChar ' ' = false := by decide
  have colon : isWordChar ':' = false := by decide
  simp only [ErrorValue.display]
  split
  · rw [String.append_assoc, String.append_assoc]
    exact leading_word_exact inside (by simp [String.toList_append, blank])
  · cases (ErrorValue.shape s fault members).message with
    | none =>
      have alone : leadingWord ((p.structureName s).ident ++ "") = (p.structureName s).ident :=
        leading_word_exact inside (by simp)
      rwa [String.append_empty] at alone
    | some t =>
      rw [ErrorValue.withMessage, String.append_assoc]
      exact leading_word_exact inside (by simp [String.toList_append, colon])

section Shapes
variable {m : Model} {rename : Bool} {classifier : Classifier} {runtime : String} {o : Operation}
  {e f : ErrorValue}

theorem shape_display_names_variant (sound : m.Sound)
    (resolvable : m.Resolvable (.standard rename) runtime) (declared : o ∈ m.operations)
    (fits : e.Of m o) (shape : e.isShape = true) :
    let value := e.value (.standard rename) (o.name ++ combinedSuffix)
    ∃ text, (m.program (.standard rename) classifier runtime).displayText? value = some text ∧
      value.variantName? = some (leadingWord text) := by
  intro value
  have listed := union_listed declared (.standard rename) classifier
  have member := variant_listed sound fits (.standard rename) classifier
  refine ⟨_, display_shown sound resolvable listed fits member, ?_⟩
  cases fits with
  | @shape s fault members inside _ _ _ =>
    have named := structure_ident_type_name (sound.structures s inside) rename
    rw [display_leading_word named]
    rfl
  | generic x => cases shape
  | unhandled t => cases shape

theorem shape_code_told (sound : m.Sound) (resolvable : m.Resolvable (.standard rename) runtime)
    (declared : o ∈ m.operations) (fits : e.Of m o) (shape : e.isShape = true) :
    ∃ code, e.code = some code ∧
      (m.program (.standard rename) classifier runtime).TellsCode
        (e.value (.standard rename) (o.name ++ combinedSuffix)) code := by
  have listed := union_listed declared (.standard rename) classifier
  have member := variant_listed sound fits (.standard rename) classifier
  have own := code_asked sound resolvable listed member
  have trait := kind_code_asked sound resolvable listed member
  cases e with
  | shape s fault members => exact ⟨s.name, rfl, own, trait⟩
  | generic x => cases shape
  | unhandled t => cases shape

theorem same_code_same_variant (sound : m.Sound) (first : e.Of m o) (second : f.Of m o)
    (shape : e.isShape = true) (other : f.isShape = true) (same : e.code = f.code)
    (p : SymbolProvider) (union : String) :
    (e.value p union).variantName? = (f.value p union).variantName? := by
  cases first with
  | @shape s fault members here _ _ _ =>
    cases second with
    | @shape t fault' members' there _ _ _ =>
      have named : s.name = t.name := Option.some.inj same
      rw [List.inj_on_of_nodup_map sound.structureNames here there named]
      rfl
    | generic x => cases other
    | unhandled t => cases other
  | generic x => cases shape
  | unhandled t => cases shape

end Shapes

/-- A code or a display of a modeled error of an operation is that of one variant only. The first
word of a display names the variant, whatever the record holds. -/
theorem shape_variants_told_apart {v : ValidModel} {check : SyntaxCheck} {o : Options}
    {classifier : Classifier} {g : GeneratedModule}
    (done : v.generateChecked check o classifier = .ok g) :
    ∃ plan, v.plan o classifier = .ok plan ∧ g.source = (moduleSheet v plan.items).text ∧
      ∀ operation ∈ v.model.operations,
        let program : Program := ⟨o.runtimeCrate, plan.items⟩
        let value (e : ErrorValue) : Value :=
          e.value (.standard o.renameExceptions) (operation.name ++ combinedSuffix)
        (∀ e : ErrorValue, e.Of v.model operation → e.isShape = true →
          ∃ text, program.displayText? (value e) = some text ∧
            (value e).variantName? = some (leadingWord text)) ∧
        ∀ e f : ErrorValue, e.Of v.model operation → f.Of v.model operation →
          e.isShape = true → f.isShape = true →
          (value e).variantName? ≠ (value f).variantName? →
          (∃ c d, program.TellsCode (value e) c ∧ program.TellsCode (value f) d ∧ c ≠ d) ∧
            ∃ s t, program.displayText? (value e) = some s ∧
              program.displayText? (value f) = some t ∧ s ≠ t := by
  obtain ⟨plan, planned, source, -⟩ := generate_checked_ok done
  obtain ⟨-, resolvable, rfl⟩ := (plan_ok_iff ..).mp planned
  refine ⟨_, planned, source, ?_⟩
  intro operation declared program value
  have sound := v.sound
  have named : ∀ e : ErrorValue, e.Of v.model operation → e.isShape = true →
      ∃ text, program.displayText? (value e) = some text ∧
        (value e).variantName? = some (leadingWord text) :=
    fun e fits shape => shape_display_names_variant sound resolvable declared fits shape
  refine ⟨named, ?_⟩
  intro e f first second shape other apart
  constructor
  · obtain ⟨c, code, own⟩ := shape_code_told sound resolvable declared first shape
    obtain ⟨d, code', own'⟩ := shape_code_told sound resolvable declared second other
    refine ⟨c, d, own, own', ?_⟩
    rintro rfl
    exact apart (same_code_same_variant sound first second shape other (code.trans code'.symm) _ _)
  · obtain ⟨s, shown, word⟩ := named e first shape
    obtain ⟨t, shown', word'⟩ := named f second other
    refine ⟨s, t, shown, shown', ?_⟩
    rintro rfl
    exact apart (word.trans word'.symm)

def fullShelf : Structure where
  name := "Full"
  fault := some .client
  retryable := none
  deprecated := none
  documentation := none
  members := [⟨"message", .string, none⟩]

def placeItem : Operation := ⟨"PlaceItem", ["Full", "FullException"], none⟩

def shelfModel : ValidModel where
  model := ⟨Model.currentVersion, "shelf", [placeItem],
    [fullShelf, { fullShelf with name := "FullException", members := [] }]⟩
  digest := none
  valid := by decide +kernel

def fullShelfValue : ErrorValue := .shape fullShelf .client fun _ => some (.text "Exception")

def fullExceptionValue : ErrorValue :=
  .shape { fullShelf with name := "FullException", members := [] } .client fun _ => none

theorem full_shelves_told_apart :
    ∃ g plan s t, shelfModel.generateChecked .byPath keepingNames RetryPolicy.faultSide.classify =
        .ok g ∧
      shelfModel.plan keepingNames RetryPolicy.faultSide.classify = .ok plan ∧
      let program : Program := ⟨"errgen_runtime", plan.items⟩
      program.displayText? (fullShelfValue.value (.standard false) "PlaceItemError") = some s ∧
        program.displayText? (fullExceptionValue.value (.standard false) "PlaceItemError") =
          some t ∧
        s ≠ t ∧ leadingWord s = "Full" ∧ leadingWord t = "FullException" := by
  obtain ⟨g, done⟩ : ∃ g, shelfModel.generateChecked .byPath keepingNames
      RetryPolicy.faultSide.classify = .ok g := generated_under_own_path rfl (by decide +kernel) _
  obtain ⟨plan, planned, -, told⟩ := shape_variants_told_apart done
  obtain ⟨named, apart⟩ := told placeItem (by simp [shelfModel])
  have first : fullShelfValue.Of shelfModel.model placeItem := by
    refine .shape (by simp [shelfModel]) (by simp [placeItem, fullShelf]) rfl ?_
    intro a member v set
    obtain rfl : a = ⟨"message", .string, none⟩ := by simpa [fullShelf] using member
    cases set
    exact .string "Exception"
  have second : fullExceptionValue.Of shelfModel.model placeItem := by
    refine .shape (by simp [shelfModel]) (by simp [placeItem]) rfl ?_
    intro a member
    cases member
  obtain ⟨-, s, t, shown, shown', differ⟩ := apart _ _ first second rfl rfl (by decide)
  obtain ⟨s', again, word⟩ := named _ first rfl
  obtain ⟨t', again', word'⟩ := named _ second rfl
  rw [shown] at again
  rw [shown'] at again'
  cases again
  cases again'
  exact ⟨g, plan, s, t, done, planned, shown, shown', differ, (Option.some.inj word).symm,
    (Option.some.inj word').symm⟩

end ErrorUnion
