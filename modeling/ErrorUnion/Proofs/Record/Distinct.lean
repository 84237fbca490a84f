import Mathlib.Data.List.Perm.Basic
import ErrorUnion.Proofs.Model.Rules
import ErrorUnion.Proofs.Name.Escape
import ErrorUnion.Record.Decls

/- What the declarations of a structure define side by side. The record, its accessors and the
   fields of its builder never define a name twice. The setters of the builder do exactly if a
   member is named like the setter of one whose own name is a keyword. -/
namespace ErrorUnion
open Text Name

mutual

/-- The names that stand side by side: fields of a record, variants of a union, methods of one
group. -/
def Item.blocks : Item → List (List String)
  | .record r => [r.fields.map FieldDecl.name]
  | .union u => [u.variants.map VariantDecl.name]
  | .methods m => [m.functions.map Function.name]
  | .module _ _ _ items => itemsBlocks items

def itemsBlocks : List Item → List (List String)
  | [] => []
  | i :: r => i.blocks ++ itemsBlocks r

end

abbrev DefinesOnce (items : List Item) : Prop := ∀ names ∈ itemsBlocks items, WordsDistinct names

def Structure.fieldNames (s : Structure) : List String := s.members.map Member.field

def Structure.setterNames (s : Structure) : List String :=
  s.members.flatMap fun m => [m.field, m.setter]

theorem accessor_name (m : Member) : m.accessor.name = m.field := by
  unfold Member.accessor
  split
  rfl

theorem value_setter_name (m : Member) : m.valueSetter.name = m.field := by
  unfold Member.valueSetter
  split <;> rfl

theorem option_setter_name (m : Member) : m.optionSetter.name = m.setter := rfl

theorem accessors_block (s : Structure) (name : ShapeName) :
    (s.accessors name).functions.map Function.name = s.fieldNames ++ ["builder"] := by
  have names : Function.name ∘ Member.accessor = Member.field := funext accessor_name
  simp only [Structure.accessors, List.map_append, List.map_map, names, Structure.fieldNames]
  rfl

theorem builder_methods_block (s : Structure) (name : ShapeName) :
    (s.builderMethods name).functions.map Function.name = s.setterNames ++ ["build"] := by
  simp only [Structure.builderMethods, List.map_append, List.map_flatMap, Structure.setterNames,
    List.map_cons, List.map_nil, value_setter_name, option_setter_name]
  rfl

theorem record_fields_block (s : Structure) (name : ShapeName) :
    (s.recordDecl name).fields.map FieldDecl.name = s.fieldNames := by
  simp [Structure.recordDecl, Structure.fieldNames, Member.fieldDecl, Function.comp_def]

theorem builder_fields_block (s : Structure) (name : ShapeName) :
    (s.builderDecl name).fields.map FieldDecl.name = s.fieldNames := by
  simp [Structure.builderDecl, Structure.fieldNames, Member.builderField, Function.comp_def]

theorem record_blocks (s : Structure) (name : ShapeName) :
    itemsBlocks (s.items name) =
      [s.fieldNames, s.fieldNames ++ ["builder"]] ++ (if s.isError then [["fmt"], []] else [])
        ++ [s.fieldNames, s.setterNames ++ ["build"]] := by
  by_cases error : s.isError = true
  · simp [Structure.items, Structure.errorItems, Structure.builderItem, error, itemsBlocks,
      Item.blocks, record_fields_block, builder_fields_block, accessors_block,
      builder_methods_block, Function.method, Function.withVisibility]
  · simp [Structure.items, Structure.errorItems, Structure.builderItem, error, itemsBlocks,
      Item.blocks, record_fields_block, builder_fields_block, accessors_block,
      builder_methods_block]

structure Structure.FieldsSound (s : Structure) : Prop where
  memberNames : ∀ m ∈ s.members, IsWord m.name ∧ ∃ c ∈ m.name.toList, c ≠ '_'
  unreserved : ∀ m ∈ s.members, snakeCase m.name ∉ reservedFields
  fields : (s.members.map Member.field).Nodup

/-- A structure that keeps every rule may stand where these are asked for. -/
instance (s : Structure) : Coe s.Sound s.FieldsSound where
  coe sound := ⟨sound.memberNames, sound.unreserved, sound.fields⟩

theorem shown_field {m : Member} (word : IsWord m.name) :
    Value.shownName m.field = plainWord (snakeCase m.name) :=
  shown_escape (no_hash_in_snake word)

theorem fields_shown_distinct {s : Structure} (sound : s.FieldsSound) :
    (s.fieldNames.map Value.shownName).Nodup := by
  refine List.Nodup.map_on ?_ sound.fields
  intro x hx y hy same
  obtain ⟨a, ha, rfl⟩ := List.mem_map.mp hx
  obtain ⟨b, hb, rfl⟩ := List.mem_map.mp hy
  rw [shown_field (sound.memberNames a ha).1, shown_field (sound.memberNames b hb).1] at same
  exact escape_eq_of_plain_eq same

theorem plain_word_setter_iff (word rest : String) :
    plainWord word = "set_" ++ rest ↔ word = "set_" ++ rest := by
  have bare : ∀ w ∈ bareWords, (w ++ "_").toList.take 4 ≠ "set_".toList ∧
      w.toList.take 4 ≠ "set_".toList := by decide
  have taken : ("set_" ++ rest).toList.take 4 = "set_".toList := by
    simp [String.toList_append]
  by_cases special : word ∈ bareWords
  · rw [plainWord, if_pos special]
    constructor
    · intro same
      exact absurd (same ▸ taken) (bare word special).1
    · intro same
      exact absurd (same ▸ taken) (bare word special).2
  · rw [plain_word_of_not_bare special]

theorem shown_setter (rest : String) : Value.shownName ("set_" ++ rest) = "set_" ++ rest := by
  simp [Value.shownName, String.toList_append]

theorem setters_distinct {s : Structure} (sound : s.FieldsSound) :
    (s.members.map Member.setter).Nodup := by
  refine List.Nodup.map_on ?_ (List.Nodup.of_map _ sound.fields)
  intro a ha b hb same
  have snake : snakeCase a.name = snakeCase b.name := by
    simpa [Member.setter, String.append_right_inj] using same
  exact List.inj_on_of_nodup_map sound.fields ha hb (congrArg escapeIdent snake)

def Structure.SettersApart (s : Structure) : Prop :=
  ∀ a ∈ s.members, ∀ b ∈ s.members, snakeCase a.name ≠ b.setter

theorem plain_word_not_reserved {word : String} (free : word ∉ reservedFields) :
    plainWord word ∉ reservedFields := by
  have bare : ∀ w ∈ bareWords, w ++ "_" ∉ reservedFields := by decide
  by_cases special : word ∈ bareWords
  · rw [plainWord, if_pos special]
    exact bare word special
  · rwa [plain_word_of_not_bare special]

theorem field_not_reserved {s : Structure} (sound : s.FieldsSound) {m : Member}
    (member : m ∈ s.members) : Value.shownName m.field ∉ reservedFields := by
  rw [shown_field (sound.memberNames m member).1]
  exact plain_word_not_reserved (sound.unreserved m member)

theorem accessors_distinct {s : Structure} (sound : s.FieldsSound) :
    WordsDistinct (s.fieldNames ++ ["builder"]) := by
  rw [WordsDistinct, List.map_append, List.nodup_append]
  refine ⟨fields_shown_distinct sound, List.nodup_singleton _, ?_⟩
  intro x hx y hy same
  obtain ⟨f, hf, rfl⟩ := List.mem_map.mp hx
  obtain ⟨m, hm, rfl⟩ := List.mem_map.mp hf
  have entry : y = "builder" := by simpa [Value.shownName] using hy
  rw [entry] at same
  exact field_not_reserved sound hm (by rw [same]; decide)

theorem setters_shown (s : Structure) :
    (s.fieldNames.map Value.shownName ++ s.members.map Member.setter).Perm
      (s.setterNames.map Value.shownName) := by
  have setters : s.members.map Member.setter =
      s.members.flatMap fun m => [Value.shownName m.setter] := by
    rw [← List.map_eq_flatMap]
    exact List.map_congr_left fun m _ => (shown_setter (snakeCase m.name)).symm
  have both : s.setterNames.map Value.shownName =
      s.members.flatMap fun m => Value.shownName m.field :: [Value.shownName m.setter] := by
    simp only [Structure.setterNames, List.map_flatMap, List.map_cons, List.map_nil]
  rw [setters, both, Structure.fieldNames, List.map_map]
  exact List.map_append_flatMap_perm s.members _ _

theorem setter_not_build (m : Member) : m.setter ≠ "build" := by
  intro same
  have chars := congrArg String.toList same
  simp [Member.setter, String.toList_append] at chars

theorem fields_apart_from_setters_iff {s : Structure} (sound : s.FieldsSound) :
    (∀ x ∈ s.fieldNames.map Value.shownName, ∀ y ∈ s.members.map Member.setter, x ≠ y) ↔
      s.SettersApart := by
  constructor
  · intro apart a ha b hb same
    refine apart (Value.shownName a.field) ?_ b.setter (List.mem_map_of_mem hb) ?_
    · exact List.mem_map_of_mem (List.mem_map_of_mem ha)
    · rw [shown_field (sound.memberNames a ha).1]
      exact (plain_word_setter_iff _ _).mpr same
  · intro apart x hx y hy same
    obtain ⟨f, hf, rfl⟩ := List.mem_map.mp hx
    obtain ⟨a, ha, rfl⟩ := List.mem_map.mp hf
    obtain ⟨b, hb, rfl⟩ := List.mem_map.mp hy
    rw [shown_field (sound.memberNames a ha).1] at same
    exact apart a ha b hb ((plain_word_setter_iff _ _).mp same)

theorem builder_methods_distinct_iff {s : Structure} (sound : s.FieldsSound) :
    WordsDistinct (s.setterNames ++ ["build"]) ↔ s.SettersApart := by
  have build : ∀ x ∈ s.fieldNames.map Value.shownName ++ s.members.map Member.setter,
      ∀ y ∈ ["build"], x ≠ y := by
    intro x hx y hy
    rw [List.mem_singleton.mp hy]
    rcases List.mem_append.mp hx with field | setter
    · obtain ⟨f, hf, rfl⟩ := List.mem_map.mp field
      obtain ⟨m, hm, rfl⟩ := List.mem_map.mp hf
      exact fun same => field_not_reserved sound hm (by rw [same]; decide)
    · obtain ⟨m, -, rfl⟩ := List.mem_map.mp setter
      exact setter_not_build m
  have shownBuild : ["build"].map Value.shownName = ["build"] := by decide
  rw [WordsDistinct, List.map_append, shownBuild,
    ((setters_shown s).append_right _).symm.nodup_iff, List.nodup_append, List.nodup_append,
    ← fields_apart_from_setters_iff sound]
  constructor
  · exact fun all => all.1.2.2
  · intro apart
    exact ⟨⟨fields_shown_distinct sound, setters_distinct sound, apart⟩, List.nodup_singleton _,
      build⟩

theorem escape_setter (rest : String) : escapeIdent ("set_" ++ rest) = "set_" ++ rest := by
  have special : ∀ w ∈ bareWords ++ keywords, w.toList.take 4 ≠ "set_".toList := by decide
  have lead : ("set_" ++ rest).toList.take 4 = "set_".toList := by
    simp [String.toList_append]
  rw [escape_eq_self_iff, ← not_or, ← List.mem_append]
  exact fun member => special _ member lead

theorem setters_apart_iff {s : Structure} (sound : s.Sound) :
    s.SettersApart ↔ ∀ a ∈ s.members, ∀ b ∈ s.members,
      snakeCase b.name ∈ bareWords ∨ snakeCase b.name ∈ keywords →
        snakeCase a.name ≠ b.setter := by
  constructor
  · exact fun apart a ha b hb _ => apart a ha b hb
  · intro apart a ha b hb same
    by_cases escaped : snakeCase b.name ∈ bareWords ∨ snakeCase b.name ∈ keywords
    · exact apart a ha b hb escaped same
    · rw [not_or] at escaped
      have field : b.field = snakeCase b.name := (escape_eq_self_iff _).mpr escaped
      have setter : a.field = "set_" ++ b.field := by
        rw [Member.field, same, Member.setter, escape_setter, field]
      exact sound.setters a ha b hb setter

theorem defines_once_iff {s : Structure} (sound : s.FieldsSound) (name : ShapeName) :
    DefinesOnce (s.items name) ↔ s.SettersApart := by
  rw [← builder_methods_distinct_iff sound, DefinesOnce, record_blocks]
  constructor
  · intro once
    exact once _ (by simp)
  · intro methods names member
    simp only [List.mem_append, List.mem_cons, List.not_mem_nil, or_false] at member
    rcases member with ((rfl | rfl) | error) | rfl | rfl
    · exact fields_shown_distinct sound
    · exact accessors_distinct sound
    · have small : ∀ block ∈ [["fmt"], []], WordsDistinct block := by decide
      by_cases shown : s.isError = true
      · exact small names (by simpa [shown] using error)
      · simp [shown] at error
    · exact fields_shown_distinct sound
    · exact methods

/-- In a valid model the fields of a record, those of its builder and the accessors never clash.
The declarations as a whole define nothing twice exactly if, in addition, no member is called by
the setter of one whose own name is a keyword. -/
theorem declared_once_iff (v : ValidModel) (s : Structure) (member : s ∈ v.model.structures)
    (name : ShapeName) :
    DefinesOnce [.record (s.recordDecl name), .methods (s.accessors name),
        .record (s.builderDecl name)] ∧
      (DefinesOnce (s.items name) ↔ ∀ a ∈ s.members, ∀ b ∈ s.members,
        snakeCase b.name ∈ bareWords ∨ snakeCase b.name ∈ keywords →
          snakeCase a.name ≠ b.setter) := by
  have sound := v.sound.structures s member
  constructor
  · simp only [DefinesOnce, itemsBlocks, Item.blocks, record_fields_block, builder_fields_block,
      accessors_block, List.append_nil, List.cons_append, List.nil_append, List.mem_cons,
      List.not_mem_nil, or_false, forall_eq_or_imp, forall_eq]
    exact ⟨fields_shown_distinct sound, accessors_distinct sound, fields_shown_distinct sound⟩
  · rw [defines_once_iff sound, setters_apart_iff sound]

def taggedRecord : Structure where
  name := "Tagged"
  fault := none
  retryable := none
  deprecated := none
  documentation := none
  members := [⟨"type", .string, none⟩, ⟨"setLabel", .boolean, none⟩]

def clashingRecord : Structure :=
  { taggedRecord with
    name := "Clashing"
    members := [⟨"type", .string, none⟩, ⟨"setType", .string, none⟩] }

def taggedModel : ValidModel where
  model := ⟨Model.currentVersion, "example", [], [taggedRecord, clashingRecord]⟩
  digest := none
  valid := by decide +kernel

theorem tagged_record_declared_once : DefinesOnce (taggedRecord.items ⟨"Tagged", "Tagged"⟩) :=
  (declared_once_iff taggedModel taggedRecord (by simp [taggedModel]) _).2.mpr
    (by decide +kernel)

theorem clashing_record_declared_twice :
    ¬ ∀ v : ValidModel, ∀ s ∈ v.model.structures, ∀ name, DefinesOnce (s.items name) := by
  intro all
  have once := all taggedModel clashingRecord (by simp [taggedModel]) ⟨"Clashing", "Clashing"⟩
  exact absurd once (by decide +kernel)

end ErrorUnion
