import ErrorUnion.Decl.Sheet
import ErrorUnion.Proofs.Text.Literals

/- Deprecations as attributes. What a deprecation says stands in literals, so it can neither end the
   attribute nor change it, and a reader of the attribute gets back both texts. -/
namespace ErrorUnion
open Text

/-- The forms of the attribute, with a literal for each text that is given. -/
inductive DeprecationText : Option String → Option String → String → Prop where
  | bare : DeprecationText none none "#[deprecated]"
  | since {s lit : String} : LiteralOf s lit →
      DeprecationText none (some s) ("#[deprecated(since = " ++ lit ++ ")]")
  | note {s lit : String} : LiteralOf s lit →
      DeprecationText (some s) none ("#[deprecated(note = " ++ lit ++ ")]")
  | both {s t lit other : String} : LiteralOf s lit → LiteralOf t other →
      DeprecationText (some t) (some s)
        ("#[deprecated(since = " ++ lit ++ ", note = " ++ other ++ ")]")

def readArg? (name : String) (cs : List Char) : Option (String × List Char) :=
  match afterHead? (name ++ " = \"").toList cs with
  | some r => (Reading.text.read r).map fun (s, rest) => (String.ofList s, rest)
  | none => none

def readArgs? (args : List Char) : Option (Option String × Option String) :=
  match readArg? "since" args with
  | some (since, [')', ']']) => some (none, some since)
  | some (since, ',' :: ' ' :: rest) => match readArg? "note" rest with
    | some (note, [')', ']']) => some (some note, some since)
    | _ => none
  | some _ => none
  | none => match readArg? "note" args with
    | some (note, [')', ']']) => some (some note, none)
    | _ => none

def readDeprecation? (text : String) : Option (Option String × Option String) :=
  match afterHead? "#[deprecated".toList text.toList with
  | some [']'] => some (none, none)
  | some ('(' :: args) => readArgs? args
  | _ => none

section Texts
variable (n s : String)

theorem note_text :
    (Attribute.deprecated (some n) none).text = "#[deprecated(note = " ++ quote n ++ ")]" := by
  apply String.toList_injective
  simp [Attribute.text, deprecationArgs, joinWith]

theorem since_text :
    (Attribute.deprecated none (some s)).text = "#[deprecated(since = " ++ quote s ++ ")]" := by
  apply String.toList_injective
  simp [Attribute.text, deprecationArgs, joinWith]

theorem both_text :
    (Attribute.deprecated (some n) (some s)).text =
      "#[deprecated(since = " ++ quote s ++ ", note = " ++ quote n ++ ")]" := by
  apply String.toList_injective
  simp [Attribute.text, deprecationArgs, joinWith]

end Texts

theorem deprecation_text (note since : Option String) :
    DeprecationText note since (Attribute.deprecated note since).text := by
  cases since with
  | none =>
    cases note with
    | none => exact .bare
    | some n => exact note_text n ▸ .note (quote_literal n)
  | some s =>
    cases note with
    | none => exact since_text s ▸ .since (quote_literal s)
    | some n => exact both_text n s ▸ .both (quote_literal s) (quote_literal n)

theorem read_arg (name s : String) (rest : List Char) :
    readArg? name ((name ++ " = ").toList ++ ((quote s).toList ++ rest)) = some (s, rest) := by
  have split : (name ++ " = ").toList ++ ((quote s).toList ++ rest) =
      (name ++ " = \"").toList ++ (s.toList.flatMap escape ++ '"' :: rest) := by
    simp [quote, quoteChars]
  simp only [readArg?, split, (after_head_iff ..).mpr rfl, read_escapes, Option.map_some,
    String.ofList_toList]

theorem read_behind_opening {text : String} {args : List Char}
    (opened : text.toList = "#[deprecated".toList ++ '(' :: args) :
    readDeprecation? text = readArgs? args := by
  simp only [readDeprecation?, opened, (after_head_iff ..).mpr rfl]

theorem deprecation_read (note since : Option String) :
    readDeprecation? (Attribute.deprecated note since).text = some (note, since) := by
  cases since with
  | none =>
    cases note with
    | none => rfl
    | some n =>
      have args : (Attribute.deprecated (some n) none).text.toList = "#[deprecated".toList ++
          '(' :: (("note" ++ " = ").toList ++ ((quote n).toList ++ [')', ']'])) := by
        simp [note_text]
      have other (rest : List Char) : readArg? "since" (("note" ++ " = ").toList ++ rest) = none :=
        rfl
      simp only [read_behind_opening args, readArgs?, other, read_arg]
  | some s =>
    cases note with
    | none =>
      have args : (Attribute.deprecated none (some s)).text.toList = "#[deprecated".toList ++
          '(' :: (("since" ++ " = ").toList ++ ((quote s).toList ++ [')', ']'])) := by
        simp [since_text]
      simp only [read_behind_opening args, readArgs?, read_arg]
    | some n =>
      have args : (Attribute.deprecated (some n) (some s)).text.toList = "#[deprecated".toList ++
          '(' :: (("since" ++ " = ").toList ++ ((quote s).toList ++ (',' :: ' ' ::
            (("note" ++ " = ").toList ++ ((quote n).toList ++ [')', ']']))))) := by
        simp [both_text]
      simp only [read_behind_opening args, readArgs?, read_arg]

/-- Every text is exact as a literal, and so are the texts of a deprecation, which is read back from
its attribute. -/
theorem literals_exact :
    (∀ s, LiteralOf s (quote s)) ∧
      ∀ note since : Option String,
        DeprecationText note since (Attribute.deprecated note since).text ∧
          readDeprecation? (Attribute.deprecated note since).text = some (note, since) :=
  ⟨quote_literal, fun note since => ⟨deprecation_text note since, deprecation_read note since⟩⟩

example :
    readDeprecation? "#[deprecated(since = \"\\\"\", note = \")]\\u\x7b301\x7d\")]" =
      some (some ")]\u0301", some "\"") := by
  decide +kernel

end ErrorUnion
