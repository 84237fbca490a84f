/- Shapes of JSON documents as data, and the values of each shape. -/
namespace ErrorUnion.Json

inductive Presence where
  | required
  /-- Stands for nothing when `null`, or when an object leaves it out; always written. -/
  | nullable
  /-- Stands for nothing when `null` or left out, and is left out then when written. -/
  | optional
  /-- Stands for the blank value when left out; `null` is no value for it. -/
  | lenient
deriving DecidableEq

inductive Schema where
  | text
  | flag
  | tag (first : String) (others : List String)
  | list (item : Schema)
  /-- A strict record refuses fields it does not know; another one skips them. -/
  | record (title : String) (strict : Bool) (fields : List (String × Presence × Schema))

abbrev Fields := List (String × Presence × Schema)

@[reducible] def Presence.Slot : Presence → Type → Type
  | .required, α => α
  | .nullable, α => Option α
  | .optional, α => Option α
  | .lenient, α => α

mutual

@[reducible] def Schema.Val : Schema → Type
  | .text => String
  | .flag => Bool
  | .tag _ others => Fin (others.length + 1)
  | .list item => List item.Val
  | .record _ _ fields => FieldVals fields

@[reducible] def FieldVals : List (String × Presence × Schema) → Type
  | [] => Unit
  | (_, p, s) :: fs => p.Slot s.Val × FieldVals fs

end

def Presence.blank {α : Type} (a : α) : (p : Presence) → p.Slot α
  | .required => a
  | .nullable => none
  | .optional => none
  | .lenient => a

mutual

def Schema.blank : (s : Schema) → s.Val
  | .text => ""
  | .flag => false
  | .tag _ _ => (0 : Fin _)
  | .list _ => []
  | .record _ _ fields => blankFields fields

def blankFields : (fs : List (String × Presence × Schema)) → FieldVals fs
  | [] => ()
  | (_, p, s) :: fs => (p.blank s.blank, blankFields fs)

end

/-- A record under construction: each field is filled once it has been read. -/
@[reducible] def Draft : Fields → Type
  | [] => Unit
  | (_, p, s) :: fs => Option (p.Slot s.Val) × Draft fs

def Draft.empty : (fs : Fields) → Draft fs
  | [] => ()
  | _ :: fs => (none, Draft.empty fs)

end ErrorUnion.Json
