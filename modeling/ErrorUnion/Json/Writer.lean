import ErrorUnion.Json.Schema

/- JSON values to be written, and their text in one line or indented by two spaces. A value of a
   schema is written with its fields in declaration order, absent optional ones left out. -/
namespace ErrorUnion.Json

inductive Tree where
  | null
  | flag (value : Bool)
  | text (value : String)
  | list (items : List Tree)
  | object (fields : List (String × Tree))

def hexPair (n : Nat) : List Char := [Nat.digitChar (n / 16), Nat.digitChar (n % 16)]

def escapeChar (c : Char) : List Char :=
  if c = '"' then ['\\', '"']
  else if c = '\\' then ['\\', '\\']
  else if c = '\x08' then ['\\', 'b']
  else if c = '\x0c' then ['\\', 'f']
  else if c = '\n' then ['\\', 'n']
  else if c = '\r' then ['\\', 'r']
  else if c = '\t' then ['\\', 't']
  else if c.toNat < 0x20 then ['\\', 'u', '0', '0'] ++ hexPair c.toNat
  else [c]

def textLiteral (s : String) : List Char := '"' :: (s.toList.flatMap escapeChar ++ ['"'])

mutual

def Tree.compact : Tree → List Char
  | .null => ['n', 'u', 'l', 'l']
  | .flag true => ['t', 'r', 'u', 'e']
  | .flag false => ['f', 'a', 'l', 's', 'e']
  | .text s => textLiteral s
  | .list items => '[' :: (compactItems items ++ [']'])
  | .object fields => '{' :: (compactFields fields ++ ['}'])

def compactItems : List Tree → List Char
  | [] => []
  | [t] => t.compact
  | t :: u :: r => t.compact ++ ',' :: compactItems (u :: r)

def compactFields : List (String × Tree) → List Char
  | [] => []
  | [(k, t)] => textLiteral k ++ ':' :: t.compact
  | (k, t) :: u :: r => textLiteral k ++ ':' :: (t.compact ++ ',' :: compactFields (u :: r))

end

def newline (depth : Nat) : List Char := '\n' :: List.replicate (2 * depth) ' '

mutual

def Tree.pretty (depth : Nat) : Tree → List Char
  | .null => ['n', 'u', 'l', 'l']
  | .flag true => ['t', 'r', 'u', 'e']
  | .flag false => ['f', 'a', 'l', 's', 'e']
  | .text s => textLiteral s
  | .list [] => ['[', ']']
  | .list (t :: r) => '[' :: (prettyItems (depth + 1) (t :: r) ++ newline depth ++ [']'])
  | .object [] => ['{', '}']
  | .object (f :: r) => '{' :: (prettyFields (depth + 1) (f :: r) ++ newline depth ++ ['}'])

def prettyItems (depth : Nat) : List Tree → List Char
  | [] => []
  | [t] => newline depth ++ t.pretty depth
  | t :: u :: r => newline depth ++ t.pretty depth ++ ',' :: prettyItems depth (u :: r)

def prettyFields (depth : Nat) : List (String × Tree) → List Char
  | [] => []
  | [(k, t)] => newline depth ++ textLiteral k ++ ':' :: ' ' :: t.pretty depth
  | (k, t) :: u :: r =>
    newline depth ++ textLiteral k ++ ':' :: ' ' :: t.pretty depth
      ++ ',' :: prettyFields depth (u :: r)

end

def Presence.write {α : Type} (write : α → Tree) : (p : Presence) → p.Slot α → Option Tree
  | .required, a => some (write a)
  | .nullable, none => some .null
  | .nullable, some a => some (write a)
  | .optional, none => none
  | .optional, some a => some (write a)
  | .lenient, a => some (write a)

def tagName (first : String) (others : List String) (i : Nat) : String :=
  ((first :: others)[i]?).getD first

mutual

def Schema.write : (s : Schema) → s.Val → Tree
  | .text, s => .text s
  | .flag, b => .flag b
  | .tag first others, i => .text (tagName first others i.val)
  | .list item, xs => .list (xs.map item.write)
  | .record _ _ fields, x => .object (writeFields fields x)

def writeFields : (fs : List (String × Presence × Schema)) → FieldVals fs → List (String × Tree)
  | [], _ => []
  | (name, p, s) :: fs, (x, rest) =>
    match p.write s.write x with
    | none => writeFields fs rest
    | some t => (name, t) :: writeFields fs rest

end

end ErrorUnion.Json
