import ErrorUnion.Text.Quoted
import ErrorUnion.Text.Pieces
import ErrorUnion.Decimal.Binary64

/- What can be wrong with a JSON document, as text and against the shape expected of it. -/
namespace ErrorUnion.Json
open ErrorUnion.Text ErrorUnion.Decimal

inductive Number where
  | integer (value : Int)
  | decimal (negative : Bool) (size : Binary64)
deriving DecidableEq

inductive Found where
  | null
  | flag (value : Bool)
  | number (value : Number)
  | text (value : String)
  | list
  | object
deriving DecidableEq

inductive Fault where
  | endInValue
  | endInObject
  | endInList
  | endInText
  | expectedValue
  | expectedWord
  | expectedColon
  | expectedCommaOrBrace
  | expectedCommaOrBracket
  | keyNotText
  | trailingComma
  | trailingCharacters
  | invalidNumber
  | numberOutOfRange
  | invalidEscape
  | controlCharacter
  | loneSurrogate
  | cutSurrogatePair
  | invalidCodePoint
  | wrongType (found : Found) (expected : String)
  | wrongLength (length : Nat) (expected : String)
  | unknownField (name : String) (known : List String)
  | unknownVariant (name : String) (known : List String)
  | duplicateField (name : String)
  | missingField (name : String)
deriving DecidableEq

def Found.describe : Found → String
  | .null => "null"
  | .flag b => "boolean `" ++ (if b then "true" else "false") ++ "`"
  | .number (.integer i) => "integer `" ++ toString i ++ "`"
  | .number (.decimal negative size) =>
    "floating point `" ++ (if negative then "-" else "") ++ size.text ++ "`"
  | .text s => "string " ++ quote s
  | .list => "sequence"
  | .object => "map"

def choices : List String → String
  | [] => "nothing"
  | [a] => "`" ++ a ++ "`"
  | [a, b] => "`" ++ a ++ "` or `" ++ b ++ "`"
  | names => "one of " ++ joinWith ", " (names.map fun n => "`" ++ n ++ "`")

def Fault.message : Fault → String
  | endInValue => "EOF while parsing a value"
  | endInObject => "EOF while parsing an object"
  | endInList => "EOF while parsing a list"
  | endInText => "EOF while parsing a string"
  | expectedValue => "expected value"
  | expectedWord => "expected ident"
  | expectedColon => "expected `:`"
  | expectedCommaOrBrace => "expected `,` or `\x7d`"
  | expectedCommaOrBracket => "expected `,` or `]`"
  | keyNotText => "key must be a string"
  | trailingComma => "trailing comma"
  | trailingCharacters => "trailing characters"
  | invalidNumber => "invalid number"
  | numberOutOfRange => "number out of range"
  | invalidEscape => "invalid escape"
  | controlCharacter => "control character (\\u0000-\\u001F) found while parsing a string"
  | loneSurrogate => "lone leading surrogate in hex escape"
  | cutSurrogatePair => "unexpected end of hex escape"
  | invalidCodePoint => "invalid unicode code point"
  | wrongType found expected =>
    "invalid type: " ++ found.describe ++ ", expected " ++ expected
  | wrongLength n expected => "invalid length " ++ toString n ++ ", expected " ++ expected
  | unknownField name known => "unknown field `" ++ name ++ "`, expected " ++ choices known
  | unknownVariant name known => "unknown variant `" ++ name ++ "`, expected " ++ choices known
  | duplicateField name => "duplicate field `" ++ name ++ "`"
  | missingField name => "missing field `" ++ name ++ "`"

end ErrorUnion.Json
