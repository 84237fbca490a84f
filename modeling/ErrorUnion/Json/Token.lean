import ErrorUnion.Json.Number
import ErrorUnion.Text.Quoted

/- The tokens of a JSON document. A document is a list of characters, in which `none` stands for
   a byte that belongs to no character. A piece that is no token ends the list with what is wrong
   about it; where that matters is for the reader of the tokens to say. -/
namespace ErrorUnion.Json
open ErrorUnion.Text

inductive Token where
  | leftBrace
  | rightBrace
  | leftBracket
  | rightBracket
  | comma
  | colon
  | null
  | flag (value : Bool)
  | number (value : Option Number)
  /-- A closed string; a fault inside it counts only where its content is wanted. -/
  | text (content : Except Fault String)
  /-- A string that cannot be closed, with the first fault of its content and of its form. -/
  | openText (content form : Fault)
  | badWord (initial : Char) (fault : Fault)
  | badNumber (cut : Bool)
  | junk

abbrev Source := List (Option Char)

def Source.ofString (s : String) : Source := s.toList.map some

/-- A `none` counts as one byte. -/
def byteCount (cs : Source) : Nat :=
  cs.foldl (fun n c => n + match c with | some c => c.utf8Size | none => 1) 0

def simpleEscape? (c : Char) : Option Char :=
  if c = '"' ∨ c = '\\' ∨ c = '/' then some c
  else if c = 'b' then some '\x08'
  else if c = 'f' then some '\x0c'
  else if c = 'n' then some '\n'
  else if c = 'r' then some '\r'
  else if c = 't' then some '\t'
  else none

inductive Mode where
  | plain
  | escape
  | digits (left : Nat) (value : Nat) (lead : Option Nat)
  | pairSlash (lead : Nat)
  | pairLetter (lead : Nat)

def unit (value : Nat) : Option Nat → Except Fault (Char ⊕ Nat)
  | none =>
    if 0xdc00 ≤ value ∧ value ≤ 0xdfff then .error .loneSurrogate
    else if 0xd800 ≤ value ∧ value ≤ 0xdbff then .ok (.inr value)
    else .ok (.inl (Char.ofNat value))
  | some lead =>
    if 0xdc00 ≤ value ∧ value ≤ 0xdfff then
      .ok (.inl (Char.ofNat ((lead - 0xd800) * 0x400 + (value - 0xdc00) + 0x10000)))
    else .error .loneSurrogate

def prepend (c : Option Char) : Except Fault (Source × Source) → Except Fault (Source × Source)
  | .ok (content, rest) => .ok (c :: content, rest)
  | .error f => .error f

/-- Scans a string after its opening quote, up to and without the closing one. Without `strict`
the halves of surrogate pairs need not match. -/
def scan (strict : Bool) : Mode → Source → Except Fault (Source × Source)
  | _, [] => .error .endInText
  | .plain, some c :: r =>
    if c = '"' then .ok ([], r)
    else if c = '\\' then scan strict .escape r
    else if c.toNat < 0x20 then .error .controlCharacter
    else prepend (some c) (scan strict .plain r)
  | .plain, none :: r => prepend none (scan strict .plain r)
  | .escape, c :: r =>
    if c = some 'u' then
      if byteCount (r.take 4) < 4 then .error .endInText
      else scan strict (.digits 4 0 none) r
    else match c.bind simpleEscape? with
      | some e => prepend (some e) (scan strict .plain r)
      | none => .error .invalidEscape
  | .digits left value lead, c :: r =>
    match c.bind hexValue? with
    | none => .error .invalidEscape
    | some d =>
      let value := value * 16 + d
      if 1 < left then scan strict (.digits (left - 1) value lead) r
      else if strict then
        match unit value lead with
        | .error f => .error f
        | .ok (.inl c) => prepend (some c) (scan strict .plain r)
        | .ok (.inr lead) => scan strict (.pairSlash lead) r
      else scan strict .plain r
  | .pairSlash lead, c :: r =>
    if c = some '\\' then scan strict (.pairLetter lead) r else .error .cutSurrogatePair
  | .pairLetter lead, c :: r =>
    if c = some 'u' then
      if byteCount (r.take 4) < 4 then .error .endInText
      else scan strict (.digits 4 0 (some lead)) r
    else .error .cutSurrogatePair

def content (cs : Source) : Except Fault String :=
  if cs.any Option.isNone then .error .invalidCodePoint
  else .ok (String.ofList (cs.filterMap id))

def textToken (cs : Source) : Token × Option Source :=
  match scan true .plain cs with
  | .ok (body, r) => (.text (content body), some r)
  | .error f =>
    match scan false .plain cs with
    | .ok (_, r) => (.text (.error f), some r)
    | .error g => (.openText f g, none)

def digitRun : Source → List Nat × Source
  | some c :: r =>
    if c.isDigit then
      let (ds, rest) := digitRun r
      ((c.toNat - 48) :: ds, rest)
    else ([], some c :: r)
  | cs => ([], cs)

def digitRun1 (cs : Source) : Except Bool (List Nat × Source) :=
  match digitRun cs with
  | ([], r) => .error r.isEmpty
  | found => .ok found

def fractionPart : Source → Except Bool (Option (List Nat) × Source)
  | some '.' :: r => (digitRun1 r).map fun (ds, r) => (some ds, r)
  | cs => .ok (none, cs)

def dropPlus : Source → Source
  | some '+' :: r => r
  | cs => cs

def powerPart : Source → Except Bool (Option (Bool × List Nat) × Source)
  | some c :: r =>
    if c = 'e' ∨ c = 'E' then
      match r with
      | some '-' :: r => (digitRun1 r).map fun (ds, r) => (some (true, ds), r)
      | r => (digitRun1 (dropPlus r)).map fun (ds, r) => (some (false, ds), r)
    else .ok (none, some c :: r)
  | cs => .ok (none, cs)

def numeral (negative : Bool) (cs : Source) : Except Bool (Numeral × Source) := do
  let (whole, r) ← digitRun1 cs
  if whole.head? = some 0 ∧ whole.length ≠ 1 then .error false
  else
    let (fraction, r) ← fractionPart r
    let (power, r) ← powerPart r
    .ok (⟨negative, whole, fraction, power⟩, r)

def numberToken (negative : Bool) (cs : Source) : Token × Option Source :=
  match numeral negative cs with
  | .error cut => (.badNumber cut, none)
  | .ok (n, r) => (.number n.value?, some r)

def wordToken (found : Token) (initial : Char) : List Char → Source → Token × Option Source
  | [], r => (found, some r)
  | _ :: _, [] => (.badWord initial .endInValue, none)
  | l :: ls, c :: r =>
    if c = some l then wordToken found initial ls r
    else (.badWord initial .expectedWord, none)

def tokenAt (c : Char) (r : Source) : Token × Option Source :=
  if c = '{' then (.leftBrace, some r)
  else if c = '}' then (.rightBrace, some r)
  else if c = '[' then (.leftBracket, some r)
  else if c = ']' then (.rightBracket, some r)
  else if c = ',' then (.comma, some r)
  else if c = ':' then (.colon, some r)
  else if c = '"' then textToken r
  else if c = 'n' then wordToken .null c ['u', 'l', 'l'] r
  else if c = 't' then wordToken (.flag true) c ['r', 'u', 'e'] r
  else if c = 'f' then wordToken (.flag false) c ['a', 'l', 's', 'e'] r
  else if c = '-' then numberToken true r
  else if c.isDigit then numberToken false (some c :: r)
  else (.junk, none)

def isGap (c : Char) : Bool := c = ' ' || c = '\t' || c = '\n' || c = '\r'

/-- Every token takes at least one character, so their number bounds the steps. -/
def tokensWithin : Nat → Source → List Token
  | 0, _ => []
  | _ + 1, [] => []
  | _ + 1, none :: _ => [.junk]
  | steps + 1, some c :: r =>
    if isGap c then tokensWithin steps r
    else match tokenAt c r with
      | (t, none) => [t]
      | (t, some r) => t :: tokensWithin steps r

def tokens (cs : Source) : List Token := tokensWithin cs.length cs

end ErrorUnion.Json
