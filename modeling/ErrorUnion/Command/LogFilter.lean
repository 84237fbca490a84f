import ErrorUnion.Log
import ErrorUnion.Text.Alphanumeric
import ErrorUnion.Text.Pattern.Form
import ErrorUnion.Text.Pieces

/- Which events of the log are shown. A filter is a text of directives with commas between them. A
   directive gives the beginning of an origin, a span and a field in brackets, and a level; each of
   them may be left out, and a single word is a level if it can be one. -/
namespace ErrorUnion
open Text

def rankOfNumber? (cs : List Char) : Option Nat :=
  let digits := match cs with
    | '+' :: r => r
    | _ => cs
  if digits ≠ [] ∧ digits.all Char.isDigit then
    match digits.dropWhile (· = '0') with
    | [] => some 0
    | [d] => if d ≤ '5' then some (d.toNat - '0'.toNat) else none
    | _ => none
  else none

/-- Levels go by name, whatever its case, or by number. -/
def rankOf? (level : List Char) : Option Nat :=
  match rankOfNumber? level with
  | some rank => some rank
  | none =>
    [("off", 0), ("error", 1), ("warn", 2), ("info", 3), ("debug", 4), ("trace", 5)].lookup
      (String.ofList (level.map Char.toLower))

structure Directive where
  origin : Option (List Char)
  span : Option (List Char)
  field : Option (List Char × Option (List Char))
  rank : Nat
deriving DecidableEq

def Directive.upTo (rank : Nat) : Directive := ⟨none, none, none, rank⟩

def takeBytes : Nat → List Char → List Char
  | _, [] => []
  | n, c :: r => if c.utf8Size ≤ n then c :: takeBytes (n - c.utf8Size) r else []

def dropBytes (n : Nat) (cs : List Char) : List Char := cs.drop (takeBytes n cs).length

/-- What is left of a directive, as it is looked at and as it is written. Blanks at its ends are
not seen, but parts are cut out of what is written, counted in bytes from its very start. -/
structure Unread where
  seen : List Char
  written : List Char

def Unread.tail (r : Unread) : Unread := ⟨r.seen.tail, dropBytes 1 r.written⟩

def Unread.cut? (stops : List Char) (r : Unread) : Option (List Char × Char × Unread) :=
  let passed := r.seen.takeWhile fun c => !stops.contains c
  let size := passed.foldl (fun n c => n + c.utf8Size) 0
  match r.seen.drop passed.length with
  | [] => none
  | stop :: seen =>
    some (takeBytes size r.written, stop, Unread.tail ⟨stop :: seen, dropBytes size r.written⟩)

def givenRank? : List Char → Option Nat
  | [] => some LogLevel.trace.rank
  | level => rankOf? level

def Unread.rank? (r : Unread) : Option Nat :=
  match r.seen with
  | [] => some LogLevel.trace.rank
  | '=' :: _ => givenRank? r.tail.written
  | _ => none

def fieldAsked (cs : List Char) : List Char × Option (List Char) :=
  match pieces '=' cs with
  | [] => ([], none)
  | name :: values => (name, values.head?)

def isFieldValue (cs : List Char) : Bool := isNumber cs || isPattern cs

def Directive.parseBracket (origin : Option (List Char)) (r : Unread) : Option Directive :=
  match r.cut? [']', '{'] with
  | some (span, ']', r) => r.rank?.map fun rank => ⟨origin, some span, none, rank⟩
  | some (span, _, r) =>
    match r.cut? ['}'] with
    | some (c :: cs, _, ⟨']' :: seen, written⟩) =>
      let span := if span = [] then none else some span
      let field := fieldAsked (c :: cs)
      if field.2.all isFieldValue then
        (Unread.tail ⟨']' :: seen, written⟩).rank?.map fun rank =>
          ⟨origin, span, some field, rank⟩
      else none
    | _ => none
  | none => none

def beginsWord (c : Char) : Bool := c = '-' || c = ':' || c = '_' || isAlphanumeric c

def Directive.parse (written : List Char) : Option Directive :=
  let r : Unread := ⟨trimEnd (trimStart written), written⟩
  match r.seen with
  | [] => none
  | c :: _ =>
    if c = '[' then parseBracket none r.tail
    else if beginsWord c then
      match r.cut? ['=', '['] with
      | some (origin, '[', r) => parseBracket (some origin) r
      | some (origin, _, r) =>
        (givenRank? r.written).map fun rank => ⟨some origin, none, none, rank⟩
      | none => match rankOf? written with
        | some rank => some (.upTo rank)
        | none => some ⟨some written, none, none, LogLevel.trace.rank⟩
    else none

/-- Events come about outside of any span, and values are looked at in spans only. -/
def Directive.concerns (d : Directive) (e : LogEvent) : Bool :=
  d.span.isNone
    && d.origin.all (fun o => (afterHead? o e.origin.toList).isSome)
    && match d.field with
      | none => true
      | some (name, value) => value.isNone && e.fieldNames.contains (String.ofList name)

/-- Of two directives about one event, whether the later one holds: it has the longer origin, or
an equally long one and asks for a field where the other does not, or not for one before its. -/
def Directive.yieldsTo (d later : Directive) : Bool :=
  let length := fun (d : Directive) => (d.origin.map (·.length + 1)).getD 0
  length d < length later || length d = length later &&
    match d.field, later.field with
    | none, _ => true
    | some _, none => false
    | some (a, _), some (b, _) => a = b || String.ofList a < String.ofList b

abbrev LogFilter := List Directive

/-- Nothing when a directive is malformed. A filter without directives shows errors. -/
def LogFilter.parse (text : String) : Option LogFilter :=
  match ((pieces ',' text.toList).filter (· ≠ [])).mapM Directive.parse with
  | some [] => some [.upTo LogLevel.error.rank]
  | filter => filter

def LogFilter.decisive? (f : LogFilter) (e : LogEvent) : Option Directive :=
  (f.filter (·.concerns e)).foldl (fun
    | none, d => some d
    | some best, d => if best.yieldsTo d then some d else some best) none

def LogFilter.shows (f : LogFilter) (e : LogEvent) : Bool :=
  match f.decisive? e with
  | none => false
  | some d => e.level.rank ≤ d.rank

end ErrorUnion
