import ErrorUnion.Text.Pattern.Atom

/- Sets of characters in brackets. They may be nested, and two sets may be joined by an operator;
   what is kept of a set is how deep it is nested. -/
namespace ErrorUnion.Text.Pattern

/-- How deep several parts side by side are nested; a part alone adds no level. -/
def sideBySide : List Nat → Nat
  | [] => 0
  | [d] => d
  | ds => 1 + ds.foldl max 0

structure Bracket where
  left : Option Nat
  items : List Nat

def Bracket.content (b : Bracket) : Nat :=
  match b.left with
  | none => sideBySide b.items
  | some d => 1 + max d (sideBySide b.items)

def Bracket.add (b : Bracket) (depth : Nat) : Bracket := { b with items := depth :: b.items }

def Bracket.operator (b : Bracket) : Bracket := ⟨some b.content, []⟩

def asciiSets : List String :=
  ["alnum", "alpha", "ascii", "blank", "cntrl", "digit", "graph", "lower", "print", "punct",
   "space", "upper", "word", "xdigit"]

def asciiSet? : List Char → Option (Bool × List Char)
  | ':' :: r =>
    let (negated, r) := match r with
      | '^' :: r => (true, r)
      | r => (false, r)
    let name := r.takeWhile (· ≠ ':')
    match r.drop name.length with
    | ':' :: ']' :: rest =>
      if asciiSets.contains (String.ofList name) then some (negated, rest) else none
    | _ => none
  | _ => none

def Mode.admitsNegation (m : Mode) (negated : Bool) : Bool := m.wide || !negated

def leadingDashes (m : Mode) : Nat → List Nat → List Char → List Nat × List Char
  | steps + 1, items, '-' :: r => leadingDashes m steps (0 :: items) (m.skip r)
  | _, items, cs => (items, cs)

def openBracket (m : Mode) (cs : List Char) : Option (Bracket × List Char) :=
  let cs := m.skip cs
  let (negated, cs) := match cs with
    | '^' :: r => (true, m.skip r)
    | cs => (false, cs)
  let (items, cs) := leadingDashes m cs.length [] cs
  let (items, cs) := match items, cs with
    | [], ']' :: r => ([0], m.skip r)
    | items, cs => (items, cs)
  if cs ≠ [] && m.admitsNegation negated && (items = [] || m.admitsInside (.char '-' false)) then
    some (⟨none, items⟩, cs)
  else none

def bracketAtom (m : Mode) : List Char → Option (Atom × List Char)
  | '\\' :: r => escape m r
  | c :: r => some (.char c false, r)
  | [] => none

def nextSeen (m : Mode) (cs : List Char) : Option Char :=
  if m.spaced then
    match cs.dropWhile isBlank with
    | '#' :: r => ((r.dropWhile isBlank).head?).or cs.head?
    | c :: _ => some c
    | [] => cs.head?
  else cs.head?

/-- Behind an atom, the dash of a range; a dash before a closing bracket or another dash is
none. -/
def rangeEnd? (m : Mode) (cs : List Char) : Option (List Char) :=
  match cs with
  | '-' :: r =>
    if nextSeen m r = some ']' || nextSeen m r = some '-' then none else some (m.skip r)
  | _ => none

def bracketItem (m : Mode) (cs : List Char) : Option (List Char) :=
  match bracketAtom m cs with
  | none => none
  | some (a, r) =>
    let r := m.skip r
    match rangeEnd? m r with
    | none => if m.admitsInside a && r ≠ [] then some r else none
    | some r =>
      match a, bracketAtom m r with
      | .char low asByte, some (.char high asByte', r) =>
        if low ≤ high && m.admitsInside (.char low asByte)
            && m.admitsInside (.char high asByte') then some r
        else none
      | _, _ => none

def bracketRest (m : Mode) : Nat → Bracket → List Bracket → List Char → Option (Nat × List Char)
  | 0, _, _, _ => none
  | steps + 1, top, outer, cs =>
    match m.skip cs with
    | [] => none
    | '[' :: r =>
      match asciiSet? r with
      | some (negated, r) =>
        if m.admitsNegation negated && !(m.wide && m.folded) then
          bracketRest m steps (top.add 0) outer r
        else none
      | none =>
        match openBracket m r with
        | some (inner, r) => bracketRest m steps inner (top :: outer) r
        | none => none
    | ']' :: r =>
      match outer with
      | [] => some (1 + top.content, r)
      | next :: outer => bracketRest m steps (next.add (1 + top.content)) outer r
    | '&' :: '&' :: r => bracketRest m steps top.operator outer r
    | '-' :: '-' :: r => bracketRest m steps top.operator outer r
    | '~' :: '~' :: r => bracketRest m steps top.operator outer r
    | cs =>
      match bracketItem m cs with
      | some r => bracketRest m steps (top.add 0) outer r
      | none => none

def bracket (m : Mode) (cs : List Char) : Option (Nat × List Char) :=
  match openBracket m cs with
  | some (top, r) => bracketRest m (r.length + 1) top [] r
  | none => none

end ErrorUnion.Text.Pattern
