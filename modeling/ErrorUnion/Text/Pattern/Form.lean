import ErrorUnion.Text.Alphanumeric
import ErrorUnion.Text.Pattern.Bracket

/- Which texts are regular expressions. The form is read from left to right, with the groups that
   are not closed yet; nothing is kept of an expression but how deep its parts are nested. A
   repetition with a count is none here, as its closing brace cannot stand in the texts that are
   asked about. -/
namespace ErrorUnion.Text.Pattern

inductive Part where
  | flags
  | of (depth : Nat)

def Part.depth : Part → Nat
  | flags => 0
  | of d => d

/-- What was read of a group, with the latest first: branches that are complete, and the parts of
the one at work. -/
structure Group where
  branches : List Nat
  parts : List Part

def Group.empty : Group := ⟨[], []⟩

def Group.add (g : Group) (p : Part) : Group := { g with parts := p :: g.parts }

def Group.branch (g : Group) : Group := ⟨sideBySide (g.parts.map Part.depth) :: g.branches, []⟩

def Group.depth (g : Group) : Nat := sideBySide g.branch.branches

structure Reading where
  mode : Mode
  names : List (List Char)
  group : Group
  outer : List (Mode × Group)

def Reading.initial : Reading := ⟨.initial, [], .empty, []⟩

def Reading.add (s : Reading) (depth : Nat) : Reading := { s with group := s.group.add (.of depth) }

def Reading.enter (s : Reading) (inside : Mode) : Reading :=
  { s with mode := inside, group := .empty, outer := (s.mode, s.group) :: s.outer }

def Reading.leave? (s : Reading) : Option Reading :=
  match s.outer with
  | [] => none
  | (mode, group) :: outer =>
    some { s with mode, group := group.add (.of (1 + s.group.depth)), outer }

def Reading.repeat? (s : Reading) : Option Reading :=
  match s.group.parts with
  | .of d :: parts => some { s with group := { s.group with parts := .of (1 + d) :: parts } }
  | _ => none

def readFlags : List Char → List Char → Option (List Char × Char × List Char)
  | _, [] => none
  | seen, c :: r =>
    if c = ':' || c = ')' then
      if seen.head? = some '-' then none else some (seen.reverse, c, r)
    else if c ∈ ['-', 'i', 'm', 's', 'U', 'u', 'R', 'x'] && !seen.contains c then
      readFlags (c :: seen) r
    else none

def isGroupName : List Char → Bool
  | [] => false
  | c :: r =>
    (c = '_' || isAlphabetic c)
      && r.all fun c => c = '_' || c = '.' || c = '[' || c = ']' || isAlphanumeric c

def Reading.openNamed (s : Reading) (cs : List Char) : Option (Reading × List Char) :=
  let name := cs.takeWhile (· ≠ '>')
  match cs.drop name.length with
  | '>' :: r =>
    if isGroupName name && !s.names.contains name then
      some ({ s with names := name :: s.names }.enter s.mode, r)
    else none
  | _ => none

/-- What follows an opening parenthesis. Groups that look ahead or back are refused. -/
def Reading.openGroup (s : Reading) (cs : List Char) : Option (Reading × List Char) :=
  match s.mode.skip cs with
  | '?' :: '=' :: _ => none
  | '?' :: '!' :: _ => none
  | '?' :: '<' :: '=' :: _ => none
  | '?' :: '<' :: '!' :: _ => none
  | '?' :: 'P' :: '<' :: r => s.openNamed r
  | '?' :: '<' :: r => s.openNamed r
  | '?' :: r =>
    match readFlags [] r with
    | none => none
    | some ([], ')', _) => none
    | some (flags, ')', r) =>
      some ({ s with mode := s.mode.set flags, group := s.group.add .flags }, r)
    | some (flags, _, r) => some (s.enter (s.mode.set flags), r)
  | cs => some (s.enter s.mode, cs)

def Reading.finish (s : Reading) : Nat → List Char → Option Nat
  | 0, _ => none
  | steps + 1, cs =>
    match s.mode.skip cs with
    | [] => if s.outer.isEmpty then some s.group.depth else none
    | c :: r =>
      if c = '(' then
        match s.openGroup r with
        | some (s, r) => s.finish steps r
        | none => none
      else if c = ')' then
        match s.leave? with
        | some s => s.finish steps r
        | none => none
      else if c = '|' then { s with group := s.group.branch }.finish steps r
      else if c = '[' then
        match bracket s.mode r with
        | some (depth, r) => (s.add depth).finish steps r
        | none => none
      else if c ∈ ['?', '*', '+'] then
        match s.repeat? with
        | none => none
        | some s => match r with
          | '?' :: r => s.finish steps r
          | r => s.finish steps r
      else if c = '{' then none
      else
        match atom s.mode (c :: r) with
        | some (a, r) => if s.mode.admits a then (s.add 0).finish steps r else none
        | none => none

def depthLimit : Nat := 250

end Pattern

def isPattern (cs : List Char) : Bool :=
  match Pattern.Reading.initial.finish (cs.length + 1) cs with
  | some depth => depth ≤ Pattern.depthLimit
  | none => false

end ErrorUnion.Text
