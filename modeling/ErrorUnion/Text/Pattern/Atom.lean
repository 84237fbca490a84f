import ErrorUnion.Text.Pieces
import ErrorUnion.Text.Quoted

/- The smallest parts of a regular expression, and in which mode each of them may be used. Patterns
   work without tables of characters, so nothing is accepted that needs one: digits, blanks and
   word characters beyond ASCII, properties, letters in whatever case. -/
namespace ErrorUnion.Text.Pattern

structure Mode where
  spaced : Bool
  folded : Bool
  wide : Bool

def Mode.initial : Mode := ⟨false, false, true⟩

def Mode.set (m : Mode) (flags : List Char) : Mode :=
  let given := flags.takeWhile (· ≠ '-')
  let value := fun (old : Bool) (flag : Char) => given.contains flag || old && !flags.contains flag
  ⟨value m.spaced 'x', value m.folded 'i', value m.wide 'u'⟩

def skipGaps : (comment : Bool) → List Char → List Char
  | _, [] => []
  | true, c :: r => skipGaps (c ≠ '\n') r
  | false, c :: r =>
    if c = '#' then skipGaps true r else if isBlank c then skipGaps false r else c :: r

def Mode.skip (m : Mode) (cs : List Char) : List Char := if m.spaced then skipGaps false cs else cs

inductive Atom where
  | char (c : Char) (asByte : Bool)
  | anyChar
  | kind (negated : Bool)
  | edge
  | wordEdge

/-- In bytes nothing may be matched that is no whole character. -/
def Mode.admits (m : Mode) : Atom → Bool
  | .char c asByte => if m.wide then !m.folded else !asByte || c.toNat < 0x80
  | .anyChar => m.wide
  | .kind negated => !m.wide && !negated
  | .edge => true
  | .wordEdge => !m.wide

def Mode.admitsInside (m : Mode) : Atom → Bool
  | .char c _ => if m.wide then !m.folded else c.toNat < 0x80
  | .kind negated => !m.wide && !negated
  | _ => false

def hexDigits (m : Mode) : Nat → Nat → List Char → Option (Nat × List Char)
  | 0, value, cs => some (value, cs)
  | _ + 1, _, [] => none
  | left + 1, value, c :: r =>
    match hexValue? c with
    | some d => hexDigits m left (value * 16 + d) (m.skip r)
    | none => none

def hexAtom (m : Mode) (digits : Nat) (cs : List Char) : Option (Atom × List Char) :=
  match hexDigits m digits 0 (m.skip cs) with
  | none => none
  | some (value, r) =>
    if value.isValidChar then some (.char (Char.ofNat value) (digits == 2), r) else none

def controlLetter? (c : Char) : Option Char :=
  [('a', '\x07'), ('f', '\x0c'), ('t', '\t'), ('n', '\n'), ('r', '\r'), ('v', '\x0b')].lookup c

/-- What follows a backslash. Every ASCII character that is no letter and no digit stands for
itself, but for the two angles. -/
def escape (m : Mode) : List Char → Option (Atom × List Char)
  | [] => none
  | c :: r =>
    if c = 'x' then hexAtom m 2 r
    else if c = 'u' then hexAtom m 4 r
    else if c = 'U' then hexAtom m 8 r
    else if c ∈ ['d', 's', 'w'] then some (.kind false, r)
    else if c ∈ ['D', 'S', 'W'] then some (.kind true, r)
    else if c ∈ ['A', 'z'] then some (.edge, r)
    else if c ∈ ['b', 'B', '<', '>'] then some (.wordEdge, r)
    else if c.toNat < 0x80 && !c.isAlphanum then some (.char c false, r)
    else (controlLetter? c).map fun c => (.char c false, r)

def atom (m : Mode) : List Char → Option (Atom × List Char)
  | [] => none
  | c :: r =>
    if c = '\\' then escape m r
    else if c = '.' then some (.anyChar, r)
    else if c = '^' || c = '$' then some (.edge, r)
    else some (.char c false, r)

end ErrorUnion.Text.Pattern
