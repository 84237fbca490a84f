import ErrorUnion.Json.Token

/- Documents given as bytes. Where the bytes are no UTF-8 text, each byte that belongs to no
   well-formed sequence stands in the source without a character. -/
namespace ErrorUnion.Json

def isContinuation (b : UInt8) : Bool := 0x80 ≤ b && b < 0xc0

def continued (n : Nat) (b : UInt8) : Nat := n * 64 + (b.toNat - 0x80)

def char2? (a b : UInt8) : Option Char :=
  if 0xc2 ≤ a && a < 0xe0 && isContinuation b then
    some (Char.ofNat (continued (a.toNat - 0xc0) b))
  else none

def char3? (a b c : UInt8) : Option Char :=
  let n := continued (continued (a.toNat - 0xe0) b) c
  if 0xe0 ≤ a && a < 0xf0 && isContinuation b && isContinuation c && 0x800 ≤ n
      && !(0xd800 ≤ n && n < 0xe000) then
    some (Char.ofNat n)
  else none

def char4? (a b c d : UInt8) : Option Char :=
  let n := continued (continued (continued (a.toNat - 0xf0) b) c) d
  if 0xf0 ≤ a && isContinuation b && isContinuation c && isContinuation d && 0x10000 ≤ n
      && n < 0x110000 then
    some (Char.ofNat n)
  else none

def longChar? (a : UInt8) : List UInt8 → Option (Char × Nat)
  | [] => none
  | [b] => (char2? a b).map (·, 1)
  | [b, c] => ((char2? a b).map (·, 1)).or ((char3? a b c).map (·, 2))
  | b :: c :: d :: _ =>
    ((char2? a b).map (·, 1)).or (((char3? a b c).map (·, 2)).or ((char4? a b c d).map (·, 3)))

/-- `skip` bytes belong to the character before. -/
def looseSource : Nat → List UInt8 → Source
  | _, [] => []
  | skip + 1, _ :: r => looseSource skip r
  | 0, a :: r =>
    if a < 0x80 then some (Char.ofNat a.toNat) :: looseSource 0 r
    else match longChar? a r with
      | some (c, skip) => some c :: looseSource skip r
      | none => none :: looseSource 0 r

def Source.ofBytes (bytes : ByteArray) : Source :=
  match String.fromUTF8? bytes with
  | some s => .ofString s
  | none => looseSource 0 bytes.toList

end ErrorUnion.Json
