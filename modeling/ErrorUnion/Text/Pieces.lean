/- White space by the Unicode property, and the division of a text: trimming, lines, pieces between
   separators, and joining them. -/
namespace ErrorUnion.Text

/-- The code points with the Unicode property White_Space. -/
def isBlank (c : Char) : Bool :=
  let n := c.toNat
  (9 ≤ n && n ≤ 13) || n = 0x20 || n = 0x85 || n = 0xa0 || n = 0x1680
    || (0x2000 ≤ n && n ≤ 0x200a) || n = 0x2028 || n = 0x2029 || n = 0x202f
    || n = 0x205f || n = 0x3000

def trimStart (cs : List Char) : List Char := cs.dropWhile isBlank

def trimEnd (cs : List Char) : List Char := (cs.reverse.dropWhile isBlank).reverse

def trim (s : String) : String := String.ofList (trimEnd (trimStart s.toList))

/-- Lines end at a line feed, together with one carriage return before it; a line feed at the
very end opens no further line. -/
def lines : List Char → List (List Char)
  | [] => []
  | '\n' :: r => [] :: lines r
  | '\r' :: '\n' :: r => [] :: lines r
  | c :: r => match lines r with
    | [] => [[c]]
    | l :: ls => (c :: l) :: ls

def pieces (sep : Char) : List Char → List (List Char)
  | [] => [[]]
  | c :: r =>
    if c = sep then [] :: pieces sep r
    else match pieces sep r with
      | [] => [[c]]
      | p :: ps => (c :: p) :: ps

def colonPieces : List Char → List (List Char)
  | [] => [[]]
  | ':' :: ':' :: r => [] :: colonPieces r
  | c :: r => match colonPieces r with
    | [] => [[c]]
    | p :: ps => (c :: p) :: ps

def joinWith (sep : String) : List String → String
  | [] => ""
  | [s] => s
  | s :: t :: r => s ++ sep ++ joinWith sep (t :: r)

def concat : List String → String
  | [] => ""
  | s :: r => s ++ concat r

def afterHead? : List Char → List Char → Option (List Char)
  | [], cs => some cs
  | _ :: _, [] => none
  | h :: hs, c :: cs => if h = c then afterHead? hs cs else none

def beforeTail? (tail cs : List Char) : Option (List Char) :=
  (afterHead? tail.reverse cs.reverse).map List.reverse

end ErrorUnion.Text
