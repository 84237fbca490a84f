/- Non-negative finite binary floating-point values of 64-bit width, with exact rounding, and the
   shortest decimal text that reads back as a given one. A value is `mantissa · 2 ^ exponent`; the
   mantissa has at most 53 bits. -/
namespace ErrorUnion.Decimal

structure Binary64 where
  mantissa : Nat
  exponent : Int
deriving DecidableEq

def Binary64.zero : Binary64 := ⟨0, -1074⟩

def roundHalfEven (num den : Nat) : Nat :=
  let q := num / den
  let twice := 2 * (num % den)
  if twice < den then q else if den < twice then q + 1 else q + q % 2

def scaled (num den : Nat) (e : Int) : Nat × Nat :=
  if e < 0 then (num, den * Nat.pow 2 e.natAbs) else (num * Nat.pow 2 e.natAbs, den)

def leadingBit (num den : Nat) : Int :=
  let l : Int := (num.log2 : Int) - den.log2
  let (n, d) := scaled num den (-l)
  if d ≤ n then l else l - 1

/-- The nearest value to a quotient with a positive denominator, ties to the even mantissa;
nothing above the finite range. -/
def Binary64.round? (num den : Nat) : Option Binary64 :=
  if num = 0 then some .zero
  else
    let e := max (-1074) (leadingBit num den - 52)
    let (n, d) := scaled num den (-e)
    let m := roundHalfEven n d
    let v : Binary64 := if m = Nat.pow 2 53 then ⟨Nat.pow 2 52, e + 1⟩ else ⟨m, e⟩
    if 971 < v.exponent then none else some v

def Binary64.mul? (x y : Binary64) : Option Binary64 :=
  let (n, d) := scaled (x.mantissa * y.mantissa) 1 (x.exponent + y.exponent)
  round? n d

def Binary64.div? (x y : Binary64) : Option Binary64 :=
  let (n, d) := scaled x.mantissa y.mantissa (x.exponent - y.exponent)
  round? n d

/-- The numbers that round to a value, as quotients over `den` with both ends; the ends round to
the value too when its mantissa is even. -/
structure Neighbourhood where
  low : Nat
  value : Nat
  high : Nat
  den : Nat
  closed : Bool

def Binary64.neighbourhood (x : Binary64) : Neighbourhood :=
  let below := if x.mantissa = Nat.pow 2 52 ∧ -1074 < x.exponent then 1 else 2
  let at4 := fun k => (scaled k 1 (x.exponent - 2)).1
  let den := (scaled 1 1 (x.exponent - 2)).2
  ⟨at4 (4 * x.mantissa - below), at4 (4 * x.mantissa), at4 (4 * x.mantissa + 2), den,
    x.mantissa % 2 = 0⟩

def Neighbourhood.holds (h : Neighbourhood) (k : Nat) (p : Int) : Bool :=
  let power := Nat.pow 10 p.natAbs
  let (n, d) := if p < 0 then (k * h.den, power) else (k * power * h.den, 1)
  if h.closed then h.low * d ≤ n && n ≤ h.high * d else h.low * d < n && n < h.high * d

/-- The number of digits before the decimal point of a positive quotient, counted down below one:
the `n` with `10 ^ (n - 1) ≤ num / den < 10 ^ n`. -/
def decimalPoint (num den : Nat) : Int :=
  let n : Int := (Nat.toDigits 10 num).length - (Nat.toDigits 10 den).length
  let power := Nat.pow 10 n.natAbs
  let atLeast : Bool := if n < 0 then den ≤ num * power else den * power ≤ num
  if atLeast then n + 1 else n

/-- The digits and the power of ten of the nearest decimal with `count` digits, if it reads back;
of two equally near ones the even. -/
def Neighbourhood.decimal? (h : Neighbourhood) (count : Nat) : Option (Nat × Int) :=
  let p := decimalPoint h.value h.den - count
  let power := Nat.pow 10 p.natAbs
  let (n, d) := if p < 0 then (h.value * power, h.den) else (h.value, h.den * power)
  let k := roundHalfEven n d
  match h.holds (n / d) p, h.holds (n / d + 1) p with
  | true, true => some (k, p)
  | true, false => some (n / d, p)
  | false, true => some (n / d + 1, p)
  | false, false => none

def Binary64.shortest (x : Binary64) : Nat × Int :=
  match (List.range 17).findSome? fun i => x.neighbourhood.decimal? (i + 1) with
  | none => (0, 0)
  | some (k, p) => if k = 10 then (1, p + 1) else (k, p)

def positional (k : Nat) (p : Int) : List Char :=
  let digits := Nat.toDigits 10 k
  if 0 ≤ p then digits ++ List.replicate p.natAbs '0' ++ ['.', '0']
  else
    let places := p.natAbs
    let full := List.replicate (places + 1 - digits.length) '0' ++ digits
    full.take (full.length - places) ++ '.' :: full.drop (full.length - places)

def scientific (k : Nat) (p : Int) : List Char :=
  let digits := Nat.toDigits 10 k
  let exponent := p + (digits.length - 1 : Nat)
  let fraction := match digits.tail with
    | [] => []
    | ds => '.' :: ds
  digits.take 1 ++ fraction ++ ['e', if exponent < 0 then '-' else '+']
    ++ Nat.toDigits 10 exponent.natAbs

def isPositional (exponent : Int) : Bool := -5 ≤ exponent && exponent ≤ 15

/-- In positional notation always with a decimal point and at least one digit after it. -/
def Binary64.text (x : Binary64) : String :=
  if x.mantissa = 0 then "0.0"
  else
    let (k, p) := x.shortest
    if isPositional (p + ((Nat.toDigits 10 k).length - 1 : Nat)) then
      String.ofList (positional k p)
    else String.ofList (scientific k p)

end ErrorUnion.Decimal
