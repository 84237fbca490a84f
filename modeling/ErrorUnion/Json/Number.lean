import ErrorUnion.Json.Fault

/- The value of a JSON number. Integers of at most 64 bits are exact; any other number is kept to
   64 significant bits and scaled by a power of ten, in at most two roundings. -/
namespace ErrorUnion.Json
open ErrorUnion.Decimal

structure Numeral where
  negative : Bool
  whole : List Nat
  fraction : Option (List Nat)
  power : Option (Bool × List Nat)

/-- Takes digits as long as the value stays below `2 ^ 64`, and tells which are left. -/
def takeDigits (n : Nat) : List Nat → Nat × List Nat
  | [] => (n, [])
  | d :: r => if n * 10 + d < Nat.pow 2 64 then takeDigits (n * 10 + d) r else (n, d :: r)

def powerOfTen? (n : Nat) : Option Binary64 :=
  if n ≤ 308 then Binary64.round? (Nat.pow 10 n) 1 else none

/-- A negative power is applied 308 places at a time, until nothing is left of the number. -/
def shrink : Nat → Binary64 → Nat → Option Binary64
  | 0, _, _ => some .zero
  | steps + 1, x, n =>
    match powerOfTen? n with
    | some p => x.div? p
    | none =>
      if x.mantissa = 0 then some x
      else match (powerOfTen? 308).bind x.div? with
        | none => none
        | some y => shrink steps y (n - 308)

def scale? (significand : Nat) (e : Int) : Option Binary64 :=
  match Binary64.round? significand 1 with
  | none => none
  | some x =>
    if 0 ≤ e then
      match powerOfTen? e.natAbs with
      | some p => x.mul? p
      | none => if x.mantissa = 0 then some x else none
    else shrink 4 x e.natAbs

def Numeral.significand (n : Numeral) : Nat × Int :=
  let (whole, dropped) := takeDigits 0 n.whole
  match n.fraction with
  | none => (whole, dropped.length)
  | some ds =>
    let (all, left) := takeDigits whole ds
    (all, (dropped.length : Int) - (ds.length - left.length : Nat))

def digitsValue (ds : List Nat) : Nat := ds.foldl (fun n d => n * 10 + d) 0

def Numeral.value? (n : Numeral) : Option Number :=
  let (s, e) := n.significand
  match n.fraction, n.power with
  | none, none =>
    if e = 0 ∧ ¬ n.negative then some (.integer s)
    else if e = 0 ∧ 0 < s ∧ s ≤ Nat.pow 2 63 then some (.integer (-s))
    else (scale? s e).map (.decimal n.negative)
  | _, none => (scale? s e).map (.decimal n.negative)
  | _, some (down, ds) =>
    let p := digitsValue ds
    if Nat.pow 2 31 ≤ p then
      if s = 0 ∨ down then some (.decimal n.negative .zero) else none
    else (scale? s (if down then e - p else e + p)).map (.decimal n.negative)

end ErrorUnion.Json
