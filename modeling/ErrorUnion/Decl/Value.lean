import ErrorUnion.Metadata
import ErrorUnion.Text.Quoted

/- The values that generated code computes with. -/
namespace ErrorUnion
open Text

inductive Value where
  | unit
  | flag (value : Bool)
  | int (value : Int)
  | real (bits : UInt64)
  | text (value : String)
  | absent
  | present (value : Value)
  | success (value : Value)
  | record (type : String) (fields : List (String × Value))
  | variant (union name : String) (payload : Value)
  | metadata (value : Metadata)
  /-- Any error, known by its display only. -/
  | boxed (display : String)
  | kind (value : RetryKind)
  | formatter

namespace Value

def ofOption (f : α → Value) : Option α → Value
  | none => absent
  | some a => present (f a)

def typeName? : Value → Option String
  | record t _ => some t
  | variant u _ _ => some u
  | _ => none

def field? (w : Value) (name : String) : Option Value :=
  match w with
  | record _ fields => fields.lookup name
  | _ => none

def withField (w : Value) (name : String) (v : Value) : Value :=
  match w with
  | record t fields => record t (fields.map fun (n, old) => (n, if n = name then v else old))
  | w => w

def isNaN (bits : UInt64) : Bool :=
  (bits >>> 52) &&& 0x7ff = 0x7ff && bits &&& 0xfffffffffffff != 0

def isZero (bits : UInt64) : Bool := bits <<< 1 = 0

/-- Equality of floating-point numbers: zeros are equal whatever their sign, and what is not a
number is equal to nothing. -/
def sameReal (a b : UInt64) : Bool :=
  !isNaN a && !isNaN b && (a = b || (isZero a && isZero b))

mutual

def same : Value → Value → Bool
  | unit, unit => true
  | flag a, flag b => a = b
  | int a, int b => a = b
  | real a, real b => sameReal a b
  | text a, text b => a = b
  | absent, absent => true
  | present a, present b => same a b
  | success a, success b => same a b
  | record t a, record u b => t = u && sameFields a b
  | variant u a v, variant w b x => u = w && a = b && same v x
  | metadata a, metadata b => a = b
  | kind a, kind b => a = b
  | _, _ => false

def sameFields : List (String × Value) → List (String × Value) → Bool
  | [], [] => true
  | (m, v) :: a, (n, w) :: b => m = n && same v w && sameFields a b
  | _, _ => false

end

def shownName (name : String) : String :=
  match name.toList with
  | 'r' :: '#' :: r => String.ofList r
  | _ => name

mutual

/-- The form in which a value is shown to programmers; nothing for those that need no such form. -/
def debug? : Value → Option String
  | flag b => some (if b then "true" else "false")
  | int i => some (toString i)
  | text s => some (quote s)
  | absent => some "None"
  | present v => (debug? v).map fun s => "Some(" ++ s ++ ")"
  | record t [] => some t
  | record t (f :: fs) =>
    (debugFields (f :: fs)).map fun s => t ++ " \x7b " ++ s ++ " \x7d"
  | _ => none

def debugFields : List (String × Value) → Option String
  | [] => some ""
  | [(n, v)] => (debug? v).map fun s => shownName n ++ ": " ++ s
  | (n, v) :: f :: r =>
    match debug? v, debugFields (f :: r) with
    | some s, some rest => some (shownName n ++ ": " ++ s ++ ", " ++ rest)
    | _, _ => none

end

end Value

end ErrorUnion
