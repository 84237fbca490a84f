import ErrorUnion.Json.Schema
import ErrorUnion.Json.Token

/- Reading a value of a schema from tokens. Reading stops at the first fault in document order:
   a field that is unknown or repeated is refused before its value is looked at, and a value of
   the wrong type before anything behind it. -/
namespace ErrorUnion.Json

abbrev Reader (α : Type) := List Token → Except Fault (α × List Token)

def mismatch (expected : String) : List Token → Fault
  | [] => .endInValue
  | .null :: _ => .wrongType .null expected
  | .flag b :: _ => .wrongType (.flag b) expected
  | .number (some n) :: _ => .wrongType (.number n) expected
  | .number none :: _ => .numberOutOfRange
  | .text (.ok s) :: _ => .wrongType (.text s) expected
  | .text (.error f) :: _ => f
  | .openText f _ :: _ => f
  | .leftBracket :: _ => .wrongType .list expected
  | .leftBrace :: _ => .wrongType .object expected
  | .badWord _ f :: _ => f
  | .badNumber cut :: _ => if cut then .endInValue else .invalidNumber
  | _ => .expectedValue

def readText (expected : String) : Reader String
  | .text (.ok s) :: r => .ok (s, r)
  | ts => .error (mismatch expected ts)

def readFlag : Reader Bool
  | .flag b :: r => .ok (b, r)
  | ts => .error (mismatch "a boolean" ts)

def readKey : Reader String
  | .text (.ok k) :: r => .ok (k, r)
  | .text (.error f) :: _ => .error f
  | .openText f _ :: _ => .error f
  | _ => .error .keyNotText

def readColon : List Token → Except Fault (List Token)
  | [] => .error .endInObject
  | .colon :: r => .ok r
  | _ => .error .expectedColon

def tagIndex? (names : List String) (s : String) : Option (Fin names.length) :=
  names.finIdxOf? s

def pickTag (first : String) (others : List String) (s : String) :
    Except Fault (Fin (others.length + 1)) :=
  match tagIndex? (first :: others) s with
  | some i => .ok i
  | none => .error (.unknownVariant s (first :: others))

def readOnlyKey : Reader String
  | [] => .error .endInObject
  | .rightBrace :: _ => .error .expectedValue
  | ts => readKey ts

/-- A name by itself, or as the only field of an object whose value is `null`. -/
def readTag (first : String) (others : List String) : Reader (Fin (others.length + 1))
  | [] => .error .endInValue
  | .text (.ok s) :: r => do .ok (← pickTag first others s, r)
  | .text (.error f) :: _ => .error f
  | .openText f _ :: _ => .error f
  | .leftBrace :: r => do
    let (s, r) ← readOnlyKey r
    let i ← pickTag first others s
    match ← readColon r with
    | .null :: .rightBrace :: r => .ok (i, r)
    | [.null] => .error .endInObject
    | .null :: _ => .error .expectedValue
    | ts => .error (mismatch "unit" ts)
  | _ => .error .expectedValue

def nextItem (first : Bool) : List Token → Except Fault (Option (List Token))
  | [] => .error .endInList
  | .rightBracket :: _ => .ok none
  | .comma :: r =>
    if first then .ok (some (.comma :: r))
    else match r with
      | [] => .error .endInValue
      | .rightBracket :: _ => .error .trailingComma
      | r => .ok (some r)
  | ts => if first then .ok (some ts) else .error .expectedCommaOrBracket

def readItems {α : Type} (read : Reader α) : Nat → Bool → Reader (List α)
  | 0, _, _ => .error .expectedValue
  | steps + 1, first, ts => do
    match ← nextItem first ts with
    | none => .ok ([], ts.tail)
    | some ts =>
      let (x, ts) ← read ts
      let (xs, ts) ← readItems read steps false ts
      .ok (x :: xs, ts)

def closeBracket : List Token → Except Fault (List Token)
  | [] => .error .endInList
  | .rightBracket :: r => .ok r
  | .comma :: .rightBracket :: _ => .error .trailingComma
  | _ => .error .trailingCharacters

/-- A value or `null`, which is what a word with the same first letter is taken for. -/
def readOrNull {α : Type} (read : Reader α) : Reader (Option α)
  | .null :: r => .ok (none, r)
  | .badWord 'n' f :: _ => .error f
  | ts => do let (x, r) ← read ts; .ok (some x, r)

def readSlot {α : Type} (read : Reader α) : (p : Presence) → Reader (p.Slot α)
  | .required => read
  | .lenient => read
  | .nullable => readOrNull read
  | .optional => readOrNull read

def nextKey (first : Bool) : List Token → Except Fault (Option (List Token))
  | [] => .error .endInObject
  | .rightBrace :: _ => .ok none
  | .comma :: r =>
    if first then .error .keyNotText
    else match r with
      | [] => .error .endInValue
      | .rightBrace :: _ => .error .trailingComma
      | r => .ok (some r)
  | ts => if first then .ok (some ts) else .error .expectedCommaOrBrace

/-- Where the skipping of a value stands; `true` marks an open object, `false` an open list. -/
inductive Skip where
  | value (stack : List Bool)
  | opened (top : Bool) (stack : List Bool)
  | key (stack : List Bool)
  | colon (stack : List Bool)
  | after (top : Bool) (stack : List Bool)
  | done

def Skip.close : List Bool → Skip
  | [] => .done
  | top :: stack => .after top stack

def skipScalar (stack : List Bool) : Token → Except Fault Skip
  | .null | .flag _ | .number _ | .text _ => .ok (Skip.close stack)
  | .openText _ f => .error f
  | .leftBrace => .ok (.opened true stack)
  | .leftBracket => .ok (.opened false stack)
  | .badWord _ f => .error f
  | .badNumber _ => .error .invalidNumber
  | _ => .error .expectedValue

def skipKey (stack : List Bool) : Token → Except Fault Skip
  | .text _ => .ok (.colon stack)
  | .openText _ f => .error f
  | _ => .error .keyNotText

def Skip.step : Skip → Token → Except Fault Skip
  | .value stack, t => skipScalar stack t
  | .opened true stack, .rightBrace => .ok (Skip.close stack)
  | .opened true stack, t => skipKey (true :: stack) t
  | .opened false stack, .rightBracket => .ok (Skip.close stack)
  | .opened false stack, t => skipScalar (false :: stack) t
  | .key stack, t => skipKey stack t
  | .colon stack, .colon => .ok (.value stack)
  | .colon _, _ => .error .expectedColon
  | .after true stack, .comma => .ok (.key (true :: stack))
  | .after false stack, .comma => .ok (.value (false :: stack))
  | .after true stack, .rightBrace => .ok (Skip.close stack)
  | .after false stack, .rightBracket => .ok (Skip.close stack)
  | .after true _, _ => .error .expectedCommaOrBrace
  | .after false _, _ => .error .expectedCommaOrBracket
  | .done, _ => .error .trailingCharacters

def Skip.cut : Skip → Fault
  | .value _ => .endInValue
  | .opened true _ | .key _ | .colon _ | .after true _ => .endInObject
  | .opened false _ | .after false _ => .endInList
  | .done => .trailingCharacters

def skip : Skip → List Token → Except Fault (List Token)
  | .done, ts => .ok ts
  | s, [] => .error s.cut
  | s, t :: ts => match s.step t with
    | .error f => .error f
    | .ok s => skip s ts

def absent {α : Type} (name : String) (blank : α) : (p : Presence) → Except Fault (p.Slot α)
  | .required => .error (.missingField name)
  | .nullable => .ok none
  | .optional => .ok none
  | .lenient => .ok blank

def closeDraft : (fs : Fields) → Draft fs → Except Fault (FieldVals fs)
  | [], _ => .ok ()
  | (name, p, s) :: fs, (slot, rest) => do
    let x ← match slot with
      | some x => .ok x
      | none => absent name s.blank p
    .ok (x, ← closeDraft fs rest)

abbrev Fill (fs : Fields) :=
  Draft fs → String → List Token → Option (Except Fault (Draft fs × List Token))

def readObject {fs : Fields} (fill : Fill fs) (strict : Bool) :
    Nat → Bool → Draft fs → Reader (FieldVals fs)
  | 0, _, _, _ => .error .expectedValue
  | steps + 1, first, draft, ts => do
    match ← nextKey first ts with
    | none => .ok (← closeDraft fs draft, ts.tail)
    | some ts =>
      let (k, ts) ← readKey ts
      match fill draft k ts with
      | some out =>
        let (draft, ts) ← out
        readObject fill strict steps false draft ts
      | none =>
        if strict then .error (.unknownField k (fs.map (·.1)))
        else
          let ts ← skip (.value []) (← readColon ts)
          readObject fill strict steps false draft ts

def Presence.mayBeCut : Presence → Bool
  | .required | .nullable => false
  | .optional | .lenient => true

def lengthText (title : String) (n : Nat) : String :=
  "struct " ++ title ++ " with " ++ toString n ++ (if n = 1 then " element" else " elements")

mutual

def Schema.read : (s : Schema) → Reader s.Val
  | .text => readText "a string"
  | .flag => readFlag
  | .tag first others => readTag first others
  | .list item => fun
    | .leftBracket :: r => readItems item.read (r.length + 1) true r
    | ts => .error (mismatch "a sequence" ts)
  | .record title strict fields => fun
    | .leftBracket :: r => readRow (lengthText title fields.length) fields 0 r
    | .leftBrace :: r =>
      readObject (fillField fields) strict (r.length + 1) true (Draft.empty fields) r
    | ts => .error (mismatch ("struct " ++ title) ts)

/-- A record written as a list of its fields in declaration order. -/
def readRow (expected : String) : (fs : List (String × Presence × Schema)) → Nat →
    Reader (FieldVals fs)
  | [], _, ts => do .ok ((), ← closeBracket ts)
  | (_, p, s) :: fs, n, ts => do
    match ← nextItem (n == 0) ts with
    | some ts =>
      let (x, ts) ← readSlot s.read p ts
      let (xs, ts) ← readRow expected fs (n + 1) ts
      .ok ((x, xs), ts)
    | none =>
      if p.mayBeCut then
        let (xs, ts) ← readRow expected fs (n + 1) ts
        .ok ((p.blank s.blank, xs), ts)
      else .error (.wrongLength n expected)

def fillField : (fs : List (String × Presence × Schema)) → Fill fs
  | [], _, _, _ => none
  | (name, p, s) :: fs, (slot, rest), k, ts =>
    if k = name then
      if slot.isSome then some (.error (.duplicateField name))
      else some do
        let (x, ts) ← readSlot s.read p (← readColon ts)
        .ok ((some x, rest), ts)
    else (fillField fs rest k ts).map fun out => out.map fun (rest, ts) => ((slot, rest), ts)

end

def Schema.parse (s : Schema) (source : Source) : Except Fault s.Val := do
  match ← s.read (tokens source) with
  | (x, []) => .ok x
  | (_, _ :: _) => .error .trailingCharacters

def Schema.parseString (s : Schema) (text : String) : Except Fault s.Val :=
  s.parse (Source.ofString text)

end ErrorUnion.Json
