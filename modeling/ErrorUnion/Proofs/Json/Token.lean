import ErrorUnion.Json.Token
import ErrorUnion.Json.Writer

/- The text of a JSON value gives back its tokens, in one line or indented. A piece of text is
   judged in front of anything that may follow it, so that pieces can be put together. -/
namespace ErrorUnion.Json
open ErrorUnion.Text

def separator : Bool → List Token
  | true => []
  | false => [.comma]

mutual

def Tree.tokens : Tree → List Token
  | .null => [.null]
  | .flag b => [.flag b]
  | .text s => [.text (.ok s)]
  | .list items => .leftBracket :: itemTokens true items
  | .object fields => .leftBrace :: fieldTokens true fields

def itemTokens (first : Bool) : List Tree → List Token
  | [] => [.rightBracket]
  | t :: r => separator first ++ (t.tokens ++ itemTokens false r)

def fieldTokens (first : Bool) : List (String × Tree) → List Token
  | [] => [.rightBrace]
  | (k, t) :: r =>
    separator first ++ (.text (.ok k) :: .colon :: (t.tokens ++ fieldTokens false r))

end

/-- A text has these tokens wherever it stands, and what follows it is read from its own start. The
steps that are left still suffice for the rest. -/
def Lexes (cs : List Char) (ts : List Token) : Prop :=
  ∀ steps rest, cs.length + rest.length ≤ steps →
    ∃ left, rest.length ≤ left ∧
      tokensWithin steps (cs.map some ++ rest) = ts ++ tokensWithin left rest

theorem lexes_append {cs ds : List Char} {ts us : List Token} (first : Lexes cs ts)
    (second : Lexes ds us) : Lexes (cs ++ ds) (ts ++ us) := by
  intro steps rest enough
  obtain ⟨middle, bound, head⟩ := first steps (ds.map some ++ rest) (by simp at enough ⊢; omega)
  obtain ⟨left, remains, tail⟩ := second middle rest (by simpa using bound)
  refine ⟨left, remains, ?_⟩
  rw [List.map_append, List.append_assoc, head, tail, List.append_assoc]

theorem lexes_gap {c : Char} (gap : isGap c = true) : Lexes [c] [] := by
  intro steps rest enough
  obtain ⟨left, rfl⟩ := Nat.exists_eq_add_of_le' (Nat.le_of_add_right_le enough)
  refine ⟨left, by simp at enough; omega, ?_⟩
  simp [tokensWithin, gap]

theorem lexes_gaps {cs : List Char} (gaps : ∀ c ∈ cs, isGap c = true) : Lexes cs [] := by
  induction cs with
  | nil => exact fun steps rest enough => ⟨steps, by simpa using enough, rfl⟩
  | cons c r ih =>
    rw [List.forall_mem_cons] at gaps
    exact lexes_append (lexes_gap gaps.1) (ih gaps.2)

theorem lexes_token {c : Char} {cs : List Char} {t : Token} (solid : isGap c = false)
    (found : ∀ rest, tokenAt c (cs.map some ++ rest) = (t, some rest)) : Lexes (c :: cs) [t] := by
  intro steps rest enough
  obtain ⟨left, rfl⟩ : ∃ left, steps = left + 1 := ⟨steps - 1, by simp at enough; omega⟩
  refine ⟨left, by simp at enough; omega, ?_⟩
  simp [tokensWithin, solid, found]

theorem hex_pair_value (n : Nat) (low : n < 0x20) :
    hexValue? (Nat.digitChar (n / 16)) = some (n / 16) ∧
      hexValue? (Nat.digitChar (n % 16)) = some (n % 16) ∧
      byteCount ((['0', '0'] ++ hexPair n).map some) = 4 := by
  have all : ∀ n < 0x20, hexValue? (Nat.digitChar (n / 16)) = some (n / 16) ∧
      hexValue? (Nat.digitChar (n % 16)) = some (n % 16) ∧
      byteCount ((['0', '0'] ++ hexPair n).map some) = 4 := by decide
  exact all n low

theorem scan_hex_escape {c : Char} (low : c.toNat < 0x20) (rest : Source) :
    scan true .plain ((['\\', 'u', '0', '0'] ++ hexPair c.toNat).map some ++ rest) =
      prepend (some c) (scan true .plain rest) := by
  obtain ⟨high, small, bytes⟩ := hex_pair_value c.toNat low
  have zero : hexValue? '0' = some 0 := by decide
  -- No half of a surrogate pair is written this way, so that four digits are a character.
  have whole : c.toNat / 16 * 16 + c.toNat % 16 = c.toNat := Nat.div_add_mod' ..
  have found : unit c.toNat none = .ok (.inl c) := by
    unfold unit
    rw [if_neg (by omega), if_neg (by omega), Char.ofNat_toNat]
  simp only [hexPair, List.cons_append, List.nil_append, List.map_cons, List.map_nil] at bytes ⊢
  simp [scan, bytes, zero, high, small, whole, found]

theorem scan_escaped (c : Char) (rest : Source) :
    scan true .plain ((escapeChar c).map some ++ rest) =
      prepend (some c) (scan true .plain rest) := by
  by_cases quote : c = '"'
  · subst quote; simp [escapeChar, scan, simpleEscape?]
  by_cases slash : c = '\\'
  · subst slash; simp [escapeChar, scan, simpleEscape?]
  by_cases back : c = '\x08'
  · subst back; simp [escapeChar, scan, simpleEscape?]
  by_cases feed : c = '\x0c'
  · subst feed; simp [escapeChar, scan, simpleEscape?]
  by_cases line : c = '\n'
  · subst line; simp [escapeChar, scan, simpleEscape?]
  by_cases carriage : c = '\r'
  · subst carriage; simp [escapeChar, scan, simpleEscape?]
  by_cases tab : c = '\t'
  · subst tab; simp [escapeChar, scan, simpleEscape?]
  by_cases low : c.toNat < 0x20
  · simp only [escapeChar, quote, slash, back, feed, line, carriage, tab, low, if_true, if_false]
    exact scan_hex_escape low rest
  · simp [escapeChar, quote, slash, back, feed, line, carriage, tab, low, scan]

theorem scan_literal (cs : List Char) (rest : Source) :
    scan true .plain ((cs.flatMap escapeChar ++ ['"']).map some ++ rest) =
      .ok (cs.map some, rest) := by
  induction cs with
  | nil => simp [scan]
  | cons c r ih =>
    rw [List.flatMap_cons, List.append_assoc, List.map_append, List.append_assoc, scan_escaped, ih]
    rfl

theorem text_literal_lexes (s : String) : Lexes (textLiteral s) [.text (.ok s)] := by
  apply lexes_token (by decide)
  intro rest
  have clean : content (s.toList.map some) = .ok s := by simp [content]
  change textToken _ = _
  rw [textToken, scan_literal]
  simp only [clean]

theorem open_bracket_lexes : Lexes ['['] [.leftBracket] := lexes_token (by decide) fun _ => rfl

theorem close_bracket_lexes : Lexes [']'] [.rightBracket] := lexes_token (by decide) fun _ => rfl

theorem open_brace_lexes : Lexes ['\x7b'] [.leftBrace] := lexes_token (by decide) fun _ => rfl

theorem close_brace_lexes : Lexes ['\x7d'] [.rightBrace] := lexes_token (by decide) fun _ => rfl

theorem comma_lexes : Lexes [','] [.comma] := lexes_token (by decide) fun _ => rfl

theorem colon_lexes : Lexes [':'] [.colon] := lexes_token (by decide) fun _ => rfl

theorem null_lexes : Lexes ['n', 'u', 'l', 'l'] [.null] := lexes_token (by decide) fun _ => rfl

theorem flag_lexes (b : Bool) : Lexes (Tree.flag b).compact [.flag b] := by
  cases b
  · exact lexes_token (by decide) fun _ => rfl
  · exact lexes_token (by decide) fun _ => rfl

theorem first_item_lexes {t : Tree} {r : List Tree} {cs ds : List Char} (value : Lexes cs t.tokens)
    (more : Lexes ds (itemTokens false r)) : Lexes (cs ++ ds) (itemTokens true (t :: r)) := by
  change Lexes _ (t.tokens ++ itemTokens false r)
  exact lexes_append value more

theorem later_items_lex {t : Tree} {r : List Tree} {cs : List Char}
    (items : Lexes cs (itemTokens true (t :: r))) : Lexes (',' :: cs) (itemTokens false (t :: r)) :=
  lexes_append comma_lexes items

theorem first_field_lexes {t : Tree} {r : List (String × Tree)} {gap cs ds : List Char} (k : String)
    (blank : Lexes gap []) (value : Lexes cs t.tokens) (more : Lexes ds (fieldTokens false r)) :
    Lexes (textLiteral k ++ ':' :: (gap ++ (cs ++ ds))) (fieldTokens true ((k, t) :: r)) := by
  change Lexes _ ([.text (.ok k)] ++ ([.colon] ++ ([] ++ (t.tokens ++ fieldTokens false r))))
  exact lexes_append (text_literal_lexes k)
    (lexes_append colon_lexes (lexes_append blank (lexes_append value more)))

theorem later_fields_lex {f : String × Tree} {r : List (String × Tree)} {cs : List Char}
    (fields : Lexes cs (fieldTokens true (f :: r))) :
    Lexes (',' :: cs) (fieldTokens false (f :: r)) :=
  lexes_append comma_lexes fields

theorem lexes_nil : Lexes [] [] := lexes_gaps (by simp)

mutual

theorem compact_lexes : ∀ t : Tree, Lexes t.compact t.tokens
  | .null => null_lexes
  | .flag b => flag_lexes b
  | .text s => text_literal_lexes s
  | .list items => lexes_append open_bracket_lexes (compact_items_lex items)
  | .object fields => lexes_append open_brace_lexes (compact_fields_lex fields)

theorem compact_items_lex : ∀ items : List Tree,
    Lexes (compactItems items ++ [']']) (itemTokens true items)
  | [] => close_bracket_lexes
  | [t] => first_item_lexes (compact_lexes t) close_bracket_lexes
  | t :: u :: r => by
    have more := later_items_lex (compact_items_lex (u :: r))
    rw [compactItems, List.append_assoc]
    exact first_item_lexes (compact_lexes t) more

theorem compact_fields_lex : ∀ fields : List (String × Tree),
    Lexes (compactFields fields ++ ['\x7d']) (fieldTokens true fields)
  | [] => close_brace_lexes
  | [(k, t)] => by
    rw [compactFields, List.append_assoc]
    exact first_field_lexes k lexes_nil (compact_lexes t) close_brace_lexes
  | (k, t) :: u :: r => by
    have more := later_fields_lex (compact_fields_lex (u :: r))
    have value := first_field_lexes k lexes_nil (compact_lexes t) more
    simpa only [compactFields, List.append_assoc, List.cons_append, List.nil_append] using value

end

theorem space_lexes : Lexes [' '] [] := lexes_gap (by decide)

theorem newline_lexes (depth : Nat) : Lexes (newline depth) [] := by
  apply lexes_gaps
  intro c member
  rcases List.mem_cons.mp member with rfl | blank
  · decide
  · rw [List.eq_of_mem_replicate blank]
    decide

theorem after_newline {depth : Nat} {cs : List Char} {ts : List Token} (rest : Lexes cs ts) :
    Lexes (newline depth ++ cs) ts :=
  lexes_append (newline_lexes depth) rest

mutual

theorem pretty_lexes (depth : Nat) : ∀ t : Tree, Lexes (t.pretty depth) t.tokens
  | .null => null_lexes
  | .flag b => by
    have same : (Tree.flag b).pretty depth = (Tree.flag b).compact := by cases b <;> rfl
    rw [same]
    exact flag_lexes b
  | .text s => text_literal_lexes s
  | .list [] => lexes_append open_bracket_lexes close_bracket_lexes
  | .list (t :: r) => by
    rw [Tree.pretty, List.append_assoc]
    exact lexes_append open_bracket_lexes
      (pretty_items_lex (depth + 1) (t :: r) (after_newline close_bracket_lexes))
  | .object [] => lexes_append open_brace_lexes close_brace_lexes
  | .object (f :: r) => by
    rw [Tree.pretty, List.append_assoc]
    exact lexes_append open_brace_lexes
      (pretty_fields_lex (depth + 1) (f :: r) (after_newline close_brace_lexes))

theorem pretty_items_lex (depth : Nat) {close : List Char} : ∀ items : List Tree,
    Lexes close [.rightBracket] → Lexes (prettyItems depth items ++ close) (itemTokens true items)
  | [], closed => closed
  | [t], closed => by
    rw [prettyItems, List.append_assoc]
    exact after_newline (first_item_lexes (pretty_lexes depth t) closed)
  | t :: u :: r, closed => by
    have more := later_items_lex (pretty_items_lex depth (u :: r) closed)
    rw [prettyItems, List.append_assoc, List.append_assoc]
    exact after_newline (first_item_lexes (pretty_lexes depth t) more)

theorem pretty_fields_lex (depth : Nat) {close : List Char} : ∀ fields : List (String × Tree),
    Lexes close [.rightBrace] →
      Lexes (prettyFields depth fields ++ close) (fieldTokens true fields)
  | [], closed => closed
  | [(k, t)], closed => by
    have value := first_field_lexes (r := []) k space_lexes (pretty_lexes depth t) closed
    simpa only [prettyFields, List.append_assoc, List.cons_append, List.nil_append]
      using after_newline value
  | (k, t) :: u :: r, closed => by
    have more := later_fields_lex (pretty_fields_lex depth (u :: r) closed)
    have value := first_field_lexes k space_lexes (pretty_lexes depth t) more
    simpa only [prettyFields, List.append_assoc, List.cons_append, List.nil_append]
      using after_newline value

end

/-- How the text of a value is laid out: in one line, or indented from some depth on. -/
inductive Layout where
  | line
  | indented (depth : Nat)

def Tree.written (t : Tree) : Layout → String
  | .line => String.ofList t.compact
  | .indented depth => String.ofList (t.pretty depth)

theorem tokens_of_lexed {cs : List Char} {ts : List Token} (lexes : Lexes cs ts) :
    tokens (Source.ofString (String.ofList cs)) = ts := by
  obtain ⟨left, -, found⟩ := lexes cs.length [] (by simp)
  have last : tokensWithin left [] = [] := by cases left <;> rfl
  simpa [tokens, Source.ofString, last] using found

theorem tokens_of_written (t : Tree) (layout : Layout) :
    tokens (Source.ofString (t.written layout)) = t.tokens := by
  cases layout with
  | line => exact tokens_of_lexed (compact_lexes t)
  | indented depth => exact tokens_of_lexed (pretty_lexes depth t)

end ErrorUnion.Json
