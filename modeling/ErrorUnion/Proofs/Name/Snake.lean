import Mathlib.Data.List.Chain
import ErrorUnion.Proofs.Name.Word

/- A name in snake case is made of the words of the name, in small letters and with an underscore
   between each two of them. What is kept of a name is read off from how it is cut into words. -/
namespace ErrorUnion.Name

/-- The second part starts with a capital that starts a word behind the first part. -/
def Seam (u v : List Char) : Prop :=
  ∃ before c after, u.getLast? = some before ∧ v = c :: after ∧ c.isUpper = true ∧
    startsWord before after = true

def OneWord (w : List Char) : Prop :=
  ∀ front before c after, w = front ++ before :: c :: after → c.isUpper = true →
    startsWord before after = false

/-- A name is cut wherever a capital starts a word, and nowhere else. -/
structure CutInto (name : List Char) (words : List (List Char)) : Prop where
  whole : words.flatten = name
  filled : ∀ w ∈ words, w ≠ []
  uncut : ∀ w ∈ words, OneWord w
  seams : words.IsChain Seam

/-- Joined by an underscore, the two parts do not bring it next to another one. -/
def Joinable (u v : List Char) : Prop := u.getLast? ≠ some '_' ∧ v.head? ≠ some '_'

def smallWords (words : List (List Char)) : List (List Char) := words.map (List.map Char.toLower)

def withoutUnderscores (cs : List Char) : List Char := cs.filter (· ≠ '_')

def bareName (name : String) : List Char := withoutUnderscores (name.toList.map Char.toLower)

theorem lower_underscore {c : Char} (line : c.toLower = '_') : c = '_' := by
  cases upper : c.isUpper with
  | true =>
    have small := capital_to_small upper
    rw [line] at small
    exact absurd small (by decide)
  | false => rwa [lower_of_not_upper upper] at line

theorem no_word_behind_underscore (after : List Char) : startsWord '_' after = false := by
  simp [startsWord]

theorem seam_joinable {u v : List Char} (seam : Seam u v) :
    Joinable (u.map Char.toLower) (v.map Char.toLower) := by
  obtain ⟨before, c, after, last, rfl, upper, starts⟩ := seam
  constructor
  · rw [List.getLast?_map, last]
    intro line
    have underscore := lower_underscore (Option.some.inj line)
    rw [underscore, no_word_behind_underscore] at starts
    cases starts
  · intro line
    have underscore := lower_underscore (Option.some.inj line)
    rw [underscore] at upper
    exact absurd upper (by decide)

theorem one_word_single (c : Char) : OneWord [c] := by
  intro front before d after same
  have length := congrArg List.length same
  simp only [List.length_append, List.length_cons, List.length_nil] at length
  omega

theorem one_word_cons (before c : Char) (r : List Char) :
    OneWord (before :: c :: r) ↔
      (c.isUpper = true → startsWord before r = false) ∧ OneWord (c :: r) := by
  constructor
  · intro word
    refine ⟨word [] before c r rfl, ?_⟩
    intro front b d after same
    exact word (before :: front) b d after (congrArg (before :: ·) same)
  · rintro ⟨first, rest⟩ front b d after same
    cases front with
    | nil =>
      cases same
      exact first
    | cons a front =>
      rw [List.cons_append, List.cons.injEq] at same
      exact rest front b d after same.2

/-- Whether a word starts is seen within the word: the next one starts with a capital, which is no
small letter. -/
theorem starts_word_within (before : Char) {c : Char} {r w : List Char} {ws : List (List Char)}
    (cut : CutInto (c :: r) ((c :: w) :: ws)) : startsWord before w = startsWord before r := by
  have rest : w ++ ws.flatten = r := by simpa using cut.whole
  rw [← rest]
  cases w with
  | cons d w => rfl
  | nil =>
    cases ws with
    | nil => rfl
    | cons v ws =>
      obtain ⟨_, d, after, _, rfl, upper, _⟩ := (List.isChain_cons_cons.mp cut.seams).1
      simp [startsWord, upper_not_lower upper]

theorem snake_chars_cons (before c : Char) (r : List Char) :
    snakeChars (before :: c :: r) =
      if c.isUpper = true ∧ startsWord before r = true then
        before.toLower :: '_' :: snakeChars (c :: r)
      else before.toLower :: snakeChars (c :: r) := by
  simp only [snakeChars, snakeAfter, Bool.and_eq_true]
  split <;> rfl

section Step
variable {before c : Char} {r w : List Char} {ws : List (List Char)}
  (cut : CutInto (c :: r) ((c :: w) :: ws))
include cut

theorem cut_new_word (upper : c.isUpper = true) (starts : startsWord before r = true) :
    CutInto (before :: c :: r) ([before] :: (c :: w) :: ws) where
  whole := by simpa using cut.whole
  filled := List.forall_mem_cons.mpr ⟨by simp, cut.filled⟩
  uncut := List.forall_mem_cons.mpr ⟨one_word_single before, cut.uncut⟩
  seams := by
    rw [← starts_word_within before cut] at starts
    exact List.isChain_cons_cons.mpr ⟨⟨before, c, w, rfl, rfl, upper, starts⟩, cut.seams⟩

theorem cut_same_word (same : ¬ (c.isUpper = true ∧ startsWord before r = true)) :
    CutInto (before :: c :: r) ((before :: c :: w) :: ws) where
  whole := by simpa using cut.whole
  filled := List.forall_mem_cons.mpr ⟨by simp, (List.forall_mem_cons.mp cut.filled).2⟩
  uncut := by
    have words := List.forall_mem_cons.mp cut.uncut
    refine List.forall_mem_cons.mpr ⟨(one_word_cons before c w).mpr ⟨?_, words.1⟩, words.2⟩
    intro upper
    rw [starts_word_within before cut, ← Bool.not_eq_true]
    exact fun starts => same ⟨upper, starts⟩
  seams := by
    have seams := cut.seams
    cases ws with
    | nil => exact .singleton _
    | cons v ws =>
      rw [List.isChain_cons_cons] at seams ⊢
      refine ⟨?_, seams.2⟩
      simpa only [Seam, List.getLast?_cons_cons] using seams.1

end Step

theorem snake_chars_from (c : Char) (r : List Char) :
    ∃ w ws, CutInto (c :: r) ((c :: w) :: ws) ∧
      snakeChars (c :: r) = ['_'].intercalate (smallWords ((c :: w) :: ws)) := by
  induction r generalizing c with
  | nil =>
    have word : ∀ w ∈ [[c]], OneWord w := List.forall_mem_singleton.mpr (one_word_single c)
    exact ⟨[], [], ⟨rfl, by simp, word, .singleton _⟩, rfl⟩
  | cons d r ih =>
    -- The first word behind `c` starts with `d`: it stays as it is, or `c` is put in front of it.
    obtain ⟨w, ws, cut, joined⟩ := ih d
    by_cases starts : d.isUpper = true ∧ startsWord c r = true
    · refine ⟨[], (d :: w) :: ws, cut_new_word cut starts.1 starts.2, ?_⟩
      rw [snake_chars_cons, if_pos starts, joined]
      simp [smallWords]
    · refine ⟨d :: w, ws, cut_same_word cut starts, ?_⟩
      rw [snake_chars_cons, if_neg starts, joined]
      cases ws <;> simp [smallWords]

theorem snake_chars_joined (name : List Char) :
    ∃ words, CutInto name words ∧ snakeChars name = ['_'].intercalate (smallWords words) := by
  cases name with
  | nil => exact ⟨[], ⟨rfl, by simp, by simp, .nil⟩, rfl⟩
  | cons c r =>
    obtain ⟨w, ws, cut, joined⟩ := snake_chars_from c r
    exact ⟨_, cut, joined⟩

theorem without_underscores_append (cs ds : List Char) :
    withoutUnderscores (cs ++ ds) = withoutUnderscores cs ++ withoutUnderscores ds :=
  List.filter_append cs ds

theorem without_underscores_joined (words : List (List Char)) :
    withoutUnderscores (['_'].intercalate words) = withoutUnderscores words.flatten := by
  induction words with
  | nil => rfl
  | cons u r ih =>
    cases r with
    | nil => simp
    | cons v r =>
      have line : withoutUnderscores ['_'] = [] := rfl
      rw [List.intercalate_cons_cons, List.flatten_cons]
      simp only [without_underscores_append, ih, line, List.append_nil]

theorem char_joined {words : List (List Char)} {c : Char}
    (member : c ∈ ['_'].intercalate words) : c = '_' ∨ c ∈ words.flatten := by
  by_cases line : c = '_'
  · exact Or.inl line
  · have kept : c ∈ withoutUnderscores (['_'].intercalate words) :=
      List.mem_filter.mpr ⟨member, by simpa using line⟩
    rw [without_underscores_joined] at kept
    exact Or.inr (List.mem_filter.mp kept).1

theorem small_words_flatten {name : List Char} {words : List (List Char)}
    (cut : CutInto name words) : (smallWords words).flatten = name.map Char.toLower := by
  rw [smallWords, ← List.map_flatten, cut.whole]

theorem snake_without_underscores (name : String) :
    withoutUnderscores (snakeCase name).toList = bareName name := by
  obtain ⟨words, cut, joined⟩ := snake_chars_joined name.toList
  rw [snakeCase, String.toList_ofList, joined, without_underscores_joined,
    small_words_flatten cut, bareName]

theorem snake_small (name : String) : ∀ c ∈ (snakeCase name).toList, c.isUpper = false := by
  obtain ⟨words, cut, joined⟩ := snake_chars_joined name.toList
  intro c member
  rw [snakeCase, String.toList_ofList, joined] at member
  rcases char_joined member with rfl | inside
  · decide
  · rw [small_words_flatten cut] at inside
    obtain ⟨d, -, rfl⟩ := List.mem_map.mp inside
    exact lower_leaves_no_capital d

theorem joined_of_small {name : List Char} {words : List (List Char)} (cut : CutInto name words)
    (small : ∀ c ∈ name, c.isUpper = false) :
    ['_'].intercalate (smallWords words) = (smallWords words).flatten := by
  cases words with
  | nil => rfl
  | cons u r =>
    cases r with
    | nil => simp [smallWords]
    | cons v r =>
      obtain ⟨_, c, after, _, rfl, upper, _⟩ := (List.isChain_cons_cons.mp cut.seams).1
      have inside : c ∈ name := by
        rw [← cut.whole]
        simp
      rw [small c inside] at upper
      cases upper

theorem snake_of_small {name : String} (small : ∀ c ∈ name.toList, c.isUpper = false) :
    snakeCase name = name := by
  obtain ⟨words, cut, joined⟩ := snake_chars_joined name.toList
  have lower : ∀ c ∈ name.toList, c.toLower = c := fun c member =>
    lower_of_not_upper (small c member)
  apply String.toList_injective
  calc (snakeCase name).toList
      = ['_'].intercalate (smallWords words) := by rw [snakeCase, String.toList_ofList, joined]
    _ = (smallWords words).flatten := joined_of_small cut small
    _ = name.toList.map Char.toLower := small_words_flatten cut
    _ = name.toList := (List.map_congr_left lower).trans (List.map_id _)

/-- A snake name is the words of a name in small letters, with an underscore put between each two of
them, so at no end, and next to no other one. It has no capital, and but for underscores and case it
is the name. So names with one snake form differ in those alone, and a name without capitals is its
own snake form, as any snake name is. -/
theorem snake_joins_words (name : String) :
    (∃ words, CutInto name.toList words ∧ (smallWords words).IsChain Joinable ∧
      (snakeCase name).toList = ['_'].intercalate (smallWords words)) ∧
    (∀ c ∈ (snakeCase name).toList, c.isUpper = false) ∧
    withoutUnderscores (snakeCase name).toList = bareName name ∧
    snakeCase (snakeCase name) = snakeCase name ∧
    (∀ other, snakeCase name = snakeCase other → bareName name = bareName other) ∧
    ((∀ c ∈ name.toList, c.isUpper = false) → snakeCase name = name) := by
  have again := snake_of_small (snake_small name)
  refine ⟨?_, snake_small name, snake_without_underscores name, again, ?_, snake_of_small⟩
  · obtain ⟨words, cut, joined⟩ := snake_chars_joined name.toList
    refine ⟨words, cut, ?_, by rw [snakeCase, String.toList_ofList, joined]⟩
    exact (List.isChain_map _).mpr (cut.seams.imp fun u v => seam_joinable)
  · intro other same
    rw [← snake_without_underscores name, same, snake_without_underscores other]

example : snakeCase "HTTPError2Fix_It" = "http_error2_fix_it" := rfl

theorem error_names_in_snake :
    snakeCase "HTTPError" = snakeCase "Http_Error" ∧
      bareName "HTTPError" = bareName "Http_Error" ∧
      (∀ c ∈ "error2_fix".toList, c.isUpper = false) ∧ snakeCase "error2_fix" = "error2_fix" := by
  obtain ⟨-, -, -, -, alike, -⟩ := snake_joins_words "HTTPError"
  obtain ⟨-, -, -, -, -, kept⟩ := snake_joins_words "error2_fix"
  have same : snakeCase "HTTPError" = snakeCase "Http_Error" := rfl
  have small : ∀ c ∈ "error2_fix".toList, c.isUpper = false := by simp
  exact ⟨same, alike _ same, small, kept small⟩

end ErrorUnion.Name
