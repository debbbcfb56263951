import RuleConsult.Entry
import RuleConsult.Reading.Attempt
import RuleConsult.Text.Space

/-!
# Forms

The written forms, from words up to entries. Between the words of a rule there may be any amount of
white space, line ends included; the two halves of a pair are joined by a hyphen alone; the text of
a binding ends where the line or the characters allowed in it end.

Every form is read at the beginning of a text and without looking back: a keyword that has been read
commits the rule to what must follow it. Whatever is read uses up part of the text (the `Consumes`
lemmas), which is why reading a whole document ends.
-/

namespace RuleConsult

open Text

/-! ## Characters -/

/-- White space between words: blank, tab and line ends. -/
def isGap (c : Char) : Bool :=
  c == ' ' || c == '\t' || c == '\r' || c == '\n'

/-- White space within a line. -/
def isBlank (c : Char) : Bool :=
  c == ' ' || c == '\t'

/-- A digit of a rule number. -/
def isNumberDigit (c : Char) : Bool :=
  '0' ≤ c && c ≤ '9'

/-- A character of the text of a binding. -/
def isFreeText (c : Char) : Bool :=
  isWord c || c == '-' || c == ' ' || c == '?' || c == '(' || c == ')' || c == '/'

/-- The text without the white space at its beginning. -/
def skipGap (text : List Char) : List Char := text.dropWhile isGap

/-- The text without the blanks and tabs at its beginning. -/
def skipBlank (text : List Char) : List Char := text.dropWhile isBlank

/-! ## Words -/

/-- Reads as many characters of a class as there are, and at least one. -/
def readRun (member : Char → Bool) (expected : Expected) (text : List Char) : Attempt String :=
  let run := text.takeWhile member
  if run.isEmpty then .miss expected text
  else .read (String.ofList run) (text.dropWhile member)

/-- Reads a token. -/
def readToken (expected : Expected) (text : List Char) : Attempt String :=
  readRun isWord expected text

/-- The text after the given characters, if it begins with them. -/
def dropPrefix? : List Char → List Char → Option (List Char)
  | [], text => some text
  | _ :: _, [] => none
  | c :: more, d :: text => if c = d then dropPrefix? more text else none

/-- Whether the text begins with a word character. -/
def startsWord (text : List Char) : Bool :=
  text.head?.any isWord

/-- Reads a keyword, which must not be the beginning of a longer word. -/
def readKeyword (word : String) (text : List Char) : Attempt Unit :=
  match dropPrefix? word.toList text with
  | some rest => if startsWord rest then .miss (.keyword word) text else .read () rest
  | none => .miss (.keyword word) text

/-- Reads a hyphen. -/
def readHyphen : List Char → Attempt Unit
  | '-' :: rest => .read () rest
  | text => .miss .hyphen text

/-- Reads a pair: category, hyphen and value without white space between them. -/
def readPair (text : List Char) : Attempt Pair :=
  (readToken .category text).andThen fun category text =>
  (readHyphen text).andThen fun _ text =>
  (readToken .value text).andThen fun value text =>
  .read ⟨category, value⟩ text

/-! ## What is read is used up -/

theorem length_dropWhile_le {α : Type} (p : α → Bool) (xs : List α) :
    (xs.dropWhile p).length ≤ xs.length :=
  (List.dropWhile_sublist p).length_le

theorem length_skipGap_le (text : List Char) : (skipGap text).length ≤ text.length :=
  length_dropWhile_le isGap text

theorem consumes_readRun (member : Char → Bool) (expected : Expected) (text : List Char) :
    (readRun member expected text).Consumes text := by
  intro value rest h
  simp only [readRun] at h
  split at h
  · simp at h
  · rename_i hne
    simp only [Attempt.result_read, Option.some.injEq, Prod.mk.injEq] at h
    obtain ⟨-, rfl⟩ := h
    -- The run and the rest make up the text, and the run is not empty.
    have hlen := congrArg List.length (@List.takeWhile_append_dropWhile Char member text)
    have hpos : 0 < (text.takeWhile member).length := by
      cases hrun : text.takeWhile member with
      | nil => simp [hrun] at hne
      | cons c run => simp
    simp only [List.length_append] at hlen
    omega

theorem length_of_dropPrefix? {word text rest : List Char}
    (h : dropPrefix? word text = some rest) : rest.length + word.length = text.length := by
  induction word generalizing text with
  | nil => simp only [dropPrefix?, Option.some.injEq] at h; simp [h]
  | cons c more ih =>
    cases text with
    | nil => simp [dropPrefix?] at h
    | cons d text =>
      simp only [dropPrefix?] at h
      split at h
      · have := ih h
        simp only [List.length_cons]
        omega
      · simp at h

theorem length_of_readKeyword {word : String} {text rest : List Char} {u : Unit}
    (h : (readKeyword word text).result = some (u, rest)) : rest.length ≤ text.length := by
  unfold readKeyword at h
  split at h
  · rename_i hdrop
    split at h
    · simp at h
    · simp only [Attempt.result_read, Option.some.injEq, Prod.mk.injEq] at h
      obtain ⟨-, rfl⟩ := h
      have := length_of_dropPrefix? hdrop
      omega
  · simp at h

theorem consumes_readPair (text : List Char) : (readPair text).Consumes text := by
  unfold readPair
  refine (consumes_readRun _ _ _).andThen fun category rest out left h => ?_
  -- The hyphen leaves no more than there was before it, and the value uses up something.
  rw [Attempt.result_andThen] at h
  obtain ⟨⟨_, mid⟩, hhyphen, h⟩ := Option.bind_eq_some_iff.1 h
  have hmid : mid.length ≤ rest.length := by
    unfold readHyphen at hhyphen
    split at hhyphen
    · simp only [Attempt.result_read, Option.some.injEq, Prod.mk.injEq] at hhyphen
      obtain ⟨-, rfl⟩ := hhyphen
      simp
    · simp at hhyphen
  rw [Attempt.result_andThen] at h
  obtain ⟨⟨value, last⟩, hvalue, h⟩ := Option.bind_eq_some_iff.1 h
  have hlast := consumes_readRun _ _ _ value last hvalue
  simp only [Attempt.result_read, Option.some.injEq, Prod.mk.injEq] at h
  obtain ⟨-, rfl⟩ := h
  simp only at hlast
  omega

/-- A further condition, with the conjunction before it, uses up text. -/
theorem length_lt_of_condition {word : String} {text afterAnd rest : List Char} {u : Unit}
    {condition : Pair} (hand : (readKeyword word (skipGap text)).result = some (u, afterAnd))
    (hpair : (readPair (skipGap afterAnd)).result = some (condition, rest)) :
    rest.length < text.length := by
  have h₁ := consumes_readPair _ _ _ hpair
  have h₂ := length_of_readKeyword hand
  have h₃ := length_skipGap_le afterAnd
  have h₄ := length_skipGap_le text
  omega

/-! ## Rules -/

/-- Reads the conditions after the first: as long as the conjunction follows, one more pair. The
conjunction once read, a pair must follow it. -/
def readConditions (keywords : Keywords) (text : List Char) : Attempt (List Pair) :=
  let conjunction := readKeyword keywords.words.ruleAnd (skipGap text)
  match hand : conjunction.result with
  -- Without a conjunction the conditions end before the white space that was skipped.
  | none => ⟨conjunction.misses, some ([], text)⟩
  | some (_, afterAnd) =>
    let pair := readPair (skipGap afterAnd)
    match hpair : pair.result with
    | none => ⟨conjunction.misses ++ pair.misses, none⟩
    | some (condition, rest) =>
      have : rest.length < text.length := length_lt_of_condition hand hpair
      let others := readConditions keywords rest
      ⟨conjunction.misses ++ pair.misses ++ others.misses,
        others.result.map fun success => (condition :: success.1, success.2)⟩
termination_by text.length

/-- Reads a rule. -/
def readRule (keywords : Keywords) (text : List Char) : Attempt EntryBody :=
  (readRun isNumberDigit .ruleNumber text).andThen fun number text =>
  (readKeyword keywords.words.ruleIf (skipGap text)).andThen fun _ text =>
  (readPair (skipGap text)).andThen fun first text =>
  (readConditions keywords text).andThen fun others text =>
  (readKeyword keywords.words.ruleThen (skipGap text)).andThen fun _ text =>
  (readPair (skipGap text)).andThen fun conclusion text =>
  .read (.rule number (first :: others) (some conclusion)) text

/-! ## Bindings and entries -/

/-- Reads a binding of the given kind. Its text is what the line still holds of allowed characters,
without the spaces around it. -/
def readBinding (keywords : Keywords) (kind : BindingKind) (text : List Char) :
    Attempt EntryBody :=
  (readKeyword (kind.word keywords) text).andThen fun _ text =>
  (readToken .category (skipGap text)).andThen fun category text =>
  let body := (skipBlank text).takeWhile isFreeText
  .read (.binding kind category (String.ofList (trimList (· == ' ') body)))
    ((skipBlank text).dropWhile isFreeText)

/-- Reads an entry: a rule if it is one, else a binding. -/
def readEntry (keywords : Keywords) (text : List Char) : Attempt EntryBody :=
  (readRule keywords text).orElse fun _ =>
  (readBinding keywords .advice text).orElse fun _ =>
  (readBinding keywords .translation text).orElse fun _ =>
  readBinding keywords .tip text

theorem length_of_readConditions {keywords : Keywords} {text rest : List Char}
    {pairs : List Pair} (h : (readConditions keywords text).result = some (pairs, rest)) :
    rest.length ≤ text.length := by
  fun_induction readConditions keywords text generalizing pairs with
  | case1 text =>
    simp only [Option.some.injEq, Prod.mk.injEq] at h
    simp [← h.2]
  | case2 => simp at h
  | case3 =>
    rename_i hlt _ ih
    obtain ⟨⟨others, last⟩, hothers, h⟩ := Option.map_eq_some_iff.1 h
    simp only [Prod.mk.injEq] at h
    obtain ⟨-, rfl⟩ := h
    exact Nat.le_trans (ih hothers) (Nat.le_of_lt hlt)

theorem consumes_readRule (keywords : Keywords) (text : List Char) :
    (readRule keywords text).Consumes text := by
  unfold readRule
  refine (consumes_readRun _ _ _).andThen fun number s₀ out left h => ?_
  -- In order: the first word, the first pair, further conditions, the second word, the conclusion.
  rw [Attempt.result_andThen] at h
  obtain ⟨⟨_, s₁⟩, h₁, h⟩ := Option.bind_eq_some_iff.1 h
  rw [Attempt.result_andThen] at h
  obtain ⟨⟨_, s₂⟩, h₂, h⟩ := Option.bind_eq_some_iff.1 h
  rw [Attempt.result_andThen] at h
  obtain ⟨⟨_, s₃⟩, h₃, h⟩ := Option.bind_eq_some_iff.1 h
  rw [Attempt.result_andThen] at h
  obtain ⟨⟨_, s₄⟩, h₄, h⟩ := Option.bind_eq_some_iff.1 h
  rw [Attempt.result_andThen] at h
  obtain ⟨⟨_, s₅⟩, h₅, h⟩ := Option.bind_eq_some_iff.1 h
  simp only [Attempt.result_read, Option.some.injEq, Prod.mk.injEq] at h
  obtain ⟨-, rfl⟩ := h
  have l₁ := length_of_readKeyword h₁
  have l₂ := consumes_readPair _ _ _ h₂
  have l₃ := length_of_readConditions h₃
  have l₄ := length_of_readKeyword h₄
  have l₅ := consumes_readPair _ _ _ h₅
  have g₀ := length_skipGap_le s₀
  have g₁ := length_skipGap_le s₁
  have g₃ := length_skipGap_le s₃
  have g₄ := length_skipGap_le s₄
  simp only at l₃ l₄ l₅ l₁ l₂
  omega

theorem consumes_readBinding (keywords : Keywords) (kind : BindingKind) (text : List Char) :
    (readBinding keywords kind text).Consumes text := by
  intro out left h
  unfold readBinding at h
  rw [Attempt.result_andThen] at h
  obtain ⟨⟨_, s₁⟩, h₁, h⟩ := Option.bind_eq_some_iff.1 h
  rw [Attempt.result_andThen] at h
  obtain ⟨⟨_, s₂⟩, h₂, h⟩ := Option.bind_eq_some_iff.1 h
  simp only [Attempt.result_read, Option.some.injEq, Prod.mk.injEq] at h
  obtain ⟨-, rfl⟩ := h
  have l₁ := length_of_readKeyword h₁
  have l₂ := consumes_readRun _ _ _ _ _ h₂
  have g₁ := length_skipGap_le s₁
  have g₂ := length_dropWhile_le isBlank s₂
  have g₃ := length_dropWhile_le isFreeText (skipBlank s₂)
  simp only [skipBlank] at g₂ g₃ l₁ l₂ ⊢
  omega

theorem consumes_readEntry (keywords : Keywords) (text : List Char) :
    (readEntry keywords text).Consumes text :=
  (consumes_readRule keywords text).orElse <|
    (consumes_readBinding keywords .advice text).orElse <|
      (consumes_readBinding keywords .translation text).orElse <|
        consumes_readBinding keywords .tip text

end RuleConsult
