import RuleConsult.Proofs.Keywords
import RuleConsult.Proofs.Text.Run
import RuleConsult.Reading.Form

/-!
# Reading is local

Every form decides at the beginning of a text how far it goes, and a run of characters ends at the
first character that is not of its class. So if something is put behind a text that begins with
neither a word character nor a hyphen, tokens, keywords and pairs are read in the longer text just
as in the shorter one. Rules may cross white space, so for them more has to be known about what is
put behind:

* `readClauses_append`: the clauses of a rule that are read in the shorter text are read in the
  longer one;
* `Inert.readRule_append`: in front of an *inert* text, which after its white space begins with no
  pair and no keyword of rules, a rule is read exactly if it is one without that text.
-/

namespace RuleConsult

open Text

/-! ## Characters -/

theorem inRanges_head {low high n : Nat} (rest : List (Nat × Nat)) (hlow : low ≤ n)
    (hhigh : n ≤ high) : inRanges ((low, high) :: rest) n = true := by
  rw [inRanges, if_neg (Nat.not_lt.2 hlow), if_pos hhigh]

/-- A number that is found in a table of ranges is in one of them. -/
theorem exists_of_inRanges {ranges : List (Nat × Nat)} {n : Nat} (h : inRanges ranges n = true) :
    ∃ range ∈ ranges, range.1 ≤ n ∧ n ≤ range.2 := by
  induction ranges with
  | nil => cases h
  | cons range ranges ih =>
    obtain ⟨low, high⟩ := range
    rw [inRanges] at h
    split at h
    · cases h
    · split at h
      · exact ⟨(low, high), List.mem_cons_self, by omega, by omega⟩
      · obtain ⟨range, hrange, hbounds⟩ := ih h
        exact ⟨range, List.mem_cons_of_mem _ hrange, hbounds⟩

/-- The digits of rule numbers are the ASCII digits. -/
theorem isDigit_of_isNumberDigit {c : Char} (h : isNumberDigit c = true) : c.isDigit = true := by
  simp only [isNumberDigit, Bool.and_eq_true, decide_eq_true_eq] at h
  exact Char.isDigit_iff_toNat.2 h

/-- ASCII digits are word characters. -/
theorem isWord_of_isNumberDigit {c : Char} (h : isNumberDigit c = true) : isWord c = true := by
  simp only [isNumberDigit, Bool.and_eq_true, decide_eq_true_eq] at h
  exact inRanges_head _ h.1 h.2

/-- White space holds no word character. -/
theorem isWord_of_isGap {c : Char} (h : isGap c = true) : isWord c = false := by
  simp only [isGap, Bool.or_eq_true, beq_iff_eq] at h
  rcases h with ((rfl | rfl) | rfl) | rfl <;> decide +kernel

/-- No word character is white space. -/
theorem isGap_of_isWord {c : Char} (h : isWord c = true) : isGap c = false := by
  by_contra hgap
  rw [Bool.not_eq_false] at hgap
  rw [isWord_of_isGap hgap] at h
  cases h

/-- Blanks are white space. -/
theorem isGap_of_isBlank {c : Char} (h : isBlank c = true) : isGap c = true := by
  simp only [isBlank, Bool.or_eq_true, beq_iff_eq] at h
  rcases h with rfl | rfl <;> rfl

/-- White space stands in no word. -/
theorem isWord_of_isSpace {c : Char} (h : isSpace c = true) : isWord c = false := by
  -- White space is rare enough to try all of it.
  have hall : ∀ range ∈ spaceRanges, ∀ n ∈ List.range' range.1 (range.2 + 1 - range.1),
      inRanges wordRanges n = false := by
    decide +kernel
  obtain ⟨range, hrange, hlow, hhigh⟩ := exists_of_inRanges h
  exact hall range hrange c.toNat (List.mem_range'_1.2 (by omega))

/-- A hyphen ends a word. -/
theorem isWord_hyphen : isWord '-' = false := by decide +kernel

/-- The end of a line ends a word. -/
theorem isWord_lineFeed : isWord '\n' = false := isWord_of_isGap rfl

/-! ## White space -/

/-- The white space at the beginning of a longer text, if the shorter one holds anything else. -/
theorem skipGap_append {xs : List Char} (tail : List Char) (h : skipGap xs ≠ []) :
    skipGap (xs ++ tail) = skipGap xs ++ tail := by
  unfold skipGap at h ⊢
  rw [List.dropWhile_append, if_neg (by simpa using h)]

/-- If the shorter text is all white space, the white space may go on behind it. -/
theorem skipGap_append_of_nil {xs : List Char} (tail : List Char) (h : skipGap xs = []) :
    skipGap (xs ++ tail) = skipGap tail := by
  unfold skipGap at h ⊢
  rw [List.dropWhile_append, if_pos (by simp [h])]

/-- Where no white space is, none is skipped. -/
theorem skipGap_eq_self {text : List Char} (h : Stops isGap text) : skipGap text = text :=
  dropWhile_eq_self h

@[simp]
theorem skipGap_nil : skipGap [] = [] := rfl

@[simp]
theorem skipGap_space (text : List Char) : skipGap (' ' :: text) = skipGap text := by
  simp [skipGap, isGap]

@[simp]
theorem skipGap_lineFeed (text : List Char) : skipGap ('\n' :: text) = skipGap text := by
  simp [skipGap, isGap]

/-- White space that is skipped makes no difference. -/
theorem skipGap_gap_append {gap : List Char} (text : List Char)
    (h : ∀ c ∈ gap, isGap c = true) : skipGap (gap ++ text) = skipGap text := by
  unfold skipGap
  rw [List.dropWhile_append_of_pos h]

/-! ## Sequences of forms -/

namespace Attempt

variable {α β γ : Type} {a : Attempt α} {next : α → List Char → Attempt β}

/-- After a form that is missed nothing more is tried. -/
theorem andThen_of_none (next : α → List Char → Attempt β) (h : a.result = none) :
    a.andThen next = ⟨a.misses, none⟩ := by
  rw [andThen, h]

/-- After a form that is read the next one is tried on what is left. -/
theorem andThen_of_some (next : α → List Char → Attempt β) {value : α} {rest : List Char}
    (h : a.result = some (value, rest)) :
    a.andThen next =
      ⟨a.misses ++ (next value rest).misses, (next value rest).result⟩ := by
  rw [andThen, h]

/-- What is there already is passed on. -/
@[simp]
theorem read_andThen (value : α) (rest : List Char) (next : α → List Char → Attempt β) :
    (read value rest).andThen next = next value rest := rfl

/-- A form whose value is put together with others afterwards. -/
theorem andThen_read (a : Attempt α) (f : α → β) :
    (a.andThen fun value rest => .read (f value) rest) =
      ⟨a.misses, a.result.map fun success => (f success.1, success.2)⟩ := by
  cases h : a.result with
  | none => rw [andThen_of_none _ h]; rfl
  | some success => rw [andThen_of_some _ h, read, List.append_nil]; rfl

/-- The forms of a sequence may be grouped at will. -/
theorem andThen_assoc (a : Attempt α) (next : α → List Char → Attempt β)
    (last : β → List Char → Attempt γ) :
    (a.andThen next).andThen last =
      a.andThen fun value rest => (next value rest).andThen last := by
  cases h : a.result with
  | none => rw [andThen_of_none _ h, andThen_of_none _ h, andThen_of_none _ rfl]
  | some success =>
    obtain ⟨value, rest⟩ := success
    rw [andThen_of_some _ h, andThen_of_some _ h]
    cases hnext : (next value rest).result with
    | none => rw [andThen_of_none _ rfl, andThen_of_none _ hnext]
    | some second =>
      rw [andThen_of_some _ rfl, andThen_of_some _ hnext, List.append_assoc]

end Attempt

/-! ## Words and pairs -/

/-- What was read, with more text behind what is left. -/
def extend {α : Type} (tail : List Char) (success : α × List Char) : α × List Char :=
  (success.1, success.2 ++ tail)

@[simp]
theorem extend_mk {α : Type} (tail : List Char) (value : α) (rest : List Char) :
    extend tail (value, rest) = (value, rest ++ tail) := rfl

/-- A run is as long as can be, and missed if it would be empty. -/
theorem result_readRun (member : Char → Bool) (expected : Expected) (text : List Char) :
    (readRun member expected text).result =
      if text.takeWhile member = [] then none
      else some (String.ofList (text.takeWhile member), text.dropWhile member) := by
  simp only [readRun, List.isEmpty_iff]
  split <;> rfl

/-- A form that is read in front of `tail` just as without it, and not at the end of a text. -/
structure Local {α : Type} (tail : List Char) (form : List Char → Attempt α) : Prop where
  append : ∀ xs, (form (xs ++ tail)).result = (form xs).result.map (extend tail)
  nil : (form []).result = none

/-- In front of a text that begins with no character of the class, a run ends where it did. -/
theorem local_readRun {member : Char → Bool} {tail : List Char} (expected : Expected)
    (h : Stops member tail) : Local tail (readRun member expected) where
  append xs := by
    rw [result_readRun, result_readRun, takeWhile_append_of_stops xs h,
      dropWhile_append_of_stops xs h]
    split <;> rfl
  nil := rfl

/-- A word is found in front of a text that does not prolong it exactly if it is found without. -/
theorem dropPrefix?_append {word tail : List Char} (xs : List Char)
    (hword : ∀ c ∈ word, isWord c = true) (h : Stops isWord tail) :
    dropPrefix? word (xs ++ tail) = (dropPrefix? word xs).map (· ++ tail) := by
  induction word generalizing xs with
  | nil => simp [dropPrefix?]
  | cons c word ih =>
    cases xs with
    | nil =>
      -- A word character does not begin the text behind.
      cases tail with
      | nil => simp [dropPrefix?]
      | cons d tail =>
        have hne : c ≠ d := by
          rintro rfl
          rw [stops_cons, hword c List.mem_cons_self] at h
          cases h
        simp [dropPrefix?, hne]
    | cons d xs =>
      simp only [List.cons_append, dropPrefix?]
      split
      · exact ih xs fun e he => hword e (List.mem_cons_of_mem _ he)
      · rfl

/-- No word begins where there is no word character. -/
theorem startsWord_eq_false {text : List Char} : startsWord text = false ↔ Stops isWord text := by
  cases text <;> simp [startsWord]

/-- Whether a word begins is seen without a text that begins with none. -/
theorem startsWord_append {tail : List Char} (xs : List Char) (h : Stops isWord tail) :
    startsWord (xs ++ tail) = startsWord xs := by
  cases xs with
  | nil => rw [List.nil_append, startsWord_eq_false.2 h]; rfl
  | cons c xs => rfl

/-- The characters of a token are word characters. -/
theorem isWord_of_mem_token {word : String} (h : isToken word = true) :
    ∀ c ∈ word.toList, isWord c = true := by
  simp only [isToken, Bool.and_eq_true, List.all_eq_true] at h
  exact h.2

/-- No token is empty. -/
theorem toList_ne_nil_of_token {word : String} (h : isToken word = true) : word.toList ≠ [] := by
  intro hnil
  simp [isToken, hnil] at h

/-- Any other character is no hyphen. -/
theorem readHyphen_of_ne {c : Char} {text : List Char} (h : c ≠ '-') :
    readHyphen (c :: text) = .miss .hyphen (c :: text) := by
  unfold readHyphen
  split
  · rename_i heq
    exact absurd (List.cons.inj heq).1 h
  · rfl

/-- A keyword is read if it stands there and no longer word does. -/
theorem result_readKeyword (word : String) (text : List Char) :
    (readKeyword word text).result =
      ((dropPrefix? word.toList text).filter fun rest => !startsWord rest).map fun rest =>
        ((), rest) := by
  unfold readKeyword
  split
  · rename_i rest hdrop
    rw [hdrop]
    cases hstart : startsWord rest <;> simp [hstart, Option.filter]
  · rename_i hdrop
    simp [hdrop]

/-- Keywords are read locally. -/
theorem local_readKeyword {word : String} {tail : List Char} (hword : isToken word = true)
    (h : Stops isWord tail) : Local tail (readKeyword word) where
  append xs := by
    rw [result_readKeyword, result_readKeyword,
      dropPrefix?_append xs (isWord_of_mem_token hword) h]
    cases dropPrefix? word.toList xs with
    | none => rfl
    | some rest =>
      cases hstart : startsWord rest <;> simp [Option.filter, startsWord_append rest h, hstart]
  nil := by
    rw [result_readKeyword]
    -- A keyword has a first character, and there is none.
    cases hchars : word.toList with
    | nil => exact absurd hchars (toList_ne_nil_of_token hword)
    | cons c more => rfl

/-- Hyphens are read locally. -/
theorem local_readHyphen {tail : List Char} (h : Stops (· == '-') tail) :
    Local tail readHyphen where
  append xs := by
    cases xs with
    | nil => cases tail with
      | nil => rfl
      | cons c tail =>
        rw [List.nil_append, readHyphen_of_ne (by simpa using h)]
        rfl
    | cons c xs =>
      by_cases hc : c = '-'
      · subst hc; rfl
      · rw [List.cons_append, readHyphen_of_ne hc, readHyphen_of_ne hc]
        rfl
  nil := rfl

/-- In a sequence of forms what is put behind is passed on. -/
theorem result_andThen_append {α β : Type} {tail : List Char} {short long : Attempt α}
    {next : α → List Char → Attempt β} (hlong : long.result = short.result.map (extend tail))
    (hnext : ∀ value rest,
      (next value (rest ++ tail)).result = (next value rest).result.map (extend tail)) :
    (long.andThen next).result = (short.andThen next).result.map (extend tail) := by
  rw [Attempt.result_andThen, Attempt.result_andThen, hlong]
  cases short.result with
  | none => rfl
  | some success => exact hnext success.1 success.2

/-- Pairs are read locally. -/
theorem local_readPair {tail : List Char} (hword : Stops isWord tail)
    (hhyphen : Stops (· == '-') tail) : Local tail readPair where
  append xs := by
    unfold readPair
    refine result_andThen_append ((local_readRun _ hword).append xs) fun category s => ?_
    refine result_andThen_append ((local_readHyphen hhyphen).append s) fun _ s => ?_
    exact result_andThen_append ((local_readRun _ hword).append s) fun value s => rfl
  nil := rfl

/-! ## Behind white space -/

/-- A form that succeeds behind white space also succeeds there in a longer text. -/
theorem Local.of_skipGap {α : Type} {tail xs rest : List Char} {form : List Char → Attempt α}
    {value : α} (hform : Local tail form) (h : (form (skipGap xs)).result = some (value, rest)) :
    (form (skipGap (xs ++ tail))).result = some (value, rest ++ tail) := by
  have hne : skipGap xs ≠ [] := by
    intro hnil
    -- At the end of a text the form fails.
    rw [hnil, hform.nil] at h
    cases h
  rw [skipGap_append tail hne, hform.append, h]
  rfl

/-- If a form fails behind the white space of `tail`, it is read behind white space in front of
`tail` just as without it. -/
theorem Local.skipGap_append_of_none {α : Type} {tail : List Char}
    {form : List Char → Attempt α} (hform : Local tail form)
    (h : (form (skipGap tail)).result = none) (xs : List Char) :
    (form (skipGap (xs ++ tail))).result = (form (skipGap xs)).result.map (extend tail) := by
  by_cases hnil : skipGap xs = []
  · rw [skipGap_append_of_nil tail hnil, h, hnil, hform.nil]
    rfl
  · rw [skipGap_append tail hnil, hform.append]

/-! ## Rules -/

/-- What follows the first keyword of a rule: conditions, keyword and conclusion. -/
def readClauses (keywords : Keywords) (text : List Char) : Attempt (List Pair × Pair) :=
  (readPair (skipGap text)).andThen fun first text =>
  (readConditions keywords text).andThen fun others text =>
  (readKeyword keywords.words.ruleThen (skipGap text)).andThen fun _ text =>
  (readPair (skipGap text)).andThen fun conclusion text =>
  .read (first :: others, conclusion) text

/-- White space in front of clauses makes no difference. -/
theorem readClauses_congr {keywords : Keywords} {xs ys : List Char}
    (h : skipGap xs = skipGap ys) : readClauses keywords xs = readClauses keywords ys := by
  rw [readClauses, readClauses, h]

/-- A rule is a number, a keyword and clauses. -/
theorem result_readRule (keywords : Keywords) (text : List Char) :
    (readRule keywords text).result =
      (readRun isNumberDigit .ruleNumber text).result.bind fun number =>
      (readKeyword keywords.words.ruleIf (skipGap number.2)).result.bind fun word =>
      (readClauses keywords word.2).result.map fun clauses =>
        (.rule number.1 clauses.1.1 (some clauses.1.2), clauses.2) := by
  simp only [readRule, readClauses, Attempt.result_andThen, Attempt.result_read,
    Option.map_eq_bind, Option.bind_assoc, Option.bind_some, Function.comp_def]

/-- The clauses of a rule, in terms of what is read of their parts. -/
theorem result_readClauses (keywords : Keywords) (text : List Char) :
    (readClauses keywords text).result =
      (readPair (skipGap text)).result.bind fun first =>
      (readConditions keywords first.2).result.bind fun others =>
      (readKeyword keywords.words.ruleThen (skipGap others.2)).result.bind fun word =>
      (readPair (skipGap word.2)).result.map fun conclusion =>
        ((first.1 :: others.1, conclusion.1), conclusion.2) := by
  simp only [readClauses, Attempt.result_andThen, Attempt.result_read, Option.map_eq_bind,
    Function.comp_def]

/-- Where no conjunction follows, the conditions end. -/
theorem readConditions_eq_of_none {keywords : Keywords} {text : List Char}
    (hand : (readKeyword keywords.words.ruleAnd (skipGap text)).result = none) :
    readConditions keywords text =
      ⟨(readKeyword keywords.words.ruleAnd (skipGap text)).misses, some ([], text)⟩ := by
  rw [readConditions]
  split
  · rfl
  · rename_i hsome
    rw [hand] at hsome
    cases hsome

/-- Where a conjunction follows, a pair and further conditions must follow it. -/
theorem readConditions_eq_of_some {keywords : Keywords} {text afterAnd : List Char} {u : Unit}
    (hand : (readKeyword keywords.words.ruleAnd (skipGap text)).result = some (u, afterAnd)) :
    readConditions keywords text =
      (readKeyword keywords.words.ruleAnd (skipGap text)).andThen fun _ text =>
      (readPair (skipGap text)).andThen fun condition text =>
      (readConditions keywords text).andThen fun others text =>
      .read (condition :: others) text := by
  rw [readConditions]
  split
  · rename_i hnone
    rw [hand] at hnone
    cases hnone
  · rename_i hsome
    rw [hand] at hsome
    cases hsome
    dsimp only
    rw [Attempt.andThen_of_some _ hand]
    split
    · rename_i hpair
      rw [Attempt.andThen_of_none _ hpair]
    · rename_i condition rest hpair
      rw [Attempt.andThen_of_some _ hpair, Attempt.andThen_read, List.append_assoc]

/-- Without a conjunction there are no further conditions. -/
theorem readConditions_of_none {keywords : Keywords} {text : List Char}
    (hand : (readKeyword keywords.words.ruleAnd (skipGap text)).result = none) :
    (readConditions keywords text).result = some ([], text) := by
  rw [readConditions_eq_of_none hand]

/-- After a conjunction there is a condition, and there may be more. -/
theorem readConditions_of_some {keywords : Keywords} {text afterAnd : List Char} {u : Unit}
    (hand : (readKeyword keywords.words.ruleAnd (skipGap text)).result = some (u, afterAnd)) :
    (readConditions keywords text).result =
      (readPair (skipGap afterAnd)).result.bind fun condition =>
        (readConditions keywords condition.2).result.map fun others =>
          (condition.1 :: others.1, others.2) := by
  simp only [readConditions_eq_of_some hand, Attempt.result_andThen, hand, Option.bind_some,
    Attempt.result_read, Option.map_eq_bind, Function.comp_def]

/-- Induction along the conditions of a rule: no conjunction follows, or one that lacks its pair, or
one with its pair and a further text. -/
@[elab_as_elim]
theorem conditions_induction (keywords : Keywords) {motive : List Char → Prop}
    (ends : ∀ xs, (readKeyword keywords.words.ruleAnd (skipGap xs)).result = none → motive xs)
    (lacks : ∀ xs u afterAnd,
      (readKeyword keywords.words.ruleAnd (skipGap xs)).result = some (u, afterAnd) →
      (readPair (skipGap afterAnd)).result = none → motive xs)
    (continues : ∀ xs u afterAnd condition rest,
      (readKeyword keywords.words.ruleAnd (skipGap xs)).result = some (u, afterAnd) →
      (readPair (skipGap afterAnd)).result = some (condition, rest) → motive rest → motive xs)
    (xs : List Char) : motive xs :=
  readConditions.induct keywords motive ends lacks
    (fun xs u afterAnd hand condition rest hpair _ ih =>
      continues xs u afterAnd condition rest hand hpair ih) xs

/-- Induction along the conjunctions of a rule: none follows, or there is one, and then the pair
behind it may be missing. -/
@[elab_as_elim]
theorem conjunction_induction (keywords : Keywords) {motive : List Char → Prop}
    (ends : ∀ xs, (readKeyword keywords.words.ruleAnd (skipGap xs)).result = none → motive xs)
    (commits : ∀ xs u afterAnd,
      (readKeyword keywords.words.ruleAnd (skipGap xs)).result = some (u, afterAnd) →
      (∀ condition rest, (readPair (skipGap afterAnd)).result = some (condition, rest) →
        motive rest) → motive xs)
    (xs : List Char) : motive xs := by
  induction xs using conditions_induction keywords with
  | ends xs hand => exact ends xs hand
  | lacks xs u afterAnd hand hpair =>
    refine commits xs u afterAnd hand fun condition rest hread => ?_
    rw [hpair] at hread
    cases hread
  | continues xs u afterAnd condition rest hand hpair ih =>
    refine commits xs u afterAnd hand fun condition' rest' hread => ?_
    rw [hpair] at hread
    cases hread
    exact ih

variable {keywords : Keywords} {tail : List Char}

/-- Conditions that are followed by something else in the shorter text end there in the longer
one, too. -/
theorem readConditions_append (hword : Stops isWord tail) (hhyphen : Stops (· == '-') tail)
    {xs rest : List Char} {conditions : List Pair}
    (h : (readConditions keywords xs).result = some (conditions, rest))
    (hrest : skipGap rest ≠ []) :
    (readConditions keywords (xs ++ tail)).result = some (conditions, rest ++ tail) := by
  have hlocal : Local tail (readKeyword keywords.words.ruleAnd) :=
    local_readKeyword (keywords.isToken_get .ruleAnd) hword
  induction xs using conditions_induction keywords generalizing conditions with
  | ends xs hand =>
    rw [readConditions_of_none hand] at h
    cases h
    apply readConditions_of_none
    rw [skipGap_append tail hrest, hlocal.append, hand]
    rfl
  | lacks xs u afterAnd hand hpair =>
    rw [readConditions_of_some hand, hpair] at h
    cases h
  | continues xs u afterAnd condition s hand hpair ih =>
    rw [readConditions_of_some hand, hpair, Option.bind_some] at h
    obtain ⟨⟨others, t⟩, hothers, h⟩ := Option.map_eq_some_iff.1 h
    cases h
    rw [readConditions_of_some (hlocal.of_skipGap hand),
      (local_readPair hword hhyphen).of_skipGap hpair, Option.bind_some, ih hothers]
    rfl

/-- Clauses that are read in the shorter text are read in the longer one. -/
theorem readClauses_append (hword : Stops isWord tail) (hhyphen : Stops (· == '-') tail)
    {xs rest : List Char} {clauses : List Pair × Pair}
    (h : (readClauses keywords xs).result = some (clauses, rest)) :
    (readClauses keywords (xs ++ tail)).result = some (clauses, rest ++ tail) := by
  have hpairs := local_readPair hword hhyphen
  have hthen : Local tail (readKeyword keywords.words.ruleThen) :=
    local_readKeyword (keywords.isToken_get .ruleThen) hword
  rw [result_readClauses] at h ⊢
  obtain ⟨⟨first, s₁⟩, h₁, h⟩ := Option.bind_eq_some_iff.1 h
  obtain ⟨⟨others, s₂⟩, h₂, h⟩ := Option.bind_eq_some_iff.1 h
  obtain ⟨⟨u, s₃⟩, h₃, h⟩ := Option.bind_eq_some_iff.1 h
  obtain ⟨⟨conclusion, s₄⟩, h₄, h⟩ := Option.map_eq_some_iff.1 h
  cases h
  -- The keyword after the conditions keeps them from going on behind the shorter text.
  have hne : skipGap s₂ ≠ [] := by
    intro hnil
    rw [hnil, hthen.nil] at h₃
    cases h₃
  rw [hpairs.of_skipGap h₁, Option.bind_some, readConditions_append hword hhyphen h₂ hne,
    Option.bind_some, hthen.of_skipGap h₃, Option.bind_some, hpairs.of_skipGap h₄]
  rfl

/-! ## Inert texts -/

/-- A text that no rule in front of it can make use of: it begins with neither a word character nor
a hyphen, and behind its white space stands neither a pair nor a keyword of rules. -/
structure Inert (keywords : Keywords) (tail : List Char) : Prop where
  word : Stops isWord tail
  hyphen : Stops (· == '-') tail
  pair : (readPair (skipGap tail)).result = none
  ruleIf : (readKeyword keywords.words.ruleIf (skipGap tail)).result = none
  ruleAnd : (readKeyword keywords.words.ruleAnd (skipGap tail)).result = none
  ruleThen : (readKeyword keywords.words.ruleThen (skipGap tail)).result = none

namespace Inert

/-- A pair after white space is read without what stands behind an inert text. -/
theorem readPair_append (h : Inert keywords tail) (xs : List Char) :
    (readPair (skipGap (xs ++ tail))).result =
      (readPair (skipGap xs)).result.map (extend tail) :=
  (local_readPair h.word h.hyphen).skipGap_append_of_none h.pair xs

/-- So are further conditions, as no conjunction is found behind. -/
theorem readConditions_append (h : Inert keywords tail) (xs : List Char) :
    (readConditions keywords (xs ++ tail)).result =
      (readConditions keywords xs).result.map (extend tail) := by
  have hands := (local_readKeyword (keywords.isToken_get .ruleAnd) h.word).skipGap_append_of_none
    h.ruleAnd
  induction xs using conditions_induction keywords with
  | ends xs hand =>
    have hlong := (hands xs).trans (congrArg (Option.map (extend tail)) hand)
    rw [readConditions_of_none hlong, readConditions_of_none hand]
    rfl
  | lacks xs u afterAnd hand hpair =>
    have hlong := (hands xs).trans (congrArg (Option.map (extend tail)) hand)
    rw [readConditions_of_some hlong, readConditions_of_some hand, h.readPair_append, hpair]
    rfl
  | continues xs u afterAnd condition s hand hpair ih =>
    have hlong := (hands xs).trans (congrArg (Option.map (extend tail)) hand)
    rw [readConditions_of_some hlong, readConditions_of_some hand, h.readPair_append, hpair,
      Option.map_some, Option.bind_some, Option.bind_some, extend_mk, ih, Option.map_map,
      Option.map_map]
    rfl

/-- So are the clauses of a rule. -/
theorem readClauses_append (h : Inert keywords tail) (xs : List Char) :
    (readClauses keywords (xs ++ tail)).result =
      (readClauses keywords xs).result.map (extend tail) := by
  have hthens := (local_readKeyword (keywords.isToken_get .ruleThen) h.word).skipGap_append_of_none
    h.ruleThen
  unfold readClauses
  refine result_andThen_append (h.readPair_append xs) fun first s => ?_
  refine result_andThen_append (h.readConditions_append s) fun others s => ?_
  refine result_andThen_append (hthens s) fun _ s => ?_
  exact result_andThen_append (h.readPair_append s) fun conclusion s => rfl

/-- In front of an inert text there stands a rule exactly if there stands one without that text. -/
theorem readRule_append (h : Inert keywords tail) (xs : List Char) :
    (readRule keywords (xs ++ tail)).result =
      (readRule keywords xs).result.map (extend tail) := by
  -- An inert text begins with no digit, since digits are word characters.
  have hnumbers : Local tail (readRun isNumberDigit .ruleNumber) :=
    local_readRun _ (h.word.mono fun _ => isWord_of_isNumberDigit)
  have hifs := (local_readKeyword (keywords.isToken_get .ruleIf) h.word).skipGap_append_of_none
    h.ruleIf
  rw [result_readRule, result_readRule, hnumbers.append]
  cases (readRun isNumberDigit .ruleNumber xs).result with
  | none => rfl
  | some number =>
    have hif : (readKeyword keywords.words.ruleIf (skipGap (number.2 ++ tail))).result =
        (readKeyword keywords.words.ruleIf (skipGap number.2)).result.map (extend tail) :=
      hifs number.2
    simp only [Option.map_some, Option.bind_some, extend, hif]
    cases (readKeyword keywords.words.ruleIf (skipGap number.2)).result with
    | none => rfl
    | some word =>
      simp only [Option.map_some, Option.bind_some, extend, h.readClauses_append, Option.map_map,
        Function.comp_def]

end Inert

end RuleConsult
