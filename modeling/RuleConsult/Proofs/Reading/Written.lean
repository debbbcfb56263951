import RuleConsult.Proofs.Draft.Check
import RuleConsult.Proofs.Reading.Local
import RuleConsult.Proofs.Text.Numeral

/-!
# Written rules and bindings are read back

The written form of a rule is read as that rule, and the written form of a binding as that binding,
whatever stands on the following lines. A binding is tried only where no rule begins, so for
bindings two things are needed besides: its line alone is no rule (`IsPlain`), and what follows its
line is inert.

* `readEntry_eq_some_iff`: an entry is a rule or, where no rule is read, a binding;
* `readEntry_rule`: a written rule is read back;
* `readEntry_binding`: a written binding is read back.
-/

namespace RuleConsult

open Text

/-! ## Words -/

/-- Characters of the class in front of others are read as a run. -/
theorem readRun_of_all {member : Char → Bool} (expected : Expected) {xs rest : List Char}
    (hne : xs ≠ []) (hall : ∀ c ∈ xs, member c = true) (hrest : Stops member rest) :
    (readRun member expected (xs ++ rest)).result = some (String.ofList xs, rest) := by
  have htake : xs.takeWhile member = xs := List.takeWhile_eq_self_iff.2 hall
  have hdrop : xs.dropWhile member = [] := List.dropWhile_eq_nil_iff.2 hall
  rw [(local_readRun expected hrest).append, result_readRun, htake, hdrop, if_neg hne]
  rfl

/-- A token that is written is read. -/
theorem readToken_append (expected : Expected) {token : String} {rest : List Char}
    (htoken : isToken token = true) (hrest : Stops isWord rest) :
    (readToken expected (token.toList ++ rest)).result = some (token, rest) := by
  have := readRun_of_all expected (toList_ne_nil_of_token htoken) (isWord_of_mem_token htoken) hrest
  rwa [String.ofList_toList] at this

/-- A word is dropped exactly where it stands. -/
theorem dropPrefix?_eq_some_iff {word text rest : List Char} :
    dropPrefix? word text = some rest ↔ text = word ++ rest := by
  induction word generalizing text with
  | nil => simp [dropPrefix?]
  | cons c word ih =>
    cases text with
    | nil => simp [dropPrefix?]
    | cons d text =>
      by_cases hc : c = d
      · subst hc
        simp [dropPrefix?, ih]
      · have hd : d ≠ c := fun e => hc e.symm
        simp [dropPrefix?, hc, hd]

/-- In front of a word of a text stands a keyword exactly if it is that word. -/
theorem readKeyword_token {word token : String} {rest : List Char} (hword : isToken word = true)
    (htoken : isToken token = true) (hrest : Stops isWord rest) :
    (readKeyword word (token.toList ++ rest)).result =
      if token = word then some ((), rest) else none := by
  rw [(local_readKeyword hword hrest).append, result_readKeyword]
  by_cases heq : token = word
  · subst heq
    have hdrop : dropPrefix? token.toList token.toList = some [] := by
      rw [dropPrefix?_eq_some_iff, List.append_nil]
    rw [hdrop, if_pos rfl]
    rfl
  · rw [if_neg heq]
    cases hdrop : dropPrefix? word.toList token.toList with
    | none => rfl
    | some left =>
      rw [dropPrefix?_eq_some_iff] at hdrop
      -- What is left of the token is not empty, so it goes on with a word character.
      cases left with
      | nil =>
        rw [List.append_nil, String.toList_inj] at hdrop
        exact absurd hdrop heq
      | cons c left =>
        have hc : isWord c = true := isWord_of_mem_token htoken c (by simp [hdrop])
        simp [startsWord, hc, Option.filter]

/-- A run that was read, and what follows it. -/
theorem readRun_eq_some {member : Char → Bool} {expected : Expected} {text rest : List Char}
    {run : String} (h : (readRun member expected text).result = some (run, rest)) :
    text = run.toList ++ rest ∧ run.toList ≠ [] ∧ (∀ c ∈ run.toList, member c = true) ∧
      Stops member rest := by
  rw [result_readRun] at h
  obtain ⟨hne, heq⟩ := Option.ite_none_left_eq_some.1 h
  cases heq
  rw [String.toList_ofList]
  refine ⟨List.takeWhile_append_dropWhile.symm, hne, fun c hc => List.mem_takeWhile_imp hc, ?_⟩
  exact stops_dropWhile member text

/-- A token that is read stands there. -/
theorem readToken_eq_some {expected : Expected} {text rest : List Char} {token : String}
    (h : (readToken expected text).result = some (token, rest)) :
    text = token.toList ++ rest ∧ isToken token = true ∧ Stops isWord rest := by
  obtain ⟨heq, hne, hall, hstops⟩ := readRun_eq_some h
  refine ⟨heq, ?_, hstops⟩
  rw [isToken, Bool.and_eq_true, List.all_eq_true]
  exact ⟨by simpa using hne, hall⟩

/-- A keyword that is read stands there, and no longer word does. -/
theorem readKeyword_eq_some {word : String} {text rest : List Char} {u : Unit}
    (h : (readKeyword word text).result = some (u, rest)) :
    text = word.toList ++ rest ∧ Stops isWord rest := by
  rw [result_readKeyword] at h
  obtain ⟨left, hleft, heq⟩ := Option.map_eq_some_iff.1 h
  cases heq
  obtain ⟨hdrop, hstart⟩ := Option.filter_eq_some_iff.1 hleft
  exact ⟨dropPrefix?_eq_some_iff.1 hdrop, startsWord_eq_false.1 (by simpa using hstart)⟩

/-- A token does not begin with white space. -/
theorem stops_isGap_token {token : String} (htoken : isToken token = true) (rest : List Char) :
    Stops isGap (token.toList ++ rest) := by
  cases hchars : token.toList with
  | nil => exact absurd hchars (toList_ne_nil_of_token htoken)
  | cons c chars =>
    rw [List.cons_append, stops_cons]
    exact isGap_of_isWord (isWord_of_mem_token htoken c (by simp [hchars]))

/-- No white space is skipped before a token. -/
theorem skipGap_token {token : String} (htoken : isToken token = true) (rest : List Char) :
    skipGap (token.toList ++ rest) = token.toList ++ rest :=
  skipGap_eq_self (stops_isGap_token htoken rest)

theorem stops_isWord_space (rest : List Char) : Stops isWord (' ' :: rest) :=
  stops_cons.2 (isWord_of_isGap rfl)

theorem stops_isWord_lineFeed (rest : List Char) : Stops isWord ('\n' :: rest) :=
  stops_cons.2 isWord_lineFeed

/-! ## Pairs -/

/-- The characters of a written pair. -/
theorem Pair.toList_toText (pair : Pair) :
    pair.toText.toList = pair.category.toList ++ '-' :: pair.value.toList := by
  simp [Pair.toText]

/-- No white space is skipped before a pair. -/
theorem skipGap_pair {pair : Pair} (hpair : pair.IsTokens) (rest : List Char) :
    skipGap (pair.toText.toList ++ rest) = pair.toText.toList ++ rest := by
  rw [pair.toList_toText, List.append_assoc, skipGap_token hpair.category]

/-- The written form of a pair is read as that pair. -/
theorem readPair_toText {pair : Pair} {rest : List Char} (hpair : pair.IsTokens)
    (hrest : Stops isWord rest) :
    (readPair (pair.toText.toList ++ rest)).result = some (pair, rest) := by
  have hcategory := readToken_append .category hpair.category
    (stops_cons.2 isWord_hyphen : Stops isWord ('-' :: (pair.value.toList ++ rest)))
  have hvalue := readToken_append .value hpair.value hrest
  rw [pair.toList_toText, List.append_assoc, List.cons_append, readPair, Attempt.result_andThen,
    hcategory, Option.bind_some, Attempt.result_andThen, readHyphen, Attempt.result_read,
    Option.bind_some, Attempt.result_andThen, hvalue, Option.bind_some, Attempt.result_read]

/-- A pair that was read, and what follows it. -/
theorem readPair_eq_some {text rest : List Char} {pair : Pair}
    (h : (readPair text).result = some (pair, rest)) :
    text = pair.toText.toList ++ rest ∧ pair.IsTokens ∧ Stops isWord rest := by
  rw [readPair, Attempt.result_andThen] at h
  obtain ⟨⟨category, s₁⟩, hcategory, h⟩ := Option.bind_eq_some_iff.1 h
  rw [Attempt.result_andThen] at h
  obtain ⟨⟨u, s₂⟩, hhyphen, h⟩ := Option.bind_eq_some_iff.1 h
  rw [Attempt.result_andThen] at h
  obtain ⟨⟨value, s₃⟩, hvalue, h⟩ := Option.bind_eq_some_iff.1 h
  cases h
  obtain ⟨rfl, hcategoryToken, -⟩ := readToken_eq_some hcategory
  obtain ⟨rfl, hvalueToken, hstops⟩ := readToken_eq_some hvalue
  have hs₁ : s₁ = '-' :: (value.toList ++ s₃) := by
    dsimp only at hhyphen
    unfold readHyphen at hhyphen
    split at hhyphen
    · cases hhyphen
      rfl
    · cases hhyphen
  refine ⟨?_, ⟨hcategoryToken, hvalueToken⟩, hstops⟩
  rw [hs₁, Pair.toList_toText]
  simp

/-- A word without a hyphen after it begins no pair. -/
theorem readPair_token {token : String} {rest : List Char} (htoken : isToken token = true)
    (hword : Stops isWord rest) (hhyphen : Stops (· == '-') rest) :
    (readPair (token.toList ++ rest)).result = none := by
  rw [readPair, Attempt.result_andThen, readToken_append .category htoken hword, Option.bind_some,
    Attempt.result_andThen]
  cases rest with
  | nil => rfl
  | cons c rest =>
    rw [readHyphen_of_ne (by simpa using hhyphen)]
    rfl

/-! ## Rules -/

variable {keywords : Keywords}

/-- The written form of further conditions, each with the conjunction before it. -/
def furtherConditions (keywords : Keywords) (pairs : List Pair) : List Char :=
  pairs.flatMap fun pair =>
    ' ' :: (keywords.words.ruleAnd.toList ++ ' ' :: pair.toText.toList)

theorem furtherConditions_cons (pair : Pair) (pairs : List Pair) :
    furtherConditions keywords (pair :: pairs) =
      ' ' :: (keywords.words.ruleAnd.toList ++
        ' ' :: (pair.toText.toList ++ furtherConditions keywords pairs)) := by
  simp [furtherConditions]

/-- Whether or not there are further conditions, a word ends before them. -/
theorem stops_furtherConditions {rest : List Char} (pairs : List Pair)
    (hrest : Stops isWord rest) : Stops isWord (furtherConditions keywords pairs ++ rest) := by
  cases pairs with
  | nil => exact hrest
  | cons pair pairs =>
    rw [furtherConditions_cons]
    exact stops_isWord_space _

/-- Written conditions are read back, if no further conjunction follows them. -/
theorem readConditions_furtherConditions {pairs : List Pair} {rest : List Char}
    (hpairs : ∀ pair ∈ pairs, pair.IsTokens) (hrest : Stops isWord rest)
    (hend : (readKeyword keywords.words.ruleAnd (skipGap rest)).result = none) :
    (readConditions keywords (furtherConditions keywords pairs ++ rest)).result =
      some (pairs, rest) := by
  induction pairs with
  | nil => exact readConditions_of_none hend
  | cons pair pairs ih =>
    have hand : isToken keywords.words.ruleAnd = true := keywords.isToken_get .ruleAnd
    have hpair := hpairs pair List.mem_cons_self
    have hfound : (readKeyword keywords.words.ruleAnd
        (skipGap (furtherConditions keywords (pair :: pairs) ++ rest))).result =
          some ((), ' ' :: (pair.toText.toList ++ (furtherConditions keywords pairs ++ rest))) := by
      rw [furtherConditions_cons, List.cons_append, List.append_assoc, skipGap_space,
        skipGap_token hand, List.cons_append, List.append_assoc,
        readKeyword_token hand hand (stops_isWord_space _), if_pos rfl]
    rw [readConditions_of_some hfound, skipGap_space, skipGap_pair hpair,
      readPair_toText hpair (stops_furtherConditions pairs hrest), Option.bind_some,
      ih fun other hother => hpairs other (List.mem_cons_of_mem _ hother)]
    rfl

/-- The written form of clauses: conditions, keyword and conclusion. -/
def clausesText (keywords : Keywords) (first : Pair) (others : List Pair) (conclusion : Pair) :
    List Char :=
  first.toText.toList ++ (furtherConditions keywords others ++
    ' ' :: (keywords.words.ruleThen.toList ++ ' ' :: conclusion.toText.toList))

/-- Written clauses are read back. -/
theorem readClauses_clausesText {first conclusion : Pair} {others : List Pair} {rest : List Char}
    (hfirst : first.IsTokens) (hothers : ∀ pair ∈ others, pair.IsTokens)
    (hconclusion : conclusion.IsTokens) (hrest : Stops isWord rest) :
    (readClauses keywords (clausesText keywords first others conclusion ++ rest)).result =
      some ((first :: others, conclusion), rest) := by
  have hthen : isToken keywords.words.ruleThen = true := keywords.isToken_get .ruleThen
  have hand : isToken keywords.words.ruleAnd = true := keywords.isToken_get .ruleAnd
  have hne : keywords.words.ruleThen ≠ keywords.words.ruleAnd :=
    keywords.get_ne (by decide : KeywordRole.ruleThen ≠ .ruleAnd)
  -- What stands behind the conditions: no conjunction but the keyword before the conclusion.
  have hend : (readKeyword keywords.words.ruleAnd
      (skipGap (' ' :: (keywords.words.ruleThen.toList ++
        ' ' :: (conclusion.toText.toList ++ rest))))).result = none := by
    rw [skipGap_space, skipGap_token hthen, readKeyword_token hand hthen (stops_isWord_space _),
      if_neg hne]
  simp only [clausesText, List.append_assoc, List.cons_append]
  rw [result_readClauses, skipGap_pair hfirst,
    readPair_toText hfirst (stops_furtherConditions others (stops_isWord_space _)),
    Option.bind_some, readConditions_furtherConditions hothers (stops_isWord_space _) hend,
    Option.bind_some, skipGap_space, skipGap_token hthen,
    readKeyword_token hthen hthen (stops_isWord_space _), if_pos rfl, Option.bind_some,
    skipGap_space, skipGap_pair hconclusion, readPair_toText hconclusion hrest]
  rfl

/-! ### The written form of a rule -/

/-- A number is written with the digits of rule numbers. -/
theorem isNumberDigit_of_mem_toString {n : Nat} {c : Char}
    (h : c ∈ (toString (n : Int)).toList) : isNumberDigit c = true := by
  have := Char.isDigit_iff_toNat.1 (isDigit_of_mem_toString h)
  simp only [isNumberDigit, Bool.and_eq_true, decide_eq_true_eq]
  exact this

/-- A number that is no less than zero is a token. -/
theorem isToken_toString (n : Nat) : isToken (toString (n : Int)) = true := by
  rw [isToken, Bool.and_eq_true, List.all_eq_true]
  refine ⟨by simpa using toList_toString_ne_nil n, fun c hc => ?_⟩
  exact isWord_of_isNumberDigit (isNumberDigit_of_mem_toString hc)

/-- The characters of written conditions. -/
theorem toList_intercalate_conditions (first : Pair) (others : List Pair) :
    (String.intercalate (" " ++ keywords.words.ruleAnd ++ " ")
      ((first :: others).map Pair.toText)).toList =
        first.toText.toList ++ furtherConditions keywords others := by
  induction others generalizing first with
  | nil => simp [furtherConditions]
  | cons pair others ih =>
    rw [List.map_cons, List.map_cons, String.intercalate_cons_cons, ← List.map_cons,
      String.toList_append, ih, furtherConditions_cons]
    simp

/-- The characters of a written rule. -/
theorem Rule.toList_toText {rule : Rule} {first : Pair} {others : List Pair}
    (h : rule.conditions = first :: others) :
    (rule.toText keywords).toList = (toString rule.id).toList ++
      ' ' :: (keywords.words.ruleIf.toList ++
        ' ' :: clausesText keywords first others rule.conclusion) := by
  have htext : rule.toText keywords = toString rule.id ++ " " ++ keywords.words.ruleIf ++ " " ++
      String.intercalate (" " ++ keywords.words.ruleAnd ++ " ")
        ((first :: others).map Pair.toText) ++
      " " ++ keywords.words.ruleThen ++ " " ++ rule.conclusion.toText := by
    rw [Rule.toText, h]
    rfl
  rw [htext]
  simp only [String.toList_append, toList_intercalate_conditions, clausesText]
  simp

/-- A rule that can be written: it is well-formed, and its number is natural and not too long. -/
structure Rule.IsWritable (rule : Rule) : Prop extends rule.IsWellFormed where
  number : ∃ n : Nat, rule.id = n ∧ IsReadable n

/-- What is read in the written form of a rule. -/
def Rule.body (rule : Rule) : EntryBody :=
  .rule (toString rule.id) rule.conditions (some rule.conclusion)

/-- The written form of a rule is read as that rule. -/
theorem readRule_toText {rule : Rule} {rest : List Char} (hrule : rule.IsWritable)
    (hrest : Stops isWord rest) :
    (readRule keywords ((rule.toText keywords).toList ++ rest)).result =
      some (rule.body, rest) := by
  obtain ⟨n, hid, -⟩ := hrule.number
  have hif : isToken keywords.words.ruleIf = true := keywords.isToken_get .ruleIf
  cases hconditions : rule.conditions with
  | nil => exact absurd hconditions hrule.conditions_ne
  | cons first others =>
    have hpairs : ∀ pair ∈ first :: others, pair.IsTokens := hconditions ▸ hrule.conditions
    have hdigits : ∀ c ∈ (toString rule.id).toList, isNumberDigit c = true := by
      rw [hid]
      exact fun c => isNumberDigit_of_mem_toString
    have hne : (toString rule.id).toList ≠ [] := by
      rw [hid]
      exact toList_toString_ne_nil n
    -- The parts are read one after the other, each before the space that ends it.
    rw [Rule.toList_toText hconditions, List.append_assoc, List.cons_append, List.append_assoc,
      List.cons_append, result_readRule,
      readRun_of_all _ hne hdigits
        ((stops_isWord_space _).mono fun _ => isWord_of_isNumberDigit),
      Option.bind_some, skipGap_space, skipGap_token hif,
      readKeyword_token hif hif (stops_isWord_space _), if_pos rfl, Option.bind_some,
      readClauses_congr (skipGap_space _),
      readClauses_clausesText (hpairs first List.mem_cons_self)
        (fun pair hpair => hpairs pair (List.mem_cons_of_mem _ hpair)) hrule.conclusion hrest,
      Option.map_some, Rule.body, hconditions, String.ofList_toList]

/-! ## Entries -/

/-- Where a binding is read there is none of another kind: it begins with a keyword of its own. -/
theorem readBinding_of_ne {text : List Char} {kind other : BindingKind}
    {success : EntryBody × List Char}
    (h : (readBinding keywords kind text).result = some success) (hne : other ≠ kind) :
    (readBinding keywords other text).result = none := by
  have hwords : kind.word keywords ≠ other.word keywords := fun heq =>
    hne (BindingKind.word_injective keywords heq).symm
  rw [readBinding, Attempt.result_andThen] at h
  obtain ⟨⟨u, afterWord⟩, hkeyword, -⟩ := Option.bind_eq_some_iff.1 h
  obtain ⟨rfl, hstops⟩ := readKeyword_eq_some hkeyword
  rw [readBinding, Attempt.result_andThen,
    readKeyword_token (other.isToken_word keywords) (kind.isToken_word keywords) hstops,
    if_neg hwords]
  rfl

/-- An entry is a rule or, where no rule is read, a binding of some kind. -/
theorem readEntry_eq_some_iff {text : List Char} {success : EntryBody × List Char} :
    (readEntry keywords text).result = some success ↔
      (readRule keywords text).result = some success ∨
        (readRule keywords text).result = none ∧
          ∃ kind, (readBinding keywords kind text).result = some success := by
  rw [readEntry, Attempt.result_orElse, Attempt.result_orElse, Attempt.result_orElse]
  constructor
  · intro h
    cases hrule : (readRule keywords text).result with
    | some found =>
      rw [hrule, Option.some_or] at h
      exact Or.inl h
    | none =>
      rw [hrule, Option.none_or, Option.or_eq_some_iff, Option.or_eq_some_iff] at h
      right
      rcases h with h | ⟨-, h | ⟨-, h⟩⟩
      · exact ⟨rfl, .advice, h⟩
      · exact ⟨rfl, .translation, h⟩
      · exact ⟨rfl, .tip, h⟩
  · rintro (hrule | ⟨hrule, kind, h⟩)
    · rw [hrule, Option.some_or]
    · rw [hrule, Option.none_or]
      -- The kinds that are tried before this one look for other keywords.
      cases kind with
      | advice => rw [h, Option.some_or]
      | translation => rw [readBinding_of_ne h (by decide), Option.none_or, h, Option.some_or]
      | tip =>
        rw [readBinding_of_ne h (by decide), Option.none_or, readBinding_of_ne h (by decide),
          Option.none_or, h]

/-- The written form of a rule is read as an entry, too. -/
theorem readEntry_rule {rule : Rule} {rest : List Char} (hrule : rule.IsWritable)
    (hrest : Stops isWord rest) :
    (readEntry keywords ((rule.toText keywords).toList ++ rest)).result =
      some (rule.body, rest) :=
  readEntry_eq_some_iff.2 (Or.inl (readRule_toText hrule hrest))

/-! ## Bindings -/

/-- A text that can stand behind the category of a binding: allowed characters, without spaces
around them. -/
structure IsLineText (text : String) : Prop where
  allowed : ∀ c ∈ text.toList, isFreeText c = true
  trimmed : trimList (· == ' ') text.toList = text.toList

/-- Word characters may stand in the text of a binding. -/
theorem isFreeText_of_isWord {c : Char} (h : isWord c = true) : isFreeText c = true := by
  simp [isFreeText, h]

/-- The end of a line may not. -/
theorem isFreeText_lineFeed : isFreeText '\n' = false := by decide +kernel

/-- The only white space among the allowed characters is the blank. -/
theorem isSpace_of_isFreeText {c : Char} (h : isFreeText c = true) (hne : (c == ' ') = false) :
    isSpace c = false := by
  cases hspace : isSpace c with
  | false => rfl
  | true =>
    simp only [isFreeText, isWord_of_isSpace hspace, hne, Bool.false_or, Bool.or_false,
      Bool.or_eq_true, beq_iff_eq] at h
    rcases h with (((rfl | rfl) | rfl) | rfl) | rfl <;> cases hspace

/-- A text behind a category neither begins nor ends with white space. -/
theorem IsLineText.stops_isSpace {text : String} (h : IsLineText text) :
    Stops isSpace text.toList ∧ Stops isSpace text.toList.reverse := by
  have hbegin := stops_trimList (· == ' ') text.toList
  have hend := stops_reverse_trimList (· == ' ') text.toList
  rw [h.trimmed] at hbegin hend
  refine ⟨fun c hc => ?_, fun c hc => ?_⟩
  · exact isSpace_of_isFreeText (h.allowed c (List.mem_of_mem_head? hc)) (hbegin c hc)
  · have hmem : c ∈ text.toList := List.mem_reverse.1 (List.mem_of_mem_head? hc)
    exact isSpace_of_isFreeText (h.allowed c hmem) (hend c hc)

/-- Blanks are white space. -/
theorem isSpace_of_isBlank {c : Char} (h : isBlank c = true) : isSpace c = true := by
  simp only [isBlank, Bool.or_eq_true, beq_iff_eq] at h
  rcases h with rfl | rfl <;> rfl

/-- The text of a line does not begin with a blank. -/
theorem IsLineText.stops_isBlank {text : String} (h : IsLineText text) :
    Stops isBlank text.toList :=
  h.stops_isSpace.1.mono fun _ => isSpace_of_isBlank

/-- A binding that can be written. -/
structure Binding.IsWritable (binding : Binding) : Prop where
  category : isToken binding.category = true
  text : IsLineText binding.text

/-- What is read in the written form of a binding. -/
def Binding.body (binding : Binding) : EntryBody :=
  .binding binding.kind binding.category binding.text

/-- A binding whose written form is not the beginning of a rule, either. -/
def Binding.IsPlain (keywords : Keywords) (binding : Binding) : Prop :=
  (readRule keywords (binding.toText keywords).toList).result = none

/-- The text of a binding as it stands behind the category. -/
def bindingTail (text : String) : List Char :=
  if text.isEmpty then [] else ' ' :: text.toList

/-- The characters of a written binding. -/
theorem Binding.toList_toText (binding : Binding) :
    (binding.toText keywords).toList = (binding.kind.word keywords).toList ++
      ' ' :: (binding.category.toList ++ bindingTail binding.text) := by
  rw [Binding.toText, bindingTail]
  split <;> simp

/-- Behind a category a run ends if a blank ends it. -/
theorem stops_bindingTail {member : Char → Bool} {rest : List Char} (text : String)
    (hspace : member ' ' = false) (hrest : Stops member rest) :
    Stops member (bindingTail text ++ rest) := by
  rw [bindingTail]
  split
  · exact hrest
  · exact stops_cons.2 hspace

/-- Behind the blank the text of a written binding stands as it is. -/
theorem skipBlank_bindingTail {text : String} (htext : IsLineText text) (rest : List Char) :
    skipBlank (bindingTail text ++ '\n' :: rest) = text.toList ++ '\n' :: rest := by
  have hstops : Stops isBlank (text.toList ++ '\n' :: rest) :=
    stops_append htext.stops_isBlank (stops_cons.2 rfl)
  rw [bindingTail]
  split
  · rename_i hempty
    rw [String.isEmpty_iff.1 hempty]
    exact dropWhile_eq_self (stops_cons.2 rfl)
  · rw [List.cons_append, skipBlank, List.dropWhile_cons_of_pos rfl, dropWhile_eq_self hstops]

/-- The written form of a binding is read as that binding. -/
theorem readBinding_toText {binding : Binding} (hbinding : binding.IsWritable)
    (rest : List Char) :
    (readBinding keywords binding.kind ((binding.toText keywords).toList ++ '\n' :: rest)).result =
      some (binding.body, '\n' :: rest) := by
  have hword := binding.kind.isToken_word keywords
  have hstops : Stops isFreeText ('\n' :: rest) := stops_cons.2 isFreeText_lineFeed
  have htake : (binding.text.toList ++ '\n' :: rest).takeWhile isFreeText =
      binding.text.toList := by
    rw [takeWhile_append_of_stops _ hstops, List.takeWhile_eq_self_iff]
    exact hbinding.text.allowed
  have hdrop : (binding.text.toList ++ '\n' :: rest).dropWhile isFreeText = '\n' :: rest := by
    rw [List.dropWhile_append_of_pos hbinding.text.allowed, dropWhile_eq_self hstops]
  rw [Binding.toList_toText, List.append_assoc, List.cons_append, List.append_assoc, readBinding,
    Attempt.result_andThen, readKeyword_token hword hword (stops_isWord_space _), if_pos rfl,
    Option.bind_some, skipGap_space, skipGap_token hbinding.category, Attempt.result_andThen,
    readToken_append .category hbinding.category
      (stops_bindingTail _ (isWord_of_isGap rfl) (stops_isWord_lineFeed rest)),
    Option.bind_some, Attempt.result_read, skipBlank_bindingTail hbinding.text, htake, hdrop,
    hbinding.text.trimmed, String.ofList_toList]
  rfl

/-- Where no rule begins, the written form of a binding is read as an entry. -/
theorem readEntry_binding {binding : Binding} {rest : List Char} (hbinding : binding.IsWritable)
    (hplain : binding.IsPlain keywords) (hrest : Inert keywords ('\n' :: rest)) :
    (readEntry keywords ((binding.toText keywords).toList ++ '\n' :: rest)).result =
      some (binding.body, '\n' :: rest) := by
  -- No rule begins here, neither within the line nor across its end.
  have hrule : (readRule keywords ((binding.toText keywords).toList ++ '\n' :: rest)).result =
      none := by
    rw [hrest.readRule_append, hplain]
    rfl
  exact readEntry_eq_some_iff.2 (Or.inr ⟨hrule, binding.kind, readBinding_toText hbinding rest⟩)

/-! ## Lines -/

/-- The end of a text is inert. -/
theorem inert_lineFeed_nil : Inert keywords ['\n'] where
  word := stops_isWord_lineFeed []
  hyphen := stops_cons.2 rfl
  pair := rfl
  ruleIf := (local_readKeyword (keywords.isToken_get .ruleIf) (stops_nil _)).nil
  ruleAnd := (local_readKeyword (keywords.isToken_get .ruleAnd) (stops_nil _)).nil
  ruleThen := (local_readKeyword (keywords.isToken_get .ruleThen) (stops_nil _)).nil

/-- A line with a written binding is inert. -/
theorem inert_lineFeed_binding (binding : Binding) (rest : List Char) :
    Inert keywords ('\n' :: ((binding.toText keywords).toList ++ rest)) := by
  have hword := binding.kind.isToken_word keywords
  -- The line begins with the keyword of the binding, which is none of the keywords of rules.
  have hkeyword : ∀ role : KeywordRole, role ≠ binding.kind.role →
      (readKeyword (keywords.words.get role)
        (skipGap ('\n' :: ((binding.toText keywords).toList ++ rest)))).result = none := by
    intro role hrole
    rw [skipGap_lineFeed, Binding.toList_toText, List.append_assoc, List.cons_append,
      skipGap_token hword,
      readKeyword_token (keywords.isToken_get role) hword (stops_isWord_space _),
      if_neg (by rw [binding.kind.word_eq_get]; exact (keywords.get_ne hrole).symm)]
  refine ⟨stops_isWord_lineFeed _, stops_cons.2 rfl, ?_, hkeyword .ruleIf ?_, hkeyword .ruleAnd ?_,
    hkeyword .ruleThen ?_⟩
  · rw [skipGap_lineFeed, Binding.toList_toText, List.append_assoc, List.cons_append,
      skipGap_token hword]
    -- Behind that keyword stands a space where a pair would have its hyphen.
    exact readPair_token hword (stops_isWord_space _) (stops_cons.2 rfl)
  all_goals cases binding.kind <;> decide

end RuleConsult
