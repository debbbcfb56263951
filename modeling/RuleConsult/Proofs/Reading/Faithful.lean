import RuleConsult.Proofs.Reading.Accepted

/-!
# What was read as a binding is no rule

A rule is tried before a binding, so a binding is read only where no rule begins. Its written form
puts one blank for the white space that was read and drops the blanks around the text. This gives
no rule a chance: the keyword may consist of digits, the category may be the word that begins rules,
and the text may look like clauses, but then the rule would have been read in the first place.

* `isWritable_of_readEntry`: a binding that was read can be written;
* `Binding.isPlain_iff`: the one way in which the written form of a binding begins like a rule;
* `isPlain_of_readEntry`: its written form is no rule.
-/

namespace RuleConsult

open Text

variable {keywords : Keywords}

/-! ## The parts of a binding -/

/-- What the text of a binding leaves after trimming, and what stands behind it: something that is
neither a word character nor a hyphen. -/
theorem BindingText.Fits.trimmed {parts : BindingText} {rest : List Char} (h : parts.Fits rest) :
    IsLineText (String.ofList (trimList (· == ' ') parts.text)) ∧
      ∃ tail, parts.text ++ rest = trimList (· == ' ') parts.text ++ tail ∧
        Stops isWord tail ∧ Stops (· == '-') tail := by
  -- The blanks before the text took the spaces at its beginning.
  have hspaces : Stops (· == ' ') parts.text := by
    intro c hc
    have hblank := h.blanks.stops c (by rw [List.head?_append, hc]; rfl)
    simp only [isBlank, Bool.or_eq_false_iff] at hblank
    exact hblank.1
  obtain ⟨pad, hpad, hall⟩ := exists_append_of_trimList hspaces
  refine ⟨⟨fun c hc => ?_, ?_⟩, pad ++ rest, ?_, ?_, ?_⟩
  · rw [String.toList_ofList] at hc
    exact h.text.all c (by rw [hpad]; exact List.mem_append_left _ hc)
  · rw [String.toList_ofList, trimList_trimList]
  · rw [← List.append_assoc, ← hpad]
  all_goals
    -- Behind the text stand spaces that were trimmed, or else a character that is not allowed.
    cases pad with
    | nil =>
      refine h.text.stops.mono fun c hc => ?_
      first
        | exact isFreeText_of_isWord hc
        | simp [isFreeText, eq_of_beq hc]
    | cons c pad =>
      obtain rfl : c = ' ' := by simpa using hall c List.mem_cons_self
      first
        | exact stops_isWord_space _
        | exact stops_cons.2 rfl

/-- Where a binding was read there stands no rule, but a fitting binding. -/
theorem exists_bindingText {text rest : List Char} {binding : Binding}
    (h : (readEntry keywords text).result = some (binding.body, rest)) :
    (readRule keywords text).result = none ∧ ∃ parts : BindingText, parts.Fits rest ∧
      parts.kind = binding.kind ∧ parts.category = binding.category ∧
      String.ofList (trimList (· == ' ') parts.text) = binding.text ∧
      text = parts.chars keywords ++ rest := by
  obtain ⟨entry, hfits, hbody, rfl⟩ := exists_entry h
  cases entry with
  | rule parts => cases hbody
  | binding parts =>
    obtain ⟨hparts, hnone⟩ := hfits
    have hsame := hbody
    simp only [EntryText.body, BindingText.body, Binding.body, EntryBody.binding.injEq] at hsame
    obtain ⟨hkind, hcategory, htext⟩ := hsame
    exact ⟨readRule_eq_none_iff.2 hnone, parts, hparts, hkind, hcategory, htext, rfl⟩

/-! ## Its written form -/

/-- A binding that was read can be written. -/
theorem isWritable_of_readEntry {text rest : List Char} {binding : Binding}
    (h : (readEntry keywords text).result = some (binding.body, rest)) : binding.IsWritable := by
  obtain ⟨-, parts, hparts, -, hcategory, htext, -⟩ := exists_bindingText h
  constructor
  · rw [← hcategory]
    exact hparts.category
  · rw [← htext]
    exact hparts.trimmed.1

/-- Digits in front of a blank: all of a word, or a beginning of it that leaves a word. -/
theorem readRun_token_space {word : String} (hword : isToken word = true) {rest : List Char}
    {number : String × List Char}
    (h : (readRun isNumberDigit .ruleNumber (word.toList ++ ' ' :: rest)).result = some number) :
    ((∀ c ∈ word.toList, isNumberDigit c = true) ∧ number.2 = ' ' :: rest) ∨
      ∃ left, isToken left = true ∧ number.2 = left.toList ++ ' ' :: rest := by
  rw [(local_readRun .ruleNumber (stops_cons.2 rfl)).append, result_readRun] at h
  obtain ⟨success, hsuccess, rfl⟩ := Option.map_eq_some_iff.1 h
  obtain ⟨-, heq⟩ := Option.ite_none_left_eq_some.1 hsuccess
  cases heq
  cases hleft : word.toList.dropWhile isNumberDigit with
  | nil => exact Or.inl ⟨List.dropWhile_eq_nil_iff.1 hleft, rfl⟩
  | cons c left =>
    refine Or.inr ⟨String.ofList (c :: left), ?_, by rw [String.toList_ofList]; rfl⟩
    have hsub : ∀ d ∈ c :: left, isWord d = true := by
      intro d hd
      rw [← hleft] at hd
      exact isWord_of_mem_token hword d ((List.dropWhile_sublist isNumberDigit).subset hd)
    rw [isToken, String.toList_ofList, Bool.and_eq_true, List.all_eq_true]
    exact ⟨rfl, hsub⟩

/-- What makes the written form of a binding begin like a rule: its keyword is a number, its
category the first word of rules, and its text begins with clauses. -/
structure Binding.LooksLikeRule (keywords : Keywords) (binding : Binding) : Prop where
  digits : ∀ c ∈ (binding.kind.word keywords).toList, isNumberDigit c = true
  category : binding.category = keywords.words.ruleIf
  clauses : (readClauses keywords binding.text.toList).result.isSome = true

instance (keywords : Keywords) (binding : Binding) :
    Decidable (binding.LooksLikeRule keywords) :=
  decidable_of_iff ((binding.kind.word keywords).toList.all isNumberDigit = true ∧
      binding.category = keywords.words.ruleIf ∧
      (readClauses keywords binding.text.toList).result.isSome = true)
    ⟨fun ⟨digits, category, clauses⟩ => ⟨List.all_eq_true.1 digits, category, clauses⟩,
      fun ⟨digits, category, clauses⟩ => ⟨List.all_eq_true.2 digits, category, clauses⟩⟩

/-- Clauses are read in the text of a binding as they are behind the blank in front of it. -/
theorem skipGap_bindingTail (text : String) :
    skipGap (bindingTail text) = skipGap text.toList := by
  rw [bindingTail]
  split
  · rename_i hempty
    rw [String.isEmpty_iff.1 hempty]
    rfl
  · exact skipGap_space _

/-- The written form of a binding is the beginning of a rule in one way only. -/
theorem Binding.isPlain_iff {binding : Binding} (hcategory : isToken binding.category = true) :
    binding.IsPlain keywords ↔ ¬ binding.LooksLikeRule keywords := by
  have hword := binding.kind.isToken_word keywords
  have hif : isToken keywords.words.ruleIf = true := keywords.isToken_get .ruleIf
  have hbehind : Stops isWord (bindingTail binding.text) := by
    have := stops_bindingTail binding.text (isWord_of_isGap rfl) (stops_nil isWord)
    rwa [List.append_nil] at this
  rw [Binding.IsPlain, Binding.toList_toText]
  constructor
  · intro hplain hlooks
    -- Number, first word and clauses are read one after the other.
    obtain ⟨clauses, hclauses⟩ := Option.isSome_iff_exists.1 hlooks.clauses
    rw [result_readRule, readRun_of_all _ (toList_ne_nil_of_token hword) hlooks.digits
        ((stops_isWord_space _).mono fun _ => isWord_of_isNumberDigit),
      Option.bind_some, skipGap_space, skipGap_token hcategory,
      readKeyword_token hif hcategory hbehind, if_pos hlooks.category, Option.bind_some,
      readClauses_congr (skipGap_bindingTail _), hclauses] at hplain
    cases hplain
  · intro hlooks
    rw [Option.eq_none_iff_forall_not_mem]
    intro success hsuccess
    rw [Option.mem_def, result_readRule] at hsuccess
    obtain ⟨number, hnumber, hsuccess⟩ := Option.bind_eq_some_iff.1 hsuccess
    obtain ⟨⟨_, afterIf⟩, hafterIf, hsuccess⟩ := Option.bind_eq_some_iff.1 hsuccess
    obtain ⟨⟨clauses, left⟩, hclauses, -⟩ := Option.map_eq_some_iff.1 hsuccess
    rcases readRun_token_space hword hnumber with ⟨hdigits, hafter⟩ | ⟨word, htoken, hafter⟩
    · -- The keyword is a number and the category the first word of a rule.
      rw [hafter, skipGap_space, skipGap_token hcategory,
        readKeyword_token hif hcategory hbehind] at hafterIf
      obtain ⟨heq, hsome⟩ := Option.ite_none_right_eq_some.1 hafterIf
      cases hsome
      rw [readClauses_congr (skipGap_bindingTail _)] at hclauses
      exact hlooks ⟨hdigits, heq, by rw [hclauses]; rfl⟩
    · -- A rest of the keyword is the first word of a rule: the category begins no pair.
      rw [hafter, skipGap_token htoken, readKeyword_token hif htoken (stops_isWord_space _)]
        at hafterIf
      obtain ⟨-, hsome⟩ := Option.ite_none_right_eq_some.1 hafterIf
      cases hsome
      have hhyphen : Stops (· == '-') (bindingTail binding.text) := by
        have := stops_bindingTail binding.text rfl (stops_nil (· == '-'))
        rwa [List.append_nil] at this
      rw [result_readClauses, skipGap_space, skipGap_token hcategory,
        readPair_token hcategory hbehind hhyphen] at hclauses
      cases hclauses

/-- The written form of a binding that was read is no rule: otherwise a rule would have been read
in its place. -/
theorem isPlain_of_readEntry {text rest : List Char} {binding : Binding}
    (h : (readEntry keywords text).result = some (binding.body, rest)) :
    binding.IsPlain keywords := by
  obtain ⟨hrule, parts, hparts, hkind, hcategoryEq, htextEq, rfl⟩ := exists_bindingText h
  obtain ⟨-, tail, hsplit, htailWord, htailHyphen⟩ := hparts.trimmed
  have hcategory : isToken binding.category = true := hcategoryEq ▸ hparts.category
  have hafterCategory := hparts.category_stops
  -- What was read, with the text as it was kept.
  have htrimmed : parts.text ++ rest = binding.text.toList ++ tail := by
    rw [hsplit, ← htextEq, String.toList_ofList]
  rw [BindingText.chars_append, hkind, hcategoryEq, htrimmed] at hrule
  rw [htrimmed] at hafterCategory
  have hblanks : IsGap parts.blanks := fun c hc => isGap_of_isBlank (hparts.blanks.all c hc)
  have hword := binding.kind.isToken_word keywords
  have hif : isToken keywords.words.ruleIf = true := keywords.isToken_get .ruleIf
  rw [Binding.isPlain_iff hcategory]
  intro hlooks
  -- The clauses are read in the text that was read, too, where more may stand behind them.
  obtain ⟨⟨clauses, left⟩, hclauses⟩ := Option.isSome_iff_exists.1 hlooks.clauses
  have hwhole : (readClauses keywords (parts.blanks ++ (binding.text.toList ++ tail))).result =
      some (clauses, left ++ tail) := by
    rw [readClauses_congr (skipGap_gap_append _ hblanks)]
    exact readClauses_append htailWord htailHyphen hclauses
  rw [result_readRule, readRun_of_all _ (toList_ne_nil_of_token hword) hlooks.digits
      ((hparts.gap.stops_isWord hparts.gap_ne _).mono fun _ => isWord_of_isNumberDigit),
    Option.bind_some, skipGap_gap_append _ hparts.gap, skipGap_token hcategory,
    readKeyword_token hif hcategory hafterCategory, if_pos hlooks.category, Option.bind_some,
    hwhole] at hrule
  cases hrule

end RuleConsult
