import RuleConsult.Proofs.Reading.Written
import RuleConsult.Reading.Document

/-!
# The grammar of documents

The grammar is stated here without reading anything. A decomposition names the parts of a text,
white space included; its `chars` are the text that these parts make up; and it *fits* in front of a
text if every part is of its kind and goes as far as it can in front of what follows it. White space
may be missing only around a whole document and in front of the first keyword of a rule. A keyword
is followed by white space everywhere, so never by a word character.

* `RuleText.Fits`, `BindingText.Fits`, `EntryText.Fits`: the two forms of entries, and the rule that
  a text with both forms is a rule;
* `DocumentText.Decomposes`: documents, which are read as `DocumentText.entries`;
* `RuleText.inj`, `BindingText.inj`: a text begins with at most one decomposition of either form;
* `DocumentText.Decomposes.unique`: a document has one decomposition.
-/

namespace RuleConsult

open Text

/-! ## Runs -/

/-- A run of characters of a class, as long as possible in front of `rest`. -/
structure IsRun (member : Char → Bool) (run rest : List Char) : Prop where
  all : ∀ c ∈ run, member c = true
  stops : Stops member rest

/-- White space between words, of any length. -/
def IsGap (gap : List Char) : Prop := ∀ c ∈ gap, isGap c = true

namespace IsRun

variable {member : Char → Bool} {run rest : List Char}

theorem takeWhile_append (h : IsRun member run rest) : (run ++ rest).takeWhile member = run := by
  rw [takeWhile_append_of_stops _ h.stops]
  exact List.takeWhile_eq_self_iff.2 h.all

theorem dropWhile_append (h : IsRun member run rest) : (run ++ rest).dropWhile member = rest := by
  rw [List.dropWhile_append_of_pos h.all, dropWhile_eq_self h.stops]

/-- The run that is taken from a text. -/
theorem takeWhile_dropWhile (member : Char → Bool) (text : List Char) :
    IsRun member (text.takeWhile member) (text.dropWhile member) :=
  ⟨fun _ hc => List.mem_takeWhile_imp hc, stops_dropWhile member text⟩

/-- A text begins with one run of a class. -/
theorem inj {run' rest' : List Char} (h : IsRun member run rest) (h' : IsRun member run' rest')
    (heq : run ++ rest = run' ++ rest') : run = run' ∧ rest = rest' := by
  have hrun : run = run' := by
    rw [← h.takeWhile_append, heq, h'.takeWhile_append]
  subst hrun
  exact ⟨rfl, List.append_cancel_left heq⟩

end IsRun

/-- White space in front of a token is a run. -/
theorem IsGap.isRun_token {gap : List Char} (h : IsGap gap) {token : String}
    (htoken : isToken token = true) (rest : List Char) :
    IsRun isGap gap (token.toList ++ rest) :=
  ⟨h, stops_isGap_token htoken rest⟩

/-- A word ends at white space. -/
theorem IsGap.stops_isWord {gap : List Char} (h : IsGap gap) (hne : gap ≠ []) (rest : List Char) :
    Stops isWord (gap ++ rest) := by
  cases gap with
  | nil => exact absurd rfl hne
  | cons c gap => exact stops_cons.2 (isWord_of_isGap (h c List.mem_cons_self))

/-- A token in front of something else is a run. -/
theorem isRun_token {token : String} (htoken : isToken token = true) {rest : List Char}
    (hrest : Stops isWord rest) : IsRun isWord token.toList rest :=
  ⟨isWord_of_mem_token htoken, hrest⟩

/-- A text begins with one token. -/
theorem token_inj {token token' : String} {rest rest' : List Char} (htoken : isToken token = true)
    (htoken' : isToken token' = true) (hrest : Stops isWord rest) (hrest' : Stops isWord rest')
    (heq : token.toList ++ rest = token'.toList ++ rest') : token = token' ∧ rest = rest' := by
  obtain ⟨hword, hsame⟩ := (isRun_token htoken hrest).inj (isRun_token htoken' hrest') heq
  exact ⟨String.toList_inj.1 hword, hsame⟩

/-! ## Clauses -/

/-- A keyword and a pair, with the white space before and between them. -/
structure Clause where
  before : List Char
  between : List Char
  pair : Pair

namespace Clause

/-- The text of a clause with the given keyword. -/
def chars (word : String) (clause : Clause) : List Char :=
  clause.before ++ (word.toList ++ (clause.between ++ clause.pair.toText.toList))

/-- A category ends at its hyphen, which is no word character; a value has to go on as far as it
can. -/
structure Fits (clause : Clause) (rest : List Char) : Prop where
  before : IsGap clause.before
  between : IsGap clause.between
  between_ne : clause.between ≠ []
  pair : clause.pair.IsTokens
  value : Stops isWord rest

theorem chars_append (word : String) (clause : Clause) (rest : List Char) :
    clause.chars word ++ rest =
      clause.before ++ (word.toList ++
        (clause.between ++ (clause.pair.toText.toList ++ rest))) := by
  simp [chars]

/-- A word ends at a clause with white space before it. -/
theorem stops_isWord {clause : Clause} {rest : List Char} (h : clause.Fits rest)
    (hne : clause.before ≠ []) (word : String) (tail : List Char) :
    Stops isWord (clause.chars word ++ tail) := by
  rw [chars_append]
  exact h.before.stops_isWord hne _

end Clause

/-- A text begins with one pair. -/
theorem pair_inj {pair pair' : Pair} {rest rest' : List Char} (hpair : pair.IsTokens)
    (hpair' : pair'.IsTokens) (hrest : Stops isWord rest) (hrest' : Stops isWord rest')
    (heq : pair.toText.toList ++ rest = pair'.toText.toList ++ rest') :
    pair = pair' ∧ rest = rest' := by
  have hhyphen : ∀ xs, Stops isWord ('-' :: xs) := fun xs => stops_cons.2 isWord_hyphen
  rw [pair.toList_toText, pair'.toList_toText, List.append_assoc, List.append_assoc,
    List.cons_append, List.cons_append] at heq
  obtain ⟨hcategory, heq⟩ :=
    token_inj hpair.category hpair'.category (hhyphen _) (hhyphen _) heq
  obtain ⟨hvalue, hsame⟩ :=
    token_inj hpair.value hpair'.value hrest hrest' (List.cons.inj heq).2
  cases pair
  cases pair'
  exact ⟨congrArg₂ Pair.mk hcategory hvalue, hsame⟩

/-- A text begins with one clause of one keyword. -/
theorem Clause.inj {clause clause' : Clause} {word word' : String} {rest rest' : List Char}
    (hword : isToken word = true) (hword' : isToken word' = true) (h : clause.Fits rest)
    (h' : clause'.Fits rest')
    (heq : clause.chars word ++ rest = clause'.chars word' ++ rest') :
    word = word' ∧ clause = clause' ∧ rest = rest' := by
  rw [chars_append, chars_append] at heq
  obtain ⟨hbefore, heq⟩ :=
    (h.before.isRun_token hword _).inj (h'.before.isRun_token hword' _) heq
  obtain ⟨hsame, heq⟩ := token_inj hword hword' (h.between.stops_isWord h.between_ne _)
    (h'.between.stops_isWord h'.between_ne _) heq
  -- A pair begins with a category, so the white space in front of it is a run, too.
  have hrun : ∀ {clause : Clause} {rest : List Char}, clause.Fits rest →
      IsRun isGap clause.between (clause.pair.toText.toList ++ rest) := by
    intro clause rest hfits
    rw [clause.pair.toList_toText, List.append_assoc]
    exact hfits.between.isRun_token hfits.pair.category _
  obtain ⟨hbetween, heq⟩ := (hrun h).inj (hrun h') heq
  obtain ⟨hpair, hrest⟩ := pair_inj h.pair h'.pair h.value h'.value heq
  cases clause
  cases clause'
  cases hbefore
  cases hbetween
  cases hpair
  exact ⟨hsame, rfl, hrest⟩

/-! ## Rules -/

/-- The parts of a rule. -/
structure RuleText where
  number : String
  /-- The first condition. -/
  first : Clause
  /-- Further conditions. -/
  others : List Clause
  conclusion : Clause

/-- The text of further conditions. -/
def conjuncts (keywords : Keywords) (clauses : List Clause) : List Char :=
  clauses.flatMap (Clause.chars keywords.words.ruleAnd)

/-- Further conditions in front of a text. -/
def ConjunctsFit (keywords : Keywords) : List Clause → List Char → Prop
  | [], _ => True
  | clause :: clauses, rest =>
    clause.before ≠ [] ∧ clause.Fits (conjuncts keywords clauses ++ rest) ∧
      ConjunctsFit keywords clauses rest

namespace RuleText

/-- The text behind the first condition. -/
def behind (keywords : Keywords) (rule : RuleText) : List Char :=
  conjuncts keywords rule.others ++ rule.conclusion.chars keywords.words.ruleThen

/-- The text of a rule. -/
def chars (keywords : Keywords) (rule : RuleText) : List Char :=
  rule.number.toList ++ (rule.first.chars keywords.words.ruleIf ++ rule.behind keywords)

/-- What is written in a rule. -/
def body (rule : RuleText) : EntryBody :=
  .rule rule.number (rule.first.pair :: rule.others.map Clause.pair) (some rule.conclusion.pair)

/-- A rule in front of `rest`. Its first keyword may follow the number immediately, even if it
begins with a digit itself; but then it is no part of the number. -/
structure Fits (keywords : Keywords) (rule : RuleText) (rest : List Char) : Prop where
  number : IsRun isNumberDigit rule.number.toList
    (rule.first.chars keywords.words.ruleIf ++ (rule.behind keywords ++ rest))
  number_ne : rule.number.toList ≠ []
  first : rule.first.Fits (rule.behind keywords ++ rest)
  others : ConjunctsFit keywords rule.others
    (rule.conclusion.chars keywords.words.ruleThen ++ rest)
  conclusion : rule.conclusion.Fits rest
  conclusion_ne : rule.conclusion.before ≠ []

theorem chars_append (keywords : Keywords) (rule : RuleText) (rest : List Char) :
    rule.chars keywords ++ rest =
      rule.number.toList ++
        (rule.first.chars keywords.words.ruleIf ++ (rule.behind keywords ++ rest)) := by
  simp [chars]

theorem behind_append (keywords : Keywords) (rule : RuleText) (rest : List Char) :
    rule.behind keywords ++ rest =
      conjuncts keywords rule.others ++
        (rule.conclusion.chars keywords.words.ruleThen ++ rest) := by
  simp [behind]

end RuleText

variable {keywords : Keywords}

theorem conjuncts_cons_append (clause : Clause) (clauses : List Clause) (rest : List Char) :
    conjuncts keywords (clause :: clauses) ++ rest =
      clause.chars keywords.words.ruleAnd ++ (conjuncts keywords clauses ++ rest) := by
  simp [conjuncts]

/-- Further conditions end at the keyword before the conclusion, which is not the conjunction. -/
theorem conjuncts_inj {clauses clauses' : List Clause} {last last' : Clause}
    {rest rest' : List Char}
    (h : ConjunctsFit keywords clauses (last.chars keywords.words.ruleThen ++ rest))
    (h' : ConjunctsFit keywords clauses' (last'.chars keywords.words.ruleThen ++ rest'))
    (hlast : last.Fits rest) (hlast' : last'.Fits rest')
    (heq : conjuncts keywords clauses ++ (last.chars keywords.words.ruleThen ++ rest) =
      conjuncts keywords clauses' ++ (last'.chars keywords.words.ruleThen ++ rest')) :
    clauses = clauses' ∧ last = last' ∧ rest = rest' := by
  have hand := keywords.isToken_get .ruleAnd
  have hthen := keywords.isToken_get .ruleThen
  have hne : keywords.words.get .ruleAnd ≠ keywords.words.get .ruleThen :=
    keywords.get_ne (by decide)
  induction clauses generalizing clauses' with
  | nil =>
    cases clauses' with
    | nil =>
      -- Both lists end here, and the conclusions follow.
      obtain ⟨-, hsame, hrest⟩ := Clause.inj hthen hthen hlast hlast' heq
      exact ⟨rfl, hsame, hrest⟩
    | cons clause' clauses' =>
      -- One text goes on with the conclusion and the other with the conjunction.
      rw [conjuncts_cons_append] at heq
      obtain ⟨hword, -, -⟩ := Clause.inj hthen hand hlast h'.2.1 heq
      exact absurd hword.symm hne
  | cons clause clauses ih =>
    cases clauses' with
    | nil =>
      rw [conjuncts_cons_append] at heq
      obtain ⟨hword, -, -⟩ := Clause.inj hand hthen h.2.1 hlast' heq
      exact absurd hword hne
    | cons clause' clauses' =>
      rw [conjuncts_cons_append, conjuncts_cons_append] at heq
      obtain ⟨-, hclause, heq⟩ := Clause.inj hand hand h.2.1 h'.2.1 heq
      obtain ⟨hclauses, hrest⟩ := ih h.2.2 h'.2.2 heq
      exact ⟨congrArg₂ List.cons hclause hclauses, hrest⟩

/-- A text begins with at most one rule. -/
theorem RuleText.inj {rule rule' : RuleText} {rest rest' : List Char}
    (h : rule.Fits keywords rest) (h' : rule'.Fits keywords rest')
    (heq : rule.chars keywords ++ rest = rule'.chars keywords ++ rest') :
    rule = rule' ∧ rest = rest' := by
  have hif := keywords.isToken_get .ruleIf
  -- The parts agree from left to right, each of them being as long as it can be.
  rw [chars_append, chars_append] at heq
  obtain ⟨hnumber, heq⟩ := h.number.inj h'.number heq
  obtain ⟨-, hfirst, heq⟩ := Clause.inj hif hif h.first h'.first heq
  rw [behind_append, behind_append] at heq
  obtain ⟨hothers, hconclusion, hrest⟩ :=
    conjuncts_inj h.others h'.others h.conclusion h'.conclusion heq
  cases rule
  cases rule'
  cases String.toList_inj.1 hnumber
  cases hfirst
  cases hothers
  cases hconclusion
  exact ⟨rfl, hrest⟩

/-! ## Bindings -/

/-- The parts of a binding. -/
structure BindingText where
  kind : BindingKind
  gap : List Char
  category : String
  /-- The white space behind the category, as far as it is on its line. -/
  blanks : List Char
  /-- The text with the spaces around it. -/
  text : List Char

namespace BindingText

/-- The text of a binding. -/
def chars (keywords : Keywords) (binding : BindingText) : List Char :=
  (binding.kind.word keywords).toList ++
    (binding.gap ++ (binding.category.toList ++ (binding.blanks ++ binding.text)))

/-- What is written in a binding: its text is stripped of the spaces around it. -/
def body (binding : BindingText) : EntryBody :=
  .binding binding.kind binding.category (String.ofList (trimList (· == ' ') binding.text))

/-- The form of a binding in front of `rest`. -/
structure Fits (binding : BindingText) (rest : List Char) : Prop where
  gap : IsGap binding.gap
  gap_ne : binding.gap ≠ []
  category : isToken binding.category = true
  category_stops : Stops isWord (binding.blanks ++ (binding.text ++ rest))
  blanks : IsRun isBlank binding.blanks (binding.text ++ rest)
  text : IsRun isFreeText binding.text rest

theorem chars_append (keywords : Keywords) (binding : BindingText) (rest : List Char) :
    binding.chars keywords ++ rest =
      (binding.kind.word keywords).toList ++ (binding.gap ++ (binding.category.toList ++
        (binding.blanks ++ (binding.text ++ rest)))) := by
  simp [chars]

/-- A text begins with at most one binding. -/
theorem inj {binding binding' : BindingText} {rest rest' : List Char} (h : binding.Fits rest)
    (h' : binding'.Fits rest')
    (heq : binding.chars keywords ++ rest = binding'.chars keywords ++ rest') :
    binding = binding' ∧ rest = rest' := by
  rw [chars_append, chars_append] at heq
  obtain ⟨hword, heq⟩ := token_inj (binding.kind.isToken_word keywords)
    (binding'.kind.isToken_word keywords) (h.gap.stops_isWord h.gap_ne _)
    (h'.gap.stops_isWord h'.gap_ne _) heq
  have hkind : binding.kind = binding'.kind := BindingKind.word_injective keywords hword
  obtain ⟨hgap, heq⟩ :=
    (h.gap.isRun_token h.category _).inj (h'.gap.isRun_token h'.category _) heq
  obtain ⟨hcategory, heq⟩ :=
    token_inj h.category h'.category h.category_stops h'.category_stops heq
  obtain ⟨hblanks, heq⟩ := h.blanks.inj h'.blanks heq
  obtain ⟨htext, hrest⟩ := h.text.inj h'.text heq
  cases binding
  cases binding'
  cases hkind
  cases hgap
  cases hcategory
  cases hblanks
  cases htext
  exact ⟨rfl, hrest⟩

end BindingText

/-! ## Entries -/

/-- The parts of an entry. -/
inductive EntryText where
  | rule (parts : RuleText)
  | binding (parts : BindingText)

namespace EntryText

/-- The text of an entry. -/
def chars (keywords : Keywords) : EntryText → List Char
  | .rule parts => parts.chars keywords
  | .binding parts => parts.chars keywords

/-- What is written in an entry. -/
def body : EntryText → EntryBody
  | .rule parts => parts.body
  | .binding parts => parts.body

/-- An entry in front of `rest`. It is a binding only if no rule begins there. -/
def Fits (keywords : Keywords) : EntryText → List Char → Prop
  | .rule parts, rest => parts.Fits keywords rest
  | .binding parts, rest => parts.Fits rest ∧
      ∀ (other : RuleText) (behind : List Char), other.Fits keywords behind →
        other.chars keywords ++ behind ≠ parts.chars keywords ++ rest

/-- A text begins with at most one entry. -/
theorem inj {entry entry' : EntryText} {rest rest' : List Char} (h : entry.Fits keywords rest)
    (h' : entry'.Fits keywords rest')
    (heq : entry.chars keywords ++ rest = entry'.chars keywords ++ rest') :
    entry = entry' ∧ rest = rest' := by
  cases entry with
  | rule parts =>
    cases entry' with
    | rule parts' =>
      obtain ⟨hparts, hrest⟩ := RuleText.inj h h' heq
      exact ⟨congrArg EntryText.rule hparts, hrest⟩
    -- A binding does not fit where a rule does.
    | binding parts' => exact absurd heq (h'.2 parts rest h)
  | binding parts =>
    cases entry' with
    | rule parts' => exact absurd heq.symm (h.2 parts' rest' h')
    | binding parts' =>
      obtain ⟨hparts, hrest⟩ := BindingText.inj h.1 h'.1 heq
      exact ⟨congrArg EntryText.binding hparts, hrest⟩

/-- An entry begins with a word character. -/
theorem exists_cons {entry : EntryText} {rest : List Char} (h : entry.Fits keywords rest) :
    ∃ c more, entry.chars keywords = c :: more ∧ isWord c = true := by
  cases entry with
  | rule parts =>
    -- The first digit of the number.
    have hfits : parts.Fits keywords rest := h
    obtain ⟨c, more, hnumber⟩ := List.exists_cons_of_ne_nil hfits.number_ne
    refine ⟨c, more ++ (parts.first.chars keywords.words.ruleIf ++ parts.behind keywords), ?_, ?_⟩
    · rw [chars, RuleText.chars, hnumber, List.cons_append]
    · apply isWord_of_isNumberDigit
      exact hfits.number.all c (hnumber ▸ List.mem_cons_self)
  | binding parts =>
    -- The first character of the keyword.
    have hword := parts.kind.isToken_word keywords
    obtain ⟨c, more, hchars⟩ := List.exists_cons_of_ne_nil (toList_ne_nil_of_token hword)
    refine ⟨c, more ++ (parts.gap ++ (parts.category.toList ++ (parts.blanks ++ parts.text))),
      ?_, ?_⟩
    · rw [chars, BindingText.chars, hchars, List.cons_append]
    · exact isWord_of_mem_token hword c (hchars ▸ List.mem_cons_self)

/-- White space in front of an entry is a run. -/
theorem isRun_gap {gap : List Char} (hgap : IsGap gap) {entry : EntryText} {rest : List Char}
    (h : entry.Fits keywords rest) : IsRun isGap gap (entry.chars keywords ++ rest) := by
  obtain ⟨c, more, hchars, hword⟩ := exists_cons h
  refine ⟨hgap, ?_⟩
  rw [hchars]
  exact stops_cons.2 (isGap_of_isWord hword)

/-- No entry is followed by a word character. -/
theorem stops_isWord {entry : EntryText} {rest : List Char} (h : entry.Fits keywords rest) :
    Stops isWord rest := by
  cases entry with
  | rule parts =>
    have hfits : parts.Fits keywords rest := h
    exact hfits.conclusion.value
  | binding parts => exact h.1.text.stops.mono fun c => isFreeText_of_isWord

/-- The entry behind the given text. -/
def located (before : List Char) (entry : EntryText) : Entry :=
  let location := Location.after before
  { offset := location.offset, line := location.line, column := location.column,
    body := entry.body }

end EntryText

/-! ## Documents -/

/-- The text of entries, each with the white space before it. -/
def spaced (keywords : Keywords) (entries : List (List Char × EntryText)) : List Char :=
  entries.flatMap fun entry => entry.1 ++ entry.2.chars keywords

/-- Entries with white space before each of them, in front of a text. -/
def SpacedFit (keywords : Keywords) : List (List Char × EntryText) → List Char → Prop
  | [], _ => True
  | (gap, entry) :: entries, rest =>
    IsGap gap ∧ gap ≠ [] ∧ entry.Fits keywords (spaced keywords entries ++ rest) ∧
      SpacedFit keywords entries rest

/-- The entries, where the first one stands, with its white space, behind the given text. -/
def locatedFrom (keywords : Keywords) (before : List Char) :
    List (List Char × EntryText) → List Entry
  | [] => []
  | (gap, entry) :: entries =>
    entry.located (before ++ gap) ::
      locatedFrom keywords (before ++ (gap ++ entry.chars keywords)) entries

/-- The parts of a document. -/
structure DocumentText where
  /-- The white space before the first entry. -/
  lead : List Char
  first : EntryText
  /-- Further entries, each with the white space before it. -/
  others : List (List Char × EntryText)
  /-- The white space behind the last entry. -/
  trail : List Char

namespace DocumentText

/-- What is written in a document, and where. -/
def entries (keywords : Keywords) (document : DocumentText) : List Entry :=
  locatedFrom keywords [] ((document.lead, document.first) :: document.others)

/-- The document is made up of the parts, and each of them fits where it stands. -/
structure Decomposes (keywords : Keywords) (document : DocumentText) (text : List Char) :
    Prop where
  text_eq : text = document.lead ++ (document.first.chars keywords ++
    (spaced keywords document.others ++ document.trail))
  lead : IsGap document.lead
  first : document.first.Fits keywords (spaced keywords document.others ++ document.trail)
  others : SpacedFit keywords document.others document.trail
  trail : IsGap document.trail

end DocumentText

theorem spaced_cons_append (gap : List Char) (entry : EntryText)
    (entries : List (List Char × EntryText)) (rest : List Char) :
    spaced keywords ((gap, entry) :: entries) ++ rest =
      gap ++ (entry.chars keywords ++ (spaced keywords entries ++ rest)) := by
  simp [spaced]

/-- White space does not reach beyond an entry. -/
theorem not_isGap_append_chars {entry : EntryText} {rest : List Char}
    (h : entry.Fits keywords rest) (gap tail : List Char) :
    ¬ IsGap (gap ++ (entry.chars keywords ++ tail)) := by
  intro hgap
  obtain ⟨c, more, hchars, hword⟩ := EntryText.exists_cons h
  have := hgap c (by simp [hchars])
  rw [isGap_of_isWord hword] at this
  cases this

/-- A text is divided into entries and white space in one way. -/
theorem spaced_inj {entries entries' : List (List Char × EntryText)} {trail trail' : List Char}
    (h : SpacedFit keywords entries trail) (h' : SpacedFit keywords entries' trail')
    (htrail : IsGap trail) (htrail' : IsGap trail')
    (heq : spaced keywords entries ++ trail = spaced keywords entries' ++ trail') :
    entries = entries' ∧ trail = trail' := by
  induction entries generalizing entries' with
  | nil =>
    cases entries' with
    | nil => exact ⟨rfl, heq⟩
    | cons next' entries' =>
      -- One text is white space and the other holds an entry.
      obtain ⟨gap', entry'⟩ := next'
      rw [spaced_cons_append] at heq
      have htail : trail = gap' ++ (entry'.chars keywords ++
        (spaced keywords entries' ++ trail')) := heq
      exact absurd (htail ▸ htrail) (not_isGap_append_chars h'.2.2.1 _ _)
  | cons next entries ih =>
    obtain ⟨gap, entry⟩ := next
    cases entries' with
    | nil =>
      rw [spaced_cons_append] at heq
      have htail : gap ++ (entry.chars keywords ++ (spaced keywords entries ++ trail)) =
        trail' := heq
      exact absurd (htail ▸ htrail') (not_isGap_append_chars h.2.2.1 _ _)
    | cons next' entries' =>
      obtain ⟨gap', entry'⟩ := next'
      -- White space ends where an entry begins, and the entry ends where it has to.
      obtain ⟨hgap, -, hentry, hentries⟩ := h
      obtain ⟨hgap', -, hentry', hentries'⟩ := h'
      rw [spaced_cons_append, spaced_cons_append] at heq
      obtain ⟨hsame, heq⟩ :=
        (EntryText.isRun_gap hgap hentry).inj (EntryText.isRun_gap hgap' hentry') heq
      obtain ⟨hsameEntry, heq⟩ := EntryText.inj hentry hentry' heq
      obtain ⟨hothers, hrest⟩ := ih hentries hentries' heq
      rw [hsame, hsameEntry, hothers]
      exact ⟨rfl, hrest⟩

/-- A document has one decomposition. -/
theorem DocumentText.Decomposes.unique {document document' : DocumentText} {text : List Char}
    (h : document.Decomposes keywords text) (h' : document'.Decomposes keywords text) :
    document = document' := by
  have heq := h.text_eq.symm.trans h'.text_eq
  obtain ⟨hlead, heq⟩ :=
    (EntryText.isRun_gap h.lead h.first).inj (EntryText.isRun_gap h'.lead h'.first) heq
  obtain ⟨hfirst, heq⟩ := EntryText.inj h.first h'.first heq
  obtain ⟨hothers, htrail⟩ := spaced_inj h.others h'.others h.trail h'.trail heq
  cases document
  cases document'
  cases hlead
  cases hfirst
  cases hothers
  cases htrail
  rfl

end RuleConsult
