import RuleConsult.Proofs.Reading.Grammar
import RuleConsult.Proofs.Reading.Lines

/-!
# What is read is what the grammar describes

Reading takes runs greedily and never goes back: a conjunction commits to a further condition, and
digits are a number wherever a rule is tried, even if they begin the keyword behind it. Nothing is
lost by this and nothing is gained. Every form is read exactly where its grammar fits, with the
parts that the grammar names. For the two directions there is a lemma that reads the text of fitting
parts, and one that finds fitting parts for what was read.

* `readRule_eq_some_iff`, `readBinding_eq_some_iff`: the two forms;
* `readEntry_chars`, `exists_entry`: entries;
* `readEntries_spaced`, `exists_spaced`: sequences of entries with white space between them;
* `readDocument_grammar`: documents.
-/

namespace RuleConsult

open Text

variable {keywords : Keywords}

/-! ## Words and white space -/

/-- The white space that is skipped. -/
theorem exists_gap (text : List Char) : ∃ gap, IsGap gap ∧ text = gap ++ skipGap text :=
  ⟨text.takeWhile isGap, fun _ hc => List.mem_takeWhile_imp hc,
    List.takeWhile_append_dropWhile.symm⟩

theorem not_stops_token {token : String} (htoken : isToken token = true) (rest : List Char) :
    ¬ Stops isWord (token.toList ++ rest) := by
  obtain ⟨c, more, hchars⟩ := List.exists_cons_of_ne_nil (toList_ne_nil_of_token htoken)
  rw [hchars, List.cons_append, stops_cons,
    isWord_of_mem_token htoken c (hchars ▸ List.mem_cons_self)]
  decide

/-- Between a word and a further word there is white space. -/
theorem gap_ne_nil {gap rest : List Char} {token : String} (htoken : isToken token = true)
    (h : Stops isWord (gap ++ (token.toList ++ rest))) : gap ≠ [] := by
  rintro rfl
  exact not_stops_token htoken rest h

/-! ## Clauses -/

/-- In front of a clause stands its keyword and no other. -/
theorem readKeyword_chars {clause : Clause} {word word' : String} {rest : List Char}
    (hword : isToken word = true) (hword' : isToken word' = true) (h : clause.Fits rest) :
    (readKeyword word' (skipGap (clause.chars word ++ rest))).result =
      if word = word' then
        some ((), clause.between ++ (clause.pair.toText.toList ++ rest))
      else none := by
  rw [Clause.chars_append, skipGap_gap_append _ h.before, skipGap_token hword,
    readKeyword_token hword' hword (h.between.stops_isWord h.between_ne _)]

/-- Behind its keyword stands the pair of a clause. -/
theorem readPair_between {clause : Clause} {rest : List Char} (h : clause.Fits rest) :
    (readPair (skipGap (clause.between ++ (clause.pair.toText.toList ++ rest)))).result =
      some (clause.pair, rest) := by
  rw [skipGap_gap_append _ h.between, skipGap_pair h.pair, readPair_toText h.pair h.value]

/-- Where a keyword and a pair were read there is a clause. -/
theorem exists_clause {word : String} {text mid rest : List Char} {u : Unit} {pair : Pair}
    (hkeyword : (readKeyword word (skipGap text)).result = some (u, mid))
    (hpair : (readPair (skipGap mid)).result = some (pair, rest)) :
    ∃ clause : Clause, clause.Fits rest ∧ clause.pair = pair ∧
      text = clause.chars word ++ rest := by
  obtain ⟨before, hbefore, htext⟩ := exists_gap text
  obtain ⟨between, hbetween, hmid⟩ := exists_gap mid
  obtain ⟨hword, hstops⟩ := readKeyword_eq_some hkeyword
  obtain ⟨hchars, htokens, hvalue⟩ := readPair_eq_some hpair
  rw [hchars] at hmid
  -- The keyword ends where the pair has not begun yet.
  have hne : between ≠ [] := by
    rw [hmid, pair.toList_toText, List.append_assoc] at hstops
    exact gap_ne_nil htokens.category hstops
  refine ⟨⟨before, between, pair⟩, ⟨hbefore, hbetween, hne, htokens, hvalue⟩, rfl, ?_⟩
  rw [Clause.chars_append, ← hmid, ← hword]
  exact htext

/-- Behind a word a clause begins with white space. -/
theorem before_ne_nil {clause : Clause} {word : String} {rest : List Char}
    (hword : isToken word = true) (h : Stops isWord (clause.chars word ++ rest)) :
    clause.before ≠ [] := by
  rw [Clause.chars_append] at h
  exact gap_ne_nil hword h

/-! ## Rules -/

/-- Fitting conditions are read, up to where no conjunction follows. -/
theorem readConditions_conjuncts {clauses : List Clause} {rest : List Char}
    (h : ConjunctsFit keywords clauses rest)
    (hend : (readKeyword keywords.words.ruleAnd (skipGap rest)).result = none) :
    (readConditions keywords (conjuncts keywords clauses ++ rest)).result =
      some (clauses.map Clause.pair, rest) := by
  have hand : isToken keywords.words.ruleAnd = true := keywords.isToken_get .ruleAnd
  induction clauses with
  | nil => exact readConditions_of_none hend
  | cons clause clauses ih =>
    obtain ⟨-, hclause, hclauses⟩ := h
    have hkeyword := (readKeyword_chars hand hand hclause).trans (if_pos rfl)
    rw [conjuncts_cons_append, readConditions_of_some hkeyword, readPair_between hclause,
      Option.bind_some, ih hclauses]
    rfl

/-- Where conditions were read there are fitting ones. -/
theorem exists_conjuncts {text rest : List Char} {pairs : List Pair} (htext : Stops isWord text)
    (h : (readConditions keywords text).result = some (pairs, rest)) :
    ∃ clauses, ConjunctsFit keywords clauses rest ∧ clauses.map Clause.pair = pairs ∧
      text = conjuncts keywords clauses ++ rest ∧ Stops isWord rest := by
  induction text using conditions_induction keywords generalizing pairs with
  | ends text hand =>
    -- Nothing was read, so what is left still follows a word.
    rw [readConditions_of_none hand] at h
    cases h
    exact ⟨[], trivial, rfl, rfl, htext⟩
  | lacks text u afterAnd hand hpair =>
    -- A conjunction without a pair is never passed over.
    rw [readConditions_of_some hand, hpair] at h
    cases h
  | continues text u afterAnd condition s hand hpair ih =>
    rw [readConditions_of_some hand, hpair, Option.bind_some] at h
    obtain ⟨⟨others, t⟩, hothers, heq⟩ := Option.map_eq_some_iff.1 h
    cases heq
    obtain ⟨clause, hclause, rfl, rfl⟩ := exists_clause hand hpair
    obtain ⟨clauses, hclauses, rfl, rfl, hrest⟩ := ih hclause.value hothers
    have hne := before_ne_nil (keywords.isToken_get .ruleAnd) htext
    exact ⟨clause :: clauses, ⟨hne, hclause, hclauses⟩, rfl, (conjuncts_cons_append ..).symm,
      hrest⟩

/-- A fitting rule is read. -/
theorem readRule_chars {rule : RuleText} {rest : List Char} (h : rule.Fits keywords rest) :
    (readRule keywords (rule.chars keywords ++ rest)).result = some (rule.body, rest) := by
  have hif : isToken keywords.words.ruleIf = true := keywords.isToken_get .ruleIf
  have hthen : isToken keywords.words.ruleThen = true := keywords.isToken_get .ruleThen
  have hand : isToken keywords.words.ruleAnd = true := keywords.isToken_get .ruleAnd
  have hne : keywords.words.ruleThen ≠ keywords.words.ruleAnd :=
    keywords.get_ne (by decide : KeywordRole.ruleThen ≠ .ruleAnd)
  -- The conditions end at the conclusion, since its keyword is not the conjunction.
  have hend := (readKeyword_chars hthen hand h.conclusion).trans (if_neg hne)
  have hclauses : (readClauses keywords
      (rule.first.between ++
        (rule.first.pair.toText.toList ++ (rule.behind keywords ++ rest)))).result =
      some ((rule.first.pair :: rule.others.map Clause.pair, rule.conclusion.pair), rest) := by
    rw [result_readClauses, readPair_between h.first, Option.bind_some, RuleText.behind_append,
      readConditions_conjuncts h.others hend, Option.bind_some]
    dsimp only
    rw [(readKeyword_chars hthen hthen h.conclusion).trans (if_pos rfl), Option.bind_some,
      readPair_between h.conclusion]
    rfl
  rw [RuleText.chars_append, result_readRule,
    readRun_of_all _ h.number_ne h.number.all h.number.stops, Option.bind_some]
  dsimp only
  rw [(readKeyword_chars hif hif h.first).trans (if_pos rfl), Option.bind_some, hclauses,
    String.ofList_toList]
  rfl

/-- Where a rule was read there is a fitting one. -/
theorem exists_rule {text rest : List Char} {body : EntryBody}
    (h : (readRule keywords text).result = some (body, rest)) :
    ∃ rule : RuleText, rule.Fits keywords rest ∧ rule.body = body ∧
      text = rule.chars keywords ++ rest := by
  -- In order: number, first keyword, first pair, further conditions, last keyword, last pair.
  rw [result_readRule] at h
  obtain ⟨⟨number, s₁⟩, hnumber, h⟩ := Option.bind_eq_some_iff.1 h
  obtain ⟨⟨u, s₂⟩, hkeyword, h⟩ := Option.bind_eq_some_iff.1 h
  obtain ⟨⟨clauses, s₃⟩, hclauses, heq⟩ := Option.map_eq_some_iff.1 h
  cases heq
  rw [result_readClauses] at hclauses
  obtain ⟨⟨pair, s₄⟩, hpair, h⟩ := Option.bind_eq_some_iff.1 hclauses
  obtain ⟨⟨others, s₅⟩, hothers, h⟩ := Option.bind_eq_some_iff.1 h
  obtain ⟨⟨u', s₆⟩, hthen, h⟩ := Option.bind_eq_some_iff.1 h
  obtain ⟨⟨conclusion, s₇⟩, hconclusion, heq⟩ := Option.map_eq_some_iff.1 h
  cases heq
  -- A keyword and the pair behind it make a clause; the texts between the steps fit together.
  obtain ⟨htext, hne, hdigits, hstops⟩ := readRun_eq_some hnumber
  obtain ⟨first, hfirst, hfirstPair, rfl⟩ := exists_clause hkeyword hpair
  obtain ⟨clauses, hfits, hpairs, rfl, hbehind⟩ := exists_conjuncts hfirst.value hothers
  obtain ⟨last, hlast, hlastPair, rfl⟩ := exists_clause hthen hconclusion
  have hlastNe := before_ne_nil (keywords.isToken_get .ruleThen) hbehind
  refine ⟨⟨number, first, clauses, last⟩, ⟨⟨hdigits, ?_⟩, hne, ?_, hfits, hlast, hlastNe⟩, ?_, ?_⟩
  · rw [RuleText.behind_append]
    exact hstops
  · rw [RuleText.behind_append]
    exact hfirst
  · rw [RuleText.body, hfirstPair, hpairs, hlastPair]
  · rw [RuleText.chars_append, RuleText.behind_append]
    exact htext

/-- A rule is read exactly where one fits. -/
theorem readRule_eq_some_iff {text rest : List Char} {body : EntryBody} :
    (readRule keywords text).result = some (body, rest) ↔
      ∃ rule : RuleText, rule.Fits keywords rest ∧ rule.body = body ∧
        text = rule.chars keywords ++ rest := by
  constructor
  · exact exists_rule
  · rintro ⟨rule, hfits, rfl, rfl⟩
    exact readRule_chars hfits

/-- No rule is read exactly where none fits. -/
theorem readRule_eq_none_iff {text : List Char} :
    (readRule keywords text).result = none ↔
      ∀ (rule : RuleText) (behind : List Char), rule.Fits keywords behind →
        rule.chars keywords ++ behind ≠ text := by
  constructor
  · rintro hnone rule behind hfits rfl
    rw [readRule_chars hfits] at hnone
    cases hnone
  · intro hall
    rw [Option.eq_none_iff_forall_not_mem]
    rintro ⟨body, rest⟩ hread
    obtain ⟨rule, hfits, -, rfl⟩ := exists_rule hread
    exact hall rule rest hfits rfl

/-! ## Bindings -/

/-- A fitting binding is read. -/
theorem readBinding_chars {binding : BindingText} {rest : List Char} (h : binding.Fits rest) :
    (readBinding keywords binding.kind (binding.chars keywords ++ rest)).result =
      some (binding.body, rest) := by
  have hword := binding.kind.isToken_word keywords
  rw [BindingText.chars_append, readBinding, Attempt.result_andThen,
    readKeyword_token hword hword (h.gap.stops_isWord h.gap_ne _), if_pos rfl, Option.bind_some,
    Attempt.result_andThen, skipGap_gap_append _ h.gap, skipGap_token h.category,
    readToken_append .category h.category h.category_stops, Option.bind_some,
    Attempt.result_read, skipBlank, h.blanks.dropWhile_append, h.text.takeWhile_append,
    h.text.dropWhile_append]
  rfl

/-- Where a binding was read there is a fitting one. -/
theorem exists_binding {text rest : List Char} {kind : BindingKind} {body : EntryBody}
    (h : (readBinding keywords kind text).result = some (body, rest)) :
    ∃ binding : BindingText, binding.kind = kind ∧ binding.Fits rest ∧ binding.body = body ∧
      text = binding.chars keywords ++ rest := by
  rw [readBinding, Attempt.result_andThen] at h
  obtain ⟨⟨u, afterWord⟩, hkeyword, h⟩ := Option.bind_eq_some_iff.1 h
  rw [Attempt.result_andThen] at h
  obtain ⟨⟨category, afterCategory⟩, hcategory, h⟩ := Option.bind_eq_some_iff.1 h
  cases h
  obtain ⟨rfl, hafterWord⟩ := readKeyword_eq_some hkeyword
  obtain ⟨gap, hgap, hafter⟩ := exists_gap afterWord
  obtain ⟨hskip, htoken, hstops⟩ := readToken_eq_some hcategory
  dsimp only at hskip hafter hafterWord
  rw [hskip] at hafter
  have hne : gap ≠ [] := by
    rw [hafter] at hafterWord
    exact gap_ne_nil htoken hafterWord
  -- The runs behind the category are those that were skipped and taken.
  have hblanks := IsRun.takeWhile_dropWhile isBlank afterCategory
  have htext := IsRun.takeWhile_dropWhile isFreeText (skipBlank afterCategory)
  have hsplit : afterCategory = afterCategory.takeWhile isBlank ++
      ((skipBlank afterCategory).takeWhile isFreeText ++
        (skipBlank afterCategory).dropWhile isFreeText) := by
    rw [List.takeWhile_append_dropWhile]
    exact List.takeWhile_append_dropWhile.symm
  refine ⟨⟨kind, gap, category, afterCategory.takeWhile isBlank,
    (skipBlank afterCategory).takeWhile isFreeText⟩, rfl, ⟨hgap, hne, htoken, ?_, ?_, htext⟩, rfl,
    ?_⟩
  · rw [← hsplit]
    exact hstops
  · rw [List.takeWhile_append_dropWhile]
    exact hblanks
  · rw [BindingText.chars_append, ← hsplit, ← hafter]

/-- A binding of some kind is read exactly where one of this kind fits. -/
theorem readBinding_eq_some_iff {text rest : List Char} {kind : BindingKind} {body : EntryBody} :
    (readBinding keywords kind text).result = some (body, rest) ↔
      ∃ binding : BindingText, binding.kind = kind ∧ binding.Fits rest ∧ binding.body = body ∧
        text = binding.chars keywords ++ rest := by
  constructor
  · exact exists_binding
  · rintro ⟨binding, rfl, hfits, rfl, rfl⟩
    exact readBinding_chars hfits

/-! ## Entries -/

/-- A fitting entry is read. -/
theorem readEntry_chars {entry : EntryText} {rest : List Char} (h : entry.Fits keywords rest) :
    (readEntry keywords (entry.chars keywords ++ rest)).result = some (entry.body, rest) := by
  rw [readEntry_eq_some_iff]
  cases entry with
  | rule parts => exact Or.inl (readRule_chars h)
  | binding parts =>
    exact Or.inr ⟨readRule_eq_none_iff.2 h.2, parts.kind, readBinding_chars h.1⟩

/-- Where an entry was read there is a fitting one. -/
theorem exists_entry {text rest : List Char} {body : EntryBody}
    (h : (readEntry keywords text).result = some (body, rest)) :
    ∃ entry : EntryText, entry.Fits keywords rest ∧ entry.body = body ∧
      text = entry.chars keywords ++ rest := by
  rcases readEntry_eq_some_iff.1 h with hrule | ⟨hnone, kind, hbinding⟩
  · obtain ⟨parts, hfits, hbody, htext⟩ := readRule_eq_some_iff.1 hrule
    exact ⟨.rule parts, hfits, hbody, htext⟩
  · obtain ⟨parts, -, hfits, hbody, rfl⟩ := readBinding_eq_some_iff.1 hbinding
    exact ⟨.binding parts, ⟨hfits, readRule_eq_none_iff.1 hnone⟩, hbody, rfl⟩

/-- No white space stands in front of an entry that was read. -/
theorem stops_isGap_of_readEntry {text : List Char} {success : EntryBody × List Char}
    (h : (readEntry keywords text).result = some success) : Stops isGap text := by
  obtain ⟨entry, hfits, -, rfl⟩ := exists_entry h
  exact (EntryText.isRun_gap (by simp [IsGap] : IsGap []) hfits).stops

/-! ## Documents -/

/-- The slots of entries with white space before each of them, in front of a text. -/
def spacedSlots (keywords : Keywords) (trail : List Char) :
    List (List Char × EntryText) → List Slot
  | [] => []
  | (_, entry) :: entries =>
    ⟨entry.chars keywords ++ (spaced keywords entries ++ trail), entry.body⟩ ::
      spacedSlots keywords trail entries

/-- White space in front of an entry is skipped. -/
theorem skipGap_append_chars {gap : List Char} (hgap : IsGap gap) {entry : EntryText}
    {rest : List Char} (h : entry.Fits keywords rest) :
    skipGap (gap ++ (entry.chars keywords ++ rest)) = entry.chars keywords ++ rest := by
  rw [skipGap_gap_append _ hgap]
  exact skipGap_eq_self (EntryText.isRun_gap hgap h).stops

/-- Fitting entries are read one after the other. -/
theorem readEntries_spaced (gap : List Char) {trail : List Char} {entry : EntryText}
    {entries : List (List Char × EntryText)} (htrail : IsGap trail)
    (h : entry.Fits keywords (spaced keywords entries ++ trail))
    (hentries : SpacedFit keywords entries trail) :
    readEntries keywords (entry.chars keywords ++ (spaced keywords entries ++ trail)) =
      .ok (spacedSlots keywords trail ((gap, entry) :: entries)) := by
  induction entries generalizing gap entry with
  | nil =>
    -- Behind the last entry there is only white space.
    have hend : skipGap trail = [] := List.dropWhile_eq_nil_iff.2 htrail
    exact readEntries_of_last (readEntry_chars h) hend
  | cons next entries ih =>
    obtain ⟨gap', next⟩ := next
    obtain ⟨hgap, -, hnext, hmore⟩ := hentries
    have hread := readEntry_chars h
    rw [spaced_cons_append] at hread
    have hskip := skipGap_append_chars hgap hnext
    have hne : skipGap (gap' ++ (next.chars keywords ++ (spaced keywords entries ++ trail))) ≠
        [] := by
      rw [hskip]
      obtain ⟨c, more, hchars, -⟩ := EntryText.exists_cons hnext
      simp [hchars]
    rw [spacedSlots, spaced_cons_append, readEntries_of_more hread hne, hskip, ih gap' hnext hmore]
    rfl

/-- Where entries were read there are fitting ones. -/
theorem exists_spaced {text : List Char} {slots : List Slot}
    (h : readEntries keywords text = .ok slots) :
    ∃ (entry : EntryText) (entries : List (List Char × EntryText)) (trail : List Char),
      IsGap trail ∧ entry.Fits keywords (spaced keywords entries ++ trail) ∧
      SpacedFit keywords entries trail ∧
      text = entry.chars keywords ++ (spaced keywords entries ++ trail) := by
  refine readEntries_induction ?last ?more h
  case last =>
    intro text body rest hread hrest
    obtain ⟨entry, hfits, -, rfl⟩ := exists_entry hread
    exact ⟨entry, [], rest, List.dropWhile_eq_nil_iff.1 hrest, hfits, trivial, rfl⟩
  case more =>
    intro text body rest others hread hothers ih
    obtain ⟨entry, hfits, -, rfl⟩ := exists_entry hread
    -- The white space that was skipped belongs to the entry behind it.
    obtain ⟨next, entries, trail, htrail, hnext, hentries, hskip⟩ := ih
    obtain ⟨gap, hgap, hrest⟩ := exists_gap rest
    rw [hskip] at hrest
    -- The first entry is not followed by a word character, but the next one begins with one.
    have hne : gap ≠ [] := by
      rintro rfl
      obtain ⟨c, more, hchars, hword⟩ := EntryText.exists_cons hnext
      have hstops := EntryText.stops_isWord hfits
      rw [hrest, List.nil_append, hchars, List.cons_append, stops_cons, hword] at hstops
      cases hstops
    subst hrest
    refine ⟨entry, (gap, next) :: entries, trail, htrail, ?_, ⟨hgap, hne, hnext, hentries⟩, ?_⟩
    · rw [spaced_cons_append]
      exact hfits
    · rw [spaced_cons_append]

/-- The places of entries that stand behind other text. -/
theorem locate_spacedSlots (keywords : Keywords) (before trail : List Char)
    (entries : List (List Char × EntryText)) :
    (spacedSlots keywords trail entries).map
        (Slot.locate (before ++ (spaced keywords entries ++ trail))) =
      locatedFrom keywords before entries := by
  induction entries generalizing before with
  | nil => rfl
  | cons next entries ih =>
    obtain ⟨gap, entry⟩ := next
    have hfirst : before ++ (spaced keywords ((gap, entry) :: entries) ++ trail) =
        (before ++ gap) ++ (entry.chars keywords ++ (spaced keywords entries ++ trail)) := by
      rw [spaced_cons_append, List.append_assoc]
    have hothers : before ++ (spaced keywords ((gap, entry) :: entries) ++ trail) =
        (before ++ (gap ++ entry.chars keywords)) ++ (spaced keywords entries ++ trail) := by
      rw [hfirst]
      simp only [List.append_assoc]
    rw [spacedSlots, List.map_cons, locatedFrom]
    congr 1
    · rw [hfirst, Slot.locate, textBefore_append]
      rfl
    · rw [hothers]
      exact ih _

/-- The text of a document is read as its entries. -/
theorem DocumentText.Decomposes.readDocument_eq {document : DocumentText} {text : String}
    (h : document.Decomposes keywords text.toList) :
    readDocument keywords text = .ok (document.entries keywords) := by
  have hskip := skipGap_append_chars h.lead h.first
  rw [← h.text_eq] at hskip
  have hread := readEntries_spaced document.lead h.trail h.first h.others
  -- The first entry is located with the white space before it.
  have htext : text.toList = [] ++
      (spaced keywords ((document.lead, document.first) :: document.others) ++
        document.trail) := by
    rw [spaced_cons_append]
    exact h.text_eq
  have hlocate := locate_spacedSlots keywords [] document.trail
    ((document.lead, document.first) :: document.others)
  rw [← htext] at hlocate
  simp only [readDocument, hskip, hread, hlocate]
  rfl

/-- A text that is read has a decomposition. -/
theorem exists_decomposes {text : String} {entries : List Entry}
    (h : readDocument keywords text = .ok entries) :
    ∃ document : DocumentText, document.Decomposes keywords text.toList := by
  simp only [readDocument] at h
  cases hslots : readEntries keywords (skipGap text.toList) with
  | error stuck =>
    rw [hslots] at h
    cases h
  | ok slots =>
    obtain ⟨first, others, trail, htrail, hfirst, hothers, hskip⟩ := exists_spaced hslots
    obtain ⟨lead, hlead, htext⟩ := exists_gap text.toList
    rw [hskip] at htext
    exact ⟨⟨lead, first, others, trail⟩, htext, hlead, hfirst, hothers, htrail⟩

/-- Exactly those texts are read that have a decomposition into entries and white space. A text has
no two decompositions, and it is read as the entries of the one that it has. -/
theorem readDocument_grammar (keywords : Keywords) (text : String) :
    ((∃ entries, readDocument keywords text = .ok entries) ↔
        ∃ document : DocumentText, document.Decomposes keywords text.toList) ∧
      ∀ document : DocumentText, document.Decomposes keywords text.toList →
        readDocument keywords text = .ok (document.entries keywords) ∧
          ∀ other : DocumentText, other.Decomposes keywords text.toList → other = document := by
  refine ⟨⟨?_, ?_⟩, ?_⟩
  · rintro ⟨entries, hread⟩
    exact exists_decomposes hread
  · rintro ⟨document, h⟩
    exact ⟨_, h.readDocument_eq⟩
  · intro document h
    refine ⟨h.readDocument_eq, ?_⟩
    intro other hother
    exact hother.unique h

/-- Of two entries that begin like bindings, with a keyword that is a number and the category `if`,
the first is a rule. -/
theorem readDocument_grammar_numberedKeywords :
    ∃ document : DocumentText,
      document.Decomposes numberedKeywords "7 if a-b then c-d 7 if a-b".toList ∧
        (document.entries numberedKeywords).map Entry.body =
          [.rule "7" [⟨"a", "b"⟩] (some ⟨"c", "d"⟩), .binding .advice "if" "a-b"] := by
  obtain ⟨haccepts, hentries⟩ :=
    readDocument_grammar numberedKeywords "7 if a-b then c-d 7 if a-b"
  have hbodies : ((readDocument numberedKeywords "7 if a-b then c-d 7 if a-b").toOption.map
      (List.map Entry.body)) =
        some [.rule "7" [⟨"a", "b"⟩] (some ⟨"c", "d"⟩), .binding .advice "if" "a-b"] := by
    decide +kernel
  cases hread : readDocument numberedKeywords "7 if a-b then c-d 7 if a-b" with
  | error fault =>
    rw [hread] at hbodies
    cases hbodies
  | ok entries =>
    obtain ⟨document, hdocument⟩ := haccepts.1 ⟨entries, hread⟩
    refine ⟨document, hdocument, ?_⟩
    obtain ⟨hread', -⟩ := hentries document hdocument
    rw [hread'] at hbodies
    exact Option.some.inj hbodies

end RuleConsult
