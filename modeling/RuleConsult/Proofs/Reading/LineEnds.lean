import RuleConsult.Draft
import RuleConsult.Proofs.Reading.Within

/-!
# Line ends

A line may end with a line feed alone, or with a carriage return and a line feed. Between words the
two are skipped alike, and neither of them is a blank or belongs to a word or to the text of a
binding. So if a carriage return is put before every line feed of a text, every form is read and
missed where it was before. Only offsets change, since lines and columns are counted from line
feeds.

* `readEntry_crlf`: entries, and before it every form that they consist of;
* `Location.after_crlf`: lines and columns;
* `readDocument_crlf`, `loadBase_crlf`: documents and the bases that are built of them.
-/

namespace RuleConsult

open Text

/-! ## Carriage returns -/

/-- The text with a carriage return before every line feed. -/
def crlf (text : List Char) : List Char :=
  text.flatMap fun c => if c = '\n' then ['\r', '\n'] else [c]

@[simp]
theorem crlf_nil : crlf [] = [] := rfl

@[simp]
theorem crlf_cons_lineFeed (text : List Char) : crlf ('\n' :: text) = '\r' :: '\n' :: crlf text :=
  rfl

theorem crlf_cons_of_ne {c : Char} (hc : c ≠ '\n') (text : List Char) :
    crlf (c :: text) = c :: crlf text := by
  simp [crlf, hc]

/-- Line ends are lengthened one by one. -/
theorem crlf_append (xs ys : List Char) : crlf (xs ++ ys) = crlf xs ++ crlf ys := by
  simp [crlf]

/-- No text disappears. -/
theorem crlf_eq_nil_iff {text : List Char} : crlf text = [] ↔ text = [] := by
  cases text with
  | nil => simp
  | cons c text =>
    by_cases hc : c = '\n'
    · subst hc
      simp
    · simp [crlf_cons_of_ne hc]

/-- There is one character more for every line feed. -/
theorem length_crlf (text : List Char) : (crlf text).length = text.length + text.count '\n' := by
  induction text with
  | nil => rfl
  | cons c text ih =>
    by_cases hc : c = '\n'
    · subst hc
      simp only [crlf_cons_lineFeed, List.length_cons, ih, List.count_cons_self]
      omega
    · rw [crlf_cons_of_ne hc, List.length_cons, ih, List.length_cons, List.count_cons_of_ne hc]
      omega

/-- A class that holds both characters or neither is skipped alike. -/
theorem dropWhile_crlf {member : Char → Bool} (h : member '\r' = member '\n') (text : List Char) :
    (crlf text).dropWhile member = crlf (text.dropWhile member) := by
  induction text with
  | nil => rfl
  | cons c text ih =>
    by_cases hc : c = '\n'
    · subst hc
      cases hmember : member '\n' with
      | false => simp [h, hmember]
      | true => simp [h, hmember, ih]
    · rw [crlf_cons_of_ne hc, List.dropWhile_cons, List.dropWhile_cons]
      split
      · exact ih
      · rw [crlf_cons_of_ne hc]

/-- A class that holds neither character ends at a line end. -/
theorem takeWhile_crlf {member : Char → Bool} (hreturn : member '\r' = false)
    (hfeed : member '\n' = false) (text : List Char) :
    (crlf text).takeWhile member = text.takeWhile member := by
  induction text with
  | nil => rfl
  | cons c text ih =>
    by_cases hc : c = '\n'
    · subst hc
      simp [hreturn, hfeed]
    · rw [crlf_cons_of_ne hc, List.takeWhile_cons, List.takeWhile_cons, ih]

/-- The longer line ends are white space, too. -/
theorem skipGap_crlf (text : List Char) : skipGap (crlf text) = crlf (skipGap text) :=
  dropWhile_crlf rfl text

theorem isWord_carriageReturn : isWord '\r' = false := isWord_of_isGap rfl

/-! ## Attempts in another text -/

/-- A miss at the corresponding place. -/
def Miss.relocate (move : List Char → List Char) (miss : Miss) : Miss :=
  { miss with rest := move miss.rest }

namespace Attempt

variable {α β : Type}

/-- The attempt with corresponding places. -/
def relocate (move : List Char → List Char) (a : Attempt α) : Attempt α where
  misses := a.misses.map (Miss.relocate move)
  result := a.result.map fun success => (success.1, move success.2)

variable {move : List Char → List Char} {a : Attempt α}

/-- A form that is missed is missed in the other text. -/
theorem result_relocate_of_none (h : a.result = none) : (a.relocate move).result = none := by
  rw [relocate, h]
  rfl

/-- A form that is read leaves what corresponds to what it left. -/
theorem result_relocate_of_some {value : α} {rest : List Char} (h : a.result = some (value, rest)) :
    (a.relocate move).result = some (value, move rest) := by
  rw [relocate, h]
  rfl

/-- Two forms, one behind the other, are read in the other text if the second one is. -/
theorem relocate_andThen {next : α → List Char → Attempt β}
    (hnext : ∀ value rest, a.result = some (value, rest) →
      next value (move rest) = (next value rest).relocate move) :
    (a.relocate move).andThen next = (a.andThen next).relocate move := by
  cases h : a.result with
  | none =>
    rw [andThen_of_none _ h, andThen_of_none _ (result_relocate_of_none h)]
    rfl
  | some success =>
    obtain ⟨value, rest⟩ := success
    rw [andThen_of_some _ h, andThen_of_some _ (result_relocate_of_some h), hnext value rest h]
    simp only [relocate, List.map_append]

/-- Two forms at one place are read in the other text if the second one is. -/
theorem relocate_orElse {other other' : Unit → Attempt α}
    (hother : other' () = (other ()).relocate move) :
    (a.relocate move).orElse other' = (a.orElse other).relocate move := by
  unfold orElse
  cases h : a.result with
  | none =>
    rw [result_relocate_of_none h, hother]
    simp only [relocate, List.map_append]
  | some success =>
    rw [result_relocate_of_some h]
    simp only [relocate, Option.map_some]

end Attempt

/-! ## Forms -/

/-- A run of characters that are no line ends ends where it did. -/
theorem readRun_crlf {member : Char → Bool} (hreturn : member '\r' = false)
    (hfeed : member '\n' = false) (expected : Expected) (text : List Char) :
    readRun member expected (crlf text) = (readRun member expected text).relocate crlf := by
  simp only [readRun, takeWhile_crlf hreturn hfeed, dropWhile_crlf (hreturn.trans hfeed.symm)]
  split <;> rfl

theorem readToken_crlf (expected : Expected) (text : List Char) :
    readToken expected (crlf text) = (readToken expected text).relocate crlf :=
  readRun_crlf isWord_carriageReturn isWord_lineFeed expected text

/-- A word has no line ends in it. -/
theorem dropPrefix?_crlf {word : List Char} (hword : ∀ c ∈ word, isWord c = true)
    (text : List Char) : dropPrefix? word (crlf text) = (dropPrefix? word text).map crlf := by
  induction word generalizing text with
  | nil => simp [dropPrefix?]
  | cons c word ih =>
    obtain ⟨hc, hword⟩ := List.forall_mem_cons.1 hword
    cases text with
    | nil => rfl
    | cons d text =>
      by_cases hd : d = '\n'
      · -- A word character is neither of the two.
        have hreturn : c ≠ '\r' := by
          rintro rfl
          exact absurd hc (by rw [isWord_carriageReturn]; decide)
        have hfeed : c ≠ '\n' := by
          rintro rfl
          exact absurd hc (by rw [isWord_lineFeed]; decide)
        subst hd
        simp [dropPrefix?, hreturn, hfeed]
      · rw [crlf_cons_of_ne hd, dropPrefix?, dropPrefix?]
        split
        · exact ih hword text
        · rfl

/-- A word that goes on goes on, and none is made. -/
theorem startsWord_crlf (text : List Char) : startsWord (crlf text) = startsWord text := by
  cases text with
  | nil => rfl
  | cons c text =>
    by_cases hc : c = '\n'
    · subst hc
      simp [startsWord, isWord_carriageReturn, isWord_lineFeed]
    · rw [crlf_cons_of_ne hc]
      rfl

/-- A keyword is read, or missed, where it was. -/
theorem readKeyword_crlf {word : String} (hword : isToken word = true) (text : List Char) :
    readKeyword word (crlf text) = (readKeyword word text).relocate crlf := by
  unfold readKeyword
  rw [dropPrefix?_crlf (isWord_of_mem_token hword)]
  cases dropPrefix? word.toList text with
  | none => rfl
  | some rest =>
    simp only [Option.map_some, startsWord_crlf]
    split <;> rfl

theorem readHyphen_crlf (text : List Char) :
    readHyphen (crlf text) = (readHyphen text).relocate crlf := by
  cases text with
  | nil => rfl
  | cons c text =>
    by_cases hfeed : c = '\n'
    · subst hfeed
      rfl
    · rw [crlf_cons_of_ne hfeed]
      by_cases hc : c = '-'
      · subst hc
        rfl
      · rw [readHyphen_of_ne hc, readHyphen_of_ne hc, ← crlf_cons_of_ne hfeed]
        rfl

/-- A pair is read, or missed, where it was: there is no white space in it. -/
theorem readPair_crlf (text : List Char) :
    readPair (crlf text) = (readPair text).relocate crlf := by
  unfold readPair
  rw [readToken_crlf]
  refine Attempt.relocate_andThen fun category text _ => ?_
  rw [readHyphen_crlf]
  refine Attempt.relocate_andThen fun _ text _ => ?_
  rw [readToken_crlf]
  exact Attempt.relocate_andThen fun value text _ => rfl

variable (keywords : Keywords)

/-- A keyword after white space. -/
theorem readRole_crlf (role : KeywordRole) (text : List Char) :
    readKeyword (keywords.words.get role) (skipGap (crlf text)) =
      (readKeyword (keywords.words.get role) (skipGap text)).relocate crlf := by
  rw [skipGap_crlf, readKeyword_crlf (keywords.isToken_get role)]

/-- Further conditions, however many. -/
theorem readConditions_crlf (text : List Char) :
    readConditions keywords (crlf text) = (readConditions keywords text).relocate crlf := by
  have hands := readRole_crlf keywords .ruleAnd
  simp only [Vocabulary.get] at hands
  induction text using conjunction_induction keywords with
  | ends text hand =>
    have hand' : (readKeyword keywords.words.ruleAnd (skipGap (crlf text))).result = none := by
      rw [hands, Attempt.result_relocate_of_none hand]
    rw [readConditions_eq_of_none hand, readConditions_eq_of_none hand', hands]
    rfl
  | commits text u afterAnd hand ih =>
    have hand' : (readKeyword keywords.words.ruleAnd (skipGap (crlf text))).result =
        some (u, crlf afterAnd) := by
      rw [hands, Attempt.result_relocate_of_some hand]
    rw [readConditions_eq_of_some hand, readConditions_eq_of_some hand', hands]
    refine Attempt.relocate_andThen fun _ rest htext => ?_
    cases hand.symm.trans htext
    rw [skipGap_crlf, readPair_crlf]
    refine Attempt.relocate_andThen fun condition rest hpair => ?_
    rw [ih condition rest hpair]
    exact Attempt.relocate_andThen fun others rest _ => rfl

/-- A rule, part by part. -/
theorem readRule_crlf (text : List Char) :
    readRule keywords (crlf text) = (readRule keywords text).relocate crlf := by
  have hifs := readRole_crlf keywords .ruleIf
  have hthens := readRole_crlf keywords .ruleThen
  simp only [Vocabulary.get] at hifs hthens
  unfold readRule
  rw [readRun_crlf rfl rfl]
  refine Attempt.relocate_andThen fun number text _ => ?_
  rw [hifs]
  refine Attempt.relocate_andThen fun _ text _ => ?_
  rw [skipGap_crlf, readPair_crlf]
  refine Attempt.relocate_andThen fun first text _ => ?_
  rw [readConditions_crlf]
  refine Attempt.relocate_andThen fun others text _ => ?_
  rw [hthens]
  refine Attempt.relocate_andThen fun _ text _ => ?_
  rw [skipGap_crlf, readPair_crlf]
  exact Attempt.relocate_andThen fun conclusion text _ => rfl

/-- A binding, whose text ends at the end of the line. -/
theorem readBinding_crlf (kind : BindingKind) (text : List Char) :
    readBinding keywords kind (crlf text) = (readBinding keywords kind text).relocate crlf := by
  have hreturn : isFreeText '\r' = false := by decide +kernel
  have hfeed : isFreeText '\n' = false := isFreeText_lineFeed
  unfold readBinding
  rw [readKeyword_crlf (kind.isToken_word keywords)]
  refine Attempt.relocate_andThen fun _ text _ => ?_
  rw [skipGap_crlf, readToken_crlf]
  refine Attempt.relocate_andThen fun category text _ => ?_
  simp only [skipBlank, dropWhile_crlf (rfl : isBlank '\r' = isBlank '\n'),
    takeWhile_crlf hreturn hfeed, dropWhile_crlf (hreturn.trans hfeed.symm)]
  rfl

/-- Every entry, whichever form it has. -/
theorem readEntry_crlf (text : List Char) :
    readEntry keywords (crlf text) = (readEntry keywords text).relocate crlf := by
  unfold readEntry
  rw [readRule_crlf]
  refine Attempt.relocate_orElse ?_
  rw [readBinding_crlf]
  refine Attempt.relocate_orElse ?_
  rw [readBinding_crlf]
  exact Attempt.relocate_orElse (readBinding_crlf keywords .tip text)

/-! ## Sequences of entries -/

/-- All entries are found where they were, or reading gets stuck where it did. -/
theorem readEntries_crlf (text : List Char) :
    readEntries keywords (crlf text) =
      match readEntries keywords text with
      | .ok slots => .ok (slots.map fun slot => ⟨crlf slot.start, slot.body⟩)
      | .error stuck => .error ⟨crlf stuck.start, stuck.misses.map (Miss.relocate crlf)⟩ := by
  induction text using entries_induction keywords with
  | fails text hread =>
    have hread' := (congrArg Attempt.result (readEntry_crlf keywords text)).trans
      (Attempt.result_relocate_of_none hread)
    -- What was missed is what was missed before, at the places that correspond.
    rw [readEntries_of_none hread, readEntries_of_none hread', readEntry_crlf]
    rfl
  | last text body rest hread hrest =>
    have hread' := (congrArg Attempt.result (readEntry_crlf keywords text)).trans
      (Attempt.result_relocate_of_some hread)
    have hrest' : skipGap (crlf rest) = [] := by
      rw [skipGap_crlf, hrest, crlf_nil]
    rw [readEntries_of_last hread hrest, readEntries_of_last hread' hrest']
    rfl
  | more text body rest hread hrest ih =>
    have hread' := (congrArg Attempt.result (readEntry_crlf keywords text)).trans
      (Attempt.result_relocate_of_some hread)
    have hrest' : skipGap (crlf rest) ≠ [] := by
      rw [skipGap_crlf]
      exact fun hnil => hrest (crlf_eq_nil_iff.1 hnil)
    rw [readEntries_of_more hread hrest, readEntries_of_more hread' hrest', skipGap_crlf, ih]
    cases readEntries keywords (skipGap rest) <;> rfl

/-! ## Places -/

/-- Of two places of a text, the further one is further with carriage returns, too. -/
theorem length_crlf_lt_iff {text xs ys : List Char} (hxs : xs <:+ text) (hys : ys <:+ text) :
    (crlf xs).length < (crlf ys).length ↔ xs.length < ys.length := by
  rw [length_crlf, length_crlf]
  -- One of them lies before the other, with some characters and line feeds in between.
  rcases List.suffix_or_suffix_of_suffix hxs hys with ⟨before, rfl⟩ | ⟨before, rfl⟩
  all_goals
    have hcount : before.count '\n' ≤ before.length := List.count_le_length
    rw [List.length_append, List.count_append]
    omega

/-- Of several places the furthest stays the furthest. -/
theorem furthest_crlf {text start : List Char} {misses : List Miss} (hstart : start <:+ text)
    (hmisses : ∀ miss ∈ misses, miss.rest <:+ text) :
    furthest (crlf start) (misses.map (Miss.relocate crlf)) = crlf (furthest start misses) := by
  induction misses generalizing start with
  | nil => rfl
  | cons miss misses ih =>
    obtain ⟨hmiss, hmisses⟩ := List.forall_mem_cons.1 hmisses
    rw [List.map_cons, furthest_cons, furthest_cons]
    simp only [Miss.relocate, length_crlf_lt_iff hmiss hstart]
    split
    · exact ih hmiss hmisses
    · exact ih hstart hmisses

/-- What is missed at a place stays the same. -/
theorem expectedAt_crlf {text rest : List Char} {misses : List Miss} (hrest : rest <:+ text)
    (hmisses : ∀ miss ∈ misses, miss.rest <:+ text) :
    expectedAt (crlf rest) (misses.map (Miss.relocate crlf)) = expectedAt rest misses := by
  have hsame : ∀ miss ∈ misses,
      ((crlf miss.rest).length == (crlf rest).length) = (miss.rest.length == rest.length) := by
    intro miss hmiss
    -- Neither is further than the other, in one text exactly if in the other one.
    have hlt := length_crlf_lt_iff (hmisses miss hmiss) hrest
    have hgt := length_crlf_lt_iff hrest (hmisses miss hmiss)
    rw [Bool.eq_iff_iff, beq_iff_eq, beq_iff_eq]
    omega
  rw [expectedAt, expectedAt, List.filter_map, List.map_map]
  congr 2
  exact List.filter_congr hsame

/-- The text before a place. -/
theorem textBefore_crlf {text rest : List Char} (h : rest <:+ text) :
    textBefore (crlf text) (crlf rest) = crlf (textBefore text rest) := by
  obtain ⟨before, rfl⟩ := h
  rw [crlf_append, textBefore_append, textBefore_append]

/-- What precedes a place in its line has no line feed, so no carriage return is put there. -/
theorem takeWhile_reverse_crlf (before : List Char) :
    (crlf before).reverse.takeWhile (· != '\n') = before.reverse.takeWhile (· != '\n') := by
  induction before using List.reverseRecOn with
  | nil => rfl
  | append_singleton before c ih =>
    rw [crlf_append]
    by_cases hc : c = '\n'
    · subst hc
      simp
    · simp [crlf_cons_of_ne hc, hc, ih]

/-- Lines and columns are the same. -/
theorem Location.after_crlf (before : List Char) :
    Location.after (crlf before) =
      { Location.after before with offset := (crlf before).length } := by
  have hcount : (crlf before).count '\n' = before.count '\n' := by
    induction before with
    | nil => rfl
    | cons c before ih =>
      by_cases hc : c = '\n'
      · subst hc
        simp [ih]
      · rw [crlf_cons_of_ne hc, List.count_cons_of_ne hc, List.count_cons_of_ne hc, ih]
  simp only [Location.after, hcount, takeWhile_reverse_crlf]

/-! ## Documents -/

/-- The entry without its offset. -/
def Entry.withoutOffset (entry : Entry) : Entry := { entry with offset := 0 }

/-- Two faults in the same line and column that expect the same there. -/
structure ReadFault.Alike (a b : ReadFault) : Prop where
  line : a.location.line = b.location.line
  column : a.location.column = b.location.column
  expected : a.expected = b.expected

/-- Two faults that are equal, or alike if their texts are no documents. -/
def LoadFault.Alike : LoadFault → LoadFault → Prop
  | .unreadable a, .unreadable b => a.Alike b
  | a, b => a = b

/-- The text with a carriage return before every line feed. -/
def withCarriageReturns (text : String) : String :=
  String.ofList (crlf text.toList)

/-- An entry is at the same line and column. -/
theorem Slot.locate_crlf {text : List Char} {slot : Slot} (h : slot.start <:+ text) :
    (Slot.locate (crlf text) ⟨crlf slot.start, slot.body⟩).withoutOffset =
      (slot.locate text).withoutOffset := by
  simp only [locate, textBefore_crlf h, Location.after_crlf, Entry.withoutOffset]

/-- A fault is reported alike but for its offset. -/
theorem ReadFault.alike_ofMisses_crlf {text start : List Char} {misses : List Miss}
    (hstart : start <:+ text) (hmisses : ∀ miss ∈ misses, miss.rest <:+ text) :
    (ReadFault.ofMisses text start misses).Alike
      (ReadFault.ofMisses (crlf text) (crlf start) (misses.map (Miss.relocate crlf))) := by
  have hrest := furthest_suffix hstart hmisses
  constructor
  all_goals
    simp only [ofMisses, furthest_crlf hstart hmisses, textBefore_crlf hrest, Location.after_crlf,
      expectedAt_crlf hrest hmisses]

/-- With carriage returns a text is read as the same entries, except for their offsets, or refused
in the same line and column for want of the same things. -/
theorem readDocument_crlf (text : String) :
    match readDocument keywords text, readDocument keywords (withCarriageReturns text) with
    | .ok entries, .ok entries' =>
      entries'.map Entry.withoutOffset = entries.map Entry.withoutOffset
    | .error fault, .error fault' => fault.Alike fault'
    | _, _ => False := by
  have hwithin := suffix_of_readEntries keywords (skipGap text.toList)
  have hgap := skipGap_suffix text.toList
  simp only [readDocument, withCarriageReturns, String.toList_ofList, skipGap_crlf,
    readEntries_crlf]
  cases hread : readEntries keywords (skipGap text.toList) with
  | error stuck =>
    rw [hread] at hwithin
    obtain ⟨hstart, hmisses⟩ := hwithin
    exact ReadFault.alike_ofMisses_crlf (hstart.trans hgap) fun miss hmiss =>
      (hmisses miss hmiss).trans (hstart.trans hgap)
  | ok slots =>
    rw [hread] at hwithin
    simp only [List.map_map]
    exact List.map_congr_left fun slot hslot =>
      Slot.locate_crlf ((hwithin slot hslot).trans hgap)

/-- Building a base makes no use of offsets. -/
theorem build_withoutOffset (entries : List Entry) :
    build (entries.map Entry.withoutOffset) = build entries := by
  have hadd : ∀ (draft : Draft) (entry : Entry), draft.add entry.withoutOffset = draft.add entry :=
    fun _ _ => rfl
  simp only [build, Draft.ofEntries, List.foldlM_map, hadd]

/-- With carriage returns the same base is built of a text, or it is refused for the same issues, or
as a document in the same place. -/
theorem loadBase_crlf (text : String) :
    match loadBase keywords text, loadBase keywords (withCarriageReturns text) with
    | .ok base, .ok base' => base' = base
    | .error fault, .error fault' => fault.Alike fault'
    | _, _ => False := by
  have hread := readDocument_crlf keywords text
  unfold loadBase
  cases h : readDocument keywords text with
  | error fault =>
    cases h' : readDocument keywords (withCarriageReturns text) with
    | error fault' =>
      rw [h, h'] at hread
      exact hread
    | ok entries' =>
      rw [h, h'] at hread
      exact hread.elim
  | ok entries =>
    cases h' : readDocument keywords (withCarriageReturns text) with
    | error fault' =>
      rw [h, h'] at hread
      exact hread.elim
    | ok entries' =>
      rw [h, h'] at hread
      -- What is built depends on what both lists of entries agree in.
      have hbuild : build entries' = build entries := by
        rw [← build_withoutOffset entries', hread, build_withoutOffset]
      simp only [hbuild]
      cases build entries with
      | error fault => rfl
      | ok outcome =>
        obtain ⟨base?, issues, notices⟩ := outcome
        cases base? <;> rfl

/-- It makes no difference to a document, and to the base that is built of it, whether its lines end
with line feeds alone or with a carriage return before each of them. -/
theorem withCarriageReturns_alike (text : String) :
    (match readDocument keywords text, readDocument keywords (withCarriageReturns text) with
      | .ok entries, .ok entries' =>
        entries'.map Entry.withoutOffset = entries.map Entry.withoutOffset
      | .error fault, .error fault' => fault.Alike fault'
      | _, _ => False) ∧
    match loadBase keywords text, loadBase keywords (withCarriageReturns text) with
    | .ok base, .ok base' => base' = base
    | .error fault, .error fault' => fault.Alike fault'
    | _, _ => False :=
  ⟨readDocument_crlf keywords text, loadBase_crlf keywords text⟩

/-- A rule over two lines, with a condition that lacks its value at the end of a line. -/
example :
    readDocument .standard "1 если a-b\nи c\nто d-e" =
        .error ⟨⟨14, 2, 4⟩, 19, [.hyphen], ""⟩ ∧
      readDocument .standard (withCarriageReturns "1 если a-b\nи c\nто d-e") =
        .error ⟨⟨15, 2, 4⟩, 20, [.hyphen], "\r"⟩ := by
  decide +kernel

end RuleConsult
