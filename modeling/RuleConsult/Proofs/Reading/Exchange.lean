import RuleConsult.Proofs.Reading.Accepted

/-!
# What stands behind an entry

An entry depends on what stands behind it only in that it ends there. So this text may be exchanged
for any other one that begins with the same character or with a line feed, and it may be dropped.

Bindings need more than that, since they are bindings only where no rule begins. A text that is
dropped does not make a rule of one. A text that is put in may do so if a keyword of bindings begins
like a number, and such keywords are excluded.

* `RuleText.Fits.exchange`, `BindingText.Fits.exchange`: the two forms of entries;
* `readEntry_exchange`: an entry that is read in front of a text is read in front of another one;
* `readEntry_alone`: it is read at the end of a text, too.
-/

namespace RuleConsult

open Text

/-! ## Beginnings -/

theorem stops_append_congr {member : Char → Bool} {xs ys ys' : List Char}
    (h : Stops member (xs ++ ys)) (hys : Stops member ys') : Stops member (xs ++ ys') := by
  cases xs with
  | nil => exact hys
  | cons c xs => simpa using h

/-- The text begins with the same character as another one or with a line feed, or it is empty. -/
def BeginsLike (text other : List Char) : Prop :=
  ∀ c ∈ text.head?, c ∈ other.head? ∨ c = '\n'

namespace BeginsLike

variable {text other : List Char}

theorem nil (other : List Char) : BeginsLike [] other := by
  simp [BeginsLike]

theorem lineFeed (text other : List Char) : BeginsLike ('\n' :: text) other := by
  simp [BeginsLike]

/-- Texts with the same beginning begin alike. -/
theorem of_ne_nil {xs : List Char} (hne : xs ≠ []) (text other : List Char) :
    BeginsLike (xs ++ text) (xs ++ other) := by
  cases xs with
  | nil => exact absurd rfl hne
  | cons c xs => simp [BeginsLike]

theorem append_left (h : BeginsLike text other) (xs : List Char) :
    BeginsLike (xs ++ text) (xs ++ other) := by
  by_cases hne : xs = []
  · subst hne
    exact h
  · exact of_ne_nil hne text other

/-- A text with more behind it begins like the text alone, if a line feed comes between them. -/
theorem append_lineFeed (text tail : List Char) : BeginsLike (text ++ '\n' :: tail) text := by
  cases text with
  | nil => exact lineFeed tail []
  | cons c text => simp [BeginsLike]

/-- A class without the line feed stops where it stopped before. -/
theorem stops {member : Char → Bool} (h : BeginsLike text other)
    (hmember : member '\n' = false) (hstops : Stops member other) : Stops member text := by
  intro c hc
  rcases h c hc with hother | rfl
  · exact hstops c hother
  · exact hmember

end BeginsLike

variable {keywords : Keywords} {rest rest' : List Char}

/-! ## Rules -/

/-- A clause fits before any text that ends its last word as well. -/
theorem Clause.Fits.exchange {clause : Clause} (h : clause.Fits rest)
    (hrest : Stops isWord rest') : clause.Fits rest' :=
  { h with value := hrest }

/-- Conjuncts fit before any text that ends their last word as well. -/
theorem ConjunctsFit.exchange {clauses : List Clause} (h : ConjunctsFit keywords clauses rest)
    (hrest : Stops isWord rest') : ConjunctsFit keywords clauses rest' := by
  induction clauses with
  | nil => trivial
  | cons clause clauses ih =>
    obtain ⟨hne, hclause, hclauses⟩ := h
    exact ⟨hne, hclause.exchange (stops_append_congr hclause.value hrest), ih hclauses⟩

/-- A rule ends with the value of its conclusion, in front of whatever ends that value. -/
theorem RuleText.Fits.exchange {rule : RuleText} (h : rule.Fits keywords rest)
    (hrest : Stops isWord rest') : rule.Fits keywords rest' := by
  have hlast : rule.conclusion.Fits rest' := h.conclusion.exchange hrest
  have hbehind : Stops isWord (rule.behind keywords ++ rest') :=
    stops_append_congr h.first.value hrest
  have hdigits : Stops isNumberDigit (rule.behind keywords ++ rest') :=
    hbehind.mono fun _ => isWord_of_isNumberDigit
  exact {
    number := ⟨h.number.all, stops_append_congr h.number.stops hdigits⟩
    number_ne := h.number_ne
    first := h.first.exchange hbehind
    others := h.others.exchange (Clause.stops_isWord hlast h.conclusion_ne _ _)
    conclusion := hlast
    conclusion_ne := h.conclusion_ne }

/-! ## Bindings -/

/-- Behind a binding its category, the blanks and its text end as before. -/
theorem BindingText.Fits.exchange {binding : BindingText} (h : binding.Fits rest)
    (hrest : BeginsLike rest' rest) : binding.Fits rest' where
  gap := h.gap
  gap_ne := h.gap_ne
  category := h.category
  category_stops :=
    ((hrest.append_left binding.text).append_left binding.blanks).stops isWord_lineFeed
      h.category_stops
  blanks := ⟨h.blanks.all, (hrest.append_left binding.text).stops rfl h.blanks.stops⟩
  text := ⟨h.text.all, hrest.stops isFreeText_lineFeed h.text.stops⟩

/-- No keyword of bindings begins like the number of a rule. -/
def Keywords.IsUnnumbered (keywords : Keywords) : Prop :=
  ∀ kind : BindingKind, Stops isNumberDigit (kind.word keywords).toList

/-- The standard keywords begin with letters. -/
theorem Keywords.isUnnumbered_standard : Keywords.standard.IsUnnumbered := by
  intro kind c hc
  have hfirst : ((kind.word .standard).toList.head?.all fun c => !isNumberDigit c) = true := by
    cases kind <;> decide +kernel
  rw [Option.mem_def.1 hc] at hfirst
  simpa using hfirst

/-- No run is read where the text begins with no member of it. -/
theorem readRun_of_stops {member : Char → Bool} (expected : Expected) {text : List Char}
    (h : Stops member text) : (readRun member expected text).result = none := by
  rw [result_readRun, takeWhile_eq_nil h, if_pos rfl]

/-- Where no digit stands there is no rule. -/
theorem readRule_of_stops {text : List Char} (h : Stops isNumberDigit text) :
    (readRule keywords text).result = none := by
  rw [result_readRule, readRun_of_stops _ h]
  rfl

/-- With such keywords no digit stands where the keyword of a binding stands. -/
theorem Keywords.IsUnnumbered.stops_word (hkeywords : keywords.IsUnnumbered) (kind : BindingKind)
    (text : List Char) : Stops isNumberDigit ((kind.word keywords).toList ++ text) :=
  (stops_append_iff (toList_ne_nil_of_token (kind.isToken_word keywords)) text).2 (hkeywords kind)

/-! ## Entries -/

/-- An entry fits before any text that begins like the one behind it. -/
theorem EntryText.Fits.exchange (hkeywords : keywords.IsUnnumbered) {entry : EntryText}
    (h : entry.Fits keywords rest) (hrest : BeginsLike rest' rest) :
    entry.Fits keywords rest' := by
  cases entry with
  | rule parts =>
    have hfits : parts.Fits keywords rest := h
    exact hfits.exchange (hrest.stops isWord_lineFeed hfits.conclusion.value)
  | binding parts =>
    refine ⟨h.1.exchange hrest, ?_⟩
    apply readRule_eq_none_iff.1
    rw [parts.chars_append]
    exact readRule_of_stops (hkeywords.stops_word parts.kind _)

/-- What stands behind an entry may be dropped. -/
theorem EntryText.Fits.alone {entry : EntryText} (h : entry.Fits keywords rest) :
    entry.Fits keywords [] := by
  cases entry with
  | rule parts =>
    have hfits : parts.Fits keywords rest := h
    exact hfits.exchange (stops_nil isWord)
  | binding parts =>
    refine ⟨h.1.exchange (.nil rest), fun other behind hother heq => ?_⟩
    -- A rule that begins there would also begin with the dropped text behind it.
    have hword : Stops isWord rest := EntryText.stops_isWord h
    have hlonger := hother.exchange (stops_append hother.conclusion.value hword)
    refine h.2 other (behind ++ rest) hlonger ?_
    rw [← List.append_assoc, heq, List.append_nil]

/-- The text of an entry that was read. -/
theorem exists_entry_of_append {used : List Char} {body : EntryBody}
    (h : (readEntry keywords (used ++ rest)).result = some (body, rest)) :
    ∃ entry : EntryText, entry.Fits keywords rest ∧ entry.body = body ∧
      used = entry.chars keywords := by
  obtain ⟨entry, hfits, hbody, htext⟩ := exists_entry h
  exact ⟨entry, hfits, hbody, List.append_cancel_right htext⟩

/-- What stands behind an entry may be exchanged for a text that begins like it. -/
theorem readEntry_exchange (hkeywords : keywords.IsUnnumbered) {used : List Char}
    {body : EntryBody} (h : (readEntry keywords (used ++ rest)).result = some (body, rest))
    (hrest : BeginsLike rest' rest) :
    (readEntry keywords (used ++ rest')).result = some (body, rest') := by
  obtain ⟨entry, hfits, rfl, rfl⟩ := exists_entry_of_append h
  exact readEntry_chars (hfits.exchange hkeywords hrest)

/-- An entry is read as the same entry if nothing stands behind it. -/
theorem readEntry_alone {used : List Char} {body : EntryBody}
    (h : (readEntry keywords (used ++ rest)).result = some (body, rest)) :
    (readEntry keywords used).result = some (body, []) := by
  obtain ⟨entry, hfits, rfl, rfl⟩ := exists_entry_of_append h
  have := readEntry_chars hfits.alone
  rwa [List.append_nil] at this

end RuleConsult
