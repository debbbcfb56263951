import RuleConsult.Proofs.Draft.WellWritten
import RuleConsult.Report

/-!
# Rule numbers that are too long

A text that holds no base is meant to be refused in one of two ways: it cannot be read, or its
entries are inconsistent. There is a third one. The number of a rule is written in ASCII digits
wherever it was read from a text, so it is always a numeral; but numerals of more than
`maxNumeralDigits` digits are not converted, and leading zeros count. The first rule with such a
number breaks off the building of the base, whatever else is wrong with the text, and it breaks off
validation just as well, which then gives no report at all.

* `Entry.numeralFault?`: what an entry breaks off the building with;
* `build_eq_error_iff` and `loadBase_eq_numeral_iff`: building and loading break off with the first
  such fault;
* `numeralFault?_of_readDocument`: for entries that were read, it is about the length alone;
* `load_refuses_unless_tooLong`: every other text is loaded, refused as unreadable, or refused as
  inconsistent, and validation reports on it.
-/

namespace RuleConsult

open Text

/-! ## Breaking off -/

namespace Entry

/-- The number of a rule as the entry writes it. -/
def numeral? (entry : Entry) : Option String :=
  match entry.body with
  | .rule number _ _ => some number
  | .binding .. => none

/-- Why the number of the entry's rule is not converted. -/
def numeralFault? (entry : Entry) : Option NumeralFault :=
  entry.numeral?.bind fun number =>
    match ruleNumber number with
    | .error fault => some fault
    | .ok _ => none

end Entry

namespace Draft

/-- Declaring an entry breaks off exactly if its number is not converted. -/
theorem add_eq_error_iff {draft : Draft} {entry : Entry} {fault : NumeralFault} :
    draft.add entry = .error fault ↔ entry.numeralFault? = some fault := by
  unfold add Entry.numeralFault? Entry.numeral?
  cases entry.body with
  | binding kind category text => simp
  | rule number conditions conclusion? =>
    simp only [Option.bind_some]
    cases hnumber : ruleNumber number with
    | error found =>
      rw [addRule, hnumber]
      simp [Bind.bind, Except.bind]
    | ok id? =>
      rw [addRule_of_ruleNumber draft _ _ _ hnumber]
      -- A number that is converted leads to a draft, be it missing, taken or new.
      cases id? with
      | none => simp
      | some id =>
        dsimp only
        split <;> simp

/-- Declaring entries breaks off with the first fault of any of them. -/
theorem foldlM_add_eq_error_iff {draft : Draft} {entries : List Entry} {fault : NumeralFault} :
    entries.foldlM add draft = .error fault ↔
      entries.findSome? Entry.numeralFault? = some fault := by
  induction entries generalizing draft with
  | nil => simp [pure, Except.pure]
  | cons entry entries ih =>
    rw [List.foldlM_cons, List.findSome?_cons]
    cases hadd : draft.add entry with
    | error found =>
      rw [add_eq_error_iff.1 hadd]
      simp [Bind.bind, Except.bind]
    | ok next =>
      have hnone : entry.numeralFault? = none := by
        rw [Option.eq_none_iff_forall_ne_some]
        intro found hfound
        rw [add_eq_error_iff.2 hfound] at hadd
        cases hadd
      rw [hnone]
      exact ih

end Draft

/-- Building breaks off with the first fault of any entry. -/
theorem build_eq_error_iff {entries : List Entry} {fault : NumeralFault} :
    build entries = .error fault ↔ entries.findSome? Entry.numeralFault? = some fault := by
  rw [← @Draft.foldlM_add_eq_error_iff Draft.empty, build, Draft.ofEntries]
  cases entries.foldlM Draft.add Draft.empty with
  | error found => simp [Bind.bind, Except.bind]
  | ok draft =>
    -- A draft is always turned into an outcome, with a base or with issues.
    simp only [Bind.bind, Except.bind, pure, Except.pure, reduceCtorEq, iff_false]
    split <;> simp

variable {keywords : Keywords} {text source : String} {fault : NumeralFault}

/-- Loading breaks off in the building of what was read. -/
theorem loadBase_eq_numeral_iff :
    loadBase keywords text = .error (.numeral fault) ↔
      ∃ entries, readDocument keywords text = .ok entries ∧ build entries = .error fault := by
  unfold loadBase
  cases readDocument keywords text with
  | error unreadable => simp
  | ok entries =>
    simp only [Except.ok.injEq, exists_eq_left']
    split
    all_goals
      rename_i hbuild
      simp [hbuild]

/-- Validation breaks off where loading does, and with the same fault. -/
theorem validateText_eq_error_iff :
    validateText keywords text source = .error fault ↔
      loadBase keywords text = .error (.numeral fault) := by
  rw [loadBase_eq_numeral_iff, validateText]
  cases readDocument keywords text with
  | error unreadable => simp
  | ok entries =>
    simp only [Except.ok.injEq, exists_eq_left']
    cases build entries <;> simp [Bind.bind, Except.bind, pure, Except.pure]

/-! ## Numbers that were read -/

/-- The number of the entry's rule, if it has more digits than are converted. -/
def Entry.longNumeral? (entry : Entry) : Option String :=
  entry.numeral?.filter fun number => maxNumeralDigits < number.length

/-- The first rule number in a text that has more digits than are converted. -/
def firstLongNumeral? (keywords : Keywords) (text : String) : Option String :=
  match readDocument keywords text with
  | .ok entries => entries.findSome? Entry.longNumeral?
  | .error _ => none

/-- Rule numbers are read as ASCII digits. -/
theorem isDigit_of_readDocument {entries : List Entry} {entry : Entry} {number : String}
    (h : readDocument keywords text = .ok entries) (hentry : entry ∈ entries)
    (hnumber : entry.numeral? = some number) :
    number.toList ≠ [] ∧ ∀ c ∈ number.toList, c.isDigit = true := by
  have hwritten := isWellWritten_of_readDocument h entry hentry
  obtain ⟨offset, line, column, body⟩ := entry
  cases hwritten with
  | rule number_ne digits =>
    cases hnumber
    exact ⟨number_ne, digits⟩
  | binding => cases hnumber

/-- ASCII digits are a rule number unless there are too many of them. -/
theorem ruleNumber_of_isDigit {number : String} (hne : number.toList ≠ [])
    (hall : ∀ c ∈ number.toList, c.isDigit = true) :
    ∃ n : Nat, ruleNumber number =
      if maxNumeralDigits < number.length then .error (.tooLong number.length)
      else .ok (some n) := by
  refine ⟨ofDecimals (number.toList.map fun c => c.toNat - 48), ?_⟩
  rw [ruleNumber, if_pos (isDigits_of_isDigit hne hall), readNumeral_of_isDigit hne hall]
  split <;> rfl

/-- What was read is not converted only if it is too long. -/
theorem numeralFault?_of_readDocument {entries : List Entry}
    (h : readDocument keywords text = .ok entries) :
    ∀ entry ∈ entries, entry.numeralFault? =
      entry.longNumeral?.map fun number => .tooLong number.length := by
  intro entry hentry
  unfold Entry.numeralFault? Entry.longNumeral?
  cases hnumeral : entry.numeral? with
  | none => rfl
  | some number =>
    obtain ⟨hne, hall⟩ := isDigit_of_readDocument h hentry hnumeral
    obtain ⟨n, hnumber⟩ := ruleNumber_of_isDigit hne hall
    rw [Option.bind_some, hnumber]
    by_cases hlong : maxNumeralDigits < number.length
    · simp [hlong]
    · simp [hlong, Nat.le_of_not_lt hlong]

/-- Loading breaks off exactly if some rule number is too long, and tells the length of the first
such number. -/
theorem loadBase_eq_tooLong_iff :
    loadBase keywords text = .error (.numeral fault) ↔
      ∃ number, firstLongNumeral? keywords text = some number ∧ .tooLong number.length = fault := by
  rw [loadBase_eq_numeral_iff, firstLongNumeral?, ← Option.map_eq_some_iff]
  cases hread : readDocument keywords text with
  | error unreadable => simp
  | ok entries =>
    simp only [Except.ok.injEq, exists_eq_left']
    rw [build_eq_error_iff, List.map_findSome?, ← List.head?_filterMap, ← List.head?_filterMap,
      List.filterMap_congr (numeralFault?_of_readDocument hread)]
    rfl

/-- A text without a rule number that is too long is loaded or refused as unreadable or
inconsistent, and there is a report on it. The first number that is too long breaks off both loading
and validation. -/
theorem load_refuses_unless_tooLong (keywords : Keywords) (text source : String) :
    (firstLongNumeral? keywords text = none →
      ((∃ base, loadBase keywords text = .ok base) ∨
        (∃ fault, loadBase keywords text = .error (.unreadable fault)) ∨
        ∃ issues, loadBase keywords text = .error (.inconsistent issues)) ∧
      ∃ report, validateText keywords text source = .ok report) ∧
    ∀ number, firstLongNumeral? keywords text = some number →
      loadBase keywords text = .error (.numeral (.tooLong number.length)) ∧
        validateText keywords text source = .error (.tooLong number.length) := by
  constructor
  · intro hnone
    -- A number is the only thing besides the declared faults that can break off.
    have hnumeral : ∀ fault, loadBase keywords text ≠ .error (.numeral fault) := by
      intro fault hload
      obtain ⟨number, hsome, -⟩ := loadBase_eq_tooLong_iff.1 hload
      rw [hnone] at hsome
      cases hsome
    constructor
    · cases hload : loadBase keywords text with
      | ok base => exact Or.inl ⟨base, rfl⟩
      | error refusal =>
        right
        cases refusal with
        | unreadable fault => exact Or.inl ⟨fault, rfl⟩
        | inconsistent issues => exact Or.inr ⟨issues, rfl⟩
        | numeral fault => exact absurd hload (hnumeral fault)
    · cases hreport : validateText keywords text source with
      | ok report => exact ⟨report, rfl⟩
      | error fault => exact absurd (validateText_eq_error_iff.1 hreport) (hnumeral fault)
  · intro number hsome
    have hload := loadBase_eq_tooLong_iff.2 ⟨number, hsome, rfl⟩
    exact ⟨hload, validateText_eq_error_iff.2 hload⟩

/-! ## A number with leading zeros -/

/-- A pair with blanks around the keyword before it. -/
def blankClause (pair : Pair) : Clause := ⟨[' '], [' '], pair⟩

theorem fits_blankClause {pair : Pair} {rest : List Char} (hpair : pair.IsTokens)
    (hrest : Stops isWord rest) : (blankClause pair).Fits rest := by
  have hblank : IsGap [' '] := by
    intro c hc
    rw [List.mem_singleton.1 hc]
    rfl
  exact ⟨hblank, hblank, List.cons_ne_nil _ _, hpair, hrest⟩

/-- A rule with the number one behind some zeros. -/
def paddedRule (zeros : Nat) : RuleText where
  number := String.ofList (List.replicate zeros '0' ++ ['1'])
  first := blankClause ⟨"a", "b"⟩
  others := []
  conclusion := blankClause ⟨"c", "d"⟩

/-- The document of that rule alone. -/
def paddedDocument (zeros : Nat) : DocumentText := ⟨[], .rule (paddedRule zeros), [], []⟩

/-- The text of that document. -/
def paddedText (zeros : Nat) : String :=
  String.ofList ((paddedRule zeros).chars .standard)

theorem fits_paddedRule (zeros : Nat) : (paddedRule zeros).Fits .standard [] where
  number := by
    refine ⟨fun c hc => ?_, stops_cons.2 rfl⟩
    rw [paddedRule, String.toList_ofList, List.mem_append, List.mem_replicate,
      List.mem_singleton] at hc
    rcases hc with ⟨-, rfl⟩ | rfl <;> decide
  number_ne := by simp [paddedRule]
  first := fits_blankClause ⟨by decide +kernel, by decide +kernel⟩ (stops_isWord_space _)
  others := trivial
  conclusion := fits_blankClause ⟨by decide +kernel, by decide +kernel⟩ (stops_nil _)
  conclusion_ne := List.cons_ne_nil _ _

theorem readDocument_paddedText (zeros : Nat) :
    readDocument .standard (paddedText zeros) = .ok [⟨0, 1, 1, (paddedRule zeros).body⟩] := by
  have hdecomposes : (paddedDocument zeros).Decomposes .standard (paddedText zeros).toList := by
    refine ⟨?_, nofun, fits_paddedRule zeros, trivial, nofun⟩
    simp [paddedText, paddedDocument, EntryText.chars, spaced]
  exact hdecomposes.readDocument_eq

example : paddedText 2 = "001 если a-b то c-d" := by decide +kernel

theorem firstLongNumeral?_paddedText (zeros : Nat) :
    firstLongNumeral? .standard (paddedText zeros) =
      if maxNumeralDigits ≤ zeros then some (paddedRule zeros).number else none := by
  have hlong : maxNumeralDigits < (paddedRule zeros).number.length ↔ maxNumeralDigits ≤ zeros := by
    rw [paddedRule, ← String.length_toList, String.toList_ofList, List.length_append,
      List.length_replicate, List.length_singleton]
    exact Nat.lt_succ_iff
  rw [firstLongNumeral?, readDocument_paddedText]
  simp only [List.findSome?_singleton, Entry.longNumeral?, Entry.numeral?, RuleText.body,
    Option.filter_some, decide_eq_true_eq, hlong]

/-- The text is loaded, or refused in one of the two ways, with as many zeros as fit before the one,
and breaks off loading and validation with one more. -/
theorem load_refuses_unless_tooLong_paddedText :
    (firstLongNumeral? .standard (paddedText 4299) = none ∧
      ∃ report, validateText .standard (paddedText 4299) "" = .ok report) ∧
    ∃ number, firstLongNumeral? .standard (paddedText 4300) = some number ∧
      loadBase .standard (paddedText 4300) = .error (.numeral (.tooLong number.length)) := by
  have hfits : firstLongNumeral? .standard (paddedText 4299) = none :=
    (firstLongNumeral?_paddedText 4299).trans (if_neg (by decide))
  have hlong := (firstLongNumeral?_paddedText 4300).trans (if_pos (by decide))
  have hreports := (load_refuses_unless_tooLong .standard (paddedText 4299) "").1 hfits
  have hbreaks := (load_refuses_unless_tooLong .standard (paddedText 4300) "").2 _ hlong
  exact ⟨⟨hfits, hreports.2⟩, _, hlong, hbreaks.1⟩

/-- A text that is neither loaded nor unreadable nor inconsistent, and on which there is no report:
the number of its rule is one, written with leading zeros. -/
theorem paddedText_not_refused :
    (∀ base, loadBase .standard (paddedText 4300) ≠ .ok base) ∧
      (∀ fault, loadBase .standard (paddedText 4300) ≠ .error (.unreadable fault)) ∧
      (∀ issues, loadBase .standard (paddedText 4300) ≠ .error (.inconsistent issues)) ∧
      ∀ report, validateText .standard (paddedText 4300) "" ≠ .ok report := by
  have hlong := (firstLongNumeral?_paddedText 4300).trans (if_pos (by decide))
  have hload := loadBase_eq_tooLong_iff.2 ⟨_, hlong, rfl⟩
  have hreport := @validateText_eq_error_iff _ _ "" _ |>.2 hload
  rw [hload, hreport]
  exact ⟨nofun, nofun, nofun, nofun⟩

end RuleConsult
