import RuleConsult.Proofs.Draft.Issues
import RuleConsult.Proofs.RoundTrip

/-!
# What was read is never malformed

Building looks for numbers that are not written in digits, for parts that are missing and for words
that are no tokens. Only entries made by hand have such faults. Reading takes every word as a run of
characters that is not empty, and a rule with all its parts or not at all. The tests in building are
tests of their own, on whole words and with the digits of every script, but all that was read passes
them. So there are five kinds of issues, and a text has only the four of them that are about entries
that do not go together.

* `EntryBody.IsWellWritten`: entries as reading leaves them;
* `isWellWritten_of_readDocument`: all entries of a document are such;
* `Draft.IsVetted.add` and `Draft.IsVetted.declare`: declaring such entries, one and all, adds only
  issues of the four kinds, also where it breaks off;
* `build_of_readDocument`: any builder makes of these entries what loading makes of the text;
* `readDocument_never_malformed`: documents, with all builders.
-/

namespace RuleConsult

open Text

/-! ## Entries as they are read -/

/-- What is written in an entry that was read: a rule with all its parts, its number in ASCII digits
and its words tokens, or a binding of a token to a text that has allowed characters only and no
white space of any kind at either end. -/
inductive EntryBody.IsWellWritten : EntryBody → Prop where
  | rule {number : String} {conditions : List Pair} {conclusion : Pair}
      (number_ne : number.toList ≠ []) (digits : ∀ c ∈ number.toList, c.isDigit = true)
      (conditions_ne : conditions ≠ []) (conditions_tokens : ∀ pair ∈ conditions, pair.IsTokens)
      (conclusion_tokens : conclusion.IsTokens) :
      IsWellWritten (.rule number conditions (some conclusion))
  | binding {kind : BindingKind} {category text : String} (category_token : isToken category = true)
      (allowed : ∀ c ∈ text.toList, isFreeText c = true)
      (begins : ∀ c ∈ text.toList.head?, isSpace c = false)
      (ends : ∀ c ∈ text.toList.getLast?, isSpace c = false) :
      IsWellWritten (.binding kind category text)

variable {keywords : Keywords} {text : String} {entries : List Entry}

theorem ConjunctsFit.isTokens {clauses : List Clause} {rest : List Char}
    (h : ConjunctsFit keywords clauses rest) : ∀ clause ∈ clauses, clause.pair.IsTokens := by
  induction clauses with
  | nil => exact fun clause hclause => nomatch hclause
  | cons first others ih =>
    obtain ⟨-, hfirst, hothers⟩ := h
    exact List.forall_mem_cons.2 ⟨hfirst.pair, ih hothers⟩

/-- A rule that fits in front of a text is well written. -/
theorem RuleText.Fits.isWellWritten {parts : RuleText} {rest : List Char}
    (h : parts.Fits keywords rest) : parts.body.IsWellWritten := by
  have hdigits : ∀ c ∈ parts.number.toList, c.isDigit = true := fun c hc =>
    isDigit_of_isNumberDigit (h.number.all c hc)
  have hconditions : ∀ pair ∈ parts.first.pair :: parts.others.map Clause.pair, pair.IsTokens :=
    List.forall_mem_cons.2 ⟨h.first.pair, List.forall_mem_map.2 h.others.isTokens⟩
  exact .rule h.number_ne hdigits (List.cons_ne_nil _ _) hconditions h.conclusion.pair

/-- A binding that fits in front of a text is well written. -/
theorem BindingText.Fits.isWellWritten {parts : BindingText} {rest : List Char}
    (h : parts.Fits rest) : parts.body.IsWellWritten := by
  obtain ⟨htext, -⟩ := h.trimmed
  obtain ⟨hbegins, hends⟩ := htext.stops_isSpace
  refine .binding h.category htext.allowed hbegins ?_
  rw [List.getLast?_eq_head?_reverse]
  exact hends

/-- What is read as an entry is well written. -/
theorem isWellWritten_of_readEntry {start rest : List Char} {body : EntryBody}
    (h : (readEntry keywords start).result = some (body, rest)) : body.IsWellWritten := by
  obtain ⟨entry, hfits, rfl, -⟩ := exists_entry h
  cases entry with
  | rule parts => exact RuleText.Fits.isWellWritten hfits
  | binding parts => exact hfits.1.isWellWritten

/-- The entries of a document are well written. -/
theorem isWellWritten_of_readDocument (h : readDocument keywords text = .ok entries) :
    ∀ entry ∈ entries, entry.body.IsWellWritten := by
  intro entry hentry
  obtain ⟨start, rest, hread⟩ := (readEntry_of_readDocument h).2 entry hentry
  exact isWellWritten_of_readEntry hread

/-! ## Issues of well-written entries -/

/-- The codes of issues with entries that do not go together, in themselves or with others. -/
def Issue.consistencyCodes : List String :=
  ["duplicate_rule_id", "contradictory_conditions", "self_reference", "duplicate_binding"]

/-- There is one other code. -/
theorem Issue.code_mem_consistencyCodes_iff {issue : Issue} :
    issue.code ∈ consistencyCodes ↔ issue.code ≠ "malformed_token" := by
  obtain ⟨defect, line⟩ := issue
  cases defect <;> simp [code, consistencyCodes]

/-- A rule with conditions, conclusion and good tokens has issues of consistency only. -/
theorem code_of_mem_ruleIssues {line id : Int} {conditions : List Pair} {conclusion : Pair}
    {issue : Issue} (hne : conditions ≠ [])
    (htokens : ∀ pair ∈ conditions ++ [conclusion], pair.IsTokens)
    (h : issue ∈ ruleIssues line id conditions (some conclusion)) :
    issue.code ∈ Issue.consistencyCodes := by
  rcases mem_ruleIssues_cases h with
    ⟨hmissing, -⟩ | ⟨_, token, ⟨⟩, hbad, -⟩ | ⟨_, _, _, rfl⟩ | ⟨_, rfl⟩
  · exact absurd (hmissing.resolve_left (Option.some_ne_none _)) hne
  · rw [badTokens_eq_nil_iff.2 htokens] at hbad
    cases hbad
  · simp [Issue.code, Issue.consistencyCodes]
  · simp [Issue.code, Issue.consistencyCodes]

namespace Draft

/-- No issue of the draft is about something malformed. -/
def IsVetted (draft : Draft) : Prop :=
  ∀ issue ∈ draft.issues, issue.code ∈ Issue.consistencyCodes

variable {draft next : Draft} {entry : Entry}

theorem isVetted_empty : empty.IsVetted := fun _ hissue => nomatch hissue

theorem IsVetted.append (h : draft.IsVetted) {found : List Issue}
    (hnext : next.issues = draft.issues ++ found)
    (hfound : ∀ issue ∈ found, issue.code ∈ Issue.consistencyCodes) : next.IsVetted := by
  intro issue hissue
  rw [hnext] at hissue
  rcases List.mem_append.1 hissue with hold | hnew
  · exact h issue hold
  · exact hfound issue hnew

/-- Declaring a well-written entry adds issues of consistency only. -/
theorem IsVetted.add (h : draft.IsVetted) (hentry : entry.body.IsWellWritten)
    (hadd : draft.add entry = .ok next) : next.IsVetted := by
  obtain ⟨offset, line, column, body⟩ := entry
  cases hentry with
  | @rule number conditions conclusion number_ne digits conditions_ne conditions_tokens
      conclusion_tokens =>
    rcases addRule_cases hadd with ⟨hnumber, -⟩ | ⟨id, -, ⟨firstLine, -, rfl⟩ | ⟨-, rfl⟩⟩
    · -- What is written in ASCII digits is not taken for something else.
      rw [Entry.ruleNumber_eq_ok_none_iff, isDigits_of_isDigit number_ne digits] at hnumber
      cases hnumber
    · exact h.append rfl (by simp [Issue.code, Issue.consistencyCodes])
    · have htokens : ∀ pair ∈ conditions ++ [conclusion], pair.IsTokens :=
        List.forall_mem_append.2
          ⟨conditions_tokens, List.forall_mem_singleton.2 conclusion_tokens⟩
      refine h.append rfl fun issue hissue => ?_
      rw [issues_checkRule] at hissue
      exact code_of_mem_ruleIssues conditions_ne htokens hissue
  | @binding kind category text category_token allowed begins ends =>
    cases hadd
    rw [addBinding, if_neg (by simp [category_token])]
    split
    · exact h.append rfl (by simp [Issue.code, Issue.consistencyCodes])
    · obtain ⟨hissues, -⟩ := bind_frame draft ⟨kind, category, text, some line⟩
      rw [IsVetted, hissues]
      exact h

/-- Declaring well-written entries adds issues of consistency only, up to where it breaks off. -/
theorem IsVetted.declare (h : draft.IsVetted)
    (hentries : ∀ entry ∈ entries, entry.body.IsWellWritten) :
    (draft.declare entries).1.IsVetted := by
  induction entries generalizing draft with
  | nil => exact h
  | cons entry entries ih =>
    obtain ⟨hentry, hothers⟩ := List.forall_mem_cons.1 hentries
    rw [Draft.declare]
    cases hadd : draft.add entry with
    | error fault => exact h
    | ok next => exact ih (h.add hentry hadd) hothers

/-- Entries are declared all together as they are declared one by one. -/
theorem foldlM_add (draft : Draft) (entries : List Entry) :
    entries.foldlM add draft =
      match draft.declare entries with
      | (last, none) => .ok last
      | (_, some fault) => .error fault := by
  induction entries generalizing draft with
  | nil => rfl
  | cons entry entries ih =>
    rw [List.foldlM_cons, Draft.declare]
    cases draft.add entry with
    | error fault => rfl
    | ok next => exact ih next

end Draft

/-! ## Builders -/

namespace Builder

/-- What is built and shown once the entries are declared. What was built before has no part in
it. -/
theorem build_eq (builder : Builder) (entries : List Entry) :
    builder.build entries =
      match Draft.empty.declare entries with
      | (draft, some fault) => (.error (.numeral fault), ⟨draft.issues, draft.notices⟩)
      | (draft, none) =>
        if draft.issues = [] then
          (.ok draft.toBase, ⟨draft.issues, draft.notices ++ draft.toBase.coverageNotices⟩)
        else (.error (.inconsistent draft.issues), ⟨draft.issues, draft.notices⟩) := by
  have hbegun : { Draft.empty with issues := [], notices := [] }.declare entries =
      Draft.empty.declare entries := rfl
  rw [build]
  dsimp only
  rw [hbegun]
  rcases Draft.empty.declare entries with ⟨draft, _ | fault⟩
  · simp only [List.isEmpty_iff]
  · rfl

/-- A builder shows the issues of the draft that it has come to. -/
theorem issues_build (builder : Builder) (entries : List Entry) :
    (builder.build entries).2.issues = (Draft.empty.declare entries).1.issues := by
  rw [build_eq]
  rcases Draft.empty.declare entries with ⟨draft, _ | fault⟩
  · dsimp only
    split <;> rfl
  · rfl

/-- The issues that a builder fails with are those that it shows, and there are some. -/
theorem issues_of_inconsistent {builder : Builder} {entries : List Entry} {issues : List Issue}
    (h : (builder.build entries).1 = .error (.inconsistent issues)) :
    issues ≠ [] ∧ (builder.build entries).2.issues = issues := by
  rw [build_eq] at h ⊢
  generalize Draft.empty.declare entries = declared at h ⊢
  obtain ⟨draft, _ | fault⟩ := declared
  · dsimp only at h ⊢
    split at h
    · cases h
    · rename_i hsome
      cases h
      rw [if_neg hsome]
      exact ⟨hsome, rfl⟩
  · cases h

end Builder

/-- The entries of a text are built, by any builder, as they are loaded. -/
theorem build_of_readDocument (h : readDocument keywords text = .ok entries) (builder : Builder) :
    (builder.build entries).1 = loadBase keywords text := by
  rw [loadBase, h, builder.build_eq]
  dsimp only
  rw [build, Draft.ofEntries, Draft.foldlM_add]
  rcases Draft.empty.declare entries with ⟨draft, _ | fault⟩
  · simp only [Bind.bind, Except.bind, pure, Except.pure, List.isEmpty_iff]
    split <;> rfl
  · rfl

/-! ## Texts -/

/-- What was read is never malformed. The entries of a text are well written, so no builder shows an
issue about something malformed when it builds them, whether it makes a base, finds them
inconsistent or breaks off. If a text is refused as inconsistent, all issues are about entries that
do not go together. -/
theorem readDocument_never_malformed (keywords : Keywords) (text : String) :
    (∀ entries, readDocument keywords text = .ok entries →
      (∀ entry ∈ entries, entry.body.IsWellWritten) ∧
        ∀ builder : Builder, (builder.build entries).1 = loadBase keywords text ∧
          ∀ issue ∈ (builder.build entries).2.issues, issue.code ≠ "malformed_token") ∧
      ∀ issues, loadBase keywords text = .error (.inconsistent issues) →
        issues ≠ [] ∧ ∀ issue ∈ issues, issue.code ∈ Issue.consistencyCodes := by
  have hvetted : ∀ entries, readDocument keywords text = .ok entries → ∀ builder : Builder,
      ∀ issue ∈ (builder.build entries).2.issues, issue.code ∈ Issue.consistencyCodes := by
    intro entries hread builder issue hissue
    rw [builder.issues_build] at hissue
    exact Draft.isVetted_empty.declare (isWellWritten_of_readDocument hread) issue hissue
  constructor
  · intro entries hread
    refine ⟨isWellWritten_of_readDocument hread, fun builder => ?_⟩
    refine ⟨build_of_readDocument hread builder, fun issue hissue => ?_⟩
    exact Issue.code_mem_consistencyCodes_iff.1 (hvetted entries hread builder issue hissue)
  · intro issues hload
    cases hread : readDocument keywords text with
    | error fault =>
      rw [loadBase, hread] at hload
      cases hload
    | ok entries =>
      -- A new builder of the entries fails in the same way.
      rw [← build_of_readDocument hread Builder.new] at hload
      obtain ⟨hne, rfl⟩ := Builder.issues_of_inconsistent hload
      exact ⟨hne, hvetted entries hread Builder.new⟩

/-- A text with keywords that are numbers: a rule that contradicts and supports itself, one with its
number in other digits, a question that is asked twice, and a tip that begins like a rule. -/
def faultyText : String :=
  "007 if цвет-² and цвет-x then цвет-z\n7 if a-x then b-z\n7 a A?\n7 a (B)\n9 if if-then\n"

/-- What is written in that text. -/
def faultyBodies : List EntryBody :=
  [.rule "007" [⟨"цвет", "²"⟩, ⟨"цвет", "x"⟩] (some ⟨"цвет", "z"⟩),
    .rule "7" [⟨"a", "x"⟩] (some ⟨"b", "z"⟩), .binding .advice "a" "A?",
    .binding .advice "a" "(B)", .binding .tip "if" "if-then"]

/-- What is wrong with it: an issue of each of the four kinds. -/
def faultyIssues : List Issue :=
  [⟨.contradiction 7 "цвет" "²" "x", 1⟩, ⟨.selfReference 7 "цвет", 1⟩, ⟨.duplicateRule 7 1, 2⟩,
    ⟨.duplicateBinding .advice "a", 4⟩]

/-- The entries of that text are well written, and it is refused with these issues. -/
theorem readDocument_never_malformed_faultyText :
    ∃ entries, readDocument numberedKeywords faultyText = .ok entries ∧
      entries.map Entry.body = faultyBodies ∧ (∀ entry ∈ entries, entry.body.IsWellWritten) ∧
      (∀ issue ∈ (Builder.new.build entries).2.issues, issue.code ≠ "malformed_token") ∧
      loadBase numberedKeywords faultyText = .error (.inconsistent faultyIssues) ∧
      ∀ issue ∈ faultyIssues, issue.code ∈ Issue.consistencyCodes := by
  obtain ⟨hentries, hissues⟩ := readDocument_never_malformed numberedKeywords faultyText
  have hbodies : (readDocument numberedKeywords faultyText).toOption.map (List.map Entry.body) =
      some faultyBodies := by
    decide +kernel
  have hbuilt : ((readDocument numberedKeywords faultyText).toOption.bind fun entries =>
      (build entries).toOption.map fun built => (built.base?.isSome, built.issues)) =
        some (false, faultyIssues) := by
    decide +kernel
  -- What was evaluated says which entries there are and what is reported of them.
  obtain ⟨entries, hsome, hwritten⟩ := Option.map_eq_some_iff.1 hbodies
  have hread := eq_ok_of_toOption hsome
  rw [hsome, Option.bind_some] at hbuilt
  obtain ⟨⟨base?, issues, notices⟩, hbuild, houtcome⟩ := Option.map_eq_some_iff.1 hbuilt
  simp only [Prod.mk.injEq, Option.isSome_eq_false_iff, Option.isNone_iff_eq_none] at houtcome
  obtain ⟨rfl, rfl⟩ := houtcome
  have hload : loadBase numberedKeywords faultyText = .error (.inconsistent faultyIssues) := by
    rw [loadBase, hread]
    simp only [eq_ok_of_toOption hbuild]
  obtain ⟨hwell, hbuilders⟩ := hentries entries hread
  exact ⟨entries, hread, hwritten, hwell, (hbuilders Builder.new).2, hload,
    (hissues faultyIssues hload).2⟩

/-- A rule made by hand may be malformed. -/
example : (Builder.new.build [⟨0, 1, 1, .rule "one" [] none⟩]).2.issues.map Issue.code =
    ["malformed_token"] := by
  decide +kernel

end RuleConsult
