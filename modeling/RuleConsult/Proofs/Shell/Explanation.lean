import RuleConsult.Proofs.Reading.Grammar
import RuleConsult.Proofs.RoundTrip
import RuleConsult.Proofs.Shell.FreshLoad

/-!
# The rules in an explanation

Rules are shown in three places. `rules` and `dump` list those of the base, in the words of the
shell. `explain` tells which of them fired, in the order of firing, but in the standard words
whatever those of the shell are. So a rule looks the same in all three exactly where the words agree
that it is written with.

* `Rule.toText_eq_iff`: when a rule is written alike in two vocabularies;
* `Session.IsKept.exists_firedRules`: the rules of an explanation are those that fired;
* `Shell.IsConsulting`: a consultation is always one over the base that is loaded;
* `Shell.Shows`: what is printed of rules;
* `Shell.explain_uses_standard_words`: after any lines, that is what is printed.
-/

namespace RuleConsult

open Text

/-! ## Rules in other words -/

/-- The rule is written with the same words in both vocabularies. Without a second condition there
is no conjunction. -/
structure Rule.SameWords (rule : Rule) (a b : Keywords) : Prop where
  ruleIf : a.words.ruleIf = b.words.ruleIf
  ruleThen : a.words.ruleThen = b.words.ruleThen
  ruleAnd : rule.conditions.length ≤ 1 ∨ a.words.ruleAnd = b.words.ruleAnd

/-- The written conditions of a rule. -/
def Rule.conditionsText (keywords : Keywords) (rule : Rule) : String :=
  String.intercalate (" " ++ keywords.words.ruleAnd ++ " ") (rule.conditions.map Pair.toText)

theorem Rule.toText_eq_append (keywords : Keywords) (rule : Rule) :
    rule.toText keywords = toString rule.id ++ " " ++ keywords.words.ruleIf ++ " " ++
      rule.conditionsText keywords ++ " " ++ keywords.words.ruleThen ++ " " ++
      rule.conclusion.toText := rfl

theorem Rule.toList_toText_eq_append (keywords : Keywords) (rule : Rule) :
    (rule.toText keywords).toList = (toString rule.id).toList ++
      ' ' :: (keywords.words.ruleIf.toList ++
        ' ' :: ((rule.conditionsText keywords).toList ++
          ' ' :: (keywords.words.ruleThen.toList ++ ' ' :: rule.conclusion.toText.toList))) := by
  simp [toText_eq_append]

/-- A text begins with one word, if spaces follow. -/
theorem token_space_inj {a b : String} {xs ys : List Char} (ha : isToken a = true)
    (hb : isToken b = true) (h : a.toList ++ ' ' :: xs = b.toList ++ ' ' :: ys) :
    a = b ∧ xs = ys := by
  obtain ⟨hwords, hrest⟩ := token_inj ha hb (stops_isWord_space _) (stops_isWord_space _) h
  exact ⟨hwords, List.tail_eq_of_cons_eq hrest⟩

section

variable {rule : Rule} {a b : Keywords}

/-- Conditions are written alike if the conjunctions are, or there is none. -/
theorem Rule.conditionsText_eq
    (h : rule.conditions.length ≤ 1 ∨ a.words.ruleAnd = b.words.ruleAnd) :
    rule.conditionsText a = rule.conditionsText b := by
  unfold conditionsText
  rcases h with hlength | hand
  · match rule.conditions, hlength with
    | [], _ => rfl
    | [pair], _ => simp
  · rw [hand]

/-- With the same words a rule is written alike. -/
theorem Rule.SameWords.toText_eq (h : rule.SameWords a b) : rule.toText a = rule.toText b := by
  rw [toText_eq_append, toText_eq_append, h.ruleIf, h.ruleThen,
    conditionsText_eq h.ruleAnd]

/-- Where the conditions of a rule are written alike, there is one conjunction or none. -/
theorem Rule.ruleAnd_of_conditionsText {xs ys : List Char}
    (h : (rule.conditionsText a).toList ++ ' ' :: xs =
      (rule.conditionsText b).toList ++ ' ' :: ys) :
    rule.conditions.length ≤ 1 ∨ a.words.ruleAnd = b.words.ruleAnd := by
  unfold conditionsText at h
  rcases hconditions : rule.conditions with _ | ⟨first, _ | ⟨second, others⟩⟩
  · exact Or.inl (Nat.zero_le 1)
  · exact Or.inl le_rfl
  · right
    rw [hconditions, toList_intercalate_conditions, toList_intercalate_conditions] at h
    -- The first conjunction stands behind the first condition.
    simp only [furtherConditions_cons, List.cons_append, List.append_assoc] at h
    exact (token_space_inj (a.isToken_get .ruleAnd) (b.isToken_get .ruleAnd)
      (List.tail_eq_of_cons_eq (List.append_cancel_left h))).1

/-- A rule is written alike in two vocabularies exactly if it is written with the same words. -/
theorem Rule.toText_eq_iff : rule.toText a = rule.toText b ↔ rule.SameWords a b := by
  refine ⟨fun h => ?_, SameWords.toText_eq⟩
  have hlist := congrArg String.toList h
  rw [toList_toText_eq_append, toList_toText_eq_append] at hlist
  obtain ⟨hif, hrest⟩ := token_space_inj (a.isToken_get .ruleIf) (b.isToken_get .ruleIf)
    (List.tail_eq_of_cons_eq (List.append_cancel_left hlist))
  have hand := ruleAnd_of_conditionsText hrest
  -- Behind conditions that are written alike there is the other keyword.
  rw [conditionsText_eq hand] at hrest
  obtain ⟨hthen, -⟩ := token_space_inj (a.isToken_get .ruleThen) (b.isToken_get .ruleThen)
    (List.tail_eq_of_cons_eq (List.append_cancel_left hrest))
  exact ⟨hif, hthen, hand⟩

end

/-! ## The rules that fired -/

/-- If a rule has a number, some rule is found by it. -/
theorem Base.exists_rule?_of_mem {base : Base} {rule : Rule} (h : rule ∈ base.rules) :
    ∃ found ∈ base.rules, base.rule? rule.id = some found ∧ found.id = rule.id := by
  cases hfound : base.rule? rule.id with
  | none =>
    have hnone := List.find?_eq_none.1 hfound rule (List.mem_reverse.2 h)
    simp at hnone
  | some found =>
    have hid := List.find?_some hfound
    exact ⟨found, List.mem_reverse.1 (List.mem_of_find?_eq_some hfound), rfl, by simpa using hid⟩

/-- Rules are found by the numbers of rules, in their order. -/
theorem Base.exists_filterMap_rule? {base : Base} {rules : List Rule}
    (h : ∀ rule ∈ rules, rule ∈ base.rules) :
    ∃ found : List Rule, found.map Rule.id = rules.map Rule.id ∧
      (∀ rule ∈ found, rule ∈ base.rules ∧ base.rule? rule.id = some rule) ∧
      (rules.map Rule.id).filterMap base.rule? = found := by
  induction rules with
  | nil => exact ⟨[], rfl, by simp, rfl⟩
  | cons rule rules ih =>
    obtain ⟨others, hids, hothers, hlookups⟩ := ih fun other hother =>
      h other (List.mem_cons_of_mem _ hother)
    obtain ⟨found, hmem, hlookup, hid⟩ := exists_rule?_of_mem (h rule List.mem_cons_self)
    refine ⟨found :: others, by rw [List.map_cons, List.map_cons, hid, hids], ?_, ?_⟩
    · rintro other hother
      rcases List.mem_cons.1 hother with rfl | hother
      · exact ⟨hmem, hid ▸ hlookup⟩
      · exact hothers other hother
    · rw [List.map_cons, List.filterMap_cons, hlookup, hlookups]

namespace Session

variable {base : Base} {focused : Bool} {session : Session}

/-- Whatever fired in a session is the number of a rule. -/
theorem IsKept.exists_fired {given? : Option (List (Datum × Datum))}
    (h : session.IsKept base focused given?) :
    ∃ fired : List Rule, session.fired = fired.map Rule.id ∧ ∀ rule ∈ fired, rule ∈ base.rules := by
  cases h with
  | idle of_base of_focused engine | cancelled of_base of_focused engine =>
    refine ⟨[], ?_, by simp⟩
    rw [fired, engine]
    rfl
  | @conducting target given start calls of_base of_focused given_eq started conducts =>
    have hadvances := Advances.after started calls
    have hmem := Engine.base_of_start started ▸ hadvances.mem
    refine ⟨RuleConsult.firedRules (start.log calls), ?_, hmem⟩
    rw [fired, conducts.engine]
    exact hadvances.fired

/-- An explanation lists the rules that are found in the base by the numbers that fired. -/
theorem IsKept.exists_firedRules {given? : Option (List (Datum × Datum))}
    (h : session.IsKept base focused given?) :
    ∃ fired : List Rule, fired.map Rule.id = session.fired ∧
      (∀ rule ∈ fired, rule ∈ base.rules ∧ base.rule? rule.id = some rule) ∧
      session.firedRules = fired.map (Rule.toText Keywords.standard) := by
  obtain ⟨rules, hids, hmem⟩ := h.exists_fired
  obtain ⟨fired, hfired, hfound, hlookup⟩ := Base.exists_filterMap_rule? hmem
  refine ⟨fired, hfired.trans hids.symm, hfound, ?_⟩
  rw [firedRules, h.base_eq, hids, ← hlookup, List.map_filterMap]

end Session

/-! ## Consultations in a shell -/

namespace Shell

/-- A consultation is one over the base that is loaded. -/
def IsConsulting (shell : Shell) : Prop :=
  ∀ session, shell.session = some session → ∃ edition requests,
    shell.loaded = some edition ∧ session = (Session.new edition.base false).after requests

/-- Whatever becomes of the consultation, it is one over the base that is loaded. -/
theorem IsConsulting.consults {shell : Shell} {later : Option Session} (h : shell.IsConsulting)
    (hconsults : shell.Consults later) (facts : Facts) :
    IsConsulting { shell with session := later, facts } := by
  intro session hsession
  change later = some session at hsession
  cases hconsults with
  | kept => exact h session hsession
  | @started edition loaded target given =>
    cases hsession
    exact ⟨edition, [.start target given], loaded, rfl⟩
  | requested going request =>
    cases hsession
    obtain ⟨edition, requests, hloaded, rfl⟩ := h _ going
    exact ⟨edition, requests ++ [request], hloaded, (Session.after_concat _ _ _).symm⟩

/-- No line changes that. -/
theorem IsConsulting.step {shell next : Shell} (h : shell.IsConsulting) (hstep : shell.Step next) :
    next.IsConsulting := by
  cases hstep with
  | loaded cache path edition =>
    intro session hsession
    cases hsession
  | named cache path => exact h
  | consulted consults facts => exact h.consults consults facts

section

variable [Encodings]

/-- It is so in a shell that begins. -/
theorem isConsulting_start (given : Option Cache) (keywords : Keywords) (store : FileStore)
    (file : Option String) : (start given keywords store file).shell.IsConsulting := by
  have hnew : (new given keywords).IsConsulting := by
    intro session hsession
    cases hsession
  exact hnew.step (step_start given keywords store file)

/-- It is so after any lines. -/
theorem isConsulting_afterLines {shell : Shell} (h : shell.IsConsulting)
    (lines : List (FileStore × String)) : (shell.afterLines lines).IsConsulting :=
  afterLines_preserves (motive := IsConsulting) (fun _ _ => IsConsulting.step) h lines

/-- A shell begins with the keywords that it is given. -/
theorem keywords_start (given : Option Cache) (keywords : Keywords) (store : FileStore)
    (file : Option String) : (start given keywords store file).shell.keywords = keywords :=
  (step_start given keywords store file).keywords_eq

/-- A shell that begins with a file has the base loaded that is read from it. -/
theorem start_of_fetchBase {keywords : Keywords} {store : FileStore} {file : String}
    {base : Base} (hfile : Base.nonEmpty? (some file) = some file)
    (hbase : fetchBase keywords (.text "utf-8") store (Path.ofText file) = .ok base) :
    let begun := (start none keywords store (some file)).shell
    begun.facts = Table.empty ∧ ∃ edition, begun.loaded = some edition ∧ edition.base = base := by
  intro begun
  have hread := Cache.base_getOrLoad_new Cache.standardLimit keywords (.text "utf-8") store
    (Path.ofText file)
  rw [hbase] at hread
  have hbegun : begun = ((new none keywords).load store (Path.ofText file)).shell := by
    simp only [begun, start, hfile]
  cases hfound : ((new none keywords).cache.getOrLoad store (Path.ofText file)).2 with
  | error fault =>
    have hfault : (Except.error fault : Except CacheFault Edition).map Edition.base =
        Except.ok base := hfound ▸ hread
    cases hfault
  | ok edition =>
    have hedition : Except.ok edition.base = Except.ok base := hfound ▸ hread
    rw [hbegun, load_of_ok hfound]
    exact ⟨rfl, edition, rfl, Except.ok.inj hedition⟩

/-! ## What is shown of rules -/

/-- What the shell shows of the rules of its base, and of those that fired in its consultation. -/
structure Shows (shell : Shell) (session : Session) (base : Base) (fired : List Rule) : Prop where
  numbers : fired.map Rule.id = session.fired
  found : ∀ rule ∈ fired, rule ∈ base.rules ∧ base.rule? rule.id = some rule
  explained : ∀ store argument, (shell.run store argument .explain).output =
    printed [String.intercalate "\n" (session.explainOutcome ++
      Session.itemized "Respostas:" session.answeredTurns ++
      Session.itemized "Regras aplicadas:" (fired.map (Rule.toText .standard)))]
  listed : ∀ store argument, (shell.run store argument .rules).output =
    printed (base.rules.map fun rule => "  " ++ rule.toText shell.keywords)
  dumped : ∀ store argument, (shell.run store argument .dump).output =
    String.intercalate "\n" (base.rules.map (Rule.toText shell.keywords) ++
      base.allBindings.map (Binding.toText shell.keywords)) ++ "\n"

/-- Whatever lines were run in a shell: in an explanation of its consultation, the rules that fired
stand in the order of firing and in the standard words, while the rules of the base are listed in
the words that the shell was given. So those that fired look the same in both exactly if they are
written with the same words. -/
theorem explain_uses_standard_words (given : Option Cache) (keywords : Keywords)
    (store : FileStore) (file : Option String) (past : List (FileStore × String)) {shell : Shell}
    (hshell : (start given keywords store file).shell.afterLines past = shell) {session : Session}
    (hsession : shell.session = some session) :
    shell.keywords = keywords ∧ ∃ edition fired, shell.loaded = some edition ∧
      shell.Shows session edition.base fired ∧
      (fired.map (Rule.toText .standard) = fired.map (Rule.toText keywords) ↔
        ∀ rule ∈ fired, rule.SameWords .standard keywords) := by
  have hkeywords : shell.keywords = keywords := by
    rw [← hshell, keywords_afterLines, keywords_start]
  have hconsulting : shell.IsConsulting :=
    hshell ▸ isConsulting_afterLines (isConsulting_start given keywords store file) past
  obtain ⟨edition, requests, hloaded, rfl⟩ := hconsulting session hsession
  obtain ⟨fired, hnumbers, hfound, htexts⟩ :=
    (Session.isKept_after edition.base false requests).exists_firedRules
  have halike : fired.map (Rule.toText .standard) = fired.map (Rule.toText keywords) ↔
      ∀ rule ∈ fired, rule.SameWords .standard keywords := by
    simp only [List.map_inj_left, Rule.toText_eq_iff]
  refine ⟨hkeywords, edition, fired, hloaded, ⟨hnumbers, hfound, ?_, ?_, ?_⟩, halike⟩
  · intro store argument
    rw [← htexts]
    change (shell.withSession _).output = _
    rw [withSession, hsession]
    rfl
  · intro store argument
    change (shell.withBase _).output = _
    rw [withBase, hloaded]
    rfl
  · intro store argument
    change (shell.withBase _).output = _
    rw [withBase, hloaded]
    rfl

end

/-! ## An example -/

section

open Usual

/-- What is read in a text of one rule. -/
def oneRule : List Entry :=
  [⟨0, 1, 1, .rule "1" [⟨"a", "x"⟩] (some ⟨"c", "d"⟩)⟩]

theorem fetchBase_oneRule :
    fetchBase numberedKeywords (.text "utf-8") (FileStore.oneFile "1 if a-x then c-d")
        (Path.ofText "a") =
      .ok (declaredBase oneRule) := by
  have hpath : Path.ofText "a" = ⟨"", ["a"]⟩ := by cbv
  have htext : fetchText (.text "utf-8") (FileStore.oneFile "1 if a-x then c-d") ⟨"", ["a"]⟩ =
      .ok "1 if a-x then c-d" := eq_ok_of_toOption (by decide +kernel)
  have hload : loadBase numberedKeywords "1 if a-x then c-d" = .ok (declaredBase oneRule) :=
    loadBase_of_toOption (by decide +kernel) (by decide +kernel)
  rw [hpath, fetchBase_of_fetchText htext, hload]
  rfl

/-- One rule is loaded and its condition set, and a consultation started in which it fires. -/
def oneRuleShell : Shell :=
  (start none numberedKeywords (FileStore.oneFile "1 if a-x then c-d") (some "a")).shell.afterLines
    [(.empty, "fact a x"), (.empty, "start")]

set_option maxRecDepth 4000 in
theorem exists_session_oneRuleShell :
    ∃ edition session, oneRuleShell.loaded = some edition ∧
      edition.base = declaredBase oneRule ∧ oneRuleShell.session = some session ∧
      session.fired = [1] ∧ session.explain = "c: d\nRegras aplicadas:\n  • 1 если a-x то c-d" := by
  have hfactLine : CommandLine.read "fact a x" = .command .fact "a x" := by decide +kernel
  have hstartLine : CommandLine.read "start" = .command .start "" := by decide +kernel
  have hwords : words "a x" = ["a", "x"] := by decide +kernel
  have hfact (shell : Shell) : (shell.execute .empty "fact a x").shell =
      { shell with facts := shell.facts.insert "a" "x" } := by
    simp only [execute, hfactLine]
    change (shell.setFact "a x").shell = _
    rw [setFact, hwords]
    rfl
  have hstart (shell : Shell) :
      (shell.execute .empty "start").shell = (shell.startSession "").shell := by
    simp only [execute, hstartLine]
    rfl
  unfold oneRuleShell
  obtain ⟨hfacts, edition, hloaded, hedition⟩ := start_of_fetchBase rfl fetchBase_oneRule
  generalize
    (start none numberedKeywords (FileStore.oneFile "1 if a-x then c-d") (some "a")).shell = begun
    at hfacts hloaded
  rw [afterLines_cons, afterLines_cons, afterLines_nil, hfact, hstart]
  have hready : { begun with facts := begun.facts.insert "a" "x" }.loaded = some edition := hloaded
  -- Starting leaves alone what is loaded.
  have hkept (shell : Shell) : (shell.startSession "").shell.loaded = shell.loaded :=
    congrArg (fun reply => reply.shell.loaded)
      (run_eq_onto shell .empty "" (rfl : CommandName.start.usesFile = false))
  refine ⟨edition, _, (hkept _).trans hready, hedition, session_startSession hready "", ?_, ?_⟩
  · rw [hedition, hfacts]
    cbv
  · rw [hedition, hfacts]
    cbv

/-- The rule of the example, which fired. -/
theorem explain_uses_standard_words_oneRule :
    ∃ session, oneRuleShell.session = some session ∧ oneRuleShell.keywords = numberedKeywords ∧
      ∃ edition fired, oneRuleShell.loaded = some edition ∧
        oneRuleShell.Shows session edition.base fired ∧ fired.map Rule.id = [1] ∧
        (fired.map (Rule.toText .standard) = fired.map (Rule.toText numberedKeywords) ↔
          ∀ rule ∈ fired, rule.SameWords .standard numberedKeywords) := by
  obtain ⟨-, session, -, -, hsession, hfired, -⟩ := exists_session_oneRuleShell
  obtain ⟨hkeywords, edition, fired, hloaded, hshows, halike⟩ :=
    explain_uses_standard_words none numberedKeywords _ _ _ rfl hsession
  exact ⟨session, hsession, hkeywords, edition, fired, hloaded, hshows,
    hshows.numbers.trans hfired, halike⟩

/-- The rule is explained in other words than those it was written with and is listed with. -/
theorem explain_differs_from_rules :
    (oneRuleShell.run .empty "" .explain).output =
        "c: d\nRegras aplicadas:\n  • 1 если a-x то c-d\n" ∧
      (oneRuleShell.run .empty "" .rules).output = "  1 if a-x then c-d\n" ∧
      (oneRuleShell.run .empty "" .dump).output = "1 if a-x then c-d\n" := by
  obtain ⟨edition, session, hloaded, hedition, hsession, -, hexplain⟩ := exists_session_oneRuleShell
  have hkeywords : oneRuleShell.keywords = numberedKeywords := by
    rw [oneRuleShell, keywords_afterLines, keywords_start]
  refine ⟨?_, ?_, ?_⟩
  · change (oneRuleShell.withSession _).output = _
    rw [withSession, hsession]
    change printed [session.explain] = _
    rw [hexplain]
    cbv
  · change (oneRuleShell.withBase _).output = _
    rw [withBase, hloaded, hkeywords]
    change printed (edition.base.rules.map _) = _
    rw [hedition]
    cbv
  · change (oneRuleShell.withBase _).output = _
    rw [withBase, hloaded, hkeywords]
    change edition.base.toText _ = _
    rw [hedition]
    cbv

end

end Shell

end RuleConsult
