import RuleConsult.Proofs.Reading.Exchange

/-!
# Forms in vain can be completed

A form that fails on a text fails for want of something at some place, and what stands before that
place is no reason for it to fail: if the text goes on otherwise from there, the form succeeds. That
has to be shown for the furthest of all the places at which something was missed.

Sequences are the point. A form that succeeds before another one must do so in front of any text
that completes the latter (it is *firm*), and a form that is completed itself must be followed by
something that completes the rest of the sequence, which has not been tried yet (it can be
*started*). A text that completes a form may come immediately behind what was read before, so it
must not prolong that.

* `Firm`, `Startable`, `Completable`: the three notions, each up to a class of characters with which
  the text before may end;
* `Completable.andThen`: a sequence can be completed;
* `completableInside_readRule`, `completableInside_readBinding`: rules and bindings that go wrong
  behind their first word.
-/

namespace RuleConsult

open Text

/-! ## Attempts in vain -/

/-- The attempt fails, and `place` is the furthest place at which something was missed. -/
structure Attempt.StuckAt {α : Type} (place : List Char) (a : Attempt α) : Prop where
  fails : a.result = none
  le : ∀ miss ∈ a.misses, place.length ≤ miss.rest.length
  found : ∃ miss ∈ a.misses, miss.rest = place

/-- A form that is missed is stuck where it was expected. -/
theorem Attempt.stuckAt_miss {α : Type} (expected : Expected) (place : List Char) :
    (miss expected place : Attempt α).StuckAt place where
  fails := rfl
  le := by simp [miss]
  found := ⟨_, List.mem_singleton_self _, rfl⟩

/-- Where the first of two forms is stuck so are both. -/
theorem Attempt.StuckAt.andThen {α β : Type} {place : List Char} {a : Attempt α}
    (h : a.StuckAt place) (next : α → List Char → Attempt β) : (a.andThen next).StuckAt place := by
  rw [andThen_of_none next h.fails]
  exact ⟨rfl, h.le, h.found⟩

/-! ## Firm forms -/

variable {α β : Type} {member boundary : Char → Bool}

/-- Whatever the form reads, it reads it as well in front of any other text that does not go on with
the class, and it never succeeds with a miss. -/
structure Firm (member : Char → Bool) (form : List Char → Attempt α) : Prop where
  exists_used : ∀ {text rest value}, (form text).result = some (value, rest) →
    ∃ used, used ≠ [] ∧ text = used ++ rest ∧ Stops member rest ∧
      ∀ other, Stops member other → (form (used ++ other)).result = some (value, other)
  misses_eq_nil : ∀ {text success}, (form text).result = some success → (form text).misses = []

/-- A run of characters stays as it is in front of other characters. -/
theorem firm_readRun (member : Char → Bool) (expected : Expected) :
    Firm member (readRun member expected) where
  exists_used h := by
    obtain ⟨htext, hne, hall, hstops⟩ := readRun_eq_some h
    refine ⟨_, hne, htext, hstops, fun other hother => ?_⟩
    rw [readRun_of_all expected hne hall hother, String.ofList_toList]
  misses_eq_nil {text} _ h := by
    unfold readRun at h ⊢
    dsimp only at h ⊢
    split
    · rename_i hempty
      rw [if_pos hempty] at h
      cases h
    · rfl

/-- Keywords stay as they are in front of what does not prolong a word. -/
theorem firm_readKeyword {word : String} (hword : isToken word = true) :
    Firm isWord (readKeyword word) where
  exists_used h := by
    obtain ⟨htext, hstops⟩ := readKeyword_eq_some h
    refine ⟨_, toList_ne_nil_of_token hword, htext, hstops, fun other hother => ?_⟩
    rw [readKeyword_token hword hword hother, if_pos rfl]
  misses_eq_nil {text} _ h := by
    unfold readKeyword at h ⊢
    split at h
    · split at h
      · cases h
      · rename_i hstart
        rw [if_neg hstart]
        rfl
    · cases h

/-- A hyphen is read in front of anything. -/
theorem firm_readHyphen : Firm (fun _ => false) readHyphen where
  exists_used {text rest _} h := by
    unfold readHyphen at h
    split at h
    · cases h
      exact ⟨['-'], List.cons_ne_nil _ _, rfl, fun _ _ => rfl, fun _ _ => rfl⟩
    · cases h
  misses_eq_nil {text _} h := by
    unfold readHyphen at h ⊢
    split at h
    · rfl
    · cases h

namespace Firm

/-- A sequence of firm forms is firm: between them stands what ended the first one. -/
theorem andThen {first : List Char → Attempt α} {next : α → List Char → Attempt β}
    (hfirst : Firm boundary first) (hnext : ∀ value, Firm member (next value)) :
    Firm member fun text => (first text).andThen next where
  exists_used {text rest out} h := by
    rw [Attempt.result_andThen] at h
    obtain ⟨⟨value, mid⟩, hread, hmore⟩ := Option.bind_eq_some_iff.1 h
    obtain ⟨used, hne, rfl, hmid, hused⟩ := hfirst.exists_used hread
    obtain ⟨used', hne', rfl, hrest, hused'⟩ := (hnext value).exists_used hmore
    refine ⟨used ++ used', by simp [hne], (List.append_assoc ..).symm, hrest,
      fun other hother => ?_⟩
    -- The second form is not empty, so it begins alike in front of any text.
    have hstops : Stops boundary (used' ++ other) :=
      (stops_append_iff hne' other).2 ((stops_append_iff hne' _).1 hmid)
    rw [List.append_assoc, Attempt.result_andThen, hused _ hstops]
    exact hused' other hother
  misses_eq_nil {text success} h := by
    cases hread : (first text).result with
    | none =>
      rw [Attempt.andThen_of_none _ hread] at h
      cases h
    | some found =>
      obtain ⟨value, mid⟩ := found
      rw [Attempt.andThen_of_some _ hread] at h ⊢
      rw [hfirst.misses_eq_nil hread, (hnext value).misses_eq_nil h]
      rfl

/-- What is made of a value does not matter. -/
theorem map {form : List Char → Attempt α} (h : Firm member form) (f : α → β) :
    Firm member fun text => (form text).andThen fun value text => .read (f value) text where
  exists_used {text rest out} hread := by
    rw [Attempt.andThen_read] at hread
    obtain ⟨⟨value, left⟩, hform, heq⟩ := Option.map_eq_some_iff.1 hread
    cases heq
    obtain ⟨used, hne, htext, hstops, hused⟩ := h.exists_used hform
    refine ⟨used, hne, htext, hstops, fun other hother => ?_⟩
    rw [Attempt.andThen_read, hused other hother]
    rfl
  misses_eq_nil {text success} hread := by
    rw [Attempt.andThen_read] at hread ⊢
    obtain ⟨found, hform, -⟩ := Option.map_eq_some_iff.1 hread
    exact h.misses_eq_nil hform

end Firm

/-! ## Completable forms -/

/-- Some text that does not go on with the class is read up to its end. -/
def Startable (member : Char → Bool) (form : List Char → Attempt α) : Prop :=
  ∃ tail value, Stops member tail ∧ (form tail).result = some (value, [])

/-- If the form fails on the text, it succeeds if the text goes on otherwise from the furthest place
at which something was missed. If that is where the text begins, what completes it does not go on
with the class. -/
def Completable (member : Char → Bool) (form : List Char → Attempt α) (text : List Char) : Prop :=
  (form text).result = none → ∃ before place tail value, text = before ++ place ∧
    (form text).StuckAt place ∧ (before = [] → Stops member tail) ∧
      (form (before ++ tail)).result = some (value, [])

/-- The form fails on the text behind its beginning, and from there on it can be completed. -/
def CompletableInside (form : List Char → Attempt α) (text : List Char) : Prop :=
  ∃ before place tail value, before ≠ [] ∧ text = before ++ place ∧ (form text).StuckAt place ∧
    (form (before ++ tail)).result = some (value, [])

/-- A form for which nothing was read can be completed with anything that it reads. -/
theorem completable_of_stuckAt {form : List Char → Attempt α} {text : List Char}
    (hstuck : (form text).result = none → (form text).StuckAt text)
    (hstart : Startable member form) : Completable member form text := by
  intro hfails
  obtain ⟨tail, value, hstops, hread⟩ := hstart
  exact ⟨[], text, tail, value, rfl, hstuck hfails, fun _ => hstops, hread⟩

namespace Completable

/-- A form that cannot be read at the end of a text can be started. -/
theorem startable {form : List Char → Attempt α} (h : Completable member form [])
    (hfails : (form []).result = none) : Startable member form := by
  obtain ⟨before, place, tail, value, htext, -, hstops, hread⟩ := h hfails
  obtain ⟨rfl, -⟩ := List.append_eq_nil_iff.1 htext.symm
  exact ⟨tail, value, hstops rfl, hread⟩

/-- If the first form of a sequence is read, the sequence is completed behind it. -/
theorem behind {first : List Char → Attempt α} {next : α → List Char → Attempt β}
    {text rest : List Char} {value : α} (hfirm : Firm boundary first)
    (hread : (first text).result = some (value, rest))
    (hnext : Completable boundary (next value) rest)
    (hfails : ((first text).andThen next).result = none) :
    CompletableInside (fun text => (first text).andThen next) text := by
  have heq := Attempt.andThen_of_some next hread
  rw [hfirm.misses_eq_nil hread, List.nil_append] at heq
  rw [heq] at hfails
  obtain ⟨used, hne, rfl, hrest, hagain⟩ := hfirm.exists_used hread
  obtain ⟨before, place, tail, out, rfl, hstuck, hstops, hdone⟩ := hnext hfails
  -- The first form ends where it ended before.
  have hbehind : Stops boundary (before ++ tail) := by
    by_cases hbefore : before = []
    · subst hbefore
      exact hstops rfl
    · exact (stops_append_iff hbefore tail).2 ((stops_append_iff hbefore place).1 hrest)
  refine ⟨used ++ before, place, tail, out, by simp [hne], (List.append_assoc ..).symm, ?_, ?_⟩
  · dsimp only
    rw [heq]
    exact ⟨hstuck.fails, hstuck.le, hstuck.found⟩
  · rw [List.append_assoc, Attempt.result_andThen, hagain _ hbehind]
    exact hdone

/-- A sequence can be completed if its first form can, and if the others can where this one was
read; where it was not, they are started behind what completes it. -/
theorem andThen {first : List Char → Attempt α} {next : α → List Char → Attempt β}
    {text : List Char} (hfirm : Firm boundary first) (hfirst : Completable member first text)
    (hnext : ∀ value rest, (first text).result = some (value, rest) →
      Completable boundary (next value) rest)
    (hstart : ∀ value, Startable boundary (next value)) :
    Completable member (fun text => (first text).andThen next) text := by
  intro hfails
  dsimp only at hfails ⊢
  cases hread : (first text).result with
  | none =>
    obtain ⟨before, place, tail, value, rfl, hstuck, hstops, hdone⟩ := hfirst hread
    obtain ⟨more, out, hmore, hout⟩ := hstart value
    obtain ⟨used, hne, hused, -, hagain⟩ := hfirm.exists_used hdone
    rw [List.append_nil] at hused
    refine ⟨before, place, tail ++ more, out, rfl, hstuck.andThen next, ?_, ?_⟩
    · -- What completes the first form is not empty, and it does not go on with the class.
      rintro rfl
      rw [List.nil_append] at hused
      exact (stops_append_iff (hused ▸ hne) more).2 (hstops rfl)
    · rw [← List.append_assoc, hused, Attempt.result_andThen, hagain more hmore]
      exact hout
  | some success =>
    obtain ⟨before, place, tail, out, hne, htext, hstuck, hdone⟩ :=
      behind hfirm hread (hnext success.1 success.2 hread) hfails
    exact ⟨before, place, tail, out, htext, hstuck, fun hnil => absurd hnil hne, hdone⟩

/-- What is done with a value afterwards makes no difference, as long as it never fails. -/
theorem andThen_read {form : List Char → Attempt α} {text : List Char}
    (h : Completable member form text) (f : α → List Char → β)
    (left : List Char → List Char) (hleft : left [] = []) :
    Completable member (fun text => (form text).andThen fun value text =>
      .read (f value text) (left text)) text := by
  intro hfails
  dsimp only at hfails ⊢
  cases hread : (form text).result with
  | some success =>
    rw [Attempt.andThen_of_some _ hread] at hfails
    cases hfails
  | none =>
    obtain ⟨before, place, tail, value, htext, hstuck, hstops, hdone⟩ := h hread
    refine ⟨before, place, tail, f value [], htext, hstuck.andThen _, hstops, ?_⟩
    rw [Attempt.result_andThen, hdone, Option.bind_some, Attempt.result_read, hleft]

end Completable

/-! ## Words and pairs -/

/-- A run that is missed is stuck where it would begin. -/
theorem stuckAt_readRun {member : Char → Bool} {expected : Expected} {text : List Char}
    (h : (readRun member expected text).result = none) :
    (readRun member expected text).StuckAt text := by
  unfold readRun at h ⊢
  dsimp only at h ⊢
  split at h
  · rename_i hempty
    rw [if_pos hempty]
    exact Attempt.stuckAt_miss _ _
  · cases h

/-- A keyword that is missed is stuck where it would begin. -/
theorem stuckAt_readKeyword {word : String} {text : List Char}
    (h : (readKeyword word text).result = none) : (readKeyword word text).StuckAt text := by
  unfold readKeyword at h ⊢
  split at h
  · split at h
    · rename_i hstart
      rw [if_pos hstart]
      exact Attempt.stuckAt_miss _ _
    · cases h
  · exact Attempt.stuckAt_miss _ _

/-- A hyphen that is missed is stuck where it would be. -/
theorem stuckAt_readHyphen {text : List Char} (h : (readHyphen text).result = none) :
    (readHyphen text).StuckAt text := by
  unfold readHyphen at h ⊢
  split at h
  · cases h
  · exact Attempt.stuckAt_miss _ _

/-- The shortest token. -/
theorem isToken_a : isToken "a" = true := by decide +kernel

/-- Any token can be put in place of one that is missing. -/
theorem startable_readToken (expected : Expected) (hmember : member 'a' = false) :
    Startable member (readToken expected) := by
  have := readToken_append expected isToken_a (stops_nil isWord)
  exact ⟨['a'], "a", stops_cons.2 hmember, this⟩

/-- So can a keyword, after white space. -/
theorem startable_readKeyword {word : String} (hword : isToken word = true) :
    Startable isGap (readKeyword word) := by
  have hread := readKeyword_token hword hword (stops_nil isWord)
  rw [if_pos rfl, List.append_nil] at hread
  have hstops := stops_isGap_token hword []
  rw [List.append_nil] at hstops
  exact ⟨word.toList, (), hstops, hread⟩

/-- And so can a hyphen, behind a token. -/
theorem startable_readHyphen : Startable isWord readHyphen :=
  ⟨['-'], (), stops_cons.2 isWord_hyphen, rfl⟩

/-- Pairs stay as they are in front of what does not prolong a word. -/
theorem firm_readPair : Firm isWord readPair := by
  unfold readPair readToken
  refine (firm_readRun isWord _).andThen fun category => ?_
  exact firm_readHyphen.andThen fun _ => (firm_readRun isWord _).map _

/-- A pair that is cut off anywhere can be completed. -/
theorem completable_readPair (text : List Char) : Completable isGap readPair text := by
  have hvalue : ∀ category text, Completable (fun _ => false) (fun text =>
      (readToken .value text).andThen fun value text => .read (Pair.mk category value) text)
      text := by
    intro category text
    refine Completable.andThen_read ?_ _ id rfl
    exact completable_of_stuckAt stuckAt_readRun (startable_readToken .value rfl)
  have hhyphen : ∀ category text, Completable isWord (fun text =>
      (readHyphen text).andThen fun _ text =>
      (readToken .value text).andThen fun value text => .read (Pair.mk category value) text)
      text := by
    intro category text
    refine Completable.andThen firm_readHyphen ?_ (fun _ rest _ => hvalue category rest) ?_
    · exact completable_of_stuckAt stuckAt_readHyphen startable_readHyphen
    · exact fun _ => (hvalue category []).startable rfl
  unfold readPair
  refine Completable.andThen (firm_readRun isWord _) ?_ (fun category rest _ => hhyphen _ rest) ?_
  · exact completable_of_stuckAt stuckAt_readRun
      (startable_readToken .category (isGap_of_isWord (by decide +kernel)))
  · exact fun category => (hhyphen category []).startable rfl

/-! ## Behind white space -/

/-- The form, read behind white space. -/
def afterGap (form : List Char → Attempt α) (text : List Char) : Attempt α :=
  form (skipGap text)

/-- White space in front does not matter. -/
theorem Firm.afterGap {form : List Char → Attempt α} (h : Firm member form) :
    Firm member (afterGap form) where
  exists_used {text rest value} hread := by
    obtain ⟨gap, hgap, htext⟩ := exists_gap text
    obtain ⟨used, hne, hskip, hstops, hused⟩ := h.exists_used hread
    refine ⟨gap ++ used, by simp [hne], ?_, hstops, fun other hother => ?_⟩
    · rw [List.append_assoc, ← hskip]
      exact htext
    · have hstart : Stops isGap (used ++ other) := by
        have := stops_dropWhile isGap text
        rw [← skipGap, hskip, stops_append_iff hne] at this
        exact (stops_append_iff hne other).2 this
      rw [RuleConsult.afterGap, List.append_assoc, skipGap_gap_append _ hgap,
        skipGap_eq_self hstart]
      exact hused other hother
  misses_eq_nil hread := h.misses_eq_nil hread

/-- Behind white space a form is completed on a new line, unless part of it was read. -/
theorem Completable.afterGap {form : List Char → Attempt α} {text : List Char}
    (h : Completable isGap form (skipGap text)) (hmember : member '\n' = false) :
    Completable member (afterGap form) text := by
  intro hfails
  obtain ⟨gap, hgap, htext⟩ := exists_gap text
  obtain ⟨before, place, tail, value, hskip, hstuck, hstops, hdone⟩ := h hfails
  have hstart : Stops isGap (skipGap text) := stops_dropWhile isGap text
  -- If nothing was read, a word may stand right before, so what completes the form is set off.
  by_cases hbefore : before = []
  · subst hbefore
    rw [List.nil_append] at hskip hdone
    refine ⟨gap, place, '\n' :: tail, value, hskip ▸ htext, hstuck, ?_, ?_⟩
    · exact fun _ => stops_cons.2 hmember
    · rw [RuleConsult.afterGap, skipGap_gap_append _ hgap, skipGap_lineFeed,
        skipGap_eq_self (hstops rfl)]
      exact hdone
  · rw [hskip, stops_append_iff hbefore] at hstart
    refine ⟨gap ++ before, place, tail, value, ?_, hstuck, ?_, ?_⟩
    · rw [List.append_assoc, ← hskip]
      exact htext
    · intro hnil
      exact absurd (List.append_eq_nil_iff.1 hnil).2 hbefore
    · rw [RuleConsult.afterGap, List.append_assoc, skipGap_gap_append _ hgap,
        skipGap_eq_self ((stops_append_iff hbefore tail).2 hstart)]
      exact hdone

/-- A keyword after white space can be completed on a new line. -/
theorem completable_keyword {word : String} (hword : isToken word = true)
    (hmember : member '\n' = false) (text : List Char) :
    Completable member (afterGap (readKeyword word)) text :=
  (completable_of_stuckAt stuckAt_readKeyword (startable_readKeyword hword)).afterGap hmember

/-- A pair after white space can be completed on a new line. -/
theorem completable_pair (hmember : member '\n' = false) (text : List Char) :
    Completable member (afterGap readPair) text :=
  (completable_readPair _).afterGap hmember

/-! ## Rules -/

variable (keywords : Keywords)

/-- What follows the conditions of a rule. -/
def readClosing (body : Pair → EntryBody) (text : List Char) : Attempt EntryBody :=
  (afterGap (readKeyword keywords.words.ruleThen) text).andThen fun _ text =>
  (afterGap readPair text).andThen fun conclusion text =>
  .read (body conclusion) text

/-- What follows the first condition of a rule. -/
def readEnding (body : List Pair → Pair → EntryBody) (text : List Char) : Attempt EntryBody :=
  (readConditions keywords text).andThen fun others text => readClosing keywords (body others) text

/-- White space is skipped before the end of a rule. -/
theorem readClosing_skipGap (body : Pair → EntryBody) (text : List Char) :
    readClosing keywords body (skipGap text) = readClosing keywords body text := by
  have hskip : skipGap (skipGap text) = skipGap text :=
    skipGap_eq_self (stops_dropWhile isGap text)
  rw [readClosing, readClosing, afterGap, afterGap, hskip]

/-- The end of a rule can be completed. -/
theorem completable_readClosing (body : Pair → EntryBody) (text : List Char) :
    Completable isWord (readClosing keywords body) text := by
  have hthen := keywords.isToken_get .ruleThen
  have hpair : ∀ text, Completable isWord (fun text =>
      (afterGap readPair text).andThen fun conclusion text => .read (body conclusion) text)
      text := fun text =>
    (completable_pair isWord_lineFeed text).andThen_read _ id rfl
  refine Completable.andThen (firm_readKeyword hthen).afterGap
    (completable_keyword hthen isWord_lineFeed text) (fun _ rest _ => hpair rest) ?_
  exact fun _ => (hpair []).startable rfl

variable {keywords}

/-- Of two keywords at most one is read. -/
theorem readKeyword_of_ne {word other : String} {text : List Char} {success : Unit × List Char}
    (hword : isToken word = true) (hother : isToken other = true) (hne : word ≠ other)
    (h : (readKeyword word text).result = some success) :
    (readKeyword other text).result = none := by
  obtain ⟨u, rest⟩ := success
  obtain ⟨rfl, hstops⟩ := readKeyword_eq_some h
  rw [readKeyword_token hother hword hstops, if_neg hne]

/-- Without a conjunction only the end of the rule is left. -/
theorem readEnding_of_none {text : List Char} (body : List Pair → Pair → EntryBody)
    (hand : (readKeyword keywords.words.ruleAnd (skipGap text)).result = none) :
    readEnding keywords body text =
      ⟨(readKeyword keywords.words.ruleAnd (skipGap text)).misses ++
          (readClosing keywords (body []) text).misses,
        (readClosing keywords (body []) text).result⟩ := by
  have hresult := readConditions_of_none hand
  rw [readEnding, Attempt.andThen_of_some _ hresult, readConditions_eq_of_none hand]

/-- Behind a conjunction stands a pair, and the rule goes on behind it. -/
theorem readEnding_of_some {text : List Char} {success : Unit × List Char}
    (body : List Pair → Pair → EntryBody)
    (hand : (readKeyword keywords.words.ruleAnd (skipGap text)).result = some success) :
    readEnding keywords body text =
      (afterGap (readKeyword keywords.words.ruleAnd) text).andThen fun _ text =>
      (afterGap readPair text).andThen fun condition text =>
      readEnding keywords (fun others => body (condition :: others)) text := by
  obtain ⟨u, afterAnd⟩ := success
  simp only [readEnding, readConditions_eq_of_some hand, Attempt.andThen_assoc,
    Attempt.read_andThen]
  rfl

/-- If the conjunction is missed, the keyword before the conclusion is tried in the same place, so
the conjunction is missed no further on than what the conclusion lacks. -/
theorem completable_readEnding_of_none {text : List Char} (body : List Pair → Pair → EntryBody)
    (hand : (readKeyword keywords.words.ruleAnd (skipGap text)).result = none) :
    Completable isWord (readEnding keywords body) text := by
  intro hfails
  obtain ⟨gap, hgap, htext⟩ := exists_gap text
  have heq := readEnding_of_none body hand
  rw [heq, ← readClosing_skipGap] at hfails
  obtain ⟨before, place, tail, out, hskip, hstuck, hstops, hdone⟩ :=
    completable_readClosing keywords (body []) (skipGap text) hfails
  refine ⟨gap ++ before, place, tail, out, ?_, ?_, ?_, ?_⟩
  · rw [List.append_assoc, ← hskip]
    exact htext
  · -- The keyword of conjunctions is missed no further than where the conclusion is stuck.
    have hle : place.length ≤ (skipGap text).length := by
      rw [hskip, List.length_append]
      omega
    rw [heq, ← readClosing_skipGap]
    refine ⟨hstuck.fails, ?_, ?_⟩
    · intro miss hmiss
      rcases List.mem_append.1 hmiss with hmiss | hmiss
      · exact hle.trans ((stuckAt_readKeyword hand).le miss hmiss)
      · exact hstuck.le miss hmiss
    · obtain ⟨miss, hmiss, hplace⟩ := hstuck.found
      exact ⟨miss, List.mem_append_right _ hmiss, hplace⟩
  · intro hnil
    exact hstops (List.append_eq_nil_iff.1 hnil).2
  · -- What completes the conclusion makes no conjunction of its keyword.
    rw [List.append_assoc]
    have hclosing : (readClosing keywords (body []) (gap ++ (before ++ tail))).result =
        some (out, []) := by
      rw [← readClosing_skipGap, skipGap_gap_append _ hgap, readClosing_skipGap]
      exact hdone
    have hthen := hclosing
    rw [readClosing, Attempt.result_andThen] at hthen
    obtain ⟨success, hthen, -⟩ := Option.bind_eq_some_iff.1 hthen
    have hne : keywords.words.get .ruleThen ≠ keywords.words.get .ruleAnd :=
      keywords.get_ne (by decide)
    have hand' := readKeyword_of_ne (keywords.isToken_get .ruleThen) (keywords.isToken_get .ruleAnd)
      hne hthen
    rw [readEnding_of_none body hand']
    exact hclosing

/-- Any rule can go on with a conclusion. -/
theorem startable_readEnding (body : List Pair → Pair → EntryBody) :
    Startable isWord (readEnding keywords body) := by
  have hnil : ∀ role, (readKeyword (keywords.words.get role) (skipGap [])).result = none :=
    fun role => (local_readKeyword (keywords.isToken_get role) (stops_nil isWord)).nil
  refine (completable_readEnding_of_none body (hnil .ruleAnd)).startable ?_
  rw [readEnding_of_none body (hnil .ruleAnd)]
  have hthen : (afterGap (readKeyword keywords.words.ruleThen) []).result = none :=
    hnil .ruleThen
  exact congrArg Attempt.result (Attempt.andThen_of_none _ hthen)

/-- A conjunction commits the rule to a further condition, and further conditions can be completed
with a conclusion. -/
theorem completable_readEnding (body : List Pair → Pair → EntryBody) (text : List Char) :
    Completable isWord (readEnding keywords body) text := by
  have hand : isToken keywords.words.ruleAnd = true := keywords.isToken_get .ruleAnd
  induction text using conjunction_induction keywords generalizing body with
  | ends text hnone => exact completable_readEnding_of_none body hnone
  | commits text u afterAnd hread ih =>
    have hpair : ∀ text, (∀ condition rest,
          (afterGap readPair text).result = some (condition, rest) →
          Completable isWord (readEnding keywords fun others => body (condition :: others)) rest) →
        Completable isWord (fun text => (afterGap readPair text).andThen fun condition text =>
          readEnding keywords (fun others => body (condition :: others)) text) text :=
      fun text hmore => Completable.andThen firm_readPair.afterGap
        (completable_pair isWord_lineFeed text) hmore fun condition => startable_readEnding _
    have hsequence : Completable isWord (fun text =>
        (afterGap (readKeyword keywords.words.ruleAnd) text).andThen fun _ text =>
        (afterGap readPair text).andThen fun condition text =>
        readEnding keywords (fun others => body (condition :: others)) text) text := by
      refine Completable.andThen (firm_readKeyword hand).afterGap
        (completable_keyword hand isWord_lineFeed text) ?_ ?_
      · intro _ rest hrest
        cases hread.symm.trans hrest
        exact hpair afterAnd fun condition rest hcondition => ih condition rest hcondition _
      · intro _
        exact (hpair [] fun condition rest hcondition => by cases hcondition).startable rfl
    -- In the text and in its completion the conjunction is read, so the two forms agree in both.
    intro hfails
    have heq := readEnding_of_some body hread
    rw [heq] at hfails ⊢
    obtain ⟨before, place, tail, out, htext, hstuck, hstops, hdone⟩ := hsequence hfails
    refine ⟨before, place, tail, out, htext, hstuck, hstops, ?_⟩
    have hagain := hdone
    dsimp only at hagain
    rw [Attempt.result_andThen] at hagain
    obtain ⟨success, hagain, -⟩ := Option.bind_eq_some_iff.1 hagain
    rw [readEnding_of_some body hagain]
    exact hdone

/-- What follows the number of a rule. -/
def readRuleBody (keywords : Keywords) (number : String) (text : List Char) : Attempt EntryBody :=
  (afterGap (readKeyword keywords.words.ruleIf) text).andThen fun _ text =>
  (afterGap readPair text).andThen fun first text =>
  readEnding keywords (fun others conclusion => .rule number (first :: others) (some conclusion))
    text

theorem readRule_eq (text : List Char) :
    readRule keywords text =
      (readRun isNumberDigit .ruleNumber text).andThen (readRuleBody keywords) := rfl

/-- All of a rule behind its number can be completed. -/
theorem completable_readRuleBody (number : String) (text : List Char) :
    Completable isNumberDigit (readRuleBody keywords number) text := by
  have hif : isToken keywords.words.ruleIf = true := keywords.isToken_get .ruleIf
  have hpair : ∀ text, Completable isWord (fun text =>
      (afterGap readPair text).andThen fun first text =>
      readEnding keywords
        (fun others conclusion => .rule number (first :: others) (some conclusion)) text) text :=
    fun text => Completable.andThen firm_readPair.afterGap (completable_pair isWord_lineFeed text)
      (fun first rest _ => completable_readEnding _ rest) fun first => startable_readEnding _
  exact Completable.andThen (firm_readKeyword hif).afterGap (completable_keyword hif rfl text)
    (fun _ rest _ => hpair rest) fun _ => (hpair []).startable rfl

/-- A rule that goes wrong behind its number can be completed. -/
theorem completableInside_readRule {text rest : List Char} {number : String}
    (hnumber : (readRun isNumberDigit .ruleNumber text).result = some (number, rest))
    (hfails : (readRule keywords text).result = none) :
    CompletableInside (readRule keywords) text :=
  Completable.behind (firm_readRun isNumberDigit _) hnumber
    (completable_readRuleBody number rest) hfails

/-! ## Bindings -/

/-- What follows the keyword of a binding. -/
def readBindingBody (kind : BindingKind) (text : List Char) : Attempt EntryBody :=
  (afterGap (readToken .category) text).andThen fun category text =>
  .read (.binding kind category
      (String.ofList (trimList (· == ' ') ((skipBlank text).takeWhile isFreeText))))
    ((skipBlank text).dropWhile isFreeText)

theorem readBinding_eq (kind : BindingKind) (text : List Char) :
    readBinding keywords kind text =
      (readKeyword (kind.word keywords) text).andThen fun _ => readBindingBody kind := rfl

/-- All of a binding behind its keyword can be completed. -/
theorem completable_readBindingBody (kind : BindingKind) (text : List Char) :
    Completable isWord (readBindingBody kind) text := by
  have hstart : Startable isGap (readToken .category) :=
    startable_readToken .category (isGap_of_isWord (by decide +kernel))
  exact ((completable_of_stuckAt stuckAt_readRun hstart).afterGap isWord_lineFeed).andThen_read _
    (fun text => (skipBlank text).dropWhile isFreeText) rfl

/-- A binding that goes wrong behind its keyword can be completed. -/
theorem completableInside_readBinding {text rest : List Char} {kind : BindingKind} {u : Unit}
    (hkeyword : (readKeyword (kind.word keywords) text).result = some (u, rest))
    (hfails : (readBinding keywords kind text).result = none) :
    CompletableInside (readBinding keywords kind) text :=
  Completable.behind (firm_readKeyword (kind.isToken_word keywords)) hkeyword
    (completable_readBindingBody kind rest) hfails

end RuleConsult
