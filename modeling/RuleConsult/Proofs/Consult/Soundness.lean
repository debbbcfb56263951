import RuleConsult.Proofs.Base.Built
import RuleConsult.Proofs.Consult.Calls
import Mathlib

/-!
# Inference is sound

The memory of an engine is what its log makes of the initial facts: every event of the log writes a
value, and later values replace earlier ones. `Follows` says this, together with what held at each
event: a rule was the first that could fire, and nothing was known about a category for which an
answer was accepted. The second is why answers may be told apart from conclusions afterwards: no
conclusion was there for an answer to replace, so the conclusions may as well be stored last.

* `Follows.after`: after any calls an engine has come from its start by its log;
* `get?_replay`: answers first, conclusions last makes no difference;
* `inference_sound`: the state of an engine after any calls.
-/

namespace RuleConsult

/-! ## Logs -/

/-- The fact that a rule concludes. -/
def Rule.concluded (rule : Rule) : String × String :=
  (rule.conclusion.category, rule.conclusion.value)

namespace Event

/-- The fact that an event writes. -/
def fact : Event → String × String
  | .fired rule => rule.concluded
  | .answered category value => (category, value)

/-- The rule that fires, if one does. -/
def rule? : Event → Option Rule
  | .fired rule => some rule
  | .answered .. => none

/-- The answer that is accepted, if one is. -/
def answer? : Event → Option (String × String)
  | .fired _ => none
  | .answered category value => some (category, value)

end Event

/-- The rules that fired, in order. -/
def firedRules (log : List Event) : List Rule := log.filterMap Event.rule?

/-- The answers that were accepted, in order. -/
def acceptedAnswers (log : List Event) : List (String × String) := log.filterMap Event.answer?

/-- What a log makes of facts. -/
def replay (facts : Facts) (log : List Event) : Facts := facts.insertMany (log.map Event.fact)

/-- Rules fire in the order of the log. -/
theorem firedRules_append (xs ys : List Event) :
    firedRules (xs ++ ys) = firedRules xs ++ firedRules ys :=
  List.filterMap_append

/-- Answers are accepted in the order of the log. -/
theorem acceptedAnswers_append (xs ys : List Event) :
    acceptedAnswers (xs ++ ys) = acceptedAnswers xs ++ acceptedAnswers ys :=
  List.filterMap_append

/-- The last event of a log is replayed last. -/
theorem replay_concat (facts : Facts) (log : List Event) (event : Event) :
    replay facts (log ++ [event]) = (replay facts log).insert event.fact.1 event.fact.2 := by
  rw [replay, List.map_append, List.map_singleton, Table.insertMany_concat]
  rfl

/-- A rule has fired if the log says so. -/
theorem mem_firedRules {log : List Event} {rule : Rule} :
    rule ∈ firedRules log ↔ Event.fired rule ∈ log := by
  rw [firedRules, List.mem_filterMap]
  constructor
  · rintro ⟨⟨_⟩ | ⟨_, _⟩, hevent, h⟩
    · cases h
      exact hevent
    · cases h
  · exact fun h => ⟨_, h, rfl⟩

/-- What is known was known at first, or is an accepted answer or a conclusion. -/
theorem source_of_replay {facts : Facts} {log : List Event} {category value : String}
    (h : (replay facts log).get? category = some value) :
    facts.get? category = some value ∨ .answered category value ∈ log ∨
      ∃ rule ∈ firedRules log, rule.conclusion = ⟨category, value⟩ := by
  rcases Table.get?_insertMany_eq_some h with hfact | hmem
  · exact Or.inl hfact
  · obtain ⟨event, hevent, heq⟩ := List.mem_map.1 hmem
    cases event with
    | fired rule =>
      cases heq
      exact Or.inr (Or.inr ⟨rule, mem_firedRules.2 hevent, rfl⟩)
    | answered asked answer =>
      cases heq
      exact Or.inr (Or.inl hevent)

/-! ## What held at an event -/

/-- A rule that fired when it was its turn, after the events before it. -/
structure FiresInTurn (start : Engine) (before : List Event) (rule : Rule) : Prop where
  mem : rule ∈ start.base.rules
  unfired : rule.id ∉ (firedRules before).map Rule.id
  satisfied : rule.isSatisfiedBy (replay start.memory before) = true
  /-- Every other rule that could have fired has a greater number. -/
  first : ∀ other ∈ start.base.rules, other.id ∉ (firedRules before).map Rule.id →
    other.isSatisfiedBy (replay start.memory before) = true → other ≠ rule → rule.id < other.id
  /-- The consultation was not resolved. -/
  unresolved : ∀ category ∈ start.wanted, (replay start.memory before).get? category = none

/-- What holds at an event, after the events before it. -/
def Rightly (start : Engine) (before : List Event) : Event → Prop
  | .fired rule => FiresInTurn start before rule
  | .answered category _ => (replay start.memory before).get? category = none

/-- At each event of the log held what should. -/
def RightlyLogged (start : Engine) (log : List Event) : Prop :=
  ∀ before event later, log = before ++ event :: later → Rightly start before event

variable {start : Engine} {log : List Event} {event : Event}

/-- Nothing is wrong with an empty log. -/
theorem rightlyLogged_nil (start : Engine) : RightlyLogged start [] := by
  intro before event later h
  simp at h

/-- What was logged before was logged rightly, too. -/
theorem RightlyLogged.init (h : RightlyLogged start (log ++ [event])) :
    RightlyLogged start log := by
  intro before first later heq
  refine h before first (later ++ [event]) ?_
  rw [heq, List.append_assoc, List.cons_append]

/-- The last event was right after those before it. -/
theorem RightlyLogged.last (h : RightlyLogged start (log ++ [event])) : Rightly start log event :=
  h log event [] rfl

/-- An event that is right after a log may be logged. -/
theorem RightlyLogged.concat (h : RightlyLogged start log) (hlast : Rightly start log event) :
    RightlyLogged start (log ++ [event]) := by
  intro before first later heq
  -- The event is the last one, or it was logged before.
  rcases List.eq_nil_or_concat later with rfl | ⟨init, last, rfl⟩
  · obtain ⟨rfl, hevent⟩ := List.append_inj' heq rfl
    cases hevent
    exact hlast
  · rw [List.concat_eq_append, ← List.cons_append, ← List.append_assoc] at heq
    exact h before first init (List.append_inj' heq rfl).1

/-- No number fires twice. -/
theorem RightlyLogged.nodup (h : RightlyLogged start log) :
    ((firedRules log).map Rule.id).Nodup := by
  induction log using List.reverseRecOn with
  | nil => exact List.nodup_nil
  | append_singleton log event ih =>
    rw [firedRules_append]
    cases event with
    | fired rule =>
      rw [show firedRules [Event.fired rule] = [rule] from rfl, nodup_map_concat]
      exact ⟨(h.last : FiresInTurn start log rule).unfired, ih h.init⟩
    | answered category value =>
      rw [show firedRules [Event.answered category value] = [] from rfl, List.append_nil]
      exact ih h.init

/-- Only rules of the base fire. -/
theorem RightlyLogged.mem_rules (h : RightlyLogged start log) {rule : Rule}
    (hrule : rule ∈ firedRules log) : rule ∈ start.base.rules := by
  obtain ⟨before, later, heq⟩ := List.append_of_mem (mem_firedRules.1 hrule)
  exact (h before _ later heq : FiresInTurn start before rule).mem

/-- Answers may be stored before all conclusions, in whatever order they came. -/
theorem get?_replay (h : RightlyLogged start log) (category : String) :
    (replay start.memory log).get? category =
      ((start.memory.insertMany (acceptedAnswers log)).insertMany
        ((firedRules log).map Rule.concluded)).get? category := by
  induction log using List.reverseRecOn with
  | nil => rfl
  | append_singleton log event ih =>
    have hinit := ih h.init
    rw [replay_concat, Table.get?_insert, firedRules_append, acceptedAnswers_append,
      List.map_append]
    cases event with
    | fired rule =>
      -- A conclusion is the last entry on both sides.
      rw [show acceptedAnswers [Event.fired rule] = [] from rfl,
        show (firedRules [Event.fired rule]).map Rule.concluded = [rule.concluded] from rfl,
        List.append_nil, Table.insertMany_concat, Table.get?_insert, hinit]
      rfl
    | answered asked answer =>
      rw [show acceptedAnswers [Event.answered asked answer] = [(asked, answer)] from rfl,
        show (firedRules [Event.answered asked answer]).map Rule.concluded = [] from rfl,
        List.append_nil, Table.insertMany_concat]
      by_cases heq : category = asked
      · -- Nothing was known, so there is no conclusion about the category.
        subst heq
        have hnone := h.last
        rw [Rightly, replay, Table.get?_insertMany_eq_none_iff] at hnone
        have habsent : ∀ entry ∈ (firedRules log).map Rule.concluded, entry.1 ≠ category := by
          intro entry hentry
          obtain ⟨rule, hrule, rfl⟩ := List.mem_map.1 hentry
          exact hnone.2 _ (List.mem_map.2 ⟨_, mem_firedRules.1 hrule, rfl⟩)
        rw [Table.get?_insertMany_of_ne habsent]
        simp [Event.fact]
      · have hsame : ((start.memory.insertMany (acceptedAnswers log)).insert asked answer).get?
            category = (start.memory.insertMany (acceptedAnswers log)).get? category := by
          rw [Table.get?_insert, if_neg heq]
        rw [Table.get?_insertMany_congr hsame, ← hinit]
        simp [Event.fact, heq]

/-! ## Following a log -/

/-- An engine that has come from `start` by the events of a log. -/
structure Follows (start : Engine) (log : List Event) (engine : Engine) : Prop where
  base : engine.base = start.base
  target : engine.target = start.target
  focused : engine.focused = start.focused
  memory : engine.memory = replay start.memory log
  fired : engine.fired = (firedRules log).map Rule.id
  rightly : RightlyLogged start log

namespace Follows

variable {engine : Engine}

/-- An engine that nothing happened to follows itself. -/
theorem refl (h : start.fired = []) : Follows start [] start :=
  ⟨rfl, rfl, rfl, rfl, h, rightlyLogged_nil start⟩

/-- What is wanted does not change. -/
theorem wanted (h : Follows start log engine) : engine.wanted = start.wanted := by
  rw [Engine.wanted, Engine.wanted, h.base, h.target]

/-- Stopping changes nothing that the log speaks of. -/
theorem settle (h : Follows start log engine) : Follows start log engine.settle :=
  ⟨h.base, h.target, h.focused, h.memory, h.fired, h.rightly⟩

/-- The rule that is to be fired next fires in turn. -/
theorem firesInTurn (h : Follows start log engine) (hbase : start.base.IsSound) {rule : Rule}
    (hnext : engine.next? = some rule) : FiresInTurn start log rule := by
  obtain ⟨hreached, heligible⟩ := Engine.next?_eq_some_iff.1 hnext
  rw [Engine.eligible?] at heligible
  have hunfired : ∀ other : Rule, other ∈ engine.unfired ↔
      other ∈ start.base.rules ∧ other.id ∉ (firedRules log).map Rule.id := by
    intro other
    rw [Engine.mem_unfired, h.base, h.fired]
  obtain ⟨hrule, hnew⟩ := (hunfired rule).1 (Engine.mem_unfired_of_next? hnext)
  have hsatisfied : rule.isSatisfiedBy engine.memory = true := by
    simpa using List.find?_some heligible
  refine ⟨hrule, hnew, h.memory ▸ hsatisfied, fun other hother hnew' hsat hne => ?_, ?_⟩
  · -- Rules with smaller numbers stand in front of the rule, and the search passed over them.
    have hascending : engine.unfired.Pairwise fun a b => a.id < b.id := by
      rw [Engine.unfired, h.base]
      exact hbase.ascending.filter _
    obtain ⟨-, before, later, hsplit, hbefore⟩ := List.find?_eq_some_iff_append.1 heligible
    have hmem := (hunfired other).2 ⟨hother, hnew'⟩
    rw [hsplit] at hmem hascending
    rcases List.mem_append.1 hmem with hmem | hmem
    · have := hbefore other hmem
      rw [h.memory, hsat] at this
      cases this
    · rcases List.mem_cons.1 hmem with rfl | hmem
      · exact absurd rfl hne
      · exact List.rel_of_pairwise_cons (List.pairwise_append.1 hascending).2.1 hmem
  · rw [← h.wanted, ← h.memory]
    exact Engine.reached?_eq_none_iff.1 hreached

/-- Firing a rule is an event. -/
theorem fire (h : Follows start log engine) (hbase : start.base.IsSound) {rule : Rule}
    (hnext : engine.next? = some rule) :
    Follows start (log ++ [.fired rule]) (engine.fire rule) where
  base := h.base
  target := h.target
  focused := h.focused
  memory := by
    rw [replay_concat, ← h.memory]
    rfl
  fired := by
    rw [firedRules_append, List.map_append, ← h.fired]
    rfl
  rightly := h.rightly.concat (h.firesInTurn hbase hnext)

/-- Accepting an answer is an event. -/
theorem learn (h : Follows start log engine) {category : String}
    (hnone : engine.memory.get? category = none) (value : String) :
    Follows start (log ++ [.answered category value]) (engine.learn category value) where
  base := h.base
  target := h.target
  focused := h.focused
  memory := by
    rw [replay_concat, ← h.memory]
    rfl
  fired := by
    rw [firedRules_append, List.map_append, ← h.fired]
    exact (List.append_nil _).symm
  rightly := h.rightly.concat (by rw [Rightly, ← h.memory]; exact hnone)

/-- After any calls an engine has come from its start by its log. -/
theorem after {base : Base} (hbase : base.IsSound) {target : Datum}
    {given : List (Datum × Datum)} {focused : Bool}
    (hstart : Engine.start base target given focused = .ok start) (calls : List Call) :
    Follows start (start.log calls) (start.after calls) := by
  have hstanding := Engine.isStanding_of_start hstart
  obtain ⟨target?, facts, -, -, rfl⟩ := Engine.start_eq_ok hstart
  apply Engine.after_induction hstanding
  · exact refl rfl
  · intro log engine h _
    exact h.settle
  · intro log engine rule h hnext
    exact h.fire hbase hnext
  · intro log engine asked answer h hstopped hpending _
    exact h.learn (Engine.get?_of_pending (Or.inr hstopped) hpending) answer

end Follows

/-! ## Soundness -/

/-- Firing rules is no answer. -/
theorem acceptedAnswers_firings (engine : Engine) :
    acceptedAnswers (engine.firings.map Event.fired) = [] := by
  rw [acceptedAnswers, List.filterMap_map, List.filterMap_eq_nil_iff]
  exact fun _ _ => rfl

theorem Datum.eq_text_of_text? {value : Datum} {text : String} (h : value.text? = some text) :
    value = .text text := by
  cases value <;> cases h
  rfl

/-- The answer that is logged at a call is the one that is not refused. -/
theorem acceptedAnswers_callLog (engine : Engine) (call : Call) :
    acceptedAnswers (engine.callLog call) = engine.acceptedAt call := by
  cases call with
  | run =>
    rw [Engine.callLog]
    split
    · rfl
    · -- Firing rules is logged, but answers nothing.
      exact acceptedAnswers_firings engine
  | supply category value =>
    cases hpending : engine.pending with
    | none =>
      rw [Engine.acceptedAt, Engine.supply_of_none hpending, Engine.callLog, hpending]
      rfl
    | some asked =>
      rw [Engine.acceptedAt, Engine.supply_of_some hpending, Engine.callLog, hpending]
      cases hvalue : value.token? with
      | none =>
        by_cases hcategory : category.text? = some asked
        · rw [if_pos hcategory]
          rfl
        · rw [if_neg hcategory]
          rfl
      | some answer =>
        by_cases hcategory : category.text? = some asked
        · rw [if_pos hcategory]
          simp only [if_pos hcategory, acceptedAnswers, List.filterMap_cons, Event.answer?]
          rw [← acceptedAnswers, acceptedAnswers_firings, Datum.eq_text_of_text? hcategory,
            Datum.eq_text_of_token? hvalue]
          rfl
        · rw [if_neg hcategory]
          simp only [if_neg hcategory]
          rfl

/-- The log has the answers that the calls were accepted with. -/
theorem acceptedAnswers_log (engine : Engine) (calls : List Call) :
    acceptedAnswers (engine.log calls) = engine.accepted calls := by
  induction calls generalizing engine with
  | nil => rfl
  | cons call calls ih =>
    rw [Engine.log, Engine.accepted, acceptedAnswers_append, acceptedAnswers_callLog, ih]

/-- A consultation over a base that was built starts from the given facts. After any calls no number
fired twice, and the log holds the rules that fired and the answers that were not refused; every
rule fired in turn, and each of its conditions was an initial fact, an accepted answer or a
conclusion before it; and what is known are the initial facts and the accepted answers, replaced by
the conclusions of the rules in the order in which they fired. -/
theorem inference_sound {entries : List Entry} {base : Base} {issues : List Issue}
    {notices : List Notice} (hbuild : build entries = .ok ⟨some base, issues, notices⟩)
    {target : Datum} {given : List (Datum × Datum)} {focused : Bool} {start : Engine}
    (hstart : Engine.start base target given focused = .ok start) (calls : List Call) :
    start.memory = Table.ofList (given.map fun entry => (entry.1.plain, entry.2.plain)) ∧
      (start.after calls).fired.Nodup ∧
      (start.after calls).fired = (firedRules (start.log calls)).map Rule.id ∧
      acceptedAnswers (start.log calls) = start.accepted calls ∧
      (start.after calls).memory = replay start.memory (start.log calls) ∧
      (∀ before rule later, start.log calls = before ++ .fired rule :: later →
        FiresInTurn start before rule ∧
          ∀ pair ∈ rule.conditions, start.memory.get? pair.category = some pair.value ∨
            .answered pair.category pair.value ∈ before ∨
            ∃ earlier ∈ firedRules before, earlier.conclusion = pair) ∧
      ∀ category, (start.after calls).memory.get? category =
        ((start.memory.insertMany (start.accepted calls)).insertMany
          (((start.after calls).fired.filterMap base.rule?).map Rule.concluded)).get? category := by
  have hbase := Base.isSound_of_build hbuild
  have h := Follows.after hbase hstart calls
  obtain ⟨target?, facts, -, hfacts, rfl⟩ := Engine.start_eq_ok hstart
  refine ⟨Engine.eq_ofList_of_checkFacts hfacts, h.fired ▸ h.rightly.nodup, h.fired,
    acceptedAnswers_log _ calls, h.memory, fun before rule later hsplit => ?_,
    fun category => ?_⟩
  · have hfires : FiresInTurn _ before rule := h.rightly before (.fired rule) later hsplit
    refine ⟨hfires, fun pair hpair => ?_⟩
    have hholds := List.all_eq_true.1 hfires.satisfied pair hpair
    exact source_of_replay (by simpa using hholds)
  · rw [h.memory, get?_replay h.rightly, acceptedAnswers_log, h.fired,
      hbase.filterMap_rule? fun rule hrule => h.rightly.mem_rules hrule]

/-- Three rules that fire after an answer, one by one. -/
theorem inference_sound_exampleEntries :
    ∃ start, Engine.start (declaredBase exampleEntries) (.text "c") [] false = .ok start ∧
      (start.after [.run, .supply (.text "a") (.text "x")]).fired = [1, 2, 3] ∧
      (start.after [.run, .supply (.text "a") (.text "x")]).fired.Nodup := by
  obtain ⟨notices, hbuild⟩ := build_exampleEntries
  have hstart : Engine.start (declaredBase exampleEntries) (.text "c") [] false =
      .ok (.fresh (declaredBase exampleEntries) (some "c") Table.empty false) := rfl
  obtain ⟨-, hnodup, -⟩ := inference_sound hbuild hstart [.run, .supply (.text "a") (.text "x")]
  exact ⟨_, hstart, by cbv, hnodup⟩

end RuleConsult
