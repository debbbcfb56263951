import RuleConsult.Proofs.Consult.Soundness
import Mathlib

/-!
# Every consultation ends

This holds over any base, also over one in which rules share a number or undo each other's
conclusions for ever. Two things are used up in a consultation. A number fires at most once, so
every run ends. And a category is asked for only while nothing is known about it, while a category
of which something is known stays known, whatever replaces its value; so no category is asked for
twice.

* `Engine.Chains`: the rounds of a run, one by one;
* `Advances.after`: what is used up by the events of a log;
* `Engine.asked_eq`: the categories asked for are those answered and the one that is pending;
* `consultation_ends`: bounds on firings, questions and answers.
-/

namespace RuleConsult

namespace Engine

/-! ## Runs -/

/-- The rounds of a run: rules are fired, each of them the one that is next, until none is. -/
inductive Chains : Engine → List Rule → Engine → Prop
  | stops {engine : Engine} (none_next : engine.next? = none) : Chains engine [] engine
  | fires {engine last : Engine} {rule : Rule} {rules : List Rule}
      (next : engine.next? = some rule) (rest : Chains (engine.fire rule) rules last) :
      Chains engine (rule :: rules) last

/-- From every engine there are finitely many rounds. -/
theorem chains_firings (engine : Engine) :
    engine.Chains engine.firings (engine.firings.foldl fire engine) := by
  induction engine using chain_induction with
  | stops engine hnone =>
    rw [firings_of_none hnone]
    exact Chains.stops hnone
  | fires engine rule hsome ih =>
    rw [firings_of_some hsome]
    exact Chains.fires hsome ih

/-! ## Questions -/

/-- The category that is asked for anew at a call, if there is one. A run while a question is
pending only repeats it. -/
def askedAt (engine : Engine) : Call → List String
  | .run => if engine.pending.isSome then [] else engine.run.pending.toList
  | .supply category value =>
    match engine.supply category value with
    | .ok next => next.pending.toList
    | .error _ => []

/-- The categories that are asked for at some calls, in order. -/
def asked (engine : Engine) : List Call → List String
  | [] => []
  | call :: calls => engine.askedAt call ++ (engine.call call).asked calls

/-- The categories that a consultation may ask for: those of conditions of which nothing is known
and for which there is a question, each of them once. -/
def askable (engine : Engine) : List String :=
  (engine.base.rules.flatMap Rule.conditionCategories).dedup.filter fun category =>
    !engine.memory.contains category && engine.base.advice.contains category

/-- Askable is an unknown category of a condition that has a question. -/
theorem mem_askable {engine : Engine} {category : String} :
    category ∈ engine.askable ↔
      (∃ rule ∈ engine.base.rules, category ∈ rule.conditionCategories) ∧
        engine.memory.get? category = none ∧ engine.base.advice.contains category = true := by
  rw [askable, List.mem_filter, List.mem_dedup, List.mem_flatMap, Bool.and_eq_true,
    Bool.not_eq_true', Table.contains_eq_isSome, Option.isSome_eq_false_iff,
    Option.isNone_iff_eq_none]

theorem accepted_concat (engine : Engine) (calls : List Call) (call : Call) :
    engine.accepted (calls ++ [call]) =
      engine.accepted calls ++ (engine.after calls).acceptedAt call := by
  induction calls generalizing engine with
  | nil => simp [accepted, after]
  | cons first calls ih =>
    rw [List.cons_append, accepted, ih, accepted, List.append_assoc]
    rfl

/-- A call answers the pending question and asks a new one, or it does neither. -/
theorem pending_append_askedAt {engine : Engine} (h : engine.IsStanding) (call : Call) :
    engine.pending.toList ++ engine.askedAt call =
      (engine.acceptedAt call).map Prod.fst ++ (engine.call call).pending.toList := by
  cases call with
  | run =>
    cases hpending : engine.pending with
    | none =>
      rw [askedAt, hpending]
      rfl
    | some category =>
      -- The same question is pending before and after, and it is not counted twice.
      have hrun : (engine.call .run).pending = some category := by
        rw [Engine.call, respond, run_of_pending h hpending, hpending]
      rw [askedAt, hpending, hrun]
      rfl
  | supply category value =>
    cases hpending : engine.pending with
    | none =>
      -- Nothing is pending, nothing is accepted, and nothing is asked.
      simp only [askedAt, acceptedAt, Engine.call, respond, supply_of_none hpending, hpending]
      rfl
    | some pending =>
      simp only [askedAt, acceptedAt, Engine.call, respond, supply_of_some hpending]
      by_cases hcategory : category.text? = some pending
      · rw [if_pos hcategory]
        cases value.token? with
        | none =>
          rw [hpending]
          rfl
        | some answer =>
          rw [Datum.eq_text_of_text? hcategory]
          rfl
      · rw [if_neg hcategory, hpending]
        rfl

/-- The categories asked for are those for which an answer was accepted, in the same order, and the
one that is pending. -/
theorem asked_eq {engine : Engine} (h : engine.IsStanding) (hpending : engine.pending = none)
    (calls : List Call) :
    engine.asked calls =
      (engine.accepted calls).map Prod.fst ++ (engine.after calls).pending.toList := by
  -- A question that is pending at the beginning is counted with those that are asked.
  have hgeneral : ∀ calls (engine : Engine), engine.IsStanding →
      engine.pending.toList ++ engine.asked calls =
        (engine.accepted calls).map Prod.fst ++ (engine.after calls).pending.toList := by
    intro calls
    induction calls with
    | nil =>
      intro engine _
      exact List.append_nil _
    | cons call calls ih =>
      intro engine h
      calc engine.pending.toList ++ engine.asked (call :: calls)
          = (engine.pending.toList ++ engine.askedAt call) ++ (engine.call call).asked calls := by
            rw [asked, List.append_assoc]
        _ = (engine.acceptedAt call).map Prod.fst ++
              ((engine.call call).pending.toList ++ (engine.call call).asked calls) := by
            rw [pending_append_askedAt h, List.append_assoc]
        _ = (engine.acceptedAt call).map Prod.fst ++
              (((engine.call call).accepted calls).map Prod.fst ++
                ((engine.call call).after calls).pending.toList) := by
            rw [ih _ (isStanding_call h call)]
        _ = (engine.accepted (call :: calls)).map Prod.fst ++
              (engine.after (call :: calls)).pending.toList := by
            rw [accepted, List.map_append, List.append_assoc]
            rfl
  have := hgeneral calls engine h
  rwa [hpending] at this

end Engine

/-! ## What is used up -/

/-- An engine that has come from `start` by the events of a log, over whatever base. -/
structure Advances (start : Engine) (log : List Event) (engine : Engine) : Prop where
  base : engine.base = start.base
  fired : engine.fired = (firedRules log).map Rule.id
  /-- No number fired twice. -/
  once : ((firedRules log).map Rule.id).Nodup
  mem : ∀ rule ∈ firedRules log, rule ∈ start.base.rules
  /-- What was known at first or was answered is known. -/
  known : ∀ category, start.memory.get? category ≠ none ∨
    category ∈ (acceptedAnswers log).map Prod.fst → engine.memory.get? category ≠ none
  askable : ∀ category ∈ (acceptedAnswers log).map Prod.fst, category ∈ start.askable
  /-- No category was answered twice. -/
  distinct : ((acceptedAnswers log).map Prod.fst).Nodup

namespace Advances

variable {start engine : Engine} {log : List Event}

theorem refl (h : start.fired = []) : Advances start [] start where
  base := rfl
  fired := h
  once := List.nodup_nil
  mem := by simp [firedRules]
  known := by simp [acceptedAnswers]
  askable := by simp [acceptedAnswers]
  distinct := List.nodup_nil

/-- Settling advances by nothing. -/
theorem settle (h : Advances start log engine) : Advances start log engine.settle :=
  ⟨h.base, h.fired, h.once, h.mem, h.known, h.askable, h.distinct⟩

/-- The number of a rule that fires is a new one. -/
theorem fire (h : Advances start log engine) {rule : Rule} (hnext : engine.next? = some rule) :
    Advances start (log ++ [.fired rule]) (engine.fire rule) := by
  obtain ⟨hmem, hnew⟩ := Engine.mem_unfired.1 (Engine.mem_unfired_of_next? hnext)
  have hfired : firedRules (log ++ [.fired rule]) = firedRules log ++ [rule] :=
    firedRules_append log _
  have hanswers : acceptedAnswers (log ++ [.fired rule]) = acceptedAnswers log := by
    rw [acceptedAnswers_append]
    exact List.append_nil _
  rw [h.base] at hmem
  rw [h.fired] at hnew
  constructor
  case base => exact h.base
  case fired =>
    rw [hfired, List.map_append, ← h.fired]
    rfl
  case once =>
    rw [hfired, nodup_map_concat]
    exact ⟨hnew, h.once⟩
  case mem =>
    intro other hother
    rw [hfired] at hother
    rcases List.mem_append.1 hother with hother | hother
    · exact h.mem other hother
    · rw [List.mem_singleton.1 hother]
      exact hmem
  case known =>
    -- The value of the concluded category may change, but none is forgotten.
    intro category hknown
    rw [hanswers] at hknown
    exact Table.get?_insert_ne_none (Or.inr (h.known category hknown))
  case askable =>
    rw [hanswers]
    exact h.askable
  case distinct =>
    rw [hanswers]
    exact h.distinct

/-- A category that is asked for may be, and it was not answered before. -/
theorem askable_of_pending (h : Advances start log engine) (hstopped : engine.IsStopped)
    {category : String} (hpending : engine.pending = some category) :
    category ∈ start.askable ∧ category ∉ (acceptedAnswers log).map Prod.fst := by
  have hunknown := Engine.get?_of_pending (Or.inr hstopped) hpending
  obtain ⟨-, hmissing, hadvice, -⟩ := hstopped.of_pending hpending
  obtain ⟨rule, hunfired, -, hcondition⟩ := Engine.exists_of_nextMissing? hmissing
  obtain ⟨hrule, -⟩ := Engine.mem_unfired.1 hunfired
  rw [h.base] at hrule hadvice
  constructor
  · rw [Engine.mem_askable]
    refine ⟨⟨rule, hrule, (List.mem_filter.1 hcondition).1⟩, ?_, hadvice⟩
    by_contra hknown
    exact h.known category (Or.inl hknown) hunknown
  · intro hanswered
    exact h.known category (Or.inr hanswered) hunknown

/-- Learning an answer advances by that answer. -/
theorem learn (h : Advances start log engine) (hstopped : engine.IsStopped) {asked : String}
    (hpending : engine.pending = some asked) (answer : String) :
    Advances start (log ++ [.answered asked answer]) (engine.learn asked answer) := by
  -- The question was askable when it was put, and its category is not among the answered ones.
  obtain ⟨haskable, hnew⟩ := h.askable_of_pending hstopped hpending
  have hfired : firedRules (log ++ [.answered asked answer]) = firedRules log := by
    rw [firedRules_append]
    exact List.append_nil _
  have hanswers : (acceptedAnswers (log ++ [.answered asked answer])).map Prod.fst =
      (acceptedAnswers log).map Prod.fst ++ [asked] := by
    rw [acceptedAnswers_append, List.map_append]
    rfl
  constructor
  case base => exact h.base
  case fired =>
    rw [hfired]
    exact h.fired
  case once =>
    rw [hfired]
    exact h.once
  case mem =>
    rw [hfired]
    exact h.mem
  case known =>
    intro category hknown
    rw [hanswers, List.mem_append, List.mem_singleton, ← or_assoc] at hknown
    exact Table.get?_insert_ne_none (hknown.symm.imp_right (h.known category))
  case askable =>
    intro category hcategory
    rw [hanswers] at hcategory
    rcases List.mem_append.1 hcategory with hcategory | hcategory
    · exact h.askable category hcategory
    · rw [List.mem_singleton.1 hcategory]
      exact haskable
  case distinct =>
    rw [hanswers, ← List.concat_eq_append, List.nodup_concat]
    exact ⟨hnew, h.distinct⟩

/-- After any calls an engine has come from its start by its log. -/
theorem after {base : Base} {target : Datum} {given : List (Datum × Datum)} {focused : Bool}
    (hstart : Engine.start base target given focused = .ok start) (calls : List Call) :
    Advances start (start.log calls) (start.after calls) := by
  have hstanding := Engine.isStanding_of_start hstart
  obtain ⟨target?, facts, -, -, rfl⟩ := Engine.start_eq_ok hstart
  apply Engine.after_induction hstanding
  · exact refl rfl
  · intro log engine h _
    exact h.settle
  · intro log engine rule h hnext
    exact h.fire hnext
  · intro log engine asked answer h hstopped hpending _
    exact h.learn hstopped hpending answer

end Advances

namespace Engine

variable {base : Base} {target : Datum} {given : List (Datum × Datum)} {focused : Bool}
  {start : Engine}

/-- No category is asked for twice, and only such as may be asked for. -/
theorem asked_of_start (hstart : Engine.start base target given focused = .ok start)
    (calls : List Call) :
    start.asked calls =
        (start.accepted calls).map Prod.fst ++ (start.after calls).pending.toList ∧
      (start.asked calls).Nodup ∧ start.asked calls ⊆ start.askable := by
  have hstanding := isStanding_of_start hstart
  have hadvances := Advances.after hstart calls
  have hafter := isStanding_after hstanding calls
  have hasked : start.asked calls =
      (start.accepted calls).map Prod.fst ++ (start.after calls).pending.toList := by
    obtain ⟨target?, facts, -, -, rfl⟩ := start_eq_ok hstart
    exact asked_eq hstanding rfl calls
  have hanswered := acceptedAnswers_log start calls
  refine ⟨hasked, ?_⟩
  rw [hasked, ← hanswered]
  cases hpending : (start.after calls).pending with
  | none =>
    rw [Option.toList_none, List.append_nil]
    exact ⟨hadvances.distinct, hadvances.askable⟩
  | some category =>
    -- The category that is pending was not answered before.
    obtain ⟨haskable, hnew⟩ :=
      hadvances.askable_of_pending (hafter.isStopped hpending) hpending
    rw [Option.toList_some, ← List.concat_eq_append, List.nodup_concat, List.concat_eq_append]
    refine ⟨⟨hnew, hadvances.distinct⟩, ?_⟩
    exact List.append_subset.2
      ⟨hadvances.askable, List.cons_subset.2 ⟨haskable, List.nil_subset _⟩⟩

/-- There are at most as many questions as categories that may be asked for. -/
theorem length_asked_le (hstart : Engine.start base target given focused = .ok start)
    (calls : List Call) :
    (start.accepted calls).length + (start.after calls).pending.toList.length ≤
      start.askable.length := by
  obtain ⟨hasked, hnodup, hsubset⟩ := asked_of_start hstart calls
  have hlength := (hnodup.subperm hsubset).length_le
  rwa [hasked, List.length_append, List.length_map] at hlength

/-! ## Answering every question -/

/-- The calls made by a user who answers questions as long as there are any, but at most as many as
there are rounds. An answer may depend on all calls before. -/
def answering (start : Engine) (answer : List Call → Datum) : Nat → List Call → List Call
  | 0, calls => calls
  | rounds + 1, calls =>
    match (start.after calls).pending with
    | none => calls
    | some category =>
      answering start answer rounds (calls ++ [.supply (.text category) (answer calls)])

/-- An engine that has stopped without a question has come to its end. -/
theorem IsStopped.isFinal {engine : Engine} (h : engine.IsStopped)
    (hpending : engine.pending = none) :
    ∃ outcome, engine.outcome = some outcome ∧ outcome.isFinal = true := by
  refine ⟨engine.verdict, h.outcome, ?_⟩
  have hasked : engine.verdict.asked? = none := h.pending.symm.trans hpending
  cases hverdict : engine.verdict with
  | needsInput category prompt choices =>
    rw [hverdict] at hasked
    cases hasked
  | resolved pair fired => rfl
  | exhausted unanswered fired => rfl

/-- A token that is supplied for the pending category is accepted. -/
theorem supply_pending {engine : Engine} {category : String} {value : Datum}
    (hpending : engine.pending = some category) (hvalue : value.token?.isSome = true) :
    engine.acceptedAt (.supply (.text category) value) = [(category, value.plain)] ∧
      (engine.call (.supply (.text category) value)).IsStopped := by
  obtain ⟨answer, hanswer⟩ := Option.isSome_iff_exists.1 hvalue
  have hsupply : engine.supply (.text category) value =
      .ok (engine.learn category answer).chain := by
    rw [supply_of_some hpending, hanswer]
    exact if_pos rfl
  constructor
  · rw [acceptedAt, hsupply]
    rfl
  · rw [Engine.call, respond, hsupply]
    exact isStopped_chain rfl

theorem isFinal_answering (hstart : Engine.start base target given focused = .ok start)
    {answer : List Call → Datum} (hanswer : ∀ calls, (answer calls).token?.isSome = true)
    (rounds : Nat) (calls : List Call) (hstopped : (start.after calls).IsStopped)
    (hrounds : start.askable.length ≤ (start.accepted calls).length + rounds) :
    ∃ outcome, (start.after (start.answering answer rounds calls)).outcome = some outcome ∧
      outcome.isFinal = true := by
  -- Every round takes one of the questions that may still be asked.
  induction rounds generalizing calls with
  | zero =>
    refine hstopped.isFinal ?_
    have hlength := length_asked_le hstart calls
    cases hpending : (start.after calls).pending with
    | none => rfl
    | some category =>
      rw [hpending, Option.toList_some, List.length_singleton] at hlength
      omega
  | succ rounds ih =>
    rw [answering]
    cases hpending : (start.after calls).pending with
    | none => exact hstopped.isFinal hpending
    | some category =>
      obtain ⟨haccepted, hnext⟩ := supply_pending hpending (hanswer calls)
      rw [← after_concat] at hnext
      refine ih _ hnext ?_
      rw [accepted_concat, haccepted, List.length_append, List.length_singleton]
      omega

end Engine

/-! ## The end of a consultation -/

/-- Over any base, every run ends after finitely many rounds. However a consultation goes, there
fire at most as many rules as there are numbers; no category is asked for twice; and every category
asked for is that of a condition, was not known at the start, and has a question. There are at most
as many accepted answers as such categories, and a user who answers all questions comes to a
conclusion or to the finding that there is none with at most so many answers. -/
theorem consultation_ends {base : Base} {target : Datum} {given : List (Datum × Datum)}
    {focused : Bool} {start : Engine}
    (hstart : Engine.start base target given focused = .ok start) (calls : List Call) :
    (∀ engine : Engine, ∃ rules last, engine.Chains rules last ∧
        (engine.pending = none → engine.run = last.settle)) ∧
      (start.after calls).fired = (firedRules (start.log calls)).map Rule.id ∧
      (firedRules (start.log calls)).length ≤ (base.rules.map Rule.id).dedup.length ∧
      (start.asked calls).Nodup ∧
      (∀ category ∈ start.asked calls,
        (∃ rule ∈ base.rules, category ∈ rule.conditionCategories) ∧
          start.memory.get? category = none ∧ base.advice.contains category = true) ∧
      (start.accepted calls).length ≤ start.askable.length ∧
      ∀ answer : List Call → Datum, (∀ calls, (answer calls).token?.isSome = true) →
        ∃ outcome, (start.after (start.answering answer start.askable.length
            (calls ++ [.run]))).outcome = some outcome ∧ outcome.isFinal = true := by
  have hadvances := Advances.after hstart calls
  obtain ⟨-, hnodup, hsubset⟩ := Engine.asked_of_start hstart calls
  have hlength := Engine.length_asked_le hstart calls
  have hbase := Engine.base_of_start hstart
  refine ⟨fun engine => ?_, hadvances.fired, ?_, hnodup, ?_, by omega, fun answer hanswer => ?_⟩
  · refine ⟨_, _, engine.chains_firings, fun hpending => ?_⟩
    rw [Engine.run_of_none hpending]
    exact (Engine.chain_eq_settle hpending).2
  · -- The numbers that fired are different numbers of rules.
    have hsub : (firedRules (start.log calls)).map Rule.id ⊆ (base.rules.map Rule.id).dedup := by
      intro id hid
      obtain ⟨rule, hrule, rfl⟩ := List.mem_map.1 hid
      rw [List.mem_dedup, ← hbase]
      exact List.mem_map_of_mem (hadvances.mem rule hrule)
    have hle := (hadvances.once.subperm hsub).length_le
    rwa [List.length_map] at hle
  · intro category hcategory
    rw [← hbase]
    exact Engine.mem_askable.1 (hsubset hcategory)
  · -- Each answer takes one category off those that can be asked for.
    have hstopped := Engine.isStopped_after_run hstart calls
    exact Engine.isFinal_answering hstart hanswer _ _ hstopped (by omega)

/-- Two rules of one number, each of which concludes what the other requires, and a question. -/
def twinBase : Base :=
  .ofParts [⟨1, [⟨"a", "x"⟩], ⟨"b", "y"⟩, none⟩, ⟨1, [⟨"b", "y"⟩], ⟨"a", "z"⟩, none⟩]
    [⟨.advice, "a", "which a?", none⟩] [] []

/-- The question is repeated once and answered; then one of the two rules fires. -/
theorem consultation_ends_twinBase :
    ∃ start, Engine.start twinBase (.text "c") [] false = .ok start ∧
      start.asked [.run, .run, .supply (.text "a") (.text "x")] = ["a"] ∧
      (start.after [.run, .run, .supply (.text "a") (.text "x")]).fired = [1] ∧
      (start.accepted [.run, .run, .supply (.text "a") (.text "x")]).length ≤
        start.askable.length := by
  have hstart : Engine.start twinBase (.text "c") [] false =
      .ok (.fresh twinBase (some "c") Table.empty false) := rfl
  obtain ⟨-, -, -, -, -, hlength, -⟩ :=
    consultation_ends hstart [.run, .run, .supply (.text "a") (.text "x")]
  exact ⟨_, hstart, by cbv, by cbv, hlength⟩

end RuleConsult
