import RuleConsult.Consult.Engine
import RuleConsult.Proofs.Table
import Mathlib.Data.List.Induction

/-!
# Calls made to an engine

Between the calls of its user an engine has either not run or it stands where its last run stopped.
Where it stands is determined by its memory and the rules that fired: no rule is to be fired, and
outcome and pending question are what these say.

* `Engine.chain_eq_settle`: chaining fires rules one after the other and settles where it stops;
* `Engine.call_cases`: everything that a call can do;
* `Engine.isStanding_after`: how an engine stands after any calls;
* `Engine.after_induction`: what every step of an engine preserves holds after any calls.
-/

namespace RuleConsult

/-- A call made to an engine. -/
inductive Call where
  | run
  | supply (category value : Datum)

/-- What happens in a consultation. -/
inductive Event where
  /-- A rule fired. -/
  | fired (rule : Rule)
  /-- An answer was accepted. -/
  | answered (category value : String)

/-- The category that an outcome asks for. -/
def Outcome.asked? : Outcome → Option String
  | .needsInput category .. => some category
  | _ => none

/-- An outcome asks for a category exactly if it is a question about it. -/
theorem Outcome.asked?_eq_some_iff {outcome : Outcome} {category : String} :
    outcome.asked? = some category ↔
      ∃ prompt choices, outcome = .needsInput category prompt choices := by
  cases outcome <;> simp [Outcome.asked?]

/-- What is a token is a text. -/
theorem Datum.eq_text_of_token? {value : Datum} {text : String} (h : value.token? = some text) :
    value = .text text := by
  obtain ⟨htext, -⟩ := Option.filter_eq_some_iff.1 h
  cases value <;> cases htext
  rfl

theorem Datum.isToken_of_token? {value : Datum} {text : String} (h : value.token? = some text) :
    Text.isToken text = true :=
  (Option.filter_eq_some_iff.1 h).2

theorem Datum.token?_text {text : String} (h : Text.isToken text = true) :
    (Datum.text text).token? = some text :=
  Option.filter_eq_some_iff.2 ⟨rfl, h⟩

namespace Engine

/-! ## Calls -/

/-- What a call makes of an engine, or why it is refused. -/
def respond (engine : Engine) : Call → Except AnswerFault Engine
  | .run => .ok engine.run
  | .supply category value => engine.supply category value

/-- The engine after a call. A refused call leaves it as it is. -/
def call (engine : Engine) (call : Call) : Engine :=
  match engine.respond call with
  | .ok next => next
  | .error _ => engine

/-- What the caller is told: the outcome, or why the call is refused. -/
def reply (engine : Engine) (call : Call) : Except AnswerFault (Option Outcome) :=
  (engine.respond call).map Engine.outcome

/-- The engine after calls. -/
def after (engine : Engine) (calls : List Call) : Engine :=
  calls.foldl call engine

/-- What the caller is told at each of some calls. -/
def replies (engine : Engine) : List Call → List (Except AnswerFault (Option Outcome))
  | [] => []
  | call :: calls => engine.reply call :: (engine.call call).replies calls

theorem after_concat (engine : Engine) (calls : List Call) (call : Call) :
    engine.after (calls ++ [call]) = (engine.after calls).call call := by
  simp [after]

/-- An engine that is started is one that has not run. -/
theorem start_eq_ok {base : Base} {target : Datum} {given : List (Datum × Datum)} {focused : Bool}
    {engine : Engine} (h : start base target given focused = .ok engine) :
    ∃ target? facts, checkTarget target = .ok target? ∧ checkFacts given = .ok facts ∧
      engine = fresh base target? facts focused := by
  unfold start at h
  cases htarget : checkTarget target with
  | error fault =>
    rw [htarget] at h
    exact nomatch h
  | ok target? =>
    cases hfacts : checkFacts given with
    | error fault =>
      rw [htarget, hfacts] at h
      exact nomatch h
    | ok facts =>
      rw [htarget, hfacts] at h
      cases h
      exact ⟨target?, facts, rfl, rfl, rfl⟩

/-- An engine keeps the base it is started over. -/
theorem base_of_start {base : Base} {target : Datum} {given : List (Datum × Datum)} {focused : Bool}
    {engine : Engine} (h : start base target given focused = .ok engine) : engine.base = base := by
  obtain ⟨target?, facts, -, -, rfl⟩ := start_eq_ok h
  rfl

/-- The facts at the start are those that are given. -/
theorem eq_ofList_of_checkFacts {given : List (Datum × Datum)} {facts : Facts}
    (h : checkFacts given = .ok facts) :
    facts = Table.ofList (given.map fun entry => (entry.1.plain, entry.2.plain)) := by
  induction given using List.reverseRecOn generalizing facts with
  | nil =>
    cases h
    rfl
  | append_singleton given entry ih =>
    -- The facts are checked from the first on, so the induction takes the last one off.
    rw [checkFacts, List.foldlM_append, ← checkFacts] at h
    cases hinit : checkFacts given with
    | error fault =>
      rw [hinit] at h
      cases h
    | ok init =>
      rw [hinit] at h
      simp only [bind, Except.bind, List.foldlM_cons, List.foldlM_nil] at h
      rw [List.map_append, List.map_singleton, Table.ofList, Table.insertMany_concat,
        ← Table.ofList, ← ih hinit]
      split at h
      · cases h
      · rename_i last hlast
        split at hlast
        · rename_i category value hcategory hvalue
          cases hlast
          cases h
          rw [Datum.eq_text_of_token? hcategory, Datum.eq_text_of_token? hvalue]
          rfl
        · cases hlast

/-- A text that is accepted as a target names it. -/
theorem checkTarget_text {text : String} {target? : Option String}
    (h : checkTarget (.text text) = .ok target?) : target? = some text := by
  rw [checkTarget] at h
  split at h
  · rename_i category hcategory
    cases h
    exact congrArg Datum.text? (Datum.eq_text_of_token? hcategory).symm
  · cases h
  · exact fun hnull => nomatch hnull

/-! ## Chaining -/

/-- The categories of which any one resolves the consultation. -/
def wanted (engine : Engine) : List String :=
  match engine.target with
  | some target => [target]
  | none => engine.base.goalCategories

/-- Nothing is reached exactly if no wanted category is known. -/
theorem reached?_eq_none_iff {engine : Engine} :
    engine.reached? = none ↔ ∀ category ∈ engine.wanted, engine.memory.get? category = none := by
  simp only [reached?, List.findSome?_eq_none_iff, Option.map_eq_none_iff]
  exact Iff.rfl

/-- The rule that is to be fired, if the consultation is not resolved. -/
def next? (engine : Engine) : Option Rule :=
  match engine.reached? with
  | some _ => none
  | none => engine.eligible?

/-- The outcome where no rule is to be fired. -/
def verdict (engine : Engine) : Outcome :=
  match engine.reached? with
  | some pair => .resolved pair engine.fired
  | none => engine.stuckOutcome

/-- The engine that stops where it is. -/
def settle (engine : Engine) : Engine :=
  { engine with pending := engine.verdict.asked?, outcome := some engine.verdict }

/-- A rule is only fired while the consultation is not resolved, and it is the first that can be. -/
theorem next?_eq_some_iff {engine : Engine} {rule : Rule} :
    engine.next? = some rule ↔ engine.reached? = none ∧ engine.eligible? = some rule := by
  unfold next?
  split
  · rename_i hreached
    simp [hreached]
  · rename_i hreached
    simp [hreached]

theorem mem_unfired {engine : Engine} {rule : Rule} :
    rule ∈ engine.unfired ↔ rule ∈ engine.base.rules ∧ rule.id ∉ engine.fired := by
  simp only [unfired, List.mem_filter, Bool.not_eq_true', List.contains_eq_mem,
    decide_eq_false_iff_not]

/-- The rule that fires next has not fired. -/
theorem mem_unfired_of_next? {engine : Engine} {rule : Rule} (h : engine.next? = some rule) :
    rule ∈ engine.unfired :=
  List.mem_of_find?_eq_some (next?_eq_some_iff.1 h).2

/-- A chain with no rule to fire settles where it stands. -/
theorem chain_of_none {engine : Engine} (hpending : engine.pending = none)
    (h : engine.next? = none) : engine.chain = engine.settle := by
  -- An outcome without a question leaves the pending question alone, and there is none.
  have hstop : ∀ outcome, engine.stop outcome =
      { engine with pending := outcome.asked?, outcome := some outcome } := by
    intro outcome
    cases outcome <;> simp [stop, Outcome.asked?, ← hpending]
  rw [chain, settle, verdict]
  unfold next? at h
  cases hreached : engine.reached? with
  | some pair => exact hstop _
  | none =>
    simp only [hreached] at h ⊢
    split
    · exact hstop _
    · rename_i hrule
      rw [h] at hrule
      cases hrule

/-- A chain fires the next rule and goes on behind it. -/
theorem chain_of_some {engine : Engine} {rule : Rule} (h : engine.next? = some rule) :
    engine.chain = (engine.fire rule).chain := by
  obtain ⟨hreached, heligible⟩ := next?_eq_some_iff.1 h
  rw [chain]
  simp only [hreached]
  split
  · rename_i hnone
    rw [heligible] at hnone
    cases hnone
  · rename_i hsome
    rw [heligible] at hsome
    cases hsome
    rfl

/-- Induction along chaining: no rule is to be fired, or one is. -/
@[elab_as_elim]
theorem chain_induction {motive : Engine → Prop}
    (stops : ∀ engine, engine.next? = none → motive engine)
    (fires : ∀ engine rule, engine.next? = some rule → motive (engine.fire rule) → motive engine)
    (engine : Engine) : motive engine := by
  -- Every rule that fires leaves one rule less that has not fired.
  induction hlen : engine.unfired.length using Nat.strongRecOn generalizing engine with
  | _ n ih =>
    subst hlen
    cases hnext : engine.next? with
    | none => exact stops engine hnext
    | some rule =>
      have hlt := length_unfired_fire_lt (mem_unfired_of_next? hnext)
      exact fires engine rule hnext (ih _ hlt (engine.fire rule) rfl)

/-- The rules that chaining fires, in order. -/
def firings (engine : Engine) : List Rule :=
  match hnext : engine.next? with
  | none => []
  | some rule =>
    have : (engine.fire rule).unfired.length < engine.unfired.length :=
      length_unfired_fire_lt (mem_unfired_of_next? hnext)
    rule :: (engine.fire rule).firings
termination_by engine.unfired.length

theorem firings_of_none {engine : Engine} (h : engine.next? = none) : engine.firings = [] := by
  rw [firings]
  split
  · rfl
  · rename_i hsome
    rw [h] at hsome
    cases hsome

theorem firings_of_some {engine : Engine} {rule : Rule} (h : engine.next? = some rule) :
    engine.firings = rule :: (engine.fire rule).firings := by
  rw [firings]
  split
  · rename_i hnone
    rw [h] at hnone
    cases hnone
  · rename_i hsome
    rw [h] at hsome
    cases hsome
    rfl

/-- Chaining fires rules one after the other, and settles where none is to be fired. -/
theorem chain_eq_settle {engine : Engine} (hpending : engine.pending = none) :
    (engine.firings.foldl fire engine).next? = none ∧
      engine.chain = (engine.firings.foldl fire engine).settle := by
  induction engine using chain_induction with
  | stops engine hnone =>
    rw [firings_of_none hnone]
    exact ⟨hnone, chain_of_none hpending hnone⟩
  | fires engine rule hsome ih =>
    rw [firings_of_some hsome, List.foldl_cons, chain_of_some hsome]
    exact ih hpending

/-! ## Standing -/

/-- An engine that has stopped: no rule is to be fired, and what is said about it holds. -/
structure IsStopped (engine : Engine) : Prop where
  next : engine.next? = none
  outcome : engine.outcome = some engine.verdict
  pending : engine.pending = engine.verdict.asked?

/-- An engine between two calls: it has not run, or it has stopped. -/
def IsStanding (engine : Engine) : Prop :=
  engine.pending = none ∧ engine.outcome = none ∨ engine.IsStopped

/-- An engine with a question has stopped at it. -/
theorem IsStanding.isStopped {engine : Engine} {category : String} (h : engine.IsStanding)
    (hpending : engine.pending = some category) : engine.IsStopped := by
  rcases h with ⟨hnone, -⟩ | hstopped
  · rw [hnone] at hpending
    cases hpending
  · exact hstopped

/-- An engine with an outcome has stopped with it. -/
theorem IsStanding.isStopped_of_outcome {engine : Engine} {outcome : Outcome}
    (h : engine.IsStanding) (houtcome : engine.outcome = some outcome) : engine.IsStopped := by
  rcases h with ⟨-, hnone⟩ | hstopped
  · rw [hnone] at houtcome
    cases houtcome
  · exact hstopped

/-- An engine without a rule to fire stops where it settles. -/
theorem isStopped_settle {engine : Engine} (h : engine.next? = none) : engine.settle.IsStopped :=
  ⟨h, rfl, rfl⟩

/-- A chain ends in an engine that has stopped. -/
theorem isStopped_chain {engine : Engine} (hpending : engine.pending = none) :
    engine.chain.IsStopped := by
  obtain ⟨hnext, hchain⟩ := chain_eq_settle hpending
  rw [hchain]
  exact isStopped_settle hnext

/-- The engine that has learned the answer to its question and not gone on yet. -/
def learn (engine : Engine) (category value : String) : Engine :=
  { engine with memory := engine.memory.insert category value, pending := none }

/-- Running goes on only if nothing is pending. -/
theorem run_of_pending {engine : Engine} {category : String} (h : engine.IsStanding)
    (hpending : engine.pending = some category) : engine.run = engine := by
  rw [run, hpending, (h.isStopped hpending).outcome]

theorem run_of_none {engine : Engine} (hpending : engine.pending = none) :
    engine.run = engine.chain := by
  rw [run, hpending]

/-- Every run stops, if only where the engine has stopped before. -/
theorem isStopped_run {engine : Engine} (h : engine.IsStanding) : engine.run.IsStopped := by
  cases hpending : engine.pending with
  | none =>
    rw [run_of_none hpending]
    exact isStopped_chain hpending
  | some category =>
    rw [run_of_pending h hpending]
    exact h.isStopped hpending

/-- Answering where nothing was asked. -/
theorem supply_of_none {engine : Engine} (hpending : engine.pending = none)
    (category value : Datum) : engine.supply category value = .error .nothingPending := by
  rw [supply, hpending]

/-- Answering a question: the answer is refused if it is for another category or no token. -/
theorem supply_of_some {engine : Engine} {asked : String} (hpending : engine.pending = some asked)
    (category value : Datum) : engine.supply category value =
      if category.text? = some asked then
        match value.token? with
        | some answer => .ok (engine.learn asked answer).chain
        | none => .error (.badValue asked value)
      else .error (.otherCategory category asked) := by
  rw [supply, hpending]
  dsimp only
  split
  · cases value.token? with
    | none => rfl
    | some answer => rfl
  · rfl

/-- A category that is missed is missing in a rule that is worth a question. -/
theorem exists_of_nextMissing? {engine : Engine} {category : String}
    (h : engine.nextMissing? = some category) :
    ∃ rule ∈ engine.unfired, engine.isWorthAsking rule = true ∧
      category ∈ rule.missingIn engine.memory := by
  obtain ⟨rule, hrule, hhead⟩ := List.exists_of_findSome?_eq_some h
  obtain ⟨hunfired, hworth⟩ := List.mem_filter.1 hrule
  exact ⟨rule, hunfired, hworth, List.mem_of_mem_head? hhead⟩

/-- An engine that waits for an answer has not reached its goal; it asks for the first category that
is missed, and there is a question for it. -/
theorem IsStopped.of_pending {engine : Engine} {category : String} (h : engine.IsStopped)
    (hpending : engine.pending = some category) :
    engine.reached? = none ∧ engine.nextMissing? = some category ∧
      engine.base.advice.contains category = true ∧
      engine.outcome = some (.needsInput category (prompt engine.base category)
        (engine.base.valuesFor category)) := by
  have hasked : engine.verdict.asked? = some category := h.pending.symm.trans hpending
  rw [h.outcome]
  rw [verdict] at hasked ⊢
  cases hreached : engine.reached? with
  | some pair =>
    rw [hreached] at hasked
    cases hasked
  | none =>
    refine ⟨rfl, ?_⟩
    simp only [hreached, stuckOutcome] at hasked ⊢
    cases hmissing : engine.nextMissing? with
    | none =>
      rw [hmissing] at hasked
      cases hasked
    | some missing =>
      simp only [hmissing] at hasked ⊢
      -- Without a question the category is only named, and nothing is pending.
      cases hadvice : engine.base.advice.contains missing with
      | false =>
        rw [hadvice] at hasked
        cases hasked
      | true =>
        rw [hadvice] at hasked
        cases hasked
        exact ⟨rfl, hadvice, rfl⟩

/-- Nothing is known about a category that is asked for. -/
theorem get?_of_pending {engine : Engine} {category : String} (h : engine.IsStanding)
    (hpending : engine.pending = some category) : engine.memory.get? category = none := by
  obtain ⟨-, hmissing, -, -⟩ := (h.isStopped hpending).of_pending hpending
  -- Only a category that is missing in a rule is asked for.
  obtain ⟨rule, -, -, hmem⟩ := exists_of_nextMissing? hmissing
  have habsent := (List.mem_filter.1 hmem).2
  rw [Bool.not_eq_true', Table.contains_eq_isSome] at habsent
  exact Option.isNone_iff_eq_none.1 (Option.isSome_eq_false_iff.1 habsent)

/-! ## What a call does -/

/-- What happens at a call: nothing, or rules fire, after an answer if one is accepted. -/
def callLog (engine : Engine) : Call → List Event
  | .run =>
    match engine.pending, engine.outcome with
    | some _, some _ => []
    | _, _ => engine.firings.map Event.fired
  | .supply category value =>
    match engine.pending, value.token? with
    | some asked, some answer =>
      if category.text? = some asked then
        .answered asked answer :: (engine.learn asked answer).firings.map Event.fired
      else []
    | _, _ => []

/-- The answer that is supplied by a call and not refused, if there is one. -/
def acceptedAt (engine : Engine) : Call → List (String × String)
  | .run => []
  | .supply category value =>
    match engine.supply category value with
    | .ok _ => [(category.plain, value.plain)]
    | .error _ => []

/-- The answers that are supplied by some calls and not refused. -/
def accepted (engine : Engine) : List Call → List (String × String)
  | [] => []
  | call :: calls => engine.acceptedAt call ++ (engine.call call).accepted calls

/-- What happens at some calls. -/
def log (engine : Engine) : List Call → List Event
  | [] => []
  | call :: calls => engine.callLog call ++ (engine.call call).log calls

/-- The log of one more call goes behind the log of the calls before it. -/
theorem log_concat (engine : Engine) (calls : List Call) (call : Call) :
    engine.log (calls ++ [call]) = engine.log calls ++ (engine.after calls).callLog call := by
  induction calls generalizing engine with
  | nil => simp [log, after]
  | cons first calls ih =>
    rw [List.cons_append, log, ih, log, List.append_assoc]
    rfl

/-- Everything that a call can do: nothing; or chaining, if nothing is pending; or accepting a token
as the answer to the pending question and chaining. -/
theorem call_cases {engine : Engine} (h : engine.IsStanding) (call : Call) :
    (engine.call call = engine ∧ engine.callLog call = []) ∨
      (engine.pending = none ∧ engine.call call = engine.chain ∧
        engine.callLog call = engine.firings.map Event.fired) ∨
      ∃ asked answer, engine.pending = some asked ∧ Text.isToken answer = true ∧
        engine.call call = (engine.learn asked answer).chain ∧
        engine.callLog call =
          .answered asked answer :: (engine.learn asked answer).firings.map Event.fired := by
  cases call with
  | run =>
    cases hpending : engine.pending with
    | none =>
      refine Or.inr (Or.inl ⟨rfl, run_of_none hpending, ?_⟩)
      rw [callLog, hpending]
    | some asked =>
      -- While a question is pending, running only repeats it.
      refine Or.inl ⟨run_of_pending h hpending, ?_⟩
      rw [callLog, hpending, (h.isStopped hpending).outcome]
  | supply category value =>
    cases hpending : engine.pending with
    | none =>
      -- Nothing was asked, so there is nothing to answer.
      refine Or.inl ⟨?_, by rw [callLog, hpending]⟩
      simp only [Engine.call, respond, supply_of_none hpending]
    | some asked =>
      simp only [Engine.call, respond, supply_of_some hpending, callLog, hpending]
      -- The answer is taken if it is a token and goes to the question that is pending.
      cases hvalue : value.token? with
      | none =>
        by_cases hcategory : category.text? = some asked
        · exact Or.inl ⟨by rw [if_pos hcategory], rfl⟩
        · exact Or.inl ⟨by rw [if_neg hcategory], rfl⟩
      | some answer =>
        by_cases hcategory : category.text? = some asked
        · refine Or.inr (Or.inr ⟨asked, answer, rfl, Datum.isToken_of_token? hvalue, ?_,
            if_pos hcategory⟩)
          rw [if_pos hcategory]
        · exact Or.inl ⟨by rw [if_neg hcategory], if_neg hcategory⟩

/-- A call leaves an engine standing. -/
theorem isStanding_call {engine : Engine} (h : engine.IsStanding) (call : Call) :
    (engine.call call).IsStanding := by
  rcases call_cases h call with
    ⟨hsame, -⟩ | ⟨hpending, hchain, -⟩ | ⟨asked, answer, -, -, hchain, -⟩
  · rw [hsame]
    exact h
  · rw [hchain]
    exact Or.inr (isStopped_chain hpending)
  · rw [hchain]
    exact Or.inr (isStopped_chain rfl)

theorem isStanding_of_start {base : Base} {target : Datum} {given : List (Datum × Datum)}
    {focused : Bool} {engine : Engine} (h : start base target given focused = .ok engine) :
    engine.IsStanding := by
  obtain ⟨target?, facts, -, -, rfl⟩ := start_eq_ok h
  exact Or.inl ⟨rfl, rfl⟩

/-- An engine keeps standing whatever is called. -/
theorem isStanding_after {engine : Engine} (h : engine.IsStanding) (calls : List Call) :
    (engine.after calls).IsStanding := by
  induction calls generalizing engine with
  | nil => exact h
  | cons call calls ih => exact ih (isStanding_call h call)

/-- After a run an engine has stopped. -/
theorem isStopped_after_run {base : Base} {target : Datum} {given : List (Datum × Datum)}
    {focused : Bool} {start : Engine} (h : Engine.start base target given focused = .ok start)
    (calls : List Call) : (start.after (calls ++ [.run])).IsStopped := by
  rw [after_concat]
  exact isStopped_run (isStanding_after (isStanding_of_start h) calls)

/-! ## Induction along a consultation -/

/-- What settling and firing preserve, chaining preserves. -/
theorem chain_preserves {motive : List Event → Engine → Prop}
    (settle : ∀ log engine, motive log engine → engine.next? = none → motive log engine.settle)
    (fire : ∀ log engine rule, motive log engine → engine.next? = some rule →
      motive (log ++ [.fired rule]) (engine.fire rule))
    {log : List Event} {engine : Engine} (h : motive log engine)
    (hpending : engine.pending = none) :
    motive (log ++ engine.firings.map Event.fired) engine.chain := by
  induction engine using chain_induction generalizing log with
  | stops engine hnone =>
    rw [firings_of_none hnone, chain_of_none hpending hnone, List.map_nil, List.append_nil]
    exact settle log engine h hnone
  | fires engine rule hsome ih =>
    have hrest := ih (fire log engine rule h hsome) hpending
    rw [firings_of_some hsome, chain_of_some hsome, List.map_cons, List.append_cons]
    exact hrest

/-- Induction along a consultation: what holds of an engine and the empty log, and is preserved
where the engine settles, fires a rule or learns an answer, holds after any calls. -/
theorem after_induction {start : Engine} {motive : List Event → Engine → Prop}
    (hstanding : start.IsStanding) (init : motive [] start)
    (settle : ∀ log engine, motive log engine → engine.next? = none → motive log engine.settle)
    (fire : ∀ log engine rule, motive log engine → engine.next? = some rule →
      motive (log ++ [.fired rule]) (engine.fire rule))
    (learn : ∀ log engine asked answer, motive log engine → engine.IsStopped →
      engine.pending = some asked → Text.isToken answer = true →
      motive (log ++ [.answered asked answer]) (engine.learn asked answer))
    (calls : List Call) : motive (start.log calls) (start.after calls) := by
  induction calls using List.reverseRecOn with
  | nil => exact init
  | append_singleton calls call ih =>
    have hbefore := isStanding_after hstanding calls
    rw [log_concat, after_concat]
    rcases call_cases hbefore call with
      ⟨hsame, hlog⟩ | ⟨hpending, hchain, hlog⟩ | ⟨asked, answer, hpending, htoken, hchain, hlog⟩
    · rw [hsame, hlog, List.append_nil]
      exact ih
    · rw [hchain, hlog]
      exact chain_preserves settle fire ih hpending
    · -- The answer is an event of its own; after it nothing is pending.
      have hlearned := learn _ _ asked answer ih (hbefore.isStopped hpending) hpending htoken
      rw [hchain, hlog, List.append_cons]
      exact chain_preserves settle fire hlearned rfl

end Engine

end RuleConsult
