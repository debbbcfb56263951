import RuleConsult.Consult.Session
import RuleConsult.Proofs.Consult.Termination

/-!
# Sessions keep in step with their engines

A session holds what its engine holds, its pending question and its outcome, a second time, and it
writes every answer into the last turn without looking. This goes well because while a consultation
is going on the transcript is determined by the engine (`Engine.transcript`): the accepted answers
in their order, and behind them the pending question. Every request keeps it so.

* `Session.IsKept`: what a session may be after requests;
* `Session.isKept_call`: every request keeps it so, also one that is refused;
* `session_isCoherent`: how state, outcome, transcript and facts of a session fit together.
-/

namespace RuleConsult

/-! ## Requests -/

/-- A request made to a session. -/
inductive Request where
  | start (target : Datum) (facts : List (Datum × Datum))
  | answer (category value : Datum)
  | cancel

/-- The facts given at the start of a consultation. -/
def Request.facts? : Request → Option (List (Datum × Datum))
  | .start _ facts => some facts
  | _ => none

/-- The facts given at the last start among some requests, if there is one. -/
def lastFacts? (requests : List Request) : Option (List (Datum × Datum)) :=
  (requests.filterMap Request.facts?).getLast?

theorem lastFacts?_concat_start (requests : List Request) (target : Datum)
    (facts : List (Datum × Datum)) :
    lastFacts? (requests ++ [.start target facts]) = some facts := by
  rw [lastFacts?, List.filterMap_append]
  exact List.getLast?_concat

theorem lastFacts?_concat_of_none (requests : List Request) {request : Request}
    (h : request.facts? = none) : lastFacts? (requests ++ [request]) = lastFacts? requests := by
  have hnone : [request].filterMap Request.facts? = [] := by
    simp [h]
  rw [lastFacts?, List.filterMap_append, hnone, List.append_nil, ← lastFacts?]

namespace Session

/-- The session after a request. A start that is refused discards the consultation before; an answer
that is refused leaves the session as it is. -/
def call (session : Session) : Request → Session
  | .start target facts => (session.start target facts).1
  | .answer category value =>
    match session.answer category value with
    | .ok next => next
    | .error _ => session
  | .cancel => session.cancel

/-- The session after requests. -/
def after (session : Session) (requests : List Request) : Session :=
  requests.foldl call session

theorem after_concat (session : Session) (requests : List Request) (request : Request) :
    session.after (requests ++ [request]) = (session.after requests).call request := by
  simp [after]

/-- What the caller is told at a request: the outcome, if there is one, or why it is refused. -/
def reply (session : Session) : Request → Except SessionFault (Option Outcome)
  | .start target facts =>
    match session.start target facts with
    | (_, some fault) => .error fault
    | (next, none) => .ok next.outcome
  | .answer category value => (session.answer category value).map Session.outcome
  | .cancel => .ok none

end Session

/-- A request with what the caller is told and the session that it leaves behind. -/
structure Exchange where
  request : Request
  reply : Except SessionFault (Option Outcome)
  session : Session

namespace Session

/-- What is exchanged at a request. -/
def exchange (session : Session) (request : Request) : Exchange :=
  ⟨request, session.reply request, session.call request⟩

/-- What is exchanged at requests, one after the other. -/
def exchanges (session : Session) : List Request → List Exchange
  | [] => []
  | request :: requests => session.exchange request :: (session.call request).exchanges requests

end Session

/-! ## Transcripts -/

/-- The state of a session that shows an outcome. -/
def Outcome.sessionState : Outcome → SessionState
  | .needsInput .. => .awaitingInput
  | .resolved .. => .resolved
  | .exhausted .. => .exhausted

/-- The state of a session tells the kind of its outcome. -/
theorem Outcome.sessionState_eq_iff (outcome : Outcome) :
    (outcome.sessionState = .awaitingInput ↔
        ∃ category prompt choices, outcome = .needsInput category prompt choices) ∧
      (outcome.sessionState = .resolved ↔ ∃ pair fired, outcome = .resolved pair fired) ∧
      (outcome.sessionState = .exhausted ↔
        ∃ unanswered fired, outcome = .exhausted unanswered fired) := by
  cases outcome <;> simp [Outcome.sessionState]

/-- A session waits for an answer exactly if something is asked. -/
theorem Outcome.sessionState_eq_awaitingInput_iff {outcome : Outcome} :
    outcome.sessionState = .awaitingInput ↔ ∃ category, outcome.asked? = some category := by
  cases outcome <;> simp [Outcome.sessionState, Outcome.asked?]

namespace Engine

/-- The turn of a question that is not answered. -/
def openTurn (base : Base) (category : String) : Turn :=
  ⟨category, prompt base category, none⟩

/-- The turn of a question that was answered. -/
def answeredTurn (base : Base) (answer : String × String) : Turn :=
  ⟨answer.1, prompt base answer.1, some answer.2⟩

/-- The transcript of a consultation: the accepted answers, and the question that is pending. -/
def transcript (start : Engine) (calls : List Call) : List Turn :=
  (start.accepted calls).map (answeredTurn start.base) ++
    (start.after calls).pending.toList.map (openTurn start.base)

variable {base : Base} {target : Datum} {given : List (Datum × Datum)} {focused : Bool}
  {start : Engine}

/-- A turn with an answer stems from an accepted answer. -/
theorem mem_accepted_of_transcript {calls : List Call} {turn : Turn} {answer : String}
    (hturn : turn ∈ start.transcript calls) (hanswer : turn.answer = some answer) :
    (turn.category, answer) ∈ start.accepted calls := by
  rcases List.mem_append.1 hturn with hturn | hturn
  · obtain ⟨accepted, haccepted, rfl⟩ := List.mem_map.1 hturn
    cases hanswer
    exact haccepted
  · obtain ⟨category, -, rfl⟩ := List.mem_map.1 hturn
    cases hanswer

/-- The categories of a transcript are those that were asked for: they are distinct, and none of
them is among the given facts. -/
theorem distinct_transcript (hstart : Engine.start base target given focused = .ok start)
    (calls : List Call) :
    ((start.transcript calls).map Turn.category).Nodup ∧
      ∀ turn ∈ start.transcript calls, ∀ fact ∈ given, fact.1.plain ≠ turn.category := by
  obtain ⟨hasked, hnodup, hsubset⟩ := asked_of_start hstart calls
  have hcategories : (start.transcript calls).map Turn.category = start.asked calls := by
    rw [hasked, transcript, List.map_append, List.map_map, List.map_map]
    exact congrArg _ (List.map_id _)
  refine ⟨hcategories ▸ hnodup, ?_⟩
  intro turn hturn fact hfact
  have hmem : turn.category ∈ start.asked calls := by
    rw [← hcategories]
    exact List.mem_map_of_mem hturn
  -- Nothing was known at the start about a category that is asked for.
  obtain ⟨-, hunknown, -⟩ := mem_askable.1 (hsubset hmem)
  obtain ⟨target?, facts, -, hfacts, rfl⟩ := start_eq_ok hstart
  have hmemory : facts.get? turn.category = none := hunknown
  rw [eq_ofList_of_checkFacts hfacts, Table.ofList, Table.get?_insertMany_eq_none_iff] at hmemory
  exact hmemory.2 (fact.1.plain, fact.2.plain) (List.mem_map_of_mem hfact)

/-- An accepted answer is known, unless a rule that fired concludes its category. -/
theorem get?_of_accepted (hbase : base.IsSound)
    (hstart : Engine.start base target given focused = .ok start) {calls : List Call}
    {category answer : String} (h : (category, answer) ∈ start.accepted calls) :
    (start.after calls).memory.get? category = some answer ∨
      ∃ rule ∈ base.rules, rule.id ∈ (start.after calls).fired ∧
        rule.conclusion.category = category := by
  have hfollows := Follows.after hbase hstart calls
  have hadvances := Advances.after hstart calls
  have hanswers := acceptedAnswers_log start calls
  have hrules := base_of_start hstart
  by_cases hconcluded : ∃ rule ∈ firedRules (start.log calls), rule.conclusion.category = category
  · obtain ⟨rule, hrule, hcategory⟩ := hconcluded
    refine Or.inr ⟨rule, hrules ▸ hadvances.mem rule hrule, ?_, hcategory⟩
    rw [hadvances.fired]
    exact List.mem_map_of_mem hrule
  · left
    have habsent : ∀ entry ∈ (firedRules (start.log calls)).map Rule.concluded,
        entry.1 ≠ category := by
      intro entry hentry heq
      obtain ⟨rule, hrule, rfl⟩ := List.mem_map.1 hentry
      exact hconcluded ⟨rule, hrule, heq⟩
    rw [hfollows.memory, get?_replay hfollows.rightly, Table.get?_insertMany_of_ne habsent,
      hanswers]
    -- The category was not known at first, and it was answered once.
    have haskable := hadvances.askable category
    have hdistinct := hadvances.distinct
    rw [hanswers] at haskable hdistinct
    apply Table.get?_insertMany_of_agree (Or.inr h)
    · intro other hother
      obtain ⟨-, hunknown, -⟩ := mem_askable.1 (haskable (List.mem_map_of_mem h))
      rw [hunknown] at hother
      cases hother
    · intro other hother
      have heq := List.inj_on_of_nodup_map hdistinct hother h rfl
      exact congrArg Prod.snd heq

end Engine

/-! ## What a session may be -/

namespace Session

variable {base : Base} {focused : Bool} {session : Session}

/-- A session that conducts a consultation: its engine, outcome, state and transcript are those of
an engine after some calls. -/
structure Conducts (session : Session) (start : Engine) (calls : List Call) : Prop where
  stopped : (start.after calls).IsStopped
  engine : session.engine = some (start.after calls)
  outcome : session.outcome = some (start.after calls).verdict
  state : session.state = (start.after calls).verdict.sessionState
  turns : session.turns = start.transcript calls

/-- A session after requests, given the facts of the last start. -/
inductive IsKept (base : Base) (focused : Bool) (given? : Option (List (Datum × Datum))) :
    Session → Prop
  | idle {session : Session} (of_base : session.base = base)
      (of_focused : session.focused = focused) (engine : session.engine = none)
      (outcome : session.outcome = none)
      (state : session.state = .idle) (turns : session.turns = [])
      (target : session.target = none) : IsKept base focused given? session
  | conducting {session : Session} {target : Datum} {given : List (Datum × Datum)} {start : Engine}
      {calls : List Call} (of_base : session.base = base) (of_focused : session.focused = focused)
      (given_eq : given? = some given)
      (started : Engine.start base target given focused = .ok start)
      (conducts : session.Conducts start calls) : IsKept base focused given? session
  | cancelled {session : Session} (of_base : session.base = base)
      (of_focused : session.focused = focused) (engine : session.engine = none)
      (outcome : session.outcome = none) (state : session.state = .cancelled)
      -- The transcript is that of the consultation that was given up, if there was one.
      (turns : session.turns = [] ∨ ∃ target given start calls, given? = some given ∧
        Engine.start base target given focused = .ok start ∧
        session.turns = start.transcript calls) : IsKept base focused given? session

/-- Where its engine stops, a session takes over the outcome and opens a turn for a question. -/
theorem follow_of_isStopped (session : Session) {engine : Engine} (h : engine.IsStopped) :
    session.follow engine =
      { session with
        engine := some engine
        outcome := some engine.verdict
        state := engine.verdict.sessionState
        turns := session.turns ++ engine.pending.toList.map (Engine.openTurn engine.base) } := by
  rw [follow, h.outcome, h.pending]
  cases hverdict : engine.verdict with
  | resolved pair fired =>
    simp [Outcome.asked?, Outcome.sessionState]
  | exhausted unanswered fired =>
    simp [Outcome.asked?, Outcome.sessionState]
  | needsInput category prompt choices =>
    -- The question of a category is determined by the base.
    have hpending : engine.pending = some category := by
      rw [h.pending, hverdict]
      rfl
    obtain ⟨-, -, -, houtcome⟩ := h.of_pending hpending
    rw [h.outcome, hverdict] at houtcome
    cases houtcome
    rfl

/-- A session whose turns are all answered conducts the consultation where it follows its engine. -/
theorem conducts_follow {target : Datum} {given : List (Datum × Datum)} {start : Engine}
    {calls : List Call} (hstart : Engine.start base target given focused = .ok start)
    (hstopped : (start.after calls).IsStopped)
    (hturns : session.turns = (start.accepted calls).map (Engine.answeredTurn start.base)) :
    (session.follow (start.after calls)).Conducts start calls ∧
      (session.follow (start.after calls)).base = session.base ∧
      (session.follow (start.after calls)).focused = session.focused := by
  have hrules := (Advances.after hstart calls).base
  rw [follow_of_isStopped _ hstopped, hturns, hrules]
  exact ⟨⟨hstopped, rfl, rfl, rfl, rfl⟩, rfl, rfl⟩

/-- An answer goes to the last turn. -/
theorem answerLast_concat (turns : List Turn) (turn : Turn) (answer : String) :
    answerLast (turns ++ [turn]) answer = turns ++ [{ turn with answer := some answer }] := by
  simp [answerLast]

/-! ## Every request keeps a session so -/

theorem isKept_start {requests : List Request} (hbase : session.base = base)
    (hfocused : session.focused = focused) (target : Datum) (given : List (Datum × Datum)) :
    IsKept base focused (lastFacts? (requests ++ [.start target given]))
      (session.call (.start target given)) := by
  rw [lastFacts?_concat_start, call, start]
  cases hstart : Engine.start session.reset.base target given session.reset.focused with
  | error fault => exact .idle hbase hfocused rfl rfl rfl rfl rfl
  | ok engine =>
    -- Whatever the session was, it keeps its base and its mode.
    have hstarted : Engine.start base target given focused = .ok engine := by
      rw [← hbase, ← hfocused]
      exact hstart
    -- The first run is the first call of the consultation.
    have hstopped := Engine.isStopped_after_run hstarted []
    have hturns :
        ({ session.reset with target := engine.target, everStarted := true } : Session).turns =
          (engine.accepted [.run]).map (Engine.answeredTurn engine.base) := rfl
    obtain ⟨hconducts, hsame, hmode⟩ := conducts_follow hstarted hstopped hturns
    exact .conducting (hsame.trans hbase) (hmode.trans hfocused) rfl hstarted hconducts

/-- Everything that an answer can do to a session that conducts a consultation: nothing, as it is
refused; or the engine accepts it, the last turn is answered, and the session follows the engine. -/
theorem Conducts.answer_cases {start : Engine} {calls : List Call}
    (h : session.Conducts start calls) (category value : Datum) :
    session.call (.answer category value) = session ∨
      ∃ asked, (start.after calls).pending = some asked ∧ category = .text asked ∧
        value.token?.isSome = true ∧
        session.call (.answer category value) =
          { session with turns := answerLast session.turns value.plain }.follow
            (start.after (calls ++ [Call.supply category value])) := by
  cases hpending : (start.after calls).pending with
  | none =>
    -- Nothing is asked: whatever the state, the engine would refuse an answer.
    left
    have hsupply := Engine.supply_of_none hpending category value
    rw [call, answer, h.engine]
    split
    · rename_i next hnext
      split at hnext
      · rename_i hengine
        cases hengine
        rw [hsupply] at hnext
        cases hnext
      · cases hnext
    · rfl
  | some asked =>
    have hstate : session.state = .awaitingInput := by
      rw [h.state]
      exact Outcome.sessionState_eq_awaitingInput_iff.2
        ⟨asked, h.stopped.pending.symm.trans hpending⟩
    have hsupply := Engine.supply_of_some hpending category value
    rw [Engine.after_concat, Engine.call, Engine.respond, call, answer, hstate, h.engine]
    dsimp only
    rw [hsupply]
    by_cases hcategory : category.text? = some asked
    · rw [if_pos hcategory]
      cases hvalue : value.token? with
      | none => exact Or.inl rfl
      | some answer =>
        exact Or.inr ⟨asked, rfl, Datum.eq_text_of_text? hcategory, rfl, rfl⟩
    · rw [if_neg hcategory]
      exact Or.inl rfl

/-- An answer that is accepted is written into the turn of the question it answers, since this is
the last one. -/
theorem Conducts.call_answer {target : Datum} {given : List (Datum × Datum)} {start : Engine}
    {calls : List Call} (h : session.Conducts start calls)
    (hstart : Engine.start base target given focused = .ok start) (category value : Datum) :
    session.call (.answer category value) = session ∨
      (session.call (.answer category value)).Conducts start
          (calls ++ [Call.supply category value]) ∧
        (session.call (.answer category value)).base = session.base ∧
        (session.call (.answer category value)).focused = session.focused := by
  rcases h.answer_cases category value with hrefused | ⟨asked, hpending, rfl, hvalue, hcall⟩
  · exact Or.inl hrefused
  · right
    obtain ⟨haccepted, hstopped⟩ := Engine.supply_pending hpending hvalue
    rw [← Engine.after_concat] at hstopped
    have hanswered : answerLast session.turns value.plain =
        (start.accepted (calls ++ [Call.supply (.text asked) value])).map
          (Engine.answeredTurn start.base) := by
      rw [h.turns, Engine.transcript, hpending, Engine.accepted_concat, haccepted, List.map_append]
      exact answerLast_concat _ _ _
    rw [hcall]
    exact conducts_follow hstart hstopped hanswered

/-- Giving up keeps the transcript and nothing else. -/
theorem isKept_cancel {given? : Option (List (Datum × Datum))}
    (h : session.IsKept base focused given?) :
    (session.call .cancel).IsKept base focused given? := by
  cases h with
  | idle of_base of_focused engine outcome state turns target =>
    exact .cancelled of_base of_focused rfl rfl rfl (Or.inl turns)
  | conducting of_base of_focused given_eq started conducts =>
    exact .cancelled of_base of_focused rfl rfl rfl
      (Or.inr ⟨_, _, _, _, given_eq, started, conducts.turns⟩)
  | cancelled of_base of_focused engine outcome state turns =>
    exact .cancelled of_base of_focused rfl rfl rfl turns

/-- Without an engine every answer is refused. -/
theorem call_answer_of_none (hengine : session.engine = none) (category value : Datum) :
    session.call (.answer category value) = session := by
  rw [call, answer, hengine]
  split
  · rename_i next hnext
    split at hnext
    · rename_i hsome
      cases hsome
    · cases hnext
  · rfl

theorem isKept_answer {given? : Option (List (Datum × Datum))}
    (h : session.IsKept base focused given?) (category value : Datum) :
    (session.call (.answer category value)).IsKept base focused given? := by
  cases h with
  | idle of_base of_focused engine outcome state turns target =>
    rw [call_answer_of_none engine]
    exact .idle of_base of_focused engine outcome state turns target
  | conducting of_base of_focused given_eq started conducts =>
    -- Refused, or accepted as one more call of the same consultation.
    rcases conducts.call_answer started category value with
      hrefused | ⟨hconducts, hbase, hfocused⟩
    · rw [hrefused]
      exact .conducting of_base of_focused given_eq started conducts
    · exact .conducting (hbase.trans of_base) (hfocused.trans of_focused) given_eq started hconducts
  | cancelled of_base of_focused engine outcome state turns =>
    rw [call_answer_of_none engine]
    exact .cancelled of_base of_focused engine outcome state turns

theorem IsKept.base_eq {given? : Option (List (Datum × Datum))}
    (h : session.IsKept base focused given?) : session.base = base := by
  cases h <;> assumption

theorem IsKept.focused_eq {given? : Option (List (Datum × Datum))}
    (h : session.IsKept base focused given?) : session.focused = focused := by
  cases h <;> assumption

/-- Every request keeps a session so, also one that is refused. -/
theorem isKept_call {requests : List Request}
    (h : session.IsKept base focused (lastFacts? requests)) (request : Request) :
    (session.call request).IsKept base focused (lastFacts? (requests ++ [request])) := by
  cases request with
  | start target given => exact isKept_start h.base_eq h.focused_eq target given
  | answer category value =>
    rw [lastFacts?_concat_of_none requests rfl]
    exact isKept_answer h category value
  | cancel =>
    rw [lastFacts?_concat_of_none requests rfl]
    exact isKept_cancel h

/-- A session is so after any requests. -/
theorem isKept_after (base : Base) (focused : Bool) (requests : List Request) :
    ((Session.new base focused).after requests).IsKept base focused (lastFacts? requests) := by
  induction requests using List.reverseRecOn with
  | nil => exact .idle rfl rfl rfl rfl rfl rfl rfl
  | append_singleton requests request ih =>
    rw [after_concat]
    exact isKept_call ih request

/-! ## Coherence -/

/-- State, outcome, transcript, facts and firings of a session fit together. The facts that were
given at the last start are `given?`. -/
structure IsCoherent (base : Base) (given? : Option (List (Datum × Datum))) (session : Session) :
    Prop where
  awaiting : session.state = .awaitingInput ↔
    ∃ category prompt choices, session.outcome = some (.needsInput category prompt choices)
  /-- The question is the one that the engine waits for, and its turn is the last one and the only
  one that is not answered. -/
  question : ∀ category prompt choices,
    session.outcome = some (.needsInput category prompt choices) →
      (∃ engine, session.engine = some engine ∧ engine.pending = some category) ∧
        ∃ answered, session.turns = answered ++ [⟨category, prompt, none⟩] ∧
          ∀ turn ∈ answered, turn.answer.isSome = true
  resolved : session.state = .resolved ↔
    ∃ pair fired, session.outcome = some (.resolved pair fired)
  exhausted : session.state = .exhausted ↔
    ∃ unanswered fired, session.outcome = some (.exhausted unanswered fired)
  answered : session.state = .resolved ∨ session.state = .exhausted →
    ∀ turn ∈ session.turns, turn.answer.isSome = true
  inactive : session.state = .idle ∨ session.state = .cancelled →
    session.outcome = none ∧ session.facts = Table.empty ∧ session.fired = []
  idle : session.state = .idle → session.turns = [] ∧ session.target = none
  distinct : (session.turns.map Turn.category).Nodup
  unknown : ∀ given, given? = some given →
    ∀ turn ∈ session.turns, ∀ fact ∈ given, fact.1.plain ≠ turn.category
  /-- An answer is known, unless a rule that fired concludes its category. -/
  known : session.engine.isSome = true → ∀ turn ∈ session.turns, ∀ answer,
    turn.answer = some answer → session.facts.get? turn.category = some answer ∨
      ∃ rule ∈ base.rules, rule.id ∈ session.fired ∧ rule.conclusion.category = turn.category

variable {target : Datum} {given : List (Datum × Datum)} {start : Engine} {calls : List Call}

/-- The question of a session that conducts a consultation. -/
theorem Conducts.question (hstart : Engine.start base target given focused = .ok start)
    (h : session.Conducts start calls) {category prompt : String} {choices : List String}
    (houtcome : session.outcome = some (.needsInput category prompt choices)) :
    (start.after calls).pending = some category ∧
      session.turns = (start.accepted calls).map (Engine.answeredTurn start.base) ++
        [⟨category, prompt, none⟩] := by
  have hverdict : (start.after calls).verdict = .needsInput category prompt choices :=
    Option.some.inj (h.outcome.symm.trans houtcome)
  have hpending : (start.after calls).pending = some category := by
    rw [h.stopped.pending, hverdict]
    rfl
  refine ⟨hpending, ?_⟩
  -- The wording is the one that the base has for the category.
  obtain ⟨-, -, -, hasked⟩ := h.stopped.of_pending hpending
  rw [h.stopped.outcome, hverdict, (Advances.after hstart calls).base] at hasked
  cases hasked
  rw [h.turns, Engine.transcript, hpending]
  rfl

/-- Without a question every turn is answered. -/
theorem Conducts.answered (h : session.Conducts start calls)
    (hstate : session.state ≠ .awaitingInput) :
    session.turns = (start.accepted calls).map (Engine.answeredTurn start.base) := by
  have hpending : (start.after calls).pending = none := by
    rw [Option.eq_none_iff_forall_ne_some]
    intro category hpending
    apply hstate
    rw [h.state]
    exact Outcome.sessionState_eq_awaitingInput_iff.2
      ⟨category, h.stopped.pending.symm.trans hpending⟩
  rw [h.turns, Engine.transcript, hpending]
  exact List.append_nil _

/-- A session that conducts an engine is coherent. -/
theorem Conducts.isCoherent (hbase : base.IsSound)
    (hstart : Engine.start base target given focused = .ok start)
    (h : session.Conducts start calls) : session.IsCoherent base (some given) := by
  obtain ⟨hawaiting, hresolved, hexhausted⟩ :=
    Outcome.sessionState_eq_iff (start.after calls).verdict
  -- No outcome of an engine leaves a session idle or cancelled.
  have hactive : session.state ≠ .idle ∧ session.state ≠ .cancelled := by
    rw [h.state]
    cases (start.after calls).verdict <;> simp [Outcome.sessionState]
  have hanswered : ∀ turn ∈ (start.accepted calls).map (Engine.answeredTurn start.base),
      turn.answer.isSome = true := by
    intro turn hturn
    obtain ⟨answer, -, rfl⟩ := List.mem_map.1 hturn
    rfl
  obtain ⟨hdistinct, hunknown⟩ := Engine.distinct_transcript hstart calls
  rw [← h.turns] at hdistinct hunknown
  constructor
  case awaiting =>
    rw [h.state, h.outcome, hawaiting]
    simp only [Option.some.injEq]
  case question =>
    intro category prompt choices houtcome
    obtain ⟨hpending, hturns⟩ := h.question hstart houtcome
    exact ⟨⟨_, h.engine, hpending⟩, _, hturns, hanswered⟩
  case resolved =>
    rw [h.state, h.outcome, hresolved]
    simp only [Option.some.injEq]
  case exhausted =>
    rw [h.state, h.outcome, hexhausted]
    simp only [Option.some.injEq]
  case answered =>
    intro hstate
    have hother : session.state ≠ .awaitingInput := by
      rcases hstate with hstate | hstate <;> simp [hstate]
    rw [h.answered hother]
    exact hanswered
  case inactive =>
    intro hstate
    exact absurd hstate (not_or.2 hactive)
  case idle =>
    intro hstate
    exact absurd hstate hactive.1
  case distinct => exact hdistinct
  case unknown =>
    intro given' hgiven
    cases hgiven
    exact hunknown
  case known =>
    intro _ turn hturn answer hanswer
    rw [h.turns] at hturn
    have haccepted := Engine.mem_accepted_of_transcript hturn hanswer
    rw [facts, fired, h.engine]
    exact Engine.get?_of_accepted hbase hstart haccepted

/-- Whatever may become of a session by requests, it is coherent. -/
theorem IsKept.isCoherent {given? : Option (List (Datum × Datum))} (hbase : base.IsSound)
    (h : session.IsKept base focused given?) : session.IsCoherent base given? := by
  cases h with
  | idle of_base of_focused engine outcome state turns target =>
    constructor <;> simp [engine, outcome, state, turns, target, facts, fired]
  | conducting of_base of_focused given_eq started conducts =>
    rw [given_eq]
    exact conducts.isCoherent hbase started
  | cancelled of_base of_focused engine outcome state turns =>
    -- What was asked before it was given up is still in the transcript.
    have htranscript : (session.turns.map Turn.category).Nodup ∧ ∀ given, given? = some given →
        ∀ turn ∈ session.turns, ∀ fact ∈ given, fact.1.plain ≠ turn.category := by
      rcases turns with hnone | ⟨target, given, start, calls, given_eq, started, hturns⟩
      · rw [hnone]
        refine ⟨List.nodup_nil, ?_⟩
        intro _ _ turn hturn
        cases hturn
      · obtain ⟨hdistinct, hunknown⟩ := Engine.distinct_transcript started calls
        rw [← hturns] at hdistinct hunknown
        refine ⟨hdistinct, ?_⟩
        intro given' hgiven
        cases given_eq.symm.trans hgiven
        exact hunknown
    obtain ⟨hdistinct, hunknown⟩ := htranscript
    constructor
    case distinct => exact hdistinct
    case unknown => exact hunknown
    all_goals simp [engine, outcome, state, facts, fired]

end Session

/-- State, outcome, transcript, facts and firings of a session over a base that was built fit
together after any requests, also such as were refused. -/
theorem session_isCoherent {entries : List Entry} {base : Base} {issues : List Issue}
    {notices : List Notice} (hbuild : build entries = .ok ⟨some base, issues, notices⟩)
    (focused : Bool) (requests : List Request) :
    ((Session.new base focused).after requests).IsCoherent base (lastFacts? requests) :=
  (Session.isKept_after base focused requests).isCoherent (Base.isSound_of_build hbuild)

set_option maxRecDepth 4000 in
/-- An answer for another category is refused; then the question is answered and all turns are. -/
theorem session_isCoherent_exampleEntries :
    ((Session.new (declaredBase exampleEntries) false).after
        [.start (.text "c") [], .answer (.text "b") (.text "x")]).turns =
        [⟨"a", "which a?", none⟩] ∧
      ((Session.new (declaredBase exampleEntries) false).after
        [.start (.text "c") [], .answer (.text "b") (.text "x"),
          .answer (.text "a") (.text "x")]).turns = [⟨"a", "which a?", some "x"⟩] ∧
      ((Session.new (declaredBase exampleEntries) false).after
        [.start (.text "c") [], .answer (.text "b") (.text "x"),
          .answer (.text "a") (.text "x")]).IsCoherent (declaredBase exampleEntries) (some []) := by
  obtain ⟨notices, hbuild⟩ := build_exampleEntries
  refine ⟨by cbv, by cbv, ?_⟩
  exact session_isCoherent hbuild false [.start (.text "c") [], .answer (.text "b") (.text "x"),
    .answer (.text "a") (.text "x")]

end RuleConsult
