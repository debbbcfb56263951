import RuleConsult.Proofs.Consult.Session

/-!
# Refused answers leave no trace

An answer goes through two layers that each keep account of what was asked: the session by its state
and outcome, the engine by its pending question. In every session that requests lead to, the two
accounts agree, so it can be said from outside which answers are refused. Session and engine write
into their fields one after the other, and a refusal in between would leave behind what was written
until then. But nothing is written before the last check, so a session that refuses an answer is
just what it was, and a caller who never tried would not see a difference.

* `Session.answerInPlace_eq`: writing in place, an answer does to a session what a request does;
* `Session.IsKept.refused_iff`: which answers are refused;
* `Session.exchanges_kept`: leaving out what was refused changes nothing else;
* `refused_answers_leave_no_trace`: the three together, for every session after any requests.
-/

namespace RuleConsult

/-! ## Writing in place -/

/-- Answering the pending question of an engine by writing into it. What was written before a fault
stays written. -/
def Engine.supplyInPlace (category value : Datum) :
    EStateM AnswerFault Engine (Option Outcome) := do
  match (← get).pending with
  | none => throw .nothingPending
  | some pending =>
    if category.text? = some pending then
      match value.token? with
      | none => throw (.badValue pending value)
      | some answer =>
        modify fun engine => { engine with memory := engine.memory.insert pending answer }
        modify fun engine => { engine with pending := none }
        modify Engine.run
        return (← get).outcome
    else throw (.otherCategory category pending)

/-- An engine that is written into becomes what supplying the answer makes of it, and stays what it
was at a fault. -/
theorem Engine.supplyInPlace_eq (engine : Engine) (category value : Datum) :
    (supplyInPlace category value).run engine =
      match engine.supply category value with
      | .ok next => .ok next.outcome next
      | .error fault => .error fault engine := by
  simp only [supplyInPlace, supply, EStateM.run_bind, EStateM.run_get]
  cases engine.pending with
  | none => rfl
  | some pending =>
    by_cases hcategory : category.text? = some pending
    · simp only [if_pos hcategory]
      cases value.token? <;> rfl
    · simp only [if_neg hcategory]
      rfl

namespace Session

/-- Answering the pending question of a session by writing into it and into its engine. -/
def answerInPlace (category value : Datum) : EStateM SessionFault Session (Option Outcome) := do
  let session ← get
  match session.state, session.engine with
  | .awaitingInput, some engine =>
    match (Engine.supplyInPlace category value).run engine with
    | .error fault engine =>
      -- The session holds the engine as the refusal left it.
      modify fun session => { session with engine := some engine }
      throw (.answer fault)
    | .ok _ engine =>
      modify fun session => { session with engine := some engine }
      modify fun session => { session with turns := answerLast session.turns value.plain }
      modify fun session => session.follow engine
      return (← get).outcome
  | state, _ => throw (.notAwaiting state)

/-- A session that is written into becomes what the request makes of it, and its caller is told the
same. -/
theorem answerInPlace_eq (session : Session) (category value : Datum) :
    (answerInPlace category value).run session =
      match session.reply (.answer category value) with
      | .ok outcome? => .ok outcome? (session.call (.answer category value))
      | .error fault => .error fault (session.call (.answer category value)) := by
  obtain ⟨base, focused, target, engine, outcome, state, turns, everStarted⟩ := session
  cases engine with
  | none => cases state <;> rfl
  | some engine =>
    cases state with
    | awaitingInput =>
      have hengine := Engine.supplyInPlace_eq engine category value
      simp only [answerInPlace, reply, call, answer, EStateM.run_bind, EStateM.run_get, hengine]
      -- A refusal puts back the engine that was there; following replaces it in any case.
      cases engine.supply category value with
      | error fault => rfl
      | ok next => rfl
    | _ => rfl

/-! ## Which answers are refused -/

/-- The category that a session has asked for. -/
def pending? (session : Session) : Option String :=
  session.outcome.bind Outcome.asked?

variable {base : Base} {focused : Bool} {session : Session}

theorem answer_of_ne (h : session.state ≠ .awaitingInput) (category value : Datum) :
    session.answer category value = .error (.notAwaiting session.state) := by
  rw [answer]
  split
  · rename_i hstate _
    exact absurd hstate h
  · rfl

theorem answer_of_awaiting {engine : Engine} (hstate : session.state = .awaitingInput)
    (hengine : session.engine = some engine) (category value : Datum) :
    session.answer category value =
      match engine.supply category value with
      | .error fault => .error (.answer fault)
      | .ok next =>
        .ok ({ session with turns := answerLast session.turns value.plain }.follow next) := by
  cases session
  cases hstate
  cases hengine
  rfl

/-- A session that waits for an answer holds an engine that waits for the same answer. -/
theorem IsKept.exists_engine {given? : Option (List (Datum × Datum))}
    (h : session.IsKept base focused given?) (hstate : session.state = .awaitingInput) :
    ∃ engine asked, session.engine = some engine ∧ engine.pending = some asked ∧
      session.pending? = some asked := by
  -- Only a session that conducts a consultation waits for anything.
  cases h with
  | idle of_base of_focused engine outcome state turns target =>
    rw [state] at hstate
    cases hstate
  | cancelled of_base of_focused engine outcome state turns =>
    rw [state] at hstate
    cases hstate
  | conducting of_base of_focused given_eq started conducts =>
    rw [conducts.state, Outcome.sessionState_eq_awaitingInput_iff] at hstate
    obtain ⟨asked, hasked⟩ := hstate
    refine ⟨_, asked, conducts.engine, conducts.stopped.pending.trans hasked, ?_⟩
    rw [pending?, conducts.outcome, Option.bind_some, hasked]

/-- An answer is refused exactly if none is awaited, or it is for another category than the pending
one, or it is no token. -/
theorem IsKept.refused_iff {given? : Option (List (Datum × Datum))}
    (h : session.IsKept base focused given?) (category value : Datum) :
    (∃ fault, session.answer category value = .error fault) ↔
      session.state ≠ .awaitingInput ∨ category.text? ≠ session.pending? ∨
        value.token? = none := by
  by_cases hstate : session.state = .awaitingInput
  · obtain ⟨engine, asked, hengine, hpending, hasked⟩ := h.exists_engine hstate
    rw [answer_of_awaiting hstate hengine, Engine.supply_of_some hpending, hasked]
    by_cases hcategory : category.text? = some asked
    · cases hvalue : value.token? <;> simp [hstate, hcategory]
    · simp [hcategory]
  · simp [answer_of_ne hstate, hstate]

/-! ## Leaving out what was refused -/

/-- A session that refuses an answer stays what it was. -/
theorem call_of_refused {category value : Datum} {fault : SessionFault}
    (h : session.answer category value = .error fault) :
    session.call (.answer category value) = session := by
  rw [call, h]

end Session

/-- Whether an answer was refused. -/
def Exchange.isRefusedAnswer (exchange : Exchange) : Bool :=
  match exchange.request, exchange.reply with
  | .answer .., .error _ => true
  | _, _ => false

namespace Session

/-- What is exchanged at requests, but for answers that are refused. -/
def kept (session : Session) (requests : List Request) : List Exchange :=
  (session.exchanges requests).filter fun exchange => !exchange.isRefusedAnswer

theorem call_of_isRefusedAnswer {session : Session} {request : Request}
    (h : (session.exchange request).isRefusedAnswer = true) : session.call request = session := by
  cases request with
  | start target facts => cases h
  | cancel => cases h
  | answer category value =>
    cases hanswer : session.answer category value with
    | error fault => exact call_of_refused hanswer
    | ok next =>
      simp only [exchange, Exchange.isRefusedAnswer, reply, hanswer, Except.map] at h
      cases h

/-- The requests that are left, made without the others, are met by the same replies and lead
through the same sessions. -/
theorem exchanges_kept (session : Session) (requests : List Request) :
    session.exchanges ((session.kept requests).map Exchange.request) = session.kept requests ∧
      session.after ((session.kept requests).map Exchange.request) = session.after requests := by
  induction requests generalizing session with
  | nil => exact ⟨rfl, rfl⟩
  | cons request requests ih =>
    obtain ⟨hexchanges, hafter⟩ := ih (session.call request)
    have hcons : session.after (request :: requests) = (session.call request).after requests := rfl
    rw [hcons, kept, exchanges]
    by_cases hrefused : (session.exchange request).isRefusedAnswer = true
    · -- The session has not changed, so the rest is met by it as it was.
      rw [List.filter_cons_of_neg (by simpa using hrefused), ← kept]
      rw [call_of_isRefusedAnswer hrefused] at hexchanges hafter ⊢
      exact ⟨hexchanges, hafter⟩
    · rw [List.filter_cons_of_pos (by simpa using hrefused), ← kept, List.map_cons]
      refine ⟨?_, hafter⟩
      rw [exchanges]
      exact congrArg _ hexchanges

end Session

/-- Refused answers leave no trace. In a session after any requests, an answer is refused exactly if
the session does not wait for one, or it is for another category than the pending one, or the value
is not a token. Even if the session is written into field by field, it is then what it was. So the
requests of which those answers are left out are met by the same replies and lead through the same
sessions, and to the same session in the end. -/
theorem refused_answers_leave_no_trace (base : Base) (focused : Bool) (requests : List Request) :
    (∀ category value,
      let session := (Session.new base focused).after requests
      ((∃ fault, session.answer category value = .error fault) ↔
        session.state ≠ .awaitingInput ∨ category.text? ≠ session.pending? ∨
          value.token? = none) ∧
      ∀ fault, session.answer category value = .error fault →
        (Session.answerInPlace category value).run session = .error fault session) ∧
      (Session.new base focused).exchanges
          (((Session.new base focused).kept requests).map Exchange.request) =
        (Session.new base focused).kept requests ∧
      (Session.new base focused).after
          (((Session.new base focused).kept requests).map Exchange.request) =
        (Session.new base focused).after requests := by
  refine ⟨fun category value => ⟨?_, fun fault hfault => ?_⟩, Session.exchanges_kept _ requests⟩
  · exact (Session.isKept_after base focused requests).refused_iff category value
  · rw [Session.answerInPlace_eq, Session.reply, hfault, Session.call_of_refused hfault]
    rfl

/-- A consultation with an answer for another category and one that is no token. -/
def waveringRequests : List Request :=
  [.start (.text "c") [], .answer (.text "b") (.text "x"), .answer (.text "a") (.text "x y"),
    .answer (.text "a") (.text "x")]

/-- The two are refused, and without them the session would have come to stand where it does. -/
theorem refused_answers_leave_no_trace_waveringRequests :
    ((Session.new (declaredBase exampleEntries) false).kept waveringRequests).map
        Exchange.request = [.start (.text "c") [], .answer (.text "a") (.text "x")] ∧
      (Session.new (declaredBase exampleEntries) false).after
          [.start (.text "c") [], .answer (.text "a") (.text "x")] =
        (Session.new (declaredBase exampleEntries) false).after waveringRequests := by
  have hkept : ((Session.new (declaredBase exampleEntries) false).kept waveringRequests).map
      Exchange.request = [.start (.text "c") [], .answer (.text "a") (.text "x")] := by cbv
  obtain ⟨-, -, hafter⟩ :=
    refused_answers_leave_no_trace (declaredBase exampleEntries) false waveringRequests
  rw [hkept] at hafter
  exact ⟨hkept, hafter⟩

end RuleConsult
