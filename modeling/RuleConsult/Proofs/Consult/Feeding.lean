import RuleConsult.Proofs.Consult.Refusal
import RuleConsult.Proofs.Consult.Restart

/-!
# Sessions fed with answers

A session on which a consultation was started can be fed with answers: each of them is given to the
question that is pending, until there is none. An answer that is a token is accepted, and the
consultation goes on; any other is refused.

* `Session.feed`: the session after such answers;
* `Session.IsConducting`: a session on which a consultation was started and not given up;
* `Session.IsConducting.answer_of_isToken`, `Session.IsConducting.answer_of_not_isToken`: what
  becomes of an answer to the pending question.
-/

namespace RuleConsult

open Text

namespace Session

variable {session next : Session} {base : Base} {focused : Bool} {target : Datum}
  {given : List (Datum × Datum)} {category answer : String}

/-- The session fed with answers, each for the question that is pending then. Where none is pending
the answers that are left are not given. -/
def feed (session : Session) : List String → Except SessionFault Session
  | [] => .ok session
  | answer :: answers =>
    match session.pending? with
    | none => .ok session
    | some category =>
      match session.answer (.text category) (.text answer) with
      | .ok next => next.feed answers
      | .error fault => .error fault

/-- A session has asked for a category exactly if its outcome is a question about it. -/
theorem pending?_eq_some_iff : session.pending? = some category ↔
    ∃ prompt choices, session.outcome = some (.needsInput category prompt choices) := by
  simp [pending?, Option.bind_eq_some_iff, Outcome.asked?_eq_some_iff]

/-- A session that asks nothing takes no answer. -/
theorem feed_of_pending?_eq_none (h : session.pending? = none) (answers : List String) :
    session.feed answers = .ok session := by
  cases answers with
  | nil => rfl
  | cons answer answers => rw [feed, h]

/-- Answers are fed one after the other. -/
theorem feed_cons (hpending : session.pending? = some category)
    (hanswer : session.answer (.text category) (.text answer) = .ok next)
    (answers : List String) : session.feed (answer :: answers) = next.feed answers := by
  rw [feed, hpending]
  dsimp only
  rw [hanswer]

/-! ## Consultations going on -/

/-- A consultation was started on the session, and it goes on or has come to its end. -/
def IsConducting (session : Session) : Prop :=
  ∃ target given start calls,
    Engine.start session.base target given session.focused = .ok start ∧
      session.Conducts start calls

/-- A consultation that has just been started is going on. -/
theorem isConducting_opened {engine : Engine}
    (h : Engine.start base target given focused = .ok engine) :
    (opened base focused engine).IsConducting := by
  obtain ⟨hconducts, hbase, hfocused⟩ : (opened base focused engine).Conducts engine [.run] ∧
      (opened base focused engine).base = base ∧ (opened base focused engine).focused = focused :=
    conducts_follow h (Engine.isStopped_after_run h []) rfl
  exact ⟨target, given, engine, [.run], hbase.symm ▸ hfocused.symm ▸ h, hconducts⟩

namespace IsConducting

theorem exists_outcome (h : session.IsConducting) : ∃ outcome, session.outcome = some outcome := by
  obtain ⟨-, -, start, calls, -, hconducts⟩ := h
  exact ⟨_, hconducts.outcome⟩

/-- A session that has asked for something waits for it. -/
theorem awaiting (h : session.IsConducting) (hpending : session.pending? = some category) :
    session.state = .awaitingInput := by
  obtain ⟨-, -, start, calls, -, hconducts⟩ := h
  rw [pending?, hconducts.outcome, Option.bind_some] at hpending
  rw [hconducts.state]
  exact Outcome.sessionState_eq_awaitingInput_iff.2 ⟨category, hpending⟩

/-- Which answers to the pending question are refused. -/
theorem refused_iff (h : session.IsConducting) (hpending : session.pending? = some category)
    (answer : String) :
    (∃ fault, session.answer (.text category) (.text answer) = .error fault) ↔
      isToken answer = false := by
  have hstate := h.awaiting hpending
  obtain ⟨target, given, start, calls, hstart, hconducts⟩ := h
  have hkept : session.IsKept session.base session.focused (some given) :=
    .conducting rfl rfl rfl hstart hconducts
  rw [hkept.refused_iff, hpending]
  simp [hstate, Datum.token?, Datum.text?, Option.filter]

/-- What is no token is refused. -/
theorem answer_of_not_isToken (h : session.IsConducting)
    (hpending : session.pending? = some category) (hanswer : isToken answer = false) :
    ∃ fault, session.answer (.text category) (.text answer) = .error fault :=
  (h.refused_iff hpending answer).2 hanswer

/-- A token is accepted, and the consultation goes on. -/
theorem answer_of_isToken (h : session.IsConducting) (hpending : session.pending? = some category)
    (hanswer : isToken answer = true) :
    ∃ next, session.answer (.text category) (.text answer) = .ok next ∧ next.IsConducting := by
  have hrefused := h.refused_iff hpending answer
  cases hnext : session.answer (.text category) (.text answer) with
  | error fault => exact nomatch hanswer.symm.trans (hrefused.1 ⟨fault, hnext⟩)
  | ok next =>
    refine ⟨next, rfl, ?_⟩
    have hcall : session.call (.answer (.text category) (.text answer)) = next := by
      rw [call, hnext]
    obtain ⟨target, given, start, calls, hstart, hconducts⟩ := h
    rcases hconducts.call_answer hstart (.text category) (.text answer) with
      hsame | ⟨hnext, hbase, hfocused⟩
    · rw [← hcall, hsame]
      exact ⟨target, given, start, calls, hstart, hconducts⟩
    · rw [hcall] at hnext hbase hfocused
      exact ⟨target, given, start, _, hbase ▸ hfocused ▸ hstart, hnext⟩

end IsConducting

end Session

end RuleConsult
