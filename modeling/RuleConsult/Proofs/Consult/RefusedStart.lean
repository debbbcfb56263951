import RuleConsult.Consult.Record
import RuleConsult.Proofs.Consult.Refusal
import RuleConsult.Proofs.Consult.Restart

/-!
# What a refused start leaves

A start discards the consultation before it looks at target and facts, so a session whose start is
refused has nothing left of what went on before: whatever requests were made, it is a new session.
Only the note that a consultation was started, and when, is not taken back. It is shown nowhere but
in the record of the session, which tells when a consultation began that is gone.

* `Session.everStarted_after`: the note is there exactly if some start was accepted;
* `Session.toDatum_cleared`: the record is that of a new session but for the time of the start;
* `refused_start_leaves_time`: the session after a start that is refused, and its record.
-/

namespace RuleConsult

/-- Whether a consultation was started. -/
def Exchange.isAcceptedStart (exchange : Exchange) : Bool :=
  match exchange.request, exchange.reply with
  | .start .., .ok _ => true
  | _, _ => false

namespace Session

variable {base : Base} {focused : Bool}

/-! ## The note of a start -/

theorem everStarted_follow (session : Session) (engine : Engine) :
    (session.follow engine).everStarted = session.everStarted := by
  unfold follow
  dsimp only
  split <;> rfl

/-- Answering does not touch the note. -/
theorem everStarted_answer {session next : Session} {category value : Datum}
    (h : session.answer category value = .ok next) : next.everStarted = session.everStarted := by
  by_cases hstate : session.state = .awaitingInput
  · cases hengine : session.engine with
    | none =>
      rw [answer, hengine] at h
      split at h
      · rename_i hsome
        cases hsome
      · cases h
    | some engine =>
      rw [answer_of_awaiting hstate hengine] at h
      split at h
      · cases h
      · cases h
        rw [everStarted_follow]
  · rw [answer_of_ne hstate] at h
    cases h

/-- A request makes the note exactly if it is a start that is accepted, and none takes it back. -/
theorem everStarted_call (session : Session) (request : Request) :
    (session.call request).everStarted =
      (session.everStarted || (session.exchange request).isAcceptedStart) := by
  cases request with
  | cancel => exact (Bool.or_false _).symm
  | answer category value =>
    have hnone : (session.exchange (.answer category value)).isAcceptedStart = false := rfl
    rw [hnone, Bool.or_false, call]
    cases hanswer : session.answer category value with
    | error fault => rfl
    | ok next => exact everStarted_answer hanswer
  | start target given =>
    cases hengine : Engine.start session.base target given session.focused with
    | error fault =>
      simp only [call, exchange, reply, start_of_error hengine, Exchange.isAcceptedStart,
        Bool.or_false]
      rfl
    | ok engine =>
      simp only [call, exchange, reply, start_of_ok hengine, Exchange.isAcceptedStart,
        Bool.or_true, opened, everStarted_follow]

/-- The note is there exactly if it was there before or some start was accepted. -/
theorem everStarted_after (session : Session) (requests : List Request) :
    (session.after requests).everStarted =
      (session.everStarted || (session.exchanges requests).any Exchange.isAcceptedStart) := by
  induction requests generalizing session with
  | nil => exact (Bool.or_false _).symm
  | cons request requests ih =>
    have hcons : session.after (request :: requests) = (session.call request).after requests := rfl
    rw [hcons, ih, everStarted_call, exchanges, List.any_cons, Bool.or_assoc]

/-! ## Cleared sessions -/

/-- A new session, perhaps with the note that something was started. -/
def cleared (base : Base) (focused everStarted : Bool) : Session :=
  { new base focused with everStarted }

theorem reset_eq_cleared (session : Session) :
    session.reset = cleared session.base session.focused session.everStarted := rfl

/-- The record of a session on which nothing goes on, with what it has for the time of the start. -/
def blankRecord (startedAt : Datum) : Datum :=
  .record [("target", .null), ("state", .text "idle"), ("conclusion", .null), ("unanswered", .null),
    ("facts", .record []), ("fired_rules", .list []), ("transcript", .list []),
    ("started_at", startedAt)]

/-- A cleared session is recorded like a new one but for the time of the start. -/
theorem toDatum_cleared (everStarted : Bool) (time : String) :
    (cleared base focused everStarted).toDatum time =
      blankRecord (if everStarted then .text time else .null) := rfl

/-- The two records differ exactly if something was started. -/
theorem toDatum_cleared_eq_new_iff {everStarted : Bool} {time : String} :
    (cleared base focused everStarted).toDatum time = (new base focused).toDatum time ↔
      everStarted = false := by
  have hnew : (new base focused).toDatum time = blankRecord .null := toDatum_cleared false time
  rw [toDatum_cleared, hnew]
  cases everStarted <;> simp [blankRecord]

/-- What is left of a session by a start that is refused. -/
theorem call_of_refused_start {session : Session} {target : Datum} {given : List (Datum × Datum)}
    {fault : SessionFault} (h : session.reply (.start target given) = .error fault) :
    session.call (.start target given) =
      cleared session.base session.focused session.everStarted := by
  cases hengine : Engine.start session.base target given session.focused with
  | error startFault => rw [call, start_of_error hengine, reset_eq_cleared]
  | ok engine =>
    rw [reply_start_eq_ok_iff.2 ⟨engine, hengine, rfl⟩] at h
    cases h

/-- After any requests this is a new session, with a note that tells whether any of them was a start
that was accepted. -/
theorem call_after_of_refused_start {past : List Request} {target : Datum}
    {given : List (Datum × Datum)} {fault : SessionFault}
    (h : ((new base focused).after past).reply (.start target given) = .error fault) :
    ((new base focused).after past).call (.start target given) =
      cleared base focused (((new base focused).exchanges past).any Exchange.isAcceptedStart) := by
  obtain ⟨hbase, hfocused⟩ := base_focused_after base focused past
  have hnote := everStarted_after (new base focused) past
  rw [call_of_refused_start h, hbase, hfocused, hnote]
  rfl

end Session

/-- A start that is refused after any requests leaves a new session, with the same target, state,
outcome, facts, firings, turns and explanation. But if a start was accepted before, the time of that
start is still in its record: the record is that of a new session exactly if none was. -/
theorem refused_start_leaves_time (base : Base) (focused : Bool) (past : List Request)
    {target : Datum} {given : List (Datum × Datum)} {fault : SessionFault}
    (hrefused : ((Session.new base focused).after past).reply (.start target given) =
      .error fault) :
    let session := ((Session.new base focused).after past).call (.start target given)
    let started := ((Session.new base focused).exchanges past).any Exchange.isAcceptedStart
    session = { Session.new base focused with everStarted := started } ∧
      session.explain = (Session.new base focused).explain ∧
      ∀ time, session.toDatum time =
          Session.blankRecord (if started then .text time else .null) ∧
        (session.toDatum time = (Session.new base focused).toDatum time ↔ started = false) := by
  intro session started
  have hsession : session = Session.cleared base focused started :=
    Session.call_after_of_refused_start hrefused
  rw [hsession]
  exact ⟨rfl, rfl, fun time =>
    ⟨Session.toDatum_cleared started time, Session.toDatum_cleared_eq_new_iff⟩⟩

/-- A consultation that goes on when a target is named that is no token. -/
theorem refused_start_leaves_time_noToken :
    let session := (Session.new (declaredBase exampleEntries) false).after
      [.start (.text "c") [(.text "b", .text "y")], .start (.text "no token") []]
    session = { Session.new (declaredBase exampleEntries) false with everStarted := true } ∧
      session.toDatum "now" = Session.blankRecord (.text "now") := by
  have hrefused : ((Session.new (declaredBase exampleEntries) false).after
      [.start (.text "c") [(.text "b", .text "y")]]).reply (.start (.text "no token") []) =
        .error (.start (.badTarget (.text "no token"))) := by
    rfl
  obtain ⟨hsession, -, hrecord⟩ := refused_start_leaves_time (declaredBase exampleEntries) false
    [.start (.text "c") [(.text "b", .text "y")]] hrefused
  exact ⟨hsession, (hrecord "now").1⟩

/-- The record tells that session from one on which nothing was ever started. -/
theorem refused_start_recorded :
    let base := declaredBase exampleEntries
    let session := (Session.new base false).after
      [.start (.text "c") [(.text "b", .text "y")], .start (.text "no token") []]
    session.state = .idle ∧
      session.toDatum "now" ≠ (Session.new base false).toDatum "now" := by
  intro base session
  have hrefused : ((Session.new base false).after
      [.start (.text "c") [(.text "b", .text "y")]]).reply (.start (.text "no token") []) =
        .error (.start (.badTarget (.text "no token"))) := by
    rfl
  have hsession : session = Session.cleared base false true :=
    Session.call_after_of_refused_start hrefused
  rw [hsession]
  refine ⟨rfl, fun hsame => ?_⟩
  rw [Session.toDatum_cleared_eq_new_iff] at hsame
  cases hsame

end RuleConsult
