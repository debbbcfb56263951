import RuleConsult.Proofs.Consult.Session

/-!
# Starting forgets the past

A session is used for one consultation after the other. Every request writes into some of its
fields: an answer into the turns and the engine, giving up into state and outcome, a start that is
refused into all that it resets. A start that is not refused leaves nothing of this behind. What it
makes of a session is determined by base, mode and the engine that is started, and no request ever
changes base and mode, so the session cannot be told from a new one on which the same was started.

* `Session.opened`: the session at the first stop of a consultation;
* `Session.start_of_ok`: every session becomes that one, whatever it was;
* `start_forgets_past`: the same start, after any requests and on a new session.
-/

namespace RuleConsult

namespace Session

variable {session : Session} {base : Base} {focused : Bool} {target : Datum}
  {given : List (Datum × Datum)}

/-! ## Opening a consultation -/

/-- The session over a base at the first stop of a consultation, with nothing before it. -/
def opened (base : Base) (focused : Bool) (engine : Engine) : Session :=
  { new base focused with target := engine.target, everStarted := true }.follow engine.run

/-- A start that is not refused makes of any session the one that has just been opened: each of its
fields is reset or written. -/
theorem start_of_ok {engine : Engine}
    (h : Engine.start session.base target given session.focused = .ok engine) :
    session.start target given = (opened session.base session.focused engine, none) := by
  -- Resetting touches neither base nor mode, so the same engine is started.
  have hreset : Engine.start session.reset.base target given session.reset.focused = .ok engine := h
  simp only [start, hreset]
  rfl

theorem start_of_error {fault : StartFault}
    (h : Engine.start session.base target given session.focused = .error fault) :
    session.start target given = (session.reset, some (.start fault)) := by
  have hreset : Engine.start session.reset.base target given session.reset.focused = .error fault :=
    h
  simp only [start, hreset]

/-- A start is refused exactly if no engine is started. Otherwise its caller is told where the
engine stops first. -/
theorem reply_start_eq_ok_iff {outcome? : Option Outcome} :
    session.reply (.start target given) = .ok outcome? ↔
      ∃ engine, Engine.start session.base target given session.focused = .ok engine ∧
        outcome? = (opened session.base session.focused engine).outcome := by
  cases hengine : Engine.start session.base target given session.focused with
  | error fault => simp [reply, start_of_error hengine]
  | ok engine => simp [reply, start_of_ok hengine, eq_comm]

/-! ## After any requests -/

/-- No request replaces the base or changes the mode. -/
theorem base_focused_after (base : Base) (focused : Bool) (past : List Request) :
    ((new base focused).after past).base = base ∧
      ((new base focused).after past).focused = focused :=
  ⟨(isKept_after base focused past).base_eq, (isKept_after base focused past).focused_eq⟩

/-- An engine that is started over the base opens a session after any requests, as it opens a new
one. -/
theorem start_after_of_ok (past : List Request) {engine : Engine}
    (h : Engine.start base target given focused = .ok engine) :
    ((new base focused).after past).start target given = (opened base focused engine, none) := by
  obtain ⟨hbase, hfocused⟩ := base_focused_after base focused past
  have hstart : Engine.start ((new base focused).after past).base target given
      ((new base focused).after past).focused = .ok engine := by
    rw [hbase, hfocused]
    exact h
  rw [start_of_ok hstart, hbase, hfocused]

end Session

/-- Starting forgets the past. If after any requests a start is not refused, then its caller is told
the same outcome as on a new session, and it leaves the same session behind, which shows the same
target, state, outcome, facts, firings and turns, gives the same explanation and is recorded in the
same way. Whatever is requested later, the replies are the same, and so are the sessions in
between. -/
theorem start_forgets_past (base : Base) (focused : Bool) (past : List Request) {target : Datum}
    {given : List (Datum × Datum)} {outcome? : Option Outcome}
    (hstart : ((Session.new base focused).after past).reply (.start target given) = .ok outcome?) :
    (Session.new base focused).reply (.start target given) = .ok outcome? ∧
      ((Session.new base focused).after past).call (.start target given) =
        (Session.new base focused).call (.start target given) ∧
      ∀ later : List Request,
        ((Session.new base focused).after past).exchanges (.start target given :: later) =
          (Session.new base focused).exchanges (.start target given :: later) := by
  obtain ⟨hbase, hfocused⟩ := Session.base_focused_after base focused past
  rw [Session.reply_start_eq_ok_iff, hbase, hfocused] at hstart
  obtain ⟨engine, hengine, rfl⟩ := hstart
  -- Both sessions become the one that is opened with this engine.
  have hpast := Session.start_after_of_ok past hengine
  have hnew : (Session.new base focused).start target given =
      (Session.opened base focused engine, none) := Session.start_after_of_ok [] hengine
  refine ⟨Session.reply_start_eq_ok_iff.2 ⟨engine, hengine, rfl⟩, ?_, fun later => ?_⟩
  · simp only [Session.call, hpast, hnew]
  · simp only [Session.exchanges, Session.exchange, Session.reply, Session.call, hpast, hnew]

/-- A consultation that was brought to its end, one that was given up, and one that was refused. -/
def eventfulRequests : List Request :=
  [.start (.text "c") [(.text "b", .text "y")], .start (.text "b") [],
    .answer (.text "a") (.text "x"), .start (.text "c") [], .cancel, .start (.text "no token") []]

/-- After all of these the question is asked as if nothing had been before. -/
theorem start_forgets_past_eventfulRequests :
    ((Session.new (declaredBase exampleEntries) false).after eventfulRequests).reply
        (.start (.text "c") []) = .ok (some (.needsInput "a" "which a?" ["x"])) ∧
      ((Session.new (declaredBase exampleEntries) false).after eventfulRequests).call
          (.start (.text "c") []) =
        (Session.new (declaredBase exampleEntries) false).call (.start (.text "c") []) := by
  have hstart : ((Session.new (declaredBase exampleEntries) false).after eventfulRequests).reply
      (.start (.text "c") []) = .ok (some (.needsInput "a" "which a?" ["x"])) := by
    -- The engine is started whatever was before, and it stops at the question.
    obtain ⟨hbase, hfocused⟩ :=
      Session.base_focused_after (declaredBase exampleEntries) false eventfulRequests
    rw [Session.reply_start_eq_ok_iff, hbase, hfocused]
    exact ⟨.fresh (declaredBase exampleEntries) (some "c") Table.empty false, rfl, by cbv⟩
  exact ⟨hstart, (start_forgets_past (declaredBase exampleEntries) false _ hstart).2.1⟩

end RuleConsult
