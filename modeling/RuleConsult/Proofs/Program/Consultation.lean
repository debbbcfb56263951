import RuleConsult.Program
import RuleConsult.Program.Usual
import RuleConsult.Proofs.Consult.Completeness
import RuleConsult.Proofs.Consult.Feeding
import RuleConsult.Proofs.Files.Loading
import RuleConsult.Proofs.Keywords

/-!
# A consultation on the console is a session fed with typed answers

The console asks the pending question, reads a line and hands it to the session, over and over. What
becomes of all this is told by the session alone: it is fed with the answers among the lines, and as
it stands then the consultation on the console has ended. A line that is refused is as if it had not
been typed, and no line is read once the end has come. The console keeps the outcome that it goes by
itself, and no line lets it fall behind the session.

* `typedAnswers`: the answers among typed lines;
* `Session.IsOver`: when no more lines are read;
* `Asking.InStep`, `Asking.InStep.take`: the outcome on the console is that of the session;
* `Asking.follows_converse`: a consultation with the lines of an input;
* `ask_feeds_session`: the command that begins such a consultation, and all that comes of it.
-/

namespace RuleConsult

open Text

/-! ## Answers among lines -/

/-- The answers among typed lines: of those before the first exit word, the tokens. -/
def typedAnswers (lines : List String) : List String :=
  ((lines.map trim).takeWhile fun answer => !isExitWord answer).filter isToken

section typedAnswers

variable {line : String} (lines : List String)

/-- An exit word ends the answers, whatever lines come behind it. -/
theorem typedAnswers_of_exit (h : isExitWord (trim line) = true) :
    typedAnswers (line :: lines) = [] := by
  simp [typedAnswers, h]

theorem typedAnswers_of_isToken (hexit : isExitWord (trim line) = false)
    (h : isToken (trim line) = true) :
    typedAnswers (line :: lines) = trim line :: typedAnswers lines := by
  simp [typedAnswers, hexit, h]

/-- A line that is no token is asked for again and answers nothing. -/
theorem typedAnswers_of_not_isToken (hexit : isExitWord (trim line) = false)
    (h : isToken (trim line) = false) : typedAnswers (line :: lines) = typedAnswers lines := by
  simp [typedAnswers, hexit, h]

end typedAnswers

namespace Session

/-- No more lines are read: the consultation was given up, or nothing is asked any more. -/
def IsOver (session : Session) (lines : List String) : Prop :=
  (∃ line ∈ lines, isExitWord (trim line) = true) ∨
    ∃ fed, session.feed (typedAnswers lines) = .ok fed ∧ fed.pending? = none

variable {session next : Session} {category line : String} {lines : List String}

theorem not_isOver_nil (h : session.pending? = some category) : ¬ session.IsOver [] := by
  rintro (⟨line, hline, -⟩ | ⟨fed, hfed, hdone⟩)
  · cases hline
  · cases hfed
    exact nomatch h.symm.trans hdone

/-- A line that gives nothing up leaves the rest to the session that is fed with it. -/
theorem isOver_cons_iff (hexit : isExitWord (trim line) = false)
    (hfeed : session.feed (typedAnswers (line :: lines)) = next.feed (typedAnswers lines)) :
    session.IsOver (line :: lines) ↔ next.IsOver lines := by
  simp [IsOver, hfeed, hexit]

end Session

/-! ## Endings -/

/-- How a consultation on the console ends, as told by the session that was fed with the typed
answers. -/
inductive Ending.Tells (ending : Ending) (fed : Session) : Prop
  | resolved {pair : Pair} {fired : List Int} (outcome : fed.outcome = some (.resolved pair fired))
      (code : ending.exitCode = 0) (session : ending.session = fed)
  | exhausted {unanswered : Option String} {fired : List Int}
      (outcome : fed.outcome = some (.exhausted unanswered fired))
      (code : ending.exitCode = 2) (session : ending.session = fed)
  /-- The question that is pending is not answered any more. -/
  | cancelled {category prompt : String} {choices : List String}
      (outcome : fed.outcome = some (.needsInput category prompt choices))
      (code : ending.exitCode = 1) (session : ending.session = fed.cancel)

theorem Ending.Tells.after {ending : Ending} {fed : Session} (h : ending.Tells fed)
    (text : String) : (ending.after text).Tells fed := by
  cases h with
  | resolved outcome code session => exact .resolved outcome code session
  | exhausted outcome code session => exact .exhausted outcome code session
  | cancelled outcome code session => exact .cancelled outcome code session

namespace Asking

variable {asking : Asking} {time category line : String} {lines : List String} {fed : Session}

/-- The ending where no more lines are read: with the outcome that there is, or without one. -/
def close (asking : Asking) (time : String) (unread : List String) : Ending :=
  match asking.session.pending? with
  | none => asking.finish time unread
  | some _ => asking.giveUp unread

/-- The consultation on the console with another session and its outcome. -/
def withSession (asking : Asking) (session : Session) : Asking :=
  { asking with session, outcome := session.outcome }

/-- What is said asks what the session asks that is fed with the answers among some lines. -/
def Says (asking : Asking) (lines : List String) (said : String) : Prop :=
  ∃ session text reply, asking.session.feed (typedAnswers lines) = .ok session ∧
    (asking.withSession session).question? = some text ∧ said = text ++ reply

/-- The ending is that of the session that was fed with the answers among the lines. -/
structure Follows (asking : Asking) (time : String) (lines : List String) (fed : Session)
    (ending : Ending) : Prop where
  feeds : asking.session.feed (typedAnswers lines) = .ok fed
  tells : ending.Tells fed
  /-- Each line is typed to the question of the session that was fed with the lines before it, and
  behind the dialogue stands what is said of the session in the end. -/
  output : ∃ dialogue : List String,
    ending.output =
        dialogue.map .text ++ ((asking.withSession fed).close time ending.unread).output ∧
      ∀ i said, dialogue[i]? = some said → asking.Says (lines.take i) said
  /-- Lines are read as long as the consultation is not over. -/
  unread : ∃ read, lines = read ++ ending.unread ∧
    (asking.session.IsOver read ∨ ending.unread = []) ∧
      ∀ earlier, earlier <+: read → earlier ≠ read → ¬ asking.session.IsOver earlier

/-! ## The outcome on the console -/

/-- The outcome that the console goes by is that of the session. -/
def InStep (asking : Asking) : Prop := asking.outcome = asking.session.outcome

/-- In step, taking over its own session changes nothing. -/
theorem InStep.withSession_eq (h : asking.InStep) : asking.withSession asking.session = asking := by
  rw [withSession, ← h]

/-- A line leaves the outcome in step, whether it is refused or brings the session on. -/
theorem InStep.take {reply : String} {next : Asking} (h : asking.InStep)
    (htake : asking.take line = some (reply, next)) : next.InStep := by
  unfold Asking.take at htake
  dsimp only at htake
  split at htake
  · cases htake
  · split at htake
    · split at htake
      · cases htake
        rfl
      · cases htake
        exact h
    · cases htake
      exact h

/-! ## What a line does -/

/-- Nothing is asked where no question is pending. -/
theorem question?_of_pending?_eq_none (hstep : asking.InStep)
    (h : asking.session.pending? = none) : asking.question? = none := by
  unfold question?
  rw [hstep]
  split
  · rename_i houtcome
    rw [Session.pending?, houtcome] at h
    cases h
  · rfl

/-- A question that is pending is asked. -/
theorem exists_question? (hstep : asking.InStep) (h : asking.session.pending? = some category) :
    ∃ text, asking.question? = some text := by
  obtain ⟨prompt, choices, houtcome⟩ := Session.pending?_eq_some_iff.1 h
  exact ⟨_, by rw [question?, hstep, houtcome]⟩

/-- The courses of a typed line while a question is pending. -/
inductive Typing (asking : Asking) (category line : String) : Option (String × Asking) → Prop
  /-- It gives up the consultation. -/
  | exit (word : isExitWord (trim line) = true) : Typing asking category line none
  /-- It is refused, which is reported. -/
  | refused {report : String} (word : isExitWord (trim line) = false)
      (token : isToken (trim line) = false) : Typing asking category line (some (report, asking))
  /-- It is an answer. -/
  | accepted {next : Session} (word : isExitWord (trim line) = false)
      (token : isToken (trim line) = true)
      (answered : asking.session.answer (.text category) (.text (trim line)) = .ok next)
      (conducting : next.IsConducting) :
      Typing asking category line (some ("", asking.withSession next))

/-- A line takes one of these courses. -/
theorem typing_take (hstep : asking.InStep) (h : asking.session.IsConducting)
    (hpending : asking.session.pending? = some category) (line : String) :
    Typing asking category line (asking.take line) := by
  obtain ⟨prompt, choices, houtcome⟩ := Session.pending?_eq_some_iff.1 hpending
  unfold take
  dsimp only
  rw [hstep, houtcome]
  cases hexit : isExitWord (trim line) with
  | true => exact .exit hexit
  | false =>
    rw [if_neg Bool.false_ne_true]
    cases htoken : isToken (trim line) with
    | false =>
      obtain ⟨fault, hfault⟩ := h.answer_of_not_isToken hpending htoken
      simp only [hfault]
      exact .refused hexit htoken
    | true =>
      obtain ⟨next, hnext, hconducting⟩ := h.answer_of_isToken hpending htoken
      simp only [hnext]
      exact .accepted hexit htoken hnext hconducting

/-! ## Consultations with an input -/

/-- Where nothing is pending the exit code tells whether there is a conclusion. -/
theorem tells_finish (hstep : asking.InStep) (h : asking.session.IsConducting)
    (hpending : asking.session.pending? = none) (time : String) (unread : List String) :
    (asking.finish time unread).Tells asking.session := by
  obtain ⟨outcome, houtcome⟩ := h.exists_outcome
  cases outcome with
  | resolved pair fired => exact .resolved houtcome (by rw [finish, hstep, houtcome]) rfl
  | exhausted unanswered fired =>
    exact .exhausted houtcome (by rw [finish, hstep, houtcome]) rfl
  | needsInput category prompt choices =>
    rw [Session.pending?, houtcome] at hpending
    cases hpending

/-- A loop that is left early tells of the session as it stands. -/
theorem tells_giveUp (hpending : asking.session.pending? = some category) (unread : List String) :
    (asking.giveUp unread).Tells asking.session := by
  obtain ⟨prompt, choices, houtcome⟩ := Session.pending?_eq_some_iff.1 hpending
  exact .cancelled houtcome rfl rfl

/-- Where nothing is asked no line is read. -/
theorem follows_finish (hstep : asking.InStep) (h : asking.session.IsConducting)
    (hpending : asking.session.pending? = none) (time : String) (lines : List String) :
    asking.Follows time lines asking.session (asking.finish time lines) where
  feeds := Session.feed_of_pending?_eq_none hpending _
  tells := tells_finish hstep h hpending time lines
  output := ⟨[], by rw [hstep.withSession_eq, close, hpending]; rfl, nofun⟩
  unread := by
    refine ⟨[], rfl, Or.inl (Or.inr ⟨_, Session.feed_of_pending?_eq_none hpending _, hpending⟩), ?_⟩
    intro earlier hearlier hne
    exact absurd (List.prefix_nil.1 hearlier) hne

/-- The question that is pending is asked before a line is read. -/
theorem says_nil {text : String} (hstep : asking.InStep) (htext : asking.question? = some text)
    (reply : String) : asking.Says [] (text ++ reply) :=
  ⟨asking.session, text, reply, rfl, hstep.withSession_eq ▸ htext, rfl⟩

/-- Giving up ends the dialogue with the question that is pending. -/
theorem output_giveUp {text : String} (hstep : asking.InStep)
    (hpending : asking.session.pending? = some category)
    (htext : asking.question? = some text) (time : String) (lines unread : List String) :
    ∃ dialogue : List String,
      ((asking.giveUp unread).after text).output = dialogue.map .text ++
          ((asking.withSession asking.session).close time unread).output ∧
        ∀ i said, dialogue[i]? = some said → asking.Says (lines.take i) said := by
  refine ⟨[text], by rw [hstep.withSession_eq, close, hpending]; rfl, fun i said hsaid => ?_⟩
  cases i with
  | zero =>
    cases hsaid
    simpa using says_nil hstep htext ""
  | succ i => cases hsaid

/-- At the end of the input the consultation is given up. -/
theorem follows_giveUp_nil {text : String} (hstep : asking.InStep)
    (hpending : asking.session.pending? = some category) (htext : asking.question? = some text)
    (time : String) : asking.Follows time [] asking.session ((asking.giveUp []).after text) where
  feeds := rfl
  tells := (tells_giveUp hpending []).after text
  output := output_giveUp hstep hpending htext time [] []
  unread := by
    refine ⟨[], rfl, Or.inr rfl, ?_⟩
    intro earlier hearlier hne
    exact absurd (List.prefix_nil.1 hearlier) hne

/-- So it is at an exit word. -/
theorem follows_giveUp_cons {text : String} (hstep : asking.InStep)
    (hpending : asking.session.pending? = some category) (htext : asking.question? = some text)
    (hexit : isExitWord (trim line) = true) (time : String) (rest : List String) :
    asking.Follows time (line :: rest) asking.session ((asking.giveUp rest).after text) where
  feeds := by rw [typedAnswers_of_exit rest hexit, Session.feed]
  tells := (tells_giveUp hpending rest).after text
  output := output_giveUp hstep hpending htext time (line :: rest) rest
  unread := by
    refine ⟨[line], rfl, Or.inl (Or.inl ⟨line, List.mem_cons_self, hexit⟩), ?_⟩
    intro earlier hearlier hne
    rcases List.prefix_cons_iff.1 hearlier with rfl | ⟨more, rfl, hmore⟩
    · exact Session.not_isOver_nil hpending
    · rw [List.prefix_nil.1 hmore] at hne
      exact absurd rfl hne

/-- A line that gives nothing up is one more line before those with which the consultation ends. -/
theorem Follows.cons {next : Session} {ending : Ending} {text : String}
    (h : (asking.withSession next).Follows time lines fed ending) (hstep : asking.InStep)
    (hpending : asking.session.pending? = some category) (htext : asking.question? = some text)
    (hexit : isExitWord (trim line) = false)
    (hfeed : ∀ lines, asking.session.feed (typedAnswers (line :: lines)) =
      next.feed (typedAnswers lines)) (reply : String) :
    asking.Follows time (line :: lines) fed (ending.after (text ++ reply)) where
  feeds := (hfeed lines).trans h.feeds
  tells := h.tells.after _
  output := by
    obtain ⟨dialogue, hdialogue, hsays⟩ := h.output
    refine ⟨(text ++ reply) :: dialogue, congrArg (OutputItem.text (text ++ reply) :: ·) hdialogue,
      fun i said hsaid => ?_⟩
    cases i with
    | zero =>
      cases hsaid
      exact says_nil hstep htext reply
    | succ i =>
      obtain ⟨session, asked, report, hsession, hasked, rfl⟩ := hsays i said hsaid
      exact ⟨session, asked, report, (hfeed _).trans hsession, hasked, rfl⟩
  unread := by
    obtain ⟨read, rfl, hover, hfirst⟩ := h.unread
    -- The consultation is over at a later line exactly if it is for the session that goes on.
    have hiff (lines : List String) : asking.session.IsOver (line :: lines) ↔ next.IsOver lines :=
      Session.isOver_cons_iff hexit (hfeed lines)
    refine ⟨line :: read, rfl, hover.imp_left (hiff read).2, ?_⟩
    intro earlier hearlier hne
    rcases List.prefix_cons_iff.1 hearlier with rfl | ⟨more, rfl, hmore⟩
    · exact Session.not_isOver_nil hpending
    · rw [hiff]
      exact hfirst more hmore fun heq => hne (heq ▸ rfl)

/-- Whatever the lines are, the consultation on the console ends as the session that is fed with the
answers among them. -/
theorem follows_converse (hstep : asking.InStep) (h : asking.session.IsConducting) (time : String)
    (lines : List String) :
    ∃ fed, asking.Follows time lines fed (asking.converse time lines) := by
  -- The lines that are left go to whatever session the answers before have led to.
  induction lines generalizing asking with
  | nil =>
    cases hpending : asking.session.pending? with
    | none =>
      rw [converse, question?_of_pending?_eq_none hstep hpending]
      exact ⟨_, follows_finish hstep h hpending time []⟩
    | some category =>
      obtain ⟨text, htext⟩ := exists_question? hstep hpending
      rw [converse, htext]
      exact ⟨_, follows_giveUp_nil hstep hpending htext time⟩
  | cons line rest ih =>
    cases hpending : asking.session.pending? with
    | none =>
      rw [converse, question?_of_pending?_eq_none hstep hpending]
      exact ⟨_, follows_finish hstep h hpending time (line :: rest)⟩
    | some category =>
      obtain ⟨text, htext⟩ := exists_question? hstep hpending
      rw [converse, htext]
      dsimp only
      have htyping := typing_take hstep h hpending line
      generalize htake : asking.take line = result at htyping
      cases htyping with
      | exit word => exact ⟨_, follows_giveUp_cons hstep hpending htext word time rest⟩
      | refused word token =>
        -- The session stays what it was, and the answer is none of those that it is fed with.
        obtain ⟨fed, hfed⟩ := ih hstep h
        have hsame : (asking.withSession asking.session).Follows time rest fed
            (asking.converse time rest) := by
          rwa [hstep.withSession_eq]
        exact ⟨fed, hsame.cons hstep hpending htext word
          (fun lines => by rw [typedAnswers_of_not_isToken lines word token]) _⟩
      | @accepted next word token answered conducting =>
        have hnext : (asking.withSession next).session.IsConducting := conducting
        obtain ⟨fed, hfed⟩ := ih (hstep.take htake) hnext
        exact ⟨fed, hfed.cons hstep hpending htext word
          (fun lines => by rw [typedAnswers_of_isToken lines word token,
            Session.feed_cons hpending answered]) _⟩

end Asking

/-! ## The command -/

section

variable [Encodings] [Toolkit]

namespace Program

variable {settings : Settings} {store : FileStore} {typed : List String}
  {arguments : Arguments VerbOption} {base : Base} {facts : Facts}

/-- The arguments of the command ask for a consultation over a base that is read from a file, and
target and facts are well formed. -/
structure Asks (settings : Settings) (store : FileStore) (typed : List String)
    (arguments : Arguments VerbOption) (base : Base) (facts : Facts) : Prop where
  split : Toolkit.splitArguments (verbForms .ask) true typed = .ok arguments
  no_help : arguments.has .help = false
  loaded : ∃ file, operandOf store .ask arguments.operands = .ok (some file) ∧
    readBase settings .empty store (Path.ofText file) = .ok base
  given : readFacts (arguments.values .fact) = .ok facts
  target_token : ∀ target, (arguments.values .target).getLast? = some target →
    isToken target = true
  given_tokens : ∀ fact ∈ facts.entries, isToken fact.1 = true ∧ isToken fact.2 = true

/-- A consultation that is asked for can be started. -/
theorem Asks.exists_start (h : Asks settings store typed arguments base facts) :
    ∃ engine, Engine.start base (Session.textOrNull (arguments.values .target).getLast?)
      facts.toData (arguments.has .focused) = .ok engine := by
  have htarget : ∃ target?, Engine.checkTarget
      (Session.textOrNull (arguments.values .target).getLast?) = .ok target? := by
    cases hlast : (arguments.values .target).getLast? with
    | none => exact ⟨none, rfl⟩
    | some target =>
      refine ⟨some target, ?_⟩
      simp [Session.textOrNull, Engine.checkTarget, Datum.token?_text (h.target_token _ hlast)]
  have hfacts : Engine.checkFacts facts.toData = .ok (Table.empty.insertMany facts.entries) :=
    Engine.checkFacts_withAnswers (show Engine.checkFacts [] = .ok Table.empty from rfl)
      h.given_tokens
  obtain ⟨target?, htarget⟩ := htarget
  rw [Engine.start, htarget, hfacts]
  exact ⟨_, rfl⟩

/-- Arguments that ask for a consultation are performed by asking. -/
theorem Asks.perform_eq (h : Asks settings store typed arguments base facts) :
    perform settings store .ask typed = ask base arguments := by
  obtain ⟨file, hfile, hbase⟩ := h.loaded
  simp [perform, h.split, h.no_help, hfile, withBase, hbase]

end Program

/-- The command that asks for a consultation begins it as a session does. However its input goes on,
the consultation ends, and it ends as that session does when it is fed with the answers among the
lines: with the exit code 0 for a conclusion and 2 without one, or given up, with the exit code 1,
where a question is pending at an exit word or the end of the input. What is behind that is not
read. -/
theorem ask_feeds_session {settings : Settings} {store : FileStore} {typed : List String}
    {arguments : Arguments VerbOption} {base : Base} {facts : Facts}
    (h : Program.Asks settings store typed arguments base facts) :
    ∃ asking, (Session.new base (arguments.has .focused)).start
        (Session.textOrNull (arguments.values .target).getLast?) facts.toData =
          (asking.session, none) ∧
      Program.perform settings store .ask typed = ([], .asking asking) ∧
      (∀ time lines, ∃ fed, asking.Follows time lines fed (asking.converse time lines)) ∧
      ∀ invocation input, (Program.start invocation).process = .asking asking →
        (Program.run invocation input).result =
            .ok (asking.converse invocation.time (splitLines input)).exitCode ∧
          (Program.run invocation input).unread =
            (asking.converse invocation.time (splitLines input)).unread := by
  obtain ⟨engine, hengine⟩ := h.exists_start
  have hopened : Engine.start (Session.new base (arguments.has .focused)).base
      (Session.textOrNull (arguments.values .target).getLast?) facts.toData
      (Session.new base (arguments.has .focused)).focused = .ok engine := hengine
  obtain ⟨session, hstart, hconducting⟩ : ∃ session,
      (Session.new base (arguments.has .focused)).start
          (Session.textOrNull (arguments.values .target).getLast?) facts.toData =
        (session, none) ∧ session.IsConducting :=
    ⟨_, Session.start_of_ok hopened, Session.isConducting_opened hengine⟩
  refine ⟨⟨Program.console, session, session.outcome, arguments.has .json⟩, hstart, ?_, ?_, ?_⟩
  · rw [h.perform_eq, Program.ask, h.given]
    dsimp only
    rw [hstart]
  · exact Asking.follows_converse rfl hconducting
  · intro invocation input hprocess
    rw [Program.run, hprocess]
    exact ⟨rfl, rfl⟩

end

/-- A directory with a base of one rule and one question. -/
def questionStore : FileStore :=
  .oneFile "1 if a-x then b-y\n7 a-Q?\n"

open Usual in
/-- The first answer is refused, the second one settles the matter, and the third is not read. -/
theorem ask_feeds_session_questionStore :
    let settings : Settings := { language := ⟨.text "utf-8", .text ".kb", numberedKeywords⟩ }
    ∃ base asking fed,
      Program.Asks settings questionStore ["a", "-t", "b"] ⟨[(.target, some "b")], ["a"]⟩ base
        Table.empty ∧
      Program.perform settings questionStore .ask ["a", "-t", "b"] = ([], .asking asking) ∧
      asking.session.feed ["x", "y"] = .ok fed ∧
      (asking.converse "" ["no good", " x ", "y"]).Tells fed := by
  intro settings
  have hsome : (Program.readBase settings .empty questionStore ⟨"", ["a"]⟩).toOption.isSome =
      true := by
    decide +kernel +revert
  have hpath : Path.ofText "a" = ⟨"", ["a"]⟩ := by cbv
  cases hbase : Program.readBase settings .empty questionStore ⟨"", ["a"]⟩ with
  | error fault =>
    rw [hbase] at hsome
    cases hsome
  | ok base =>
    have hasks : Program.Asks settings questionStore ["a", "-t", "b"]
        ⟨[(.target, some "b")], ["a"]⟩ base Table.empty :=
      { split := by cbv
        no_help := rfl
        loaded := ⟨"a", by cbv, hpath ▸ hbase⟩
        given := rfl
        target_token := by
          intro target htarget
          cases htarget
          decide
        given_tokens := by
          intro fact hfact
          cases hfact }
    obtain ⟨asking, -, hperform, hconverse, -⟩ := ask_feeds_session hasks
    obtain ⟨fed, hfollows⟩ := hconverse "" ["no good", " x ", "y"]
    -- The first line is no token and is asked for again.
    have hanswers : typedAnswers ["no good", " x ", "y"] = ["x", "y"] := by decide +kernel
    exact ⟨base, asking, fed, hasks, hperform, hanswers ▸ hfollows.feeds, hfollows.tells⟩

end RuleConsult
