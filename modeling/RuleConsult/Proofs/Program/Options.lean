import RuleConsult.Proofs.Cache.Calls
import RuleConsult.Proofs.Consult.Stops
import RuleConsult.Proofs.Program.Consultation
import RuleConsult.Proofs.RoundTrip

/-!
# Choosing an option

A question is asked together with the values that the rules mention for its category, for the user
to choose from. They are tokens, so each of them, typed as it is shown, is an answer that is
accepted: it is noted beside its question, and the consultation goes on and does not ask this again.
The words that give up the consultation are looked for first, though. An option that is one of them
cannot be chosen.

* `trim_of_isToken`: tokens have no white space around them;
* `Session.IsKept.exists_chosen`: what becomes of an option that is given as an answer;
* `Asking.after?`: a consultation on the console after some lines;
* `Program.exists_base_of_perform`: where such a consultation comes from;
* `option_chosen`: what becomes of a line with an option.
-/

namespace RuleConsult

open Text

/-! ## Tokens and white space -/

/-- A token is typed as it is. -/
theorem trim_of_isToken {token : String} (h : isToken token = true) : trim token = token := by
  have hspace : ∀ c ∈ token.toList, isSpace c = false := fun c hc => by
    by_contra hc'
    have hword := isWord_of_mem_token h c hc
    rw [isWord_of_isSpace (Bool.eq_true_of_not_eq_false hc')] at hword
    cases hword
  -- So nothing is dropped, neither in front nor at the end.
  have hstops : Stops isSpace token.toList := fun c hc => hspace c (List.mem_of_mem_head? hc)
  have hend : token.toList.rdropWhile isSpace = token.toList :=
    List.rdropWhile_eq_self_iff.2 fun hne => by simp [hspace _ (List.getLast_mem hne)]
  rw [trim, trimList_eq, dropWhile_eq_self hstops, hend, String.ofList_toList]

/-! ## Answers -/

namespace Session

variable {base : Base} {focused : Bool} {given? : Option (List (Datum × Datum))}
  {session next : Session} {category prompt option : String} {choices : List String}

/-- A session with an outcome conducts a consultation. -/
theorem IsKept.isConducting (h : session.IsKept base focused given?)
    (hasked : session.outcome = some (.needsInput category prompt choices)) :
    session.IsConducting := by
  cases h with
  | idle of_base of_focused engine outcome | cancelled of_base of_focused engine outcome =>
    cases outcome.symm.trans hasked
  | @conducting target given start calls of_base of_focused given_eq started conducts =>
    exact ⟨target, given, start, calls, by rw [of_base, of_focused, started], conducts⟩

/-- The choices of a question are tokens, as the engine asks for tokens only. -/
theorem IsKept.isToken_of_mem (h : session.IsKept base focused given?) (hbase : base.IsSound)
    (hasked : session.outcome = some (.needsInput category prompt choices))
    (hoption : option ∈ choices) : isToken option = true := by
  cases h with
  | idle of_base of_focused engine outcome | cancelled of_base of_focused engine outcome =>
    cases outcome.symm.trans hasked
  | @conducting target given start calls of_base of_focused given_eq started conducts =>
    have hsame : (start.after calls).base = base := by
      rw [(Advances.after started calls).base, Engine.base_of_start started]
    have houtcome : (start.after calls).outcome = some (.needsInput category prompt choices) := by
      rw [conducts.stopped.outcome, Option.some.inj (conducts.outcome.symm.trans hasked)]
    exact (conducts.stopped.isSoundQuestion (hsame ▸ hbase) houtcome).tokens option hoption

/-- Following an engine adds turns at the end only. -/
theorem turns_follow (session : Session) (engine : Engine) :
    ∃ asked, (session.follow engine).turns = session.turns ++ asked := by
  unfold follow
  dsimp only
  split
  · exact ⟨_, rfl⟩
  · exact ⟨[], (List.append_nil _).symm⟩
  · exact ⟨[], (List.append_nil _).symm⟩
  · exact ⟨[], (List.append_nil _).symm⟩

/-- An answer that is accepted is noted in the last turn. -/
theorem turns_answer {value : Datum} {asked : Datum} (h : session.answer asked value = .ok next) :
    ∃ later, next.turns = answerLast session.turns value.plain ++ later := by
  unfold answer at h
  split at h
  · split at h
    · cases h
    · cases h
      exact turns_follow _ _
  · cases h

/-- The option is given as the answer to the question that is pending: it is noted beside the
question, and the consultation goes on to an outcome, in which it does not ask this again. -/
structure Chosen (session : Session) (category prompt option : String) (next : Session) : Prop where
  answered : session.answer (.text category) (.text option) = .ok next
  noted : ∃ earlier later, session.turns = earlier ++ [⟨category, prompt, none⟩] ∧
    next.turns = earlier ++ ⟨category, prompt, some option⟩ :: later
  outcome : ∃ outcome, next.outcome = some outcome
  settled : next.pending? ≠ some category

/-- A question that was answered is not pending. -/
theorem IsCoherent.pending?_ne (h : session.IsCoherent base given?)
    (hnoted : ⟨category, prompt, some option⟩ ∈ session.turns) :
    session.pending? ≠ some category := by
  intro hpending
  obtain ⟨prompt', choices', houtcome⟩ := pending?_eq_some_iff.1 hpending
  obtain ⟨-, answered, hturns, -⟩ := h.question _ _ _ houtcome
  -- Its turn would be a second one of the same category.
  have hopen : ⟨category, prompt', none⟩ ∈ session.turns := by
    rw [hturns]
    exact List.mem_append_right _ (List.mem_singleton.2 rfl)
  cases List.inj_on_of_nodup_map h.distinct hnoted hopen rfl

/-- Every choice of a question is an answer to it. -/
theorem IsKept.exists_chosen (h : session.IsKept base focused given?) (hbase : base.IsSound)
    (hasked : session.outcome = some (.needsInput category prompt choices))
    (hoption : option ∈ choices) :
    isToken option = true ∧ ∃ next, session.Chosen category prompt option next := by
  have htoken : isToken option = true := h.isToken_of_mem hbase hasked hoption
  have hpending : session.pending? = some category :=
    pending?_eq_some_iff.2 ⟨prompt, choices, hasked⟩
  obtain ⟨next, hnext, hconducting⟩ := (h.isConducting hasked).answer_of_isToken hpending htoken
  obtain ⟨-, earlier, hturns, -⟩ := (h.isCoherent hbase).question _ _ _ hasked
  obtain ⟨later, hlater⟩ := turns_answer hnext
  -- The open turn of the question is the last one before the answer.
  have hnoted : next.turns = earlier ++ ⟨category, prompt, some option⟩ :: later := by
    rw [hlater, hturns, answerLast_concat, List.append_assoc]
    rfl
  have hkept : next.IsKept base focused given? := by
    have hcall := isKept_answer h (.text category) (.text option)
    rwa [call, hnext] at hcall
  have hmem : ⟨category, prompt, some option⟩ ∈ next.turns := by simp [hnoted]
  exact ⟨htoken, next, hnext, ⟨earlier, later, hturns, hnoted⟩, hconducting.exists_outcome,
    (hkept.isCoherent hbase).pending?_ne hmem⟩

end Session

/-! ## Consultations on the console -/

namespace Asking

variable {asking later : Asking} {time line : String} {lines : List String}

/-- The consultation on the console after some lines, if each of them was read and none gave it
up. -/
def after? (asking : Asking) : List String → Option Asking
  | [] => some asking
  | line :: lines =>
    match asking.question?, asking.take line with
    | some _, some (_, next) => next.after? lines
    | _, _ => none

/-- The ending with some texts written before, one after the other. -/
def sayAll (said : List String) (ending : Ending) : Ending :=
  said.foldr (fun text ending => ending.after text) ending

theorem after?_cons_eq_some (h : asking.after? (line :: lines) = some later) :
    ∃ text reply next, asking.question? = some text ∧ asking.take line = some (reply, next) ∧
      next.after? lines = some later := by
  rw [after?] at h
  split at h
  · rename_i text reply next htext htake
    exact ⟨text, reply, next, htext, htake, h⟩
  · cases h

/-- Lines leave the outcome on the console in step with the session. -/
theorem InStep.after? (h : asking.InStep) (hlater : asking.after? lines = some later) :
    later.InStep := by
  induction lines generalizing asking with
  | nil =>
    cases hlater
    exact h
  | cons line lines ih =>
    obtain ⟨text, reply, next, -, htake, hnext⟩ := after?_cons_eq_some hlater
    exact ih (h.take htake) hnext

/-- The lines behind some lines are left to the consultation that these lead to. -/
theorem converse_append (h : asking.after? lines = some later) (time : String)
    (rest : List String) :
    ∃ said, asking.converse time (lines ++ rest) = sayAll said (later.converse time rest) := by
  -- Each line leads to another consultation, which the lines behind it are left to.
  induction lines generalizing asking with
  | nil =>
    cases h
    exact ⟨[], rfl⟩
  | cons line lines ih =>
    obtain ⟨text, reply, next, htext, htake, hnext⟩ := after?_cons_eq_some h
    obtain ⟨said, hsaid⟩ := ih hnext
    refine ⟨(text ++ reply) :: said, ?_⟩
    rw [List.cons_append, converse, htext, htake]
    exact congrArg (fun ending => ending.after (text ++ reply)) hsaid

/-- A line either leaves the session as it is or is an answer that it is given. -/
theorem session_take {reply : String} {next : Asking} (h : asking.take line = some (reply, next)) :
    next.session = asking.session ∨
      ∃ request, next.session = asking.session.call request := by
  unfold take at h
  dsimp only at h
  split at h
  · cases h
  · split at h
    · split at h
      · rename_i session hanswer
        cases h
        exact Or.inr ⟨.answer _ _, by rw [Session.call, hanswer]⟩
      · cases h
        exact Or.inl rfl
    · cases h
      exact Or.inl rfl

/-- After lines there is still a session to which requests were made. -/
theorem session_after? {fresh : Session} {requests : List Request}
    (hrequests : asking.session = fresh.after requests) (h : asking.after? lines = some later) :
    ∃ requests, later.session = fresh.after requests := by
  induction lines generalizing asking requests with
  | nil =>
    cases h
    exact ⟨requests, hrequests⟩
  | cons line lines ih =>
    obtain ⟨text, reply, next, -, htake, hnext⟩ := after?_cons_eq_some h
    -- A line makes one request more, or none.
    rcases session_take htake with hsame | ⟨request, hcall⟩
    · exact ih (hsame.trans hrequests) hnext
    · have hafter : next.session = fresh.after (requests ++ [request]) := by
        rw [hcall, hrequests, Session.after_concat]
      exact ih hafter hnext

end Asking

/-! ## Choosing -/

namespace Asking

/-- A line with an option, in the consultation `later` that some lines have led to, and whatever
lines follow it. -/
structure TakesOption (asking later : Asking) (lines : List String)
    (category prompt option line : String) : Prop where
  /-- The question is put and the option taken for the answer, with no report, and the consultation
  goes on with the other lines. -/
  chosen : isExitWord option = false → ∃ next, later.session.Chosen category prompt option next ∧
    later.take line = some ("", later.withSession next) ∧
    ∀ time rest, ∃ said text, later.question? = some text ∧
      asking.converse time (lines ++ line :: rest) =
        sayAll said (((later.withSession next).converse time rest).after text)
  /-- The option cannot be told from the word that gives up the consultation. -/
  givenUp : isExitWord option = true → later.take line = none

variable {asking later : Asking} {lines choices : List String}
  {category prompt option line : String}

/-- What a line with an option does, if the option is an answer. -/
theorem takesOption (hstep : later.InStep) (hlater : asking.after? lines = some later)
    (hasked : later.session.outcome = some (.needsInput category prompt choices))
    (hline : trim line = option)
    (hchosen : ∃ next, later.session.Chosen category prompt option next) :
    asking.TakesOption later lines category prompt option line where
  chosen hexit := by
    obtain ⟨next, hnext⟩ := hchosen
    have htake : later.take line = some ("", later.withSession next) := by
      have hnow : later.outcome = some (.needsInput category prompt choices) := hstep.trans hasked
      simp only [take, hline, hexit, hnow, hnext.answered]
      rfl
    refine ⟨next, hnext, htake, fun time rest => ?_⟩
    obtain ⟨said, hsaid⟩ := converse_append hlater time (line :: rest)
    have hpending : later.session.pending? = some category :=
      Session.pending?_eq_some_iff.2 ⟨prompt, choices, hasked⟩
    obtain ⟨text, htext⟩ := exists_question? hstep hpending
    refine ⟨said, text, htext, ?_⟩
    rw [hsaid, converse, htext, htake]
    exact congrArg (fun text' => sayAll said (Ending.after _ text')) (String.append_empty)
  givenUp hexit := by
    simp only [take, hline, hexit]
    rfl

end Asking

/-! ## The command -/

/-- A base that is loaded from a text is sound. -/
theorem Program.isSound_of_loadBase {keywords : Keywords} {text : String} {base : Base}
    (h : loadBase keywords text = .ok base) : base.IsSound := by
  obtain ⟨entries, -, hconsistent, rfl⟩ := loadBase_eq_ok_iff.1 h
  exact Base.isSound_declaredBase hconsistent

section

variable [Encodings] [Toolkit]

namespace Program

variable {settings : Settings} {store : FileStore} {path : Path} {base : Base}

omit [Toolkit] in
/-- Whatever the settings, a base that is read is loaded from a text. -/
theorem isSound_of_readBase (h : readBase settings .empty store path = .ok base) :
    base.IsSound := by
  unfold readBase at h
  split at h
  · rename_i cache hcache
    -- The shared cache is new, so the base does not come from it.
    have hempty (entry : CacheEntry) : cache.entries.get? (store.absolute path) ≠ some entry := by
      unfold cacheFor at hcache
      split at hcache
      · cases hcache
      · cases hcache
        exact nofun
    have hrequest := cache.request_getOrLoad store path
    generalize cache.getOrLoad store path = result at hrequest h
    cases hrequest with
    | unreadable found | current found => exact absurd found (hempty _)
    | unfetched | crowded => cases h
    | loaded misses read meaning =>
      cases h
      obtain ⟨code, text, -, -, hload⟩ := meaning
      exact isSound_of_loadBase hload
  · split at h
    · cases h
    · rename_i text htext
      cases hload : loadBase settings.language.keywords text with
      | error fault =>
        rw [hload] at h
        cases h
      | ok loaded =>
        rw [hload] at h
        cases h
        exact isSound_of_loadBase hload

omit [Encodings] in
/-- A consultation on the console begins with a session that was started, and with its outcome. -/
theorem session_ask {arguments : Arguments VerbOption} {output : List OutputItem} {asking : Asking}
    (h : ask base arguments = (output, .asking asking)) :
    asking.InStep ∧ ∃ focused target facts,
      asking.session = (Session.new base focused).call (.start target facts) := by
  unfold ask at h
  split at h
  · cases h
  · rename_i facts hfacts
    dsimp only at h
    split at h
    · rename_i session hstart
      cases h
      refine ⟨rfl, arguments.has .focused,
        Session.textOrNull (arguments.values .target).getLast?, facts.toData, ?_⟩
      rw [Session.call, hstart]
    · cases h

/-- A consultation that is asked for begins. -/
theorem Asks.exists_asking {typed : List String} {arguments : Arguments VerbOption} {facts : Facts}
    (h : Asks settings store typed arguments base facts) :
    ∃ asking, perform settings store .ask typed = ([], .asking asking) ∧ asking.InStep ∧
      asking.session = ((Session.new base (arguments.has .focused)).start
        (Session.textOrNull (arguments.values .target).getLast?) facts.toData).1 := by
  obtain ⟨engine, hengine⟩ := h.exists_start
  have hopened : Engine.start (Session.new base (arguments.has .focused)).base
      (Session.textOrNull (arguments.values .target).getLast?) facts.toData
      (Session.new base (arguments.has .focused)).focused = .ok engine := hengine
  have hstart := Session.start_of_ok hopened
  generalize hstarted : (Session.new base (arguments.has .focused)).start
    (Session.textOrNull (arguments.values .target).getLast?) facts.toData = started at hstart
  refine ⟨⟨console, started.1, started.1.outcome, arguments.has .json⟩, ?_, rfl, rfl⟩
  rw [h.perform_eq, ask, h.given]
  dsimp only
  rw [hstarted, hstart]

/-- The base of a consultation on the console was read from a file. -/
theorem exists_base_of_perform {typed : List String} {output : List OutputItem} {asking : Asking}
    (h : perform settings store .ask typed = (output, .asking asking)) :
    asking.InStep ∧ ∃ path base focused target facts,
      readBase settings .empty store path = .ok base ∧
      asking.session = (Session.new base focused).call (.start target facts) := by
  unfold perform at h
  split at h
  · cases h
  · rename_i arguments harguments
    split at h
    · cases h
    · split at h
      · cases h
      · rename_i file hfile
        dsimp only [withBase] at h
        split at h
        · rename_i base hbase
          obtain ⟨hstep, focused, target, facts, hsession⟩ := session_ask h
          exact ⟨hstep, _, base, focused, target, facts, hbase, hsession⟩
        · split at h <;> cases h

end Program

/-- Take a consultation on the console over the base in any file, after any lines. If a question is
asked then, each of its options, typed as it is shown or with white space around it, is the answer:
it is noted beside the question, and the consultation goes on to its next outcome, which is not the
same question. The only exception is an option that is a word which gives up the consultation. -/
theorem option_chosen {settings : Settings} {store : FileStore} {typed : List String}
    {output : List OutputItem} {asking later : Asking} {lines choices : List String}
    {category prompt option : String}
    (h : Program.perform settings store .ask typed = (output, .asking asking))
    (hlater : asking.after? lines = some later)
    (hasked : later.session.outcome = some (.needsInput category prompt choices))
    (hoption : option ∈ choices) :
    trim option = option ∧ ∀ line, trim line = option →
      asking.TakesOption later lines category prompt option line := by
  obtain ⟨hstep, path, base, focused, target, facts, hbase, hsession⟩ :=
    Program.exists_base_of_perform h
  have hsound := Program.isSound_of_readBase hbase
  have hbegun : asking.session = (Session.new base focused).after [.start target facts] := hsession
  obtain ⟨requests, hrequests⟩ := Asking.session_after? hbegun hlater
  have hkept : later.session.IsKept base focused (lastFacts? requests) :=
    hrequests ▸ Session.isKept_after base focused requests
  obtain ⟨htoken, hchosen⟩ := hkept.exists_chosen hsound hasked hoption
  exact ⟨trim_of_isToken htoken, fun line hline =>
    Asking.takesOption (hstep.after? hlater) hlater hasked hline hchosen⟩

end

/-- What is read in a text with a question and two options, one of which is an exit word. -/
def exitEntries : List Entry :=
  [⟨0, 1, 1, .rule "1" [⟨"a", "exit"⟩] (some ⟨"b", "y"⟩)⟩,
    ⟨21, 2, 1, .rule "2" [⟨"a", "no"⟩] (some ⟨"b", "z"⟩)⟩,
    ⟨40, 3, 1, .binding .advice "a" "Q?"⟩]

/-- A directory with this text. -/
def exitStore : FileStore :=
  .oneFile "1 if a-exit then b-y\n2 if a-no then b-z\n7 a Q?\n"

namespace Program

/-- The settings in whose words the text is. -/
def exitSettings : Settings :=
  { language := ⟨.text "utf-8", .text ".kb", numberedKeywords⟩ }

section

open Usual

theorem readBase_exitStore :
    readBase exitSettings .empty exitStore (Path.ofText "a") = .ok (declaredBase exitEntries) := by
  have hpath : Path.ofText "a" = ⟨"", ["a"]⟩ := by cbv
  have htext : fetchText (.text "utf-8") exitStore ⟨"", ["a"]⟩ =
      .ok "1 if a-exit then b-y\n2 if a-no then b-z\n7 a Q?\n" :=
    eq_ok_of_toOption (by decide +kernel)
  have hload : loadBase numberedKeywords "1 if a-exit then b-y\n2 if a-no then b-z\n7 a Q?\n" =
      .ok (declaredBase exitEntries) :=
    loadBase_of_toOption (by decide +kernel) (by decide +kernel)
  have hread := Cache.base_getOrLoad_new 50 numberedKeywords (.text "utf-8") exitStore
    ⟨"", ["a"]⟩
  rw [fetchBase_of_fetchText htext, hload] at hread
  rw [hpath]
  exact hread

set_option maxRecDepth 4000 in
/-- The question is asked, with both options. -/
theorem exists_asking_exitStore :
    ∃ asking, perform exitSettings exitStore .ask ["a"] = ([], .asking asking) ∧ asking.InStep ∧
      asking.session.outcome = some (.needsInput "a" "Q?" ["exit", "no"]) := by
  have hasks : Asks exitSettings exitStore ["a"] ⟨[], ["a"]⟩ (declaredBase exitEntries)
      Table.empty :=
    { split := by cbv
      no_help := rfl
      loaded := ⟨"a", by cbv, readBase_exitStore⟩
      given := rfl
      target_token := nofun
      given_tokens := nofun }
  obtain ⟨asking, hperform, hstep, hsession⟩ := hasks.exists_asking
  refine ⟨asking, hperform, hstep, ?_⟩
  rw [hsession]
  cbv

end

end Program

open Usual in
/-- The option that is no exit word is chosen. -/
theorem option_chosen_exitStore : ∃ asking,
    Program.perform Program.exitSettings exitStore .ask ["a"] = ([], .asking asking) ∧
      asking.session.outcome = some (.needsInput "a" "Q?" ["exit", "no"]) ∧
      isExitWord "no" = false ∧ asking.TakesOption asking [] "a" "Q?" "no" "no" := by
  obtain ⟨asking, hperform, -, hasked⟩ := Program.exists_asking_exitStore
  obtain ⟨htyped, htakes⟩ :=
    option_chosen hperform (rfl : asking.after? [] = some asking) hasked
      (by decide : "no" ∈ ["exit", "no"])
  exact ⟨asking, hperform, hasked, by decide +kernel, htakes "no" htyped⟩

open Usual in
/-- The other option gives up the consultation, in which nothing is answered. -/
theorem option_gives_up : ∃ asking,
    Program.perform Program.exitSettings exitStore .ask ["a"] = ([], .asking asking) ∧
      asking.session.outcome = some (.needsInput "a" "Q?" ["exit", "no"]) ∧
      asking.take "exit" = none ∧
      (asking.converse "" ["exit"]).exitCode = 1 ∧
      (asking.converse "" ["exit"]).session = asking.session.cancel := by
  obtain ⟨asking, hperform, hstep, hasked⟩ := Program.exists_asking_exitStore
  have htake : asking.take "exit" = none := by
    rw [Asking.take, if_pos (by decide +kernel)]
  obtain ⟨text, htext⟩ := Asking.exists_question? hstep
    (Session.pending?_eq_some_iff.2 ⟨"Q?", ["exit", "no"], hasked⟩)
  refine ⟨asking, hperform, hasked, htake, ?_, ?_⟩
  all_goals
    rw [Asking.converse, htext, htake]
    rfl

end RuleConsult
