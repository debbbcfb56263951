import RuleConsult.Proofs.Consult.Session
import RuleConsult.Proofs.Shell.Aside

/-!
# What a line does to a shell

Whatever is typed, a line does one of three things to a shell. It loads a base, with which
consultation and facts are gone; or it changes the cache and the named file at most; or it sets
facts and makes a request to the consultation. What holds of a shell at all times is seen by going
through these three.

* `Shell.Consults`: the consultation after a line of the last kind;
* `Shell.Step`: the three kinds of lines;
* `Shell.step_execute`: every line is of one of them.
-/

namespace RuleConsult

open Text

namespace Shell

/-- What may become of the consultation where nothing is loaded. -/
inductive Consults (shell : Shell) : Option Session → Prop
  | kept : Consults shell shell.session
  | started {edition : Edition} (loaded : shell.loaded = some edition) (target : Datum)
      (facts : List (Datum × Datum)) :
      Consults shell (some ((Session.new edition.base false).call (.start target facts)))
  | requested {session : Session} (going : shell.session = some session) (request : Request) :
      Consults shell (some (session.call request))

/-- What may become of a shell at a line. -/
inductive Step (shell : Shell) : Shell → Prop
  | loaded (cache : Cache) (path : Option Path) (edition : Edition) :
      Step shell
        { shell with
          cache, path
          loaded := some edition
          session := none
          facts := Table.empty }
  | named (cache : Cache) (path : Option Path) : Step shell { shell with cache, path }
  | consulted {session : Option Session} (consults : shell.Consults session) (facts : Facts) :
      Step shell { shell with session, facts }

variable {shell : Shell} {store : FileStore} {argument : String}

/-- A line may leave the shell as it is. -/
theorem Step.unchanged (shell : Shell) : shell.Step shell :=
  .named shell.cache shell.path

/-- No line changes the keywords. -/
theorem Step.keywords_eq {next : Shell} (h : shell.Step next) : next.keywords = shell.keywords := by
  cases h <;> rfl

/-- Where the cache of a shell comes from never changes. -/
theorem Step.ownCache_eq {next : Shell} (h : shell.Step next) : next.ownCache = shell.ownCache := by
  cases h <;> rfl

theorem Consults.of_eq {session : Option Session} (h : session = shell.session) :
    shell.Consults session :=
  h ▸ .kept

/-! ## Showing -/

/-- What only shows the base changes nothing. -/
theorem shell_withBase {next : Base → Reply} (h : ∀ base, (next base).shell = shell) :
    (shell.withBase next).shell = shell := by
  unfold withBase
  split
  · exact h _
  · rfl

/-- What only shows the consultation changes nothing. -/
theorem shell_withSession {next : Session → Reply} (h : ∀ session, (next session).shell = shell) :
    (shell.withSession next).shell = shell := by
  unfold withSession
  split
  · exact h _
  · rfl

theorem shell_info (shell : Shell) : shell.info.shell = shell :=
  shell_withBase fun _ => rfl

/-! ## Consultations -/

/-- Facts are set for the next consultation, not for the one that is going on. -/
theorem session_setFact (shell : Shell) (argument : String) :
    (shell.setFact argument).shell.session = shell.session := by
  unfold setFact
  split <;> rfl

theorem shell_showFacts (shell : Shell) : shell.showFacts.shell = shell := by
  unfold showFacts
  dsimp only
  split <;> split <;> rfl

/-- A start makes a new consultation, whether it is accepted or refused. -/
theorem session_startSession {edition : Edition} (h : shell.loaded = some edition)
    (argument : String) : (shell.startSession argument).shell.session =
      some ((Session.new edition.base false).call
        (.start (if argument.isEmpty then .null else .text argument) shell.facts.toData)) := by
  unfold startSession withBase
  rw [h, Session.call]
  dsimp only
  generalize (Session.new edition.base false).start _ _ = started
  obtain ⟨session, _ | fault⟩ := started <;> rfl

/-- A start makes a new consultation if a base is loaded. -/
theorem consults_startSession (shell : Shell) (argument : String) :
    shell.Consults (shell.startSession argument).shell.session := by
  cases hloaded : shell.loaded with
  | none =>
    unfold startSession withBase
    rw [hloaded]
    exact .kept
  | some edition =>
    rw [session_startSession hloaded]
    exact .started hloaded _ _

/-- An answer is a request to the consultation; one that is refused leaves it as it is. -/
theorem consults_answer (shell : Shell) (argument : String) :
    shell.Consults (shell.answer argument).shell.session := by
  unfold answer
  split
  · rename_i session category prompt choices hsession hasked
    split
    · exact .kept
    · have hanswered := Consults.requested hsession (.answer (.text category) (.text argument))
      rw [Session.call] at hanswered
      cases hanswer : session.answer (.text category) (.text argument) with
      | ok next =>
        rw [hanswer] at hanswered
        exact hanswered
      | error fault => exact .kept
  · exact .kept

/-- Cancelling is a request to the consultation, if there is one. -/
theorem consults_cancel (shell : Shell) : shell.Consults (shell.withSession fun session =>
    { shell with session := some session.cancel, facts := Table.empty }.say
      ["   Consulta cancelada"]).shell.session := by
  unfold withSession
  split
  · rename_i session hsession
    exact .requested hsession .cancel
  · exact .kept

variable [Encodings]

/-! ## Loading -/

/-- Whatever the fault is that a load fails with, it is only the file that is named then. -/
theorem shell_load_cases (shell : Shell) (store : FileStore) (path : Path) :
    (∃ cache edition, (shell.load store path).shell =
      { shell with
        cache
        path := some path
        loaded := some edition
        session := none
        facts := Table.empty }) ∨
      ∃ cache, (shell.load store path).shell = { shell with cache, path := some path } := by
  unfold load
  generalize shell.cache.getOrLoad store path = found
  obtain ⟨cache, fault | edition⟩ := found
  · right
    refine ⟨cache, ?_⟩
    -- Some faults are reported and some end the shell. The shell is the same in either case.
    rcases fault with (_ | fault | fault) | _
    · rfl
    · cases fault <;> rfl
    · cases fault <;> rfl
    · rfl
  · exact Or.inl ⟨cache, edition, rfl⟩

/-- A load, in whatever cache, loads a base or names a file. -/
theorem step_load (shell : Shell) (store : FileStore) (cache : Cache) (path : Path) :
    shell.Step ({ shell with cache }.load store path).shell := by
  rcases shell_load_cases { shell with cache } store path with ⟨later, edition, hload⟩ |
    ⟨later, hload⟩
  · rw [hload]
    exact .loaded later (some path) edition
  · rw [hload]
    exact .named later (some path)

/-- To begin with a file is to load it in a new shell. -/
theorem step_start (given : Option Cache) (keywords : Keywords) (store : FileStore)
    (file : Option String) :
    (new given keywords).Step (start given keywords store file).shell := by
  rw [start]
  split
  · exact step_load (new given keywords) store _ _
  · exact .unchanged _

/-- Loading once more is loading with the entry of the file dropped. -/
theorem step_reload (shell : Shell) (store : FileStore) :
    shell.Step (shell.reload store).shell := by
  unfold reload
  split
  · exact .unchanged shell
  · exact step_load shell store _ _

/-- Validating changes nothing. -/
theorem shell_validate (shell : Shell) (store : FileStore) :
    (shell.validate store).shell = shell := by
  unfold validate
  split
  · rfl
  · split <;> rfl

/-! ## Lines -/

theorem run_load (shell : Shell) (store : FileStore) (argument : String) :
    shell.run store argument .load =
      if argument.isEmpty then shell.say ["Uso: load <caminho_do_arquivo.kb>"]
      else shell.load store (Path.ofText argument) := rfl

/-- What becomes of the consultation at a command that uses no file. -/
theorem consults_run (shell : Shell) (store : FileStore) (argument : String) {name : CommandName}
    (h : name.usesFile = false) :
    shell.Consults (shell.run store argument name).shell.session := by
  cases name with
  | load | reload | info | validate => exact nomatch h
  | start => exact consults_startSession shell argument
  | answer => exact consults_answer shell argument
  | cancel => exact consults_cancel shell
  | fact => exact .of_eq (session_setFact shell argument)
  | rules | questions | dump => exact .of_eq (congrArg session (shell_withBase fun _ => rfl))
  | explain => exact .of_eq (congrArg session (shell_withSession fun _ => rfl))
  | facts => exact .of_eq (congrArg session shell.shell_showFacts)
  | help | exit | quit | endOfInput => exact .kept

/-- Every command is of one of the three kinds. -/
theorem step_run (shell : Shell) (store : FileStore) (argument : String) (name : CommandName) :
    shell.Step (shell.run store argument name).shell := by
  -- A command that uses no file changes nothing but consultation and facts.
  by_cases hname : name.usesFile = false
  · rw [run_eq_onto shell store argument hname]
    exact .consulted (consults_run shell store argument hname) _
  · cases name with
    | load =>
      rw [run_load]
      split
      · exact .unchanged shell
      · exact step_load shell store shell.cache _
    | reload => exact step_reload shell store
    | info => exact shell.shell_info.symm ▸ .unchanged shell
    | validate => exact (shell.shell_validate store).symm ▸ .unchanged shell
    | _ => exact absurd rfl hname

/-- Every line is of one of the three kinds. -/
theorem step_execute (shell : Shell) (store : FileStore) (line : String) :
    shell.Step (shell.execute store line).shell := by
  unfold execute
  cases CommandLine.read line with
  | blank | unknown typed => exact .unchanged shell
  | command name argument => exact step_run shell store argument name

end Shell

end RuleConsult
