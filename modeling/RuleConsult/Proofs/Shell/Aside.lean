import RuleConsult.Shell

/-!
# Commands that look at no file

Most commands have to do with the base that is loaded, the consultation and the facts. Whatever else
there is in a shell, its cache and the file that is named, has no influence on them and is left
alone by them. So two shells that agree in the former cannot be told apart by such commands.

* `Shell.Agrees`: shells with the same keywords, base, consultation and facts;
* `Shell.run_of_agrees`: a command that looks at no file does the same to shells that agree;
* `Shell.run_eq_onto`: it changes nothing but the consultation and the facts.
-/

namespace RuleConsult

open Text

/-- Whether a command has to do with the named file. -/
def CommandName.usesFile : CommandName → Bool
  | .load | .reload | .info | .validate => true
  | _ => false

/-- Whether a line has to do with the named file. -/
def CommandLine.usesFile : CommandLine → Bool
  | .command name _ => name.usesFile
  | .blank | .unknown _ => false

/-- The reply with its consultation and facts put into another shell. -/
def Reply.onto (reply : Reply) (shell : Shell) : Reply :=
  { reply with shell := { shell with session := reply.shell.session, facts := reply.shell.facts } }

namespace Shell

/-- Shells with the same keywords, base, consultation and facts. -/
structure Agrees (a b : Shell) : Prop where
  keywords : a.keywords = b.keywords
  base : a.loaded.map Edition.base = b.loaded.map Edition.base
  session : a.session = b.session
  facts : a.facts = b.facts

namespace Agrees

variable {a b : Shell} (h : Agrees a b)

include h

/-! ## Base and consultation -/

/-- A command that changes nothing. -/
theorem unchanged (output : String) (result : Except ShellFault Bool) :
    (⟨b, output, result⟩ : Reply) = Reply.onto ⟨a, output, result⟩ b := by
  cases b
  simp only [Reply.onto, h.session, h.facts]

/-- Either nothing is loaded in both shells, or editions of one base. -/
theorem loaded_cases : a.loaded = none ∧ b.loaded = none ∨
    ∃ edition other, a.loaded = some edition ∧ b.loaded = some other ∧
      edition.base = other.base := by
  have hbase := h.base
  cases ha : a.loaded with
  | none =>
    rw [ha, Option.map_none, eq_comm, Option.map_eq_none_iff] at hbase
    exact Or.inl ⟨rfl, hbase⟩
  | some edition =>
    rw [ha, Option.map_some, eq_comm, Option.map_eq_some_iff] at hbase
    obtain ⟨other, hb, heq⟩ := hbase
    exact Or.inr ⟨edition, other, rfl, hb, heq.symm⟩

/-- A command on the base is told apart by nothing but what it does with the base. -/
theorem withBase {next next' : Base → Reply} (hnext : ∀ base, next' base = (next base).onto b) :
    b.withBase next' = (a.withBase next).onto b := by
  unfold Shell.withBase
  rcases h.loaded_cases with ⟨ha, hb⟩ | ⟨edition, other, ha, hb, heq⟩
  · rw [ha, hb]
    exact h.unchanged _ _
  · simp only [ha, hb, heq, hnext]

/-- So is one on the consultation. -/
theorem withSession {next next' : Session → Reply}
    (hnext : ∀ session, next' session = (next session).onto b) :
    b.withSession next' = (a.withSession next).onto b := by
  unfold Shell.withSession
  rw [← h.session]
  cases a.session with
  | none => exact h.unchanged _ _
  | some session => exact hnext session

/-! ## Commands -/

/-- Setting a fact. -/
theorem setFact (argument : String) : b.setFact argument = (a.setFact argument).onto b := by
  unfold Shell.setFact
  rw [← h.facts]
  split
  · cases b
    simp only [Reply.onto, Shell.say, h.session]
  · exact h.unchanged _ _

/-- Showing the facts. -/
theorem showFacts : b.showFacts = a.showFacts.onto b := by
  unfold Shell.showFacts
  rw [← h.session, ← h.facts]
  dsimp only
  split <;> split <;> exact h.unchanged _ _

/-- Starting a consultation. -/
theorem startSession (argument : String) :
    b.startSession argument = (a.startSession argument).onto b := by
  refine h.withBase fun base => ?_
  rw [← h.facts]
  dsimp only
  split <;> rfl

/-- Answering a question. -/
theorem answer (argument : String) : b.answer argument = (a.answer argument).onto b := by
  unfold Shell.answer
  rw [← h.session, ← h.base]
  -- Whether a question is pending, whether there is an answer, and whether it is taken.
  split
  · split
    · exact h.unchanged _ _
    · split
      · cases b
        simp only [Reply.onto, Shell.say, h.facts]
      · exact h.unchanged _ _
  · exact h.unchanged _ _

end Agrees

variable [Encodings]

/-- A command that looks at no file does to a shell what it does to one that agrees with it. -/
theorem run_of_agrees {a b : Shell} (h : Agrees a b) (store : FileStore) (argument : String)
    {name : CommandName} (hname : name.usesFile = false) :
    b.run store argument name = (a.run store argument name).onto b := by
  cases name with
  | load | reload | info | validate => exact nomatch hname
  | rules | questions =>
    unfold run
    rw [← h.keywords]
    exact h.withBase fun _ => h.unchanged _ _
  | dump =>
    unfold run
    rw [← h.keywords]
    exact h.withBase fun _ => h.unchanged _ _
  | explain => exact h.withSession fun _ => h.unchanged _ _
  | cancel => exact h.withSession fun _ => rfl
  | fact => exact h.setFact argument
  | facts => exact h.showFacts
  | start => exact h.startSession argument
  | answer => exact h.answer argument
  | help => exact h.unchanged _ _
  | exit | quit | endOfInput => exact h.unchanged _ _

/-- A command that looks at no file changes nothing but the consultation and the facts. -/
theorem run_eq_onto (shell : Shell) (store : FileStore) (argument : String) {name : CommandName}
    (hname : name.usesFile = false) :
    shell.run store argument name = (shell.run store argument name).onto shell :=
  run_of_agrees ⟨rfl, rfl, rfl, rfl⟩ store argument hname

end Shell

end RuleConsult
