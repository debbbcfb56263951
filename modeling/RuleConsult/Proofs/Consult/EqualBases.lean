import RuleConsult.Proofs.Base.Same
import RuleConsult.Proofs.Consult.Calls
import Mathlib

/-!
# Consultations over equal bases

A consultation cannot tell equal bases apart, whatever the lines and the order of bindings in them.
The engine reads rules, and the line of a rule is copied from the base into the engine nowhere: it
keeps the numbers of the rules that fired, and values. So an engine over one base, if it is given an
equal one instead, takes the same steps, and every run over the first is a run over the second.

* `Engine.chain_withBase`: chaining goes the same way over an equal base;
* `Engine.respond_withBase`: so does every call;
* `consultations_of_same`: equal bases answer alike, and their users are told the same at any calls.
-/

namespace RuleConsult

namespace Engine

/-- The engine as it stands, over another base. -/
def withBase (engine : Engine) (base : Base) : Engine := { engine with base := base }

variable {engine : Engine} {base : Base}

@[simp]
theorem withBase_memory : (engine.withBase base).memory = engine.memory := rfl

@[simp]
theorem withBase_fired : (engine.withBase base).fired = engine.fired := rfl

@[simp]
theorem withBase_pending : (engine.withBase base).pending = engine.pending := rfl

@[simp]
theorem withBase_outcome : (engine.withBase base).outcome = engine.outcome := rfl

/-! ## What the engine looks at -/

section

variable (h : engine.base.same base = true)
include h

/-- Whether the target is reached depends on the memory only. -/
theorem reached?_withBase : (engine.withBase base).reached? = engine.reached? := by
  simp only [reached?, withBase, (Base.answersAlike_of_same h).goalCategories]

/-- The same rules have not fired, up to their lines. -/
theorem map_bare_unfired_withBase :
    (engine.withBase base).unfired.map Rule.bare = engine.unfired.map Rule.bare := by
  -- Whether a rule has fired is told by its number.
  rw [unfired, unfired, ← filter_bare (fun _ => rfl), ← filter_bare (fun _ => rfl)]
  simp only [withBase, Base.rules_of_same h]

/-- The same rule may fire. -/
theorem map_bare_eligible?_withBase :
    (engine.withBase base).eligible?.map Rule.bare = engine.eligible?.map Rule.bare := by
  rw [eligible?, eligible?, ← find?_bare (fun _ => rfl), ← find?_bare (fun _ => rfl),
    map_bare_unfired_withBase h]
  rfl

/-- The same rule is to be fired, up to its line. -/
theorem map_bare_next?_withBase :
    (engine.withBase base).next?.map Rule.bare = engine.next?.map Rule.bare := by
  rw [next?, next?, reached?_withBase h]
  split
  · rfl
  · exact map_bare_eligible?_withBase h

/-- The same rules are worth asking for. -/
theorem isWorthAsking_withBase (rule : Rule) :
    (engine.withBase base).isWorthAsking rule = engine.isWorthAsking rule := by
  have hrelevant : base.relevantRules = engine.base.relevantRules :=
    funext fun target => ((Base.answersAlike_of_same h).relevantRules target).symm
  have hscope : (engine.withBase base).scope? = engine.scope? := by
    simp only [scope?, withBase, hrelevant]
  -- Whether some rule left concludes a category does not depend on lines.
  have hconcluded : ∀ category,
      ((engine.withBase base).unfired.any fun other => other.conclusion.category == category) =
        engine.unfired.any fun other => other.conclusion.category == category := by
    intro category
    rw [← any_bare (fun _ => rfl), map_bare_unfired_withBase h, any_bare (fun _ => rfl)]
  simp only [isWorthAsking, hscope, hconcluded]
  rfl

/-- The same category is asked for next. -/
theorem nextMissing?_withBase : (engine.withBase base).nextMissing? = engine.nextMissing? := by
  rw [nextMissing?, nextMissing?, funext (isWorthAsking_withBase h)]
  -- Neither what is worth a question nor what is missing in a rule depends on its line.
  rw [← findSome?_bare (fun _ => rfl), ← filter_bare (fun _ => rfl), map_bare_unfired_withBase h,
    filter_bare (fun _ => rfl), findSome?_bare (fun _ => rfl)]
  rfl

/-- The same is asked for, in the same words and with the same choices. -/
theorem stuckOutcome_withBase : (engine.withBase base).stuckOutcome = engine.stuckOutcome := by
  have halike := Base.answersAlike_of_same h
  have hadvice : ∀ category, base.advice.contains category = engine.base.advice.contains category :=
    fun category => (BindingTable.contains_of_same (Base.bindings_of_same h .advice) category).symm
  have hprompt : ∀ category, prompt base category = prompt engine.base category := by
    intro category
    rw [prompt, prompt, halike.question, halike.label]
  rw [stuckOutcome, stuckOutcome, nextMissing?_withBase h]
  simp only [withBase, hadvice, hprompt, halike.valuesFor]

/-- The engine comes to the same verdict. -/
theorem verdict_withBase : (engine.withBase base).verdict = engine.verdict := by
  rw [verdict, verdict, reached?_withBase h, stuckOutcome_withBase h]
  rfl

/-! ## Steps -/

/-- It settles on the same outcome. -/
theorem settle_withBase : (engine.withBase base).settle = engine.settle.withBase base := by
  rw [settle, settle, verdict_withBase h]
  rfl

omit h in
/-- Rules that are the same but for their lines leave the same behind when they fire. -/
theorem fire_withBase {rule rule' : Rule} (hrule : rule'.bare = rule.bare) :
    (engine.withBase base).fire rule' = (engine.fire rule).withBase base := by
  simp only [Rule.bare, Rule.mk.injEq, and_true] at hrule
  rw [fire, fire, hrule.1, hrule.2.2]
  rfl

/-- Chaining goes the same way over an equal base. -/
theorem chain_withBase (hpending : engine.pending = none) :
    (engine.withBase base).chain = engine.chain.withBase base := by
  induction engine using chain_induction with
  | stops engine hnone =>
    have hpending' : (engine.withBase base).pending = none := by simpa using hpending
    have hnone' : (engine.withBase base).next? = none := by
      rw [← Option.map_eq_none_iff (f := Rule.bare), map_bare_next?_withBase h, hnone,
        Option.map_none]
    rw [chain_of_none hpending hnone, chain_of_none hpending' hnone', settle_withBase h]
  | fires engine rule hsome ih =>
    have hnext := map_bare_next?_withBase h
    rw [hsome, Option.map_some] at hnext
    -- The rule that the other engine fires is one of its own base, the same but for its line.
    obtain ⟨rule', hsome', hbare⟩ := Option.map_eq_some_iff.1 hnext
    rw [chain_of_some hsome, chain_of_some hsome', fire_withBase hbare]
    exact ih h hpending

/-! ## Calls -/

/-- Running, too: where a question is pending, both engines stay where they are. -/
theorem run_withBase (hstanding : engine.IsStanding) :
    (engine.withBase base).run = engine.run.withBase base := by
  cases hpending : engine.pending with
  | none =>
    have hpending' : (engine.withBase base).pending = none := by simpa using hpending
    rw [run_of_none hpending, run_of_none hpending', chain_withBase h hpending]
  | some asked =>
    -- A question is only pending together with the outcome that asks it.
    have houtcome := (hstanding.isStopped hpending).outcome
    simp only [run, withBase, hpending, houtcome]

/-- It takes, or refuses, the same answers. -/
theorem supply_withBase (category value : Datum) :
    (engine.withBase base).supply category value =
      (engine.supply category value).map fun next => next.withBase base := by
  cases hpending : engine.pending with
  | none =>
    have hpending' : (engine.withBase base).pending = none := by simpa using hpending
    rw [supply_of_none hpending, supply_of_none hpending']
    rfl
  | some asked =>
    have hpending' : (engine.withBase base).pending = some asked := by simpa using hpending
    rw [supply_of_some hpending, supply_of_some hpending']
    split
    · cases value.token? with
      | none => rfl
      | some answer =>
        have hlearned : (engine.learn asked answer).base.same base = true := h
        exact congrArg Except.ok (chain_withBase hlearned rfl)
    · rfl

/-- At every call an engine is refused over an equal base for the same reason, or goes on to the
same stop. -/
theorem respond_withBase (hstanding : engine.IsStanding) (call : Call) :
    (engine.withBase base).respond call =
      (engine.respond call).map fun next => next.withBase base := by
  cases call with
  | run => exact congrArg Except.ok (run_withBase h hstanding)
  | supply category value => exact supply_withBase h category value

/-- Every call leads to the same engine over the other base. -/
theorem call_withBase (hstanding : engine.IsStanding) (call : Call) :
    (engine.withBase base).call call = (engine.call call).withBase base := by
  rw [Engine.call, Engine.call, respond_withBase h hstanding]
  cases engine.respond call <;> rfl

/-- Every call gets the same reply. -/
theorem reply_withBase (hstanding : engine.IsStanding) (call : Call) :
    (engine.withBase base).reply call = engine.reply call := by
  rw [reply, reply, respond_withBase h hstanding]
  cases engine.respond call <;> rfl

end

/-- Firing rules does not change the base. -/
theorem base_chain (hpending : engine.pending = none) : engine.chain.base = engine.base := by
  induction engine using chain_induction with
  | stops engine hnone =>
    rw [chain_of_none hpending hnone]
    rfl
  | fires engine rule hsome ih =>
    rw [chain_of_some hsome]
    exact ih hpending

/-- No call replaces the base. -/
theorem base_call (hstanding : engine.IsStanding) (call : Call) :
    (engine.call call).base = engine.base := by
  rcases call_cases hstanding call with
    ⟨hsame, -⟩ | ⟨hpending, hchain, -⟩ | ⟨asked, answer, -, -, hchain, -⟩
  · rw [hsame]
  · rw [hchain, base_chain hpending]
  · rw [hchain, base_chain rfl]
    rfl

/-- At all calls the users of the two engines are told the same, and the engines hold the same. -/
theorem replies_withBase (h : engine.base.same base = true) (hstanding : engine.IsStanding)
    (calls : List Call) :
    (engine.withBase base).replies calls = engine.replies calls ∧
      (engine.withBase base).after calls = (engine.after calls).withBase base := by
  induction calls generalizing engine with
  | nil => exact ⟨rfl, rfl⟩
  | cons call calls ih =>
    -- The base is still the one that is equal to the other.
    have hnext : (engine.call call).base.same base = true := by
      rw [base_call hstanding]
      exact h
    obtain ⟨hreplies, hafter⟩ := ih hnext (isStanding_call hstanding call)
    rw [replies, replies, reply_withBase h hstanding, call_withBase h hstanding, hreplies]
    refine ⟨rfl, ?_⟩
    rw [after, List.foldl_cons, call_withBase h hstanding]
    exact hafter

/-- What is refused at the start does not depend on the base. -/
theorem start_withBase (a b : Base) (target : Datum) (given : List (Datum × Datum))
    (focused : Bool) : start b target given focused =
      (start a target given focused).map fun engine => engine.withBase b := by
  rw [start, start]
  cases checkTarget target with
  | error fault => rfl
  | ok target? => cases checkFacts given <;> rfl

end Engine

/-- Equal bases cannot be told apart. They answer alike. A consultation over one of them is refused
over the other for the same reason; or it is started over both, and then, whatever calls are made,
at each of them the users are told the same outcome or the same fault, and the engines hold the same
facts, have fired the same rules, and wait for an answer about the same category. -/
theorem consultations_of_same {a b : Base} (h : a.same b = true) :
    a.AnswersAlike b ∧
      ∀ (target : Datum) (given : List (Datum × Datum)) (focused : Bool),
        (∀ fault, Engine.start a target given focused = .error fault →
          Engine.start b target given focused = .error fault) ∧
        ∀ first, Engine.start a target given focused = .ok first →
          ∃ second, Engine.start b target given focused = .ok second ∧
            ∀ calls : List Call,
              second.replies calls = first.replies calls ∧
              (second.after calls).outcome = (first.after calls).outcome ∧
              (second.after calls).memory = (first.after calls).memory ∧
              (second.after calls).fired = (first.after calls).fired ∧
              (second.after calls).pending = (first.after calls).pending := by
  refine ⟨Base.answersAlike_of_same h, fun target given focused => ⟨?_, ?_⟩⟩
  · intro fault hfault
    rw [Engine.start_withBase a b, hfault]
    rfl
  · intro first hfirst
    have hsecond : Engine.start b target given focused = .ok (first.withBase b) := by
      rw [Engine.start_withBase a b, hfirst]
      rfl
    refine ⟨first.withBase b, hsecond, fun calls => ?_⟩
    have hbase : first.base.same b = true := by
      rw [Engine.base_of_start hfirst]
      exact h
    obtain ⟨hreplies, hafter⟩ :=
      Engine.replies_withBase hbase (Engine.isStanding_of_start hfirst) calls
    simp [hreplies, hafter]

/-- A rule with two conditions, written in a text, and two questions. -/
def twoQuestions : Base :=
  .ofParts [⟨1, [⟨"a", "x"⟩, ⟨"b", "y"⟩], ⟨"c", "z"⟩, some 1⟩]
    [⟨.advice, "a", "which a?", some 2⟩, ⟨.advice, "b", "which b?", some 3⟩] [] []

/-- The same rule and the same questions, the last one first, and not written in a text. -/
def twoQuestionsSwapped : Base :=
  .ofParts [⟨1, [⟨"a", "x"⟩, ⟨"b", "y"⟩], ⟨"c", "z"⟩, none⟩]
    [⟨.advice, "b", "which b?", none⟩, ⟨.advice, "a", "which a?", none⟩] [] []

/-- Over both bases the question for the first condition comes first, whatever question was declared
first, and an answer to the other is refused. -/
theorem consultations_of_same_twoQuestions :
    twoQuestions.same twoQuestionsSwapped = true ∧ ∃ first second,
      Engine.start twoQuestions (.text "c") [] true = .ok first ∧
        Engine.start twoQuestionsSwapped (.text "c") [] true = .ok second ∧
        first.replies [.run, .supply (.text "b") (.text "y")] =
          [.ok (some (.needsInput "a" "which a?" ["x"])), .error (.otherCategory (.text "b") "a")] ∧
        second.replies [.run, .supply (.text "b") (.text "y")] =
          first.replies [.run, .supply (.text "b") (.text "y")] := by
  have hsame : twoQuestions.same twoQuestionsSwapped = true := by decide +kernel
  have hstart : Engine.start twoQuestions (.text "c") [] true =
      .ok (.fresh twoQuestions (some "c") Table.empty true) := rfl
  obtain ⟨-, hconsult⟩ := consultations_of_same hsame
  obtain ⟨second, hsecond, halike⟩ := (hconsult (.text "c") [] true).2 _ hstart
  exact ⟨hsame, _, second, hstart, hsecond, by cbv, (halike _).1⟩

end RuleConsult
