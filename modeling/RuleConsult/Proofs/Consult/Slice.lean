import RuleConsult.Proofs.Base.Slice
import RuleConsult.Proofs.Consult.Calls
import Mathlib

/-!
# Focused mode is slicing

A focused engine with a target behaves over a base just as over the slice of the base for that
target. In the base all rules still fire, and those that are not in the slice write to the memory,
but never about a category that is reached from the target; and whatever the engine looks at to
decide what to do next is about such categories.

* `SliceOf`: the two engines agree on the categories that are reached from the target;
* `SliceOf.next?_eq`, `SliceOf.fire`, `SliceOf.fire_irrelevant`: a rule of the slice fires in both
  engines, and every other rule leaves the two in agreement;
* `SliceOf.chain`: chaining does the same, though it takes more rules over the base;
* `slice_replies`: after any calls, both users have been told corresponding things.
-/

namespace RuleConsult

/-! ## Corresponding outcomes -/

/-- The same outcome, with fewer numbers and possibly fewer choices. -/
inductive Outcome.Restricts (ids : List Int) : Outcome → Outcome → Prop
  | resolved (pair : Pair) (fired : List Int) :
      Restricts ids (.resolved pair fired) (.resolved pair (fired.filter ids.contains))
  | needsInput (category prompt : String) {choices fewer : List String} (h : fewer ⊆ choices) :
      Restricts ids (.needsInput category prompt choices) (.needsInput category prompt fewer)
  | exhausted (unanswered : Option String) (fired : List Int) :
      Restricts ids (.exhausted unanswered fired)
        (.exhausted unanswered (fired.filter ids.contains))

theorem Outcome.Restricts.asked? {ids : List Int} {a b : Outcome} (h : a.Restricts ids b) :
    b.asked? = a.asked? := by
  cases h <;> rfl

/-- The same refusal, or corresponding outcomes. -/
inductive RepliesRestrict (ids : List Int) :
    Except AnswerFault (Option Outcome) → Except AnswerFault (Option Outcome) → Prop
  | refused (fault : AnswerFault) : RepliesRestrict ids (.error fault) (.error fault)
  | told {a b : Outcome} (h : a.Restricts ids b) :
      RepliesRestrict ids (.ok (some a)) (.ok (some b))

/-! ## Rules and agreeing memories -/

namespace Rule

variable {rule : Rule} {facts other : Facts}

/-- Memories that agree on the conditions of a rule make no difference to it. -/
theorem isSatisfiedBy_congr
    (h : ∀ category ∈ rule.conditionCategories, other.get? category = facts.get? category) :
    rule.isSatisfiedBy other = rule.isSatisfiedBy facts := by
  rw [Bool.eq_iff_iff, isSatisfiedBy, isSatisfiedBy, List.all_eq_true, List.all_eq_true]
  refine forall₂_congr fun pair hpair => ?_
  rw [h _ (List.mem_map_of_mem hpair)]

theorem missingIn_congr
    (h : ∀ category ∈ rule.conditionCategories, other.get? category = facts.get? category) :
    rule.missingIn other = rule.missingIn facts := by
  refine List.filter_congr fun category hcategory => ?_
  rw [Table.contains_eq_isSome, Table.contains_eq_isSome, h category hcategory]

theorem contradictedBy_congr
    (h : ∀ category ∈ rule.conditionCategories, other.get? category = facts.get? category) :
    rule.contradictedBy other = rule.contradictedBy facts := by
  rw [contradictedBy, contradictedBy]
  refine congrArg (List.map Pair.category) (List.filter_congr fun pair hpair => ?_)
  rw [h _ (List.mem_map_of_mem hpair)]

theorem contradictedBy_subset (rule : Rule) (facts : Facts) :
    rule.contradictedBy facts ⊆ rule.conditionCategories := by
  intro category hcategory
  obtain ⟨pair, hpair, rfl⟩ := List.mem_map.1 hcategory
  exact List.mem_map_of_mem (List.mem_filter.1 hpair).1

end Rule

/-! ## The simulation -/

/-- A focused engine over the slice of a base that is where the engine over the base is, as far as
the target is concerned. -/
structure SliceOf (base : Base) (target : String) (engine sliced : Engine) : Prop where
  sound : base.IsSound
  bases : engine.base = base ∧ sliced.base = base.slice target
  targets : engine.target = some target ∧ sliced.target = some target
  focused : engine.focused = true ∧ sliced.focused = true
  memory : ∀ category ∈ base.index.reach target,
    sliced.memory.get? category = engine.memory.get? category
  fired : sliced.fired = engine.fired.filter (base.relevantRules target).contains
  pending : sliced.pending = engine.pending

namespace SliceOf

variable {base : Base} {target : String} {engine sliced : Engine}
  (h : SliceOf base target engine sliced)

include h

/-- Both engines have reached the target or neither has. -/
theorem reached?_eq : sliced.reached? = engine.reached? := by
  have hmemory := h.memory target (Index.mem_reach_self _ _)
  simp only [Engine.reached?, h.targets, List.findSome?_cons, List.findSome?_nil, hmemory]

/-- The rules of the slice that have not fired are the relevant ones that have not. -/
theorem unfired_eq : sliced.unfired =
    engine.unfired.filter fun rule => (base.relevantRules target).contains rule.id := by
  rw [Engine.unfired, Engine.unfired, h.bases.1, h.bases.2, Base.rules_slice, List.filter_filter,
    List.filter_filter]
  refine List.filter_congr fun rule _ => ?_
  cases hrelevant : (base.relevantRules target).contains rule.id with
  | false => simp
  | true =>
    simp only [h.fired, List.contains_eq_mem, List.mem_filter, Bool.and_true, Bool.true_and]
    rw [List.contains_iff_mem] at hrelevant
    simp [hrelevant]

theorem mem_rules {rule : Rule} (hrule : rule ∈ engine.unfired) : rule ∈ base.rules := by
  rw [← h.bases.1]
  exact (Engine.mem_unfired.1 hrule).1

/-- The memories agree on the conditions of relevant rules. -/
theorem agrees {rule : Rule} (hrule : rule ∈ engine.unfired)
    (hrelevant : (base.relevantRules target).contains rule.id = true) :
    ∀ category ∈ rule.conditionCategories,
      sliced.memory.get? category = engine.memory.get? category := by
  intro category hcategory
  have hmem := h.mem_rules hrule
  rw [List.contains_iff_mem, Base.mem_relevantRules_iff h.sound hmem] at hrelevant
  exact h.memory category (Base.condition_mem_reach hmem hrelevant hcategory)

/-- The first rule that can fire in the slice is the first relevant one that can. -/
theorem eligible?_eq : sliced.eligible? = engine.unfired.find? fun rule =>
    rule.isSatisfiedBy engine.memory && (base.relevantRules target).contains rule.id := by
  rw [Engine.eligible?, h.unfired_eq, ← List.head?_filter, ← List.head?_filter, List.filter_filter]
  refine congrArg List.head? (List.filter_congr fun rule hrule => ?_)
  cases hrelevant : (base.relevantRules target).contains rule.id with
  | false => simp
  | true => rw [Rule.isSatisfiedBy_congr (h.agrees hrule hrelevant)]

/-- Where the base has nothing to fire, or a relevant rule, the slice has the same. -/
theorem next?_eq (hnext : ∀ rule, engine.next? = some rule →
    (base.relevantRules target).contains rule.id = true) :
    sliced.next? = engine.next? := by
  unfold Engine.next? at hnext ⊢
  rw [h.reached?_eq]
  cases hreached : engine.reached? with
  | some pair => rfl
  | none =>
    simp only [hreached] at hnext
    rw [h.eligible?_eq]
    cases heligible : engine.eligible? with
    | none =>
      rw [List.find?_eq_none]
      intro rule hrule hboth
      rw [Bool.and_eq_true] at hboth
      exact List.find?_eq_none.1 heligible rule hrule hboth.1
    | some rule =>
      obtain ⟨hsatisfied, before, later, hsplit, hbefore⟩ :=
        List.find?_eq_some_iff_append.1 heligible
      rw [List.find?_eq_some_iff_append, Bool.and_eq_true]
      refine ⟨⟨hsatisfied, hnext rule heligible⟩, before, later, hsplit, fun other hother => ?_⟩
      -- Rules before the first that can fire cannot fire, relevant or not.
      have hunsatisfied := hbefore other hother
      rw [Bool.not_eq_true'] at hunsatisfied ⊢
      rw [hunsatisfied, Bool.false_and]

/-- A relevant rule fires in both engines. -/
theorem fire {rule : Rule}
    (hrelevant : (base.relevantRules target).contains rule.id = true) :
    SliceOf base target (engine.fire rule) (sliced.fire rule) where
  sound := h.sound
  bases := h.bases
  targets := h.targets
  focused := h.focused
  memory category hcategory := by
    rw [Engine.fire, Engine.fire, Table.get?_insert, Table.get?_insert, h.memory category hcategory]
  fired := by
    rw [Engine.fire, Engine.fire, h.fired, List.filter_append, List.filter_singleton]
    simp only [hrelevant, cond_true]
  pending := h.pending

/-- A rule that is not relevant fires in the base alone, and leaves the two in agreement. -/
theorem fire_irrelevant {rule : Rule} (hrule : rule ∈ base.rules)
    (hirrelevant : (base.relevantRules target).contains rule.id = false) :
    SliceOf base target (engine.fire rule) sliced where
  sound := h.sound
  bases := h.bases
  targets := h.targets
  focused := h.focused
  memory category hcategory := by
    have hne : category ≠ rule.conclusion.category := by
      rintro rfl
      have := Base.mem_relevantRules_of_mem_reach hrule hcategory
      rw [← List.contains_iff_mem, hirrelevant] at this
      cases this
    rw [Engine.fire, Table.get?_insert, if_neg hne]
    exact h.memory category hcategory
  fired := by
    rw [Engine.fire, List.filter_append, List.filter_singleton, h.fired]
    simp only [hirrelevant, cond_false, List.append_nil]
  pending := h.pending

/-- The rules that are worth a question are the same. -/
theorem worthAsking_eq : sliced.unfired.filter sliced.isWorthAsking =
    engine.unfired.filter engine.isWorthAsking := by
  have hscope : engine.scope? = some (base.relevantRules target) := by
    rw [Engine.scope?, if_pos h.focused.1, h.targets.1, h.bases.1]
    rfl
  have hscope' : sliced.scope? = some (sliced.base.relevantRules target) := by
    rw [Engine.scope?, if_pos h.focused.2, h.targets.2]
    rfl
  rw [h.unfired_eq, List.filter_filter]
  refine List.filter_congr fun rule hrule => ?_
  simp only [Engine.isWorthAsking, h.focused, hscope, hscope', Option.all_some, Bool.not_true,
    Bool.false_or]
  cases hrelevant : (base.relevantRules target).contains rule.id with
  | false => simp
  | true =>
    have hmem := h.mem_rules hrule
    have hreached : rule.conclusion.category ∈ base.index.reach target :=
      (Base.mem_relevantRules_iff h.sound hmem).1 (List.contains_iff_mem.1 hrelevant)
    have hkept : (sliced.base.relevantRules target).contains rule.id = true := by
      rw [h.bases.2, List.contains_iff_mem]
      exact Base.mem_relevantRules_slice h.sound ((Base.mem_rules_slice h.sound).2 ⟨hmem, hreached⟩)
    rw [hkept, Bool.and_true, Bool.true_and, Bool.true_and,
      Rule.contradictedBy_congr (h.agrees hrule hrelevant), Bool.eq_iff_iff, List.all_eq_true,
      List.all_eq_true]
    -- Whatever rules conclude a condition of a relevant rule are relevant.
    refine forall₂_congr fun category hcategory => ?_
    have hcondition := Base.condition_mem_reach hmem hreached
      (rule.contradictedBy_subset _ hcategory)
    rw [h.unfired_eq, List.any_eq_true, List.any_eq_true]
    constructor
    · rintro ⟨other, hother, heq⟩
      exact ⟨other, (List.mem_filter.1 hother).1, heq⟩
    · rintro ⟨other, hother, heq⟩
      refine ⟨other, List.mem_filter.2 ⟨hother, ?_⟩, heq⟩
      rw [List.contains_iff_mem]
      refine Base.mem_relevantRules_of_mem_reach (h.mem_rules hother) ?_
      rw [eq_of_beq heq]
      exact hcondition

/-- The two engines ask for the same category. -/
theorem nextMissing?_eq : sliced.nextMissing? = engine.nextMissing? := by
  rw [Engine.nextMissing?, Engine.nextMissing?, ← List.head?_filterMap, ← List.head?_filterMap,
    h.worthAsking_eq]
  refine congrArg List.head? (List.filterMap_congr fun rule hrule => ?_)
  obtain ⟨hunfired, hworth⟩ := List.mem_filter.1 hrule
  have hrelevant : (base.relevantRules target).contains rule.id = true := by
    simp only [Engine.isWorthAsking, Engine.scope?, h.bases, h.focused, h.targets, if_true,
      Option.map_some, Option.all_some, Bool.not_true, Bool.false_or, Bool.and_eq_true] at hworth
    exact hworth.1
  rw [Rule.missingIn_congr (h.agrees hunfired hrelevant)]

/-! ### Stopping -/

/-- Where both engines stop, they stop with corresponding outcomes. -/
theorem verdict :
    engine.verdict.Restricts (base.relevantRules target) sliced.verdict := by
  rw [Engine.verdict, Engine.verdict, h.reached?_eq]
  cases engine.reached? with
  | some pair =>
    rw [h.fired]
    exact .resolved pair engine.fired
  | none =>
    simp only [Engine.stuckOutcome, h.nextMissing?_eq]
    cases engine.nextMissing? with
    | none =>
      rw [h.fired]
      exact .exhausted none engine.fired
    | some category =>
      -- A slice keeps all questions and labels, so the question is put in the same words.
      have hadvice : sliced.base.advice = engine.base.advice := by
        rw [h.bases.1, h.bases.2, Base.advice_slice]
      have hprompt : Engine.prompt sliced.base category = Engine.prompt engine.base category := by
        rw [Engine.prompt, Engine.prompt, Base.question?, Base.question?, Base.label, Base.label,
          Base.translation?, Base.translation?, h.bases.1, h.bases.2, Base.advice_slice,
          Base.translations_slice]
      simp only [hadvice, hprompt]
      split
      · refine .needsInput category _ ?_
        rw [h.bases.1, h.bases.2]
        exact Base.valuesFor_slice_subset base target category
      · rw [h.fired]
        exact .exhausted (some category) engine.fired

theorem settle : SliceOf base target engine.settle sliced.settle where
  sound := h.sound
  bases := h.bases
  targets := h.targets
  focused := h.focused
  memory := h.memory
  fired := h.fired
  pending := h.verdict.asked?

/-- Both engines learn the same answer. -/
theorem learn (category value : String) :
    SliceOf base target (engine.learn category value) (sliced.learn category value) where
  sound := h.sound
  bases := h.bases
  targets := h.targets
  focused := h.focused
  memory other hother := by
    rw [Engine.learn, Engine.learn, Table.get?_insert, Table.get?_insert, h.memory other hother]
  fired := h.fired
  pending := rfl

omit h in
/-- Chaining keeps the engines in agreement: the engine over the slice waits where the other fires
rules that are not relevant. -/
theorem chain (h : SliceOf base target engine sliced) (hpending : engine.pending = none) :
    SliceOf base target engine.chain sliced.chain := by
  induction engine using Engine.chain_induction generalizing sliced with
  | stops engine hnone =>
    have hsliced : sliced.next? = none := by
      rw [h.next?_eq fun rule hsome => absurd (hnone.symm.trans hsome) (Option.some_ne_none _).symm]
      exact hnone
    -- Both engines stop.
    rw [Engine.chain_of_none hpending hnone,
      Engine.chain_of_none (h.pending.trans hpending) hsliced]
    exact h.settle
  | fires engine rule hsome ih =>
    rw [Engine.chain_of_some hsome]
    cases hrelevant : (base.relevantRules target).contains rule.id with
    | true =>
      -- The rule fires in both.
      have hsliced : sliced.next? = some rule := by
        rw [h.next?_eq fun other hother => Option.some.inj (hsome.symm.trans hother) ▸ hrelevant]
        exact hsome
      rw [Engine.chain_of_some hsliced]
      exact ih (h.fire hrelevant) hpending
    | false =>
      have hmem := h.mem_rules (Engine.mem_unfired_of_next? hsome)
      -- The rule fires over the base alone, and the engine over the slice has not moved.
      exact ih (h.fire_irrelevant hmem hrelevant) hpending

/-! ### Calls -/

/-- Engines that have stopped tell corresponding outcomes. -/
theorem told (hstopped : engine.IsStopped) (hstopped' : sliced.IsStopped) :
    RepliesRestrict (base.relevantRules target) (.ok engine.outcome) (.ok sliced.outcome) := by
  rw [hstopped.outcome, hstopped'.outcome]
  exact .told h.verdict

omit h in
/-- Running or chaining on, both engines go on. -/
theorem run (h : SliceOf base target engine sliced) (hstanding : engine.IsStanding)
    (hstanding' : sliced.IsStanding) :
    SliceOf base target engine.run sliced.run ∧ engine.run.IsStopped ∧ sliced.run.IsStopped := by
  cases hpending : engine.pending with
  | none =>
    have hpending' := h.pending.trans hpending
    rw [Engine.run_of_none hpending, Engine.run_of_none hpending']
    exact ⟨h.chain hpending, Engine.isStopped_chain hpending, Engine.isStopped_chain hpending'⟩
  | some asked =>
    have hpending' := h.pending.trans hpending
    rw [Engine.run_of_pending hstanding hpending, Engine.run_of_pending hstanding' hpending']
    exact ⟨h, hstanding.isStopped hpending, hstanding'.isStopped hpending'⟩

omit h in
/-- A call is refused by both engines for the same reason, or both go on. -/
theorem respond (h : SliceOf base target engine sliced) (hstanding : engine.IsStanding)
    (hstanding' : sliced.IsStanding) (call : Call) :
    (∃ fault, engine.respond call = .error fault ∧ sliced.respond call = .error fault) ∨
      ∃ next next', engine.respond call = .ok next ∧ sliced.respond call = .ok next' ∧
        SliceOf base target next next' ∧ next.IsStopped ∧ next'.IsStopped := by
  cases call with
  | run => exact Or.inr ⟨_, _, rfl, rfl, h.run hstanding hstanding'⟩
  | supply category value =>
    simp only [Engine.respond]
    cases hpending : engine.pending with
    | none =>
      rw [Engine.supply_of_none hpending, Engine.supply_of_none (h.pending.trans hpending)]
      exact Or.inl ⟨_, rfl, rfl⟩
    | some asked =>
      rw [Engine.supply_of_some hpending, Engine.supply_of_some (h.pending.trans hpending)]
      split
      · cases value.token? with
        | none => exact Or.inl ⟨_, rfl, rfl⟩
        | some answer =>
          exact Or.inr ⟨_, _, rfl, rfl, (h.learn asked answer).chain rfl,
            Engine.isStopped_chain rfl, Engine.isStopped_chain rfl⟩
      · exact Or.inl ⟨_, rfl, rfl⟩

omit h in
/-- At each call the users are told corresponding things, and the engines stay in agreement. -/
theorem call (h : SliceOf base target engine sliced) (hstanding : engine.IsStanding)
    (hstanding' : sliced.IsStanding) (call : Call) :
    SliceOf base target (engine.call call) (sliced.call call) ∧
      RepliesRestrict (base.relevantRules target) (engine.reply call) (sliced.reply call) := by
  rw [Engine.call, Engine.call, Engine.reply, Engine.reply]
  rcases h.respond hstanding hstanding' call with
    ⟨fault, hfault, hfault'⟩ | ⟨next, next', hnext, hnext', hslice, hstopped, hstopped'⟩
  · rw [hfault, hfault']
    exact ⟨h, .refused fault⟩
  · rw [hnext, hnext']
    exact ⟨hslice, hslice.told hstopped hstopped'⟩

omit h in
theorem replies (h : SliceOf base target engine sliced) (hstanding : engine.IsStanding)
    (hstanding' : sliced.IsStanding) (calls : List Call) :
    List.Forall₂ (RepliesRestrict (base.relevantRules target)) (engine.replies calls)
        (sliced.replies calls) ∧
      SliceOf base target (engine.after calls) (sliced.after calls) := by
  induction calls generalizing engine sliced with
  | nil => exact ⟨.nil, h⟩
  | cons call calls ih =>
    obtain ⟨hcall, hreply⟩ := h.call hstanding hstanding' call
    obtain ⟨hreplies, hafter⟩ := ih hcall (Engine.isStanding_call hstanding call)
      (Engine.isStanding_call hstanding' call)
    exact ⟨.cons hreply hreplies, hafter⟩

end SliceOf

/-! ## Exact slicing -/

/-- A focused consultation about a target over a base that was built, and the same consultation over
the slice of the base: whatever calls are made, at each of them the two users are told corresponding
things, the rules that fired over the slice are the relevant ones among those that fired over the
base, and the same question is pending. -/
theorem slice_replies {entries : List Entry} {base : Base} {issues : List Issue}
    {notices : List Notice} (hbuild : build entries = .ok ⟨some base, issues, notices⟩)
    {target : String} {given : List (Datum × Datum)} {start : Engine}
    (hstart : Engine.start base (.text target) given true = .ok start) (calls : List Call) :
    ∃ sliced, Engine.start (base.slice target) (.text target) given true = .ok sliced ∧
      List.Forall₂ (RepliesRestrict (base.relevantRules target)) (start.replies calls)
        (sliced.replies calls) ∧
      (sliced.after calls).fired =
        (start.after calls).fired.filter (base.relevantRules target).contains ∧
      (sliced.after calls).pending = (start.after calls).pending := by
  have hstanding := Engine.isStanding_of_start hstart
  obtain ⟨target?, facts, htarget, hfacts, rfl⟩ := Engine.start_eq_ok hstart
  have hsliced : Engine.start (base.slice target) (.text target) given true =
      .ok (.fresh (base.slice target) target? facts true) := by
    rw [Engine.start, htarget, hfacts]
    rfl
  have hgoal : target? = some target := Engine.checkTarget_text htarget
  have hslice : SliceOf base target (.fresh base target? facts true)
      (.fresh (base.slice target) target? facts true) :=
    ⟨Base.isSound_of_build hbuild, ⟨rfl, rfl⟩, ⟨hgoal, hgoal⟩, ⟨rfl, rfl⟩, fun _ _ => rfl, rfl, rfl⟩
  obtain ⟨hreplies, hafter⟩ := hslice.replies hstanding (Engine.isStanding_of_start hsliced) calls
  exact ⟨_, hsliced, hreplies, hafter.fired, hafter.pending⟩

/-- Over the slice the first rule is left out, and the others fire as over the base. -/
theorem slice_replies_exampleEntries :
    ∃ start sliced, Engine.start (declaredBase exampleEntries) (.text "c") [] true = .ok start ∧
      Engine.start ((declaredBase exampleEntries).slice "c") (.text "c") [] true = .ok sliced ∧
      (start.after [.run, .supply (.text "a") (.text "x")]).fired = [1, 2, 3] ∧
      (sliced.after [.run, .supply (.text "a") (.text "x")]).fired =
        (start.after [.run, .supply (.text "a") (.text "x")]).fired.filter
          ((declaredBase exampleEntries).relevantRules "c").contains := by
  obtain ⟨notices, hbuild⟩ := build_exampleEntries
  have hstart : Engine.start (declaredBase exampleEntries) (.text "c") [] true =
      .ok (.fresh (declaredBase exampleEntries) (some "c") Table.empty true) := rfl
  obtain ⟨sliced, hsliced, -, hfired, -⟩ :=
    slice_replies hbuild hstart [.run, .supply (.text "a") (.text "x")]
  exact ⟨_, sliced, hstart, hsliced, by cbv, hfired⟩

end RuleConsult
