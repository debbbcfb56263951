import RuleConsult.Proofs.Base.Reach
import RuleConsult.Proofs.Consult.Soundness

/-!
# Exhaustion is definitive

If an engine finds nothing to fire and nothing to ask for, this is no matter of the order in which
it goes on: whatever becomes known later about categories of which nothing was known, and in
whatever order rules fire, no rule in the scope of the consultation ever fires.

The reason is that every such rule is contradicted by the memory (`contradicted_of_exhausted`). Only
a rule that fires can change what contradicts it; a rule outside the scope concludes nothing that a
rule in the scope is conditioned on, and a rule in the scope would have to fire first.

* `Frozen.step`: what a step onward preserves;
* `exhausted_definitive`: no rule in the scope ever fires.
-/

namespace RuleConsult

open Relation

/-! ## Going on in any order -/

/-- What is known, and the numbers of the rules that fired. -/
structure Situation where
  memory : Facts
  fired : List Int

/-- A step onward: a category of which nothing is known gets a value, or any rule that has not fired
and whose conditions hold is fired. -/
inductive Onward (base : Base) (situation : Situation) : Situation → Prop
  | learn {category : String} (value : String)
      (unknown : situation.memory.get? category = none) :
      Onward base situation ⟨situation.memory.insert category value, situation.fired⟩
  | fire {rule : Rule} (mem : rule ∈ base.rules) (unfired : rule.id ∉ situation.fired)
      (satisfied : rule.isSatisfiedBy situation.memory = true) :
      Onward base situation
        ⟨situation.memory.insert rule.conclusion.category rule.conclusion.value,
          situation.fired ++ [rule.id]⟩

/-- A rule with a condition for which another value is known. -/
def Rule.IsContradicted (rule : Rule) (facts : Facts) : Prop :=
  ∃ pair ∈ rule.conditions, ∃ value, facts.get? pair.category = some value ∧ value ≠ pair.value

namespace Rule

variable {rule : Rule} {facts : Facts}

/-- A condition that contradicts the facts makes its rule contradicted. -/
theorem isContradicted_of_mem {category : String} (h : category ∈ rule.contradictedBy facts) :
    rule.IsContradicted facts := by
  rw [contradictedBy] at h
  obtain ⟨pair, hpair, -⟩ := List.mem_map.1 h
  obtain ⟨hmem, hother⟩ := List.mem_filter.1 hpair
  cases hget : facts.get? pair.category with
  | none => simp [hget] at hother
  | some value => exact ⟨pair, hmem, value, hget, by simpa [hget] using hother⟩

/-- A rule whose categories are all known is satisfied or contradicted. -/
theorem isContradicted_of_known (hmissing : rule.missingIn facts = [])
    (hunsatisfied : rule.isSatisfiedBy facts = false) : rule.IsContradicted facts := by
  rw [isSatisfiedBy, List.all_eq_false] at hunsatisfied
  obtain ⟨pair, hpair, hne⟩ := hunsatisfied
  have hknown := (List.filter_eq_nil_iff.1 hmissing) pair.category (List.mem_map_of_mem hpair)
  rw [Bool.not_eq_true', Bool.not_eq_false, Table.contains_eq_isSome] at hknown
  obtain ⟨value, hvalue⟩ := Option.isSome_iff_exists.1 hknown
  exact ⟨pair, hpair, value, hvalue, by simpa [hvalue] using hne⟩

end Rule

namespace Engine

variable {engine : Engine}

/-- What a step onward starts from. -/
def situation (engine : Engine) : Situation := ⟨engine.memory, engine.fired⟩

/-- A rule that matters to the consultation: in focused mode with a target, one that may contribute
to it, and else any. -/
def InScope (engine : Engine) (rule : Rule) : Prop :=
  ∀ target, engine.focused = true → engine.target = some target →
    rule.id ∈ engine.base.relevantRules target

/-! ## Exhausted engines -/

/-- An engine that is exhausted without a category that could be asked for: it has not reached its
goal, no rule can fire, and nothing is missing. -/
structure IsExhausted (engine : Engine) : Prop where
  reached : engine.reached? = none
  eligible : engine.eligible? = none
  missing : engine.nextMissing? = none

/-- What an engine that is exhausted has found: no goal, no rule to fire, and a category without a
question or none at all. -/
theorem IsStopped.of_exhausted {unanswered : Option String} {fired : List Int}
    (h : engine.IsStopped) (houtcome : engine.outcome = some (.exhausted unanswered fired)) :
    engine.reached? = none ∧ engine.eligible? = none ∧ engine.nextMissing? = unanswered ∧
      ∀ category, unanswered = some category → engine.base.advice.contains category = false := by
  have hverdict : engine.verdict = .exhausted unanswered fired := by
    simpa using h.outcome.symm.trans houtcome
  have hreached : engine.reached? = none := by
    rw [verdict] at hverdict
    split at hverdict
    · cases hverdict
    · assumption
  have hnext := h.next
  rw [next?, hreached] at hnext
  refine ⟨hreached, hnext, ?_⟩
  simp only [verdict, hreached] at hverdict
  -- A category with a question would be asked for.
  cases hmissing : engine.nextMissing? with
  | none =>
    simp only [stuckOutcome, hmissing] at hverdict
    cases hverdict
    simp
  | some category =>
    cases hasked : engine.base.advice.contains category with
    | true =>
      simp only [stuckOutcome, hmissing, hasked, if_true] at hverdict
      cases hverdict
    | false =>
      simp only [stuckOutcome, hmissing, hasked] at hverdict
      cases hverdict
      simpa using hasked

theorem IsStopped.isExhausted {fired : List Int} (h : engine.IsStopped)
    (houtcome : engine.outcome = some (.exhausted none fired)) : engine.IsExhausted := by
  obtain ⟨hreached, heligible, hmissing, -⟩ := h.of_exhausted houtcome
  exact ⟨hreached, heligible, hmissing⟩

/-- Where nothing can fire and nothing is missing, every rule in the scope is contradicted. -/
theorem contradicted_of_exhausted (h : engine.IsExhausted) {rule : Rule}
    (hunfired : rule ∈ engine.unfired) (hscope : engine.InScope rule) :
    rule.IsContradicted engine.memory := by
  cases hworth : engine.isWorthAsking rule with
  | true =>
    -- The rule would be asked about, so everything is known about its conditions.
    have hmissing := List.findSome?_eq_none_iff.1 h.missing rule
      (List.mem_filter.2 ⟨hunfired, hworth⟩)
    have hunsatisfied := List.find?_eq_none.1 h.eligible rule hunfired
    exact Rule.isContradicted_of_known (List.head?_eq_none_iff.1 hmissing)
      (by simpa using hunsatisfied)
  | false =>
    -- The rule is passed over, and not because it is out of scope.
    rw [isWorthAsking, Bool.or_eq_false_iff, Bool.not_eq_false', Bool.and_eq_false_iff] at hworth
    obtain ⟨hfocused, hpassed | hcontradicted⟩ := hworth
    · rw [scope?, if_pos hfocused] at hpassed
      cases htarget : engine.target with
      | none => simp [htarget] at hpassed
      | some target =>
        have hmem := hscope target hfocused htarget
        simp [htarget, hmem] at hpassed
    · obtain ⟨category, hcategory, -⟩ := List.all_eq_false.1 hcontradicted
      exact Rule.isContradicted_of_mem hcategory

end Engine

/-! ## What no step changes -/

/-- A situation that lies onward of an engine and in which no rule in its scope has fired since, and
what was known about the conditions of such rules still is. -/
structure Frozen (engine : Engine) (situation : Situation) : Prop where
  fired : engine.fired ⊆ situation.fired
  unfired : ∀ rule ∈ engine.unfired, engine.InScope rule → rule.id ∉ situation.fired
  known : ∀ rule ∈ engine.unfired, engine.InScope rule → ∀ category ∈ rule.conditionCategories,
    ∀ value, engine.memory.get? category = some value →
      situation.memory.get? category = some value

namespace Frozen

variable {engine : Engine} {situation next : Situation}

theorem refl (engine : Engine) : Frozen engine engine.situation :=
  ⟨List.Subset.refl _, fun _ hrule _ => (Engine.mem_unfired.1 hrule).2, fun _ _ _ _ _ _ h => h⟩

/-- A contradicted rule stays contradicted. -/
theorem isContradicted (h : Frozen engine situation) {rule : Rule}
    (hunfired : rule ∈ engine.unfired) (hscope : engine.InScope rule)
    (hcontradicted : rule.IsContradicted engine.memory) :
    rule.IsContradicted situation.memory := by
  obtain ⟨pair, hpair, value, hvalue, hne⟩ := hcontradicted
  exact ⟨pair, hpair, value,
    h.known rule hunfired hscope _ (List.mem_map_of_mem hpair) value hvalue, hne⟩

/-- No step onward changes what matters. -/
theorem step (hbase : engine.base.IsSound) (hexhausted : engine.IsExhausted)
    (h : Frozen engine situation) (hstep : Onward engine.base situation next) :
    Frozen engine next := by
  cases hstep with
  | @learn category value hunknown =>
    refine ⟨h.fired, h.unfired, fun rule hrule hscope c hc v hv => ?_⟩
    have hold := h.known rule hrule hscope c hc v hv
    have hne : c ≠ category := by
      rintro rfl
      rw [hunknown] at hold
      cases hold
    rw [Table.get?_insert, if_neg hne]
    exact hold
  | @fire fired hmem hnew hsatisfied =>
    have hfired : fired ∈ engine.unfired :=
      Engine.mem_unfired.2 ⟨hmem, fun hin => hnew (h.fired hin)⟩
    -- A rule in the scope is still contradicted, so the one that fires is not in the scope.
    have hout : ¬ engine.InScope fired := by
      intro hscope
      obtain ⟨pair, hpair, value, hvalue, hne⟩ := h.isContradicted hfired hscope
        (Engine.contradicted_of_exhausted hexhausted hfired hscope)
      have hholds := List.all_eq_true.1 hsatisfied pair hpair
      rw [beq_iff_eq, hvalue, Option.some.injEq] at hholds
      exact hne hholds
    refine ⟨fun id hid => List.mem_append_left _ (h.fired hid), fun rule hrule hscope hin => ?_,
      fun rule hrule hscope category hcategory value hvalue => ?_⟩
    · rcases List.mem_append.1 hin with hin | hin
      · exact h.unfired rule hrule hscope hin
      · have heq := hbase.eq_of_id_eq (Engine.mem_unfired.1 hrule).1 hmem
          (List.mem_singleton.1 hin)
        exact hout (heq ▸ hscope)
    · -- What it concludes is not reached from the target, unlike the conditions in the scope.
      simp only [Engine.InScope, not_forall] at hout
      obtain ⟨target, hfocused, htarget, hirrelevant⟩ := hout
      rw [Base.mem_relevantRules_iff hbase hmem] at hirrelevant
      have hrelevant := hscope target hfocused htarget
      have hrules := (Engine.mem_unfired.1 hrule).1
      rw [Base.mem_relevantRules_iff hbase hrules] at hrelevant
      have hreached := Base.condition_mem_reach hrules hrelevant hcategory
      have hne : category ≠ fired.conclusion.category := by
        rintro rfl
        exact hirrelevant hreached
      rw [Table.get?_insert, if_neg hne]
      exact h.known rule hrule hscope category hcategory value hvalue

/-- Onward from an exhausted engine nothing unfrozen is reached. -/
theorem of_onward (hbase : engine.base.IsSound) (hexhausted : engine.IsExhausted)
    (h : ReflTransGen (Onward engine.base) engine.situation situation) :
    Frozen engine situation := by
  induction h with
  | refl => exact refl engine
  | tail _ hstep ih => exact ih.step hbase hexhausted hstep

end Frozen

/-! ## Exhaustion -/

namespace Follows

variable {start engine : Engine} {log : List Event}

theorem inScope_iff (h : Follows start log engine) {rule : Rule} :
    engine.InScope rule ↔ start.InScope rule := by
  rw [Engine.InScope, Engine.InScope, h.base, h.target, h.focused]

/-- If nothing is known about a category, no rule that concludes it has fired. -/
theorem notMem_fired (h : Follows start log engine) (hbase : start.base.IsSound) {rule : Rule}
    (hrule : rule ∈ start.base.rules)
    (hunknown : engine.memory.get? rule.conclusion.category = none) :
    rule.id ∉ engine.fired := by
  intro hin
  rw [h.fired] at hin
  obtain ⟨fired, hfired, hid⟩ := List.mem_map.1 hin
  have heq := hbase.eq_of_id_eq (h.rightly.mem_rules hfired) hrule hid
  rw [h.memory, replay, Table.get?_insertMany_eq_none_iff] at hunknown
  refine hunknown.2 _ (List.mem_map_of_mem (mem_firedRules.1 hfired)) ?_
  rw [heq]
  rfl

/-- Onward of an exhausted engine no rule in the scope fires that had not fired, and no rule at all
that concludes the target. -/
theorem never_fired (h : Follows start log engine) (hbase : start.base.IsSound)
    (hexhausted : engine.IsExhausted) {situation : Situation}
    (honward : ReflTransGen (Onward start.base) engine.situation situation) :
    (∀ rule ∈ start.base.rules, rule.id ∉ engine.fired → start.InScope rule →
      rule.id ∉ situation.fired) ∧
    ∀ category, start.target = some category → ∀ rule ∈ start.base.rules,
      rule.conclusion.category = category → rule.id ∉ situation.fired := by
  have hfrozen : Frozen engine situation := by
    rw [← h.base] at hbase honward
    exact Frozen.of_onward hbase hexhausted honward
  have hnever : ∀ rule ∈ start.base.rules, rule.id ∉ engine.fired → start.InScope rule →
      rule.id ∉ situation.fired := by
    intro rule hrule hunfired hscope
    refine hfrozen.unfired rule (Engine.mem_unfired.2 ⟨?_, hunfired⟩) (h.inScope_iff.2 hscope)
    rw [h.base]
    exact hrule
  refine ⟨hnever, ?_⟩
  rintro category htarget rule hrule rfl
  -- The target is not known, so no rule has concluded it, and those that could are relevant.
  have hunknown : engine.memory.get? rule.conclusion.category = none := by
    refine Engine.reached?_eq_none_iff.1 hexhausted.reached _ ?_
    rw [h.wanted, Engine.wanted, htarget]
    exact List.mem_cons_self
  refine hnever rule hrule (h.notMem_fired hbase hrule hunknown) fun target _ hgoal => ?_
  obtain rfl : rule.conclusion.category = target := Option.some.inj (htarget.symm.trans hgoal)
  exact (Base.mem_relevantRules_iff hbase hrule).2 (Index.mem_reach_self _ _)

end Follows

/-- If an engine over a base that was built is exhausted and names no category, then in whatever
order one goes on, no rule that had not fired ever fires; in focused mode with a target, none that
may contribute to it. In particular the target is never concluded. -/
theorem exhausted_definitive {entries : List Entry} {base : Base} {issues : List Issue}
    {notices : List Notice} (hbuild : build entries = .ok ⟨some base, issues, notices⟩)
    {target : Datum} {given : List (Datum × Datum)} {focused : Bool} {start : Engine}
    (hstart : Engine.start base target given focused = .ok start) (calls : List Call)
    {fired : List Int} (hexhausted : (start.after calls).outcome = some (.exhausted none fired))
    {situation : Situation}
    (honward : ReflTransGen (Onward base) (start.after calls).situation situation) :
    (∀ rule ∈ base.rules, rule.id ∉ (start.after calls).fired →
      (∀ category, focused = true → start.target = some category →
        rule.id ∈ base.relevantRules category) →
      rule.id ∉ situation.fired) ∧
    ∀ category, start.target = some category → ∀ rule ∈ base.rules,
      rule.conclusion.category = category → rule.id ∉ situation.fired := by
  have hbase := Base.isSound_of_build hbuild
  have hfollows := Follows.after hbase hstart calls
  have hstanding := Engine.isStanding_after (Engine.isStanding_of_start hstart) calls
  obtain ⟨target?, facts, -, -, rfl⟩ := Engine.start_eq_ok hstart
  rcases hstanding with hfresh | hstopped
  · rw [hfresh.2] at hexhausted
    cases hexhausted
  · exact hfollows.never_fired hbase (hstopped.isExhausted hexhausted) honward

/-- Two rules that are contradicted, the second in a category that the first could still
conclude. -/
theorem exhausted_definitive_exampleEntries :
    ∃ start, Engine.start (declaredBase exampleEntries) (.text "c")
        [(.text "a", .text "w"), (.text "b", .text "v")] true = .ok start ∧
      (start.after [.run]).outcome = some (.exhausted none []) ∧
      ∀ situation, ReflTransGen (Onward (declaredBase exampleEntries))
        (start.after [.run]).situation situation →
        ∀ rule ∈ (declaredBase exampleEntries).rules, rule.conclusion.category = "c" →
          rule.id ∉ situation.fired := by
  obtain ⟨notices, hbuild⟩ := build_exampleEntries
  have hstart : Engine.start (declaredBase exampleEntries) (.text "c")
      [(.text "a", .text "w"), (.text "b", .text "v")] true =
        .ok (.fresh (declaredBase exampleEntries) (some "c")
          (Table.ofList [("a", "w"), ("b", "v")]) true) := rfl
  have hexhausted : (Engine.after (.fresh (declaredBase exampleEntries) (some "c")
      (Table.ofList [("a", "w"), ("b", "v")]) true) [.run]).outcome =
        some (.exhausted none []) := by cbv
  refine ⟨_, hstart, hexhausted, fun situation honward => ?_⟩
  exact (exhausted_definitive hbuild hstart [.run] hexhausted honward).2 "c" rfl

end RuleConsult
