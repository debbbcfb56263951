import RuleConsult.Proofs.Consult.Exhaustion
import RuleConsult.Proofs.Draft.Coverage

/-!
# What a base lacks stays unknown

Building lists the categories for which a base has no source, and it does so without running
anything. Whatever the target, the facts, the mode and the answers of a consultation, it cannot come
to know such a category: a value is written only by a rule that concludes the category, or by an
answer, and answers are accepted only to questions that the base holds. So a rule that requires the
category never fires. Conversely, if a consultation gives up for want of a category, then the
category was listed, or else it waits for rules none of which has fired.

* `Engine.contains_of_answered`: what is answered was asked for by a question of the base;
* `Follows.get?_of_lacks`: a category that the base lacks stays unknown;
* `Follows.notMem_fired_of_required`: a rule that fired knows its categories from then on;
* `coverage_predicts`: what the list says of every consultation.
-/

namespace RuleConsult

namespace Engine

variable {start engine : Engine} {category : String}

/-- Answers are accepted only for categories to which a question is bound. -/
theorem contains_of_answered (hstanding : start.IsStanding) (calls : List Call) {value : String}
    (h : .answered category value ∈ start.log calls) :
    start.base.advice.contains category = true := by
  -- The base stays the same along a consultation, which the question is looked up in.
  have hgeneral : (start.after calls).base = start.base ∧ ∀ asked answer,
      .answered asked answer ∈ start.log calls → start.base.advice.contains asked = true := by
    refine after_induction (motive := fun log engine => engine.base = start.base ∧ ∀ asked answer,
      .answered asked answer ∈ log → start.base.advice.contains asked = true) hstanding
        ?init ?settle ?fire ?learn calls
    case init => exact ⟨rfl, fun _ _ hmem => nomatch hmem⟩
    case settle => exact fun log engine h _ => h
    case fire =>
      rintro log engine rule ⟨hbase, hlog⟩ _
      refine ⟨hbase, fun asked answer hmem => hlog asked answer ?_⟩
      simpa using hmem
    case learn =>
      rintro log engine asked answer ⟨hbase, hlog⟩ hstopped hpending _
      refine ⟨hbase, fun other value hmem => ?_⟩
      rcases List.mem_append.1 hmem with hmem | hmem
      · exact hlog other value hmem
      · cases List.mem_singleton.1 hmem
        rw [← hbase]
        exact (hstopped.of_pending hpending).2.2.1
  exact hgeneral.2 category value h

end Engine

namespace Follows

variable {start engine : Engine} {log : List Event} {category : String}

/-- A category that the base lacks stays unknown, if answers are accepted only to questions. -/
theorem get?_of_lacks (h : Follows start log engine) (hlacks : start.base.Lacks category)
    (hunknown : start.memory.get? category = none)
    (hanswered : ∀ value, .answered category value ∈ log →
      start.base.advice.contains category = true) :
    engine.memory.get? category = none := by
  rw [Option.eq_none_iff_forall_ne_some]
  intro value hvalue
  rw [h.memory] at hvalue
  -- Each of the three sources of a fact is excluded.
  rcases source_of_replay hvalue with hfact | hanswer | ⟨rule, hrule, hconclusion⟩
  · rw [hunknown] at hfact
    cases hfact
  · have hasked := hanswered value hanswer
    rw [hlacks.unasked] at hasked
    cases hasked
  · refine hlacks.unconcluded rule (h.rightly.mem_rules hrule) ?_
    rw [hconclusion]

/-- A rule fires only if its categories are known, and they stay known. -/
theorem notMem_fired_of_required (h : Follows start log engine) (hbase : start.base.IsSound)
    {rule : Rule} (hrule : rule ∈ start.base.rules)
    (hrequired : category ∈ rule.conditionCategories)
    (hunknown : engine.memory.get? category = none) : rule.id ∉ engine.fired := by
  intro hin
  rw [h.fired] at hin
  obtain ⟨fired, hfired, hid⟩ := List.mem_map.1 hin
  obtain rfl := hbase.eq_of_id_eq (h.rightly.mem_rules hfired) hrule hid
  obtain ⟨before, later, rfl⟩ := List.append_of_mem (mem_firedRules.1 hfired)
  have hfires : FiresInTurn start before fired := h.rightly before _ later rfl
  obtain ⟨pair, hpair, rfl⟩ := List.mem_map.1 hrequired
  have hknown := List.all_eq_true.1 hfires.satisfied pair hpair
  rw [h.memory, replay, List.map_append, Table.insertMany_append,
    Table.get?_insertMany_eq_none_iff] at hunknown
  have hbefore : (replay start.memory before).get? pair.category = none := hunknown.1
  rw [hbefore] at hknown
  cases hknown

end Follows

/-- The notices of a base predict its consultations. A category that is listed as uncovered and is
no initial fact never becomes known, and no rule that requires it fires. If a consultation is
exhausted for want of a category, there is no question for the category, and it is listed as
uncovered or concluded by rules none of which has fired. -/
theorem coverage_predicts {entries : List Entry} {base : Base} {issues : List Issue}
    {notices : List Notice} (hbuild : build entries = .ok ⟨some base, issues, notices⟩)
    {target : Datum} {given : List (Datum × Datum)} {focused : Bool} {start : Engine}
    (hstart : Engine.start base target given focused = .ok start) (calls : List Call) :
    (∀ category, .uncovered category ∈ notices → start.memory.get? category = none →
      (start.after calls).memory.get? category = none ∧
        ∀ rule ∈ base.rules, category ∈ rule.conditionCategories →
          rule.id ∉ (start.after calls).fired) ∧
    ∀ category fired, (start.after calls).outcome = some (.exhausted (some category) fired) →
      base.advice.contains category = false ∧
        (.uncovered category ∈ notices ∨
          (∃ rule ∈ base.rules, rule.conclusion.category = category) ∧
            ∀ rule ∈ base.rules, rule.conclusion.category = category →
              rule.id ∉ (start.after calls).fired) := by
  have hbase := Base.isSound_of_build hbuild
  have hfollows := Follows.after hbase hstart calls
  have hstanding := Engine.isStanding_of_start hstart
  obtain rfl := Engine.base_of_start hstart
  constructor
  · intro category hlisted hunknown
    have hlacks := (uncovered_mem_notices_iff hbuild).1 hlisted
    have hnone := hfollows.get?_of_lacks hlacks hunknown fun value hanswered =>
      Engine.contains_of_answered hstanding calls hanswered
    exact ⟨hnone, fun rule hrule hrequired =>
      hfollows.notMem_fired_of_required hbase hrule hrequired hnone⟩
  · intro category fired houtcome
    have hstopped := (Engine.isStanding_after hstanding calls).isStopped_of_outcome houtcome
    obtain ⟨-, -, hmissing, hquestion⟩ := hstopped.of_exhausted houtcome
    have hunasked := hquestion category rfl
    rw [hfollows.base] at hunasked
    refine ⟨hunasked, ?_⟩
    -- The category is missing in some rule, so it is required and unknown.
    obtain ⟨rule, hrule, -, hmem⟩ := Engine.exists_of_nextMissing? hmissing
    obtain ⟨hrequired, habsent⟩ := List.mem_filter.1 hmem
    have hnone : (start.after calls).memory.get? category = none := by
      simpa [Table.contains_eq_isSome] using habsent
    by_cases hconcluded : ∃ other ∈ start.base.rules, other.conclusion.category = category
    · refine Or.inr ⟨hconcluded, ?_⟩
      rintro other hother rfl
      exact hfollows.notMem_fired hbase hother hnone
    · left
      refine (uncovered_mem_notices_iff hbuild).2 ⟨⟨rule, ?_, hrequired⟩, ?_, hunasked⟩
      · rw [← hfollows.base]
        exact (Engine.mem_unfired.1 hrule).1
      · exact fun other hother heq => hconcluded ⟨other, hother, heq⟩

/-- The three rules of the example without its question, so that nothing supplies the first
category. -/
def unaskedEntries : List Entry :=
  exampleEntries.take 3

theorem lacks_unaskedEntries : (declaredBase unaskedEntries).Lacks "a" := by
  have hrules (rule : Rule) : rule ∈ (declaredBase unaskedEntries).rules ↔
      rule ∈ declaredRules unaskedEntries := Base.mem_rules_ofParts
  refine ⟨⟨⟨1, [⟨"a", "x"⟩], ⟨"d", "w"⟩, some 1⟩, ?_, by decide⟩, fun rule hrule => ?_, rfl⟩
  · rw [hrules]
    decide +kernel
  · rw [hrules] at hrule
    revert rule
    decide +kernel

/-- The consultation gives up for want of the category that was listed. -/
theorem coverage_predicts_unaskedEntries :
    ∃ notices start,
      build unaskedEntries = .ok ⟨some (declaredBase unaskedEntries), [], notices⟩ ∧
      Engine.start (declaredBase unaskedEntries) (.text "c") [] false = .ok start ∧
      .uncovered "a" ∈ notices ∧
      (start.after [.run]).outcome = some (.exhausted (some "a") []) ∧
      (start.after [.run]).memory.get? "a" = none ∧
      (∀ rule ∈ (declaredBase unaskedEntries).rules, "a" ∈ rule.conditionCategories →
        rule.id ∉ (start.after [.run]).fired) ∧
      (declaredBase unaskedEntries).advice.contains "a" = false := by
  obtain ⟨notices, hbuild⟩ := exists_build_of_isSome (show
    ((build unaskedEntries).toOption.bind Build.base?).isSome = true by decide +kernel)
  have hlisted : .uncovered "a" ∈ notices :=
    (uncovered_mem_notices_iff hbuild).2 lacks_unaskedEntries
  have hstart : Engine.start (declaredBase unaskedEntries) (.text "c") [] false =
      .ok (.fresh (declaredBase unaskedEntries) (some "c") .empty false) := rfl
  have houtcome : (Engine.after (.fresh (declaredBase unaskedEntries) (some "c") .empty false)
      [.run]).outcome = some (.exhausted (some "a") []) := by cbv
  obtain ⟨hunknown, hgivenUp⟩ := coverage_predicts hbuild hstart [.run]
  obtain ⟨hnone, hfired⟩ := hunknown "a" hlisted rfl
  obtain ⟨hunasked, -⟩ := hgivenUp "a" [] houtcome
  exact ⟨notices, _, hbuild, hstart, hlisted, houtcome, hnone, hfired, hunasked⟩

end RuleConsult
