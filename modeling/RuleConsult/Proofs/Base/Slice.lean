import RuleConsult.Proofs.Base.Reach

/-!
# Slices of a base

A slice keeps the rules that may contribute to a target, and all bindings. Everything that is
reached from the target in the base is reached in the slice, so all rules of the slice are relevant
there, too.

* `Base.mem_rules_slice`: the rules of a slice conclude the categories that are reached;
* `Base.mem_relevantRules_slice`: in a slice every rule is relevant;
* `Base.valuesFor_slice_subset`: a slice knows no more values than the base.
-/

namespace RuleConsult

namespace Base

/-- The part of a base that may contribute to a target: the relevant rules, and all bindings. -/
def slice (base : Base) (target : String) : Base :=
  .ofParts (base.rules.filter fun rule => (base.relevantRules target).contains rule.id)
    base.advice.toList base.translations.toList base.tips.toList

variable {base : Base} {target category : String} {rule : Rule}

/-- Rules stay in their order. -/
theorem rules_slice (base : Base) (target : String) :
    (base.slice target).rules =
      base.rules.filter fun rule => (base.relevantRules target).contains rule.id :=
  rules_ofParts_of_ascending _ _ _ (base.sorted.filter _)

/-- A slice asks the questions of the base. -/
theorem advice_slice (base : Base) (target : String) : (base.slice target).advice = base.advice :=
  BindingTable.ofList_toList base.advice

theorem translations_slice (base : Base) (target : String) :
    (base.slice target).translations = base.translations :=
  BindingTable.ofList_toList base.translations

/-- The slice for a target keeps the rules that conclude what the target is reached from. -/
theorem mem_rules_slice (hbase : base.IsSound) :
    rule ∈ (base.slice target).rules ↔
      rule ∈ base.rules ∧ rule.conclusion.category ∈ base.index.reach target := by
  rw [rules_slice, List.mem_filter, List.contains_iff_mem]
  exact and_congr_right fun hrule => mem_relevantRules_iff hbase hrule

/-- What is reached in the base is reached in the slice. -/
theorem mem_reach_slice (hbase : base.IsSound) (h : category ∈ base.index.reach target) :
    category ∈ (base.slice target).index.reach target := by
  rw [Index.mem_reach_iff] at h
  induction h with
  | refl => exact Index.mem_reach_self _ _
  | @tail middle last hreach hstep ih =>
    obtain ⟨rule, hrule, rfl, hcondition⟩ := requires_iff.1 hstep
    have hkept := (mem_rules_slice hbase).2 ⟨hrule, Index.mem_reach_iff.2 hreach⟩
    exact Index.mem_reach_of_requires ih (requires_iff.2 ⟨rule, hkept, rfl, hcondition⟩)

/-- In a slice every rule is relevant. -/
theorem mem_relevantRules_slice (hbase : base.IsSound) (hrule : rule ∈ (base.slice target).rules) :
    rule.id ∈ (base.slice target).relevantRules target :=
  mem_relevantRules_of_mem_reach hrule
    (mem_reach_slice hbase ((mem_rules_slice hbase).1 hrule).2)

/-- A slice mentions a category with no value with which the base does not mention it. -/
theorem valuesFor_slice_subset (base : Base) (target category : String) :
    (base.slice target).valuesFor category ⊆ base.valuesFor category := by
  intro value hvalue
  rw [valuesFor, index_eq, Index.mem_valuesOf_ofRules] at hvalue ⊢
  obtain ⟨rule, hrule, hmem⟩ := hvalue
  rw [rules_slice] at hrule
  exact ⟨rule, (List.mem_filter.1 hrule).1, hmem⟩

end Base

end RuleConsult
