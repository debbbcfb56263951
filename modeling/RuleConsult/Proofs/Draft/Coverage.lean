import RuleConsult.Proofs.Base.Built
import RuleConsult.Proofs.Base.Index

/-!
# Categories without a source

When a base is built, the categories are listed that some rule requires although no rule concludes
them and no question is bound to them. The list is made from the index and from the texts of
questions; what it says is a matter of the rules and of the bound categories alone.

* `Base.Lacks`: a category of which nothing becomes known unless it is given;
* `Draft.isRepetition_ofEntries`: notices about single entries are about repeated conditions only;
* `uncovered_mem_notices_iff`: a category is listed exactly if the base lacks it.
-/

namespace RuleConsult

/-- A category that some rule requires, that no rule concludes and that is not asked for. -/
structure Base.Lacks (base : Base) (category : String) : Prop where
  required : ∃ rule ∈ base.rules, category ∈ rule.conditionCategories
  unconcluded : ∀ rule ∈ base.rules, rule.conclusion.category ≠ category
  unasked : base.advice.contains category = false

/-! ## Coverage of a base -/

namespace Base

variable {base : Base} {category : String}

/-- The index finds the rules that conclude a category. -/
theorem rulesConcluding_eq (base : Base) (category : String) :
    base.rulesConcluding category =
      base.rules.filter fun rule => rule.conclusion.category = category := by
  rw [rulesConcluding, base.index_eq, Index.rulesConcluding_ofRules]

/-- A category that is required is one of the base. -/
theorem mem_categories_of_condition {rule : Rule} (hrule : rule ∈ base.rules)
    (hcategory : category ∈ rule.conditionCategories) : category ∈ base.categories := by
  obtain ⟨pair, hpair, rfl⟩ := List.mem_map.1 hcategory
  -- The value of the condition is noted under its category, so there is something under it.
  have hvalue : pair.value ∈ base.index.valuesOf pair.category := by
    rw [base.index_eq, Index.mem_valuesOf_ofRules]
    exact ⟨rule, hrule, List.mem_append_left _ hpair⟩
  show pair.category ∈ base.index.values.keys
  by_contra habsent
  rw [Index.valuesOf, Table.get?_eq_none_iff.2 habsent] at hvalue
  exact List.not_mem_nil hvalue

/-- There is no question exactly for categories to which none is bound. -/
theorem isNone_question?_iff :
    (base.question? category).isNone = true ↔ base.advice.contains category = false := by
  rw [question?, BindingTable.text?, Option.isNone_map, Option.isNone_iff_eq_none,
    BindingTable.contains, Table.contains_eq_isSome, Option.isSome_eq_false_iff,
    Option.isNone_iff_eq_none]

/-- The categories listed for a base are those that it lacks. -/
theorem uncovered_mem_coverageNotices_iff :
    .uncovered category ∈ base.coverageNotices ↔ base.Lacks category := by
  have hlisted : .uncovered category ∈ base.coverageNotices ↔
      category ∈ base.categories ∧ category ∈ base.requiredCategories ∧
        base.rulesConcluding category = [] ∧ base.advice.contains category = false := by
    simp only [coverageNotices, List.mem_append, List.mem_map, List.mem_filter, reduceCtorEq,
      and_false, exists_false, or_false, Notice.uncovered.injEq, exists_eq_right,
      Bool.and_eq_true, List.contains_iff_mem, List.isEmpty_iff, isNone_question?_iff]
    simp only [and_assoc]
  rw [hlisted, rulesConcluding_eq, requiredCategories, List.mem_flatMap, List.filter_eq_nil_iff]
  constructor
  · rintro ⟨-, hrequired, hnone, hunasked⟩
    exact ⟨hrequired, by simpa using hnone, hunasked⟩
  · rintro ⟨hrequired, hnone, hunasked⟩
    obtain ⟨rule, hrule, hcategory⟩ := hrequired
    exact ⟨mem_categories_of_condition hrule hcategory, ⟨rule, hrule, hcategory⟩,
      by simpa using hnone, hunasked⟩

end Base

/-! ## Notices about entries -/

/-- The notice is about a condition that is stated twice. -/
def Notice.IsRepetition : Notice → Prop
  | .repeatedCondition .. => True
  | _ => False

/-- Checking conditions gives notice of repeated ones only. -/
theorem isRepetition_checkConditions (line id : Int) (pairs : List Pair) :
    ∀ notice ∈ (checkConditions line id pairs).notices, notice.IsRepetition := by
  induction pairs using List.reverseRecOn with
  | nil => simp [checkConditions]
  | append_singleton pairs pair ih =>
    rw [checkConditions_concat, ConditionCheck.add]
    split
    · exact ih
    · split
      · -- The one notice that is added is about a repetition.
        intro notice hnotice
        rcases List.mem_append.1 hnotice with hold | hnew
        · exact ih notice hold
        · rw [List.mem_singleton.1 hnew]
          exact trivial
      · exact ih

/-- Checking a rule gives notice of repeated conditions only. -/
theorem isRepetition_checkRule (line : Int) (id? : Option Int) (conditions : List Pair)
    (conclusion? : Option Pair) :
    ∀ notice ∈ (checkRule line id? conditions conclusion?).notices, notice.IsRepetition := by
  rcases checkRule_eq_reject_or line id? conditions conclusion? with
    ⟨issues, -, hreject⟩ | ⟨id, conclusion, rfl, rfl, hne, htokens⟩
  · rw [hreject]
    simp [RuleCheck.reject]
  · obtain ⟨issues, -, hcheck⟩ := checkRule_of_tokens line id hne htokens
    rw [hcheck]
    exact isRepetition_checkConditions line id conditions

namespace Draft

variable {draft next : Draft}

theorem notices_bind (draft : Draft) (binding : Binding) :
    (draft.bind binding).notices = draft.notices := by
  unfold bind
  cases binding.kind <;> rfl

theorem notices_addBinding (draft : Draft) (line : Int) (kind : BindingKind)
    (category text : String) :
    (draft.addBinding line kind category text).notices = draft.notices := by
  unfold addBinding
  split
  · exact List.append_nil _
  · split
    · exact List.append_nil _
    · exact notices_bind draft _

/-- Declaring an entry adds at most notices about repetitions. -/
theorem isRepetition_add {entry : Entry} (h : ∀ notice ∈ draft.notices, notice.IsRepetition)
    (hadd : draft.add entry = .ok next) : ∀ notice ∈ next.notices, notice.IsRepetition := by
  have hchecked : ∀ (check : RuleCheck), (∀ notice ∈ check.notices, notice.IsRepetition) →
      ∀ notice ∈ draft.notices ++ check.notices, notice.IsRepetition := by
    intro check hcheck notice hnotice
    rcases List.mem_append.1 hnotice with hold | hnew
    · exact h notice hold
    · exact hcheck notice hnew
  obtain ⟨offset, line, column, body⟩ := entry
  cases body with
  | binding kind category text =>
    cases hadd
    rw [notices_addBinding]
    exact h
  | rule number conditions conclusion? =>
    change draft.addRule line number conditions conclusion? = .ok next at hadd
    rcases addRule_cases hadd with ⟨-, rfl⟩ | ⟨id, -, ⟨firstLine, -, rfl⟩ | ⟨-, rfl⟩⟩
    · exact hchecked _ (isRepetition_checkRule _ _ _ _)
    · simpa [report] using h
    · exact hchecked _ (isRepetition_checkRule _ _ _ _)

/-- Before the base is built, all notices are about repetitions. -/
theorem isRepetition_ofEntries {entries : List Entry} (h : ofEntries entries = .ok draft) :
    ∀ notice ∈ draft.notices, notice.IsRepetition := by
  induction entries using List.reverseRecOn generalizing draft with
  | nil =>
    cases h
    simp [empty]
  | append_singleton entries entry ih =>
    rw [ofEntries_concat] at h
    cases hinit : ofEntries entries with
    | error fault =>
      rw [hinit] at h
      exact nomatch h
    | ok init =>
      rw [hinit] at h
      exact isRepetition_add (ih hinit) h

end Draft

/-! ## Coverage of what was built -/

/-- A category is listed exactly if the base that was built lacks it. -/
theorem uncovered_mem_notices_iff {entries : List Entry} {base : Base} {issues : List Issue}
    {notices : List Notice} (hbuild : build entries = .ok ⟨some base, issues, notices⟩)
    {category : String} : .uncovered category ∈ notices ↔ base.Lacks category := by
  obtain ⟨draft, hdraft, hbuilt⟩ := build_eq_ok_iff.1 hbuild
  split at hbuilt
  · cases hbuilt
    have hdeclared : .uncovered category ∉ draft.notices := fun hmem =>
      Draft.isRepetition_ofEntries hdraft _ hmem
    rw [List.mem_append, or_iff_right hdeclared, Base.uncovered_mem_coverageNotices_iff]
  · cases hbuilt

end RuleConsult
