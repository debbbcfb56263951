import RuleConsult.Proofs.Base.Built
import RuleConsult.Proofs.Base.Index

/-!
# Looking up is scanning

A base sorts the rules that it is given and fills its tables in one pass over them; every answer
about categories is looked up there. None of this shows in the answers. They are what someone finds
who reads through the sorted rules from the first to the last, whatever rules there are, also if
several of them have one number.

* `IsStableSort`: items sorted by a key, those of one key in the order in which they were given;
* `FirstAppearances`: what occurs in a list, each item in the place where it occurs first;
* `Base.IsFinal`: the final categories, said of rules;
* `Base.IsScanOf`: answers that a scan of the rules would give;
* `Base.isScanOf_ofParts`: the answers of every base are such.
-/

namespace RuleConsult

/-! ## Orders -/

section Orders

variable {α κ : Type}

/-- The items in ascending order of their keys. Items of one key stand as they were given. -/
structure IsStableSort [LE κ] [DecidableEq κ] (key : α → κ) (given sorted : List α) : Prop where
  perm : sorted.Perm given
  ascending : sorted.Pairwise fun a b => key a ≤ key b
  stable : ∀ k, (sorted.filter fun item => key item = k) = given.filter fun item => key item = k

/-- Sorting by merging is stable. -/
theorem isStableSort_mergeSort (key : α → Int) (given : List α) :
    IsStableSort key given (given.mergeSort fun a b => decide (key a ≤ key b)) := by
  have htrans (a b c : α) (hab : decide (key a ≤ key b) = true)
      (hbc : decide (key b ≤ key c) = true) : decide (key a ≤ key c) = true := by
    simp only [decide_eq_true_eq] at *
    omega
  have htotal (a b : α) : (decide (key a ≤ key b) || decide (key b ≤ key a)) = true := by
    simp only [Bool.or_eq_true, decide_eq_true_eq]
    omega
  have hperm := List.mergeSort_perm given fun a b => decide (key a ≤ key b)
  refine ⟨hperm, ?_, fun k => ?_⟩
  · exact (List.pairwise_mergeSort htrans htotal given).imp fun hab => by simpa using hab
  · -- The items of one key are sorted as they are given, so they are found in this order.
    have hsame : (given.filter fun item => key item = k).Pairwise
        fun a b => decide (key a ≤ key b) = true := by
      refine List.pairwise_of_forall_mem_list fun a ha b hb => ?_
      simp only [List.mem_filter, decide_eq_true_eq] at ha hb ⊢
      omega
    have hsublist := (List.sublist_mergeSort htrans htotal hsame List.filter_sublist).filter
      fun item => decide (key item = k)
    simp only [List.filter_filter, Bool.and_self] at hsublist
    exact (hsublist.eq_of_length ((hperm.filter _).length_eq.symm)).symm

variable [DecidableEq α]

/-- The items that occur in a list, without repetition, in the order in which they occur first. -/
structure FirstAppearances (occurring listed : List α) : Prop where
  nodup : listed.Nodup
  mem_iff : ∀ item, item ∈ listed ↔ item ∈ occurring
  ordered : listed.Pairwise fun a b => occurring.idxOf a < occurring.idxOf b

/-- Dropping repetitions keeps every item where it occurs first. -/
theorem firstAppearances_eraseDups (occurring : List α) :
    FirstAppearances occurring occurring.eraseDups := by
  refine ⟨nodup_eraseDups occurring, fun item => List.mem_eraseDups, ?_⟩
  induction occurring using List.reverseRecOn with
  | nil => exact List.Pairwise.nil
  | append_singleton items item ih =>
    have hbefore (a : α) (ha : a ∈ items) : (items ++ [item]).idxOf a = items.idxOf a :=
      List.idxOf_append_of_mem ha
    have hearlier : items.eraseDups.Pairwise fun a b =>
        (items ++ [item]).idxOf a < (items ++ [item]).idxOf b := by
      refine ih.imp_of_mem fun ha hb hab => ?_
      rwa [hbefore _ (List.mem_eraseDups.1 ha), hbefore _ (List.mem_eraseDups.1 hb)]
    rw [eraseDups_concat]
    by_cases hmem : item ∈ items
    · simpa [hmem] using hearlier
    · -- The last item is new, so it comes behind all others.
      rw [if_neg hmem, List.pairwise_append]
      refine ⟨hearlier, List.pairwise_singleton _ _, fun a ha b hb => ?_⟩
      obtain rfl := List.mem_singleton.1 hb
      have ha' := List.mem_eraseDups.1 ha
      rw [hbefore a ha', List.idxOf_append_of_notMem hmem]
      have hlt := List.idxOf_lt_length_of_mem ha'
      omega

/-- What is left out may be left out before or after repetitions are dropped. -/
theorem filter_eraseDups (p : α → Bool) (items : List α) :
    items.eraseDups.filter p = (items.filter p).eraseDups := by
  induction items using List.reverseRecOn with
  | nil => rfl
  | append_singleton items item ih =>
    rw [eraseDups_concat, List.filter_append, ih, List.filter_append]
    by_cases hp : p item = true
    · rw [List.filter_cons_of_pos hp, List.filter_nil, eraseDups_concat]
      by_cases hmem : item ∈ items <;> simp [hmem, hp]
    · by_cases hmem : item ∈ items <;> simp [hmem, hp]

end Orders

/-! ## Bases -/

namespace Base

/-- A final category: some rule concludes it, and none requires it. -/
def IsFinal (base : Base) (category : String) : Prop :=
  (∃ rule ∈ base.rules, rule.conclusion.category = category) ∧
    ∀ rule ∈ base.rules, category ∉ rule.conditionCategories

instance (base : Base) (category : String) : Decidable (base.IsFinal category) :=
  inferInstanceAs (Decidable (_ ∧ _))

/-- The answers of the base are those that are found by going through its rules, which are the given
ones in their order. -/
structure IsScanOf (base : Base) (given : List Rule) : Prop where
  rules : IsStableSort Rule.id given base.rules
  concluding : ∀ category, base.rulesConcluding category =
    base.rules.filter fun rule => rule.conclusion.category = category
  /-- A rule is listed once for each of its conditions on the category. -/
  conditionedOn : ∀ category, base.rulesConditionedOn category =
    base.rules.flatMap fun rule => List.replicate (rule.conditionCategories.count category) rule
  categories : FirstAppearances
    (base.rules.flatMap fun rule => rule.conditionCategories ++ [rule.conclusion.category])
    base.categories
  values : ∀ category, FirstAppearances
    (((base.rules.flatMap fun rule => rule.conditions ++ [rule.conclusion]).filter
      fun pair => pair.category = category).map Pair.value)
    (base.valuesFor category)
  concluded : FirstAppearances (base.rules.map fun rule => rule.conclusion.category)
    base.conclusionCategories
  /-- Among all categories the final ones stand in the order in which they stand among those that
  are concluded. -/
  finals : (∃ category, base.IsFinal category) →
    base.goalCategories = base.conclusionCategories.filter (fun c => base.IsFinal c) ∧
      base.goalCategories = base.categories.filter fun c => base.IsFinal c
  noFinals : (¬ ∃ category, base.IsFinal category) →
    base.goalCategories = base.conclusionCategories

variable {base : Base} {category : String}

/-! ### Final categories -/

/-- A category that is concluded is final if it is not among the required ones. -/
theorem isFinal_iff_of_mem
    (h : category ∈ base.rules.map fun rule => rule.conclusion.category) :
    base.IsFinal category ↔ category ∉ base.rules.flatMap Rule.conditionCategories := by
  rw [List.mem_map] at h
  simp only [IsFinal, h, true_and, List.mem_flatMap, not_exists, not_and]

theorem conclusionCategories_eq (base : Base) : base.conclusionCategories =
    (base.rules.map fun rule => rule.conclusion.category).eraseDups := by
  rw [conclusionCategories, base.index_eq, Index.conclusionCategories_ofRules]

theorem categories_eq (base : Base) : base.categories =
    (base.rules.flatMap fun rule =>
      rule.conditionCategories ++ [rule.conclusion.category]).eraseDups := by
  rw [categories, base.index_eq, Index.categories_ofRules, Index.mentioned, List.map_flatMap]
  simp only [List.map_append, List.map_singleton, Rule.conditionCategories]

/-- The final categories are looked for among those that are concluded. -/
theorem goalCategories_eq (base : Base) : base.goalCategories =
    let finals := base.conclusionCategories.filter fun c => base.IsFinal c
    if finals.isEmpty then base.conclusionCategories else finals := by
  have hfilter : (base.conclusionCategories.filter fun c =>
      !(base.rules.flatMap Rule.conditionCategories).contains c) =
        base.conclusionCategories.filter fun c => base.IsFinal c := by
    refine List.filter_congr fun c hc => ?_
    rw [conclusionCategories_eq, List.mem_eraseDups] at hc
    rw [Bool.eq_iff_iff]
    simp [isFinal_iff_of_mem hc]
  rw [← hfilter, goalCategories, base.index_eq, Index.goalCategories_ofRules,
    conclusionCategories_eq]

theorem exists_isFinal_iff :
    (∃ c, base.IsFinal c) ↔ (base.conclusionCategories.filter fun c => base.IsFinal c) ≠ [] := by
  rw [ne_eq, List.filter_eq_nil_iff]
  constructor
  · rintro ⟨c, hc⟩ hnone
    have hmem : c ∈ base.conclusionCategories := by
      rw [conclusionCategories_eq, List.mem_eraseDups]
      exact List.mem_map.2 hc.1
    exact hnone c hmem (decide_eq_true hc)
  · intro hsome
    by_contra hnone
    exact hsome fun c _ hc => hnone ⟨c, of_decide_eq_true hc⟩

/-- A final category is mentioned in conclusions only. -/
theorem filter_isFinal_categories (base : Base) :
    (base.categories.filter fun c => base.IsFinal c) =
      base.conclusionCategories.filter fun c => base.IsFinal c := by
  rw [categories_eq, conclusionCategories_eq, filter_eraseDups, filter_eraseDups,
    List.filter_flatMap, List.map_eq_flatMap, List.filter_flatMap]
  congr 1
  refine List.flatMap_congr fun rule hrule => ?_
  have hconditions : (rule.conditionCategories.filter fun c => base.IsFinal c) = [] := by
    refine List.filter_eq_nil_iff.2 fun c hc hfinal => ?_
    exact (of_decide_eq_true hfinal).2 rule hrule hc
  rw [List.filter_append, hconditions, List.nil_append]

/-! ### All answers -/

/-- A base of any rules answers what a scan of these rules, sorted stably by their numbers, would
find. -/
theorem isScanOf_ofParts (rules : List Rule) (advice translations tips : List Binding) :
    (ofParts rules advice translations tips).IsScanOf rules where
  rules := isStableSort_mergeSort Rule.id rules
  concluding category := Index.rulesConcluding_ofRules _ category
  conditionedOn category := Index.rulesConditionedOn_ofRules _ category
  categories := by
    rw [categories_eq]
    exact firstAppearances_eraseDups _
  values category := by
    rw [valuesFor, index_eq, Index.valuesOf_ofRules]
    exact firstAppearances_eraseDups _
  concluded := by
    rw [conclusionCategories_eq]
    exact firstAppearances_eraseDups _
  finals hfinal := by
    have hsome := exists_isFinal_iff.1 hfinal
    rw [filter_isFinal_categories, goalCategories_eq]
    simp [hsome]
  noFinals hfinal := by
    have hnone := exists_isFinal_iff.not_left.1 hfinal
    rw [goalCategories_eq]
    simp [hnone]

/-- Two rules given in descending order. A category that is concluded by one of them and required by
the other is a goal only if there is no final one. -/
example :
    let base := ofParts [⟨2, [⟨"b", "y"⟩], ⟨"a", "z"⟩, none⟩, ⟨1, [⟨"a", "x"⟩], ⟨"b", "y"⟩, none⟩]
      [] [] []
    base.categories = ["a", "b"] ∧ base.goalCategories = ["b", "a"] := by
  cbv

end Base

end RuleConsult
