import RuleConsult.Draft
import RuleConsult.Proofs.Table

/-!
# Checked rules

A rule is accepted by its check exactly if it is well-formed once repeated conditions are dropped:
it has conditions, their categories differ from each other and from the category concluded, and all
words are tokens.

* `rule?_checkRule_eq_some_iff`: what is accepted, in terms of the parts that are given;
* `isWellFormed_of_checkRule`: what is accepted is well-formed;
* `checkRule_of_isWellFormed`: what is well-formed is accepted as it is;
* `issues_checkRule_eq_nil_iff`: a rule is accepted exactly if its check finds no issue.
-/

namespace RuleConsult

open Text

/-- A pair of tokens. -/
structure Pair.IsTokens (pair : Pair) : Prop where
  category : isToken pair.category = true
  value : isToken pair.value = true

/-- A rule that may stand in a base. -/
structure Rule.IsWellFormed (rule : Rule) : Prop where
  conditions_ne : rule.conditions ≠ []
  conditions : ∀ pair ∈ rule.conditions, pair.IsTokens
  conclusion : rule.conclusion.IsTokens
  /-- No category is required twice. -/
  nodup : rule.conditionCategories.Nodup
  /-- The rule does not require what it concludes. -/
  notMem : rule.conclusion.category ∉ rule.conditionCategories

/-! ## Conditions -/

variable {line id : Int}

theorem checkConditions_concat (line id : Int) (pairs : List Pair) (pair : Pair) :
    checkConditions line id (pairs ++ [pair]) =
      (checkConditions line id pairs).add line id pair := by
  simp [checkConditions]

/-- No category is required with two values. -/
def Unanimous (pairs : List Pair) : Prop :=
  ∀ a ∈ pairs, ∀ b ∈ pairs, a.category = b.category → a.value = b.value

/-- Two unanimous pairs of one category are the same. -/
theorem Unanimous.eq {pairs : List Pair} (h : Unanimous pairs) {a b : Pair} (ha : a ∈ pairs)
    (hb : b ∈ pairs) (hcategory : a.category = b.category) : a = b := by
  have hvalue := h a ha b hb hcategory
  cases a
  cases b
  cases hcategory
  cases hvalue
  rfl

/-- Of unanimous conditions each is accepted once, where it is first mentioned, without issues. -/
theorem checkConditions_of_unanimous (line id : Int) {pairs : List Pair} (h : Unanimous pairs) :
    (checkConditions line id pairs).accepted = pairs.eraseDups ∧
      (checkConditions line id pairs).issues = [] := by
  induction pairs using List.reverseRecOn with
  | nil => exact ⟨rfl, rfl⟩
  | append_singleton pairs pair ih =>
    have hlast : pair ∈ pairs ++ [pair] := List.mem_append_right _ List.mem_cons_self
    obtain ⟨haccepted, hissues⟩ := ih fun a ha b hb =>
      h a (List.mem_append_left _ ha) b (List.mem_append_left _ hb)
    rw [checkConditions_concat, ConditionCheck.add, eraseDups_concat, haccepted]
    split
    · rename_i hnone
      -- The category is new, so the pair is new as well.
      have hnew : pair ∉ pairs := fun hmem =>
        List.find?_eq_none.1 hnone pair (List.mem_eraseDups.2 hmem) (by simp)
      rw [if_neg hnew]
      exact ⟨rfl, hissues⟩
    · rename_i known hsome
      -- The category is known with the same value, so the pair is the known one.
      have hknown : known ∈ pairs := List.mem_eraseDups.1 (List.mem_of_find?_eq_some hsome)
      have hcategory : known.category = pair.category := by simpa using List.find?_some hsome
      have heq : known = pair := h.eq (List.mem_append_left _ hknown) hlast hcategory
      subst heq
      rw [if_pos hknown, if_pos (beq_self_eq_true _), List.append_nil]
      exact ⟨rfl, hissues⟩

/-- Conditions of which a category is required with two values give an issue. -/
theorem issues_checkConditions_eq_nil_iff {pairs : List Pair} :
    (checkConditions line id pairs).issues = [] ↔ Unanimous pairs := by
  refine ⟨fun h => ?_, fun h => (checkConditions_of_unanimous line id h).2⟩
  induction pairs using List.reverseRecOn with
  | nil => exact fun a ha => nomatch ha
  | append_singleton pairs pair ih =>
    rw [checkConditions_concat, ConditionCheck.add] at h
    -- In all cases there is no issue before the last condition.
    have hinit : (checkConditions line id pairs).issues = [] := by
      split at h
      · exact h
      · split at h
        · exact h
        · exact (List.append_eq_nil_iff.1 h).1
    have hpairs := ih hinit
    have hagree : ∀ a ∈ pairs, a.category = pair.category → a.value = pair.value := by
      intro a ha hcategory
      rw [(checkConditions_of_unanimous line id hpairs).1] at h
      split at h
      · rename_i hnone
        exact absurd (by simpa using hcategory)
          (List.find?_eq_none.1 hnone a (List.mem_eraseDups.2 ha))
      · rename_i known hsome
        have hknown : known ∈ pairs := List.mem_eraseDups.1 (List.mem_of_find?_eq_some hsome)
        have hsame : known.category = pair.category := by simpa using List.find?_some hsome
        split at h
        · rename_i hvalue
          rw [hpairs.eq ha hknown (hcategory.trans hsame.symm)]
          exact eq_of_beq hvalue
        · exact absurd (List.append_eq_nil_iff.1 h).2 (List.cons_ne_nil _ _)
    intro a ha b hb hcategory
    rcases List.mem_append.1 ha with ha | ha <;> rcases List.mem_append.1 hb with hb | hb
    · exact hpairs a ha b hb hcategory
    · rw [List.mem_singleton.1 hb] at hcategory ⊢
      exact hagree a ha hcategory
    · rw [List.mem_singleton.1 ha] at hcategory ⊢
      exact (hagree b hb hcategory.symm).symm
    · rw [List.mem_singleton.1 ha, List.mem_singleton.1 hb]

/-- Conditions of different categories are all accepted. -/
theorem checkConditions_of_nodup (line id : Int) {pairs : List Pair}
    (h : (pairs.map Pair.category).Nodup) : checkConditions line id pairs = ⟨pairs, [], []⟩ := by
  induction pairs using List.reverseRecOn with
  | nil => rfl
  | append_singleton pairs pair ih =>
    rw [nodup_map_concat] at h
    have hnone : pairs.find? (fun known => known.category == pair.category) = none := by
      rw [List.find?_eq_none]
      intro known hknown heq
      exact h.1 (List.mem_map.2 ⟨known, hknown, by simpa using heq⟩)
    rw [checkConditions_concat, ih h.2, ConditionCheck.add]
    simp only [hnone]

/-- Dropping repetitions drops no category. -/
theorem mem_categories_eraseDups {pairs : List Pair} {category : String} :
    category ∈ pairs.eraseDups.map Pair.category ↔ category ∈ pairs.map Pair.category := by
  simp only [List.mem_map, List.mem_eraseDups]

/-- Of unanimous conditions no two different ones share a category. -/
theorem Unanimous.nodup_categories {pairs : List Pair} (h : Unanimous pairs) :
    (pairs.eraseDups.map Pair.category).Nodup := by
  induction pairs using List.reverseRecOn with
  | nil => exact List.nodup_nil
  | append_singleton pairs pair ih =>
    have hinit := ih fun a ha b hb => h a (List.mem_append_left _ ha) b (List.mem_append_left _ hb)
    rw [eraseDups_concat]
    split
    · rwa [List.append_nil]
    · rename_i hnew
      refine nodup_map_concat.2 ⟨fun hmem => ?_, hinit⟩
      obtain ⟨known, hknown, hcategory⟩ := List.mem_map.1 (mem_categories_eraseDups.1 hmem)
      have heq : known = pair := h.eq (List.mem_append_left _ hknown)
        (List.mem_append_right _ List.mem_cons_self) hcategory
      exact hnew (heq ▸ hknown)

/-- No condition has the category exactly if that is none of their categories. -/
theorem any_category_eq_false_iff {pairs : List Pair} {category : String} :
    (pairs.any fun pair => pair.category == category) = false ↔
      category ∉ pairs.map Pair.category := by
  simp [List.any_eq_false]

/-! ## Rules -/

theorem badTokens_eq_nil_iff {pairs : List Pair} :
    badTokens pairs = [] ↔ ∀ pair ∈ pairs, pair.IsTokens := by
  simp only [badTokens, List.filter_eq_nil_iff, List.mem_flatMap, List.mem_cons,
    List.not_mem_nil, or_false, Bool.not_eq_true', Bool.not_eq_false]
  constructor
  · intro h pair hpair
    exact ⟨h _ ⟨pair, hpair, Or.inl rfl⟩, h _ ⟨pair, hpair, Or.inr rfl⟩⟩
  · rintro h token ⟨pair, hpair, rfl | rfl⟩
    · exact (h pair hpair).category
    · exact (h pair hpair).value

/-- The check of a rule with number and conclusion, conditions and good tokens. -/
theorem checkRule_of_tokens (line id : Int) {conditions : List Pair} {conclusion : Pair}
    (hne : conditions ≠ []) (htokens : ∀ pair ∈ conditions ++ [conclusion], pair.IsTokens) :
    ∃ issues, (issues = (checkConditions line id conditions).issues ++
        if (checkConditions line id conditions).accepted.any
            fun pair => pair.category == conclusion.category then
          [⟨.selfReference id conclusion.category, line⟩]
        else []) ∧
      checkRule line (some id) conditions (some conclusion) =
        ⟨if issues.isEmpty then
            some ⟨id, (checkConditions line id conditions).accepted, conclusion, some line⟩
          else none, issues, (checkConditions line id conditions).notices⟩ := by
  cases conditions with
  | nil => exact absurd rfl hne
  | cons first others =>
    have hbad : badTokens (first :: others ++ [conclusion]) = [] := badTokens_eq_nil_iff.2 htokens
    refine ⟨_, rfl, ?_⟩
    simp only [checkRule, hbad, List.isEmpty_nil, if_true]

/-- What is not rejected outright has a number, a conclusion, conditions, and good tokens. -/
theorem checkRule_eq_reject_or (line : Int) (id? : Option Int) (conditions : List Pair)
    (conclusion? : Option Pair) :
    (∃ issues, issues ≠ [] ∧ checkRule line id? conditions conclusion? = .reject issues) ∨
      ∃ id conclusion, id? = some id ∧ conclusion? = some conclusion ∧ conditions ≠ [] ∧
        ∀ pair ∈ conditions ++ [conclusion], pair.IsTokens := by
  unfold checkRule
  split
  · rename_i id conclusion first others
    cases hbad : badTokens (first :: others ++ [conclusion]) with
    | nil =>
      exact Or.inr ⟨id, conclusion, rfl, rfl, List.cons_ne_nil _ _, badTokens_eq_nil_iff.1 hbad⟩
    | cons token tokens =>
      exact Or.inl ⟨_, by simp, rfl⟩
  · exact Or.inl ⟨_, List.cons_ne_nil _ _, rfl⟩

/-- A rule is accepted exactly if its check finds no issue. -/
theorem issues_checkRule_eq_nil_iff {id? : Option Int} {conditions : List Pair}
    {conclusion? : Option Pair} :
    (checkRule line id? conditions conclusion?).issues = [] ↔
      ∃ rule, (checkRule line id? conditions conclusion?).rule? = some rule := by
  rcases checkRule_eq_reject_or line id? conditions conclusion? with
    ⟨issues, hne, hreject⟩ | ⟨id, conclusion, rfl, rfl, hne, htokens⟩
  · rw [hreject]
    simp [RuleCheck.reject, hne]
  · obtain ⟨issues, -, hcheck⟩ := checkRule_of_tokens line id hne htokens
    rw [hcheck]
    cases issues with
    | nil => exact ⟨fun _ => ⟨_, rfl⟩, fun _ => rfl⟩
    | cons issue issues => simp

/-- Conditions and a conclusion that make up a rule. -/
structure PartsFit (conditions : List Pair) (conclusion : Pair) : Prop where
  conditions_ne : conditions ≠ []
  tokens : ∀ pair ∈ conditions ++ [conclusion], pair.IsTokens
  unanimous : Unanimous conditions
  /-- The conclusion is about none of the categories required. -/
  apart : conclusion.category ∉ conditions.map Pair.category

/-- A rule is accepted exactly if it has a number and a conclusion and its parts fit; repeated
conditions are collapsed to their first mention. -/
theorem rule?_checkRule_eq_some_iff {id? : Option Int} {conditions : List Pair}
    {conclusion? : Option Pair} {rule : Rule} :
    (checkRule line id? conditions conclusion?).rule? = some rule ↔
      ∃ id conclusion, id? = some id ∧ conclusion? = some conclusion ∧
        PartsFit conditions conclusion ∧
          rule = ⟨id, conditions.eraseDups, conclusion, some line⟩ := by
  constructor
  · intro h
    rcases checkRule_eq_reject_or line id? conditions conclusion? with
      ⟨issues, -, hreject⟩ | ⟨id, conclusion, rfl, rfl, hne, htokens⟩
    · rw [hreject] at h
      exact nomatch h
    · obtain ⟨issues, hissues, hcheck⟩ := checkRule_of_tokens line id hne htokens
      rw [hcheck] at h
      obtain ⟨hnil, hrule⟩ := Option.ite_none_right_eq_some.1 h
      cases hrule
      rw [List.isEmpty_iff.1 hnil, eq_comm, List.append_eq_nil_iff] at hissues
      have hunanimous := issues_checkConditions_eq_nil_iff.1 hissues.1
      obtain ⟨haccepted, -⟩ := checkConditions_of_unanimous line id hunanimous
      rw [haccepted] at hissues
      -- A condition of the category concluded would have been an issue.
      have hany : (conditions.eraseDups.any fun pair =>
          pair.category == conclusion.category) = false := by
        simpa only [ite_eq_right_iff, List.cons_ne_nil, imp_false, Bool.not_eq_true] using hissues.2
      rw [any_category_eq_false_iff, mem_categories_eraseDups] at hany
      exact ⟨id, conclusion, rfl, rfl, ⟨hne, htokens, hunanimous, hany⟩, by rw [haccepted]⟩
  · rintro ⟨id, conclusion, rfl, rfl, hfit, rfl⟩
    obtain ⟨issues, hissues, hcheck⟩ := checkRule_of_tokens line id hfit.conditions_ne hfit.tokens
    obtain ⟨haccepted, hnone⟩ := checkConditions_of_unanimous line id hfit.unanimous
    have hany : ((checkConditions line id conditions).accepted.any
        fun pair => pair.category == conclusion.category) = false := by
      rw [haccepted, any_category_eq_false_iff, mem_categories_eraseDups]
      exact hfit.apart
    rw [hnone, hany] at hissues
    rw [hcheck, hissues, haccepted]
    rfl

/-- What is accepted is well-formed, with the number, the conclusion and the line that are given. -/
theorem isWellFormed_of_checkRule {id? : Option Int} {conditions : List Pair}
    {conclusion? : Option Pair} {rule : Rule}
    (h : (checkRule line id? conditions conclusion?).rule? = some rule) :
    rule.IsWellFormed ∧ id? = some rule.id ∧ conclusion? = some rule.conclusion ∧
      rule.line = some line := by
  obtain ⟨id, conclusion, rfl, rfl, hfit, rfl⟩ := rule?_checkRule_eq_some_iff.1 h
  obtain ⟨pair, hpair⟩ := List.exists_mem_of_ne_nil _ hfit.conditions_ne
  refine ⟨?_, rfl, rfl, rfl⟩
  exact {
    conditions_ne := List.ne_nil_of_mem (List.mem_eraseDups.2 hpair)
    conditions := fun pair hpair =>
      hfit.tokens pair (List.mem_append_left _ (List.mem_eraseDups.1 hpair))
    conclusion := hfit.tokens conclusion (List.mem_append_right _ List.mem_cons_self)
    nodup := hfit.unanimous.nodup_categories
    notMem := fun hmem => hfit.apart (mem_categories_eraseDups.1 hmem) }

/-- What is well-formed is accepted as it is. -/
theorem checkRule_of_isWellFormed (line : Int) {rule : Rule} (h : rule.IsWellFormed) :
    checkRule line (some rule.id) rule.conditions (some rule.conclusion) =
      ⟨some { rule with line := some line }, [], []⟩ := by
  have htokens : ∀ pair ∈ rule.conditions ++ [rule.conclusion], pair.IsTokens := by
    intro pair hpair
    rcases List.mem_append.1 hpair with hpair | hpair
    · exact h.conditions pair hpair
    · exact (List.mem_singleton.1 hpair) ▸ h.conclusion
  have hself : (rule.conditions.any fun pair =>
      pair.category == rule.conclusion.category) = false :=
    any_category_eq_false_iff.2 h.notMem
  obtain ⟨issues, hissues, hcheck⟩ := checkRule_of_tokens line rule.id h.conditions_ne htokens
  rw [checkConditions_of_nodup line rule.id h.nodup] at hissues hcheck
  simp only [hself, Bool.false_eq_true, if_false, List.append_nil] at hissues
  rw [hcheck, hissues]
  rfl

end RuleConsult
