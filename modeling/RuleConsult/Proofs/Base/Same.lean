import RuleConsult.Proofs.Base.Reach
import Mathlib.Data.List.Perm.Subperm

/-!
# Equal bases

Two bases are equal if they hold the same rules and the same bindings, on whatever lines these were
written and in whatever order the bindings were declared. The index of a base is made of its rules
as they stand, and bindings are looked up in their order. Still, what a base is asked for does not
depend on lines or on the order of bindings: equal bases give the same answers.

* `Base.same_iff`: equality is that of the lists of rules, and that of the lists of bindings up to
  their order, once the lines are left out;
* `Base.answersAlike_of_same`: equal bases agree on categories, values, relevant rules and texts.
-/

namespace RuleConsult

/-! ## Leaving out lines -/

/-- The rule without the line on which it was written. -/
def Rule.bare (rule : Rule) : Rule := { rule with line := none }

/-- The binding without the line on which it was written. -/
def Binding.bare (binding : Binding) : Binding := { binding with line := none }

/-- Rules are the same if they are equal without their lines. -/
theorem Rule.same_iff {a b : Rule} : a.same b = true ↔ a.bare = b.bare := by
  simp [Rule.same, Rule.bare, and_assoc]

/-- Bindings are the same if they are equal without their lines. -/
theorem Binding.same_iff {a b : Binding} : a.same b = true ↔ a.bare = b.bare := by
  simp [Binding.same, Binding.bare, and_assoc]

/-- Lists of rules are compared one by one, in order. -/
theorem Base.sameRules_iff {as bs : List Rule} :
    Base.sameRules as bs = true ↔ as.map Rule.bare = bs.map Rule.bare := by
  induction as generalizing bs with
  | nil => cases bs <;> simp [Base.sameRules]
  | cons a as ih =>
    cases bs with
    | nil => simp [Base.sameRules]
    | cons b bs => simp [Base.sameRules, Rule.same_iff, ih]

/-! ### Searching rules

What does not look at the line of a rule finds the same in rules from which the lines are left
out. -/

section

variable {p : Rule → Bool} (hp : ∀ rule, p rule.bare = p rule) (rules : List Rule)
include hp

/-- The rules that are found, in order. -/
theorem filter_bare : (rules.map Rule.bare).filter p = (rules.filter p).map Rule.bare := by
  rw [List.filter_map, show p ∘ Rule.bare = p from funext hp]

/-- The first rule that is found. -/
theorem find?_bare : (rules.map Rule.bare).find? p = (rules.find? p).map Rule.bare := by
  rw [List.find?_map, show p ∘ Rule.bare = p from funext hp]

/-- Whether any rule is found. -/
theorem any_bare : (rules.map Rule.bare).any p = rules.any p := by
  rw [List.any_map, show p ∘ Rule.bare = p from funext hp]

end

/-- The first thing that is found in a rule. -/
theorem findSome?_bare {α : Type} {f : Rule → Option α} (hf : ∀ rule, f rule.bare = f rule)
    (rules : List Rule) : (rules.map Rule.bare).findSome? f = rules.findSome? f := by
  rw [List.findSome?_map, show f ∘ Rule.bare = f from funext hf]

/-! ## Tables of bindings -/

namespace BindingTable

variable {s t : BindingTable}

/-- A binding is found under its own category, if it is there. -/
theorem get?_eq_some_iff {category : String} {binding : Binding} :
    s.table.get? category = some binding ↔ binding ∈ s.toList ∧ binding.category = category := by
  rw [Table.get?_eq_some_iff, s.entries_eq, List.mem_map]
  constructor
  · rintro ⟨found, hfound, heq⟩
    cases heq
    exact ⟨hfound, rfl⟩
  · rintro ⟨hmem, rfl⟩
    exact ⟨binding, hmem, rfl⟩

/-- Found under a category, up to its line, is the binding of that category. -/
theorem map_bare_get?_eq_some_iff {category : String} {binding : Binding} :
    (s.table.get? category).map Binding.bare = some binding ↔
      binding ∈ s.toList.map Binding.bare ∧ binding.category = category := by
  simp only [Option.map_eq_some_iff, get?_eq_some_iff, List.mem_map]
  constructor
  · rintro ⟨found, ⟨hfound, hcategory⟩, rfl⟩
    exact ⟨⟨found, hfound, rfl⟩, hcategory⟩
  · rintro ⟨⟨found, hfound, rfl⟩, hcategory⟩
    exact ⟨found, ⟨hfound, hcategory⟩, rfl⟩

theorem length_toList (s : BindingTable) : s.toList.length = s.table.size := by
  simp [toList, Table.values, Table.size]

/-- Without lines there are no two equal bindings, as no two have the same category. -/
theorem nodup_map_bare (s : BindingTable) : (s.toList.map Binding.bare).Nodup := by
  have hcategories : ((s.toList.map Binding.bare).map Binding.category).Nodup := by
    rw [List.map_map]
    exact s.nodup_categories
  exact hcategories.of_map

/-- Equal tables hold the same bindings, in whatever order. -/
theorem same_iff :
    s.same t = true ↔ (s.toList.map Binding.bare).Perm (t.toList.map Binding.bare) := by
  rw [same, Table.sameMap, Bool.and_eq_true, beq_iff_eq, List.all_eq_true]
  constructor
  · rintro ⟨hsize, hall⟩
    -- Equally many bindings, without repetition, each of which the other table holds.
    have hsubset : s.toList.map Binding.bare ⊆ t.toList.map Binding.bare := by
      intro binding hbinding
      obtain ⟨a, ha, rfl⟩ := List.mem_map.1 hbinding
      have hfound := hall (a.category, a) (s.entries_eq ▸ List.mem_map_of_mem ha)
      split at hfound
      · rename_i b hb
        rw [Binding.same_iff.1 hfound]
        exact List.mem_map_of_mem (get?_eq_some_iff.1 hb).1
      · cases hfound
    refine (List.subperm_of_subset s.nodup_map_bare hsubset).perm_of_length_le ?_
    rw [List.length_map, List.length_map, length_toList, length_toList, hsize]
  · intro hperm
    -- The binding of a category is found by its category, wherever it stands.
    refine ⟨?_, fun entry hentry => ?_⟩
    · simpa [length_toList] using hperm.length_eq
    · rw [s.entries_eq] at hentry
      obtain ⟨a, ha, rfl⟩ := List.mem_map.1 hentry
      obtain ⟨b, hb, hbare⟩ := List.mem_map.1 (hperm.subset (List.mem_map_of_mem ha))
      have hcategory : b.bare.category = a.bare.category := by rw [hbare]
      have hfound : t.table.get? a.category = some b := get?_eq_some_iff.2 ⟨hb, hcategory⟩
      simp only [hfound]
      exact Binding.same_iff.2 hbare.symm

/-- Under every category the same binding is found, up to its line. -/
theorem map_bare_get?_of_same (h : s.same t = true) (category : String) :
    (s.table.get? category).map Binding.bare = (t.table.get? category).map Binding.bare := by
  -- Membership does not depend on the order, nor does what is found.
  ext binding
  rw [map_bare_get?_eq_some_iff, map_bare_get?_eq_some_iff, (same_iff.1 h).mem_iff]

/-- The same bindings give the same texts. -/
theorem text?_of_same (h : s.same t = true) (category : String) :
    s.text? category = t.text? category := by
  have hget := congrArg (Option.map Binding.text) (map_bare_get?_of_same h category)
  rwa [Option.map_map, Option.map_map] at hget

/-- The same bindings are about the same categories. -/
theorem contains_of_same (h : s.same t = true) (category : String) :
    s.contains category = t.contains category := by
  have hget := congrArg Option.isSome (map_bare_get?_of_same h category)
  rwa [Option.isSome_map, Option.isSome_map, ← Table.contains_eq_isSome,
    ← Table.contains_eq_isSome] at hget

end BindingTable

/-! ## Equality of bases -/

namespace Base

variable {a b : Base}

/-- Bases are the same if rules are the same in order, and bindings of each kind in any order. -/
theorem same_iff : a.same b = true ↔
    a.rules.map Rule.bare = b.rules.map Rule.bare ∧
      ∀ kind, ((a.bindings kind).toList.map Binding.bare).Perm
        ((b.bindings kind).toList.map Binding.bare) := by
  simp only [same, Bool.and_eq_true, sameRules_iff, BindingTable.same_iff]
  constructor
  · rintro ⟨⟨⟨hrules, hadvice⟩, htranslations⟩, htips⟩
    refine ⟨hrules, fun kind => ?_⟩
    cases kind with
    | advice => exact hadvice
    | translation => exact htranslations
    | tip => exact htips
  · rintro ⟨hrules, hbindings⟩
    exact ⟨⟨⟨hrules, hbindings .advice⟩, hbindings .translation⟩, hbindings .tip⟩

/-- The rules of bases that are the same. -/
theorem rules_of_same (h : a.same b = true) : a.rules.map Rule.bare = b.rules.map Rule.bare :=
  (same_iff.1 h).1

/-- The bindings of bases that are the same. -/
theorem bindings_of_same (h : a.same b = true) (kind : BindingKind) :
    (a.bindings kind).same (b.bindings kind) = true :=
  BindingTable.same_iff.2 ((same_iff.1 h).2 kind)

theorem length_rules_of_same (h : a.same b = true) : a.rules.length = b.rules.length := by
  simpa using congrArg List.length (rules_of_same h)

/-- Two bases with the same rules and bindings in the same order, whatever their lines. -/
structure SameParts (a b : Base) : Prop where
  rules : a.rules.map Rule.bare = b.rules.map Rule.bare
  bindings : ∀ kind,
    (a.bindings kind).toList.map Binding.bare = (b.bindings kind).toList.map Binding.bare

/-- Bases that are made of the same parts are the same. -/
theorem SameParts.same (h : a.SameParts b) : a.same b = true :=
  same_iff.2 ⟨h.rules, fun kind => .of_eq (h.bindings kind)⟩

end Base

/-! ## Indexes do not depend on lines -/

namespace Index

/-- Lines play no part in what rules mention. -/
theorem mentioned_bare (rules : List Rule) : mentioned (rules.map Rule.bare) = mentioned rules := by
  rw [mentioned, List.flatMap_map]
  rfl

/-- Lines play no part in the categories of rules. -/
theorem categories_bare (rules : List Rule) :
    (ofRules (rules.map Rule.bare)).categories = (ofRules rules).categories := by
  rw [categories_ofRules, categories_ofRules, mentioned_bare]

/-- Lines play no part in the values of a category. -/
theorem valuesOf_bare (category : String) (rules : List Rule) :
    (ofRules (rules.map Rule.bare)).valuesOf category = (ofRules rules).valuesOf category := by
  rw [valuesOf_ofRules, valuesOf_ofRules, mentioned_bare]

/-- Lines play no part in which categories are concluded only. -/
theorem goalCategories_bare (rules : List Rule) :
    (ofRules (rules.map Rule.bare)).goalCategories = (ofRules rules).goalCategories := by
  -- Conditions and conclusions are the same, so their categories are.
  rw [goalCategories_ofRules, goalCategories_ofRules, List.map_map, List.flatMap_map]
  rfl

/-- Lines play no part in what a category is concluded from. -/
theorem requiredFor_bare (category : String) (rules : List Rule) :
    (ofRules (rules.map Rule.bare)).requiredFor category =
      (ofRules rules).requiredFor category := by
  rw [requiredFor, requiredFor, rulesConcluding_ofRules, rulesConcluding_ofRules,
    filter_bare (fun _ => rfl), List.flatMap_map]
  rfl

/-- Lines play no part in which rules are relevant for a target. -/
theorem reach_bare (target : String) (rules : List Rule) :
    (ofRules (rules.map Rule.bare)).reach target = (ofRules rules).reach target :=
  follow_congr (fun category => requiredFor_bare category rules) [target] []

end Index

/-! ## Equal bases answer alike -/

namespace Base

/-- Two bases that give the same answers about categories, values, relevant rules and texts. -/
structure AnswersAlike (a b : Base) : Prop where
  categories : a.categories = b.categories
  valuesFor : ∀ category, a.valuesFor category = b.valuesFor category
  goalCategories : a.goalCategories = b.goalCategories
  relevantRules : ∀ target, a.relevantRules target = b.relevantRules target
  question : ∀ category, a.question? category = b.question? category
  translation : ∀ category, a.translation? category = b.translation? category
  tip : ∀ category, a.tip? category = b.tip? category
  label : ∀ category, a.label category = b.label category

variable {a b : Base}

/-- The walk to the relevant rules goes over rules whose lines do not matter. -/
theorem relevantRules_of_same (h : a.same b = true) (target : String) :
    a.relevantRules target = b.relevantRules target := by
  -- The two indexes differ, but not once the lines are left out of the rules they are made of.
  have hreach : a.index.reach target = b.index.reach target := by
    rw [a.index_eq, b.index_eq, ← Index.reach_bare, rules_of_same h, Index.reach_bare]
  have hids : ∀ rules : List Rule, (rules.map Rule.bare).map Rule.id = rules.map Rule.id := by
    intro rules
    rw [List.map_map]
    rfl
  simp only [relevantRules, hreach]
  rw [← hids, ← filter_bare (fun _ => rfl), rules_of_same h, filter_bare (fun _ => rfl), hids]

/-- Equal bases answer alike. -/
theorem answersAlike_of_same (h : a.same b = true) : a.AnswersAlike b := by
  have hrules := rules_of_same h
  have htranslation : ∀ category, a.translation? category = b.translation? category :=
    BindingTable.text?_of_same (bindings_of_same h .translation)
  -- Each index is that of the rules without their lines, which are the same.
  constructor
  case categories =>
    rw [categories, categories, a.index_eq, b.index_eq, ← Index.categories_bare, hrules,
      Index.categories_bare]
  case valuesFor =>
    intro category
    rw [valuesFor, valuesFor, a.index_eq, b.index_eq, ← Index.valuesOf_bare, hrules,
      Index.valuesOf_bare]
  case goalCategories =>
    rw [goalCategories, goalCategories, a.index_eq, b.index_eq, ← Index.goalCategories_bare, hrules,
      Index.goalCategories_bare]
  case relevantRules => exact relevantRules_of_same h
  case question => exact BindingTable.text?_of_same (bindings_of_same h .advice)
  case translation => exact htranslation
  case tip => exact BindingTable.text?_of_same (bindings_of_same h .tip)
  case label =>
    intro category
    rw [label, label, htranslation category]

end Base

end RuleConsult
