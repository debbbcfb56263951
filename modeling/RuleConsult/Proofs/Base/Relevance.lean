import RuleConsult.Proofs.Base.Reach
import Mathlib.Data.List.Permutation
import Mathlib.Order.Bounds.Defs

/-!
# Relevant rules are those reached backwards

For every base, with rules in cycles or several of one number, the numbers of the relevant rules are
the least that contain those of the rules which conclude the target, and with a rule that concludes
the target or something the target depends on, those of the rules which conclude one of its
conditions.

The walk that finds them ends although categories become pending again and again. What is left to do
is measured by the pending categories together with the conditions of the rules whose conclusions
were not visited: a category that is visited moves the conditions of its rules from the second to
the first, and every round takes one category away.

* `Base.work_round`: a round leaves one less to do;
* `Base.rounds_le`: the number of rounds of a walk;
* `relevantRules_isLeast`: relevance and the walk that decides it.
-/

namespace RuleConsult

open Relation

/-- How many conditions rules have in all. -/
def conditionCount (rules : List Rule) : Nat :=
  (rules.flatMap Rule.conditionCategories).length

/-- The conditions of rules are those of the rules with a property and of the others. -/
theorem conditionCount_filter_add (p : Rule → Bool) (rules : List Rule) :
    conditionCount (rules.filter p) + conditionCount (rules.filter fun rule => !p rule) =
      conditionCount rules := by
  simp only [conditionCount]
  rw [← List.length_append, ← List.flatMap_append]
  exact ((List.filter_append_perm p rules).flatMap_right _).length_eq

namespace Base

variable {base : Base} {target category : String}

/-! ## The least relevant numbers -/

/-- A rule that concludes the first category is conditioned on the second. -/
def Depends (base : Base) (category other : String) : Prop :=
  ∃ rule ∈ base.rules, rule.conclusion.category = category ∧ other ∈ rule.conditionCategories

/-- Numbers among which are those of the rules that conclude the target, and of the rules that
conclude a condition of a rule whose own conclusion is the target or something it depends on. -/
structure Covers (base : Base) (target : String) (ids : Set Int) : Prop where
  concluding : ∀ rule ∈ base.rules, rule.conclusion.category = target → rule.id ∈ ids
  conditions : ∀ rule ∈ base.rules, ReflTransGen base.Depends target rule.conclusion.category →
    ∀ category ∈ rule.conditionCategories, ∀ other ∈ base.rules,
      other.conclusion.category = category → other.id ∈ ids

/-- What is reached is the target and all that it depends on. -/
theorem mem_reach_iff_depends :
    category ∈ base.index.reach target ↔ ReflTransGen base.Depends target category := by
  have hsame : base.index.Requires = base.Depends := by
    funext a b
    exact propext requires_iff
  rw [Index.mem_reach_iff, hsame]

/-- The relevant rules are those whose conclusion is reached from the target. -/
theorem mem_relevantRules {id : Int} : id ∈ base.relevantRules target ↔
    ∃ rule ∈ base.rules, rule.conclusion.category ∈ base.index.reach target ∧ rule.id = id := by
  simp only [relevantRules, List.mem_eraseDups, List.mem_map, List.mem_filter,
    List.contains_iff_mem, and_assoc]

/-- The relevant rules cover all that may contribute to the target. -/
theorem covers_relevantRules (base : Base) (target : String) :
    base.Covers target {id | id ∈ base.relevantRules target} where
  concluding := by
    rintro rule hrule rfl
    exact mem_relevantRules_of_mem_reach hrule (Index.mem_reach_self _ _)
  conditions := by
    rintro rule hrule hreach category hcategory other hother rfl
    refine mem_relevantRules_of_mem_reach hother ?_
    exact condition_mem_reach hrule (mem_reach_iff_depends.2 hreach) hcategory

/-- Whatever covers all that may contribute to the target has the relevant rules. -/
theorem Covers.relevantRules_subset {ids : Set Int} (h : base.Covers target ids) :
    {id | id ∈ base.relevantRules target} ⊆ ids := by
  intro id hid
  obtain ⟨rule, hrule, hreached, rfl⟩ := mem_relevantRules.1 hid
  -- The conclusion is the target, or some rule before it on the way is conditioned on it.
  rcases (mem_reach_iff_depends.1 hreached).cases_tail with htarget | ⟨category, hreach, hstep⟩
  · exact h.concluding rule hrule htarget
  · obtain ⟨earlier, hearlier, rfl, hcondition⟩ := hstep
    exact h.conditions earlier hearlier hreach _ hcondition rule hrule rfl

/-! ## The rounds of a walk -/

/-- What is left to do on a walk: the pending categories, and the conditions of the rules whose
conclusions were not visited. -/
def work (base : Base) (walk : Index.Walk) : Nat :=
  walk.pending.length +
    conditionCount (base.rules.filter fun rule => !walk.visited.contains rule.conclusion.category)

/-- The index requires one category for each condition of a rule that concludes it. -/
theorem length_requiredFor (base : Base) (category : String) :
    (base.index.requiredFor category).length =
      conditionCount (base.rules.filter fun rule => rule.conclusion.category = category) := by
  rw [Index.requiredFor, base.index_eq, Index.rulesConcluding_ofRules, conditionCount]

/-- A category that is visited for the first time makes the conditions of its rules pending. -/
theorem conditionCount_of_notMem {visited : List String} (h : category ∉ visited) :
    (base.index.requiredFor category).length + conditionCount (base.rules.filter fun rule =>
        !(category :: visited).contains rule.conclusion.category) =
      conditionCount (base.rules.filter fun rule =>
        !visited.contains rule.conclusion.category) := by
  rw [length_requiredFor,
    ← conditionCount_filter_add (fun rule => rule.conclusion.category = category)
      (base.rules.filter fun rule => !visited.contains rule.conclusion.category),
    List.filter_filter, List.filter_filter]
  congr 3
  · funext rule
    by_cases heq : rule.conclusion.category = category <;> simp [heq, h]
  · funext rule
    by_cases heq : rule.conclusion.category = category <;> simp [heq]

/-- A round leaves one less to do. -/
theorem work_round {walk next : Index.Walk} (h : base.index.Round walk next) :
    base.work walk = base.work next + 1 := by
  cases h with
  | seen taken known =>
    simp only [work, taken.length_eq, List.length_cons]
    omega
  | new taken fresh =>
    simp only [work, taken.length_eq, List.length_cons, List.length_append,
      ← conditionCount_of_notMem fresh]
    omega

/-- Each round of the walk does one unit of the work ahead of it. -/
theorem work_rounds {walk last : Index.Walk} {rounds : Nat}
    (h : base.index.Rounds walk rounds last) : base.work walk = base.work last + rounds := by
  induction h with
  | none => rfl
  | more first _ ih =>
    rw [work_round first, ih]
    omega

/-- A walk from a target has at most one round for the target and one for each condition. -/
theorem rounds_le {walk : Index.Walk} {rounds : Nat}
    (h : base.index.Rounds ⟨[target], []⟩ rounds walk) :
    rounds ≤ 1 + conditionCount base.rules := by
  have hwork := work_rounds h
  have hstart : base.work ⟨[target], []⟩ = 1 + conditionCount base.rules := by
    simp [work]
  omega

end Base

/-- The numbers of the relevant rules are the least that cover all that may contribute to the
target. The walk that decides it comes to an end; and in whatever order a walk takes the pending
categories, it has at most one round for the target and one for each condition, and where nothing is
pending it has visited the same categories. -/
theorem relevantRules_isLeast (base : Base) (target : String) :
    IsLeast {ids | base.Covers target ids} {id | id ∈ base.relevantRules target} ∧
      (∃ rounds, base.index.Rounds ⟨[target], []⟩ rounds ⟨[], base.index.reach target⟩) ∧
      ∀ rounds walk, base.index.Rounds ⟨[target], []⟩ rounds walk →
        rounds ≤ 1 + conditionCount base.rules ∧
          (walk.pending = [] → ∀ category,
            category ∈ walk.visited ↔ category ∈ base.index.reach target) := by
  refine ⟨⟨base.covers_relevantRules target, fun ids h => h.relevantRules_subset⟩,
    base.index.rounds_follow [target] [], fun rounds walk hrounds => ⟨Base.rounds_le hrounds, ?_⟩⟩
  intro hdone category
  rw [((Index.Tracks.start base.index target).rounds hrounds).mem_visited_iff hdone,
    Index.mem_reach_iff]

/-- Two rules of one number, each of which concludes what the other requires, and a rule that
nothing requires. -/
def ringBase : Base :=
  .ofParts [⟨1, [⟨"a", "x"⟩], ⟨"b", "y"⟩, none⟩, ⟨1, [⟨"b", "y"⟩], ⟨"a", "z"⟩, none⟩,
    ⟨2, [⟨"a", "z"⟩], ⟨"c", "u"⟩, none⟩] [] [] []

theorem rules_ringBase : ringBase.rules = [⟨1, [⟨"a", "x"⟩], ⟨"b", "y"⟩, none⟩,
    ⟨1, [⟨"b", "y"⟩], ⟨"a", "z"⟩, none⟩, ⟨2, [⟨"a", "z"⟩], ⟨"c", "u"⟩, none⟩] := by
  cbv

/-- The walk visits two categories, and the second one leads back to the first. -/
theorem rounds_ringBase : ringBase.index.Rounds ⟨["a"], []⟩ 3 ⟨[], ["b", "a"]⟩ := by
  have ha : ringBase.index.requiredFor "a" ++ [] = ["b"] := by cbv
  have hb : ringBase.index.requiredFor "b" ++ [] = ["a"] := by cbv
  refine .more (.new (.refl ["a"]) (by decide)) ?_
  rw [ha]
  refine .more (.new (.refl ["b"]) (by decide)) ?_
  rw [hb]
  exact .more (.seen (.refl ["a"]) (by decide)) (.none _)

theorem covers_ringBase : ringBase.Covers "a" {id | id = 1} where
  concluding := by
    rw [rules_ringBase]
    decide
  conditions rule hrule _ := by
    have hall : ∀ rule ∈ ringBase.rules, ∀ category ∈ rule.conditionCategories,
        ∀ other ∈ ringBase.rules, other.conclusion.category = category → other.id = 1 := by
      rw [rules_ringBase]
      decide
    exact hall rule hrule

theorem relevantRules_isLeast_ringBase :
    {id | id ∈ ringBase.relevantRules "a"} ⊆ {id | id = 1} ∧
      3 ≤ 1 + conditionCount ringBase.rules ∧ "b" ∈ ringBase.index.reach "a" := by
  obtain ⟨⟨-, hleast⟩, -, hwalks⟩ := relevantRules_isLeast ringBase "a"
  obtain ⟨hlength, hvisited⟩ := hwalks 3 _ rounds_ringBase
  exact ⟨hleast covers_ringBase, hlength, (hvisited rfl "b").1 (by decide)⟩

end RuleConsult
