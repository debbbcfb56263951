import RuleConsult.Proofs.Base.Built
import RuleConsult.Proofs.Base.Index
import Mathlib.Logic.Relation

/-!
# What may contribute to a target

The categories from which a target can be concluded are those that are reached from it backwards
over the conditions of rules, and the walk of `Index.reach` finds just these. It would in whatever
order the pending categories are taken: every round keeps what has been found (`Index.Tracks`), and
that decides what was visited once nothing is pending. In a sound base a rule is relevant to a
target exactly if it concludes a category that is reached.

* `Index.Tracks.rounds`: what every round of a walk preserves;
* `Index.mem_reach_iff`: the walk finds the reflexive and transitive closure;
* `Base.mem_relevantRules_iff`: relevant rules are those that conclude a reached category;
* `Base.condition_mem_reach`: a relevant rule is conditioned on reached categories only.
-/

namespace RuleConsult

open Relation

namespace Index

variable {index : Index} {target category other : String}

/-- One step backwards: a rule that concludes the first category is conditioned on the second. -/
def Requires (index : Index) (category other : String) : Prop :=
  other ∈ index.requiredFor category

theorem follow_nil (visited : List String) : index.follow [] visited = visited := by
  rw [follow]

/-- A category that was visited is passed over. -/
theorem follow_of_mem {rest visited : List String} (h : category ∈ visited) :
    index.follow (category :: rest) visited = index.follow rest visited := by
  rw [follow, if_pos h]

/-- Another one is visited, and what it requires is to be visited first. -/
theorem follow_of_notMem {rest visited : List String} (h : category ∉ visited) :
    index.follow (category :: rest) visited =
      index.follow (index.requiredFor category ++ rest) (category :: visited) := by
  rw [follow, if_neg h]

/-- Induction along the walk: nothing is pending, or a category that was visited, or a new one. -/
@[elab_as_elim]
theorem follow_induction (index : Index) {motive : List String → List String → Prop}
    (done : ∀ visited, motive [] visited)
    (seen : ∀ category rest visited, category ∈ visited → motive rest visited →
      motive (category :: rest) visited)
    (new : ∀ category rest visited, category ∉ visited →
      motive (index.requiredFor category ++ rest) (category :: visited) →
      motive (category :: rest) visited)
    (pending visited : List String) : motive pending visited :=
  follow.induct index motive done
    (fun visited category rest hmem ih => seen category rest visited hmem ih)
    (fun visited category rest hnew ih => new category rest visited hnew ih) pending visited

/-- The walk depends on what each category requires, and on nothing else. -/
theorem follow_congr {index index' : Index}
    (h : ∀ category, index.requiredFor category = index'.requiredFor category)
    (pending visited : List String) :
    index.follow pending visited = index'.follow pending visited := by
  induction pending, visited using follow_induction index with
  | done visited => rw [follow_nil, follow_nil]
  | seen category rest visited hmem ih => rw [follow_of_mem hmem, follow_of_mem hmem, ih]
  | new category rest visited hnew ih =>
    rw [follow_of_notMem hnew, follow_of_notMem hnew, ih, h category]

/-! ## Walks in any order -/

/-- Where a walk stands. -/
structure Walk where
  pending : List String
  visited : List String

/-- A round of a walk. Any pending category is taken; if it is a new one, then it is visited and
what it requires becomes pending. -/
inductive Round (index : Index) (walk : Walk) : Walk → Prop
  | seen {category : String} {rest : List String} (taken : walk.pending.Perm (category :: rest))
      (known : category ∈ walk.visited) : Round index walk ⟨rest, walk.visited⟩
  | new {category : String} {rest : List String} (taken : walk.pending.Perm (category :: rest))
      (fresh : category ∉ walk.visited) :
      Round index walk ⟨index.requiredFor category ++ rest, category :: walk.visited⟩

/-- So many rounds of a walk, one after the other. -/
inductive Rounds (index : Index) : Walk → Nat → Walk → Prop
  | none (walk : Walk) : Rounds index walk 0 walk
  | more {walk next last : Walk} {rounds : Nat} (first : index.Round walk next)
      (rest : Rounds index next rounds last) : Rounds index walk (rounds + 1) last

/-- What a walk from a target has found: the target and categories that it requires, directly or
through others, of which each is pending or what it requires is found too. -/
structure Tracks (index : Index) (target : String) (walk : Walk) : Prop where
  sound : ∀ category, category ∈ walk.pending ∨ category ∈ walk.visited →
    ReflTransGen index.Requires target category
  found : target ∈ walk.pending ∨ target ∈ walk.visited
  closed : ∀ category ∈ walk.visited, ∀ other, index.Requires category other →
    other ∈ walk.pending ∨ other ∈ walk.visited

namespace Tracks

variable {walk next : Walk}

/-- The walk begins with the target. -/
theorem start (index : Index) (target : String) : index.Tracks target ⟨[target], []⟩ where
  sound category h := by
    rw [List.mem_singleton.1 (h.resolve_right List.not_mem_nil)]
  found := Or.inl List.mem_cons_self
  closed _ h := absurd h List.not_mem_nil

/-- A round loses nothing that was found, and what it finds is required. -/
theorem round (h : index.Tracks target walk) (hround : index.Round walk next) :
    index.Tracks target next := by
  cases hround with
  | @seen category rest taken known =>
    -- The category that is taken is still found, as it was visited.
    have hkept : ∀ c, c ∈ walk.pending ∨ c ∈ walk.visited → c ∈ rest ∨ c ∈ walk.visited := by
      rintro c (hpending | hvisited)
      · rcases List.mem_cons.1 (taken.mem_iff.1 hpending) with rfl | hrest
        · exact Or.inr known
        · exact Or.inl hrest
      · exact Or.inr hvisited
    refine ⟨fun c hc => h.sound c (hc.imp_left fun hrest => ?_), hkept target h.found,
      fun c hc other hother => hkept other (h.closed c hc other hother)⟩
    exact taken.mem_iff.2 (List.mem_cons_of_mem _ hrest)
  | @new category rest taken fresh =>
    have hkept : ∀ c, c ∈ walk.pending ∨ c ∈ walk.visited →
        c ∈ index.requiredFor category ++ rest ∨ c ∈ category :: walk.visited := by
      rintro c (hpending | hvisited)
      · rcases List.mem_cons.1 (taken.mem_iff.1 hpending) with rfl | hrest
        · exact Or.inr List.mem_cons_self
        · exact Or.inl (List.mem_append_right _ hrest)
      · exact Or.inr (List.mem_cons_of_mem _ hvisited)
    have hcategory := h.sound category (Or.inl (taken.mem_iff.2 List.mem_cons_self))
    refine ⟨?_, hkept target h.found, ?_⟩
    · rintro c (hpending | hvisited)
      · rcases List.mem_append.1 hpending with hrequired | hrest
        · exact hcategory.tail hrequired
        · exact h.sound c (Or.inl (taken.mem_iff.2 (List.mem_cons_of_mem _ hrest)))
      · rcases List.mem_cons.1 hvisited with rfl | hvisited
        · exact hcategory
        · exact h.sound c (Or.inr hvisited)
    · intro c hc other hother
      rcases List.mem_cons.1 hc with rfl | hc
      -- What the new category requires has become pending.
      · exact Or.inl (List.mem_append_left _ hother)
      · exact hkept other (h.closed c hc other hother)

/-- However many rounds it takes, the walk keeps track. -/
theorem rounds {n : Nat} (h : index.Tracks target walk) (hrounds : index.Rounds walk n next) :
    index.Tracks target next := by
  induction hrounds with
  | none => exact h
  | more first _ ih => exact ih (h.round first)

/-- Where nothing is pending, everything that the target requires was visited. -/
theorem mem_visited_iff (h : index.Tracks target walk) (hdone : walk.pending = []) :
    category ∈ walk.visited ↔ ReflTransGen index.Requires target category := by
  have hvisited : ∀ c, c ∈ walk.pending ∨ c ∈ walk.visited → c ∈ walk.visited := by
    intro c hc
    rw [hdone] at hc
    exact hc.resolve_left List.not_mem_nil
  refine ⟨fun hc => h.sound category (Or.inr hc), fun hreach => ?_⟩
  induction hreach with
  | refl => exact hvisited target h.found
  | tail _ hstep ih => exact hvisited _ (h.closed _ ih _ hstep)

end Tracks

/-- Following everything pending backwards is a walk that takes the first category each time. -/
theorem rounds_follow (index : Index) (pending visited : List String) :
    ∃ rounds, index.Rounds ⟨pending, visited⟩ rounds ⟨[], index.follow pending visited⟩ := by
  induction pending, visited using follow_induction index with
  | done visited =>
    rw [follow_nil]
    exact ⟨0, .none _⟩
  | seen category rest visited hmem ih =>
    obtain ⟨rounds, hrounds⟩ := ih
    rw [follow_of_mem hmem]
    exact ⟨rounds + 1, .more (.seen (List.Perm.refl _) hmem) hrounds⟩
  | new category rest visited hnew ih =>
    obtain ⟨rounds, hrounds⟩ := ih
    rw [follow_of_notMem hnew]
    exact ⟨rounds + 1, .more (.new (List.Perm.refl _) hnew) hrounds⟩

/-- What is reached from a target is what it requires, directly or through other categories. -/
theorem mem_reach_iff :
    category ∈ index.reach target ↔ ReflTransGen index.Requires target category := by
  obtain ⟨rounds, hrounds⟩ := index.rounds_follow [target] []
  exact ((Tracks.start index target).rounds hrounds).mem_visited_iff rfl

/-- The target itself is visited. -/
theorem mem_reach_self (index : Index) (target : String) : target ∈ index.reach target :=
  mem_reach_iff.2 .refl

/-- What a reached category requires is reached. -/
theorem mem_reach_of_requires (h : category ∈ index.reach target)
    (hstep : index.Requires category other) : other ∈ index.reach target :=
  mem_reach_iff.2 ((mem_reach_iff.1 h).tail hstep)

end Index

/-! ## Relevant rules -/

namespace Base

variable {base : Base} {target category other : String} {rule : Rule}

/-- A category requires those on which rules have conditions that conclude it. -/
theorem requires_iff : base.index.Requires category other ↔
    ∃ rule ∈ base.rules,
      rule.conclusion.category = category ∧ other ∈ rule.conditionCategories := by
  rw [Index.Requires, Index.requiredFor, base.index_eq, Index.rulesConcluding_ofRules]
  simp only [List.mem_flatMap, List.mem_filter, decide_eq_true_eq, and_assoc]

/-- A rule that concludes a reached category is conditioned on reached categories only. -/
theorem condition_mem_reach (hrule : rule ∈ base.rules)
    (h : rule.conclusion.category ∈ base.index.reach target)
    (hcondition : category ∈ rule.conditionCategories) : category ∈ base.index.reach target :=
  Index.mem_reach_of_requires h (requires_iff.2 ⟨rule, hrule, rfl, hcondition⟩)

/-- A rule that concludes a category that is visited is relevant. -/
theorem mem_relevantRules_of_mem_reach (hrule : rule ∈ base.rules)
    (h : rule.conclusion.category ∈ base.index.reach target) :
    rule.id ∈ base.relevantRules target := by
  simp only [relevantRules, List.mem_eraseDups, List.mem_map, List.mem_filter,
    List.contains_iff_mem]
  exact ⟨rule, ⟨hrule, h⟩, rfl⟩

/-- In a sound base the relevant rules are those that conclude a reached category. -/
theorem mem_relevantRules_iff (hbase : base.IsSound) (hrule : rule ∈ base.rules) :
    rule.id ∈ base.relevantRules target ↔ rule.conclusion.category ∈ base.index.reach target := by
  refine ⟨fun h => ?_, mem_relevantRules_of_mem_reach hrule⟩
  simp only [relevantRules, List.mem_eraseDups, List.mem_map, List.mem_filter,
    List.contains_iff_mem] at h
  obtain ⟨other, ⟨hother, hreached⟩, hid⟩ := h
  rw [← hbase.eq_of_id_eq hother hrule hid]
  exact hreached

end Base

end RuleConsult
