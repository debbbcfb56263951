import RuleConsult.Base.Index

/-!
# Backward reachability

A rule can contribute to a target if it concludes the target or a category that is required, perhaps
through other rules, by one that does. `Index.reach` walks backwards from the target over the
categories of conditions. A category is expanded once, so the walk ends: with every expansion there
are fewer concluded categories that were not visited, and a category that nothing concludes adds
nothing to what is left to do.
-/

namespace RuleConsult

namespace Index

/-- The categories required by the rules that conclude the given one. -/
def requiredFor (index : Index) (category : String) : List String :=
  (index.rulesConcluding category).flatMap Rule.conditionCategories

/-- The concluded categories that are not among the given ones. -/
def unvisited (index : Index) (visited : List String) : List String :=
  index.conclusionCategories.filter fun category => !visited.contains category

theorem requiredFor_eq_nil {index : Index} {category : String}
    (h : category ∉ index.conclusionCategories) : index.requiredFor category = [] := by
  have hnone : index.concluding.get? category = none := by
    rw [← Option.not_isSome_iff_eq_none, ← Table.contains_eq_isSome,
      Table.contains_iff_mem_keys]
    exact h
  simp [requiredFor, rulesConcluding, hnone]

theorem unvisited_cons (index : Index) (visited : List String) (category : String) :
    index.unvisited (category :: visited) =
      (index.unvisited visited).filter fun other => other ≠ category := by
  simp only [unvisited, List.filter_filter]
  congr 1
  funext other
  simp

theorem length_unvisited_cons_lt {index : Index} {visited : List String} {category : String}
    (hmem : category ∈ index.conclusionCategories) (hnew : category ∉ visited) :
    (index.unvisited (category :: visited)).length < (index.unvisited visited).length := by
  rw [unvisited_cons]
  have hin : category ∈ index.unvisited visited := by
    simp [unvisited, hmem, hnew]
  refine Nat.lt_of_le_of_ne (List.length_filter_le _ _) fun heq => ?_
  have hall := List.length_filter_eq_length_iff.1 heq category hin
  simp at hall

theorem length_unvisited_cons_eq {index : Index} {visited : List String} {category : String}
    (h : category ∉ index.conclusionCategories) :
    (index.unvisited (category :: visited)).length = (index.unvisited visited).length := by
  rw [unvisited_cons, List.length_filter_eq_length_iff]
  intro other hother
  simp only [unvisited, List.mem_filter] at hother
  simp only [ne_eq, decide_not, Bool.not_eq_eq_eq_not, Bool.not_true, decide_eq_false_iff_not]
  exact fun e => h (e ▸ hother.1)

/-- The categories visited when everything pending has been followed backwards. -/
def follow (index : Index) (pending visited : List String) : List String :=
  match pending with
  | [] => visited
  | category :: rest =>
    if category ∈ visited then follow index rest visited
    else follow index (index.requiredFor category ++ rest) (category :: visited)
termination_by ((index.unvisited visited).length, pending.length)
decreasing_by
  · exact Prod.Lex.right _ (by simp)
  · rename_i hnew
    by_cases hmem : category ∈ index.conclusionCategories
    · exact Prod.Lex.left _ _ (length_unvisited_cons_lt hmem hnew)
    · rw [length_unvisited_cons_eq hmem, requiredFor_eq_nil hmem]
      exact Prod.Lex.right _ (by simp)

/-- The target and all categories on which its conclusion may depend. -/
def reach (index : Index) (target : String) : List String :=
  index.follow [target] []

end Index

end RuleConsult
