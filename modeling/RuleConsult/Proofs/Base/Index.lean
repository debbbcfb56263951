import RuleConsult.Base
import RuleConsult.Proofs.Table
import Mathlib.Data.List.Induction

/-!
# What an index knows

The tables of an index are filled in one pass over the rules. Looked up by a category, they hold
just what a search through the rules would find, in the order in which it would be found.

* `Table.keys_grouped` and `Table.get?_grouped`: a table that is filled by pushing items under their
  keys;
* `Index.rulesConcluding_ofRules`, `Index.rulesConditionedOn_ofRules`: the rules that conclude the
  category, or are conditioned on it, in their order;
* `Index.categories_ofRules` and `Index.valuesOf_ofRules`: the categories that are mentioned, and
  the values with which they are;
* `Index.goalCategories_ofRules`: the final categories.
-/

namespace RuleConsult

/-! ## Grouping -/

namespace Table

variable {κ α : Type} [DecidableEq κ]

/-- An item is put at the end of the group of its key. -/
theorem get?_push (table : Table κ (List α)) (key other : κ) (item : α) :
    ((table.push key item).get? other).getD [] =
      (table.get? other).getD [] ++ if other = key then [item] else [] := by
  rw [push, get?_insert]
  split
  · rename_i heq
    rw [heq, Option.getD_some]
  · exact (List.append_nil _).symm

/-- A key that is new comes last. -/
theorem keys_push (table : Table κ (List α)) (key : κ) (item : α) :
    (table.push key item).keys = table.keys ++ if key ∈ table.keys then [] else [key] := by
  rw [push, keys_insert]
  split
  · exact (List.append_nil _).symm
  · rfl

/-- The table that is filled by pushing items under their keys, one after the other. -/
def grouped (entries : List (κ × α)) : Table κ (List α) :=
  entries.foldl (fun table entry => table.push entry.1 entry.2) empty

/-- Entries are put into their groups one after the other. -/
theorem grouped_concat (entries : List (κ × α)) (entry : κ × α) :
    grouped (entries ++ [entry]) = (grouped entries).push entry.1 entry.2 := by
  simp [grouped]

/-- The keys stand in the order of their first items. -/
theorem keys_grouped (entries : List (κ × α)) :
    (grouped entries).keys = (entries.map Prod.fst).eraseDups := by
  induction entries using List.reverseRecOn with
  | nil => rfl
  | append_singleton entries entry ih =>
    rw [grouped_concat, keys_push, ih, List.map_append, List.map_singleton, eraseDups_concat]
    simp only [List.mem_eraseDups]

/-- Under a key there are its items, in the order in which they were pushed. -/
theorem get?_grouped (entries : List (κ × α)) (key : κ) :
    ((grouped entries).get? key).getD [] =
      (entries.filter fun entry => entry.1 = key).map Prod.snd := by
  induction entries using List.reverseRecOn with
  | nil => rfl
  | append_singleton entries entry ih =>
    rw [grouped_concat, get?_push, ih, List.filter_append, List.map_append]
    by_cases heq : entry.1 = key
    · simp [heq]
    · simp [heq, Ne.symm heq]

end Table

namespace Index

variable {rules : List Rule} {category value : String}

/-! ## Rules -/

/-- Rules are added one after the other. -/
theorem ofRules_concat (rules : List Rule) (rule : Rule) :
    ofRules (rules ++ [rule]) = (ofRules rules).add rule := by
  simp [ofRules]

/-- Rules are grouped by what they conclude. -/
theorem concluding_ofRules (rules : List Rule) : (ofRules rules).concluding =
    Table.grouped (rules.map fun rule => (rule.conclusion.category, rule)) := by
  induction rules using List.reverseRecOn with
  | nil => rfl
  | append_singleton rules rule ih =>
    rw [ofRules_concat, List.map_append, List.map_singleton, Table.grouped_concat, ← ih]
    rfl

/-- The rules concluding a category are found in the index. -/
theorem rulesConcluding_ofRules (rules : List Rule) (category : String) :
    (ofRules rules).rulesConcluding category =
      rules.filter fun rule => rule.conclusion.category = category := by
  rw [rulesConcluding, concluding_ofRules, Table.get?_grouped, List.filter_map, List.map_map]
  exact List.map_id _

/-- The categories that are concluded, each where it is concluded first. -/
theorem conclusionCategories_ofRules (rules : List Rule) :
    (ofRules rules).conclusionCategories =
      (rules.map fun rule => rule.conclusion.category).eraseDups := by
  rw [conclusionCategories, concluding_ofRules, Table.keys_grouped, List.map_map]
  rfl

/-- A rule stands in the table of conditions once for each of its conditions. -/
theorem conditionedOn_ofRules (rules : List Rule) : (ofRules rules).conditionedOn =
    Table.grouped (rules.flatMap fun rule =>
      rule.conditionCategories.map fun category => (category, rule)) := by
  induction rules using List.reverseRecOn with
  | nil => rfl
  | append_singleton rules rule ih =>
    -- The conditions of the last rule are pushed one after the other behind what is there.
    rw [ofRules_concat, List.flatMap_append, List.flatMap_singleton, Table.grouped,
      List.foldl_append, ← Table.grouped, ← ih, List.foldl_map]
    rfl

/-- The rules that are conditioned on a category are found in the index, each once for every such
condition. -/
theorem rulesConditionedOn_ofRules (rules : List Rule) (category : String) :
    (ofRules rules).rulesConditionedOn category =
      rules.flatMap fun rule =>
        List.replicate (rule.conditionCategories.count category) rule := by
  rw [rulesConditionedOn, conditionedOn_ofRules, Table.get?_grouped, List.filter_flatMap,
    List.map_flatMap]
  congr 1
  funext rule
  -- What a rule pushes is itself, so all that counts is how often it does.
  rw [List.filter_map, List.map_map]
  simp only [Function.comp_def, List.map_const', ← List.countP_eq_length_filter, List.count,
    beq_eq_decide]

/-- A category is in the index of conditions if a rule has a condition on it. -/
theorem contains_conditionedOn_ofRules (rules : List Rule) (category : String) :
    (ofRules rules).conditionedOn.contains category =
      (rules.flatMap Rule.conditionCategories).contains category := by
  rw [Bool.eq_iff_iff, Table.contains_iff_mem_keys, conditionedOn_ofRules, Table.keys_grouped,
    List.mem_eraseDups, List.contains_iff_mem, List.map_flatMap]
  simp only [List.map_map, Function.comp_def, List.map_id']

/-- The final categories are those that rules conclude and none requires, or if there are none, all
that rules conclude. -/
theorem goalCategories_ofRules (rules : List Rule) :
    (ofRules rules).goalCategories =
      let concluded := (rules.map fun rule => rule.conclusion.category).eraseDups
      let goals := concluded.filter fun category =>
        !(rules.flatMap Rule.conditionCategories).contains category
      if goals.isEmpty then concluded else goals := by
  simp only [goalCategories, conclusionCategories_ofRules, contains_conditionedOn_ofRules]

/-! ## Values -/

/-- The pairs that are mentioned in rules, in their order. -/
def mentioned (rules : List Rule) : List Pair :=
  rules.flatMap fun rule => rule.conditions ++ [rule.conclusion]

/-- The values of the pairs of a category. -/
def valuesAmong (pairs : List Pair) (category : String) : List String :=
  (pairs.filter fun pair => pair.category = category).map Pair.value

/-- One more pair has one more value, if it is of the category. -/
theorem valuesAmong_concat (pairs : List Pair) (pair : Pair) (category : String) :
    valuesAmong (pairs ++ [pair]) category =
      valuesAmong pairs category ++ if pair.category = category then [pair.value] else [] := by
  by_cases heq : pair.category = category <;> simp [valuesAmong, heq]

/-- Values are noted as they are mentioned. -/
theorem values_ofRules (rules : List Rule) :
    (ofRules rules).values = (mentioned rules).foldl noteValue Table.empty := by
  rw [mentioned, List.foldl_flatMap]
  induction rules using List.reverseRecOn with
  | nil => rfl
  | append_singleton rules rule ih =>
    rw [ofRules_concat, List.foldl_append, ← ih]
    rfl

/-- A value is noted once, behind those that were known. -/
theorem get?_noteValue (values : Table String (List String)) (pair : Pair) (category : String) :
    ((noteValue values pair).get? category).getD [] =
      (values.get? category).getD [] ++
        if pair.category = category ∧ pair.value ∉ (values.get? category).getD [] then [pair.value]
        else [] := by
  unfold noteValue
  by_cases heq : pair.category = category
  · subst heq
    split
    · rename_i hknown
      simp [hknown]
    · rename_i hnew
      rw [Table.get?_push, if_pos rfl, if_pos ⟨rfl, hnew⟩]
  · -- Nothing changes under another category.
    have hother : ¬(pair.category = category ∧ pair.value ∉ (values.get? category).getD []) :=
      fun h => heq h.1
    rw [if_neg hother]
    split
    · exact (List.append_nil _).symm
    · rw [Table.get?_push, if_neg (Ne.symm heq)]

/-- A category that is new comes last. -/
theorem keys_noteValue (values : Table String (List String)) (pair : Pair) :
    (noteValue values pair).keys =
      values.keys ++ if pair.category ∈ values.keys then [] else [pair.category] := by
  unfold noteValue
  split
  · rename_i hknown
    -- A value is known only under a category that is known.
    have hmem : pair.category ∈ values.keys := by
      by_contra habsent
      rw [Table.get?_eq_none_iff.2 habsent] at hknown
      exact List.not_mem_nil hknown
    rw [if_pos hmem, List.append_nil]
  · exact Table.keys_push values pair.category pair.value

/-- The values of a category, each where it is mentioned first. -/
theorem get?_foldl_noteValue (pairs : List Pair) (category : String) :
    ((pairs.foldl noteValue Table.empty).get? category).getD [] =
      (valuesAmong pairs category).eraseDups := by
  induction pairs using List.reverseRecOn with
  | nil => rfl
  | append_singleton pairs pair ih =>
    rw [List.foldl_append, List.foldl_cons, List.foldl_nil, get?_noteValue, ih,
      valuesAmong_concat]
    -- A value of the category is new exactly if it would not be dropped as a repetition.
    by_cases heq : pair.category = category
    · simp [heq, eraseDups_concat]
    · simp [heq]

/-- The categories, each where it is mentioned first. -/
theorem keys_foldl_noteValue (pairs : List Pair) :
    (pairs.foldl noteValue Table.empty).keys = (pairs.map Pair.category).eraseDups := by
  induction pairs using List.reverseRecOn with
  | nil => rfl
  | append_singleton pairs pair ih =>
    rw [List.foldl_append, List.foldl_cons, List.foldl_nil, keys_noteValue, ih, List.map_append,
      List.map_singleton, eraseDups_concat]
    simp only [List.mem_eraseDups]

/-- The categories stand in the order in which they are first mentioned. -/
theorem categories_ofRules (rules : List Rule) :
    (ofRules rules).categories = ((mentioned rules).map Pair.category).eraseDups := by
  rw [categories, values_ofRules, keys_foldl_noteValue]

/-- The values of a category stand in the order in which it is first mentioned with them. -/
theorem valuesOf_ofRules (rules : List Rule) (category : String) :
    (ofRules rules).valuesOf category = (valuesAmong (mentioned rules) category).eraseDups := by
  rw [valuesOf, values_ofRules, get?_foldl_noteValue]

/-- The values of a category are those with which some rule mentions it. -/
theorem mem_valuesOf_ofRules : value ∈ (ofRules rules).valuesOf category ↔
    ∃ rule ∈ rules, ⟨category, value⟩ ∈ rule.conditions ++ [rule.conclusion] := by
  rw [valuesOf_ofRules, List.mem_eraseDups, valuesAmong, List.mem_map]
  simp only [mentioned, List.mem_filter, List.mem_flatMap, decide_eq_true_eq]
  constructor
  · rintro ⟨⟨_, _⟩, ⟨hmentions, rfl⟩, rfl⟩
    exact hmentions
  · intro hmentions
    exact ⟨⟨category, value⟩, ⟨hmentions, rfl⟩, rfl⟩

end Index

end RuleConsult
