import RuleConsult.Binding
import Mathlib.Data.List.Induction
import Mathlib.Data.List.Nodup

/-!
# Tables as maps and as lists

A table is a map from keys to values, and it is the list of its entries in the order of their first
insertion. Tables of bindings are determined by the list of their bindings alone, since every
binding is stored under its own category.
-/

namespace RuleConsult

/-- A list that is extended at its end has no repetition if the new item is not in it yet. -/
theorem nodup_map_concat {α β : Type} {f : α → β} {xs : List α} {x : α} :
    ((xs ++ [x]).map f).Nodup ↔ f x ∉ xs.map f ∧ (xs.map f).Nodup := by
  rw [List.map_append, List.map_singleton, ← List.concat_eq_append, List.nodup_concat]

/-- A list without repetitions is extended by an item that it does not hold yet. -/
theorem eraseDups_concat {α : Type} [DecidableEq α] (xs : List α) (x : α) :
    (xs ++ [x]).eraseDups = xs.eraseDups ++ if x ∈ xs then [] else [x] := by
  rw [List.eraseDups_append, List.removeAll]
  by_cases hmem : x ∈ xs <;> simp [hmem, List.eraseDups_cons]

theorem nodup_eraseDups {α : Type} [DecidableEq α] (xs : List α) : xs.eraseDups.Nodup := by
  induction xs using List.reverseRecOn with
  | nil => exact List.nodup_nil
  | append_singleton xs x ih =>
    rw [eraseDups_concat]
    split
    · rwa [List.append_nil]
    · rename_i hmem
      rw [← List.concat_eq_append, List.nodup_concat]
      exact ⟨fun hx => hmem (List.mem_eraseDups.1 hx), ih⟩

variable {κ α : Type} [DecidableEq κ]

namespace Table

theorem get?_eq_none_iff {t : Table κ α} {key : κ} : t.get? key = none ↔ key ∉ t.keys := by
  rw [← t.contains_iff_mem_keys, t.contains_eq_isSome, Bool.not_eq_true,
    Option.isSome_eq_false_iff, Option.isNone_iff_eq_none]

/-- A value is found under a key exactly if the two are an entry. -/
theorem get?_eq_some_iff {t : Table κ α} {key : κ} {value : α} :
    t.get? key = some value ↔ (key, value) ∈ t.entries := by
  constructor
  · intro h
    obtain ⟨⟨found, _⟩, hfind, rfl⟩ := Option.map_eq_some_iff.1 h
    have hkey : found = key := by simpa using List.find?_some hfind
    exact hkey ▸ List.mem_of_find?_eq_some hfind
  · intro hmem
    cases hfound : t.get? key with
    | none =>
      rw [get?_eq_none_iff] at hfound
      exact absurd (List.mem_map_of_mem hmem) hfound
    | some other =>
      -- Both values stand under the same key, which occurs once.
      obtain ⟨⟨found, _⟩, hfind, rfl⟩ := Option.map_eq_some_iff.1 hfound
      have hkey : found = key := by simpa using List.find?_some hfind
      have heq := List.inj_on_of_nodup_map t.keys_nodup (List.mem_of_find?_eq_some hfind) hmem hkey
      rw [heq]

theorem putEntry_of_not_mem {key : κ} (value : α) {entries : List (κ × α)}
    (h : key ∉ entries.map Prod.fst) : putEntry key value entries = entries ++ [(key, value)] := by
  induction entries with
  | nil => rfl
  | cons entry rest ih =>
    simp only [List.map_cons, List.mem_cons, not_or] at h
    rw [putEntry, if_neg (Ne.symm h.1), ih h.2, List.cons_append]

/-- A new key goes to the end. -/
theorem entries_insert_of_not_mem {t : Table κ α} {key : κ} (value : α) (h : key ∉ t.keys) :
    (t.insert key value).entries = t.entries ++ [(key, value)] :=
  putEntry_of_not_mem value h

/-- Storing a value removes none. -/
theorem get?_insert_ne_none {t : Table κ α} {key other : κ} {value : α}
    (h : other = key ∨ t.get? other ≠ none) :
    (t.insert key value).get? other ≠ none := by
  rw [get?_insert]
  by_cases heq : other = key
  · rw [if_pos heq]
    exact Option.some_ne_none value
  · rw [if_neg heq]
    exact h.resolve_left heq

/-! ### Removing -/

/-- A table read after removing: nothing under the key, the old value under every other. -/
theorem get?_erase (t : Table κ α) (key other : κ) :
    (t.erase key).get? other = if other = key then none else t.get? other := by
  unfold get? erase
  rw [List.find?_filter]
  by_cases heq : other = key
  · subst heq
    rw [if_pos rfl, List.find?_eq_none.2 (by simp), Option.map_none]
  · rw [if_neg heq]
    congr 2
    funext entry
    by_cases hentry : entry.1 = other <;> simp [hentry, heq]

/-- Entries without a key stay when those of the key are taken away. -/
theorem filter_eq_self_of_not_mem {key : κ} {entries : List (κ × α)}
    (h : key ∉ entries.map Prod.fst) : (entries.filter fun entry => entry.1 ≠ key) = entries := by
  refine List.filter_eq_self.2 fun entry hentry => ?_
  have hne : entry.1 ≠ key := fun heq => h (heq ▸ List.mem_map_of_mem hentry)
  simpa using hne

/-- Removing a key that does not occur changes nothing. -/
theorem erase_of_get?_eq_none {t : Table κ α} {key : κ} (h : t.get? key = none) :
    t.erase key = t := by
  ext1
  exact filter_eq_self_of_not_mem (get?_eq_none_iff.1 h)

/-- Removing a key leaves what stands before and behind it. -/
theorem entries_erase_of_split {t : Table κ α} {before later : List (κ × α)} {entry : κ × α}
    (h : t.entries = before ++ entry :: later) : (t.erase entry.1).entries = before ++ later := by
  have hnodup := t.keys_nodup
  rw [h, List.map_append, List.map_cons, List.nodup_middle, List.nodup_cons,
    List.mem_append, not_or] at hnodup
  obtain ⟨⟨hbefore, hlater⟩, -⟩ := hnodup
  change t.entries.filter (fun other => other.1 ≠ entry.1) = _
  rw [h, List.filter_append, List.filter_cons_of_neg (by simp),
    filter_eq_self_of_not_mem hbefore, filter_eq_self_of_not_mem hlater]

/-- Storing under a key leaves the entries of the other keys as they are. -/
theorem filter_putEntry (key : κ) (value : α) (entries : List (κ × α)) :
    ((putEntry key value entries).filter fun entry => entry.1 ≠ key) =
      entries.filter fun entry => entry.1 ≠ key := by
  induction entries with
  | nil => simp [putEntry]
  | cons entry rest ih =>
    by_cases heq : entry.1 = key
    · simp [putEntry, heq]
    · rw [putEntry, if_neg heq, List.filter_cons, List.filter_cons, ih]

/-! ### Storing many entries -/

theorem insertMany_append (t : Table κ α) (xs ys : List (κ × α)) :
    t.insertMany (xs ++ ys) = (t.insertMany xs).insertMany ys := by
  simp [insertMany]

theorem insertMany_concat (t : Table κ α) (xs : List (κ × α)) (entry : κ × α) :
    t.insertMany (xs ++ [entry]) = (t.insertMany xs).insert entry.1 entry.2 := by
  rw [insertMany_append]
  rfl

/-- What is stored later depends under each key only on what was found there before. -/
theorem get?_insertMany_congr {s t : Table κ α} {key : κ} (h : s.get? key = t.get? key)
    (entries : List (κ × α)) :
    (s.insertMany entries).get? key = (t.insertMany entries).get? key := by
  induction entries using List.reverseRecOn with
  | nil => exact h
  | append_singleton entries entry ih =>
    rw [insertMany_concat, insertMany_concat, get?_insert, get?_insert, ih]

/-- A value that is found was there before or has been stored. -/
theorem get?_insertMany_eq_some {t : Table κ α} {entries : List (κ × α)} {key : κ} {value : α}
    (h : (t.insertMany entries).get? key = some value) :
    t.get? key = some value ∨ (key, value) ∈ entries := by
  induction entries using List.reverseRecOn with
  | nil => exact Or.inl h
  | append_singleton entries entry ih =>
    rw [insertMany_concat, get?_insert] at h
    split at h
    · rename_i heq
      cases h
      exact Or.inr (by simp [heq])
    · exact (ih h).imp_right (List.mem_append_left _)

/-- Where nothing is found nothing has been stored. -/
theorem get?_insertMany_eq_none_iff {t : Table κ α} {entries : List (κ × α)} {key : κ} :
    (t.insertMany entries).get? key = none ↔
      t.get? key = none ∧ ∀ entry ∈ entries, entry.1 ≠ key := by
  induction entries using List.reverseRecOn with
  | nil => simp [insertMany]
  | append_singleton entries entry ih =>
    rw [insertMany_concat, get?_insert]
    by_cases heq : key = entry.1
    · rw [if_pos heq]
      refine ⟨fun h => absurd h (Option.some_ne_none _), fun h => absurd heq.symm ?_⟩
      exact h.2 entry (List.mem_append_right _ List.mem_cons_self)
    · rw [if_neg heq, ih]
      simp only [List.mem_append, List.mem_singleton, or_imp, forall_and, forall_eq]
      exact ⟨fun h => ⟨h.1, h.2, Ne.symm heq⟩, fun h => ⟨h.1, h.2.1⟩⟩

/-- Under a key that is not stored the old value is found. -/
theorem get?_insertMany_of_ne {t : Table κ α} {entries : List (κ × α)} {key : κ}
    (h : ∀ entry ∈ entries, entry.1 ≠ key) : (t.insertMany entries).get? key = t.get? key := by
  induction entries using List.reverseRecOn with
  | nil => rfl
  | append_singleton entries entry ih =>
    have hlast := h entry (List.mem_append_right _ List.mem_cons_self)
    rw [insertMany_concat, get?_insert, if_neg (Ne.symm hlast)]
    exact ih fun e he => h e (List.mem_append_left _ he)

/-- If nothing else is stored under a key, its value is found. -/
theorem get?_insertMany_of_agree {t : Table κ α} {entries : List (κ × α)} {key : κ} {value : α}
    (hmem : t.get? key = some value ∨ (key, value) ∈ entries)
    (hold : ∀ other, t.get? key = some other → other = value)
    (hnew : ∀ other, (key, other) ∈ entries → other = value) :
    (t.insertMany entries).get? key = some value := by
  cases hfound : (t.insertMany entries).get? key with
  | none =>
    -- The key occurs, so something is found.
    obtain ⟨hnone, hentries⟩ := get?_insertMany_eq_none_iff.1 hfound
    rcases hmem with hmem | hmem
    · rw [hnone] at hmem
      cases hmem
    · exact absurd rfl (hentries _ hmem)
  | some other =>
    rcases get?_insertMany_eq_some hfound with hother | hother
    · rw [hold other hother]
    · rw [hnew other hother]

end Table

namespace BindingTable

/-- Every entry of a table of bindings is a binding with its category. -/
theorem entries_eq (bindings : BindingTable) :
    bindings.table.entries = bindings.toList.map fun binding => (binding.category, binding) := by
  rw [toList, Table.values, List.map_map]
  conv => lhs; rw [← List.map_id bindings.table.entries]
  refine List.map_congr_left fun entry hentry => ?_
  exact Prod.ext (bindings.keyed entry hentry).symm rfl

theorem categories_eq (bindings : BindingTable) :
    bindings.table.keys = bindings.toList.map Binding.category := by
  rw [Table.keys, entries_eq, List.map_map]
  rfl

/-- No two bindings have the same category. -/
theorem nodup_categories (bindings : BindingTable) :
    (bindings.toList.map Binding.category).Nodup := by
  rw [← categories_eq]
  exact bindings.table.keys_nodup

/-- The list of its bindings determines a table. -/
theorem ext_toList {s t : BindingTable} (h : s.toList = t.toList) : s = t := by
  have htable : s.table = t.table := by
    ext1
    rw [entries_eq, entries_eq, h]
  cases s
  cases t
  cases htable
  rfl

theorem contains_eq_false_iff {bindings : BindingTable} {category : String} :
    bindings.contains category = false ↔ category ∉ bindings.toList.map Binding.category := by
  rw [contains, ← categories_eq, ← Table.contains_iff_mem_keys, Bool.not_eq_true]

/-- Storing a binding binds its category and no other. -/
theorem contains_insert {bindings : BindingTable} {binding : Binding} {category : String} :
    (bindings.insert binding).contains category = true ↔
      category = binding.category ∨ bindings.contains category = true := by
  rw [contains, insert, Table.contains_eq_isSome, Table.get?_insert, contains,
    Table.contains_eq_isSome]
  by_cases heq : category = binding.category <;> simp [heq]

/-- A binding of a new category goes to the end. -/
theorem toList_insert {bindings : BindingTable} {binding : Binding}
    (h : binding.category ∉ bindings.toList.map Binding.category) :
    (bindings.insert binding).toList = bindings.toList ++ [binding] := by
  rw [← categories_eq] at h
  rw [toList, Table.values, insert, Table.entries_insert_of_not_mem binding h, List.map_append]
  rfl

/-- Bindings of different categories are kept in their order. -/
theorem toList_ofList {bindings : List Binding} (h : (bindings.map Binding.category).Nodup) :
    (ofList bindings).toList = bindings := by
  induction bindings using List.reverseRecOn with
  | nil => rfl
  | append_singleton bindings binding ih =>
    rw [nodup_map_concat] at h
    have hinit := ih h.2
    rw [ofList, List.foldl_append, List.foldl_cons, List.foldl_nil,
      show bindings.foldl insert empty = ofList bindings from rfl,
      toList_insert (by rw [hinit]; exact h.1)]
    exact congrArg (· ++ [binding]) hinit

/-- The table of the bindings of a table is that table. -/
theorem ofList_toList (bindings : BindingTable) : ofList bindings.toList = bindings :=
  ext_toList (toList_ofList bindings.nodup_categories)

end BindingTable

end RuleConsult
