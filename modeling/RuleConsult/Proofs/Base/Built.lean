import RuleConsult.Proofs.Draft.Consistent
import Mathlib.Data.List.Sort

/-!
# Bases that were built

Building checks every entry, so a base that was built has properties that bases in general lack: its
rules are in strictly ascending order of their numbers and are well-formed, and its bindings stand
in the table of their kind. Consultations rely on these properties, and so does the written form of
a base.

* `Base.isSound_of_build`: every built base has them;
* `Base.rules_ofParts_of_ascending`: rules in ascending order stay as they are.
-/

namespace RuleConsult

open Text

namespace Base

/-! ## The parts of a base -/

theorem rules_ofParts (rules : List Rule) (advice translations tips : List Binding) :
    (ofParts rules advice translations tips).rules =
      rules.mergeSort fun a b => decide (a.id ≤ b.id) := rfl

/-- Sorting loses no rule and adds none. -/
theorem mem_rules_ofParts {rules : List Rule} {advice translations tips : List Binding}
    {rule : Rule} : rule ∈ (ofParts rules advice translations tips).rules ↔ rule ∈ rules :=
  List.mem_mergeSort

/-- Rules in ascending order stay as they are. -/
theorem rules_ofParts_of_ascending {rules : List Rule} (advice translations tips : List Binding)
    (h : rules.Pairwise fun a b => a.id ≤ b.id) :
    (ofParts rules advice translations tips).rules = rules := by
  rw [rules_ofParts]
  exact List.mergeSort_of_pairwise (h.imp fun hab => decide_eq_true hab)

/-- Rules of different numbers come to stand in strictly ascending order. -/
theorem ascending_ofParts {rules : List Rule} (advice translations tips : List Binding)
    (h : (rules.map Rule.id).Nodup) :
    (ofParts rules advice translations tips).rules.Pairwise fun a b => a.id < b.id := by
  have hsorted := (ofParts rules advice translations tips).sorted
  have hperm : ((ofParts rules advice translations tips).rules.map Rule.id).Perm
      (rules.map Rule.id) := (List.mergeSort_perm rules _).map Rule.id
  -- Sorting does not repeat a number, and ascending numbers that differ ascend strictly.
  have hne := List.pairwise_map.1 (hperm.nodup_iff.2 h)
  exact hsorted.imp₂ (fun a b hle hne => by omega) hne

/-! ## Sound bases -/

/-- What is known of a base that was built. -/
structure IsSound (base : Base) : Prop where
  ascending : base.rules.Pairwise fun a b => a.id < b.id
  formed : ∀ rule ∈ base.rules, rule.IsWellFormed
  /-- The numbers can be written and read again. -/
  numbers : ∀ rule ∈ base.rules, ∃ n : Nat, rule.id = n ∧ IsReadable n
  kinds : ∀ kind, ∀ binding ∈ (base.bindings kind).toList, binding.kind = kind

/-- The bindings of a base that is made of consistent entries. -/
theorem toList_bindings_declaredBase {entries : List Entry} (h : IsConsistent entries)
    (kind : BindingKind) :
    ((declaredBase entries).bindings kind).toList =
      Binding.ofKind kind (declaredBindings entries) := by
  cases kind <;> exact BindingTable.toList_ofList (h.categories _)

/-- The base of consistent entries is sound. -/
theorem isSound_declaredBase {entries : List Entry} (h : IsConsistent entries) :
    (declaredBase entries).IsSound := by
  have hdeclared : ∀ rule ∈ (declaredBase entries).rules,
      ∃ entry ∈ entries, entry.rule? = some rule := by
    intro rule hrule
    exact List.mem_filterMap.1 (mem_rules_ofParts.1 hrule)
  refine ⟨ascending_ofParts _ _ _ h.ids, fun rule hrule => ?_, fun rule hrule => ?_,
    fun kind binding hbinding => ?_⟩
  · obtain ⟨entry, -, hentry⟩ := hdeclared rule hrule
    exact (Entry.isWellFormed_of_rule? hentry).1
  · obtain ⟨entry, -, hentry⟩ := hdeclared rule hrule
    exact (Entry.isWellFormed_of_rule? hentry).2.1
  · rw [toList_bindings_declaredBase h] at hbinding
    exact eq_of_beq (List.mem_filter.1 hbinding).2

/-- Every base that building yields is sound. -/
theorem isSound_of_build {entries : List Entry} {base : Base} {issues : List Issue}
    {notices : List Notice} (h : build entries = .ok ⟨some base, issues, notices⟩) :
    base.IsSound := by
  obtain ⟨hconsistent, rfl⟩ := build_eq_ok_some h
  exact isSound_declaredBase hconsistent

/-- In a sound base a number belongs to one rule. -/
theorem IsSound.eq_of_id_eq {base : Base} (h : base.IsSound) {a b : Rule} (ha : a ∈ base.rules)
    (hb : b ∈ base.rules) (hid : a.id = b.id) : a = b := by
  refine List.inj_on_of_nodup_map (List.pairwise_map.2 ?_) ha hb hid
  exact h.ascending.imp fun hlt heq => by omega

/-- A rule of a sound base is found under its number. -/
theorem IsSound.rule?_id {base : Base} (h : base.IsSound) {rule : Rule}
    (hrule : rule ∈ base.rules) : base.rule? rule.id = some rule := by
  rw [rule?]
  cases hfind : base.rules.reverse.find? fun other => other.id == rule.id with
  | none =>
    rw [List.find?_eq_none] at hfind
    exact absurd (beq_self_eq_true rule.id) (hfind rule (List.mem_reverse.2 hrule))
  | some found =>
    have hmem := List.mem_reverse.1 (List.mem_of_find?_eq_some hfind)
    have hid := List.find?_some hfind
    rw [h.eq_of_id_eq hmem hrule (by simpa using hid)]

/-- Rules of a sound base are found again under their numbers. -/
theorem IsSound.filterMap_rule? {base : Base} (h : base.IsSound) {rules : List Rule}
    (hrules : ∀ rule ∈ rules, rule ∈ base.rules) :
    (rules.map Rule.id).filterMap base.rule? = rules := by
  have hfound : rules.filterMap (base.rule? ∘ Rule.id) = rules.filterMap some :=
    List.filterMap_congr fun rule hrule => h.rule?_id (hrules rule hrule)
  rw [List.filterMap_map, hfound, List.filterMap_some]

end Base

/-- An outcome that holds a value is that value. -/
theorem eq_ok_of_toOption {ε α : Type} {outcome : Except ε α} {value : α}
    (h : outcome.toOption = some value) : outcome = .ok value := by
  cases outcome with
  | error fault => cases h
  | ok found =>
    cases h
    rfl

/-- If building yields a base, then without issues and the declared one. -/
theorem exists_build_of_isSome {entries : List Entry}
    (h : ((build entries).toOption.bind Build.base?).isSome = true) :
    ∃ notices, build entries = .ok ⟨some (declaredBase entries), [], notices⟩ := by
  obtain ⟨base, hbase⟩ := Option.isSome_iff_exists.1 h
  obtain ⟨⟨base?, issues, notices⟩, hbuild, rfl⟩ := Option.bind_eq_some_iff.1 hbase
  exact build_of_isConsistent (build_eq_ok_some (eq_ok_of_toOption hbuild)).1

/-! ## An example -/

/-- Three rules, the first of which contributes nothing to the conclusion of the last, and a
question. -/
def exampleEntries : List Entry :=
  [⟨0, 1, 1, .rule "1" [⟨"a", "x"⟩] (some ⟨"d", "w"⟩)⟩,
    ⟨16, 2, 1, .rule "2" [⟨"a", "x"⟩] (some ⟨"b", "y"⟩)⟩,
    ⟨32, 3, 1, .rule "3" [⟨"b", "y"⟩] (some ⟨"c", "z"⟩)⟩,
    ⟨48, 4, 1, .binding .advice "a" "which a?"⟩]

theorem build_exampleEntries :
    ∃ notices, build exampleEntries = .ok ⟨some (declaredBase exampleEntries), [], notices⟩ :=
  exists_build_of_isSome (by decide +kernel)

end RuleConsult
