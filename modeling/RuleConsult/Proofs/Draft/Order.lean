import RuleConsult.Proofs.Base.Same
import RuleConsult.Proofs.Draft.Exact

/-!
# Declarations in any order

While entries are added to a draft, what was declared before decides what is still checked, so the
issues that are found depend on the order of the entries. Whether there are any does not: entries
are consistent in every order or in none. Of consistent entries the same base is built in every
order, since rules are sorted by numbers that differ, and bindings are equal up to their order.

* `IsConsistent.perm`: consistency does not depend on the order;
* `IsConsistent.same_declaredBase`: nor does the base that is declared;
* `build_of_perm`: what is built of the entries in one order and in another.
-/

namespace RuleConsult

variable {entries others : List Entry}

/-! ## What is declared -/

theorem perm_declaredRules (h : entries.Perm others) :
    (declaredRules entries).Perm (declaredRules others) :=
  h.filterMap _

/-- Bindings of a kind come in another order, if at all. -/
theorem perm_ofKind_declaredBindings (h : entries.Perm others) (kind : BindingKind) :
    (Binding.ofKind kind (declaredBindings entries)).Perm
      (Binding.ofKind kind (declaredBindings others)) :=
  (h.filterMap _).filter _

/-- Entries that are consistent in one order are consistent in every order. -/
theorem IsConsistent.perm (h : IsConsistent entries) (hperm : entries.Perm others) :
    IsConsistent others where
  sound entry hentry := h.sound entry (hperm.mem_iff.2 hentry)
  ids := ((perm_declaredRules hperm).map Rule.id).nodup_iff.1 h.ids
  categories kind :=
    ((perm_ofKind_declaredBindings hperm kind).map Binding.category).nodup_iff.1 (h.categories kind)

/-- Rules of different numbers can only be sorted in one way. -/
theorem rules_declaredBase_of_perm (h : IsConsistent entries) (hperm : entries.Perm others) :
    (declaredBase entries).rules = (declaredBase others).rules := by
  -- Both lists are sorted, and sorting only reorders.
  have hsorted : (declaredBase entries).rules.Perm (declaredBase others).rules := by
    refine (List.mergeSort_perm _ _).trans (.trans ?_ (List.mergeSort_perm _ _).symm)
    exact perm_declaredRules hperm
  refine List.Perm.eq_of_pairwise ?_ (declaredBase entries).sorted (declaredBase others).sorted
    hsorted
  intro a b ha hb hab hba
  -- Equal numbers belong to one rule.
  exact (Base.isSound_declaredBase h).eq_of_id_eq ha (hsorted.mem_iff.2 hb) (by omega)

/-- In every order consistent entries declare the same base. -/
theorem IsConsistent.same_declaredBase (h : IsConsistent entries) (hperm : entries.Perm others) :
    (declaredBase entries).same (declaredBase others) = true := by
  refine Base.same_iff.2 ⟨by rw [rules_declaredBase_of_perm h hperm], fun kind => ?_⟩
  rw [Base.toList_bindings_declaredBase h, Base.toList_bindings_declaredBase (h.perm hperm)]
  exact (perm_ofKind_declaredBindings hperm kind).map Binding.bare

/-! ## What is built -/

/-- Entries that do not fit together are refused with the issues that are found. -/
theorem build_of_not_isConsistent (hreads : ∀ entry ∈ entries, entry.NumberReads)
    (h : ¬IsConsistent entries) :
    ∃ issues notices, build entries = .ok ⟨none, issues, notices⟩ ∧ issues ≠ [] := by
  obtain ⟨draft, hdraft⟩ := Draft.exists_ofEntries hreads
  -- Only of consistent entries a draft without issues is made.
  have hissues : draft.issues ≠ [] := fun hnone => h (Draft.holds_of_ofEntries hdraft hnone).1
  exact ⟨draft.issues, draft.notices,
    build_eq_ok_iff.2 ⟨draft, hdraft, (if_neg hissues).symm⟩, hissues⟩

/-- The order of declarations does not matter. In whatever order entries stand whose numbers are
read, building them comes to an end, and either they are refused with issues in both orders or an
equal base is built in both. -/
theorem build_of_perm (hreads : ∀ entry ∈ entries, entry.NumberReads)
    (hperm : entries.Perm others) :
    ∃ built built', build entries = .ok built ∧ build others = .ok built' ∧
      ((built.base? = none ∧ built.issues ≠ [] ∧ built'.base? = none ∧ built'.issues ≠ []) ∨
        ∃ base base', built.base? = some base ∧ built.issues = [] ∧
          built'.base? = some base' ∧ built'.issues = [] ∧ base.same base' = true) := by
  have hreads' : ∀ entry ∈ others, entry.NumberReads := fun entry hentry =>
    hreads entry (hperm.mem_iff.2 hentry)
  by_cases hconsistent : IsConsistent entries
  · obtain ⟨notices, hbuild⟩ := build_of_isConsistent hconsistent
    obtain ⟨notices', hbuild'⟩ := build_of_isConsistent (hconsistent.perm hperm)
    refine ⟨_, _, hbuild, hbuild', Or.inr ?_⟩
    exact ⟨_, _, rfl, rfl, rfl, rfl, hconsistent.same_declaredBase hperm⟩
  · -- If they were consistent in the other order, they would be in this one.
    have hother : ¬IsConsistent others := fun h => hconsistent (h.perm hperm.symm)
    obtain ⟨issues, notices, hbuild, hissues⟩ := build_of_not_isConsistent hreads hconsistent
    obtain ⟨issues', notices', hbuild', hissues'⟩ := build_of_not_isConsistent hreads' hother
    exact ⟨_, _, hbuild, hbuild', Or.inl ⟨rfl, hissues, rfl, hissues'⟩⟩

/-- Rules and a question, and the same with the question first and the rules in descending order. -/
theorem build_of_perm_exampleEntries :
    (∀ entry ∈ exampleEntries, entry.NumberReads) ∧
      exampleEntries.Perm exampleEntries.reverse ∧
      ∃ base base' notices notices', build exampleEntries = .ok ⟨some base, [], notices⟩ ∧
        build exampleEntries.reverse = .ok ⟨some base', [], notices'⟩ ∧
        base.same base' = true := by
  have hreads : ∀ entry ∈ exampleEntries, entry.NumberReads := by
    simp only [exampleEntries, List.forall_mem_cons, List.not_mem_nil, false_imp_iff, implies_true,
      and_true]
    exact ⟨fun _ => ⟨1, by decide +kernel⟩, fun _ => ⟨2, by decide +kernel⟩,
      fun _ => ⟨3, by decide +kernel⟩, trivial⟩
  have hperm := (List.reverse_perm exampleEntries).symm
  obtain ⟨notices, hexample⟩ := build_exampleEntries
  obtain ⟨⟨_, _, _⟩, ⟨_, _, notices'⟩, hbuild, hbuild', hcases⟩ := build_of_perm hreads hperm
  rw [hexample] at hbuild
  cases hbuild
  rcases hcases with ⟨hnone, -⟩ | ⟨base, base', hbase, -, hbase', hissues', hsame⟩
  · cases hnone
  · cases hbase
    cases hbase'
    cases hissues'
    exact ⟨hreads, hperm, _, base', notices, notices', hexample, hbuild', hsame⟩

end RuleConsult
