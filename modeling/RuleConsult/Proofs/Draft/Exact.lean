import RuleConsult.Proofs.Base.Built

/-!
# What is built, entry by entry

A base is built of entries or not at all, and both the condition for it and the result can be read
off the entries without going through them in order. Each entry has to fit by itself, no two rules
may have the same number as an integer, and no two bindings of one kind the same category. The base
then holds one rule for each entry of a rule and one binding for each entry of a binding: no entry
is lost, merged with another or counted twice, however rules and bindings are mixed.

* `Entry.Fits` and `FitTogether`: the condition;
* `Base.Transcribes`: the result;
* `Entry.rule?_eq_some_iff` and `Entry.binding?_eq_some_iff_writes`: what single entries declare;
* `isConsistent_iff` and `transcribes_declaredBase`: condition and result for consistent entries;
* `build_exact`: condition and result for every list of entries whose numbers are read.
-/

namespace RuleConsult

open Text

/-! ## Entries that fit -/

namespace Entry

/-- The kind of the binding that an entry writes down; none if it writes down a rule. -/
def kind? (entry : Entry) : Option BindingKind :=
  match entry.body with
  | .rule .. => none
  | .binding kind _ _ => some kind

/-- The number of the rule that an entry writes down, as an integer. -/
def number? (entry : Entry) : Option Int :=
  match entry.body with
  | .rule number _ _ => (readNumeral number).toOption.map fun n : Nat => (n : Int)
  | .binding .. => none

/-- The kind and the category that an entry binds a text to. -/
def bound? (entry : Entry) : Option (BindingKind × String) :=
  match entry.body with
  | .rule .. => none
  | .binding kind category _ => some (kind, category)

/-- The number of the entry's rule is read if it is written in digits. -/
def NumberReads (entry : Entry) : Prop :=
  match entry.body with
  | .rule number _ _ => isDigits number = true → ∃ n, readNumeral number = .ok n
  | .binding .. => True

/-- An entry that fits by itself. -/
def Fits (entry : Entry) : Prop :=
  match entry.body with
  | .rule number conditions conclusion? =>
    isDigits number = true ∧
      ∃ conclusion, conclusion? = some conclusion ∧ PartsFit conditions conclusion
  | .binding _ category _ => isToken category = true

/-- The entry writes down the rule, up to repeated conditions. -/
def WritesRule (entry : Entry) (rule : Rule) : Prop :=
  ∃ number conditions n, entry.body = .rule number conditions (some rule.conclusion) ∧
    readNumeral number = .ok n ∧ rule.id = n ∧ rule.conditions = conditions.eraseDups ∧
      rule.line = some entry.line

/-- The entry writes down the binding. -/
def WritesBinding (entry : Entry) (binding : Binding) : Prop :=
  entry.body = .binding binding.kind binding.category binding.text ∧
    binding.line = some entry.line

theorem ruleNumber_eq_ok_some_iff {number : String} {id : Int} :
    ruleNumber number = .ok (some id) ↔
      isDigits number = true ∧ ∃ n : Nat, readNumeral number = .ok n ∧ id = n := by
  unfold ruleNumber
  split
  · rename_i hdigits
    cases readNumeral number with
    | error fault => simp [Except.map]
    | ok n => simp [Except.map, hdigits, eq_comm]
  · rename_i hdigits
    simp [hdigits]

/-- Only what is not written in digits is no number. -/
theorem ruleNumber_eq_ok_none_iff {number : String} :
    ruleNumber number = .ok none ↔ isDigits number = false := by
  unfold ruleNumber
  split
  · rename_i hdigits
    cases readNumeral number <;> simp [Except.map, hdigits]
  · rename_i hdigits
    simpa using hdigits

/-- An entry declares a rule exactly if it writes that rule down and fits. -/
theorem rule?_eq_some_iff {entry : Entry} {rule : Rule} :
    entry.rule? = some rule ↔ entry.WritesRule rule ∧ entry.Fits := by
  -- Both sides say that the number is read and that the rule passes its check.
  unfold rule? WritesRule Fits
  cases hbody : entry.body with
  | binding kind category text => simp
  | rule number conditions conclusion? =>
    simp only [EntryBody.rule.injEq]
    constructor
    · intro h
      split at h
      · rename_i id? hnumber
        obtain ⟨id, conclusion, rfl, rfl, hfit, rfl⟩ := rule?_checkRule_eq_some_iff.1 h
        obtain ⟨hdigits, n, hread, rfl⟩ := ruleNumber_eq_ok_some_iff.1 hnumber
        exact ⟨⟨number, conditions, n, ⟨rfl, rfl, rfl⟩, hread, rfl, rfl, rfl⟩, hdigits,
          conclusion, rfl, hfit⟩
      · exact nomatch h
    · rintro ⟨⟨_, _, n, ⟨rfl, rfl, rfl⟩, hread, hid, hconditions, hline⟩, hdigits, conclusion,
        hconclusion, hfit⟩
      cases hconclusion
      have hnumber := ruleNumber_eq_ok_some_iff.2 ⟨hdigits, n, hread, hid⟩
      simp only [hnumber]
      refine rule?_checkRule_eq_some_iff.2 ⟨rule.id, rule.conclusion, rfl, rfl, hfit, ?_⟩
      cases rule
      cases hconditions
      cases hline
      rfl

/-- An entry declares a binding exactly if it writes that binding down and fits. -/
theorem binding?_eq_some_iff_writes {entry : Entry} {binding : Binding} :
    entry.binding? = some binding ↔ entry.WritesBinding binding ∧ entry.Fits := by
  rw [binding?_eq_some_iff]
  constructor
  · rintro ⟨htoken, hline, hbody⟩
    refine ⟨⟨hbody, hline⟩, ?_⟩
    rw [Fits, hbody]
    exact htoken
  · rintro ⟨⟨hbody, hline⟩, hfits⟩
    rw [Fits, hbody] at hfits
    exact ⟨hfits, hline, hbody⟩

variable {entry : Entry}

/-- The number of a declared rule is the one that is written. -/
theorem map_id_rule?_of_fits (hreads : entry.NumberReads) (hfits : entry.Fits) :
    entry.rule?.map Rule.id = entry.number? := by
  cases hbody : entry.body with
  | binding kind category text => simp only [rule?, number?, hbody, Option.map_none]
  | rule number conditions conclusion? =>
    simp only [NumberReads, Fits, hbody] at hreads hfits
    obtain ⟨hdigits, conclusion, rfl, hfit⟩ := hfits
    obtain ⟨n, hread⟩ := hreads hdigits
    have hrule : entry.rule? = some ⟨n, conditions.eraseDups, conclusion, some entry.line⟩ := by
      refine rule?_eq_some_iff.2 ⟨⟨number, conditions, n, hbody, hread, rfl, rfl, rfl⟩, ?_⟩
      rw [Fits, hbody]
      exact ⟨hdigits, conclusion, rfl, hfit⟩
    simp only [hrule, number?, hbody, hread, Except.toOption, Option.map_some]

/-- A declared binding has the kind and the category that are written. -/
theorem map_key_binding?_of_fits (hfits : entry.Fits) :
    (entry.binding?.map fun binding => (binding.kind, binding.category)) = entry.bound? := by
  cases hbody : entry.body with
  | rule number conditions conclusion? => simp only [binding?, bound?, hbody, Option.map_none]
  | binding kind category text =>
    simp only [Fits, hbody] at hfits
    simp only [binding?, bound?, hbody, hfits, if_true, Option.map_some]

/-- An entry is good by itself exactly if it fits. -/
theorem isSound_iff_fits (hreads : entry.NumberReads) : entry.IsSound ↔ entry.Fits := by
  constructor
  · rintro (⟨rule, hrule⟩ | ⟨binding, hbinding⟩)
    · exact (rule?_eq_some_iff.1 hrule).2
    · exact (binding?_eq_some_iff_writes.1 hbinding).2
  · intro hfits
    cases hbody : entry.body with
    | rule number conditions conclusion? =>
      have hid := map_id_rule?_of_fits hreads hfits
      simp only [NumberReads, Fits, hbody] at hreads hfits
      obtain ⟨n, hread⟩ := hreads hfits.1
      simp only [number?, hbody, hread, Except.toOption, Option.map_some] at hid
      obtain ⟨rule, hrule, -⟩ := Option.map_eq_some_iff.1 hid
      exact Or.inl ⟨rule, hrule⟩
    | binding kind category text =>
      exact Or.inr ⟨⟨kind, category, text, some entry.line⟩,
        binding?_eq_some_iff_writes.2 ⟨⟨hbody, rfl⟩, hfits⟩⟩

end Entry

/-! ## Entries that fit together -/

/-- Entries of which a base can be built. -/
structure FitTogether (entries : List Entry) : Prop where
  fits : ∀ entry ∈ entries, entry.Fits
  /-- No two rules have the same number. -/
  numbers : (entries.filterMap Entry.number?).Nodup
  /-- No two bindings of one kind have the same category. -/
  bound : (entries.filterMap Entry.bound?).Nodup

/-- Bindings differ in kind or category exactly if those of each kind differ in their category. -/
theorem nodup_keys_iff {bindings : List Binding} :
    (bindings.map fun binding => (binding.kind, binding.category)).Nodup ↔
      ∀ kind, ((Binding.ofKind kind bindings).map Binding.category).Nodup := by
  induction bindings using List.reverseRecOn with
  | nil => simp [Binding.ofKind]
  | append_singleton bindings binding ih =>
    rw [nodup_map_concat, ih]
    constructor
    · -- The last binding is new among those of its own kind; the other kinds do not have it.
      rintro ⟨hnew, hnodup⟩ kind
      rw [Binding.ofKind_concat]
      split
      · rename_i hkind
        subst hkind
        refine nodup_map_concat.2 ⟨fun hmem => hnew ?_, hnodup _⟩
        obtain ⟨other, hother, hcategory⟩ := List.mem_map.1 hmem
        obtain ⟨hother, hkind⟩ := List.mem_filter.1 hother
        exact List.mem_map.2 ⟨other, hother, Prod.ext (eq_of_beq hkind) hcategory⟩
      · rw [List.append_nil]
        exact hnodup kind
    · intro h
      refine ⟨fun hmem => ?_, fun kind => ?_⟩
      · obtain ⟨other, hother, hkey⟩ := List.mem_map.1 hmem
        obtain ⟨hkind, hcategory⟩ := Prod.mk.inj hkey
        have hlast := h binding.kind
        rw [Binding.ofKind_concat, if_pos rfl, nodup_map_concat] at hlast
        have hother' : other ∈ Binding.ofKind binding.kind bindings :=
          List.mem_filter.2 ⟨hother, by simp [hkind]⟩
        exact hlast.1 (List.mem_map.2 ⟨other, hother', hcategory⟩)
      · have hkind := h kind
        rw [Binding.ofKind_concat, List.map_append] at hkind
        exact (List.nodup_append.1 hkind).1

/-- Entries are consistent exactly if they fit together. -/
theorem isConsistent_iff {entries : List Entry} (hreads : ∀ entry ∈ entries, entry.NumberReads) :
    IsConsistent entries ↔ FitTogether entries := by
  -- Once each entry fits, what is declared has the numbers and the keys that are written.
  have hids (hfits : ∀ entry ∈ entries, entry.Fits) :
      (declaredRules entries).map Rule.id = entries.filterMap Entry.number? := by
    rw [declaredRules, List.map_filterMap]
    exact List.filterMap_congr fun entry hentry =>
      Entry.map_id_rule?_of_fits (hreads entry hentry) (hfits entry hentry)
  have hkeys (hfits : ∀ entry ∈ entries, entry.Fits) : ((declaredBindings entries).map
      fun binding => (binding.kind, binding.category)) = entries.filterMap Entry.bound? := by
    rw [declaredBindings, List.map_filterMap]
    exact List.filterMap_congr fun entry hentry =>
      Entry.map_key_binding?_of_fits (hfits entry hentry)
  constructor
  · rintro ⟨hsound, hnumbers, hcategories⟩
    have hfits : ∀ entry ∈ entries, entry.Fits := fun entry hentry =>
      (Entry.isSound_iff_fits (hreads entry hentry)).1 (hsound entry hentry)
    refine ⟨hfits, ?_, ?_⟩
    · rw [← hids hfits]
      exact hnumbers
    · rw [← hkeys hfits]
      exact nodup_keys_iff.2 hcategories
  · rintro ⟨hfits, hnumbers, hbound⟩
    refine ⟨fun entry hentry => ?_, ?_, ?_⟩
    · exact (Entry.isSound_iff_fits (hreads entry hentry)).2 (hfits entry hentry)
    · rw [hids hfits]
      exact hnumbers
    · rw [← hkeys hfits] at hbound
      exact nodup_keys_iff.1 hbound

/-! ## What is built -/

/-- The base holds what the entries write down. -/
structure Base.Transcribes (base : Base) (entries : List Entry) : Prop where
  ascending : base.rules.Pairwise fun a b => a.id < b.id
  /-- The rules are those of the entries without a binding, one for each. -/
  rules : ∃ rules, base.rules.Perm rules ∧
    List.Forall₂ Entry.WritesRule (entries.filter fun entry => entry.kind? = none) rules
  /-- The bindings of a kind are those of the entries of that kind, one for each, in order. -/
  bindings : ∀ kind, List.Forall₂ Entry.WritesBinding
    (entries.filter fun entry => entry.kind? = some kind) (base.bindings kind).toList

/-- Some items of a list, each with what it is mapped to. -/
theorem forall₂_filter_filterMap {α β : Type} {p : α → Prop} [DecidablePred p] {f : α → Option β}
    {related : α → β → Prop} {items : List α} (hsome : ∀ a ∈ items, p a → ∃ b, f a = some b)
    (hnone : ∀ a ∈ items, ¬p a → f a = none)
    (hrelated : ∀ a ∈ items, ∀ b, f a = some b → related a b) :
    List.Forall₂ related (items.filter fun a => p a) (items.filterMap f) := by
  induction items with
  | nil => exact List.Forall₂.nil
  | cons a items ih =>
    have hrest := ih (fun b hb => hsome b (List.mem_cons_of_mem _ hb))
      (fun b hb => hnone b (List.mem_cons_of_mem _ hb))
      (fun b hb => hrelated b (List.mem_cons_of_mem _ hb))
    by_cases ha : p a
    · obtain ⟨b, hb⟩ := hsome a List.mem_cons_self ha
      rw [List.filter_cons_of_pos (by simpa using ha), List.filterMap_cons_some hb]
      exact List.Forall₂.cons (hrelated a List.mem_cons_self b hb) hrest
    · rw [List.filter_cons_of_neg (by simpa using ha),
        List.filterMap_cons_none (hnone a List.mem_cons_self ha)]
      exact hrest

/-- The base of consistent entries holds what they write down. -/
theorem transcribes_declaredBase {entries : List Entry} (h : IsConsistent entries) :
    (declaredBase entries).Transcribes entries where
  ascending := Base.ascending_ofParts _ _ _ h.ids
  rules := by
    refine ⟨declaredRules entries, List.mergeSort_perm _ _, ?_⟩
    -- Every entry of the kind declares a rule as it is written, and no other entry does.
    refine forall₂_filter_filterMap (fun entry hentry hkind => ?_) (fun entry hentry hkind => ?_)
      fun entry hentry rule hrule => (Entry.rule?_eq_some_iff.1 hrule).1
    · refine (h.sound entry hentry).resolve_right ?_
      rintro ⟨binding, hbinding⟩
      obtain ⟨⟨hbody, -⟩, -⟩ := Entry.binding?_eq_some_iff_writes.1 hbinding
      simp only [Entry.kind?, hbody] at hkind
      cases hkind
    · cases hrule : entry.rule? with
      | none => rfl
      | some rule =>
        obtain ⟨⟨_, _, _, hbody, -⟩, -⟩ := Entry.rule?_eq_some_iff.1 hrule
        exact absurd (by simp only [Entry.kind?, hbody]) hkind
  bindings kind := by
    rw [Base.toList_bindings_declaredBase h, Binding.ofKind, declaredBindings,
      List.filter_filterMap]
    refine forall₂_filter_filterMap (fun entry hentry hkind => ?_) (fun entry hentry hkind => ?_)
      fun entry hentry binding hbinding => ?_
    · rcases h.sound entry hentry with ⟨rule, hrule⟩ | ⟨binding, hbinding⟩
      · obtain ⟨⟨_, _, _, hbody, -⟩, -⟩ := Entry.rule?_eq_some_iff.1 hrule
        simp only [Entry.kind?, hbody] at hkind
        cases hkind
      · obtain ⟨⟨hbody, -⟩, -⟩ := Entry.binding?_eq_some_iff_writes.1 hbinding
        simp only [Entry.kind?, hbody, Option.some.injEq] at hkind
        exact ⟨binding, by simp [hbinding, hkind]⟩
    · rw [Option.filter_eq_none_iff]
      intro binding hbinding hsame
      obtain ⟨⟨hbody, -⟩, -⟩ := Entry.binding?_eq_some_iff_writes.1 hbinding
      exact hkind (by simpa only [Entry.kind?, hbody, Option.some.injEq] using eq_of_beq hsame)
    · exact (Entry.binding?_eq_some_iff_writes.1 (Option.filter_eq_some_iff.1 hbinding).1).1

/-- An entry whose number is read is added to any draft. -/
theorem Draft.exists_add (draft : Draft) {entry : Entry} (h : entry.NumberReads) :
    ∃ next, draft.add entry = .ok next := by
  unfold Entry.NumberReads at h
  unfold add
  cases hbody : entry.body with
  | binding kind category text => exact ⟨_, rfl⟩
  | rule number conditions conclusion? =>
    simp only [hbody] at h
    -- Only the number could break off, and it reads.
    have hnumber : ∃ id?, ruleNumber number = .ok id? := by
      unfold ruleNumber
      split
      · rename_i hdigits
        obtain ⟨n, hread⟩ := h hdigits
        exact ⟨some n, by rw [hread]; rfl⟩
      · exact ⟨none, rfl⟩
    obtain ⟨id?, hid⟩ := hnumber
    dsimp only
    rw [addRule_of_ruleNumber draft _ _ _ hid]
    cases id? with
    | none => exact ⟨_, rfl⟩
    | some id =>
      dsimp only
      split <;> exact ⟨_, rfl⟩

/-- Entries whose numbers are read make a draft. -/
theorem Draft.exists_ofEntries {entries : List Entry}
    (hreads : ∀ entry ∈ entries, entry.NumberReads) : ∃ draft, ofEntries entries = .ok draft := by
  induction entries using List.reverseRecOn with
  | nil => exact ⟨empty, rfl⟩
  | append_singleton entries entry ih =>
    obtain ⟨draft, hdraft⟩ := ih fun e he => hreads e (List.mem_append_left _ he)
    rw [ofEntries_concat, hdraft]
    exact draft.exists_add (hreads entry (List.mem_append_right _ List.mem_cons_self))

/-- Building goes through exactly if the entries fit together, and finds issues otherwise. What is
built holds what the entries write down. -/
theorem build_exact {entries : List Entry} (hreads : ∀ entry ∈ entries, entry.NumberReads) :
    ∃ built, build entries = .ok built ∧ (built.base?.isSome ↔ FitTogether entries) ∧
      (built.base?.isSome ↔ built.issues = []) ∧
        ∀ base, built.base? = some base → base.Transcribes entries := by
  -- The numbers read, so all entries are declared; what matters is whether issues arose.
  obtain ⟨draft, hdraft⟩ := Draft.exists_ofEntries hreads
  by_cases hissues : draft.issues = []
  · obtain ⟨hconsistent, hholds⟩ := Draft.holds_of_ofEntries hdraft hissues
    obtain ⟨notices, hbuild⟩ := build_of_isConsistent hconsistent
    refine ⟨_, hbuild, ?_, ?_, ?_⟩
    · simpa using (isConsistent_iff hreads).1 hconsistent
    · simp
    · rintro base ⟨⟩
      exact transcribes_declaredBase hconsistent
  · have hbuild : build entries = .ok ⟨none, draft.issues, draft.notices⟩ := by
      rw [build, hdraft]
      simp only [Bind.bind, Except.bind, pure, Except.pure, List.isEmpty_iff, hissues, if_false]
    refine ⟨_, hbuild, ?_, ?_, ?_⟩
    · -- If the entries fitted together, they would have been built.
      refine ⟨fun h => by simp at h, fun hfit => ?_⟩
      obtain ⟨notices, hbuilt⟩ := build_of_isConsistent ((isConsistent_iff hreads).2 hfit)
      rw [hbuild] at hbuilt
      cases hbuilt
    · simp [hissues]
    · rintro base ⟨⟩

/-- Rules that are not in order, one of them with a repeated condition and one with its number in
other digits, mixed with two bindings of one category. -/
def mixedEntries : List Entry :=
  [⟨0, 1, 1, .rule "10" [⟨"a", "x"⟩, ⟨"b", "y"⟩, ⟨"a", "x"⟩] (some ⟨"c", "z"⟩)⟩,
    ⟨40, 2, 1, .binding .tip "a" "look at a"⟩,
    ⟨60, 3, 1, .rule "٩" [⟨"c", "z"⟩] (some ⟨"d", "w"⟩)⟩,
    ⟨80, 4, 1, .binding .advice "a" "which a?"⟩,
    ⟨100, 5, 1, .rule "007" [⟨"d", "w"⟩] (some ⟨"c", "v"⟩)⟩]

theorem build_exact_mixedEntries :
    (∀ entry ∈ mixedEntries, entry.NumberReads) ∧ FitTogether mixedEntries ∧
      ∃ base notices, build mixedEntries = .ok ⟨some base, [], notices⟩ ∧
        base.Transcribes mixedEntries := by
  have hreads : ∀ entry ∈ mixedEntries, entry.NumberReads := by
    simp only [mixedEntries, List.forall_mem_cons, List.not_mem_nil, false_imp_iff, implies_true,
      and_true]
    exact ⟨fun _ => ⟨10, by decide +kernel⟩, trivial, fun _ => ⟨9, by decide +kernel⟩, trivial,
      fun _ => ⟨7, by decide +kernel⟩⟩
  obtain ⟨⟨base?, issues, notices⟩, hbuild, hfit, hissues, hbase⟩ := build_exact hreads
  have hbuilt : ((build mixedEntries).toOption.bind Build.base?).isSome = true := by
    decide +kernel
  rw [hbuild] at hbuilt
  obtain ⟨base, rfl⟩ := Option.isSome_iff_exists.1 hbuilt
  cases hissues.1 rfl
  exact ⟨hreads, hfit.1 rfl, base, notices, hbuild, hbase base rfl⟩

end RuleConsult
