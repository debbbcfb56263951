import RuleConsult.Proofs.Draft.Check
import RuleConsult.Proofs.Table
import RuleConsult.Proofs.Text.Numeral

/-!
# Consistent documents

Building goes through the entries of a document one by one, yet what is built can be said in one
sentence. Entries are consistent if each of them declares a rule or a binding by itself, no two
rules have the same number, and no two bindings of one kind have the same category. A base is built
exactly from consistent entries, and it is the base of all that they declare.

* `Draft.Holds`: the invariant of a draft without issues;
* `Draft.holds_of_ofEntries` and `Draft.ofEntries_of_isConsistent`: the two directions for drafts;
* `build_eq_ok_some` and `build_of_isConsistent`: the same for bases.
-/

namespace RuleConsult

open Text

/-! ## What an entry declares -/

namespace Entry

/-- The rule that an entry declares, if its check accepts one. -/
def rule? (entry : Entry) : Option Rule :=
  match entry.body with
  | .rule number conditions conclusion? =>
    match ruleNumber number with
    | .ok id? => (checkRule entry.line id? conditions conclusion?).rule?
    | .error _ => none
  | .binding .. => none

/-- The binding that an entry declares, if its category is a token. -/
def binding? (entry : Entry) : Option Binding :=
  match entry.body with
  | .rule .. => none
  | .binding kind category text =>
    if isToken category then some ⟨kind, category, text, some entry.line⟩ else none

/-- An entry that is good by itself. -/
def IsSound (entry : Entry) : Prop :=
  (∃ rule, entry.rule? = some rule) ∨ ∃ binding, entry.binding? = some binding

/-- No entry declares both a rule and a binding. -/
theorem binding?_of_rule? {entry : Entry} {rule : Rule} (h : entry.rule? = some rule) :
    entry.binding? = none := by
  unfold rule? at h
  unfold binding?
  split at h
  · rfl
  · exact nomatch h

/-- An entry that is a binding is no rule. -/
theorem rule?_of_binding? {entry : Entry} {binding : Binding}
    (h : entry.binding? = some binding) : entry.rule? = none := by
  cases hrule : entry.rule? with
  | none => rfl
  | some rule =>
    rw [binding?_of_rule? hrule] at h
    exact nomatch h

/-- An entry that declares a binding is the binding as it was written. -/
theorem binding?_eq_some_iff {entry : Entry} {binding : Binding} :
    entry.binding? = some binding ↔
      isToken binding.category = true ∧ binding.line = some entry.line ∧
        entry.body = .binding binding.kind binding.category binding.text := by
  unfold binding?
  split
  · rename_i hbody
    simp [hbody]
  · rename_i kind category text hbody
    rw [hbody]
    constructor
    · intro h
      obtain ⟨htoken, hbinding⟩ := Option.ite_none_right_eq_some.1 h
      cases hbinding
      exact ⟨htoken, rfl, rfl⟩
    · rintro ⟨htoken, hline, heq⟩
      cases heq
      rw [if_pos htoken, ← hline]

/-- A number that was read is readable. -/
theorem isReadable_of_ruleNumber {number : String} {id : Int}
    (h : ruleNumber number = .ok (some id)) : ∃ n : Nat, id = n ∧ IsReadable n := by
  unfold ruleNumber at h
  split at h
  · cases hread : readNumeral number with
    | error fault =>
      rw [hread] at h
      exact nomatch h
    | ok n =>
      rw [hread] at h
      cases h
      exact ⟨n, rfl, isReadable_of_readNumeral hread⟩
  · exact nomatch h

theorem ruleNumber_toString {n : Nat} (h : IsReadable n) :
    ruleNumber (toString (n : Int)) = .ok (some (n : Int)) := by
  rw [ruleNumber, if_pos (isDigits_toString n), readNumeral_toString h]
  rfl

/-- A declared rule is well-formed, and its number can be written and read again. -/
theorem isWellFormed_of_rule? {entry : Entry} {rule : Rule} (h : entry.rule? = some rule) :
    rule.IsWellFormed ∧ (∃ n : Nat, rule.id = n ∧ IsReadable n) ∧ rule.line = some entry.line := by
  unfold rule? at h
  split at h
  · rename_i number conditions conclusion? hbody
    split at h
    · rename_i id? hnumber
      obtain ⟨hformed, rfl, -, hline⟩ := isWellFormed_of_checkRule h
      exact ⟨hformed, isReadable_of_ruleNumber hnumber, hline⟩
    · exact nomatch h
  · exact nomatch h

/-- A well-formed rule is declared by an entry that says just this. -/
theorem rule?_of_isWellFormed {entry : Entry} {rule : Rule} (h : rule.IsWellFormed)
    (hnumber : ∃ n : Nat, rule.id = n ∧ IsReadable n)
    (hbody : entry.body = .rule (toString rule.id) rule.conditions (some rule.conclusion)) :
    entry.rule? = some { rule with line := some entry.line } := by
  obtain ⟨n, hid, hn⟩ := hnumber
  have hread : ruleNumber (toString rule.id) = .ok (some rule.id) := by
    rw [hid]
    exact ruleNumber_toString hn
  rw [rule?, hbody]
  simp only [hread, checkRule_of_isWellFormed entry.line h]

end Entry

/-! ## Drafts without issues -/

/-- The bindings of a kind among some bindings. -/
def Binding.ofKind (kind : BindingKind) (bindings : List Binding) : List Binding :=
  bindings.filter fun binding => binding.kind == kind

@[simp]
theorem Binding.ofKind_concat (kind : BindingKind) (bindings : List Binding) (binding : Binding) :
    ofKind kind (bindings ++ [binding]) =
      ofKind kind bindings ++ if binding.kind = kind then [binding] else [] := by
  simp [ofKind, List.filter_append, List.filter_cons]

namespace Draft

/-- A draft without issues that holds just these rules and bindings. -/
structure Holds (draft : Draft) (rules : List Rule) (bindings : List Binding) : Prop where
  issues : draft.issues = []
  rules_eq : draft.rules = rules
  taken : draft.taken.keys = rules.map Rule.id
  bindings_eq : ∀ kind, (draft.bindings kind).toList = Binding.ofKind kind bindings

/-- The draft with an accepted rule. -/
def accept (draft : Draft) (rule : Rule) (line : Int) (notices : List Notice) : Draft :=
  { draft with
    rules := draft.rules ++ [rule]
    taken := draft.taken.insert rule.id line
    notices := draft.notices ++ notices }

variable {draft draft' : Draft} {rules : List Rule} {bindings : List Binding} {entry : Entry}

theorem holds_empty : empty.Holds [] [] where
  issues := rfl
  rules_eq := rfl
  taken := rfl
  bindings_eq kind := by cases kind <;> rfl

/-- A rule with a new number joins the draft. -/
theorem Holds.accept {rule : Rule} (h : draft.Holds rules bindings)
    (hnew : rule.id ∉ rules.map Rule.id) (line : Int) (notices : List Notice) :
    (draft.accept rule line notices).Holds (rules ++ [rule]) bindings where
  issues := h.issues
  rules_eq := congrArg (· ++ [rule]) h.rules_eq
  taken := by
    rw [Draft.accept, Table.keys_insert, if_neg (by rw [h.taken]; exact hnew), h.taken,
      List.map_append, List.map_singleton]
  bindings_eq kind := by
    rw [← h.bindings_eq kind]
    cases kind <;> rfl

/-- Binding a text touches the bindings of its kind only. -/
theorem bindings_bind (draft : Draft) (binding : Binding) (kind : BindingKind) :
    (draft.bind binding).bindings kind =
      if binding.kind = kind then (draft.bindings kind).insert binding
      else draft.bindings kind := by
  unfold bind
  split <;> rename_i hkind <;> rw [hkind] <;> cases kind <;> rfl

/-- Binding leaves everything but the bindings alone. -/
theorem bind_frame (draft : Draft) (binding : Binding) :
    (draft.bind binding).issues = draft.issues ∧ (draft.bind binding).rules = draft.rules ∧
      (draft.bind binding).taken = draft.taken := by
  unfold bind
  split <;> exact ⟨rfl, rfl, rfl⟩

/-- A binding of a new category joins the draft. -/
theorem Holds.bind {binding : Binding} (h : draft.Holds rules bindings)
    (hnew : binding.category ∉ (Binding.ofKind binding.kind bindings).map Binding.category) :
    (draft.bind binding).Holds rules (bindings ++ [binding]) := by
  obtain ⟨hissues, hrules, htaken⟩ := bind_frame draft binding
  refine ⟨hissues.trans h.issues, hrules.trans h.rules_eq, ?_, fun kind => ?_⟩
  · rw [htaken, h.taken]
  · rw [bindings_bind, Binding.ofKind_concat]
    by_cases hkind : binding.kind = kind
    · subst hkind
      rw [if_pos rfl, if_pos rfl,
        BindingTable.toList_insert (by rw [h.bindings_eq]; exact hnew), h.bindings_eq]
    · rw [if_neg hkind, if_neg hkind, h.bindings_eq, List.append_nil]

/-! ## One entry -/

/-- Declaring a rule whose number is read. -/
theorem addRule_of_ruleNumber {number : String} {id? : Option Int} (draft : Draft) (line : Int)
    (conditions : List Pair) (conclusion? : Option Pair) :
    ruleNumber number = .ok id? → draft.addRule line number conditions conclusion? =
      match id? with
      | none => .ok (draft.addChecked (checkRule line none conditions conclusion?))
      | some id =>
        match draft.taken.get? id with
        | some firstLine => .ok (draft.report [⟨.duplicateRule id firstLine, line⟩] [])
        | none =>
          .ok ({ draft with taken := draft.taken.insert id line }.addChecked
            (checkRule line (some id) conditions conclusion?)) := by
  intro h
  unfold addRule
  rw [h]
  cases id? with
  | none => rfl
  | some id =>
    cases hget : draft.taken.get? id <;>
      simp only [Bind.bind, Except.bind, pure, Except.pure, hget]

/-- What declaring a rule comes to: without a number it is checked for the sake of the issue, with a
number that is taken it is not checked at all, and with a new number it is checked once the number
is taken. -/
theorem addRule_cases {number : String} {line : Int} {conditions : List Pair}
    {conclusion? : Option Pair}
    (h : draft.addRule line number conditions conclusion? = .ok draft') :
    (ruleNumber number = .ok none ∧
        draft' = draft.addChecked (checkRule line none conditions conclusion?)) ∨
      ∃ id, ruleNumber number = .ok (some id) ∧
        ((∃ firstLine, draft.taken.get? id = some firstLine ∧
            draft' = draft.report [⟨.duplicateRule id firstLine, line⟩] []) ∨
          (draft.taken.get? id = none ∧
            draft' = { draft with taken := draft.taken.insert id line }.addChecked
              (checkRule line (some id) conditions conclusion?))) := by
  -- A number that is not read breaks off, one that is taken only reports that.
  cases hnumber : ruleNumber number with
  | error fault =>
    rw [addRule, hnumber] at h
    exact nomatch h
  | ok id? =>
    rw [addRule_of_ruleNumber draft _ _ _ hnumber] at h
    cases id? with
    | none =>
      cases h
      exact Or.inl ⟨rfl, rfl⟩
    | some id =>
      refine Or.inr ⟨id, rfl, ?_⟩
      cases hget : draft.taken.get? id with
      | some firstLine =>
        simp only [hget] at h
        cases h
        exact Or.inl ⟨firstLine, rfl, rfl⟩
      | none =>
        simp only [hget] at h
        cases h
        exact Or.inr ⟨rfl, rfl⟩

/-- Once its number is taken, an accepted rule joins the draft without issues. -/
theorem addChecked_of_accepted {check : RuleCheck} {rule : Rule} (draft : Draft) (line : Int)
    (hrule : check.rule? = some rule) (hissues : check.issues = []) :
    { draft with taken := draft.taken.insert rule.id line }.addChecked check =
      draft.accept rule line check.notices := by
  rw [addChecked, hrule, hissues]
  simp only [report, Draft.accept, Option.toList_some, List.append_nil]

/-- Declaring an entry without finding an issue accepts a rule with a new number or a binding of a
new category, and no issue was found before. -/
theorem add_cases (hadd : draft.add entry = .ok draft') (h : draft'.issues = []) :
    draft.issues = [] ∧
      ((∃ rule notices, entry.rule? = some rule ∧ rule.id ∉ draft.taken.keys ∧
          draft' = draft.accept rule entry.line notices) ∨
        ∃ binding, entry.binding? = some binding ∧
          (draft.bindings binding.kind).contains binding.category = false ∧
          draft' = draft.bind binding) := by
  unfold add at hadd
  split at hadd
  · rename_i number conditions conclusion? hbody
    rcases addRule_cases hadd with ⟨-, rfl⟩ | ⟨id, hnumber, ⟨firstLine, -, rfl⟩ | ⟨hget, rfl⟩⟩
    · -- Without a number the check finds an issue.
      exact absurd (List.append_eq_nil_iff.1 h).2 (List.cons_ne_nil _ _)
    · -- The number is taken, which is an issue.
      exact absurd (List.append_eq_nil_iff.1 h).2 (List.cons_ne_nil _ _)
    · obtain ⟨hissues, hcheck⟩ := List.append_eq_nil_iff.1 h
      -- The number is new and the check finds no issue, so it accepts a rule.
      obtain ⟨rule, hsome⟩ := issues_checkRule_eq_nil_iff.1 hcheck
      obtain ⟨-, hid, -, -⟩ := isWellFormed_of_checkRule hsome
      cases hid
      have hrule : entry.rule? = some rule := by
        simp only [Entry.rule?, hbody, hnumber]
        exact hsome
      exact ⟨hissues, Or.inl ⟨rule, _, hrule, Table.get?_eq_none_iff.1 hget,
        addChecked_of_accepted draft entry.line hsome hcheck⟩⟩
  · rename_i kind category text hbody
    cases hadd
    unfold addBinding at h ⊢
    split at h
    · exact absurd (List.append_eq_nil_iff.1 h).2 (List.cons_ne_nil _ _)
    · rename_i htoken
      split at h
      · exact absurd (List.append_eq_nil_iff.1 h).2 (List.cons_ne_nil _ _)
      · rename_i hcontains
        -- The category is a token and new.
        rw [if_neg htoken, if_neg hcontains]
        refine ⟨(bind_frame draft _).1 ▸ h, Or.inr ⟨⟨kind, category, text, some entry.line⟩,
          Entry.binding?_eq_some_iff.2 ⟨by simpa using htoken, rfl, hbody⟩,
          by simpa using hcontains, rfl⟩⟩

/-- An entry that declares a rule with a new number is accepted. -/
theorem add_of_rule? {rule : Rule} (hrule : entry.rule? = some rule)
    (hnew : rule.id ∉ draft.taken.keys) :
    ∃ notices, draft.add entry = .ok (draft.accept rule entry.line notices) := by
  unfold Entry.rule? at hrule
  split at hrule
  · rename_i number conditions conclusion? hbody
    split at hrule
    · rename_i id? hnumber
      obtain ⟨-, rfl, -, -⟩ := isWellFormed_of_checkRule hrule
      have hissues := issues_checkRule_eq_nil_iff.2 ⟨rule, hrule⟩
      refine ⟨(checkRule entry.line (some rule.id) conditions conclusion?).notices, ?_⟩
      rw [add, hbody]
      simp only [addRule_of_ruleNumber draft _ _ _ hnumber, Table.get?_eq_none_iff.2 hnew]
      exact congrArg Except.ok (addChecked_of_accepted draft entry.line hrule hissues)
    · cases hrule
  · cases hrule

/-- An entry that declares a binding of a new category is accepted. -/
theorem add_of_binding? {binding : Binding} (hbinding : entry.binding? = some binding)
    (hnew : (draft.bindings binding.kind).contains binding.category = false) :
    draft.add entry = .ok (draft.bind binding) := by
  obtain ⟨htoken, hline, hbody⟩ := Entry.binding?_eq_some_iff.1 hbinding
  rw [add, hbody]
  simp only [addBinding, htoken, hnew, Bool.not_true, Bool.false_eq_true, if_false, ← hline]

theorem ofEntries_concat (entries : List Entry) (entry : Entry) :
    ofEntries (entries ++ [entry]) = ofEntries entries >>= fun draft => draft.add entry := by
  rw [ofEntries, List.foldlM_append]
  simp only [List.foldlM_cons, List.foldlM_nil, bind_pure]
  rfl

end Draft

/-! ## All entries -/

/-- The rules that entries declare, in their order. -/
def declaredRules (entries : List Entry) : List Rule :=
  entries.filterMap Entry.rule?

/-- The bindings that entries declare, in their order. -/
def declaredBindings (entries : List Entry) : List Binding :=
  entries.filterMap Entry.binding?

/-- Entries that fit together. -/
structure IsConsistent (entries : List Entry) : Prop where
  sound : ∀ entry ∈ entries, entry.IsSound
  ids : ((declaredRules entries).map Rule.id).Nodup
  categories : ∀ kind,
    ((Binding.ofKind kind (declaredBindings entries)).map Binding.category).Nodup

theorem isConsistent_nil : IsConsistent [] where
  sound _ h := nomatch h
  ids := List.nodup_nil
  categories _ := List.nodup_nil

theorem declaredRules_concat (entries : List Entry) (entry : Entry) :
    declaredRules (entries ++ [entry]) = declaredRules entries ++ entry.rule?.toList := by
  rw [declaredRules, List.filterMap_append, declaredRules]
  cases h : entry.rule? <;> simp [h]

theorem declaredBindings_concat (entries : List Entry) (entry : Entry) :
    declaredBindings (entries ++ [entry]) =
      declaredBindings entries ++ entry.binding?.toList := by
  rw [declaredBindings, List.filterMap_append, declaredBindings]
  cases h : entry.binding? <;> simp [h]

/-- Consistent entries with one more at the end. -/
theorem isConsistent_concat_iff {entries : List Entry} {entry : Entry} :
    IsConsistent (entries ++ [entry]) ↔ IsConsistent entries ∧
      ((∃ rule, entry.rule? = some rule ∧ rule.id ∉ (declaredRules entries).map Rule.id) ∨
        ∃ binding, entry.binding? = some binding ∧ binding.category ∉
          (Binding.ofKind binding.kind (declaredBindings entries)).map Binding.category) := by
  constructor
  · rintro ⟨hsound, hids, hcategories⟩
    rw [declaredRules_concat] at hids
    refine ⟨⟨fun e he => hsound e (List.mem_append_left _ he), ?_, fun kind => ?_⟩, ?_⟩
    · rw [List.map_append] at hids
      exact (List.nodup_append.1 hids).1
    · have hkind := hcategories kind
      rw [declaredBindings_concat, Binding.ofKind, List.filter_append, List.map_append] at hkind
      exact (List.nodup_append.1 hkind).1
    · rcases hsound entry (List.mem_append_right _ List.mem_cons_self) with
        ⟨rule, hrule⟩ | ⟨binding, hbinding⟩
      · rw [hrule, Option.toList_some, nodup_map_concat] at hids
        exact Or.inl ⟨rule, hrule, hids.1⟩
      · have hkind := hcategories binding.kind
        rw [declaredBindings_concat, hbinding, Option.toList_some, Binding.ofKind_concat,
          if_pos rfl, nodup_map_concat] at hkind
        exact Or.inr ⟨binding, hbinding, hkind.1⟩
  · rintro ⟨⟨hsound, hids, hcategories⟩, hlast⟩
    -- Conversely the last entry extends one of the two lists and leaves the other alone.
    have hsound' : ∀ e ∈ entries ++ [entry], e.IsSound := by
      intro e he
      rcases List.mem_append.1 he with he | he
      · exact hsound e he
      · rw [List.mem_singleton.1 he]
        rcases hlast with ⟨rule, hrule, -⟩ | ⟨binding, hbinding, -⟩
        · exact Or.inl ⟨rule, hrule⟩
        · exact Or.inr ⟨binding, hbinding⟩
    rcases hlast with ⟨rule, hrule, hnew⟩ | ⟨binding, hbinding, hnew⟩
    · refine ⟨hsound', ?_, ?_⟩
      · rw [declaredRules_concat, hrule, Option.toList_some, nodup_map_concat]
        exact ⟨hnew, hids⟩
      · rw [declaredBindings_concat, Entry.binding?_of_rule? hrule, Option.toList_none,
          List.append_nil]
        exact hcategories
    · refine ⟨hsound', ?_, fun kind => ?_⟩
      · rw [declaredRules_concat, Entry.rule?_of_binding? hbinding, Option.toList_none,
          List.append_nil]
        exact hids
      · rw [declaredBindings_concat, hbinding, Option.toList_some, Binding.ofKind_concat]
        split
        · rename_i hkind
          subst hkind
          rw [nodup_map_concat]
          exact ⟨hnew, hcategories binding.kind⟩
        · rw [List.append_nil]
          exact hcategories kind

namespace Draft

/-- A draft without issues was made of consistent entries, and holds what they declare. -/
theorem holds_of_ofEntries {entries : List Entry} {draft : Draft}
    (h : ofEntries entries = .ok draft) (hissues : draft.issues = []) :
    IsConsistent entries ∧ draft.Holds (declaredRules entries) (declaredBindings entries) := by
  induction entries using List.reverseRecOn generalizing draft with
  | nil =>
    cases h
    exact ⟨isConsistent_nil, holds_empty⟩
  | append_singleton entries entry ih =>
    rw [ofEntries_concat] at h
    cases hinit : ofEntries entries with
    | error fault =>
      rw [hinit] at h
      exact nomatch h
    | ok init =>
      rw [hinit] at h
      -- Issues stay in a draft, so there was none before the last entry.
      obtain ⟨hnone, hcases⟩ := add_cases h hissues
      obtain ⟨hconsistent, hholds⟩ := ih hinit hnone
      rw [isConsistent_concat_iff, declaredRules_concat, declaredBindings_concat]
      rcases hcases with ⟨rule, notices, hrule, hnew, rfl⟩ | ⟨binding, hbinding, hnew, rfl⟩
      · rw [hholds.taken] at hnew
        rw [Entry.binding?_of_rule? hrule, hrule, Option.toList_none, List.append_nil]
        exact ⟨⟨hconsistent, Or.inl ⟨rule, rfl, hnew⟩⟩, hholds.accept hnew _ _⟩
      · rw [BindingTable.contains_eq_false_iff, hholds.bindings_eq] at hnew
        rw [Entry.rule?_of_binding? hbinding, hbinding, Option.toList_none, List.append_nil]
        exact ⟨⟨hconsistent, Or.inr ⟨binding, rfl, hnew⟩⟩, hholds.bind hnew⟩

/-- Consistent entries make a draft without issues. -/
theorem ofEntries_of_isConsistent {entries : List Entry} (h : IsConsistent entries) :
    ∃ draft, ofEntries entries = .ok draft ∧
      draft.Holds (declaredRules entries) (declaredBindings entries) := by
  induction entries using List.reverseRecOn with
  | nil => exact ⟨empty, rfl, holds_empty⟩
  | append_singleton entries entry ih =>
    rw [isConsistent_concat_iff] at h
    obtain ⟨hconsistent, hlast⟩ := h
    obtain ⟨init, hinit, hholds⟩ := ih hconsistent
    rw [ofEntries_concat, hinit, declaredRules_concat, declaredBindings_concat]
    rcases hlast with ⟨rule, hrule, hnew⟩ | ⟨binding, hbinding, hnew⟩
    · obtain ⟨notices, hadd⟩ := add_of_rule? hrule (hholds.taken ▸ hnew)
      rw [Entry.binding?_of_rule? hrule, hrule, Option.toList_none, List.append_nil]
      exact ⟨_, hadd, hholds.accept hnew _ _⟩
    · have hadd := add_of_binding? hbinding
        (BindingTable.contains_eq_false_iff.2 (hholds.bindings_eq _ ▸ hnew))
      rw [Entry.rule?_of_binding? hbinding, hbinding, Option.toList_none, List.append_nil]
      exact ⟨_, hadd, hholds.bind hnew⟩

end Draft

/-! ## The base of consistent entries -/

/-- The base of everything that entries declare. -/
def declaredBase (entries : List Entry) : Base :=
  .ofParts (declaredRules entries) (Binding.ofKind .advice (declaredBindings entries))
    (Binding.ofKind .translation (declaredBindings entries))
    (Binding.ofKind .tip (declaredBindings entries))

/-- The base of a draft is made of the rules and bindings that the draft holds. -/
theorem Draft.Holds.toBase {draft : Draft} {rules : List Rule} {bindings : List Binding}
    (h : draft.Holds rules bindings) :
    draft.toBase = .ofParts rules (Binding.ofKind .advice bindings)
      (Binding.ofKind .translation bindings) (Binding.ofKind .tip bindings) := by
  rw [Draft.toBase, h.rules_eq, ← h.bindings_eq .advice, ← h.bindings_eq .translation,
    ← h.bindings_eq .tip]
  rfl

/-- What is built is what the draft of the entries comes to: its base, or else its issues. -/
theorem build_eq_ok_iff {entries : List Entry} {built : Build} :
    build entries = .ok built ↔ ∃ draft, Draft.ofEntries entries = .ok draft ∧
      built = if draft.issues = [] then
          ⟨some draft.toBase, [], draft.notices ++ draft.toBase.coverageNotices⟩
        else ⟨none, draft.issues, draft.notices⟩ := by
  unfold build
  cases Draft.ofEntries entries with
  | error fault => simp [Bind.bind, Except.bind]
  | ok draft =>
    simp only [Bind.bind, Except.bind, pure, Except.pure, List.isEmpty_iff, Except.ok.injEq,
      exists_eq_left']
    split <;> simp [eq_comm]

/-- A base is only built of consistent entries, and it is the base of what they declare. -/
theorem build_eq_ok_some {entries : List Entry} {base : Base} {issues : List Issue}
    {notices : List Notice} (h : build entries = .ok ⟨some base, issues, notices⟩) :
    IsConsistent entries ∧ base = declaredBase entries := by
  obtain ⟨draft, hdraft, hbuilt⟩ := build_eq_ok_iff.1 h
  split at hbuilt
  · rename_i hnone
    cases hbuilt
    obtain ⟨hconsistent, hholds⟩ := Draft.holds_of_ofEntries hdraft hnone
    exact ⟨hconsistent, hholds.toBase⟩
  · cases hbuilt

/-- Consistent entries are built. -/
theorem build_of_isConsistent {entries : List Entry} (h : IsConsistent entries) :
    ∃ notices, build entries = .ok ⟨some (declaredBase entries), [], notices⟩ := by
  obtain ⟨draft, hdraft, hholds⟩ := Draft.ofEntries_of_isConsistent h
  refine ⟨draft.notices ++ draft.toBase.coverageNotices, build_eq_ok_iff.2 ⟨draft, hdraft, ?_⟩⟩
  rw [if_pos hholds.issues, declaredBase, ← hholds.toBase]

end RuleConsult
