import RuleConsult.Draft.Builder
import RuleConsult.Proofs.Draft.Exact

/-!
# All issues, and no others

What is wrong with an entry can be said of the entry and of those before it, without a draft. A rule
whose number is taken has this one issue, whatever else is wrong with it; a rule that lacks a part
has that one; bad tokens hide contradictions, but not each other. A binding counts against later
ones only if its category is a token. The issues of a list of entries are those of its entries in
order, and a builder reports exactly these, whatever it has built before.

* `Entry.issuesBehind` and `issuesOf`: the issues, entry by entry;
* `issues_checkConditions`: contradictions against the first mention of a category;
* `Draft.Tracks` and `Draft.tracks_declare`: what a draft knows of the entries declared in it;
* `Builder.build_reports_issuesOf`: what a builder reports.
-/

namespace RuleConsult

open Text

/-! ## The issues of an entry -/

/-- The issue of a condition whose category was first mentioned with another value. -/
def contradiction? (line id : Int) (conditions : List Pair) (pair : Pair) : Option Issue :=
  (conditions.find? fun known => known.category == pair.category).bind fun first =>
    if first.value = pair.value then none
    else some ⟨.contradiction id pair.category first.value pair.value, line⟩

/-- The issues of a rule whose number is not taken: a missing part, or else bad tokens, or else
contradictions and self-reference. -/
def ruleIssues (line id : Int) (conditions : List Pair) (conclusion? : Option Pair) :
    List Issue :=
  match conclusion? with
  | none => [⟨.malformedRule, line⟩]
  | some conclusion =>
    if conditions = [] then [⟨.malformedRule, line⟩]
    else if badTokens (conditions ++ [conclusion]) ≠ [] then
      (badTokens (conditions ++ [conclusion])).map fun token => ⟨.malformedToken token, line⟩
    else
      conditions.filterMap (contradiction? line id conditions) ++
        if conclusion.category ∈ conditions.map Pair.category then
          [⟨.selfReference id conclusion.category, line⟩]
        else []

/-- The issues of an entry that stands behind others. What is not written in digits is no number. A
number is taken by any rule before, also by one with issues; a category is bound only by a binding
whose category is a token. -/
def Entry.issuesBehind (before : List Entry) (entry : Entry) : List Issue :=
  match entry.body with
  | .rule _ conditions conclusion? =>
    match entry.number? with
    | none => [⟨.malformedRule, entry.line⟩]
    | some id =>
      match before.find? fun other => other.number? = some id with
      | some first => [⟨.duplicateRule id first.line, entry.line⟩]
      | none => ruleIssues entry.line id conditions conclusion?
  | .binding kind category _ =>
    if isToken category = false then [⟨.malformedToken category, entry.line⟩]
    else if category ∈ (Binding.ofKind kind (declaredBindings before)).map Binding.category then
      [⟨.duplicateBinding kind category, entry.line⟩]
    else []

/-- The issues of entries, in their order. -/
def issuesOf (entries : List Entry) : List Issue :=
  (entries.mapIdx fun k entry => entry.issuesBehind (entries.take k)).flatten

theorem issuesOf_concat (entries : List Entry) (entry : Entry) :
    issuesOf (entries ++ [entry]) = issuesOf entries ++ entry.issuesBehind entries := by
  have hinit : (entries.mapIdx fun k other => other.issuesBehind ((entries ++ [entry]).take k)) =
      entries.mapIdx fun k other => other.issuesBehind (entries.take k) := by
    refine List.ext_getElem (by simp) fun k hk hk' => ?_
    rw [List.length_mapIdx] at hk
    simp only [List.getElem_mapIdx, List.take_append_of_le_length (Nat.le_of_lt hk)]
  rw [issuesOf, List.mapIdx_concat, hinit, List.flatten_append, List.take_left, issuesOf]
  simp

/-- An issue of a rule whose number is not taken: a part is missing, a token is bad, or the parts do
not go together. -/
theorem mem_ruleIssues_cases {line id : Int} {conditions : List Pair} {conclusion? : Option Pair}
    {issue : Issue} (h : issue ∈ ruleIssues line id conditions conclusion?) :
    ((conclusion? = none ∨ conditions = []) ∧ issue = ⟨.malformedRule, line⟩) ∨
      (∃ conclusion token, conclusion? = some conclusion ∧
        token ∈ badTokens (conditions ++ [conclusion]) ∧ issue = ⟨.malformedToken token, line⟩) ∨
      (∃ category first other, issue = ⟨.contradiction id category first other, line⟩) ∨
      ∃ category, issue = ⟨.selfReference id category, line⟩ := by
  unfold ruleIssues at h
  split at h
  · exact Or.inl ⟨Or.inl rfl, List.mem_singleton.1 h⟩
  · rename_i conclusion
    split at h
    · rename_i hnone
      exact Or.inl ⟨Or.inr hnone, List.mem_singleton.1 h⟩
    · split at h
      · obtain ⟨token, htoken, rfl⟩ := List.mem_map.1 h
        exact Or.inr (Or.inl ⟨conclusion, token, rfl, htoken, rfl⟩)
      · rcases List.mem_append.1 h with hcontradiction | hself
        · obtain ⟨pair, -, hpair⟩ := List.mem_filterMap.1 hcontradiction
          obtain ⟨first, -, hfirst⟩ := Option.bind_eq_some_iff.1 hpair
          obtain ⟨-, hissue⟩ := Option.ite_none_left_eq_some.1 hfirst
          cases hissue
          exact Or.inr (Or.inr (Or.inl ⟨_, _, _, rfl⟩))
        · obtain ⟨-, hissue⟩ := List.mem_ite_nil_right.1 hself
          exact Or.inr (Or.inr (Or.inr ⟨_, List.mem_singleton.1 hissue⟩))

/-- The issues of an entry carry its line. -/
theorem Entry.line_of_mem_issuesBehind {before : List Entry} {entry : Entry} {issue : Issue}
    (h : issue ∈ entry.issuesBehind before) : issue.line = entry.line := by
  unfold Entry.issuesBehind at h
  split at h
  · split at h
    · rw [List.mem_singleton.1 h]
    · split at h
      · rw [List.mem_singleton.1 h]
      · rcases mem_ruleIssues_cases h with
          ⟨-, rfl⟩ | ⟨_, _, -, -, rfl⟩ | ⟨_, _, _, rfl⟩ | ⟨_, rfl⟩ <;> rfl
  · split at h
    · rw [List.mem_singleton.1 h]
    · obtain ⟨-, hissue⟩ := List.mem_ite_nil_right.1 h
      rw [List.mem_singleton.1 hissue]

/-! ## Checked rules -/

variable {line id : Int}

/-- The accepted condition of a category is its first mention. -/
theorem find?_accepted_checkConditions (line id : Int) (pairs : List Pair) (category : String) :
    ((checkConditions line id pairs).accepted.find? fun known => known.category == category) =
      pairs.find? fun known => known.category == category := by
  induction pairs using List.reverseRecOn with
  | nil => rfl
  | append_singleton pairs pair ih =>
    rw [checkConditions_concat, ConditionCheck.add, List.find?_append, ← ih]
    split
    · exact List.find?_append
    · rename_i known hknown
      -- A second mention is dropped, and the first one is found before it.
      have hrest : (checkConditions line id pairs).accepted.find?
            (fun known => known.category == category) =
          ((checkConditions line id pairs).accepted.find?
            (fun known => known.category == category)).or
              ([pair].find? fun known => known.category == category) := by
        by_cases hcategory : pair.category = category
        · rw [← hcategory, hknown]
          rfl
        · rw [List.find?_cons_of_neg (by simpa using hcategory), List.find?_nil, Option.or_none]
      split <;> exact hrest

/-- A category is accepted exactly if it is mentioned. -/
theorem any_accepted_checkConditions (line id : Int) (pairs : List Pair) (category : String) :
    ((checkConditions line id pairs).accepted.any fun known => known.category == category) =
      decide (category ∈ pairs.map Pair.category) := by
  rw [Bool.eq_iff_iff, List.any_eq_true, ← List.find?_isSome, find?_accepted_checkConditions,
    List.find?_isSome]
  simp

/-- Each condition is compared with the first mention of its category. -/
theorem issues_checkConditions (line id : Int) (pairs : List Pair) :
    (checkConditions line id pairs).issues =
      pairs.filterMap (contradiction? line id pairs) := by
  induction pairs using List.reverseRecOn with
  | nil => rfl
  | append_singleton pairs pair ih =>
    -- What was mentioned before keeps its first mention.
    have hinit : pairs.filterMap (contradiction? line id (pairs ++ [pair])) =
        pairs.filterMap (contradiction? line id pairs) := by
      refine List.filterMap_congr fun known hknown => ?_
      have hsome : (pairs.find? fun other => other.category == known.category).isSome = true :=
        List.find?_isSome.2 ⟨known, hknown, beq_self_eq_true _⟩
      obtain ⟨first, hfirst⟩ := Option.isSome_iff_exists.1 hsome
      rw [contradiction?, contradiction?, List.find?_append, hfirst]
      rfl
    have hlast : contradiction? line id (pairs ++ [pair]) pair =
        ((pairs.find? fun known => known.category == pair.category).bind fun first =>
          if first.value = pair.value then none
          else some ⟨.contradiction id pair.category first.value pair.value, line⟩) := by
      rw [contradiction?, List.find?_append]
      cases pairs.find? fun known => known.category == pair.category with
      | some first => rfl
      | none => simp
    rw [checkConditions_concat, ConditionCheck.add, find?_accepted_checkConditions,
      List.filterMap_append, hinit, ← ih, List.filterMap_cons, hlast]
    cases pairs.find? fun known => known.category == pair.category with
    | none => simp
    | some first =>
      by_cases hvalue : first.value = pair.value <;> simp [hvalue]

/-- The check of a rule with a number finds its issues. -/
theorem issues_checkRule (line id : Int) (conditions : List Pair) (conclusion? : Option Pair) :
    (checkRule line (some id) conditions conclusion?).issues =
      ruleIssues line id conditions conclusion? := by
  cases conclusion? with
  | none => rfl
  | some conclusion =>
    cases conditions with
    | nil => rfl
    | cons first others =>
      rw [ruleIssues, if_neg (List.cons_ne_nil _ _), checkRule]
      cases hbad : badTokens (first :: others ++ [conclusion]) with
      | cons token tokens => rfl
      | nil =>
        dsimp only
        rw [issues_checkConditions, any_accepted_checkConditions, if_neg (not_not.2 rfl)]
        simp

/-! ## Drafts -/

/-- The number of a rule is read as an integer, or there is none if it is not written in digits. -/
theorem Entry.ruleNumber_eq {entry : Entry} {number : String} {conditions : List Pair}
    {conclusion? : Option Pair} (hbody : entry.body = .rule number conditions conclusion?)
    (hreads : entry.NumberReads) : ruleNumber number = .ok entry.number? := by
  simp only [NumberReads, hbody] at hreads
  simp only [number?, hbody, ruleNumber]
  split
  · rename_i hdigits
    obtain ⟨n, hn⟩ := hreads hdigits
    rw [hn]
    rfl
  · rename_i hdigits
    cases hread : readNumeral number with
    | error fault => rfl
    | ok n => exact absurd (isDigits_of_readNumeral hread) hdigits

namespace Draft

/-- What a draft knows of the entries that were declared in it, issues included: the numbers with
the lines of their first rules, and the bound categories. -/
structure Tracks (draft : Draft) (entries : List Entry) : Prop where
  issues : draft.issues = issuesOf entries
  taken : ∀ id, draft.taken.get? id =
    (entries.find? fun other => other.number? = some id).map Entry.line
  bound : ∀ kind category, (draft.bindings kind).contains category = true ↔
    category ∈ (Binding.ofKind kind (declaredBindings entries)).map Binding.category

theorem tracks_empty : empty.Tracks [] where
  issues := rfl
  taken _ := rfl
  bound kind category := by
    cases kind <;>
      simp [bindings, empty, BindingTable.contains, BindingTable.empty, Table.contains,
        Table.empty, declaredBindings, Binding.ofKind]

variable {draft : Draft} {entries : List Entry} {entry : Entry}

/-- The first rule of a number, if there is one before, stays the first one. -/
theorem line_of_number_concat (entries : List Entry) (entry : Entry) (id : Int) :
    ((entries ++ [entry]).find? fun other => other.number? = some id).map Entry.line =
      ((entries.find? fun other => other.number? = some id).map Entry.line).or
        (if entry.number? = some id then some entry.line else none) := by
  rw [List.find?_append]
  cases entries.find? fun other => other.number? = some id with
  | some first => rfl
  | none => by_cases hid : entry.number? = some id <;> simp [hid]

/-- A draft that knows all but the last entry knows that one, too, once its issues, its number and
its binding are added. -/
theorem Tracks.concat {next : Draft} (h : draft.Tracks entries)
    (hissues : next.issues = draft.issues ++ entry.issuesBehind entries)
    (htaken : ∀ id, next.taken.get? id =
      (draft.taken.get? id).or (if entry.number? = some id then some entry.line else none))
    (hbound : ∀ kind category, (next.bindings kind).contains category = true ↔
      (draft.bindings kind).contains category = true ∨
        ∃ binding, entry.binding? = some binding ∧ binding.kind = kind ∧
          binding.category = category) :
    next.Tracks (entries ++ [entry]) where
  issues := by rw [hissues, h.issues, issuesOf_concat]
  taken id := by rw [htaken, h.taken, line_of_number_concat]
  bound kind category := by
    rw [hbound, h.bound, declaredBindings_concat]
    simp only [Binding.ofKind, List.filter_append, List.map_append, List.mem_append]
    refine or_congr Iff.rfl ?_
    cases entry.binding? <;> simp

/-- A rule whose number is read is declared with its issues; its number is taken, whatever they
are. -/
theorem Tracks.add_rule (h : draft.Tracks entries) {number : String} {conditions : List Pair}
    {conclusion? : Option Pair} (hbody : entry.body = .rule number conditions conclusion?)
    (hreads : entry.NumberReads) :
    ∃ next, draft.add entry = .ok next ∧ next.Tracks (entries ++ [entry]) := by
  have hbinding : entry.binding? = none := by simp only [Entry.binding?, hbody]
  -- Declaring a rule binds no category.
  have hbound (next : Draft) (hsame : ∀ kind, next.bindings kind = draft.bindings kind) :
      ∀ kind category, (next.bindings kind).contains category = true ↔
        (draft.bindings kind).contains category = true ∨
          ∃ binding, entry.binding? = some binding ∧ binding.kind = kind ∧
            binding.category = category := by
    intro kind category
    simp [hsame, hbinding]
  rw [Draft.add, hbody]
  dsimp only
  rw [addRule_of_ruleNumber draft _ _ _ (Entry.ruleNumber_eq hbody hreads)]
  cases hnumber : entry.number? with
  | none =>
    refine ⟨_, rfl, h.concat ?_ (fun id => ?_) (hbound _ fun kind => by cases kind <;> rfl)⟩
    · simp only [Entry.issuesBehind, hbody, hnumber]
      rfl
    · rw [hnumber, if_neg (Option.some_ne_none id).symm, Option.or_none]
      rfl
  | some id =>
    have hget := h.taken id
    cases hfirst : entries.find? fun other => other.number? = some id with
    | some first =>
      -- The number is taken, and stays taken by the rule that was first.
      rw [hfirst, Option.map_some] at hget
      dsimp only
      rw [hget]
      refine ⟨_, rfl, h.concat ?_ (fun other => ?_) (hbound _ fun kind => by cases kind <;> rfl)⟩
      · simp only [Entry.issuesBehind, hbody, hnumber, hfirst]
        rfl
      · by_cases hother : id = other
        · subst hother
          rw [hget]
          exact hget
        · rw [hnumber, if_neg (by simpa using hother), Option.or_none]
          rfl
    | none =>
      -- The number is new, and taken before the rule is checked.
      rw [hfirst, Option.map_none] at hget
      dsimp only
      rw [hget]
      refine ⟨_, rfl, h.concat ?_ (fun other => ?_) (hbound _ fun kind => by cases kind <;> rfl)⟩
      · simp only [Entry.issuesBehind, hbody, hnumber, hfirst, ← issues_checkRule]
        rfl
      · by_cases hother : other = id
        · subst hother
          rw [hget, hnumber, if_pos rfl]
          exact Table.get?_insert_self _ _ _
        · rw [hnumber, if_neg (by simpa [eq_comm] using hother), Option.or_none]
          exact (Table.get?_insert _ _ _ _).trans (if_neg hother)

/-- A binding is declared with its issues; its category is bound if it is a token. -/
theorem Tracks.add_binding (h : draft.Tracks entries) {kind : BindingKind} {category text : String}
    (hbody : entry.body = .binding kind category text) :
    (draft.addBinding entry.line kind category text).Tracks (entries ++ [entry]) := by
  have hnumber : entry.number? = none := by simp only [Entry.number?, hbody]
  -- Declaring a binding takes no number.
  have htaken (next : Draft) (hsame : next.taken = draft.taken) : ∀ id, next.taken.get? id =
      (draft.taken.get? id).or (if entry.number? = some id then some entry.line else none) := by
    intro id
    rw [hsame, hnumber, if_neg (Option.some_ne_none id).symm, Option.or_none]
  cases htoken : isToken category with
  | false =>
    have hbinding : entry.binding? = none := by simp [Entry.binding?, hbody, htoken]
    rw [addBinding, if_pos (by rw [htoken]; rfl)]
    refine h.concat ?_ (htaken _ rfl) fun other name => ?_
    · simp only [Entry.issuesBehind, hbody, htoken]
      rfl
    · rw [hbinding]
      cases other <;> simp [Draft.report, Draft.bindings]
  | true =>
    have hbinding : entry.binding? = some ⟨kind, category, text, some entry.line⟩ := by
      simp [Entry.binding?, hbody, htoken]
    rw [addBinding, if_neg (by rw [htoken]; decide)]
    by_cases hcontains : (draft.bindings kind).contains category = true
    · -- The category is bound, and remains bound.
      rw [if_pos hcontains]
      refine h.concat ?_ (htaken _ rfl) fun other name => ?_
      · simp only [Entry.issuesBehind, hbody, htoken, (h.bound kind category).1 hcontains]
        rfl
      · have hsame : ∀ kind, (draft.report [⟨.duplicateBinding kind category, entry.line⟩]
            []).bindings other = draft.bindings other := fun _ => by cases other <;> rfl
        rw [hsame, hbinding]
        refine ⟨Or.inl, fun hor => hor.elim id ?_⟩
        rintro ⟨_, ⟨⟩, rfl, rfl⟩
        exact hcontains
    · rw [if_neg hcontains]
      obtain ⟨hissues, -, hbindTaken⟩ := bind_frame draft ⟨kind, category, text, some entry.line⟩
      refine h.concat ?_ (htaken _ hbindTaken) fun other name => ?_
      · have hnew := (h.bound kind category).not.1 hcontains
        simp only [Entry.issuesBehind, hbody, htoken, hnew, hissues]
        simp
      · rw [bindings_bind, hbinding]
        by_cases hkind : kind = other
        · subst hkind
          rw [if_pos rfl, BindingTable.contains_insert]
          refine ⟨fun hor => hor.symm.imp_right fun heq => ⟨_, rfl, rfl, heq.symm⟩, ?_⟩
          rintro (hold | ⟨_, ⟨⟩, -, rfl⟩)
          · exact Or.inr hold
          · exact Or.inl rfl
        · simp [hkind]

/-- Declaring an entry whose number is read goes through, and nothing of it is missed. -/
theorem Tracks.add (h : draft.Tracks entries) (hreads : entry.NumberReads) :
    ∃ next, draft.add entry = .ok next ∧ next.Tracks (entries ++ [entry]) := by
  cases hbody : entry.body with
  | rule number conditions conclusion? => exact h.add_rule hbody hreads
  | binding kind category text => exact ⟨_, by rw [Draft.add, hbody], h.add_binding hbody⟩

/-- Declaring entries whose numbers are read goes through, and nothing of them is missed. -/
theorem Tracks.declare (h : draft.Tracks entries) {more : List Entry}
    (hreads : ∀ entry ∈ more, entry.NumberReads) :
    ∃ last, draft.declare more = (last, none) ∧ more.foldlM Draft.add draft = .ok last ∧
      last.Tracks (entries ++ more) := by
  induction more generalizing draft entries with
  | nil => exact ⟨draft, rfl, rfl, by rwa [List.append_nil]⟩
  | cons entry more ih =>
    obtain ⟨next, hadd, hnext⟩ := h.add (hreads entry List.mem_cons_self)
    obtain ⟨last, hdeclare, hfold, hlast⟩ :=
      ih hnext fun other hother => hreads other (List.mem_cons_of_mem _ hother)
    refine ⟨last, ?_, ?_, ?_⟩
    · rw [Draft.declare, hadd]
      exact hdeclare
    · rw [List.foldlM_cons, hadd]
      exact hfold
    · rwa [List.append_assoc, List.singleton_append] at hlast

end Draft

/-! ## Builders -/

/-- A builder reports all issues of entries and no others, whatever it has built before. It fails if
there are any and makes the base that the entries declare if there are none, and it shows the
issues in either case; each issue carries the line of its entry. -/
theorem Builder.build_reports_issuesOf (builder : Builder) {entries : List Entry}
    (hreads : ∀ entry ∈ entries, entry.NumberReads) :
    (builder.build entries).1 =
        (if issuesOf entries = [] then .ok (declaredBase entries)
        else .error (.inconsistent (issuesOf entries))) ∧
      (builder.build entries).2.issues = issuesOf entries ∧
      ∀ (before after : List Entry) (entry : Entry), entries = before ++ entry :: after →
        ∀ issue ∈ entry.issuesBehind before, issue.line = entry.line := by
  obtain ⟨last, hdeclare, hfold, hlast⟩ := Draft.tracks_empty.declare hreads
  rw [List.nil_append] at hlast
  have hbegun : { Draft.empty with issues := [], notices := [] }.declare entries = (last, none) :=
    hdeclare
  refine ⟨?_, ?_, fun _ _ _ _ issue => Entry.line_of_mem_issuesBehind⟩
  · rw [Builder.build, hbegun]
    dsimp only
    rw [← hlast.issues]
    by_cases hissues : last.issues = []
    · -- Without issues the draft holds what the entries declare.
      have hholds := (Draft.holds_of_ofEntries hfold hissues).2
      rw [if_pos (List.isEmpty_iff.2 hissues), if_pos hissues, hholds.toBase]
      rfl
    · rw [if_neg (by simpa using hissues), if_neg hissues]
  · rw [Builder.build, hbegun, ← hlast.issues]
    dsimp only
    split <;> rfl

/-- Entries that are all wrong, but for a question and a tip: a rule that contradicts itself, one
with its number, one without a number, one with bad tokens; a question for what is no category,
twice, and one that is asked before. -/
def faultyEntries : List Entry :=
  [⟨0, 1, 1, .rule "1" [⟨"a", "x"⟩, ⟨"b", "x"⟩, ⟨"a", "y"⟩, ⟨"a", "z"⟩] (some ⟨"b", "z"⟩)⟩,
    ⟨40, 2, 1, .rule "01" [] none⟩,
    ⟨50, 3, 1, .rule "one" [⟨"a", "x"⟩] (some ⟨"c", "z"⟩)⟩,
    ⟨80, 4, 1, .rule "2" [⟨"", "x"⟩, ⟨"a", "x"⟩, ⟨"a", "y"⟩] (some ⟨"c", "z z"⟩)⟩,
    ⟨120, 5, 1, .binding .advice "a b" "which?"⟩,
    ⟨140, 6, 1, .binding .advice "a b" "which?"⟩,
    ⟨160, 7, 1, .binding .advice "a" "which a?"⟩,
    ⟨180, 8, 1, .binding .tip "a" "look at a"⟩,
    ⟨200, 9, 1, .binding .advice "a" "which a?"⟩]

/-- The issues of faulty entries, from a builder that has built something else before. -/
theorem build_reports_issuesOf_faultyEntries :
    (∀ entry ∈ faultyEntries, entry.NumberReads) ∧
      (((Builder.new.build mixedEntries).2.build faultyEntries).2.issues =
        [⟨.contradiction 1 "a" "x" "y", 1⟩, ⟨.contradiction 1 "a" "x" "z", 1⟩,
          ⟨.selfReference 1 "b", 1⟩, ⟨.duplicateRule 1 1, 2⟩, ⟨.malformedRule, 3⟩,
          ⟨.malformedToken "", 4⟩, ⟨.malformedToken "z z", 4⟩, ⟨.malformedToken "a b", 5⟩,
          ⟨.malformedToken "a b", 6⟩, ⟨.duplicateBinding .advice "a", 9⟩]) ∧
      ((Builder.new.build mixedEntries).2.build faultyEntries).1 =
        .error (.inconsistent (issuesOf faultyEntries)) := by
  have hreads : ∀ entry ∈ faultyEntries, entry.NumberReads := by
    simp only [faultyEntries, List.forall_mem_cons, List.not_mem_nil, false_imp_iff, implies_true,
      and_true]
    refine ⟨fun _ => ⟨1, by decide +kernel⟩, fun _ => ⟨1, by decide +kernel⟩, fun h => ?_,
      fun _ => ⟨2, by decide +kernel⟩, trivial, trivial, trivial, trivial, trivial⟩
    exact absurd h (by decide +kernel)
  obtain ⟨hresult, hshown, -⟩ :=
    Builder.build_reports_issuesOf (Builder.new.build mixedEntries).2 hreads
  refine ⟨hreads, ?_, ?_⟩
  · rw [hshown]
    decide +kernel
  · rw [hresult]
    exact if_neg (by decide +kernel)

end RuleConsult
