import RuleConsult.Proofs.Consult.Termination

/-!
# Inference is complete where nothing conflicts

A base is a set of Horn clauses over pairs, so it has a least model above given facts: the pairs
that follow from them. An engine does not compute it in general. It fires a number once and lets
values replace each other, so what holds at its end depends on the order of firing. But if the given
facts and all conclusions agree, no value is ever replaced by another one; then an engine that stops
without a conclusion knows just what follows from the facts and answers it was given, and it comes
to a conclusion exactly if one follows.

* `Base.isLeast_consequences`: the least model;
* `Engine.pairs_subset_of_isClosed`: over any base nothing is known but what follows;
* `Engine.pairs_eq_consequences`: without conflicts everything that follows is known in the end;
* `complete_of_agree`: conclusions are reached exactly where they follow.
-/

namespace RuleConsult

/-! ## What follows from given pairs -/

/-- The known pairs. -/
def Facts.pairs (facts : Facts) : Set Pair :=
  {pair | facts.get? pair.category = some pair.value}

theorem Facts.mem_pairs {facts : Facts} {pair : Pair} :
    pair ∈ facts.pairs ↔ facts.get? pair.category = some pair.value := Iff.rfl

/-- No category has two values. -/
def Agree (pairs : Set Pair) : Prop :=
  ∀ a ∈ pairs, ∀ b ∈ pairs, a.category = b.category → a.value = b.value

/-- Two agreeing pairs of one category are the same. -/
theorem Agree.eq {pairs : Set Pair} (h : Agree pairs) {a b : Pair} (ha : a ∈ pairs)
    (hb : b ∈ pairs) (hcategory : a.category = b.category) : a = b := by
  have hvalue := h a ha b hb hcategory
  cases a
  cases b
  cases hcategory
  cases hvalue
  rfl

namespace Base

variable {base : Base} {given pairs : Set Pair}

/-- The pairs that rules conclude. -/
def conclusions (base : Base) : Set Pair :=
  {pair | ∃ rule ∈ base.rules, rule.conclusion = pair}

/-- A set that holds the conclusion of every rule whose conditions it holds. -/
def IsClosed (base : Base) (pairs : Set Pair) : Prop :=
  ∀ rule ∈ base.rules, (∀ pair ∈ rule.conditions, pair ∈ pairs) → rule.conclusion ∈ pairs

/-- What follows from given pairs: everything that is in all closed sets above them. -/
def consequences (base : Base) (given : Set Pair) : Set Pair :=
  ⋂₀ {pairs | given ⊆ pairs ∧ base.IsClosed pairs}

/-- What follows from given pairs is the least set that holds them and is closed. -/
theorem isLeast_consequences (base : Base) (given : Set Pair) :
    IsLeast {pairs | given ⊆ pairs ∧ base.IsClosed pairs} (base.consequences given) := by
  constructor
  · constructor
    · exact Set.subset_sInter fun pairs hpairs => hpairs.1
    · intro rule hrule hconditions pairs hpairs
      -- Every closed set holds the conditions, so it holds the conclusion.
      apply hpairs.2 rule hrule
      intro pair hpair
      exact hconditions pair hpair pairs hpairs
  · intro pairs hpairs
    exact Set.sInter_subset_of_mem hpairs

theorem given_subset_consequences : given ⊆ base.consequences given :=
  (base.isLeast_consequences given).1.1

/-- The consequences of facts are closed under the rules. -/
theorem isClosed_consequences : base.IsClosed (base.consequences given) :=
  (base.isLeast_consequences given).1.2

/-- The consequences of facts lie in every closed set around them. -/
theorem consequences_subset (hgiven : given ⊆ pairs) (hclosed : base.IsClosed pairs) :
    base.consequences given ⊆ pairs :=
  (base.isLeast_consequences given).2 ⟨hgiven, hclosed⟩

/-- What follows was given, or it is the conclusion of a rule. -/
theorem consequences_subset_union : base.consequences given ⊆ given ∪ base.conclusions :=
  consequences_subset Set.subset_union_left
    fun rule hrule _ => Or.inr ⟨rule, hrule, rfl⟩

end Base

/-! ## What is known -/

theorem Facts.pairs_insert_subset (facts : Facts) (pair : Pair) :
    Facts.pairs (facts.insert pair.category pair.value) ⊆ insert pair facts.pairs := by
  intro other hother
  rw [Facts.mem_pairs, Table.get?_insert] at hother
  by_cases hcategory : other.category = pair.category
  · rw [if_pos hcategory] at hother
    left
    cases other
    cases pair
    cases hcategory
    cases hother
    rfl
  · rw [if_neg hcategory] at hother
    exact Or.inr hother

/-- A rule is satisfied if its conditions are known. -/
theorem Rule.isSatisfiedBy_iff {rule : Rule} {facts : Facts} :
    rule.isSatisfiedBy facts = true ↔ ∀ pair ∈ rule.conditions, pair ∈ facts.pairs := by
  simp only [Rule.isSatisfiedBy, List.all_eq_true, beq_iff_eq]
  rfl

namespace Engine

/-- What a consultation was given: the initial facts and the accepted answers. -/
def given (start : Engine) (calls : List Call) : Set Pair :=
  start.memory.pairs ∪ {pair | (pair.category, pair.value) ∈ start.accepted calls}

theorem mem_given {start : Engine} {calls : List Call} {pair : Pair} :
    pair ∈ start.given calls ↔
      pair ∈ start.memory.pairs ∨ (pair.category, pair.value) ∈ start.accepted calls := Iff.rfl

/-- The pair that resolves a consultation is known, and it is of a category that is wanted. -/
theorem reached?_eq_some {engine : Engine} {pair : Pair} (h : engine.reached? = some pair) :
    pair.category ∈ engine.wanted ∧ pair ∈ engine.memory.pairs := by
  obtain ⟨category, hcategory, hfound⟩ := List.exists_of_findSome?_eq_some h
  obtain ⟨value, hvalue, rfl⟩ := Option.map_eq_some_iff.1 hfound
  exact ⟨hcategory, hvalue⟩

variable {base : Base} {target : Datum} {initial : List (Datum × Datum)} {focused : Bool}
  {start : Engine}

/-- Over any base, what is known is in every closed set that holds the initial facts and the
accepted answers. -/
theorem pairs_subset_of_isClosed (hstart : Engine.start base target initial focused = .ok start)
    (calls : List Call) {pairs : Set Pair} (hgiven : start.given calls ⊆ pairs)
    (hclosed : base.IsClosed pairs) : (start.after calls).memory.pairs ⊆ pairs := by
  have hstanding := isStanding_of_start hstart
  have hbase := base_of_start hstart
  have hsteps : (start.after calls).base = base ∧
      ((∀ answer ∈ acceptedAnswers (start.log calls), ⟨answer.1, answer.2⟩ ∈ pairs) →
        (start.after calls).memory.pairs ⊆ pairs) := by
    refine after_induction (motive := fun log engine => engine.base = base ∧
      ((∀ answer ∈ acceptedAnswers log, ⟨answer.1, answer.2⟩ ∈ pairs) →
        engine.memory.pairs ⊆ pairs)) hstanding ?_ ?_ ?_ ?_ calls
    · exact ⟨hbase, fun _ => Set.subset_union_left.trans hgiven⟩
    · intro log engine h _
      exact h
    · intro log engine rule h hnext
      refine ⟨h.1, fun hanswers => ?_⟩
      rw [acceptedAnswers_append] at hanswers
      have hknown := h.2 fun answer hanswer => hanswers answer (List.mem_append_left _ hanswer)
      -- The conditions of a rule that fires are known, so they are in the closed set.
      obtain ⟨hrule, -⟩ := mem_unfired.1 (mem_unfired_of_next? hnext)
      have hsatisfied : rule.isSatisfiedBy engine.memory = true := by
        simpa using List.find?_some (next?_eq_some_iff.1 hnext).2
      have hconclusion : rule.conclusion ∈ pairs := by
        apply hclosed rule (h.1 ▸ hrule)
        intro pair hpair
        exact hknown (Rule.isSatisfiedBy_iff.1 hsatisfied pair hpair)
      exact (Facts.pairs_insert_subset _ _).trans (Set.insert_subset hconclusion hknown)
    · intro log engine asked answer h _ _ _
      refine ⟨h.1, fun hanswers => ?_⟩
      rw [acceptedAnswers_append] at hanswers
      have hknown := h.2 fun answer hanswer => hanswers answer (List.mem_append_left _ hanswer)
      have hanswer : (⟨asked, answer⟩ : Pair) ∈ pairs :=
        hanswers (asked, answer) (List.mem_append_right _ List.mem_cons_self)
      exact (Facts.pairs_insert_subset _ ⟨asked, answer⟩).trans
        (Set.insert_subset hanswer hknown)
  apply hsteps.2
  intro answer hanswer
  rw [acceptedAnswers_log] at hanswer
  exact hgiven (Or.inr hanswer)

/-! ## Without conflicts -/

/-- Without conflicts nothing that was given or concluded is replaced by another value. -/
theorem mem_pairs_of_agree (hbase : base.IsSound)
    (hstart : Engine.start base target initial focused = .ok start) {calls : List Call}
    (hagree : Agree (start.given calls ∪ base.conclusions)) {pair : Pair}
    (hpair : pair ∈ start.given calls ∨
      ∃ rule ∈ firedRules (start.log calls), rule.conclusion = pair) :
    pair ∈ (start.after calls).memory.pairs := by
  have hfollows := Follows.after hbase hstart calls
  have hrules := base_of_start hstart
  have hanswers := acceptedAnswers_log start calls
  -- Every event writes a pair that was given or is the conclusion of a rule.
  have hevents : ∀ event ∈ start.log calls,
      (⟨event.fact.1, event.fact.2⟩ : Pair) ∈ start.given calls ∪ base.conclusions := by
    intro event hevent
    cases event with
    | fired rule =>
      have hrule := hfollows.rightly.mem_rules (mem_firedRules.2 hevent)
      exact Or.inr ⟨rule, hrules ▸ hrule, rfl⟩
    | answered category value =>
      left
      rw [mem_given, ← hanswers]
      exact Or.inr (List.mem_filterMap.2 ⟨_, hevent, rfl⟩)
  have hmember : pair ∈ start.given calls ∪ base.conclusions := by
    rcases hpair with hgiven | ⟨rule, hrule, rfl⟩
    · exact Or.inl hgiven
    · exact Or.inr ⟨rule, hrules ▸ hfollows.rightly.mem_rules hrule, rfl⟩
  rw [Facts.mem_pairs, hfollows.memory, replay]
  apply Table.get?_insertMany_of_agree
  · rw [mem_given, ← hanswers] at hpair
    rcases hpair with (hinitial | hanswer) | ⟨rule, hrule, rfl⟩
    · exact Or.inl hinitial
    · obtain ⟨event, hevent, heq⟩ := List.mem_filterMap.1 hanswer
      cases event with
      | fired rule => cases heq
      | answered category value =>
        cases heq
        exact Or.inr (List.mem_map_of_mem hevent)
    · exact Or.inr (List.mem_map_of_mem (mem_firedRules.1 hrule))
  · intro other hother
    exact hagree ⟨pair.category, other⟩ (Or.inl (Or.inl hother)) pair hmember rfl
  · intro other hother
    obtain ⟨event, hevent, heq⟩ := List.mem_map.1 hother
    have hfact := hevents event hevent
    rw [heq] at hfact
    exact hagree _ hfact pair hmember rfl

/-- Without conflicts an engine that stops without a conclusion knows exactly what follows. -/
theorem pairs_eq_consequences (hbase : base.IsSound)
    (hstart : Engine.start base target initial focused = .ok start) {calls : List Call}
    (hagree : Agree (start.given calls ∪ base.conclusions))
    (hstopped : (start.after calls).IsStopped) (hreached : (start.after calls).reached? = none) :
    (start.after calls).memory.pairs = base.consequences (start.given calls) := by
  apply Set.Subset.antisymm
  · exact pairs_subset_of_isClosed hstart calls Base.given_subset_consequences
      Base.isClosed_consequences
  · apply Base.consequences_subset
    · intro pair hpair
      exact mem_pairs_of_agree hbase hstart hagree (Or.inl hpair)
    · intro rule hrule hconditions
      have hadvances := Advances.after hstart calls
      have hrules := base_of_start hstart
      -- A rule that is satisfied has fired, since no rule is to be fired.
      have heligible : (start.after calls).eligible? = none := by
        have hnext := hstopped.next
        rwa [next?, hreached] at hnext
      have hfired : rule.id ∈ (start.after calls).fired := by
        by_contra hunfired
        have hmem : rule ∈ (start.after calls).unfired := by
          rw [mem_unfired, hadvances.base, hrules]
          exact ⟨hrule, hunfired⟩
        exact List.find?_eq_none.1 heligible rule hmem (Rule.isSatisfiedBy_iff.2 hconditions)
      rw [hadvances.fired] at hfired
      obtain ⟨fired, hmem, hid⟩ := List.mem_map.1 hfired
      have heq := hbase.eq_of_id_eq (hrules ▸ hadvances.mem fired hmem) hrule hid
      exact mem_pairs_of_agree hbase hstart hagree (Or.inr ⟨fired, hmem, by rw [heq]⟩)

/-- Without conflicts a conclusion that is reached follows, and one is reached if it follows. -/
theorem reached?_of_agree (hbase : base.IsSound)
    (hstart : Engine.start base target initial focused = .ok start) {calls : List Call}
    (hagree : Agree (start.given calls ∪ base.conclusions))
    (hstopped : (start.after calls).IsStopped) :
    (∀ pair, (start.after calls).reached? = some pair →
      pair ∈ base.consequences (start.given calls) ∧ pair.category ∈ start.wanted) ∧
    ∀ pair ∈ base.consequences (start.given calls), pair.category ∈ start.wanted →
      ((start.after calls).reached?).isSome = true := by
  have hwanted := (Follows.after hbase hstart calls).wanted
  constructor
  · intro pair hpair
    obtain ⟨hcategory, hknown⟩ := reached?_eq_some hpair
    rw [hwanted] at hcategory
    exact ⟨pairs_subset_of_isClosed hstart calls Base.given_subset_consequences
      Base.isClosed_consequences hknown, hcategory⟩
  · intro pair hpair hcategory
    by_contra hnone
    rw [Option.not_isSome_iff_eq_none] at hnone
    -- Otherwise the pair would be known in the end, and the consultation resolved.
    rw [← pairs_eq_consequences hbase hstart hagree hstopped hnone] at hpair
    have hunknown := reached?_eq_none_iff.1 hnone pair.category (hwanted ▸ hcategory)
    rw [Facts.mem_pairs, hunknown] at hpair
    cases hpair

/-- An engine that is stuck does not conclude anything. -/
theorem stuckOutcome_ne_resolved (engine : Engine) (pair : Pair) (fired : List Int) :
    engine.stuckOutcome ≠ .resolved pair fired := by
  intro h
  rw [stuckOutcome] at h
  split at h
  · cases h
  · split at h <;> cases h

/-- The outcome of an engine that has stopped is a conclusion exactly if one is reached. -/
theorem IsStopped.outcome_eq_resolved_iff {engine : Engine} (h : engine.IsStopped) {pair : Pair} :
    (∃ fired, engine.outcome = some (.resolved pair fired)) ↔ engine.reached? = some pair := by
  rw [h.outcome, verdict]
  cases hreached : engine.reached? with
  | some reached =>
    constructor
    · rintro ⟨fired, hfired⟩
      cases hfired
      rfl
    · intro heq
      cases heq
      exact ⟨engine.fired, rfl⟩
  | none =>
    constructor
    · rintro ⟨fired, hfired⟩
      exact absurd (Option.some.inj hfired) (engine.stuckOutcome_ne_resolved pair fired)
    · intro hnone
      cases hnone

/-! ## Giving everything at the start -/

/-- Accepted answers are tokens that answer tokens. -/
theorem isToken_of_accepted (hbase : base.IsSound)
    (hstart : Engine.start base target initial focused = .ok start) (calls : List Call) :
    ∀ answer ∈ start.accepted calls,
      Text.isToken answer.1 = true ∧ Text.isToken answer.2 = true := by
  have hstanding := isStanding_of_start hstart
  have hadvances := Advances.after hstart calls
  have hrules := base_of_start hstart
  have hvalues : ∀ answer ∈ acceptedAnswers (start.log calls), Text.isToken answer.2 = true := by
    refine after_induction (motive := fun log _ => ∀ answer ∈ acceptedAnswers log,
      Text.isToken answer.2 = true) hstanding ?_ ?_ ?_ ?_ calls
    · simp [acceptedAnswers]
    · intro log engine h _
      exact h
    · intro log engine rule h _ answer hanswer
      rw [acceptedAnswers_append] at hanswer
      exact h answer ((List.mem_append.1 hanswer).resolve_right List.not_mem_nil)
    · intro log engine asked value h _ _ htoken answer hanswer
      rw [acceptedAnswers_append] at hanswer
      rcases List.mem_append.1 hanswer with hanswer | hanswer
      · exact h answer hanswer
      · rw [List.mem_singleton.1 hanswer]
        exact htoken
  intro answer hanswer
  rw [← acceptedAnswers_log] at hanswer
  refine ⟨?_, hvalues answer hanswer⟩
  -- An answer is for a category of a condition, which is a token.
  obtain ⟨⟨rule, hrule, hcondition⟩, -⟩ :=
    mem_askable.1 (hadvances.askable answer.1 (List.mem_map_of_mem hanswer))
  obtain ⟨pair, hpair, heq⟩ := List.mem_map.1 hcondition
  rw [← heq]
  exact ((hbase.formed rule (hrules ▸ hrule)).conditions pair hpair).category

/-- A fact that is given last is stored last. -/
theorem checkFacts_concat {facts : Facts} (h : checkFacts initial = .ok facts)
    {category value : String} (hcategory : Text.isToken category = true)
    (hvalue : Text.isToken value = true) :
    checkFacts (initial ++ [(.text category, .text value)]) =
      .ok (facts.insert category value) := by
  rw [checkFacts, List.foldlM_append, ← checkFacts, h]
  simp only [bind, Except.bind, List.foldlM_cons, List.foldlM_nil, Datum.token?_text hcategory,
    Datum.token?_text hvalue]
  rfl

/-- The given facts, and behind them the answers of a consultation. -/
def withAnswers (initial : List (Datum × Datum)) (answers : List (String × String)) :
    List (Datum × Datum) :=
  initial ++ answers.map fun answer => (.text answer.1, .text answer.2)

theorem checkFacts_withAnswers {facts : Facts} (h : checkFacts initial = .ok facts)
    {answers : List (String × String)}
    (hanswers : ∀ answer ∈ answers,
      Text.isToken answer.1 = true ∧ Text.isToken answer.2 = true) :
    checkFacts (withAnswers initial answers) = .ok (facts.insertMany answers) := by
  induction answers generalizing initial facts with
  | nil =>
    rw [withAnswers, List.map_nil, List.append_nil]
    exact h
  | cons answer answers ih =>
    -- The first answer counts as one more given fact.
    obtain ⟨hcategory, hvalue⟩ := hanswers answer List.mem_cons_self
    have hrest := ih (checkFacts_concat h hcategory hvalue)
      fun other hother => hanswers other (List.mem_cons_of_mem _ hother)
    rw [withAnswers, List.append_assoc] at hrest
    exact hrest

/-- Without conflicts a consultation that is given all answers at the start is given the same. -/
theorem exists_start_withAnswers (hbase : base.IsSound)
    (hstart : Engine.start base target initial focused = .ok start) {calls : List Call}
    (hagree : Agree (start.given calls)) (focused' : Bool) :
    ∃ start', Engine.start base target (withAnswers initial (start.accepted calls)) focused' =
        .ok start' ∧ start'.wanted = start.wanted ∧ start'.given [.run] = start.given calls := by
  have htokens := isToken_of_accepted hbase hstart calls
  obtain ⟨target?, facts, htarget, hfacts, heq⟩ := start_eq_ok hstart
  have hmemory : start.memory = facts := by rw [heq]; rfl
  have hchecked := checkFacts_withAnswers hfacts htokens
  refine ⟨fresh base target? (facts.insertMany (start.accepted calls)) focused', ?_, ?_, ?_⟩
  · rw [Engine.start, htarget, hchecked]
    rfl
  · rw [heq]
    rfl
  · ext pair
    have hgiven : pair ∈ (fresh base target? (facts.insertMany (start.accepted calls))
        focused').given [.run] ↔
          (facts.insertMany (start.accepted calls)).get? pair.category = some pair.value := by
      rw [mem_given]
      exact or_iff_left List.not_mem_nil
    rw [hgiven, mem_given, Facts.mem_pairs, hmemory]
    -- An answer given beforehand may replace an initial fact, but only by the same value.
    constructor
    · exact Table.get?_insertMany_eq_some
    · intro hpair
      have hmem : pair ∈ start.given calls := by
        rw [mem_given, Facts.mem_pairs, hmemory]
        exact hpair
      apply Table.get?_insertMany_of_agree hpair
      · intro other hother
        have hknown : (⟨pair.category, other⟩ : Pair) ∈ start.given calls := by
          rw [mem_given, Facts.mem_pairs, hmemory]
          exact Or.inl hother
        exact hagree _ hknown pair hmem rfl
      · intro other hother
        have hanswered : (⟨pair.category, other⟩ : Pair) ∈ start.given calls :=
          mem_given.2 (Or.inr hother)
        exact hagree _ hanswered pair hmem rfl

end Engine

/-! ## Completeness -/

/-- A consultation over a base that was built, in which the initial facts, the accepted answers and
the conclusions of all rules agree. Wherever it stops, it is resolved exactly if a pair of a wanted
category follows from the facts and answers, and then by such a pair; if it is not resolved, just
what follows is known. A target is resolved by the same pair if all answers are given at the
start. -/
theorem complete_of_agree {entries : List Entry} {base : Base} {issues : List Issue}
    {notices : List Notice} (hbuild : build entries = .ok ⟨some base, issues, notices⟩)
    {target : Datum} {initial : List (Datum × Datum)} {focused : Bool} {start : Engine}
    (hstart : Engine.start base target initial focused = .ok start) (calls : List Call)
    (hagree : Agree (start.given calls ∪ base.conclusions)) {outcome : Outcome}
    (houtcome : (start.after calls).outcome = some outcome) :
    ((∃ pair fired, outcome = .resolved pair fired) ↔
        ∃ pair ∈ base.consequences (start.given calls), pair.category ∈ start.wanted) ∧
      (∀ pair fired, outcome = .resolved pair fired →
        pair ∈ base.consequences (start.given calls) ∧ pair.category ∈ start.wanted) ∧
      ((∀ pair fired, outcome ≠ .resolved pair fired) →
        (start.after calls).memory.pairs = base.consequences (start.given calls)) ∧
      ∀ category pair fired, start.target = some category → outcome = .resolved pair fired →
        ∀ focused', ∃ fired', resolve base target
            (Engine.withAnswers initial (start.accepted calls)) focused' =
          .ok (some (.resolved pair fired')) := by
  have hbase := Base.isSound_of_build hbuild
  have hstanding := Engine.isStanding_after (Engine.isStanding_of_start hstart) calls
  have hstopped := hstanding.isStopped_of_outcome houtcome
  obtain ⟨hfollows, hreached⟩ := Engine.reached?_of_agree hbase hstart hagree hstopped
  have hresolved : ∀ pair, (∃ fired, outcome = .resolved pair fired) ↔
      (start.after calls).reached? = some pair := by
    intro pair
    rw [← hstopped.outcome_eq_resolved_iff, houtcome]
    simp only [Option.some.injEq]
  refine ⟨⟨?_, ?_⟩, ?_, ?_, ?_⟩
  · rintro ⟨pair, hpair⟩
    exact ⟨pair, hfollows pair ((hresolved pair).1 hpair)⟩
  · rintro ⟨pair, hpair, hcategory⟩
    obtain ⟨found, hfound⟩ := Option.isSome_iff_exists.1 (hreached pair hpair hcategory)
    exact ⟨found, (hresolved found).2 hfound⟩
  · intro pair fired hpair
    exact hfollows pair ((hresolved pair).1 ⟨fired, hpair⟩)
  · intro hunresolved
    refine Engine.pairs_eq_consequences hbase hstart hagree hstopped ?_
    rw [Option.eq_none_iff_forall_not_mem]
    intro pair hpair
    obtain ⟨fired, hfired⟩ := (hresolved pair).2 hpair
    exact hunresolved pair fired hfired
  · intro category pair fired htarget hpair focused'
    obtain ⟨hpair, hcategory⟩ := hfollows pair ((hresolved pair).1 ⟨fired, hpair⟩)
    obtain ⟨start', hstart', hwanted, hgiven⟩ := Engine.exists_start_withAnswers hbase hstart
      (fun a ha b hb => hagree a (Or.inl ha) b (Or.inl hb)) focused'
    have hstopped' := Engine.isStopped_after_run hstart' []
    -- The same pairs follow, and of these only one is of the target's category.
    rw [← hgiven] at hagree
    obtain ⟨hfollows', hreached'⟩ :=
      Engine.reached?_of_agree hbase hstart' hagree hstopped'
    rw [← hgiven] at hpair
    rw [← hwanted] at hcategory
    obtain ⟨found, hfound⟩ := Option.isSome_iff_exists.1 (hreached' pair hpair hcategory)
    obtain ⟨hfoundFollows, hfoundCategory⟩ := hfollows' found hfound
    have hone : start'.wanted = [category] := by
      rw [hwanted, Engine.wanted, htarget]
    rw [hone] at hcategory hfoundCategory
    have hsame : found = pair := hagree.eq (Base.consequences_subset_union hfoundFollows)
      (Base.consequences_subset_union hpair)
      ((List.mem_singleton.1 hfoundCategory).trans (List.mem_singleton.1 hcategory).symm)
    rw [hsame] at hfound
    obtain ⟨fired', hfired'⟩ := hstopped'.outcome_eq_resolved_iff.2 hfound
    refine ⟨fired', ?_⟩
    rw [resolve, hstart', ← hfired']
    rfl

set_option maxRecDepth 4000 in
/-- Four pairs that agree: the answer, and what three rules conclude from it one after the other. -/
theorem complete_of_agree_exampleEntries :
    ∃ start, Engine.start (declaredBase exampleEntries) (.text "c") [] false = .ok start ∧
      Agree (start.given [.run, .supply (.text "a") (.text "x")] ∪
        (declaredBase exampleEntries).conclusions) ∧
      (start.after [.run, .supply (.text "a") (.text "x")]).outcome =
        some (.resolved ⟨"c", "z"⟩ [1, 2, 3]) ∧
      ⟨"c", "z"⟩ ∈ (declaredBase exampleEntries).consequences
        (start.given [.run, .supply (.text "a") (.text "x")]) := by
  obtain ⟨notices, hbuild⟩ := build_exampleEntries
  have hstart : Engine.start (declaredBase exampleEntries) (.text "c") [] false =
      .ok (.fresh (declaredBase exampleEntries) (some "c") Table.empty false) := rfl
  have haccepted :
      (Engine.fresh (declaredBase exampleEntries) (some "c") Table.empty false).accepted
        [.run, .supply (.text "a") (.text "x")] = [("a", "x")] := by cbv
  have hconclusions : (declaredBase exampleEntries).rules.map Rule.conclusion =
      [⟨"d", "w"⟩, ⟨"b", "y"⟩, ⟨"c", "z"⟩] := by cbv
  have houtcome : ((Engine.fresh (declaredBase exampleEntries) (some "c") Table.empty false).after
      [.run, .supply (.text "a") (.text "x")]).outcome =
        some (.resolved ⟨"c", "z"⟩ [1, 2, 3]) := by cbv
  -- What is given and what is concluded comes to four pairs, which are seen to agree.
  have hall : ∀ pair, pair ∈ (Engine.fresh (declaredBase exampleEntries) (some "c") Table.empty
      false).given [.run, .supply (.text "a") (.text "x")] ∪
        (declaredBase exampleEntries).conclusions →
      pair ∈ [(⟨"a", "x"⟩ : Pair), ⟨"d", "w"⟩, ⟨"b", "y"⟩, ⟨"c", "z"⟩] := by
    rintro pair ((hinitial | hanswer) | ⟨rule, hrule, rfl⟩)
    · cases hinitial
    · have hmem : (pair.category, pair.value) ∈ [("a", "x")] := haccepted ▸ hanswer
      cases pair
      cases List.mem_singleton.1 hmem
      exact List.mem_cons_self
    · apply List.mem_cons_of_mem
      rw [← hconclusions]
      exact List.mem_map_of_mem hrule
  have hagree : Agree ((Engine.fresh (declaredBase exampleEntries) (some "c") Table.empty
      false).given [.run, .supply (.text "a") (.text "x")] ∪
        (declaredBase exampleEntries).conclusions) := by
    have hlist : ∀ a ∈ [(⟨"a", "x"⟩ : Pair), ⟨"d", "w"⟩, ⟨"b", "y"⟩, ⟨"c", "z"⟩],
        ∀ b ∈ [(⟨"a", "x"⟩ : Pair), ⟨"d", "w"⟩, ⟨"b", "y"⟩, ⟨"c", "z"⟩],
          a.category = b.category → a.value = b.value := by decide
    exact fun a ha b hb => hlist a (hall a ha) b (hall b hb)
  obtain ⟨-, hresolved, -⟩ := complete_of_agree hbuild hstart _ hagree houtcome
  exact ⟨_, hstart, hagree, houtcome, (hresolved _ _ rfl).1⟩

end RuleConsult
