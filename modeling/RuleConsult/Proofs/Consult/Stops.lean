import RuleConsult.Proofs.Base.Index
import RuleConsult.Proofs.Consult.Completeness

/-!
# Stops are sound and stable

A call that is not refused leaves an engine at a stop. What the engine says there about itself, the
outcome and the pending question, fits what it knows, and running it again changes nothing at all.

Running again has three ways of changing nothing. While a question is pending the engine is handed
back as it is. Where the consultation is resolved, the pair is still known and is reached again. And
where it is exhausted, no rule can be fired and the same category is missing as before. For all
three it is enough that memory and firings determine the outcome (`IsStopped`), so that settling
anew gives what is there.

* `Engine.isStopped_of_respond`: a call that is not refused leaves a stop behind;
* `Engine.IsStopped.run_eq`: running an engine at a stop changes nothing;
* `Engine.IsStopped.isSoundQuestion`: what a stop at a question is like;
* `stops_are_sound`: every stop of a consultation over a base that was built.
-/

namespace RuleConsult

open Text

/-! ## Texts and values of a base -/

namespace Base

variable {base : Base} {category value : String}

/-- A text that is replaced where it is empty is empty only if what replaces it is. -/
theorem getD_nonEmpty?_ne (text : Option String) {replacement : String} (h : replacement ≠ "") :
    (nonEmpty? text).getD replacement ≠ "" := by
  cases hfound : nonEmpty? text with
  | none => exact h
  | some found =>
    have hkept := (Option.filter_eq_some_iff.1 hfound).2
    rintro rfl
    exact absurd hkept (by decide)

/-- The values of a category are tokens, since those of conditions and conclusions are. -/
theorem IsSound.isToken_of_mem_valuesFor (hbase : base.IsSound)
    (h : value ∈ base.valuesFor category) : isToken value = true := by
  rw [valuesFor, base.index_eq, Index.mem_valuesOf_ofRules] at h
  obtain ⟨rule, hrule, hmentions⟩ := h
  have hformed := hbase.formed rule hrule
  rcases List.mem_append.1 hmentions with hcondition | hconclusion
  · exact (hformed.conditions _ hcondition).value
  · have hvalue := hformed.conclusion.value
    rw [← List.mem_singleton.1 hconclusion] at hvalue
    exact hvalue

/-- The value that a rule requires is among the values of its category. -/
theorem mem_valuesFor_of_condition {rule : Rule} (hrule : rule ∈ base.rules) {pair : Pair}
    (hpair : pair ∈ rule.conditions) : pair.value ∈ base.valuesFor pair.category := by
  rw [valuesFor, base.index_eq, Index.mem_valuesOf_ofRules]
  exact ⟨rule, hrule, List.mem_append_left _ hpair⟩

end Base

namespace Engine

variable {engine : Engine}

/-- A question about a token is never empty: where there is no text for it, it is asked for by its
label or its name. -/
theorem prompt_ne_empty (base : Base) {category : String} (h : isToken category = true) :
    prompt base category ≠ "" := by
  have hname : category ≠ "" := by
    rintro rfl
    exact absurd h (by decide)
  exact Base.getD_nonEmpty?_ne _ (Base.getD_nonEmpty?_ne _ hname)

/-! ## Stability -/

/-- A call that is not refused leaves a stop behind. -/
theorem isStopped_of_respond (h : engine.IsStanding) {call : Call} {next : Engine}
    (hnext : engine.respond call = .ok next) : next.IsStopped := by
  cases call with
  | run =>
    cases hnext
    exact isStopped_run h
  | supply category value =>
    rw [respond] at hnext
    cases hpending : engine.pending with
    | none =>
      rw [supply_of_none hpending] at hnext
      cases hnext
    | some asked =>
      rw [supply_of_some hpending] at hnext
      split at hnext
      · split at hnext
        · cases hnext
          exact isStopped_chain rfl
        · cases hnext
      · cases hnext

namespace IsStopped

/-- An engine at a stop is settled. -/
theorem settle_eq (h : engine.IsStopped) : engine.settle = engine := by
  rw [settle, ← h.pending, ← h.outcome]

/-- Running an engine at a stop changes nothing. -/
theorem run_eq (h : engine.IsStopped) : engine.run = engine := by
  cases hpending : engine.pending with
  | none => rw [run_of_none hpending, chain_of_none hpending h.next, h.settle_eq]
  | some category => exact run_of_pending (Or.inr h) hpending

/-- A category is pending exactly if it is asked for. -/
theorem pending_eq_some_iff (h : engine.IsStopped) {category : String} :
    engine.pending = some category ↔
      ∃ prompt choices, engine.outcome = some (.needsInput category prompt choices) := by
  rw [h.pending, h.outcome, Outcome.asked?_eq_some_iff]
  simp only [Option.some.injEq]

/-- Where the consultation is not resolved, nothing is known about what is wanted, and no rule can
fire. -/
theorem stuck_of_unresolved (h : engine.IsStopped)
    (hunresolved : ∀ pair fired, engine.outcome ≠ some (.resolved pair fired)) :
    engine.reached? = none ∧ engine.eligible? = none := by
  have hreached : engine.reached? = none := by
    rw [Option.eq_none_iff_forall_ne_some]
    intro pair hpair
    obtain ⟨fired, hresolved⟩ := h.outcome_eq_resolved_iff.2 hpair
    exact hunresolved pair fired hresolved
  have hnext := h.next
  rw [next?, hreached] at hnext
  exact ⟨hreached, hnext⟩

end IsStopped

/-! ## What is said at a stop -/

/-- A question that an engine may ask. -/
structure IsSoundQuestion (engine : Engine) (category prompt : String) (choices : List String) :
    Prop where
  advised : engine.base.advice.contains category = true
  unknown : engine.memory.get? category = none
  prompt_ne : prompt ≠ ""
  tokens : ∀ choice ∈ choices, isToken choice = true
  /-- The category is asked for on behalf of a rule that has not fired, and the value that the rule
  requires is offered. -/
  required : ∃ rule ∈ engine.base.rules, rule.id ∉ engine.fired ∧
    ∃ pair ∈ rule.conditions, pair.category = category ∧ pair.value ∈ choices

/-- A stop at which everything that is said holds, and which running again does not leave. -/
structure IsSoundStop (engine : Engine) : Prop where
  outcome : engine.outcome.isSome = true
  pending : ∀ category, engine.pending = some category ↔
    ∃ prompt choices, engine.outcome = some (.needsInput category prompt choices)
  question : ∀ category prompt choices,
    engine.outcome = some (.needsInput category prompt choices) →
      engine.IsSoundQuestion category prompt choices
  resolved : ∀ pair fired, engine.outcome = some (.resolved pair fired) →
    pair.category ∈ engine.wanted ∧ engine.memory.get? pair.category = some pair.value
  unresolved : (∀ pair fired, engine.outcome ≠ some (.resolved pair fired)) →
    (∀ rule ∈ engine.base.rules, rule.id ∉ engine.fired →
      rule.isSatisfiedBy engine.memory = false) ∧
    ∀ category ∈ engine.wanted, engine.memory.get? category = none
  stable : engine.run = engine

theorem IsStopped.isSoundQuestion (h : engine.IsStopped) (hbase : engine.base.IsSound)
    {category prompt : String} {choices : List String}
    (houtcome : engine.outcome = some (.needsInput category prompt choices)) :
    engine.IsSoundQuestion category prompt choices := by
  have hpending := h.pending_eq_some_iff.2 ⟨prompt, choices, houtcome⟩
  -- The wording and the choices are those that the base has for the category.
  obtain ⟨-, hmissing, hadvised, hasked⟩ := h.of_pending hpending
  rw [houtcome] at hasked
  cases hasked
  obtain ⟨rule, hunfired, -, hmem⟩ := exists_of_nextMissing? hmissing
  obtain ⟨hrule, hnew⟩ := mem_unfired.1 hunfired
  obtain ⟨pair, hpair, rfl⟩ := List.mem_map.1 (List.mem_filter.1 hmem).1
  have htokens := (hbase.formed rule hrule).conditions pair hpair
  constructor
  case advised => exact hadvised
  case unknown => exact get?_of_pending (Or.inr h) hpending
  case prompt_ne => exact prompt_ne_empty engine.base htokens.category
  case tokens => exact fun choice hchoice => hbase.isToken_of_mem_valuesFor hchoice
  case required =>
    exact ⟨rule, hrule, hnew, pair, hpair, rfl, Base.mem_valuesFor_of_condition hrule hpair⟩

theorem IsStopped.isSoundStop (h : engine.IsStopped) (hbase : engine.base.IsSound) :
    engine.IsSoundStop := by
  constructor
  case outcome => rw [h.outcome, Option.isSome_some]
  case pending => exact fun category => h.pending_eq_some_iff
  case question => exact fun category prompt choices houtcome => h.isSoundQuestion hbase houtcome
  case resolved =>
    intro pair fired houtcome
    exact reached?_eq_some (h.outcome_eq_resolved_iff.1 ⟨fired, houtcome⟩)
  case unresolved =>
    intro hunresolved
    obtain ⟨hreached, heligible⟩ := h.stuck_of_unresolved hunresolved
    refine ⟨fun rule hrule hnew => ?_, reached?_eq_none_iff.1 hreached⟩
    have hpassed := List.find?_eq_none.1 heligible rule (mem_unfired.2 ⟨hrule, hnew⟩)
    simpa using hpassed
  case stable => exact h.run_eq

end Engine

/-- Over a base that was built, every run and every accepted answer leaves an engine at a stop that
is sound: a category is pending exactly if it is asked for; a question is about a category that a
rule still lacks, in words and with choices among which is the value for the rule; a conclusion is
known; without one, no rule can fire and nothing is known about what is wanted; and running again
changes nothing. -/
theorem stops_are_sound {entries : List Entry} {base : Base} {issues : List Issue}
    {notices : List Notice} (hbuild : build entries = .ok ⟨some base, issues, notices⟩)
    {target : Datum} {given : List (Datum × Datum)} {focused : Bool} {start : Engine}
    (hstart : Engine.start base target given focused = .ok start) (calls : List Call)
    {call : Call} {engine : Engine} (haccepted : (start.after calls).respond call = .ok engine) :
    engine.base = base ∧ engine.target = start.target ∧ engine.IsSoundStop := by
  have hbase := Base.isSound_of_build hbuild
  have hstanding := Engine.isStanding_after (Engine.isStanding_of_start hstart) calls
  have hstopped := Engine.isStopped_of_respond hstanding haccepted
  -- The engine is the one after one call more, which still has the base and the target.
  have hafter : start.after (calls ++ [call]) = engine := by
    rw [Engine.after_concat, Engine.call, haccepted]
  have hfollows := Follows.after hbase hstart (calls ++ [call])
  rw [hafter] at hfollows
  have hsame : engine.base = base := hfollows.base.trans (Engine.base_of_start hstart)
  exact ⟨hsame, hfollows.target, hstopped.isSoundStop (hsame ▸ hbase)⟩

/-- The example, started with a target. -/
def exampleStart : Engine :=
  .fresh (declaredBase exampleEntries) (some "c") Table.empty false

set_option maxRecDepth 4000 in
/-- The engine asks for a category, repeats the question, and concludes once it is answered. -/
theorem stops_are_sound_exampleEntries :
    Engine.start (declaredBase exampleEntries) (.text "c") [] false = .ok exampleStart ∧
      (exampleStart.after [.run, .run]).outcome = some (.needsInput "a" "which a?" ["x"]) ∧
      (exampleStart.after [.run, .run]).IsSoundStop ∧
      (exampleStart.after [.run, .run, .supply (.text "a") (.text "x")]).outcome =
        some (.resolved ⟨"c", "z"⟩ [1, 2, 3]) ∧
      (exampleStart.after [.run, .run, .supply (.text "a") (.text "x")]).IsSoundStop := by
  obtain ⟨notices, hbuild⟩ := build_exampleEntries
  have hstart : Engine.start (declaredBase exampleEntries) (.text "c") [] false =
      .ok exampleStart := rfl
  have hrepeated : (exampleStart.after [.run]).respond .run =
      .ok (exampleStart.after [.run, .run]) := rfl
  have hanswered : (exampleStart.after [.run, .run]).respond (.supply (.text "a") (.text "x")) =
      .ok (exampleStart.after [.run, .run, .supply (.text "a") (.text "x")]) := by cbv
  obtain ⟨-, -, hasking⟩ := stops_are_sound hbuild hstart [.run] hrepeated
  obtain ⟨-, -, hdone⟩ := stops_are_sound hbuild hstart [.run, .run] hanswered
  exact ⟨hstart, by cbv, hasking, by cbv, hdone⟩

end RuleConsult
