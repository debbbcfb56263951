import RuleConsult.Proofs.Reading.Lines

/-!
# Reading goes forward

Whatever a form leaves of a text, and every place at which it misses something, is a part of the
text up to its end. So the places of one text can be compared: of two of them, one lies within the
other.

* `within_readEntry`: entries, and before it every form that they consist of;
* `suffix_of_readEntries`: the places at which entries begin, and the place at which reading ends in
  vain.
-/

namespace RuleConsult

open Text

/-- What the attempt leaves of a text, and what it misses there, lies within the text. -/
structure Attempt.Within {α : Type} (text : List Char) (a : Attempt α) : Prop where
  misses : ∀ miss ∈ a.misses, miss.rest <:+ text
  rest : ∀ value rest, a.result = some (value, rest) → rest <:+ text

namespace Attempt

variable {α β : Type} {text : List Char}

/-- A form that is read leaves what it says it leaves. -/
theorem within_read {rest : List Char} (value : α) (h : rest <:+ text) :
    (read value rest).Within text where
  misses := by simp [read]
  rest _ _ heq := by
    cases heq
    exact h

/-- A form that is missed is missed at the place that is named. -/
theorem within_miss (expected : Expected) {rest : List Char} (h : rest <:+ text) :
    (miss expected rest : Attempt α).Within text where
  misses := by simpa [miss] using h
  rest := by simp

namespace Within

/-- What lies within a part of a text lies within the text. -/
theorem mono {a : Attempt α} {longer : List Char} (h : a.Within text) (hlonger : text <:+ longer) :
    a.Within longer where
  misses miss hmiss := (h.misses miss hmiss).trans hlonger
  rest value rest heq := (h.rest value rest heq).trans hlonger

/-- Of two forms the second lies within what the first leaves. -/
theorem andThen {a : Attempt α} {next : α → List Char → Attempt β} (h : a.Within text)
    (hnext : ∀ value rest, a.result = some (value, rest) → (next value rest).Within rest) :
    (a.andThen next).Within text := by
  cases hresult : a.result with
  | none =>
    rw [andThen_of_none _ hresult]
    exact ⟨h.misses, by simp⟩
  | some success =>
    obtain ⟨value, rest⟩ := success
    have hmore := (hnext value rest hresult).mono (h.rest value rest hresult)
    rw [andThen_of_some _ hresult]
    refine ⟨?_, hmore.rest⟩
    simp only [List.mem_append]
    rintro miss (hmiss | hmiss)
    · exact h.misses miss hmiss
    · exact hmore.misses miss hmiss

/-- Of two forms that are tried at one place, each lies within the text. -/
theorem orElse {a : Attempt α} {other : Unit → Attempt α} (h : a.Within text)
    (hother : (other ()).Within text) : (a.orElse other).Within text := by
  unfold Attempt.orElse
  cases hresult : a.result with
  | some success => exact ⟨h.misses, fun value rest heq => h.rest value rest (hresult.trans heq)⟩
  | none =>
    refine ⟨?_, hother.rest⟩
    simp only [List.mem_append]
    rintro miss (hmiss | hmiss)
    · exact h.misses miss hmiss
    · exact hother.misses miss hmiss

end Within

end Attempt

/-! ## Forms -/

/-- Skipping white space leaves a part of the text. -/
theorem skipGap_suffix (text : List Char) : skipGap text <:+ text :=
  List.dropWhile_suffix isGap

/-- A run of characters lies within the text; every other form is made of runs and of what follows.
-/
theorem within_readRun (member : Char → Bool) (expected : Expected) (text : List Char) :
    (readRun member expected text).Within text := by
  unfold readRun
  dsimp only
  split
  · exact Attempt.within_miss _ List.suffix_rfl
  · exact Attempt.within_read _ (List.dropWhile_suffix member)

theorem within_readToken (expected : Expected) (text : List Char) :
    (readToken expected text).Within text :=
  within_readRun isWord expected text

/-- A keyword is missed where it would begin. -/
theorem within_readKeyword (word : String) (text : List Char) :
    (readKeyword word text).Within text := by
  unfold readKeyword
  split
  · rename_i rest hdrop
    split
    · exact Attempt.within_miss _ List.suffix_rfl
    · exact Attempt.within_read _ ⟨word.toList, (dropPrefix?_eq_some_iff.1 hdrop).symm⟩
  · exact Attempt.within_miss _ List.suffix_rfl

theorem within_readHyphen (text : List Char) : (readHyphen text).Within text := by
  unfold readHyphen
  split
  · exact Attempt.within_read _ (List.suffix_cons _ _)
  · exact Attempt.within_miss _ List.suffix_rfl

/-- A pair is two tokens with a hyphen between them. -/
theorem within_readPair (text : List Char) : (readPair text).Within text := by
  unfold readPair
  refine (within_readToken _ _).andThen fun category text _ => ?_
  refine (within_readHyphen _).andThen fun _ text _ => ?_
  refine (within_readToken _ _).andThen fun value text _ => ?_
  exact Attempt.within_read _ List.suffix_rfl

/-- A keyword after white space. -/
theorem within_keyword (word : String) (text : List Char) :
    (readKeyword word (skipGap text)).Within text :=
  (within_readKeyword word _).mono (skipGap_suffix text)

/-- A pair after white space. -/
theorem within_pair (text : List Char) : (readPair (skipGap text)).Within text :=
  (within_readPair _).mono (skipGap_suffix text)

variable (keywords : Keywords)

/-- Further conditions, however many; each is read within what the one before leaves. -/
theorem within_readConditions (text : List Char) :
    (readConditions keywords text).Within text := by
  induction text using conjunction_induction keywords with
  | ends text hand =>
    rw [readConditions_eq_of_none hand]
    refine ⟨(within_keyword _ text).misses, fun value rest heq => ?_⟩
    cases heq
    exact List.suffix_rfl
  | commits text u afterAnd hand ih =>
    rw [readConditions_eq_of_some hand]
    refine (within_keyword _ text).andThen fun _ text htext => ?_
    cases hand.symm.trans htext
    refine (within_pair _).andThen fun condition text hpair => ?_
    exact (ih condition text hpair).andThen fun others text _ =>
      Attempt.within_read _ List.suffix_rfl

/-- A rule, part by part. -/
theorem within_readRule (text : List Char) : (readRule keywords text).Within text := by
  unfold readRule
  refine (within_readRun _ _ _).andThen fun number text _ => ?_
  refine (within_keyword _ _).andThen fun _ text _ => ?_
  refine (within_pair _).andThen fun first text _ => ?_
  refine (within_readConditions keywords _).andThen fun others text _ => ?_
  refine (within_keyword _ _).andThen fun _ text _ => ?_
  refine (within_pair _).andThen fun conclusion text _ => ?_
  exact Attempt.within_read _ List.suffix_rfl

/-- A binding, part by part. -/
theorem within_readBinding (kind : BindingKind) (text : List Char) :
    (readBinding keywords kind text).Within text := by
  unfold readBinding
  refine (within_readKeyword _ _).andThen fun _ text _ => ?_
  refine ((within_readToken _ _).mono (skipGap_suffix text)).andThen fun category text _ => ?_
  exact Attempt.within_read _
    ((List.dropWhile_suffix isFreeText).trans (List.dropWhile_suffix isBlank))

/-- Every entry, whichever form it has, lies within the text. -/
theorem within_readEntry (text : List Char) : (readEntry keywords text).Within text :=
  (within_readRule keywords text).orElse <|
    (within_readBinding keywords .advice text).orElse <|
      (within_readBinding keywords .translation text).orElse <|
        within_readBinding keywords .tip text

/-! ## Sequences of entries -/

/-- The entries of a text begin within it, and so does what could not be read. -/
theorem suffix_of_readEntries (text : List Char) :
    match readEntries keywords text with
    | .ok slots => ∀ slot ∈ slots, slot.start <:+ text
    | .error stuck => stuck.start <:+ text ∧ ∀ miss ∈ stuck.misses, miss.rest <:+ stuck.start := by
  induction text using entries_induction keywords with
  | fails text hread =>
    rw [readEntries_of_none hread]
    exact ⟨List.suffix_rfl, (within_readEntry keywords text).misses⟩
  | last text body rest hread hrest =>
    rw [readEntries_of_last hread hrest]
    intro slot hslot
    obtain rfl := List.mem_singleton.1 hslot
    exact List.suffix_rfl
  | more text body rest hread hrest ih =>
    -- The entries behind the first begin in the text that it leaves.
    have hsuffix : skipGap rest <:+ text :=
      (skipGap_suffix rest).trans ((within_readEntry keywords text).rest body rest hread)
    rw [readEntries_of_more hread hrest]
    cases hothers : readEntries keywords (skipGap rest) with
    | error stuck =>
      rw [hothers] at ih
      exact ⟨ih.1.trans hsuffix, ih.2⟩
    | ok others =>
      rw [hothers] at ih
      intro slot hslot
      rcases List.mem_cons.1 hslot with rfl | hslot
      · exact List.suffix_rfl
      · exact (ih slot hslot).trans hsuffix

theorem furthest_cons (start : List Char) (miss : Miss) (misses : List Miss) :
    furthest start (miss :: misses) =
      furthest (if miss.rest.length < start.length then miss.rest else start) misses := rfl

/-- The furthest place is not before the place at which reading began. -/
theorem length_furthest_le (start : List Char) (misses : List Miss) :
    (furthest start misses).length ≤ start.length := by
  induction misses generalizing start with
  | nil => exact Nat.le_refl _
  | cons miss misses ih =>
    rw [furthest_cons]
    split
    · rename_i hlt
      exact Nat.le_trans (ih _) (Nat.le_of_lt hlt)
    · exact ih _

/-- No miss is further. -/
theorem length_furthest_le_of_mem {start : List Char} {misses : List Miss} {miss : Miss}
    (h : miss ∈ misses) : (furthest start misses).length ≤ miss.rest.length := by
  induction misses generalizing start with
  | nil => cases h
  | cons first misses ih =>
    rw [furthest_cons]
    rcases List.mem_cons.1 h with rfl | h
    · refine (length_furthest_le _ _).trans ?_
      split
      · exact Nat.le_refl _
      · rename_i hle
        exact Nat.le_of_not_lt hle
    · exact ih h

/-- The furthest place is no further than all the misses. -/
theorem le_length_furthest {n : Nat} {start : List Char} {misses : List Miss}
    (hstart : n ≤ start.length) (hmisses : ∀ miss ∈ misses, n ≤ miss.rest.length) :
    n ≤ (furthest start misses).length := by
  induction misses generalizing start with
  | nil => exact hstart
  | cons miss misses ih =>
    obtain ⟨hmiss, hmisses⟩ := List.forall_mem_cons.1 hmisses
    rw [furthest_cons]
    split
    · exact ih hmiss hmisses
    · exact ih hstart hmisses

/-- The furthest place lies within the text in which something was missed. -/
theorem furthest_suffix {text start : List Char} {misses : List Miss} (hstart : start <:+ text)
    (hmisses : ∀ miss ∈ misses, miss.rest <:+ text) : furthest start misses <:+ text := by
  induction misses generalizing start with
  | nil => exact hstart
  | cons miss misses ih =>
    obtain ⟨hmiss, hmisses⟩ := List.forall_mem_cons.1 hmisses
    rw [furthest_cons]
    split
    · exact ih hmiss hmisses
    · exact ih hstart hmisses

end RuleConsult
