import RuleConsult.Proofs.Reading.Completion
import RuleConsult.Proofs.Reading.Within

/-!
# Faults stand behind viable prefixes

The place of a fault is as far as the text can be understood. What stands before it can be continued
to a document, and the entries that were read before the one that goes wrong are the first entries
of that document. The place itself is the furthest one at which any form of that entry missed
something, and the fault lists what was missed there.

Where nothing at all is read of an entry, the continuation begins a new one on a new line, so that
it does not prolong the entry before. A keyword of bindings that begins with a digit may be taken
for the number of a rule, and then the continuation may decide what was read before it. Such
keywords are excluded.

* `resumable_of_fails`: an entry that goes wrong can be resumed where it is stuck;
* `Passes.resume`: then the entries before it are read again;
* `readDocument_viable`: documents.
-/

namespace RuleConsult

open Text

variable {keywords : Keywords}

/-! ## Entries -/

/-- The forms of an entry, in the order in which they are tried. -/
def alternatives (keywords : Keywords) (text : List Char) : List (Attempt EntryBody) :=
  [readRule keywords text, readBinding keywords .advice text,
    readBinding keywords .translation text, readBinding keywords .tip text]

theorem forall_mem_alternatives {p : Attempt EntryBody → Prop} {text : List Char} :
    (∀ alternative ∈ alternatives keywords text, p alternative) ↔
      p (readRule keywords text) ∧ ∀ kind, p (readBinding keywords kind text) := by
  simp only [alternatives, List.forall_mem_cons, List.not_mem_nil, false_implies, implies_true,
    and_true]
  constructor
  · rintro ⟨hrule, hadvice, htranslation, htip⟩
    exact ⟨hrule, fun kind => by cases kind <;> assumption⟩
  · rintro ⟨hrule, hbinding⟩
    exact ⟨hrule, hbinding _, hbinding _, hbinding _⟩

/-- If no form is read, the misses of all of them are reported. -/
theorem readEntry_of_fails {text : List Char}
    (h : ∀ alternative ∈ alternatives keywords text, alternative.result = none) :
    readEntry keywords text = ⟨(alternatives keywords text).flatMap Attempt.misses, none⟩ := by
  obtain ⟨hrule, hbinding⟩ := forall_mem_alternatives.1 h
  simp only [readEntry, Attempt.orElse, hrule, hbinding, alternatives, List.flatMap_cons,
    List.flatMap_nil, List.append_nil]

theorem fails_of_readEntry {text : List Char} (h : (readEntry keywords text).result = none) :
    ∀ alternative ∈ alternatives keywords text, alternative.result = none := by
  simp only [readEntry, Attempt.result_orElse, Option.or_eq_none_iff] at h
  obtain ⟨hrule, hadvice, htranslation, htip⟩ := h
  exact forall_mem_alternatives.2 ⟨hrule, fun kind => by cases kind <;> assumption⟩

/-- An entry gets as far as its furthest form. -/
theorem stuckAt_readEntry {text place : List Char} {alternative : Attempt EntryBody}
    (hmem : alternative ∈ alternatives keywords text) (hstuck : alternative.StuckAt place)
    (hothers : ∀ other ∈ alternatives keywords text, ∃ further : List Char,
      place.length ≤ further.length ∧ other.StuckAt further) :
    (readEntry keywords text).StuckAt place := by
  rw [readEntry_of_fails fun other hother => (hothers other hother).choose_spec.2.fails]
  refine ⟨rfl, ?_, ?_⟩
  · intro miss hmiss
    obtain ⟨other, hother, hmiss⟩ := List.mem_flatMap.1 hmiss
    obtain ⟨further, hle, hfurther⟩ := hothers other hother
    exact hle.trans (hfurther.le miss hmiss)
  · obtain ⟨miss, hmiss, hplace⟩ := hstuck.found
    exact ⟨miss, List.mem_flatMap.2 ⟨alternative, hmem, hmiss⟩, hplace⟩

/-- Where its keyword does not stand, a binding gets no further. -/
theorem stuckAt_readBinding {kind : BindingKind} {text : List Char}
    (h : (readKeyword (kind.word keywords) text).result = none) :
    (readBinding keywords kind text).StuckAt text := by
  rw [readBinding_eq]
  exact (stuckAt_readKeyword h).andThen _

/-- Where its number does not stand, a rule gets no further. -/
theorem stuckAt_readRule {text : List Char}
    (h : (readRun isNumberDigit .ruleNumber text).result = none) :
    (readRule keywords text).StuckAt text := by
  rw [readRule_eq]
  exact (stuckAt_readRun h).andThen _

/-- Some text is an entry. -/
theorem exists_readEntry (hkeywords : keywords.IsUnnumbered) :
    ∃ text body, (readEntry keywords text).result = some (body, []) := by
  have hword := BindingKind.advice.isToken_word keywords
  obtain ⟨tail, body, hstops, hread⟩ := (completable_readBindingBody .advice []).startable rfl
  refine ⟨(BindingKind.advice.word keywords).toList ++ tail, body, ?_⟩
  refine readEntry_eq_some_iff.2 (Or.inr ⟨?_, .advice, ?_⟩)
  · exact readRule_of_stops (hkeywords.stops_word .advice tail)
  · rw [readBinding_eq, Attempt.result_andThen, readKeyword_token hword hword hstops, if_pos rfl]
    exact hread

/-- Where a number stands, an entry that goes wrong goes wrong as a rule. -/
theorem completableInside_of_number (hkeywords : keywords.IsUnnumbered) {start rest : List Char}
    {number : String} (hrule : (readRule keywords start).result = none)
    (hnumber : (readRun isNumberDigit .ruleNumber start).result = some (number, rest)) :
    CompletableInside (readEntry keywords) start := by
  obtain ⟨before, place, tail, body, hne, htext, hstuck, hdone⟩ :=
    completableInside_readRule hnumber hrule
  refine ⟨before, place, tail, body, hne, htext, ?_, readEntry_eq_some_iff.2 (Or.inl hdone)⟩
  -- No keyword of bindings stands there, so the rule is the only form that gets further.
  have hkeyword : ∀ kind : BindingKind,
      (readKeyword (kind.word keywords) start).result = none := by
    intro kind
    rw [Option.eq_none_iff_forall_not_mem]
    rintro ⟨u, left⟩ hread
    obtain ⟨rfl, -⟩ := readKeyword_eq_some hread
    rw [readRun_of_stops _ (hkeywords.stops_word kind left)] at hnumber
    cases hnumber
  refine stuckAt_readEntry List.mem_cons_self hstuck (forall_mem_alternatives.2 ⟨?_, ?_⟩)
  · exact ⟨place, Nat.le_refl _, hstuck⟩
  · refine fun kind => ⟨start, ?_, stuckAt_readBinding (hkeyword kind)⟩
    rw [htext, List.length_append]
    omega

theorem mem_alternatives (kind : BindingKind) (text : List Char) :
    readBinding keywords kind text ∈ alternatives keywords text := by
  cases kind <;> simp [alternatives]

/-- Where a keyword of bindings stands, an entry that goes wrong goes wrong as such a binding. -/
theorem completableInside_of_keyword (hkeywords : keywords.IsUnnumbered) {start rest : List Char}
    {kind : BindingKind} {u : Unit} (hbinding : (readBinding keywords kind start).result = none)
    (hkeyword : (readKeyword (kind.word keywords) start).result = some (u, rest)) :
    CompletableInside (readEntry keywords) start := by
  obtain ⟨before, place, tail, body, hne, htext, hstuck, hdone⟩ :=
    completableInside_readBinding hkeyword hbinding
  have hle : place.length ≤ start.length := by
    rw [htext, List.length_append]
    omega
  have hstops : Stops isNumberDigit start := by
    rw [(readKeyword_eq_some hkeyword).1]
    exact hkeywords.stops_word kind rest
  refine ⟨before, place, tail, body, hne, htext, ?_, ?_⟩
  · -- No other form of entry goes further than this kind of binding.
    refine stuckAt_readEntry (mem_alternatives kind start) hstuck
      (forall_mem_alternatives.2 ⟨⟨start, hle, ?_⟩, fun other => ?_⟩)
    · exact stuckAt_readRule (readRun_of_stops _ hstops)
    · by_cases hother : other = kind
      · subst hother
        exact ⟨place, Nat.le_refl _, hstuck⟩
      · -- Another kind has another keyword.
        have hwords : kind.word keywords ≠ other.word keywords := fun heq =>
          hother (BindingKind.word_injective keywords heq).symm
        refine ⟨start, hle, stuckAt_readBinding ?_⟩
        exact readKeyword_of_ne (kind.isToken_word keywords) (other.isToken_word keywords) hwords
          hkeyword
  · -- What completes the binding does not make a rule of it.
    have hrule : (readRule keywords (before ++ tail)).result = none := by
      apply readRule_of_stops
      rw [htext, stops_append_iff hne] at hstops
      exact (stops_append_iff hne tail).2 hstops
    exact readEntry_eq_some_iff.2 (Or.inr ⟨hrule, kind, hdone⟩)

/-- An entry is stuck at some place, and from there on the text can go on to the end of an entry.
The latter begins where the former did, or on a new line. -/
def Resumable (keywords : Keywords) (start : List Char) : Prop :=
  ∃ before place tail body, start = before ++ place ∧ (readEntry keywords start).StuckAt place ∧
    BeginsLike (before ++ tail) start ∧
      (readEntry keywords (skipGap (before ++ tail))).result = some (body, [])

theorem CompletableInside.resumable {start : List Char}
    (h : CompletableInside (readEntry keywords) start) : Resumable keywords start := by
  obtain ⟨before, place, tail, body, hne, rfl, hstuck, hdone⟩ := h
  refine ⟨before, place, tail, body, rfl, hstuck, .of_ne_nil hne tail place, ?_⟩
  rwa [skipGap_eq_self (stops_isGap_of_readEntry hdone)]

/-- Where not even the first word of an entry is read, an entry can begin on a new line. -/
theorem resumable_of_stuckAt (hkeywords : keywords.IsUnnumbered) {start : List Char}
    (hstuck : (readEntry keywords start).StuckAt start) : Resumable keywords start := by
  obtain ⟨tail, body, hdone⟩ := exists_readEntry hkeywords
  refine ⟨[], start, '\n' :: tail, body, rfl, hstuck, .lineFeed tail start, ?_⟩
  rwa [List.nil_append, skipGap_lineFeed, skipGap_eq_self (stops_isGap_of_readEntry hdone)]

/-- Every entry that goes wrong can be resumed. -/
theorem resumable_of_fails (hkeywords : keywords.IsUnnumbered) {start : List Char}
    (hfails : (readEntry keywords start).result = none) : Resumable keywords start := by
  obtain ⟨hrule, hbinding⟩ := forall_mem_alternatives.1 (fails_of_readEntry hfails)
  -- The cases are the first words of the forms, which exclude one another, and none of them.
  cases hnumber : (readRun isNumberDigit .ruleNumber start).result with
  | some success => exact (completableInside_of_number hkeywords hrule hnumber).resumable
  | none =>
    by_cases hkeyword : ∀ kind : BindingKind,
        (readKeyword (kind.word keywords) start).result = none
    · refine resumable_of_stuckAt hkeywords
        (stuckAt_readEntry List.mem_cons_self (stuckAt_readRule hnumber)
          (forall_mem_alternatives.2 ⟨?_, fun kind => ?_⟩))
      · exact ⟨start, Nat.le_refl _, stuckAt_readRule hnumber⟩
      · exact ⟨start, Nat.le_refl _, stuckAt_readBinding (hkeyword kind)⟩
    · obtain ⟨kind, hkind⟩ := not_forall.1 hkeyword
      obtain ⟨⟨u, rest⟩, hread⟩ := Option.ne_none_iff_exists'.1 hkind
      exact (completableInside_of_keyword hkeywords (hbinding kind) hread).resumable

/-! ## Sequences of entries -/

/-- From one place in a text to another, entries are read. -/
inductive Passes (keywords : Keywords) : List Char → List Slot → List Char → Prop
  | nil (start : List Char) : Passes keywords start [] start
  | cons {text rest start : List Char} {body : EntryBody} {slots : List Slot}
      (reads : (readEntry keywords text).result = some (body, rest))
      (passes : Passes keywords (skipGap rest) slots start) :
      Passes keywords text (⟨text, body⟩ :: slots) start

/-- If reading goes wrong, this is because of an entry behind others that were read. -/
theorem exists_passes {text : List Char} {stuck : Stuck}
    (h : readEntries keywords text = .error stuck) :
    ∃ slots, Passes keywords text slots stuck.start ∧
      (readEntry keywords stuck.start).result = none ∧
        stuck.misses = (readEntry keywords stuck.start).misses := by
  induction text using entries_induction keywords with
  | fails text hread =>
    rw [readEntries_of_none hread] at h
    cases h
    exact ⟨[], .nil text, hread, rfl⟩
  | last text body rest hread hrest =>
    rw [readEntries_of_last hread hrest] at h
    cases h
  | more text body rest hread hrest ih =>
    rw [readEntries_of_more hread hrest] at h
    cases hothers : readEntries keywords (skipGap rest) with
    | ok others =>
      rw [hothers] at h
      cases h
    | error found =>
      rw [hothers] at h
      cases h
      obtain ⟨slots, hpasses, hfails⟩ := ih hothers
      exact ⟨_ :: slots, .cons hread hpasses, hfails⟩

/-- If the text goes on otherwise behind the entries that were read, they are read again, and then
those that follow them now. -/
theorem Passes.resume (hkeywords : keywords.IsUnnumbered) {text start other : List Char}
    {slots more : List Slot} (h : Passes keywords text slots start)
    (hother : BeginsLike other start) (hmore : readEntries keywords (skipGap other) = .ok more) :
    ∃ lead slots', text = lead ++ start ∧
      readEntries keywords (skipGap (lead ++ other)) = .ok (slots' ++ more) ∧
        ∀ pre, slots'.map (Slot.locate (pre ++ (lead ++ other))) =
          slots.map (Slot.locate (pre ++ (lead ++ start))) := by
  induction h with
  | nil start => exact ⟨[], [], rfl, hmore, fun _ => rfl⟩
  | @cons text rest start body slots reads passes ih =>
    obtain ⟨lead, slots', hskip, hentries, hlocate⟩ := ih hother
    obtain ⟨gap, hgap, hrest⟩ := exists_gap rest
    rw [hskip] at hrest
    subst hrest
    obtain ⟨entry, hfits, rfl, rfl⟩ := exists_entry reads
    -- Behind the entry there is the same white space and the same beginning.
    have hagain := readEntry_exchange hkeywords reads ((hother.append_left lead).append_left gap)
    have hskip' : skipGap (gap ++ (lead ++ other)) = skipGap (lead ++ other) :=
      skipGap_gap_append _ hgap
    refine ⟨entry.chars keywords ++ (gap ++ lead),
      ⟨entry.chars keywords ++ (gap ++ (lead ++ other)), entry.body⟩ :: slots', ?_, ?_, ?_⟩
    · simp only [List.append_assoc]
    · have hne : skipGap (gap ++ (lead ++ other)) ≠ [] := by
        rw [hskip']
        exact ne_nil_of_readEntries hentries
      simp only [List.append_assoc]
      rw [skipGap_eq_self (stops_isGap_of_readEntry hagain), readEntries_of_more hagain hne, hskip',
        hentries]
      rfl
    · intro pre
      have hothers := hlocate (pre ++ (entry.chars keywords ++ gap))
      simp only [List.append_assoc] at hothers ⊢
      rw [List.map_cons, List.map_cons, hothers, Slot.locate, Slot.locate, textBefore_append,
        textBefore_append]

/-! ## Documents -/

/-- Everything that is missed where an entry should begin, in the order of discovery. -/
def missesAt (keywords : Keywords) (start : List Char) : List Miss :=
  (alternatives keywords start).flatMap Attempt.misses

/-- The offset of a miss in a text. -/
def Miss.offset (text : List Char) (miss : Miss) : Nat :=
  (textBefore text miss.rest).length

/-- The fault of a text whose entries in `slots` are read and in which no entry is read at
`start`. -/
structure ReadFault.IsViable (keywords : Keywords) (text : List Char) (slots : List Slot)
    (start : List Char) (fault : ReadFault) : Prop where
  passes : Passes keywords (skipGap text) slots start
  fails : ∀ alternative ∈ alternatives keywords start, alternative.result = none
  offset_le : fault.location.offset ≤ text.length
  /-- What stands before the fault goes on to a document with one more entry. -/
  continues : ∃ (continuation : String) (last : Entry),
    readDocument keywords (String.ofList (text.take fault.location.offset) ++ continuation) =
      .ok (slots.map (Slot.locate text) ++ [last])
  /-- All misses are places of the text. -/
  within : ∀ miss ∈ missesAt keywords start, miss.rest <:+ text
  /-- No form gets further than the fault. -/
  furthest : ∀ miss ∈ missesAt keywords start, miss.offset text ≤ fault.location.offset
  reached : ∃ miss ∈ missesAt keywords start, miss.offset text = fault.location.offset
  expected_eq : fault.expected =
    (((missesAt keywords start).filter fun miss =>
      miss.offset text == fault.location.offset).map Miss.expected).eraseDups
  nodup : fault.expected.Nodup

theorem within_missesAt {start : List Char} {miss : Miss}
    (h : miss ∈ missesAt keywords start) : miss.rest <:+ start := by
  obtain ⟨alternative, halternative, hmiss⟩ := List.mem_flatMap.1 h
  have hwithin : ∀ alternative ∈ alternatives keywords start, alternative.Within start :=
    forall_mem_alternatives.2
      ⟨within_readRule keywords start, fun kind => within_readBinding keywords kind start⟩
  exact (hwithin alternative halternative).misses miss hmiss

/-- The offset of a fault is that of the furthest place. -/
theorem ReadFault.offset_ofMisses (text start : List Char) (misses : List Miss) :
    (ReadFault.ofMisses text start misses).location.offset =
      text.length - (RuleConsult.furthest start misses).length :=
  length_textBefore text _

/-- What was missed at the furthest place was missed at the offset of the fault. -/
theorem ReadFault.expected_ofMisses {text start : List Char} {misses : List Miss}
    (hstart : start <:+ text) (hmisses : ∀ miss ∈ misses, miss.rest <:+ text) :
    (ReadFault.ofMisses text start misses).expected =
      ((misses.filter fun miss =>
        miss.offset text == (ReadFault.ofMisses text start misses).location.offset).map
          Miss.expected).eraseDups := by
  have hfurthest := (furthest_suffix hstart hmisses).length_le
  rw [offset_ofMisses]
  have hsame : ∀ miss ∈ misses,
      (miss.rest.length == (RuleConsult.furthest start misses).length) =
        (miss.offset text == text.length - (RuleConsult.furthest start misses).length) := by
    intro miss hmiss
    -- Within a text, an offset and what is left of the text determine each other.
    have hmiss := (hmisses miss hmiss).length_le
    rw [Miss.offset, length_textBefore, Bool.eq_iff_iff, beq_iff_eq, beq_iff_eq]
    omega
  simp only [ofMisses, expectedAt]
  rw [List.filter_congr hsame]

/-- If the text goes on to the end of an entry behind the entries that were read, the whole is a
document. -/
theorem Passes.readDocument_append (hkeywords : keywords.IsUnnumbered)
    {text start other : List Char} {slots : List Slot} {body : EntryBody}
    (h : Passes keywords (skipGap text) slots start) (hother : BeginsLike other start)
    (hdone : (readEntry keywords (skipGap other)).result = some (body, [])) :
    ∃ lead last, text = lead ++ start ∧ readDocument keywords (String.ofList (lead ++ other)) =
      .ok (slots.map (Slot.locate text) ++ [last]) := by
  obtain ⟨lead, slots', hskip, hentries, hlocate⟩ :=
    h.resume hkeywords hother (readEntries_of_last hdone rfl)
  obtain ⟨gap, hgap, htext⟩ := exists_gap text
  rw [hskip] at htext
  refine ⟨gap ++ lead, Slot.locate (gap ++ (lead ++ other)) ⟨skipGap other, body⟩, ?_, ?_⟩
  · rw [List.append_assoc]
    exact htext
  · simp only [readDocument, String.toList_ofList, List.append_assoc, skipGap_gap_append _ hgap,
      hentries, List.map_append, hlocate gap, ← htext, List.map_singleton]

/-- The fault stands where an entry is stuck. -/
theorem length_furthest_of_stuckAt {start place : List Char}
    (hfails : ∀ alternative ∈ alternatives keywords start, alternative.result = none)
    (hstuck : (readEntry keywords start).StuckAt place) (hplace : place.length ≤ start.length) :
    (furthest start (missesAt keywords start)).length = place.length := by
  rw [readEntry_of_fails hfails] at hstuck
  obtain ⟨miss, hmiss, hrest⟩ := hstuck.found
  apply Nat.le_antisymm
  · rw [← hrest]
    exact length_furthest_le_of_mem hmiss
  · exact le_length_furthest hplace hstuck.le

/-- A text that is refused is understood up to the fault: what stands before the fault goes on to a
document, and the fault lists what the entry lacks at the furthest place that any of its forms
reached. -/
theorem readDocument_viable (hkeywords : keywords.IsUnnumbered) {text : String}
    {fault : ReadFault} (h : readDocument keywords text = .error fault) :
    ∃ slots start, fault.IsViable keywords text.toList slots start := by
  simp only [readDocument] at h
  cases hread : readEntries keywords (skipGap text.toList) with
  | ok slots =>
    rw [hread] at h
    cases h
  | error stuck =>
    rw [hread] at h
    cases h
    obtain ⟨slots, hpasses, hfails, hmisses⟩ := exists_passes hread
    obtain ⟨start, misses⟩ := stuck
    have halternatives := fails_of_readEntry hfails
    have hmissesAt : misses = missesAt keywords start := by
      rw [readEntry_of_fails halternatives] at hmisses
      exact hmisses
    subst hmissesAt
    -- The place at which the entry is stuck, and what completes it from there on.
    obtain ⟨before, place, tail, body, rfl, hstuck, hbegins, hdone⟩ :=
      resumable_of_fails hkeywords hfails
    obtain ⟨lead, last, htext, hdocument⟩ :=
      hpasses.readDocument_append hkeywords hbegins hdone
    have hsuffix : before ++ place <:+ text.toList := ⟨lead, htext.symm⟩
    have hwithin : ∀ miss ∈ missesAt keywords (before ++ place), miss.rest <:+ text.toList :=
      fun miss hmiss => (within_missesAt hmiss).trans hsuffix
    have hfurthest := length_furthest_of_stuckAt halternatives hstuck (by simp)
    have hoffset : (ReadFault.ofMisses text.toList (before ++ place)
        (missesAt keywords (before ++ place))).location.offset = (lead ++ before).length := by
      rw [ReadFault.offset_ofMisses, hfurthest, htext]
      simp only [List.length_append]
      omega
    refine ⟨slots, before ++ place, hpasses, halternatives, ?_, ?_, hwithin, ?_, ?_,
      ReadFault.expected_ofMisses hsuffix hwithin, nodup_eraseDups _⟩
    · exact (ReadFault.offset_ofMisses ..).trans_le (Nat.sub_le _ _)
    · have htake : text.toList.take (lead ++ before).length = lead ++ before := by
        rw [htext, ← List.append_assoc, List.take_left]
      refine ⟨String.ofList tail, last, ?_⟩
      rw [hoffset, htake, ← String.ofList_append, List.append_assoc]
      exact hdocument
    · intro miss hmiss
      rw [ReadFault.offset_ofMisses, Miss.offset, length_textBefore]
      exact Nat.sub_le_sub_left (length_furthest_le_of_mem hmiss) _
    · rw [readEntry_of_fails halternatives] at hstuck
      obtain ⟨miss, hmiss, hrest⟩ := hstuck.found
      refine ⟨miss, hmiss, ?_⟩
      rw [ReadFault.offset_ofMisses, hfurthest, Miss.offset, length_textBefore, hrest]

/-- Behind a question, a rule that ends after its first condition: it lacks a conjunction or the
keyword before its conclusion. -/
theorem readDocument_viable_standard :
    ∃ slots start, ReadFault.IsViable .standard "вопрос a\n1 если b-c\n ".toList slots start
      ⟨⟨21, 3, 2⟩, 31, [.keyword "и", .keyword "то"], ""⟩ := by
  have hread : readDocument .standard "вопрос a\n1 если b-c\n " =
      .error ⟨⟨21, 3, 2⟩, 31, [.keyword "и", .keyword "то"], ""⟩ := by
    decide +kernel
  exact readDocument_viable Keywords.isUnnumbered_standard hread

end RuleConsult
