import RuleConsult.Proofs.Reading.Exchange

/-!
# Entries tile a text

Reading goes through a text without losing or repeating a character: white space, an entry, white
space, an entry, and so on up to the end. A *stretch* of the text is what was read for one entry. It
does not depend on anything around it: alone, it is read as the same entry.

Entries and faults are placed by line and column as well as by offset. Either determines the other:
the line counts the line feeds before the offset, and the column counts on from where that line
begins.

* `Location.isFaithful_after`: the numbers of a place agree, and no other place has its line and
  column;
* `tiles_of_readEntries`: sequences of entries;
* `readDocument_tiles`: documents.
-/

namespace RuleConsult

open Text

/-! ## Places -/

/-- The number of characters up to and including the given number of line feeds. -/
def afterLineFeeds : Nat → List Char → Nat
  | 0, _ => 0
  | _ + 1, [] => 0
  | n + 1, c :: text =>
    (if c = '\n' then afterLineFeeds n text else afterLineFeeds (n + 1) text) + 1

/-- The number of characters before a line of a text. Lines are counted from one. -/
def lineStart (text : List Char) (line : Nat) : Nat :=
  afterLineFeeds (line - 1) text

/-- The three numbers of a place of a text agree. -/
structure Location.IsFaithful (text : List Char) (location : Location) : Prop where
  offset_le : location.offset ≤ text.length
  line_eq : location.line = (text.take location.offset).count '\n' + 1
  column_pos : 0 < location.column
  start_add_column : lineStart text location.line + location.column = location.offset + 1
  /-- There is no other place in the same line and column. -/
  only : ∀ n ≤ text.length, (Location.after (text.take n)).line = location.line →
    (Location.after (text.take n)).column = location.column → n = location.offset

theorem afterLineFeeds_append (before rest : List Char) :
    afterLineFeeds (before.count '\n' + 1) (before ++ '\n' :: rest) = before.length + 1 := by
  induction before with
  | nil => simp [afterLineFeeds]
  | cons c before ih =>
    rw [List.cons_append, afterLineFeeds, List.length_cons]
    by_cases hc : c = '\n'
    · subst hc
      rw [if_pos rfl, List.count_cons_self, ih]
    · rw [if_neg hc, List.count_cons_of_ne hc, ih]

/-- A line begins as many characters before a place as the column of the place says. -/
theorem lineStart_add_column (before rest : List Char) :
    lineStart (before ++ rest) (Location.after before).line + (Location.after before).column =
      before.length + 1 := by
  -- The last character either ends a line or is one more in the line of those before it.
  induction before using List.reverseRecOn generalizing rest with
  | nil => simp [lineStart, Location.after, afterLineFeeds]
  | append_singleton before c ih =>
    rw [List.append_assoc, List.singleton_append]
    by_cases hc : c = '\n'
    · subst hc
      simp [lineStart, Location.after, afterLineFeeds_append]
    · have hcount : (before ++ [c]).count '\n' = before.count '\n' := by
        rw [List.count_append, List.count_singleton, if_neg (by simpa using hc), Nat.add_zero]
      have hline := ih (c :: rest)
      simp only [Location.after, hcount, List.reverse_append, List.reverse_singleton,
        List.singleton_append, List.takeWhile_cons, bne_iff_ne, ne_eq, hc, not_false_eq_true,
        if_true, List.length_cons, List.length_append, List.length_nil] at hline ⊢
      omega

/-- The numbers of a place agree. -/
theorem Location.isFaithful_after {text : List Char} {n : Nat} (hn : n ≤ text.length) :
    (Location.after (text.take n)).IsFaithful text := by
  have hsum : ∀ k ≤ text.length, lineStart text (Location.after (text.take k)).line +
      (Location.after (text.take k)).column = k + 1 := by
    intro k hk
    have := lineStart_add_column (text.take k) (text.drop k)
    rwa [List.take_append_drop, List.length_take_of_le hk] at this
  have hoffset : (Location.after (text.take n)).offset = n := List.length_take_of_le hn
  refine ⟨hoffset.trans_le hn, ?_, Nat.succ_pos _, (hsum n hn).trans (by rw [hoffset]), ?_⟩
  · rw [hoffset]
    rfl
  · intro k hk hline hcolumn
    -- The sum is the same at both places.
    have hboth := hsum k hk
    rw [hline, hcolumn, hsum n hn] at hboth
    omega

/-- What precedes a part of a text is a beginning of the text. -/
theorem Location.isFaithful_after_textBefore (text rest : List Char) :
    (Location.after (textBefore text rest)).IsFaithful text :=
  Location.isFaithful_after (Nat.sub_le _ _)

/-- The place of an entry is a faithful one. -/
def Entry.IsFaithful (text : List Char) (entry : Entry) : Prop :=
  ∃ location : Location, location.IsFaithful text ∧
    entry = ⟨location.offset, location.line, location.column, entry.body⟩

/-- A fault counts bytes up to the place that it names. -/
structure ReadFault.IsFaithful (text : List Char) (fault : ReadFault) : Prop where
  location : fault.location.IsFaithful text
  byteOffset_eq : fault.byteOffset =
    (String.ofList (text.take fault.location.offset)).utf8ByteSize

theorem Slot.isFaithful_locate (text : List Char) (slot : Slot) :
    (slot.locate text).IsFaithful text :=
  ⟨_, Location.isFaithful_after_textBefore text slot.start, rfl⟩

theorem ReadFault.isFaithful_ofMisses (text start : List Char) (misses : List Miss) :
    (ReadFault.ofMisses text start misses).IsFaithful text where
  location := Location.isFaithful_after_textBefore text _
  byteOffset_eq := by
    simp only [ofMisses, Location.after, length_textBefore]
    rfl

/-! ## Stretches -/

/-- An entry with the offset at which it ends. -/
structure Stretch where
  entry : Entry
  stop : Nat

/-- The characters between two offsets. -/
def between (text : List Char) (start stop : Nat) : List Char :=
  (text.take stop).drop start

/-- The characters of a stretch. -/
def Stretch.chars (text : List Char) (stretch : Stretch) : List Char :=
  between text stretch.entry.offset stretch.stop

/-- A stretch of a text holds its entry: this is read where the stretch begins, up to where it ends,
and it is read in the stretch alone. -/
structure Stretch.Holds (keywords : Keywords) (text : List Char) (stretch : Stretch) : Prop where
  offset_lt_stop : stretch.entry.offset < stretch.stop
  stop_le : stretch.stop ≤ text.length
  reads : (readEntry keywords (text.drop stretch.entry.offset)).result =
    some (stretch.entry.body, text.drop stretch.stop)
  alone : readDocument keywords (String.ofList (stretch.chars text)) =
    .ok [⟨0, 1, 1, stretch.entry.body⟩]

/-- From an offset on, a text consists of stretches in their order, and of white space. -/
def Tiles (keywords : Keywords) (text : List Char) : Nat → List Stretch → Prop
  | start, [] => IsGap (text.drop start)
  | start, stretch :: stretches =>
    start ≤ stretch.entry.offset ∧ IsGap (between text start stretch.entry.offset) ∧
      stretch.Holds keywords text ∧ Tiles keywords text stretch.stop stretches

theorem between_append (xs ys zs : List Char) :
    between (xs ++ (ys ++ zs)) xs.length (xs ++ ys).length = ys := by
  rw [between, ← List.append_assoc, List.take_left, List.drop_left]

variable {keywords : Keywords}

/-- A text that is read as an entry up to its end is a document of this entry. -/
theorem readDocument_of_readEntry {used : List Char} {body : EntryBody}
    (h : (readEntry keywords used).result = some (body, [])) :
    readDocument keywords (String.ofList used) = .ok [⟨0, 1, 1, body⟩] := by
  have hskip : skipGap used = used := skipGap_eq_self (stops_isGap_of_readEntry h)
  simp only [readDocument, String.toList_ofList, hskip, readEntries_of_last h rfl, List.map_cons,
    List.map_nil, Slot.locate, textBefore, Nat.sub_self, List.take_zero]
  rfl

/-- What was read for an entry is a stretch that holds it. -/
theorem Stretch.holds_of_readEntry (lead : List Char) {used rest : List Char} {body : EntryBody}
    (h : (readEntry keywords (used ++ rest)).result = some (body, rest)) :
    Stretch.Holds keywords (lead ++ (used ++ rest))
      ⟨Slot.locate (lead ++ (used ++ rest)) ⟨used ++ rest, body⟩, (lead ++ used).length⟩ := by
  have hoffset : (Slot.locate (lead ++ (used ++ rest)) ⟨used ++ rest, body⟩).offset =
      lead.length := by
    simp only [Slot.locate, textBefore_append, Location.after]
  have hpos : rest.length < (used ++ rest).length := consumes_readEntry keywords _ _ _ h
  refine ⟨?_, ?_, ?_, ?_⟩
  · simp only [hoffset, List.length_append] at hpos ⊢
    omega
  · simp only [List.length_append]
    omega
  · rw [hoffset, List.drop_left, ← List.append_assoc, List.drop_left]
    exact h
  · rw [chars, hoffset, between_append]
    exact readDocument_of_readEntry (readEntry_alone h)

/-- White space and what was read for an entry stand in front of what is tiled. -/
theorem Tiles.cons_of_readEntry (before : List Char) {gap used rest : List Char}
    {body : EntryBody} {stretches : List Stretch} (hgap : IsGap gap)
    (h : (readEntry keywords (used ++ rest)).result = some (body, rest))
    (hmore : Tiles keywords (before ++ (gap ++ (used ++ rest)))
      (before ++ (gap ++ used)).length stretches) :
    Tiles keywords (before ++ (gap ++ (used ++ rest))) before.length
      (⟨Slot.locate (before ++ (gap ++ (used ++ rest))) ⟨used ++ rest, body⟩,
        (before ++ (gap ++ used)).length⟩ :: stretches) := by
  have hoffset : (Slot.locate (before ++ (gap ++ (used ++ rest))) ⟨used ++ rest, body⟩).offset =
      (before ++ gap).length := by
    rw [← List.append_assoc]
    simp only [Slot.locate, textBefore_append, Location.after]
  have hholds := Stretch.holds_of_readEntry (before ++ gap) h
  simp only [List.append_assoc] at hholds
  refine ⟨?_, ?_, hholds, hmore⟩
  · simp only [hoffset, List.length_append]
    omega
  · simp only [hoffset, between_append]
    exact hgap

/-- Behind white space, the entries that were read tile the rest of a text. -/
theorem tiles_of_readEntries {start : List Char} {slots : List Slot}
    (h : readEntries keywords start = .ok slots) (before : List Char) {gap : List Char}
    (hgap : IsGap gap) :
    ∃ stretches : List Stretch,
      stretches.map Stretch.entry = slots.map (Slot.locate (before ++ (gap ++ start))) ∧
        Tiles keywords (before ++ (gap ++ start)) before.length stretches := by
  -- Offsets are counted from the beginning of the whole text, so what precedes must be general.
  revert before gap
  refine readEntries_induction ?last ?more h
  case last =>
    intro text body rest hread hrest before gap hgap
    obtain ⟨entry, hfits, rfl, rfl⟩ := exists_entry hread
    refine ⟨[⟨_, _⟩], rfl, Tiles.cons_of_readEntry before hgap hread ?_⟩
    -- Behind the last entry there is only white space.
    have hassoc : before ++ (gap ++ (entry.chars keywords ++ rest)) =
        (before ++ (gap ++ entry.chars keywords)) ++ rest := by
      simp only [List.append_assoc]
    rw [Tiles, hassoc, List.drop_left]
    exact List.dropWhile_eq_nil_iff.1 hrest
  case more =>
    intro text body rest others hread hothers ih before gap hgap
    obtain ⟨entry, hfits, rfl, rfl⟩ := exists_entry hread
    obtain ⟨gap', hgap', hrest⟩ := exists_gap rest
    obtain ⟨stretches, hentries, htiles⟩ := ih (before ++ (gap ++ entry.chars keywords)) hgap'
    simp only [← hrest, List.append_assoc] at hentries htiles
    refine ⟨⟨_, _⟩ :: stretches, ?_, Tiles.cons_of_readEntry before hgap hread ?_⟩
    · rw [List.map_cons, List.map_cons, hentries]
    · simpa only [List.append_assoc] using htiles

/-! ## Documents -/

/-- The entries of a text tile it, and alone each of their stretches is read as that entry; the
places of entries, and of the fault in a text that is refused, are faithful. -/
theorem readDocument_tiles (keywords : Keywords) (text : String) :
    match readDocument keywords text with
    | .ok entries =>
      (∃ stretches : List Stretch, stretches.map Stretch.entry = entries ∧
        Tiles keywords text.toList 0 stretches) ∧
      ∀ entry ∈ entries, entry.IsFaithful text.toList
    | .error fault => fault.IsFaithful text.toList := by
  obtain ⟨lead, hlead, htext⟩ := exists_gap text.toList
  simp only [readDocument]
  cases hslots : readEntries keywords (skipGap text.toList) with
  | error stuck => exact ReadFault.isFaithful_ofMisses _ _ _
  | ok slots =>
    refine ⟨?_, ?_⟩
    · have htiles := tiles_of_readEntries hslots [] hlead
      rwa [← htext] at htiles
    · intro entry hentry
      obtain ⟨slot, -, rfl⟩ := List.mem_map.1 hentry
      exact slot.isFaithful_locate _

/-- A rule over two lines and a question, whose stretch includes the blank at the end, and a
condition without a value. -/
theorem readDocument_tiles_standard :
    (∃ stretches : List Stretch,
      stretches.map Stretch.entry =
        [⟨1, 1, 2, .rule "1" [⟨"a", "b"⟩] (some ⟨"c", "d"⟩)⟩,
          ⟨21, 4, 1, .binding .advice "a" "ok?"⟩] ∧
        Tiles .standard " 1 если a-b\nто c-d \n\nвопрос a ok? ".toList 0 stretches) ∧
      ReadFault.IsFaithful "2 если\na то".toList ⟨⟨8, 2, 2⟩, 12, [.hyphen], " то"⟩ := by
  have hread : readDocument .standard " 1 если a-b\nто c-d \n\nвопрос a ok? " =
      .ok [⟨1, 1, 2, .rule "1" [⟨"a", "b"⟩] (some ⟨"c", "d"⟩)⟩,
        ⟨21, 4, 1, .binding .advice "a" "ok?"⟩] := by
    decide +kernel
  have hrefused : readDocument .standard "2 если\na то" =
      .error ⟨⟨8, 2, 2⟩, 12, [.hyphen], " то"⟩ := by
    decide +kernel
  have htiles := readDocument_tiles .standard " 1 если a-b\nто c-d \n\nвопрос a ok? "
  have hfault := readDocument_tiles .standard "2 если\na то"
  rw [hread] at htiles
  rw [hrefused] at hfault
  exact ⟨htiles.1, hfault⟩

end RuleConsult
