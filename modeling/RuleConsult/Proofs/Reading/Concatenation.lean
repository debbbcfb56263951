import RuleConsult.Proofs.Reading.Exchange
import RuleConsult.Proofs.Reading.Within
import RuleConsult.Proofs.RoundTrip

/-!
# Two texts, one below the other

An entry never reaches beyond a line feed unless it has to: what is read as an entry of a text is
read as the same entry if a line feed and a further text stand behind that text. So the entries of
the upper text come first, and then the lower text is read as if it stood alone. Only its places
move.

A keyword of bindings that begins with a digit may be taken for the number of a rule, and then the
lower text may complete that rule. Such keywords are excluded.

* `readEntry_append_lineFeed`: an entry is read in front of a line feed as at the end of a text;
* `readEntries_append_lineFeed`: so are all entries of a text, and reading goes on behind them;
* `ReadFault.ofMisses_append_lineFeed`: a fault in the lower text is the same one, moved;
* `readDocument_append_lineFeed`: documents.
-/

namespace RuleConsult

open Text

variable {keywords : Keywords}

/-! ## Entries in front of a line feed -/

/-- An entry that is read at the end of a text is read in front of a line feed, too. -/
theorem readEntry_append_lineFeed (hkeywords : keywords.IsUnnumbered) {xs rest : List Char}
    {body : EntryBody} (ys : List Char) (h : (readEntry keywords xs).result = some (body, rest)) :
    (readEntry keywords (xs ++ '\n' :: ys)).result = some (body, rest ++ '\n' :: ys) := by
  obtain ⟨entry, hfits, rfl, rfl⟩ := exists_entry h
  rw [List.append_assoc]
  exact readEntry_chars (hfits.exchange hkeywords (.append_lineFeed rest ys))

/-! ## Sequences of entries -/

/-- A slot of a text that has more text behind it. -/
def Slot.extended (tail : List Char) (slot : Slot) : Slot :=
  { slot with start := slot.start ++ tail }

/-- The entries of the upper text are read first, and then those of the lower one. -/
theorem readEntries_append_lineFeed (hkeywords : keywords.IsUnnumbered) {xs ys : List Char}
    {slots : List Slot} (h : readEntries keywords xs = .ok slots) (hys : skipGap ys ≠ []) :
    readEntries keywords (xs ++ '\n' :: ys) =
      (readEntries keywords (skipGap ys)).map
        (slots.map (Slot.extended ('\n' :: ys)) ++ ·) := by
  refine readEntries_induction ?last ?more h
  case last =>
    intro text body rest hread hrest
    have hskip : skipGap (rest ++ '\n' :: ys) = skipGap ys := by
      rw [skipGap_append_of_nil _ hrest, skipGap_lineFeed]
    have hlong := readEntry_append_lineFeed hkeywords ys hread
    rw [readEntries_of_more hlong (hskip ▸ hys), hskip]
    rfl
  case more =>
    intro text body rest others hread hothers ih
    have hrest : skipGap rest ≠ [] := ne_nil_of_readEntries hothers
    have hskip : skipGap (rest ++ '\n' :: ys) = skipGap rest ++ '\n' :: ys :=
      skipGap_append _ hrest
    have hlong := readEntry_append_lineFeed hkeywords ys hread
    rw [readEntries_of_more hlong (by rw [hskip]; simp), hskip, ih]
    cases readEntries keywords (skipGap ys) <;> rfl

/-! ## Places -/

/-- How far a text is moved. Columns stay as they are. -/
structure Shift where
  characters : Nat
  lines : Nat
  bytes : Nat

/-- A text below another one is moved by that text and the line feed between them. -/
def Shift.below (upper : String) : Shift where
  characters := upper.length + 1
  lines := upper.toList.count '\n' + 1
  bytes := upper.utf8ByteSize + 1

def Location.moved (shift : Shift) (location : Location) : Location :=
  { location with
    offset := location.offset + shift.characters
    line := location.line + shift.lines }

def Entry.moved (shift : Shift) (entry : Entry) : Entry :=
  { entry with
    offset := entry.offset + shift.characters
    line := entry.line + shift.lines }

def ReadFault.moved (shift : Shift) (fault : ReadFault) : ReadFault :=
  { fault with
    location := fault.location.moved shift
    byteOffset := fault.byteOffset + shift.bytes }

/-- A place in the lower text is in the same column as without the upper one. -/
theorem Location.after_append_lineFeed (upper : String) (before : List Char) :
    Location.after (upper.toList ++ '\n' :: before) =
      (Location.after before).moved (.below upper) := by
  have hcolumn : (upper.toList ++ '\n' :: before).reverse.takeWhile (· != '\n') =
      before.reverse.takeWhile (· != '\n') := by
    rw [List.reverse_append, List.reverse_cons, List.append_assoc, List.singleton_append]
    exact takeWhile_append_of_stops _ (stops_cons.2 rfl)
  simp only [Location.after, Location.moved, Shift.below, hcolumn, List.length_append,
    List.length_cons, List.count_append, List.count_cons_self, String.length_toList,
    Location.mk.injEq]
  exact ⟨by omega, by omega, trivial⟩

/-- What precedes a place in the upper text is the same with the lower one. -/
theorem textBefore_append_right (text start tail : List Char) :
    textBefore (text ++ tail) (start ++ tail) = textBefore text start := by
  have hlen : (text ++ tail).length - (start ++ tail).length = text.length - start.length := by
    rw [List.length_append, List.length_append, Nat.add_sub_add_right]
  rw [textBefore, hlen, List.take_append_of_le_length (Nat.sub_le _ _), textBefore]

/-- What precedes a place in the lower text begins with the upper one. -/
theorem textBefore_append_left (lead : List Char) {text rest : List Char}
    (h : rest.length ≤ text.length) :
    textBefore (lead ++ text) rest = lead ++ textBefore text rest := by
  have hlen : (lead ++ text).length - rest.length = lead.length + (text.length - rest.length) := by
    rw [List.length_append, Nat.add_sub_assoc h]
  rw [textBefore, hlen, List.take_length_add_append, textBefore]

theorem textBefore_append_lineFeed (upper lower rest : List Char)
    (h : rest.length ≤ lower.length) :
    textBefore (upper ++ '\n' :: lower) rest = upper ++ '\n' :: textBefore lower rest := by
  have := textBefore_append_left (upper ++ ['\n']) h
  rwa [List.append_assoc, List.append_assoc] at this

/-- The entries of the upper text stay where they are. -/
theorem Slot.locate_extended (text tail : List Char) (slot : Slot) :
    (slot.extended tail).locate (text ++ tail) = slot.locate text := by
  simp only [locate, extended, textBefore_append_right]

/-- The entries of the lower text are moved. -/
theorem Slot.locate_append_lineFeed (upper : String) {lower : List Char} {slot : Slot}
    (h : slot.start.length ≤ lower.length) :
    slot.locate (upper.toList ++ '\n' :: lower) =
      (slot.locate lower).moved (.below upper) := by
  simp only [locate, textBefore_append_lineFeed _ _ _ h, Location.after_append_lineFeed,
    Location.moved, Entry.moved, Int.natCast_add]

/-- A fault in the lower text is the one that this text has alone, moved. -/
theorem ReadFault.ofMisses_append_lineFeed (upper : String) {lower start : List Char}
    (misses : List Miss) (h : start.length ≤ lower.length) :
    ReadFault.ofMisses (upper.toList ++ '\n' :: lower) start misses =
      (ReadFault.ofMisses lower start misses).moved (.below upper) := by
  have hbefore := textBefore_append_lineFeed upper.toList lower (furthest start misses)
    (Nat.le_trans (length_furthest_le start misses) h)
  -- The text before the fault has the bytes of the upper text, the line feed and its own.
  have hbytes : (String.ofList (upper.toList ++
      '\n' :: textBefore lower (furthest start misses))).utf8ByteSize =
        (String.ofList (textBefore lower (furthest start misses))).utf8ByteSize +
          (upper.utf8ByteSize + 1) := by
    rw [String.ofList_append, String.ofList_toList, String.utf8ByteSize_append, String.ofList_cons,
      String.utf8ByteSize_append, String.utf8ByteSize_singleton]
    have hlineFeed : '\n'.utf8Size = 1 := rfl
    omega
  simp only [ofMisses, hbefore, hbytes, Location.after_append_lineFeed, moved, Shift.below]

/-! ## Documents -/

/-- If a text is read, then a further text below it is read or refused as if it stood alone, except
that all its places are moved. -/
theorem readDocument_append_lineFeed (hkeywords : keywords.IsUnnumbered) {upper lower : String}
    {entries : List Entry} (hupper : readDocument keywords upper = .ok entries)
    (hlower : ∃ c ∈ lower.toList, isGap c = false) :
    readDocument keywords (upper ++ "\n" ++ lower) =
      match readDocument keywords lower with
      | .ok more => .ok (entries ++ more.map (Entry.moved (.below upper)))
      | .error fault => .error (fault.moved (.below upper)) := by
  obtain ⟨slots, hslots, rfl⟩ := exists_slots_of_readDocument hupper
  have htext : (upper ++ "\n" ++ lower).toList = upper.toList ++ '\n' :: lower.toList := by
    simp
  have hskip : skipGap (upper.toList ++ '\n' :: lower.toList) =
      skipGap upper.toList ++ '\n' :: lower.toList :=
    skipGap_append _ (ne_nil_of_readEntries hslots)
  have hlower' : skipGap lower.toList ≠ [] := by
    intro hnil
    obtain ⟨c, hc, hgap⟩ := hlower
    rw [List.dropWhile_eq_nil_iff.1 hnil c hc] at hgap
    cases hgap
  have hread := readEntries_append_lineFeed hkeywords hslots hlower'
  have hwithin := suffix_of_readEntries keywords (skipGap lower.toList)
  have hle : (skipGap lower.toList).length ≤ lower.toList.length := length_skipGap_le _
  simp only [readDocument, htext, hskip, hread]
  cases hothers : readEntries keywords (skipGap lower.toList) with
  | error stuck =>
    rw [hothers] at hwithin
    exact congrArg Except.error
      (ReadFault.ofMisses_append_lineFeed upper _ (Nat.le_trans hwithin.1.length_le hle))
  | ok others =>
    rw [hothers] at hwithin
    -- The slots of either text are located as they are there alone.
    have hfirst : (slots.map (Slot.extended ('\n' :: lower.toList))).map
        (Slot.locate (upper.toList ++ '\n' :: lower.toList)) =
          slots.map (Slot.locate upper.toList) := by
      rw [List.map_map]
      exact List.map_congr_left fun slot _ => slot.locate_extended _ _
    have hsecond : others.map (Slot.locate (upper.toList ++ '\n' :: lower.toList)) =
        (others.map (Slot.locate lower.toList)).map (Entry.moved (.below upper)) := by
      rw [List.map_map]
      exact List.map_congr_left fun slot hslot =>
        Slot.locate_append_lineFeed upper (Nat.le_trans (hwithin slot hslot).length_le hle)
    exact congrArg Except.ok (by rw [List.map_append, hfirst, hsecond])

/-- Below a rule and a question without a text: a tip, and a condition without a rule. -/
theorem readDocument_append_lineFeed_standard :
    readDocument .standard ("1 если a-b то c-d\nвопрос a" ++ "\n" ++ " подсказка c ok?") =
        .ok [⟨0, 1, 1, .rule "1" [⟨"a", "b"⟩] (some ⟨"c", "d"⟩)⟩,
          ⟨18, 2, 1, .binding .advice "a" ""⟩, ⟨28, 3, 2, .binding .tip "c" "ok?"⟩] ∧
      readDocument .standard ("1 если a-b то c-d\nвопрос a" ++ "\n" ++ "2 если\na то") =
        .error ⟨⟨35, 4, 2⟩, 51, [.hyphen], " то"⟩ := by
  have hupper : readDocument .standard "1 если a-b то c-d\nвопрос a" =
      .ok [⟨0, 1, 1, .rule "1" [⟨"a", "b"⟩] (some ⟨"c", "d"⟩)⟩,
        ⟨18, 2, 1, .binding .advice "a" ""⟩] := by
    decide +kernel
  have hread : readDocument .standard " подсказка c ok?" =
      .ok [⟨1, 1, 2, .binding .tip "c" "ok?"⟩] := by
    decide +kernel
  have hrefused : readDocument .standard "2 если\na то" =
      .error ⟨⟨8, 2, 2⟩, 12, [.hyphen], " то"⟩ := by
    decide +kernel
  have htip : ∃ c ∈ " подсказка c ok?".toList, isGap c = false :=
    ⟨'c', by decide +kernel, by decide +kernel⟩
  have hcondition : ∃ c ∈ "2 если\na то".toList, isGap c = false :=
    ⟨'2', by decide +kernel, by decide +kernel⟩
  constructor
  · rw [readDocument_append_lineFeed Keywords.isUnnumbered_standard hupper htip, hread]
    decide +kernel
  · rw [readDocument_append_lineFeed Keywords.isUnnumbered_standard hupper hcondition, hrefused]
    decide +kernel

/-- With keywords that are numbers, a binding without a text may become a rule. -/
example :
    ((readDocument numberedKeywords "7 if").toOption.map List.length,
      (readDocument numberedKeywords "a-b then c-d").toOption.map List.length,
      (readDocument numberedKeywords ("7 if" ++ "\n" ++ "a-b then c-d")).toOption.map List.length) =
        (some 1, none, some 1) := by
  decide +kernel

end RuleConsult
