import RuleConsult.Proofs.Reading.Written
import RuleConsult.Reading.Document

/-!
# Texts of lines

A text is read entry by entry, and a text whose every line is an entry is read line by line.
`Legible` says of a list of lines that each of them, in front of those that follow it, is read as
the entry that is noted beside it; `readDocument_of_legible` then gives the entries of the whole
text with their lines and columns.

* `entries_induction`, `readEntries_induction`: induction along the entries of a text, and along
  those that were read;
* `readDocument_of_legible`: legible lines are read.
-/

namespace RuleConsult

open Text

/-- A line, with the entry that should be read in it. -/
structure Line where
  chars : List Char
  body : EntryBody

/-- The text of lines, each with a line feed behind it. -/
def joined (lines : List Line) : List Char :=
  lines.flatMap fun line => line.chars ++ ['\n']

@[simp]
theorem joined_nil : joined [] = [] := rfl

theorem joined_cons (line : Line) (lines : List Line) :
    joined (line :: lines) = line.chars ++ '\n' :: joined lines := by
  simp [joined]

/-- Lines are joined in order. -/
theorem joined_append (xs ys : List Line) : joined (xs ++ ys) = joined xs ++ joined ys := by
  simp [joined]

variable {keywords : Keywords}

/-- Every line is read as its entry and not beyond its end, whatever else it could begin with the
lines behind it. -/
inductive Legible (keywords : Keywords) : List Line → Prop
  | nil : Legible keywords []
  | cons {line : Line} {lines : List Line}
      (reads : (readEntry keywords (line.chars ++ '\n' :: joined lines)).result =
        some (line.body, '\n' :: joined lines))
      (stops : Stops isGap line.chars) (single : '\n' ∉ line.chars)
      (rest : Legible keywords lines) : Legible keywords (line :: lines)

/-! ## Reading entry by entry -/

/-- Where no entry is read there is a fault. -/
theorem readEntries_of_none {text : List Char} (h : (readEntry keywords text).result = none) :
    readEntries keywords text = .error ⟨text, (readEntry keywords text).misses⟩ := by
  rw [readEntries]
  split
  · rfl
  · rename_i hsome
    rw [h] at hsome
    cases hsome

/-- An entry with nothing but white space behind it is the last one. -/
theorem readEntries_of_last {text rest : List Char} {body : EntryBody}
    (h : (readEntry keywords text).result = some (body, rest)) (hrest : skipGap rest = []) :
    readEntries keywords text = .ok [⟨text, body⟩] := by
  rw [readEntries]
  split
  · rename_i hnone
    rw [h] at hnone
    cases hnone
  · rename_i hsome
    rw [h] at hsome
    cases hsome
    exact if_pos (by simp [hrest])

/-- Behind an entry the rest is read from the next word on. -/
theorem readEntries_of_more {text rest : List Char} {body : EntryBody}
    (h : (readEntry keywords text).result = some (body, rest)) (hrest : skipGap rest ≠ []) :
    readEntries keywords text =
      (readEntries keywords (skipGap rest)).map (⟨text, body⟩ :: ·) := by
  rw [readEntries]
  split
  · rename_i hnone
    rw [h] at hnone
    cases hnone
  · rename_i hsome
    rw [h] at hsome
    cases hsome
    exact if_neg (by simpa using hrest)

/-- In an empty text no entry is read. -/
theorem ne_nil_of_readEntries {text : List Char} {slots : List Slot}
    (h : readEntries keywords text = .ok slots) : text ≠ [] := by
  rintro rfl
  cases hread : (readEntry keywords []).result with
  | none =>
    rw [readEntries_of_none hread] at h
    cases h
  | some success => exact absurd (consumes_readEntry keywords [] _ _ hread) (Nat.not_lt_zero _)

/-- Induction along a text: no entry is read at its beginning, or a last one behind which there is
only white space, or one with more text behind it. -/
@[elab_as_elim]
theorem entries_induction (keywords : Keywords) {motive : List Char → Prop}
    (fails : ∀ text, (readEntry keywords text).result = none → motive text)
    (last : ∀ text body rest, (readEntry keywords text).result = some (body, rest) →
      skipGap rest = [] → motive text)
    (more : ∀ text body rest, (readEntry keywords text).result = some (body, rest) →
      skipGap rest ≠ [] → motive (skipGap rest) → motive text)
    (text : List Char) : motive text :=
  readEntries.induct keywords motive fails
    (fun text body rest hread _ hempty => last text body rest hread (by simpa using hempty))
    (fun text body rest hread _ hempty ih => more text body rest hread (by simpa using hempty) ih)
    text

/-- Induction along the entries that were read: a last one behind which there is only white space,
or one with further entries behind it. -/
@[elab_as_elim]
theorem readEntries_induction {motive : List Char → List Slot → Prop}
    (last : ∀ text body rest, (readEntry keywords text).result = some (body, rest) →
      skipGap rest = [] → motive text [⟨text, body⟩])
    (more : ∀ text body rest others, (readEntry keywords text).result = some (body, rest) →
      readEntries keywords (skipGap rest) = .ok others → motive (skipGap rest) others →
      motive text (⟨text, body⟩ :: others))
    {text : List Char} {slots : List Slot} (h : readEntries keywords text = .ok slots) :
    motive text slots := by
  induction text using entries_induction keywords generalizing slots with
  | fails text hread =>
    rw [readEntries_of_none hread] at h
    cases h
  | last text body rest hread hrest =>
    rw [readEntries_of_last hread hrest] at h
    cases h
    exact last text body rest hread hrest
  | more text body rest hread hrest ih =>
    rw [readEntries_of_more hread hrest] at h
    cases hothers : readEntries keywords (skipGap rest) with
    | error stuck =>
      rw [hothers] at h
      cases h
    | ok others =>
      rw [hothers] at h
      cases h
      exact more text body rest others hread hothers (ih hothers)

/-! ## Reading line by line -/

/-- A line in which something is read is not empty. -/
theorem chars_ne_nil {line : Line} {rest : List Char}
    (reads : (readEntry keywords (line.chars ++ '\n' :: rest)).result =
      some (line.body, '\n' :: rest)) : line.chars ≠ [] := by
  intro hnil
  have := consumes_readEntry keywords _ _ _ reads
  simp [hnil] at this

/-- There is no white space at the beginning of legible lines. -/
theorem Legible.skipGap_joined {lines : List Line} (h : Legible keywords lines) :
    skipGap (joined lines) = joined lines := by
  cases h with
  | nil => rfl
  | @cons line lines reads stops single rest =>
    apply skipGap_eq_self
    rw [joined_cons]
    cases hchars : line.chars with
    | nil => exact absurd hchars (chars_ne_nil reads)
    | cons c chars => simpa [hchars] using stops

/-- The slots of lines: each entry with the text from its line on. -/
def slots : List Line → List Slot
  | [] => []
  | line :: lines => ⟨joined (line :: lines), line.body⟩ :: slots lines

/-- Each legible line is read as one entry. -/
theorem readEntries_of_legible {line : Line} {lines : List Line}
    (h : Legible keywords (line :: lines)) :
    readEntries keywords (joined (line :: lines)) = .ok (slots (line :: lines)) := by
  induction lines generalizing line with
  | nil =>
    cases h with
    | cons reads stops single rest =>
      rw [slots, joined_cons, readEntries_of_last reads rfl]
      rfl
  | cons next lines ih =>
    cases h with
    | cons reads stops single rest =>
      -- The line feed is skipped, and reading goes on at the next line.
      have hskip : skipGap ('\n' :: joined (next :: lines)) = joined (next :: lines) := by
        rw [skipGap_lineFeed, rest.skipGap_joined]
      have hne : skipGap ('\n' :: joined (next :: lines)) ≠ [] := by
        rw [hskip, joined_cons]
        simp
      rw [slots, joined_cons, readEntries_of_more reads hne, hskip, ih rest]
      rfl

/-! ## Places -/

/-- What stands before a part at the end of a text. -/
theorem textBefore_append (before rest : List Char) :
    textBefore (before ++ rest) rest = before := by
  simp [textBefore]

theorem length_textBefore (text rest : List Char) :
    (textBefore text rest).length = text.length - rest.length :=
  List.length_take_of_le (Nat.sub_le _ _)

/-- Behind whole lines begins a new line. -/
theorem location_after_joined {lines : List Line} (h : ∀ line ∈ lines, '\n' ∉ line.chars) :
    (Location.after (joined lines)).line = lines.length + 1 ∧
      (Location.after (joined lines)).column = 1 := by
  constructor
  · have hcount : (joined lines).count '\n' = lines.length := by
      induction lines with
      | nil => rfl
      | cons line lines ih =>
        have hline : line.chars.count '\n' = 0 :=
          List.count_eq_zero.2 (h line List.mem_cons_self)
        rw [joined_cons, List.count_append, hline, List.count_cons_self,
          ih fun other hother => h other (List.mem_cons_of_mem _ hother), List.length_cons,
          Nat.zero_add]
    exact congrArg (· + 1) hcount
  · rcases List.eq_nil_or_concat lines with rfl | ⟨init, last, rfl⟩
    · rfl
    · simp [Location.after, joined_append, joined_cons]

/-- A legible line is one line. -/
theorem Legible.single {lines : List Line} (h : Legible keywords lines) :
    ∀ line ∈ lines, '\n' ∉ line.chars := by
  induction h with
  | nil => simp
  | cons reads stops single rest ih =>
    intro line hline
    rcases List.mem_cons.1 hline with rfl | hline
    · exact single
    · exact ih line hline

/-- The entries of lines that stand behind others: they are numbered on, and each begins its
line. -/
theorem locate_slots (before : List Line) {lines : List Line}
    (h : ∀ line ∈ before ++ lines, '\n' ∉ line.chars) :
    ((slots lines).map (Slot.locate (joined (before ++ lines)))).map
        (fun entry => (entry.line, entry.column, entry.body)) =
      lines.mapIdx fun k line => ((before.length + k + 1 : Int), 1, line.body) := by
  induction lines generalizing before with
  | nil => rfl
  | cons line lines ih =>
    have hbefore : ∀ line ∈ before, '\n' ∉ line.chars := fun l hl =>
      h l (List.mem_append_left _ hl)
    -- The first line stands behind those before it, and the others behind it as well.
    obtain ⟨hline, hcolumn⟩ := location_after_joined hbefore
    have hfirst : textBefore (joined (before ++ line :: lines)) (joined (line :: lines)) =
        joined before := by
      rw [joined_append, textBefore_append]
    have hrest := ih (before ++ [line]) (by simpa using h)
    rw [List.append_assoc, List.singleton_append] at hrest
    rw [slots, List.map_cons, List.map_cons, List.mapIdx_cons, hrest]
    simp only [Slot.locate, hfirst, hline, hcolumn, List.length_append, List.length_singleton]
    refine congrArg₂ List.cons (by simp) (congrArg (List.mapIdx · lines) ?_)
    funext k other
    rw [Prod.mk.injEq]
    exact ⟨by omega, rfl⟩

/-- A text of legible lines is read as the entries of the lines: the first stands on line one, and
every entry begins a line. -/
theorem readDocument_of_legible {lines : List Line} {text : String} (h : Legible keywords lines)
    (hne : lines ≠ []) (htext : text.toList = joined lines) :
    ∃ entries, readDocument keywords text = .ok entries ∧
      entries.map (fun entry => (entry.line, entry.column, entry.body)) =
        lines.mapIdx fun k line => ((k + 1 : Int), 1, line.body) := by
  cases lines with
  | nil => exact absurd rfl hne
  | cons line lines =>
    refine ⟨(slots (line :: lines)).map (Slot.locate (joined (line :: lines))), ?_, ?_⟩
    · simp only [readDocument, htext, h.skipGap_joined, readEntries_of_legible h]
    · simpa using locate_slots [] h.single

end RuleConsult
