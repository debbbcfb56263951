import RuleConsult.Reading.Form

/-!
# Documents

A document is a sequence of at least one entry, with white space around and between them. If some
entry cannot be read, the fault names the furthest place that any form reached there and everything
that could have stood in that place.

* `readEntries` reads the entries, each with the text from its beginning on.
* `Location.after` turns a place into a count of characters, a line and a column.
* `readDocument` puts the two together.
-/

namespace RuleConsult

/-! ## Places as numbers -/

/-- A place in a text. -/
structure Location where
  /-- The number of characters before it. -/
  offset : Nat
  /-- One more than the number of line feeds before it. -/
  line : Nat
  /-- One more than the number of characters between it and the line feed before it. -/
  column : Nat
  deriving DecidableEq, Repr

/-- The place that is reached after the given characters. -/
def Location.after (before : List Char) : Location where
  offset := before.length
  line := before.count '\n' + 1
  column := (before.reverse.takeWhile (· != '\n')).length + 1

/-- What precedes `rest` in a text that ends with it. -/
def textBefore (text rest : List Char) : List Char :=
  text.take (text.length - rest.length)

/-! ## Faults -/

/-- A text that is no rule base: where it goes wrong and what was expected there. -/
structure ReadFault where
  location : Location
  /-- The place as a count of bytes in UTF-8. -/
  byteOffset : Nat
  /-- What could have stood there, without repetition, in the order in which it was tried. -/
  expected : List Expected
  /-- What stands there, up to the end of the line and at most twenty characters. -/
  found : String
  deriving DecidableEq, Repr

/-- The wording of a fault. -/
def ReadFault.message (fault : ReadFault) : String :=
  let expected := if fault.expected.isEmpty then "fim do texto"
    else String.intercalate ", " (fault.expected.map Expected.describe)
  let found := if fault.found.isEmpty then "fim do texto" else Text.quoted fault.found
  s!"Erro de sintaxe na linha {fault.location.line}, coluna {fault.location.column}: " ++
    s!"esperado {expected}, encontrado {found}"

/-- The furthest place among the misses: the one with the least text left. -/
def furthest (start : List Char) (misses : List Miss) : List Char :=
  misses.foldl (fun best miss => if miss.rest.length < best.length then miss.rest else best) start

/-- What was missed at the given place. -/
def expectedAt (rest : List Char) (misses : List Miss) : List Expected :=
  ((misses.filter fun miss => miss.rest.length == rest.length).map Miss.expected).eraseDups

/-- The fault for an entry, beginning at `start`, that was tried in vain. -/
def ReadFault.ofMisses (text start : List Char) (misses : List Miss) : ReadFault :=
  let rest := furthest start misses
  let before := textBefore text rest
  { location := .after before
    byteOffset := (String.ofList before).utf8ByteSize
    expected := expectedAt rest misses
    found := String.ofList ((rest.take 20).takeWhile (· != '\n')) }

/-! ## Reading -/

/-- An entry with the text from its beginning on. -/
structure Slot where
  start : List Char
  body : EntryBody
  deriving DecidableEq, Repr

/-- An entry that could not be read: the text from its beginning on, and what was missed in it. -/
structure Stuck where
  start : List Char
  misses : List Miss
  deriving DecidableEq, Repr

/-- Reads entries until the text is used up. The text begins with an entry; after each one, white
space is skipped. -/
def readEntries (keywords : Keywords) (text : List Char) : Except Stuck (List Slot) :=
  let attempt := readEntry keywords text
  match hread : attempt.result with
  | none => .error ⟨text, attempt.misses⟩
  | some (body, rest) =>
    have : (skipGap rest).length < text.length :=
      Nat.lt_of_le_of_lt (length_skipGap_le rest) (consumes_readEntry keywords text _ _ hread)
    if (skipGap rest).isEmpty then .ok [⟨text, body⟩]
    else (readEntries keywords (skipGap rest)).map (⟨text, body⟩ :: ·)
termination_by text.length

/-- The entry of a slot, with its place in the whole text. -/
def Slot.locate (text : List Char) (slot : Slot) : Entry :=
  let location := Location.after (textBefore text slot.start)
  { offset := location.offset, line := location.line, column := location.column, body := slot.body }

/-- Reads a text as a document. -/
def readDocument (keywords : Keywords) (text : String) : Except ReadFault (List Entry) :=
  let chars := text.toList
  match readEntries keywords (skipGap chars) with
  | .ok slots => .ok (slots.map (Slot.locate chars))
  | .error stuck => .error (.ofMisses chars stuck.start stuck.misses)

end RuleConsult
