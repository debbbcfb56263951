import RuleConsult.Text.Encoding

/-!
# Encodings

An encoding that is described is found by its names, whatever others there are
(`Encoding.ofName?_eq_some`). Those whose units are bytes differ in the bytes from 80 on only, so a
file without such bytes has the same text in each of them (`Encoding.readText_of_isAscii`).
-/

namespace RuleConsult.Text

/-! ## Names -/

/-- Whatever has the main name of an encoding that is described is a name of it. -/
theorem Encoding.ofName?_eq_some [Encodings] {name main : String} {code : Encoding}
    (hname : mainEncodingName name = main)
    (hmain : (described.find? fun entry => entry.1 == main) = some (main, code)) :
    Encoding.ofName? name = some code := by
  rw [ofName?, hname, hmain]

/-! ## ASCII -/

/-- The bytes below 80. -/
def IsAscii (bytes : List UInt8) : Prop := ∀ byte ∈ bytes, byte.toNat < 0x80

instance (bytes : List UInt8) : Decidable (IsAscii bytes) :=
  inferInstanceAs (Decidable (∀ byte ∈ bytes, byte.toNat < 0x80))

/-- The characters that ASCII has for the bytes. -/
def asciiChars (bytes : List UInt8) : List Char :=
  bytes.map fun byte => Char.ofNat byte.toNat

/-- The bytes that ASCII has for the characters of a text. -/
def asciiBytes (text : String) : List UInt8 :=
  text.toList.map fun c => UInt8.ofNat c.toNat

/-- In UTF-8 no byte below 80 is part of a longer sequence. -/
theorem decodeUtf8From_of_isAscii {bytes : List UInt8} (h : IsAscii bytes) (index : Nat) :
    decodeUtf8From index none bytes = .ok (asciiChars bytes) := by
  induction bytes generalizing index with
  | nil => rfl
  | cons byte rest ih =>
    have hlead : leadByte index byte = .whole (Char.ofNat byte.toNat) :=
      if_pos (h byte List.mem_cons_self)
    have hrest := ih (fun other hother => h other (List.mem_cons_of_mem _ hother)) (index + 1)
    simp only [decodeUtf8From, hlead, hrest]
    rfl

/-- No byte below 80 begins a byte order mark. -/
theorem decodeUtf8Marked_of_isAscii {bytes : List UInt8} (h : IsAscii bytes) :
    decodeUtf8Marked bytes = .ok (asciiChars bytes) := by
  have hplain := decodeUtf8From_of_isAscii h 0
  have hmark (rest : List UInt8) : bytes ≠ 0xEF :: rest := by
    rintro rfl
    exact absurd (h 0xEF List.mem_cons_self) (by decide)
  unfold decodeUtf8Marked
  split
  · rfl
  · exact absurd rfl (hmark _)
  · exact absurd rfl (hmark _)
  · exact absurd rfl (hmark _)
  · exact hplain

/-- Where every byte stands for itself, it is enough to know those below 80. -/
theorem decodeBytes_of_isAscii {char? : UInt8 → Option Char} {bytes : List UInt8}
    (hchar : ∀ byte, byte.toNat < 0x80 → char? byte = some (Char.ofNat byte.toNat))
    (h : IsAscii bytes) (fault : DecodeReason) (index : Nat) :
    decodeBytes char? fault index bytes = .ok (asciiChars bytes) := by
  induction bytes generalizing index with
  | nil => rfl
  | cons byte rest ih =>
    have hrest := ih (fun other hother => h other (List.mem_cons_of_mem _ hother)) (index + 1)
    simp only [decodeBytes, hchar byte (h byte List.mem_cons_self), hrest]
    rfl

/-- The encoding has the characters of ASCII for the bytes below 80. -/
def Encoding.ExtendsAscii (code : Encoding) : Prop :=
  ∀ bytes, IsAscii bytes → code.decode bytes = .ok (asciiChars bytes)

/-- All encodings that are described do so, except UTF-16. -/
theorem Encoding.extendsAscii_of_mem {code : Encoding}
    (h : code ∈ [utf8, utf8Marked, ascii, latin1, cp1251]) : code.ExtendsAscii := by
  intro bytes hbytes
  simp only [List.mem_cons, List.not_mem_nil, or_false] at h
  rcases h with rfl | rfl | rfl | rfl | rfl
  · exact decodeUtf8From_of_isAscii hbytes 0
  · exact decodeUtf8Marked_of_isAscii hbytes
  · exact decodeBytes_of_isAscii (fun _ hbyte => if_pos hbyte) hbytes _ _
  · exact decodeBytes_of_isAscii (fun _ _ => rfl) hbytes _ _
  · exact decodeBytes_of_isAscii (fun _ hbyte => if_pos hbyte) hbytes _ _

/-- A file in ASCII has the same text in all these encodings. -/
theorem Encoding.readText_of_isAscii {code other : Encoding} (hcode : code.ExtendsAscii)
    (hother : other.ExtendsAscii) {bytes : List UInt8} (h : IsAscii bytes) :
    code.readText bytes = other.readText bytes := by
  rw [readText, readText, hcode bytes h, hother bytes h]

end RuleConsult.Text
