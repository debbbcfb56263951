/-!
# Encodings

Files hold bytes; a rule base is read from characters. An encoding decodes bytes. This module
describes UTF-8 (with or without a leading mark), ASCII, Latin-1, the Cyrillic code page 1251 and
UTF-16; whatever other encodings there are where the program runs is left open (`Encodings`).

Bytes that are no text are reported by the reason and the index of the byte at which the offending
sequence begins, or else as a whole. After decoding, all line ends are written as line feeds.
-/

namespace RuleConsult.Text

/-- Why a sequence of bytes is not text. -/
inductive DecodeReason where
  | invalidStart
  | invalidContinuation
  | truncated
  | notAscii
  | unmapped
  /-- A unit of two bytes has one only. -/
  | halfUnit
  /-- The second half of a pair without the first. -/
  | secondHalf
  /-- The first half of a pair without the second. -/
  | brokenPair
  /-- A reason of an encoding that is not described here. -/
  | other (message : String)
  deriving DecidableEq, Repr

/-- The wording of a decoding reason. -/
def DecodeReason.message : DecodeReason → String
  | .invalidStart => "invalid start byte"
  | .invalidContinuation => "invalid continuation byte"
  | .truncated => "unexpected end of data"
  | .notAscii => "ordinal not in range(128)"
  | .unmapped => "character maps to <undefined>"
  | .halfUnit => "truncated data"
  | .secondHalf => "illegal encoding"
  | .brokenPair => "illegal UTF-16 surrogate"
  | .other message => message

/-- A decoding failure. -/
inductive DecodeFault where
  /-- A sequence of bytes is no text; `start` is the index of its first byte. -/
  | invalid (reason : DecodeReason) (start : Nat)
  /-- The bytes as a whole are not in the encoding. -/
  | unfit (message : String)
  deriving DecidableEq, Repr

/-- An encoding. -/
structure Encoding where
  decode : List UInt8 → Except DecodeFault (List Char)

/-! ## UTF-8 -/

/-- A character of which some bytes are still owed: where it began, how many bytes are owed, the
bounds of the next one, and the bits read so far. -/
structure Unfinished where
  start : Nat
  owed : Nat
  low : Nat
  high : Nat
  bits : Nat
  deriving DecidableEq, Repr

/-- What a byte between two characters begins: a character of one byte or of several. -/
inductive Lead where
  | whole (c : Char)
  | opens (unfinished : Unfinished)
  | invalid

/-- The reading of a byte, found at index `start`, that stands between two characters. The bounds of
the second byte keep out overlong forms, surrogates and code points past the last one. -/
def leadByte (start : Nat) (byte : UInt8) : Lead :=
  let n := byte.toNat
  if n < 0x80 then .whole (Char.ofNat n)
  else if n < 0xC2 then .invalid
  else if n < 0xE0 then .opens ⟨start, 1, 0x80, 0xBF, n - 0xC0⟩
  else if n == 0xE0 then .opens ⟨start, 2, 0xA0, 0xBF, 0⟩
  else if n == 0xED then .opens ⟨start, 2, 0x80, 0x9F, 0xD⟩
  else if n < 0xF0 then .opens ⟨start, 2, 0x80, 0xBF, n - 0xE0⟩
  else if n == 0xF0 then .opens ⟨start, 3, 0x90, 0xBF, 0⟩
  else if n == 0xF4 then .opens ⟨start, 3, 0x80, 0x8F, 4⟩
  else if n < 0xF4 then .opens ⟨start, 3, 0x80, 0xBF, n - 0xF0⟩
  else .invalid

/-- Decodes the bytes from index `index` on, with a character possibly unfinished. -/
def decodeUtf8From (index : Nat) (unfinished : Option Unfinished) :
    List UInt8 → Except DecodeFault (List Char)
  | [] =>
    match unfinished with
    | none => .ok []
    | some u => .error (.invalid .truncated u.start)
  | byte :: rest =>
    match unfinished with
    | none =>
      match leadByte index byte with
      | .whole c => (decodeUtf8From (index + 1) none rest).map (c :: ·)
      | .opens u => decodeUtf8From (index + 1) (some u) rest
      | .invalid => .error (.invalid .invalidStart index)
    | some u =>
      let n := byte.toNat
      if u.low ≤ n && n ≤ u.high then
        let bits := u.bits * 64 + (n - 0x80)
        if u.owed == 1 then
          (decodeUtf8From (index + 1) none rest).map (Char.ofNat bits :: ·)
        else
          decodeUtf8From (index + 1) (some ⟨u.start, u.owed - 1, 0x80, 0xBF, bits⟩) rest
      else .error (.invalid .invalidContinuation u.start)

/-- Decodes UTF-8. -/
def decodeUtf8 (bytes : List UInt8) : Except DecodeFault (List Char) :=
  decodeUtf8From 0 none bytes

/-- Decodes UTF-8 after an optional byte order mark. Indices count from the end of the mark. A file
that holds only the beginning of a mark is empty. -/
def decodeUtf8Marked : List UInt8 → Except DecodeFault (List Char)
  | [] | [0xEF] | [0xEF, 0xBB] => .ok []
  | 0xEF :: 0xBB :: 0xBF :: rest => decodeUtf8 rest
  | bytes => decodeUtf8 bytes

/-! ## Single-byte encodings -/

/-- Decodes each byte by itself; `fault` is the reason for a byte without a character. -/
def decodeBytes (char? : UInt8 → Option Char) (fault : DecodeReason) (index : Nat) :
    List UInt8 → Except DecodeFault (List Char)
  | [] => .ok []
  | byte :: rest =>
    match char? byte with
    | none => .error (.invalid fault index)
    | some c => (decodeBytes char? fault (index + 1) rest).map (c :: ·)

/-- The code points of the bytes 80 to FF of code page 1251; zero where the page has a gap. -/
def cp1251High : List Nat :=
  [ 0x402, 0x403, 0x201A, 0x453, 0x201E, 0x2026, 0x2020, 0x2021, 0x20AC, 0x2030, 0x409, 0x2039,
    0x40A, 0x40C, 0x40B, 0x40F, 0x452, 0x2018, 0x2019, 0x201C, 0x201D, 0x2022, 0x2013, 0x2014,
    0x0, 0x2122, 0x459, 0x203A, 0x45A, 0x45C, 0x45B, 0x45F, 0xA0, 0x40E, 0x45E, 0x408, 0xA4,
    0x490, 0xA6, 0xA7, 0x401, 0xA9, 0x404, 0xAB, 0xAC, 0xAD, 0xAE, 0x407, 0xB0, 0xB1, 0x406,
    0x456, 0x491, 0xB5, 0xB6, 0xB7, 0x451, 0x2116, 0x454, 0xBB, 0x458, 0x405, 0x455, 0x457,
    0x410, 0x411, 0x412, 0x413, 0x414, 0x415, 0x416, 0x417, 0x418, 0x419, 0x41A, 0x41B, 0x41C,
    0x41D, 0x41E, 0x41F, 0x420, 0x421, 0x422, 0x423, 0x424, 0x425, 0x426, 0x427, 0x428, 0x429,
    0x42A, 0x42B, 0x42C, 0x42D, 0x42E, 0x42F, 0x430, 0x431, 0x432, 0x433, 0x434, 0x435, 0x436,
    0x437, 0x438, 0x439, 0x43A, 0x43B, 0x43C, 0x43D, 0x43E, 0x43F, 0x440, 0x441, 0x442, 0x443,
    0x444, 0x445, 0x446, 0x447, 0x448, 0x449, 0x44A, 0x44B, 0x44C, 0x44D, 0x44E, 0x44F ]

/-- The character of a byte in code page 1251. -/
def cp1251Char? (byte : UInt8) : Option Char :=
  if byte < 0x80 then some (Char.ofNat byte.toNat)
  else
    match cp1251High[byte.toNat - 0x80]? with
    | none | some 0 => none
    | some n => some (Char.ofNat n)

/-! ## UTF-16 -/

/-- Which byte of a unit comes first. -/
inductive ByteOrder where
  | lowFirst
  | highFirst

/-- The unit that two bytes make. -/
def ByteOrder.unit (order : ByteOrder) (first second : UInt8) : Nat :=
  match order with
  | .lowFirst => second.toNat * 256 + first.toNat
  | .highFirst => first.toNat * 256 + second.toNat

/-- Whether a unit is the first half of a pair. -/
def isFirstHalf (unit : Nat) : Bool := 0xD800 ≤ unit && unit < 0xDC00

/-- Whether a unit is the second half of a pair. -/
def isSecondHalf (unit : Nat) : Bool := 0xDC00 ≤ unit && unit < 0xE000

/-- Decodes the bytes from index `index` on, with the first half of a pair possibly just read. -/
def decodeUtf16From (order : ByteOrder) (index : Nat) (half : Option Nat) :
    List UInt8 → Except DecodeFault (List Char)
  | [] =>
    match half with
    | none => .ok []
    | some _ => .error (.invalid .truncated (index - 2))
  | [_] =>
    match half with
    | none => .error (.invalid .halfUnit index)
    | some _ => .error (.invalid .truncated (index - 2))
  | first :: second :: rest =>
    let unit := order.unit first second
    match half with
    | none =>
      if isFirstHalf unit then decodeUtf16From order (index + 2) (some unit) rest
      else if isSecondHalf unit then .error (.invalid .secondHalf index)
      else (decodeUtf16From order (index + 2) none rest).map (Char.ofNat unit :: ·)
    | some high =>
      if isSecondHalf unit then
        let bits := (high - 0xD800) * 0x400 + (unit - 0xDC00)
        (decodeUtf16From order (index + 2) none rest).map (Char.ofNat (0x10000 + bits) :: ·)
      else .error (.invalid .brokenPair (index - 2))

/-- Decodes UTF-16, whose byte order mark tells the order of the bytes and is not part of the text.
Bytes without a mark are refused even if they could be decoded. -/
def decodeUtf16 : List UInt8 → Except DecodeFault (List Char)
  | [] => .ok []
  | 0xFF :: 0xFE :: rest => decodeUtf16From .lowFirst 2 none rest
  | 0xFE :: 0xFF :: rest => decodeUtf16From .highFirst 2 none rest
  | bytes => do
    let _ ← decodeUtf16From .lowFirst 0 none bytes
    .error (.unfit "UTF-16 stream does not start with BOM")

/-! ## Encodings by name -/

namespace Encoding

/-- UTF-8. A byte order mark is a character like any other. -/
def utf8 : Encoding := ⟨decodeUtf8⟩

/-- UTF-8 whose leading byte order mark, if present, is not part of the text. -/
def utf8Marked : Encoding := ⟨decodeUtf8Marked⟩

/-- The characters below 80. -/
def ascii : Encoding :=
  ⟨decodeBytes (fun b => if b < 0x80 then some (Char.ofNat b.toNat) else none) .notAscii 0⟩

/-- Every byte is the character of its number. -/
def latin1 : Encoding := ⟨decodeBytes (fun b => some (Char.ofNat b.toNat)) .unmapped 0⟩

/-- Code page 1251, which has no character for one of the bytes. -/
def cp1251 : Encoding := ⟨decodeBytes cp1251Char? .unmapped 0⟩

/-- UTF-16 behind a byte order mark. -/
def utf16 : Encoding := ⟨decodeUtf16⟩

/-- The encodings that are described here, by their main names. -/
def described : List (String × Encoding) :=
  [("utf_8", utf8), ("utf_8_sig", utf8Marked), ("ascii", ascii), ("latin_1", latin1),
    ("cp1251", cp1251), ("utf_16", utf16)]

/-- Further names of these encodings, with the main names. -/
def aliases : List (String × String) :=
  [("u8", "utf_8"), ("utf", "utf_8"), ("utf8", "utf_8"), ("utf8_ucs2", "utf_8"),
    ("utf8_ucs4", "utf_8"), ("cp65001", "utf_8"), ("646", "ascii"), ("ansi_x3.4_1968", "ascii"),
    ("ansi_x3_4_1968", "ascii"), ("ansi_x3.4_1986", "ascii"), ("cp367", "ascii"),
    ("csascii", "ascii"), ("ibm367", "ascii"), ("iso646_us", "ascii"),
    ("iso_646.irv_1991", "ascii"), ("iso_ir_6", "ascii"), ("us", "ascii"), ("us_ascii", "ascii"),
    ("8859", "latin_1"), ("cp819", "latin_1"), ("csisolatin1", "latin_1"), ("ibm819", "latin_1"),
    ("iso8859", "latin_1"), ("iso8859_1", "latin_1"), ("iso_8859_1", "latin_1"),
    ("iso_8859_1_1987", "latin_1"), ("iso_ir_100", "latin_1"), ("l1", "latin_1"),
    ("latin", "latin_1"), ("latin1", "latin_1"), ("1251", "cp1251"), ("windows_1251", "cp1251"),
    ("u16", "utf_16"), ("utf16", "utf_16")]

end Encoding

/-- The encodings that there are where the program runs, besides those described here. -/
class Encodings where
  /-- The encoding of a name. -/
  further? : String → Option Encoding

/-- An encoding name in lower case, with the letters and digits of each part kept and every run of
other characters between two parts replaced by one low line. -/
def encodingKey (name : String) : String :=
  let plain (c : Char) : Bool := c.isAlphanum || c == '.'
  let runs := name.toLower.toList.splitBy fun a b => plain a == plain b
  String.intercalate "_" ((runs.filter fun run => run.all plain).map String.ofList)

/-- The name that stands for the encoding of the place where the program runs, which is UTF-8. -/
def localName : String := "locale"

/-- The main name that a name has if it is that of an encoding described here. Case and the choice
of punctuation do not matter, except that a full stop stands for other punctuation in further names
only. -/
def mainEncodingName (name : String) : String :=
  let key := if name == localName then "utf_8" else encodingKey name
  let spread := key.map fun c => if c == '.' then '_' else c
  let alias? (key : String) : Option String :=
    (Encoding.aliases.find? fun entry => entry.1 == key).map Prod.snd
  (alias? key <|> alias? spread).getD key

/-- The encoding of a name. -/
def Encoding.ofName? [Encodings] (name : String) : Option Encoding :=
  match described.find? fun entry => entry.1 == mainEncodingName name with
  | some (_, encoding) => some encoding
  | none => Encodings.further? name

/-! ## Line ends -/

/-- Writes every line end, be it a carriage return, a line feed or both, as one line feed. -/
def unifyLineEnds : List Char → List Char
  | [] => []
  | '\r' :: '\n' :: rest => '\n' :: unifyLineEnds rest
  | '\r' :: rest => '\n' :: unifyLineEnds rest
  | c :: rest => c :: unifyLineEnds rest

/-- The text of a file: its bytes decoded, its line ends unified. -/
def Encoding.readText (encoding : Encoding) (bytes : List UInt8) : Except DecodeFault String :=
  (encoding.decode bytes).map fun chars => String.ofList (unifyLineEnds chars)

end RuleConsult.Text
