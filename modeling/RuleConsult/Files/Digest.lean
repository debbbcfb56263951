import RuleConsult.Text.Quoted

/-!
# Digests

A short digest of a file's bytes tells whether the file has changed. It is the MD5 digest: the bytes
are padded to blocks of sixteen words, and every block mixes four chaining words in sixty-four
steps.
-/

namespace RuleConsult.Digest

open Text

/-- The four chaining words. -/
structure Chain where
  a : UInt32
  b : UInt32
  c : UInt32
  d : UInt32

/-- The chaining words before the first block. -/
def Chain.initial : Chain := ⟨0x67452301, 0xEFCDAB89, 0x98BADCFE, 0x10325476⟩

/-- The additive constant of each step: the leading bits of the absolute sine of one to
sixty-four. -/
def constants : List UInt32 :=
  [ 0xD76AA478, 0xE8C7B756, 0x242070DB, 0xC1BDCEEE, 0xF57C0FAF, 0x4787C62A, 0xA8304613,
    0xFD469501, 0x698098D8, 0x8B44F7AF, 0xFFFF5BB1, 0x895CD7BE, 0x6B901122, 0xFD987193,
    0xA679438E, 0x49B40821, 0xF61E2562, 0xC040B340, 0x265E5A51, 0xE9B6C7AA, 0xD62F105D,
    0x02441453, 0xD8A1E681, 0xE7D3FBC8, 0x21E1CDE6, 0xC33707D6, 0xF4D50D87, 0x455A14ED,
    0xA9E3E905, 0xFCEFA3F8, 0x676F02D9, 0x8D2A4C8A, 0xFFFA3942, 0x8771F681, 0x6D9D6122,
    0xFDE5380C, 0xA4BEEA44, 0x4BDECFA9, 0xF6BB4B60, 0xBEBFBC70, 0x289B7EC6, 0xEAA127FA,
    0xD4EF3085, 0x04881D05, 0xD9D4D039, 0xE6DB99E5, 0x1FA27CF8, 0xC4AC5665, 0xF4292244,
    0x432AFF97, 0xAB9423A7, 0xFC93A039, 0x655B59C3, 0x8F0CCC92, 0xFFEFF47D, 0x85845DD1,
    0x6FA87E4F, 0xFE2CE6E0, 0xA3014314, 0x4E0811A1, 0xF7537E82, 0xBD3AF235, 0x2AD7D2BB,
    0xEB86D391 ]

/-- The rotation of each step. -/
def rotations : List UInt32 :=
  [[7, 12, 17, 22], [5, 9, 14, 20], [4, 11, 16, 23], [6, 10, 15, 21]].flatMap fun round =>
    round ++ round ++ round ++ round

/-- A word rotated to the left, by less than its width and by more than nothing. -/
def rotate (word amount : UInt32) : UInt32 :=
  (word <<< amount) ||| (word >>> (32 - amount))

/-- The mixing function of a step, and the index of the word that the step takes in. -/
def mix (step : Nat) (s : Chain) : UInt32 × Nat :=
  if step < 16 then ((s.b &&& s.c) ||| (~~~s.b &&& s.d), step)
  else if step < 32 then ((s.d &&& s.b) ||| (~~~s.d &&& s.c), (5 * step + 1) % 16)
  else if step < 48 then (s.b ^^^ s.c ^^^ s.d, (3 * step + 5) % 16)
  else (s.c ^^^ (s.b ||| ~~~s.d), (7 * step) % 16)

/-- One step. -/
def stepWith (words : Array UInt32) (s : Chain) (step : Nat × UInt32 × UInt32) : Chain :=
  let (value, index) := mix step.1 s
  let sum := s.a + value + step.2.1 + words.getD index 0
  ⟨s.d, s.b + rotate sum step.2.2, s.b, s.c⟩

/-- All steps on one block of words. -/
def absorb (s : Chain) (words : Array UInt32) : Chain :=
  let last := ((List.range 64).zip (constants.zip rotations)).foldl (stepWith words) s
  ⟨s.a + last.a, s.b + last.b, s.c + last.c, s.d + last.d⟩

/-- The given number of bytes of a number, least significant first. -/
def littleEndian : Nat → Nat → List UInt8
  | 0, _ => []
  | count + 1, n => UInt8.ofNat n :: littleEndian count (n / 256)

/-- The message with a one bit, zeros and its length in bits, filling whole blocks. -/
def padded (bytes : List UInt8) : List UInt8 :=
  let zeros := (119 - bytes.length % 64) % 64
  bytes ++ 0x80 :: List.replicate zeros 0 ++ littleEndian 8 (8 * bytes.length)

/-- The words written by bytes, least significant byte first. -/
def toWords : List UInt8 → List UInt32
  | b₀ :: b₁ :: b₂ :: b₃ :: rest =>
    (b₀.toUInt32 ||| (b₁.toUInt32 <<< 8) ||| (b₂.toUInt32 <<< 16) ||| (b₃.toUInt32 <<< 24)) ::
      toWords rest
  | _ => []

/-- The words in blocks of sixteen. -/
def toBlocks (words : List UInt32) : List (Array UInt32) :=
  (List.range (words.length / 16)).map fun i => ((words.drop (16 * i)).take 16).toArray

/-- The MD5 digest in hexadecimal digits. -/
def md5 (bytes : List UInt8) : String :=
  let s := (toBlocks (toWords (padded bytes))).foldl absorb .initial
  let digits := [s.a, s.b, s.c, s.d].flatMap fun word =>
    (littleEndian 4 word.toNat).flatMap fun byte => hexText 2 byte.toNat
  String.ofList digits

/-- The first twelve digits of the MD5 digest. -/
def fingerprint (bytes : List UInt8) : String :=
  String.ofList ((md5 bytes).toList.take 12)

end RuleConsult.Digest
