import SyncedFile.Text.Hex

/-!
# The MD5 digest

A digest of sixteen octets, written with upper-case hexadecimal digits. It stands for a long name
here and protects nothing.

Main statements: the written digest has thirty-two characters (`length_hex`), all of them upper-case
hexadecimal digits (`hexDigit_of_mem_hex`).
-/

namespace SyncedFile.Digest.Md5

/-! ## Words and blocks -/

/-- The four words of the state. -/
structure State where
  a : UInt32
  b : UInt32
  c : UInt32
  d : UInt32

def initial : State := ⟨0x67452301, 0xefcdab89, 0x98badcfe, 0x10325476⟩

def wordOctets (w : UInt32) : List UInt8 :=
  [w.toUInt8, (w >>> 8).toUInt8, (w >>> 16).toUInt8, (w >>> 24).toUInt8]

def words : List UInt8 → List UInt32
  | x :: y :: z :: w :: rest =>
    (x.toUInt32 ||| y.toUInt32 <<< 8 ||| z.toUInt32 <<< 16 ||| w.toUInt32 <<< 24) :: words rest
  | _ => []

/-- The message followed by a one bit, zeros, and its length in bits, in whole blocks. -/
def padded (message : List UInt8) : List UInt8 :=
  let bits := 8 * message.length
  message ++ 0x80 :: List.replicate ((119 - message.length % 64) % 64) 0
    ++ wordOctets (UInt32.ofNat bits) ++ wordOctets (UInt32.ofNat (bits / 0x100000000))

/-! ## Rounds -/

def constants : List UInt32 := [
    0xd76aa478, 0xe8c7b756, 0x242070db, 0xc1bdceee, 0xf57c0faf, 0x4787c62a,
    0xa8304613, 0xfd469501, 0x698098d8, 0x8b44f7af, 0xffff5bb1, 0x895cd7be,
    0x6b901122, 0xfd987193, 0xa679438e, 0x49b40821, 0xf61e2562, 0xc040b340,
    0x265e5a51, 0xe9b6c7aa, 0xd62f105d, 0x02441453, 0xd8a1e681, 0xe7d3fbc8,
    0x21e1cde6, 0xc33707d6, 0xf4d50d87, 0x455a14ed, 0xa9e3e905, 0xfcefa3f8,
    0x676f02d9, 0x8d2a4c8a, 0xfffa3942, 0x8771f681, 0x6d9d6122, 0xfde5380c,
    0xa4beea44, 0x4bdecfa9, 0xf6bb4b60, 0xbebfbc70, 0x289b7ec6, 0xeaa127fa,
    0xd4ef3085, 0x04881d05, 0xd9d4d039, 0xe6db99e5, 0x1fa27cf8, 0xc4ac5665,
    0xf4292244, 0x432aff97, 0xab9423a7, 0xfc93a039, 0x655b59c3, 0x8f0ccc92,
    0xffeff47d, 0x85845dd1, 0x6fa87e4f, 0xfe2ce6e0, 0xa3014314, 0x4e0811a1,
    0xf7537e82, 0xbd3af235, 0x2ad7d2bb, 0xeb86d391]

/-- How far each step turns a word; each row of four serves a quarter of the steps. -/
def turns : List UInt32 := [
    7, 12, 17, 22, 7, 12, 17, 22, 7, 12, 17, 22, 7, 12, 17, 22,
    5, 9, 14, 20, 5, 9, 14, 20, 5, 9, 14, 20, 5, 9, 14, 20,
    4, 11, 16, 23, 4, 11, 16, 23, 4, 11, 16, 23, 4, 11, 16, 23,
    6, 10, 15, 21, 6, 10, 15, 21, 6, 10, 15, 21, 6, 10, 15, 21]

def turn (w amount : UInt32) : UInt32 :=
  w <<< amount ||| w >>> (32 - amount)

def step (block : Array UInt32) (s : State) (i : Nat) (constant amount : UInt32) : State :=
  let (mixed, g) :=
    if i < 16 then ((s.b &&& s.c) ||| (~~~s.b &&& s.d), i)
    else if i < 32 then ((s.d &&& s.b) ||| (~~~s.d &&& s.c), (5 * i + 1) % 16)
    else if i < 48 then (s.b ^^^ s.c ^^^ s.d, (3 * i + 5) % 16)
    else (s.c ^^^ (s.b ||| ~~~s.d), 7 * i % 16)
  ⟨s.d, s.b + turn (mixed + s.a + constant + block.getD g 0) amount, s.b, s.c⟩

def compress (s : State) (block : Array UInt32) : State :=
  let t := ((List.range 64).zip (constants.zip turns)).foldl
    (fun t row => step block t row.1 row.2.1 row.2.2) s
  ⟨s.a + t.a, s.b + t.b, s.c + t.c, s.d + t.d⟩

def blocks : Nat → List UInt32 → List (Array UInt32)
  | 0, _ => []
  | count + 1, ws => (ws.take 16).toArray :: blocks count (ws.drop 16)

/-! ## The digest -/

def digest (message : List UInt8) : List UInt8 :=
  let ws := words (padded message)
  let s := (blocks (ws.length / 16) ws).foldl compress initial
  wordOctets s.a ++ wordOctets s.b ++ wordOctets s.c ++ wordOctets s.d

def upperOctet (b : UInt8) : Text :=
  (Text.Hex.octet b).map Char.toUpper

/-- The digest of a text in UTF-8, written with upper-case digits. -/
def hex (t : Text) : Text :=
  (digest (Text.utf8 t)).flatMap upperOctet

theorem length_digest (message : List UInt8) : (digest message).length = 16 := by
  simp [digest, wordOctets]

theorem length_flatMap_upperOctet (bytes : List UInt8) :
    (bytes.flatMap upperOctet).length = 2 * bytes.length := by
  induction bytes with
  | nil => rfl
  | cons b rest ih =>
    simp only [List.flatMap_cons, List.length_append, ih, List.length_cons]
    simp only [upperOctet, Text.Hex.octet, List.length_map, List.length_cons, List.length_nil]
    omega

theorem length_hex (t : Text) : (hex t).length = 32 := by
  rw [hex, length_flatMap_upperOctet, length_digest]

def upperDigits : List Char := "0123456789ABCDEF".toList

theorem toUpper_digit_mem : ∀ n < 16, (Text.Hex.digit n).toUpper ∈ upperDigits := by decide

theorem hexDigit_of_mem_hex {t : Text} {c : Char} (h : c ∈ hex t) : c ∈ upperDigits := by
  obtain ⟨b, -, hc⟩ := List.mem_flatMap.1 h
  have hb : b.toNat < 256 := b.toNat_lt
  simp only [upperOctet, Text.Hex.octet, List.map_cons, List.map_nil, List.mem_cons,
    List.not_mem_nil, or_false] at hc
  rcases hc with rfl | rfl
  · exact toUpper_digit_mem _ (by omega)
  · exact toUpper_digit_mem _ (by omega)

end SyncedFile.Digest.Md5
