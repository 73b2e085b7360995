/-!
# MD5

The message digest of RFC 1321, on bytes, in lower-case hexadecimal. Words are added and rotated
modulo `2 ^ 32`.
-/

namespace Triplify.Digest

/-- The four words of the running digest. -/
structure State where
  a : UInt32
  b : UInt32
  c : UInt32
  d : UInt32

/-- The digest of no input. -/
def State.initial : State :=
  ⟨0x67452301, 0xefcdab89, 0x98badcfe, 0x10325476⟩

/-- How far the sum is rotated in each of four consecutive steps of a round. -/
def rotations : Nat → List UInt32
  | 0 => [7, 12, 17, 22]
  | 1 => [5, 9, 14, 20]
  | 2 => [4, 11, 16, 23]
  | _ => [6, 10, 15, 21]

/-- The constants of the 64 steps, `2 ^ 32 * |sin (i + 1)|` rounded down. -/
def constants : Array UInt32 := #[
  0xd76aa478, 0xe8c7b756, 0x242070db, 0xc1bdceee, 0xf57c0faf, 0x4787c62a, 0xa8304613, 0xfd469501,
  0x698098d8, 0x8b44f7af, 0xffff5bb1, 0x895cd7be, 0x6b901122, 0xfd987193, 0xa679438e, 0x49b40821,
  0xf61e2562, 0xc040b340, 0x265e5a51, 0xe9b6c7aa, 0xd62f105d, 0x02441453, 0xd8a1e681, 0xe7d3fbc8,
  0x21e1cde6, 0xc33707d6, 0xf4d50d87, 0x455a14ed, 0xa9e3e905, 0xfcefa3f8, 0x676f02d9, 0x8d2a4c8a,
  0xfffa3942, 0x8771f681, 0x6d9d6122, 0xfde5380c, 0xa4beea44, 0x4bdecfa9, 0xf6bb4b60, 0xbebfbc70,
  0x289b7ec6, 0xeaa127fa, 0xd4ef3085, 0x04881d05, 0xd9d4d039, 0xe6db99e5, 0x1fa27cf8, 0xc4ac5665,
  0xf4292244, 0x432aff97, 0xab9423a7, 0xfc93a039, 0x655b59c3, 0x8f0ccc92, 0xffeff47d, 0x85845dd1,
  0x6fa87e4f, 0xfe2ce6e0, 0xa3014314, 0x4e0811a1, 0xf7537e82, 0xbd3af235, 0x2ad7d2bb, 0xeb86d391]

/-- Moves the bits of a word to the left; those that leave it come in on the right. -/
def rotate (x n : UInt32) : UInt32 :=
  (x <<< n) ||| (x >>> (32 - n))

/-- One of the 64 steps on a block of sixteen words. -/
def step (block : Array UInt32) (s : State) (i : Nat) : State :=
  let (mixed, word) : UInt32 × Nat := match i / 16 with
    | 0 => ((s.b &&& s.c) ||| (~~~s.b &&& s.d), i)
    | 1 => ((s.d &&& s.b) ||| (~~~s.d &&& s.c), 5 * i + 1)
    | 2 => (s.b ^^^ s.c ^^^ s.d, 3 * i + 5)
    | _ => (s.c ^^^ (s.b ||| ~~~s.d), 7 * i)
  let sum := mixed + s.a + constants.getD i 0 + block.getD (word % 16) 0
  let turn := (rotations (i / 16)).getD (i % 4) 0
  ⟨s.d, s.b + rotate sum turn, s.b, s.c⟩

/-- Takes one block into the digest. -/
def State.add (s : State) (block : Array UInt32) : State :=
  let t := (List.range 64).foldl (step block) s
  ⟨s.a + t.a, s.b + t.b, s.c + t.c, s.d + t.d⟩

/-- The word of four bytes, the lowest first. -/
def wordOf (bytes : List UInt8) : UInt32 :=
  bytes.foldr (fun b w => (w <<< 8) ||| b.toUInt32) 0

/-- The bytes of a number, the lowest first. -/
def littleEndian (n : Nat) : Nat → List UInt8
  | 0 => []
  | count + 1 => UInt8.ofNat n :: littleEndian (n / 256) count

/-- The message with a one bit, zeros up to a whole number of blocks, and its length in bits. -/
def padded (message : List UInt8) : List UInt8 :=
  let zeros := (55 + 64 - message.length % 64) % 64
  message ++ 0x80 :: List.replicate zeros 0 ++ littleEndian (message.length * 8) 8

/-- The consecutive parts of a list of the given size. -/
def chunks {α : Type} (size : Nat) (xs : List α) : List (List α) :=
  if _h : xs = [] ∨ size = 0 then []
  else xs.take size :: chunks size (xs.drop size)
termination_by xs.length
decreasing_by
  have : xs.length ≠ 0 := fun h => _h (.inl (List.length_eq_zero_iff.1 h))
  simp; omega

/-- A byte as two hexadecimal digits. -/
def hexByte (b : UInt8) : List Char :=
  [Nat.digitChar (b.toNat / 16), Nat.digitChar (b.toNat % 16)]

/-- The MD5 digest of a message in hexadecimal. -/
def md5 (message : List UInt8) : String :=
  let blocks := (chunks 64 (padded message)).map fun block => ((chunks 4 block).map wordOf).toArray
  let s := blocks.foldl State.add .initial
  String.ofList ([s.a, s.b, s.c, s.d].flatMap fun w => (littleEndian w.toNat 4).flatMap hexByte)

/-- The MD5 digest of a text in UTF-8. -/
def md5Text (s : String) : String :=
  md5 s.toUTF8.toList

end Triplify.Digest
