import QdrantQwen.Py.Text

/-!
# `hashlib.md5(b).hexdigest()`

Both deterministic fallbacks hash the UTF-8 bytes of the text with MD5 and read the digest as
hex.  MD5 is computed here on 32-bit words kept as `Nat` below `2^32`, so that a digest of a
short text can be evaluated by the kernel.

* `md5`              the 16 digest bytes of a byte string;
* `hexdigest`        their 32 lower-case hex digits;
* `hexdigest_length`, `hexdigest_hex`   what every caller relies on: 32 characters, each a
                     hex digit.
-/

namespace QQ

/-- the left-rotation amount of each of the 64 steps -/
def md5Shift : List Nat :=
  [7, 12, 17, 22, 7, 12, 17, 22, 7, 12, 17, 22, 7, 12, 17, 22,
   5, 9, 14, 20, 5, 9, 14, 20, 5, 9, 14, 20, 5, 9, 14, 20,
   4, 11, 16, 23, 4, 11, 16, 23, 4, 11, 16, 23, 4, 11, 16, 23,
   6, 10, 15, 21, 6, 10, 15, 21, 6, 10, 15, 21, 6, 10, 15, 21]

/-- the additive constant of each step, `⌊2^32 |sin (i + 1)|⌋` -/
def md5K : List Nat :=
  [0xd76aa478, 0xe8c7b756, 0x242070db, 0xc1bdceee, 0xf57c0faf, 0x4787c62a, 0xa8304613,
   0xfd469501, 0x698098d8, 0x8b44f7af, 0xffff5bb1, 0x895cd7be, 0x6b901122, 0xfd987193,
   0xa679438e, 0x49b40821, 0xf61e2562, 0xc040b340, 0x265e5a51, 0xe9b6c7aa, 0xd62f105d,
   0x02441453, 0xd8a1e681, 0xe7d3fbc8, 0x21e1cde6, 0xc33707d6, 0xf4d50d87, 0x455a14ed,
   0xa9e3e905, 0xfcefa3f8, 0x676f02d9, 0x8d2a4c8a, 0xfffa3942, 0x8771f681, 0x6d9d6122,
   0xfde5380c, 0xa4beea44, 0x4bdecfa9, 0xf6bb4b60, 0xbebfbc70, 0x289b7ec6, 0xeaa127fa,
   0xd4ef3085, 0x04881d05, 0xd9d4d039, 0xe6db99e5, 0x1fa27cf8, 0xc4ac5665, 0xf4292244,
   0x432aff97, 0xab9423a7, 0xfc93a039, 0x655b59c3, 0x8f0ccc92, 0xffeff47d, 0x85845dd1,
   0x6fa87e4f, 0xfe2ce6e0, 0xa3014314, 0x4e0811a1, 0xf7537e82, 0xbd3af235, 0x2ad7d2bb,
   0xeb86d391]

/-- `x` rotated left by `s` bits, as a 32-bit word -/
def rotl (x s : Nat) : Nat := (x * 2 ^ s + x / 2 ^ (32 - s)) % 2 ^ 32

/-- the bitwise complement of a 32-bit word -/
def not32 (x : Nat) : Nat := x ^^^ 0xFFFFFFFF

/-- the round function of step `i` on `b c d`, and the index of the message word it adds -/
def md5Round (i b c d : Nat) : Nat × Nat :=
  if i < 16 then ((b &&& c) ||| (not32 b &&& d), i)
  else if i < 32 then ((d &&& b) ||| (not32 d &&& c), (5 * i + 1) % 16)
  else if i < 48 then (b ^^^ c ^^^ d, (3 * i + 5) % 16)
  else (c ^^^ (b ||| not32 d), 7 * i % 16)

/-- the four chaining words -/
structure Md5State where
  a : Nat
  b : Nat
  c : Nat
  d : Nat

/-- the initial chaining words -/
def md5Init : Md5State := ⟨0x67452301, 0xefcdab89, 0x98badcfe, 0x10325476⟩

/-- step `i` on the 16 words `m` of a block -/
def md5Step (m : List Nat) (st : Md5State) (i : Nat) : Md5State :=
  let (f, g) := md5Round i st.b st.c st.d
  let f := (f + st.a + md5K.getD i 0 + m.getD g 0) % 2 ^ 32
  ⟨st.d, (st.b + rotl f (md5Shift.getD i 0)) % 2 ^ 32, st.b, st.c⟩

/-- one 64-byte block: the 64 steps, added to the chaining words -/
def md5Block (st : Md5State) (m : List Nat) : Md5State :=
  let r := (List.range 64).foldl (md5Step m) st
  ⟨(st.a + r.a) % 2 ^ 32, (st.b + r.b) % 2 ^ 32, (st.c + r.c) % 2 ^ 32, (st.d + r.d) % 2 ^ 32⟩

/-- the little-endian words of a byte string (of a length divisible by 4) -/
def leWords : List Nat → List Nat
  | a :: b :: c :: d :: r => (a + 256 * b + 65536 * c + 16777216 * d) :: leWords r
  | _ => []

/-- the `k` little-endian bytes of `n` -/
def leBytes : Nat → Nat → List Nat
  | 0, _ => []
  | k + 1, n => n % 256 :: leBytes k (n / 256)

/-- the message, `0x80`, zeros up to 56 bytes mod 64, and the bit length -/
def md5Pad (msg : List Nat) : List Nat :=
  msg ++ 0x80 :: List.replicate ((119 - msg.length % 64) % 64) 0 ++
    leBytes 8 (8 * msg.length % 2 ^ 64)

/-- the blocks of 16 words, `fuel` bounding their number -/
def md5Blocks : Nat → List Nat → Md5State → Md5State
  | 0, _, st => st
  | k + 1, ws, st => if ws = [] then st else md5Blocks k (ws.drop 16) (md5Block st (ws.take 16))

/-- `hashlib.md5(b).digest()` -/
def md5 (b : List UInt8) : List Nat :=
  let ws := leWords (md5Pad (b.map UInt8.toNat))
  let st := md5Blocks ws.length ws md5Init
  leBytes 4 st.a ++ leBytes 4 st.b ++ leBytes 4 st.c ++ leBytes 4 st.d

/-- `.hexdigest()`: two lower-case hex digits per byte -/
def hexdigest (d : List Nat) : PyStr := d.flatMap (hexPad 2)

theorem hexPad_length (w n : Nat) : (hexPad w n).length = w := by
  induction w generalizing n with
  | zero => rfl
  | succ w ih => simp [hexPad, ih]

theorem hexPad_hex (w n : Nat) : IsHex (hexPad w n) := by
  induction w generalizing n with
  | zero => intro c hc; cases hc
  | succ w ih =>
    intro c hc
    rcases List.mem_append.mp hc with h | h
    · exact ih _ c h
    · rw [List.mem_singleton.mp h, hexVal_hexDigit _ (Nat.mod_lt _ (by decide))]
      rfl

theorem leBytes_length (k n : Nat) : (leBytes k n).length = k := by
  induction k generalizing n with
  | zero => rfl
  | succ k ih => simp [leBytes, ih]

theorem md5_length (b : List UInt8) : (md5 b).length = 16 := by
  simp [md5, leBytes_length]

theorem hexdigest_length (d : List Nat) : (hexdigest d).length = 2 * d.length := by
  induction d with
  | nil => rfl
  | cons x d ih => simp [hexdigest, List.flatMap_cons, hexPad_length] at ih ⊢; omega

/-- **an MD5 hex digest has 32 characters** -/
theorem hexdigest_md5_length (b : List UInt8) : (hexdigest (md5 b)).length = 32 := by
  rw [hexdigest_length, md5_length]

/-- **every character of a hex digest is a hex digit** -/
theorem hexdigest_hex (d : List Nat) : IsHex (hexdigest d) := by
  intro c hc
  obtain ⟨x, -, hx⟩ := List.mem_flatMap.mp hc
  exact hexPad_hex 2 x c hx

end QQ
