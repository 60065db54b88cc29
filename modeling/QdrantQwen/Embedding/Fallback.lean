import QdrantQwen.Py.Md5
import QdrantQwen.Py.Numpy
import Mathlib.Data.List.GetD

/-!
# The two deterministic fallbacks

When no backend answers, each front end still returns a vector computed from the text alone:

* `get_fallback_embeddings` (`openai_compatible_api.py`): the MD5 hex digest of the text is
  read in windows of 8 hex digits, one window every 4 characters, for `i in range(0, 2560, 4)`;
  each window gives 4 bytes `b`, stored as `b / 127.5 - 1.0`.  A window that runs past the
  digest is padded with `"0"`.
* `deterministic_embedding` (`embedding_service.py`): the first 8 hex digits of the digest
  seed numpy's generator, which draws `dimension` normal samples; the samples are divided by
  their norm.

Both encode the text as UTF-8 first, and the first also prints it.

* `fallbackLoop_eq`         the loop appends the 4 values of each window, in order;
* `fallbackOfDigest_hex`    on any string of hex digits the loop never reaches the
                            `except ValueError` branch and returns 2560 values in `[-1, 1]`;
* `fallback_windows`        what each block of 4 is for an MD5 digest: a window of the digest
                            for the first 7 blocks, half of one for block 7, `-1.0` from
                            component 32 on;
* `deterministicEmbedding_ok`   an encodable text gives `dimension` values.
-/

namespace QQ

/-- `print(s)`: the strict UTF-8 encoding of stdout raises on a surrogate -/
def pyPrint (s : PyStr) : Except PyExc Unit := (encode s).map fun _ => ()

/-! ## `get_fallback_embeddings` -/

/-- `hex_slice`: `hex_digest[i:i+8]` while that fits, else
`hex_digest[i:] + "0" * (8 - (len(hex_digest) - i))` -/
def hexSlice (h : PyStr) (i : Nat) : PyStr :=
  if i + 8 ≤ h.length then (h.drop i).take 8
  else h.drop i ++ List.replicate (8 - ((h.length : Int) - i)).toNat (cp '0')

/-- `((hash_val >> k) & 0xFF) / 127.5 - 1.0` -/
def byteValue (v : Int) (k : Nat) : ℚ := (v.fdiv (2 ^ k) % 256 : Int) / 127.5 - 1

/-- the four values the loop body appends for `i`, after
`try: hash_val = int(hex_slice, 16) except ValueError: hash_val = 0` -/
def fallbackBlock (h : PyStr) (i : Nat) : Except PyExc (List ℚ) := do
  let hash_val ← match intBase16 (hexSlice h i) with
    | .ok v => .ok v
    | .error e => if e.kind = .ValueError then .ok 0 else .error e
  pure [byteValue hash_val 24, byteValue hash_val 16, byteValue hash_val 8, byteValue hash_val 0]

/-- `for i in is: ... embedding.extend([...])` -/
def fallbackLoop (h : PyStr) : List Nat → List ℚ → Except PyExc (List ℚ)
  | [], embedding => .ok embedding
  | i :: is, embedding => do
    let vals ← fallbackBlock h i
    fallbackLoop h is (embedding ++ vals)

/-- the loop over `range(0, 2560, 4)` on the hex digest `h`, then `embedding[:2560]` -/
def fallbackOfDigest (h : PyStr) : Except PyExc (List ℚ) := do
  let embedding ← fallbackLoop h (List.range' 0 640 4) []
  pure (embedding.take 2560)

/-- `get_fallback_embeddings(text)` -/
def getFallbackEmbeddings (text : PyStr) : Except PyExc (List ℚ) := do
  pyPrint (pyStr "Using fallback embedding for: " ++ text.take 50 ++ pyStr "...")
  let b ← encode text
  fallbackOfDigest (hexdigest (md5 b))

/-! ### the windows -/

theorem hexSlice_of_le (h : PyStr) (i : Nat) (hi : i ≤ h.length) :
    (hexSlice h i).length = 8 := by
  unfold hexSlice
  split
  · simp; omega
  · simp only [List.length_append, List.length_drop, List.length_replicate]
    omega

theorem hexSlice_of_ge (h : PyStr) (i : Nat) (hi : h.length ≤ i) :
    hexSlice h i = List.replicate (8 + (i - h.length)) (cp '0') := by
  have hn : ¬ i + 8 ≤ h.length := by omega
  have hd : h.drop i = [] := List.drop_of_length_le (by omega)
  simp only [hexSlice, hn, if_false, hd, List.nil_append]
  congr 1
  omega

theorem hexSlice_ne_nil (h : PyStr) (i : Nat) : hexSlice h i ≠ [] := by
  intro e
  by_cases hi : i ≤ h.length
  · have := hexSlice_of_le h i hi
    rw [e] at this
    cases this
  · rw [hexSlice_of_ge h i (by omega)] at e
    simp at e

theorem isHex_zero : (hexVal (cp '0')).isSome = true := rfl

theorem hexSlice_hex (h : PyStr) (hh : IsHex h) (i : Nat) : IsHex (hexSlice h i) := by
  intro c hc
  unfold hexSlice at hc
  split at hc
  · exact hh c (List.mem_of_mem_drop (List.mem_of_mem_take hc))
  · rcases List.mem_append.mp hc with h1 | h1
    · exact hh c (List.mem_of_mem_drop h1)
    · rw [List.eq_of_mem_replicate h1]
      exact isHex_zero

/-- the four values of a window with value `v` -/
def blockValues (v : Int) : List ℚ := [byteValue v 24, byteValue v 16, byteValue v 8, byteValue v 0]

/-- the body of the loop on a string of hex digits: `int` does not raise -/
theorem fallbackBlock_hex (h : PyStr) (hh : IsHex h) (i : Nat) :
    fallbackBlock h i = .ok (blockValues (hexNat (hexSlice h i))) := by
  simp [fallbackBlock, intBase16_hex _ (hexSlice_ne_nil h i) (hexSlice_hex h hh i), blockValues]

/-- **the loop appends the values of each pass, in order** -/
theorem fallbackLoop_eq (h : PyStr) (f : Nat → List ℚ) (is : List Nat) (acc : List ℚ)
    (hf : ∀ i ∈ is, fallbackBlock h i = .ok (f i)) :
    fallbackLoop h is acc = .ok (acc ++ is.flatMap f) := by
  induction is generalizing acc with
  | nil => simp [fallbackLoop]
  | cons i is ih =>
    rw [fallbackLoop, hf i (List.mem_cons_self _ _)]
    show fallbackLoop h is (acc ++ f i) = _
    rw [ih _ fun j hj => hf j (List.mem_cons_of_mem _ hj)]
    simp

theorem blockValues_length (v : Int) : (blockValues v).length = 4 := rfl

theorem length_flatMap_four (is : List Nat) (f : Nat → List ℚ) (hf : ∀ i, (f i).length = 4) :
    (is.flatMap f).length = 4 * is.length := by
  induction is with
  | nil => rfl
  | cons i is ih => simp [List.flatMap_cons, hf, ih]; ring

/-- a value `b / 127.5 - 1` of a byte `b` lies in `[-1, 1]` -/
theorem byte_scaled_mem (b : Nat) (hb : b ≤ 255) :
    -1 ≤ (b : ℚ) / 127.5 - 1 ∧ (b : ℚ) / 127.5 - 1 ≤ 1 := by
  have h1 : (0 : ℚ) ≤ b := by positivity
  have h2 : (b : ℚ) ≤ 255 := by exact_mod_cast hb
  constructor <;> linarith [show (b : ℚ) / 127.5 = b * (2 / 255) by ring]

theorem byteValue_spec (v : Int) (k : Nat) :
    ∃ b : Nat, b ≤ 255 ∧ byteValue v k = b / 127.5 - 1 := by
  refine ⟨(v.fdiv (2 ^ k) % 256).toNat, by omega, ?_⟩
  have h0 : 0 ≤ v.fdiv (2 ^ k) % 256 := by omega
  rw [byteValue]
  congr 2
  exact_mod_cast (Int.toNat_of_nonneg h0).symm

/-- the values the loop returns on a string of hex digits -/
def fallbackValues (h : PyStr) : List ℚ :=
  (List.range' 0 640 4).flatMap fun i => blockValues (hexNat (hexSlice h i))

theorem fallbackValues_length (h : PyStr) : (fallbackValues h).length = 2560 := by
  rw [fallbackValues, length_flatMap_four _ _ fun i => blockValues_length _, List.length_range']

/-- **on any string of hex digits the loop never reaches `except ValueError`: it returns the
values of the windows** -/
theorem fallbackOfDigest_hex (h : PyStr) (hh : IsHex h) :
    fallbackOfDigest h = .ok (fallbackValues h) := by
  have hlen := fallbackValues_length h
  rw [fallbackOfDigest, fallbackLoop_eq h _ _ [] fun i _ => fallbackBlock_hex h hh i,
    List.nil_append]
  show Except.ok ((fallbackValues h).take 2560) = _
  rw [List.take_of_length_le (by omega)]

/-! ### the components -/

theorem getD_flatMap_blocks (f : Nat → List ℚ) (hf : ∀ i, (f i).length = 4) :
    ∀ (is : List Nat) (k j : Nat), j < 4 → k < is.length →
      (is.flatMap f).getD (4 * k + j) 0 = (f (is.getD k 0)).getD j 0
  | [], _, _, _, hk => absurd hk (Nat.not_lt_zero _)
  | i :: is, 0, j, hj, _ => by
    rw [List.flatMap_cons, Nat.mul_zero, Nat.zero_add, List.getD_append _ _ _ _ (by rw [hf]; omega)]
    rfl
  | i :: is, k + 1, j, hj, hk => by
    rw [List.flatMap_cons, List.getD_append_right _ _ _ _ (by rw [hf]; omega), hf,
      show 4 * (k + 1) + j - 4 = 4 * k + j by omega,
      getD_flatMap_blocks f hf is k j hj (by simpa using hk)]
    rfl

theorem range'_getD (k : Nat) (hk : k < 640) : (List.range' 0 640 4).getD k 0 = 4 * k := by
  rw [List.getD_eq_getElem _ _ (by simpa using hk), List.getElem_range']
  omega

/-- component `4k + j` of the loop's values is byte `j` of window `k` -/
theorem fallbackValues_getD (h : PyStr) (k j : Nat) (hk : k < 640) (hj : j < 4) :
    (fallbackValues h).getD (4 * k + j) 0 = byteValue (hexNat (hexSlice h (4 * k))) (24 - 8 * j) := by
  rw [fallbackValues, getD_flatMap_blocks _ (fun i => blockValues_length _) _ k j hj
    (by simpa using hk), range'_getD k hk]
  match j, hj with
  | 0, _ => rfl
  | 1, _ => rfl
  | 2, _ => rfl
  | 3, _ => rfl

theorem hexNat_zeros (n : Nat) : hexNat (List.replicate n (cp '0')) = 0 := by
  suffices ∀ acc, (List.replicate n (cp '0')).foldl (fun acc c => 16 * acc + (hexVal c).getD 0) acc
      = 16 ^ n * acc by simpa using this 0
  induction n with
  | zero => simp
  | succ n ih =>
    intro acc
    rw [List.replicate_succ, List.foldl_cons, ih]
    show 16 ^ n * (16 * acc + 0) = _
    ring

theorem byteValue_zero (k : Nat) : byteValue 0 k = -1 := by
  simp [byteValue, Int.fdiv]

theorem byteValue_shift (x : Nat) (k : Nat) (hk : k = 0 ∨ k = 8) :
    byteValue ((x * 16 ^ 4 : Nat) : Int) k = -1 := by
  have h : ((x * 16 ^ 4 : Nat) : Int).fdiv (2 ^ k) % 256 = 0 := by
    rw [Int.fdiv_eq_ediv _ (by positivity)]
    rcases hk with rfl | rfl <;> push_cast <;> omega
  rw [byteValue, h]
  norm_num

theorem hexNat_append_zeros (s : PyStr) (n : Nat) :
    hexNat (s ++ List.replicate n (cp '0')) = hexNat s * 16 ^ n := by
  unfold hexNat
  rw [List.foldl_append]
  generalize s.foldl (fun acc c => 16 * acc + (hexVal c).getD 0) 0 = a
  induction n generalizing a with
  | zero => simp
  | succ n ih =>
    rw [List.replicate_succ, List.foldl_cons, ih]
    show (16 * a + 0) * 16 ^ n = _
    ring

theorem encode_prefix_ok (text : PyStr) (hs : ∀ c ∈ text, isSurrogate c = false) :
    ∃ c, encode (pyStr "Using fallback embedding for: " ++ (text.take 50 ++ pyStr "...")) =
      .ok c := by
  apply (encode_ok_iff _).mpr
  intro c hc
  simp only [List.mem_append] at hc
  rcases hc with hc | hc | hc
  · exact pyStr_no_surrogate _ c hc
  · exact hs c (List.mem_of_mem_take hc)
  · exact pyStr_no_surrogate _ c hc

/-- an encodable text gets the values of the windows of its digest -/
theorem getFallbackEmbeddings_ok (text : PyStr) (b : List UInt8) (hb : encode text = .ok b) :
    getFallbackEmbeddings text = .ok (fallbackValues (hexdigest (md5 b))) := by
  obtain ⟨c, hc⟩ := encode_prefix_ok text ((encode_ok_iff text).mp ⟨b, hb⟩)
  simp only [getFallbackEmbeddings, pyPrint, List.append_assoc, hc, hb,
    fallbackOfDigest_hex _ (hexdigest_hex _)]
  rfl

/-- **what each block of an MD5 fallback vector holds**: for an encodable text with digest
`h`, blocks 0 to 6 are the bytes of the windows `h[4k:4k+8]`; block 7 the bytes of
`h[28:32] + "0000"`, so its last two components are `-1.0`; every component from 32 on is
`-1.0` -/
theorem fallback_windows (text : PyStr) (b : List UInt8) (hb : encode text = .ok b) :
    ∃ v, getFallbackEmbeddings text = .ok v ∧ v.length = 2560 ∧
      (∀ k ≤ 6, ∀ j < 4, v.getD (4 * k + j) 0 =
        byteValue (hexNat (((hexdigest (md5 b)).drop (4 * k)).take 8)) (24 - 8 * j)) ∧
      (∀ j < 4, v.getD (28 + j) 0 =
        byteValue (hexNat ((hexdigest (md5 b)).drop 28 ++ pyStr "0000")) (24 - 8 * j)) ∧
      v.getD 30 0 = -1 ∧ v.getD 31 0 = -1 ∧
      ∀ i, 32 ≤ i → i < 2560 → v.getD i 0 = -1 := by
  have hlen := hexdigest_md5_length b
  have h7 : hexSlice (hexdigest (md5 b)) (4 * 7) = (hexdigest (md5 b)).drop 28 ++ pyStr "0000" := by
    simp only [hexSlice, hlen]
    rfl
  refine ⟨_, getFallbackEmbeddings_ok text b hb, fallbackValues_length _, fun k hk j hj => ?_,
    fun j hj => ?_, ?_, ?_, fun i hi hi' => ?_⟩
  · rw [fallbackValues_getD _ k j (by omega) hj, hexSlice, if_pos (by omega)]
  · have e := fallbackValues_getD (hexdigest (md5 b)) 7 j (by omega) hj
    rwa [h7] at e
  · rw [show 30 = 4 * 7 + 2 from rfl, fallbackValues_getD _ 7 2 (by omega) (by omega), h7,
      show pyStr "0000" = List.replicate 4 (cp '0') from rfl, hexNat_append_zeros]
    exact byteValue_shift _ _ (.inr rfl)
  · rw [show 31 = 4 * 7 + 3 from rfl, fallbackValues_getD _ 7 3 (by omega) (by omega), h7,
      show pyStr "0000" = List.replicate 4 (cp '0') from rfl, hexNat_append_zeros]
    exact byteValue_shift _ _ (.inl rfl)
  · rw [show i = 4 * (i / 4) + i % 4 by omega, fallbackValues_getD _ _ _ (by omega) (by omega),
      hexSlice_of_ge _ _ (by omega), hexNat_zeros]
    exact byteValue_zero _

theorem fallback_windows_empty_text :
    encode [] = .ok [] ∧ ∃ v, getFallbackEmbeddings [] = .ok v ∧ v.length = 2560 ∧
      (∀ k ≤ 6, ∀ j < 4, v.getD (4 * k + j) 0 =
        byteValue (hexNat (((hexdigest (md5 [])).drop (4 * k)).take 8)) (24 - 8 * j)) ∧
      (∀ j < 4, v.getD (28 + j) 0 =
        byteValue (hexNat ((hexdigest (md5 [])).drop 28 ++ pyStr "0000")) (24 - 8 * j)) ∧
      v.getD 30 0 = -1 ∧ v.getD 31 0 = -1 ∧
      ∀ i, 32 ≤ i → i < 2560 → v.getD i 0 = -1 :=
  ⟨rfl, fallback_windows [] [] rfl⟩

/-- the window the spec describes for block `k`: the digest read cyclically,
`h[(4k + j) mod 32]` for `j < 8` -/
def cyclicWindow (h : PyStr) (k : Nat) : PyStr :=
  (List.range 8).map fun j => h.getD ((4 * k + j) % 32) 0

set_option maxRecDepth 4000 in
theorem hexdigest_md5_nil : hexdigest (md5 []) = pyStr "d41d8cd98f00b204e9800998ecf8427e" := by
  decide

/-- the digest is not read cyclically: for the empty text, component 32 is `-1.0`, not the
first byte `0xd4` of the digest -/
theorem fallback_not_cyclic :
    ¬ ∀ (text : PyStr) (b : List UInt8) (v : List ℚ), encode text = .ok b →
      getFallbackEmbeddings text = .ok v → ∀ k < 640, ∀ j < 4,
        v.getD (4 * k + j) 0 = byteValue (hexNat (cyclicWindow (hexdigest (md5 b)) k)) (24 - 8 * j) := by
  intro H
  have h1 := H [] [] _ rfl (getFallbackEmbeddings_ok [] [] rfl) 8 (by norm_num) 0 (by norm_num)
  rw [fallbackValues_getD _ 8 0 (by norm_num) (by norm_num),
    hexSlice_of_ge _ _ (by rw [hexdigest_md5_length]), hexNat_zeros, Nat.cast_zero,
    byteValue_zero, hexdigest_md5_nil] at h1
  have hw : hexNat (cyclicWindow (pyStr "d41d8cd98f00b204e9800998ecf8427e") 8) = 0xd41d8cd9 := by
    decide
  have hb : byteValue 0xd41d8cd9 24 = 212 / 127.5 - 1 := by
    rw [byteValue, Int.fdiv_eq_ediv _ (by norm_num)]
    norm_num
  rw [hw, Nat.cast_ofNat, hb] at h1
  norm_num at h1

/-- the fallback loop on a string of hex digits, as the code's comments describe it: every
window is a non-empty string of hex digits (8 of them up to the end of `h`, zeros beyond), so
`int(hex_slice, 16)` never raises; each pass appends the 4 bytes of that integer as
`b / 127.5 - 1`; the result has 2560 components, each `b / 127.5 - 1` for a byte `b`, in
`[-1, 1]` -/
def FallbackLoopOk (h : PyStr) : Prop :=
  (∀ i ∈ List.range' 0 640 4, hexSlice h i ≠ [] ∧ IsHex (hexSlice h i) ∧
      (i ≤ h.length → (hexSlice h i).length = 8) ∧
      (h.length < i → hexSlice h i = List.replicate (8 + (i - h.length)) (cp '0')) ∧
      intBase16 (hexSlice h i) = .ok (hexNat (hexSlice h i)) ∧
      fallbackBlock h i = .ok (blockValues (hexNat (hexSlice h i))) ∧
      (blockValues (hexNat (hexSlice h i))).length = 4) ∧
    ∃ v, fallbackOfDigest h = .ok v ∧ v.length = 2560 ∧
      ∀ x ∈ v, ∃ b : Nat, b ≤ 255 ∧ x = b / 127.5 - 1 ∧ -1 ≤ x ∧ x ≤ 1

theorem mem_fallbackValues (h : PyStr) (x : ℚ) (hx : x ∈ fallbackValues h) :
    ∃ b : Nat, b ≤ 255 ∧ x = b / 127.5 - 1 := by
  obtain ⟨i, -, hi⟩ := List.mem_flatMap.mp hx
  simp only [blockValues, List.mem_cons, List.mem_singleton, List.not_mem_nil, or_false] at hi
  rcases hi with rfl | rfl | rfl | rfl <;> exact byteValue_spec _ _

/-- **the fallback loop is total on every string of hex digits, of any length** -/
theorem fallback_loop_hex (h : PyStr) (hh : IsHex h) : FallbackLoopOk h := by
  refine ⟨fun i _ => ⟨hexSlice_ne_nil h i, hexSlice_hex h hh i, hexSlice_of_le h i,
    fun hi => hexSlice_of_ge h i hi.le,
    intBase16_hex _ (hexSlice_ne_nil h i) (hexSlice_hex h hh i),
    fallbackBlock_hex h hh i, blockValues_length _⟩,
    _, fallbackOfDigest_hex h hh, fallbackValues_length h, fun x hx => ?_⟩
  obtain ⟨b, hb, rfl⟩ := mem_fallbackValues h x hx
  exact ⟨b, hb, rfl, byte_scaled_mem b hb⟩

theorem fallback_loop_md5_nil :
    IsHex (hexdigest (md5 [])) ∧ FallbackLoopOk (hexdigest (md5 [])) :=
  ⟨hexdigest_hex _, fallback_loop_hex _ (hexdigest_hex _)⟩

/-! ## `deterministic_embedding` -/

/-- numpy's global generator after `np.random.seed(seed)`, drawing
`np.random.normal(0, 0.1, n)`: `n` finite floats.  The draws themselves (Mersenne Twister and
the polar method) are the library's; the model only fixes how many there are -/
structure NormalSampler where
  normal : Nat → Nat → List ℚ
  length_normal : ∀ seed n, (normal seed n).length = n

/-- `deterministic_embedding(text, dimension)` -/
def deterministicEmbedding (rng : NormalSampler) (text : PyStr) (dimension : Nat) :
    Except PyExc NormVec := do
  let b ← encode text
  let seed ← intBase16 ((hexdigest (md5 b)).take 8)
  if seed < 0 ∨ 2 ^ 32 ≤ seed then
    throw ⟨.ValueError, pyStr "Seed must be between 0 and 2**32 - 1"⟩
  normalize (.list ((rng.normal seed.toNat dimension).map fun q => .float (.fin q)))

/-- the samples of an encodable text -/
def samplesOf (rng : NormalSampler) (b : List UInt8) (dimension : Nat) : List ℚ :=
  rng.normal (hexNat ((hexdigest (md5 b)).take 8)) dimension

/-- **an encodable text gets `dimension` samples divided by their norm** -/
theorem deterministicEmbedding_ok (rng : NormalSampler) (text : PyStr) (dimension : Nat)
    (b : List UInt8) (hb : encode text = .ok b) :
    ∃ v, deterministicEmbedding rng text dimension = .ok v ∧ v.length = dimension ∧
      v.values = npDivNorm ((samplesOf rng b dimension).map .fin) := by
  have hd := hexdigest_md5_length b
  have h8 : ((hexdigest (md5 b)).take 8).length = 8 := by simp [hd]
  have hhex : IsHex ((hexdigest (md5 b)).take 8) :=
    fun c hc => hexdigest_hex _ c (List.mem_of_mem_take hc)
  have hlt := hexNat_lt _ hhex
  rw [h8] at hlt
  obtain ⟨v, hv, harr⟩ := normalize_scalars ((samplesOf rng b dimension).map fun q => .float (.fin q))
    fun x hx => by obtain ⟨q, -, rfl⟩ := List.mem_map.mp hx; rfl
  refine ⟨v, ?_, ?_, ?_⟩
  · have hne : (hexdigest (md5 b)).take 8 ≠ [] := by
      intro e; rw [e] at h8; cases h8
    have hc : ¬ ((hexNat ((hexdigest (md5 b)).take 8) : Int) < 0 ∨
        2 ^ 32 ≤ (hexNat ((hexdigest (md5 b)).take 8) : Int)) := by omega
    simp only [deterministicEmbedding, hb, intBase16_hex _ hne hhex, ok_bind, hc, if_false,
      Int.toNat_ofNat]
    exact hv
  · rw [NormVec.length, harr]
    simp [samplesOf, rng.length_normal]
  · rw [NormVec.values, harr, npLeaves_of_scalars _ fun x hx => by
      obtain ⟨q, -, rfl⟩ := List.mem_map.mp hx; rfl]
    rw [List.filterMap_map]
    exact congrArg npDivNorm (congrFun (List.filterMap_eq_map PyFloat.fin) _)

/-! ## texts with a surrogate -/

/-- the text `"\ud800"`, a lone surrogate -/
def loneSurrogate : PyStr := [⟨0xD800, by decide⟩]

/-- **both fallbacks raise `UnicodeEncodeError` on every text with a surrogate**: the first when
it prints the text or when it encodes it, the second when it encodes it -/
theorem fallbacks_raise_on_surrogate (rng : NormalSampler) (text : PyStr) (c : CodePoint)
    (hc : c ∈ text) (hs : isSurrogate c = true) :
    (∃ e, e.kind = .UnicodeEncodeError ∧ getFallbackEmbeddings text = .error e) ∧
      ∃ e, e.kind = .UnicodeEncodeError ∧ deterministicEmbedding rng text 2560 = .error e := by
  obtain ⟨i, hi⟩ := encode_eq_error text c hc hs
  refine ⟨?_, encodeError text i, rfl, by simp only [deterministicEmbedding, hi, error_bind]⟩
  cases hp : encode (pyStr "Using fallback embedding for: " ++ text.take 50 ++ pyStr "...") with
  | error e =>
    exact ⟨e, encode_error_kind hp, by simp only [getFallbackEmbeddings, pyPrint, hp]; rfl⟩
  | ok b =>
    exact ⟨_, rfl, by simp only [getFallbackEmbeddings, pyPrint, hp, hi]; rfl⟩

/-- a generator that draws `0.1` every time, for runs on fixed inputs -/
def constantSampler : NormalSampler := ⟨fun _ n => List.replicate n (1 / 10), fun _ n => List.length_replicate n _⟩

theorem lone_surrogate_raises :
    (⟨0xD800, by decide⟩ : CodePoint) ∈ loneSurrogate ∧
      isSurrogate ⟨0xD800, by decide⟩ = true ∧
      ((∃ e, e.kind = .UnicodeEncodeError ∧ getFallbackEmbeddings loneSurrogate = .error e) ∧
        ∃ e, e.kind = .UnicodeEncodeError ∧
          deterministicEmbedding constantSampler loneSurrogate 2560 = .error e) :=
  ⟨List.mem_singleton_self _, rfl,
    fallbacks_raise_on_surrogate constantSampler loneSurrogate _ (List.mem_singleton_self _) rfl⟩

example : getFallbackEmbeddings loneSurrogate = .error ⟨.UnicodeEncodeError,
    pyStr "'utf-8' codec can't encode character '\\ud800' in position 30: surrogates not allowed"⟩ :=
  rfl

end QQ
