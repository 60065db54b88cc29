import QdrantQwen.Py.Http

/-!
# The container health check (`healthcheck.py`)

`healthcheck.py --service embedding` passes when CUDA is available and device 0 has
`total_memory / 1e9` of at least 3.5, a division of doubles.  `--service llm` asks
`http://localhost:8001/health` up to three times: a 200 whose body reads passes; a
`RequestException` (which `requests` also raises for a body that is not JSON) is retried, and
fails the check on the third turn; any other status is skipped without a retry being counted
as a failure, and three of them fall through to the GPU check.  An exception other than a
`RequestException` (a body that is not an object, a `gpu_usage_percent` that `:.1f` cannot
format) escapes `main`, and Python exits with 1.

The GPU is what `torch.cuda` reports; the `k`-th call of the loop gets `server k`.
`argparse` is left out: `main` takes the service its `choices` allow.

* `fmt1`, `format1f`              `format(x, '.1f')` of a double, and of the other values;
* `checkBasicGpu`, `checkLlmService`, `main`;
* `checkBasicGpu_passes`          the GPU check passes exactly from 3.5·10⁹ bytes on.
-/

namespace QQ

namespace Health

/-- `format(x, '.1f')` of a double `x`: the nearest tenth of its exact value, ties to the even
one, with the sign of a negative value kept (`-0.04` prints `-0.0`) -/
def fmt1 (x : ℚ) : PyStr :=
  let y := |x| * 10
  let f := y.floor.toNat
  let n := if y - f < 1 / 2 then f else if 1 / 2 < y - f then f + 1 else f + f % 2
  (if x < 0 then pyStr "-" else []) ++ showInt (n / 10 : Nat) ++ pyStr "." ++
    showInt (n % 10 : Nat)

/-- `format(x, '.1f')` of a float: the double it stands for -/
def floatFmt1 (x : PyFloat) : PyStr :=
  match x.toDouble with
  | .fin y => fmt1 y
  | .nan => pyStr "nan"
  | .inf false => pyStr "inf"
  | .inf true => pyStr "-inf"

/-- `f"{v:.1f}"`: a `bool` or an `int` is formatted as `float(v)`, which raises past the
largest double; `:.1f` is refused for a `str` and for the others -/
def format1f : Json → Except PyExc PyStr
  | .bool b => .ok (fmt1 (if b then 1 else 0))
  | .int n =>
    match round64 n with
    | .fin y => .ok (fmt1 y)
    | _ => .error ⟨.OverflowError, pyStr "int too large to convert to float"⟩
  | .float x => .ok (floatFmt1 x)
  | .str _ => .error ⟨.ValueError, pyStr "Unknown format code 'f' for object of type 'str'"⟩
  | v => .error ⟨.TypeError, pyStr "unsupported format string passed to " ++ v.typeName ++
      pyStr ".__format__"⟩

/-- `torch.cuda.get_device_properties(0).total_memory / 1e9`: the `int` made a double, then
divided by the double `1e9` -/
def gpuMem (total_memory : UInt64) : ℚ :=
  (round64 ((round64 total_memory.toNat).finVal / 10 ^ 9)).finVal

/-- `check_basic_gpu()`: the lines it prints and what it returns; `gpu` is the `total_memory`
of device 0 in bytes (a `size_t`), `none` when `torch.cuda.is_available()` is false -/
def checkBasicGpu (gpu : Option UInt64) : List PyStr × Bool :=
  match gpu with
  | none => ([pyStr "GPU not available"], false)
  | some total_memory =>
    if gpuMem total_memory < 7 / 2 then
      ([pyStr "Insufficient GPU memory: " ++ fmt1 (gpuMem total_memory) ++ pyStr "GB"], false)
    else ([pyStr "GPU OK: " ++ fmt1 (gpuMem total_memory) ++ pyStr "GB detected"], true)

/-- `max_retries` -/
def maxRetries : Nat := 3

/-- turn `i` of the loop of `check_llm_service` on the answer it gets: the lines printed, then
`none` to go on, `some ok` when the function returns `ok`, or the exception that escapes -/
def llmAttempt (i : Nat) (answer : Except PyExc Response) :
    List PyStr × Except PyExc (Option Bool) :=
  let requestFailed : List PyStr × Except PyExc (Option Bool) :=
    if i < maxRetries - 1 then ([], .ok none)
    else ([pyStr "LLM service not responding"], .ok (some false))
  match answer with
  | .error _ => requestFailed
  | .ok response =>
    if response.status_code = 200 then
      match response.json with
      | .error _ => requestFailed
      | .ok data =>
        match data.get (pyStr "status") (.s "unknown") with
        | .error e => ([], .error e)
        | .ok status =>
          let line1 := pyStr "LLM Service OK: " ++ status.toStr
          match data.get (pyStr "model_name") (.s "not loaded") with
          | .error e => ([line1], .error e)
          | .ok model_name =>
            let line2 := pyStr "Model: " ++ model_name.toStr
            match data.get (pyStr "gpu_usage_percent") (.int 0) >>= format1f with
            | .error e => ([line1, line2], .error e)
            | .ok usage =>
              ([line1, line2, pyStr "GPU Memory: " ++ usage ++ pyStr "%"], .ok (some true))
    else ([], .ok none)

/-- the turns of the loop from turn `i` on, `n` of them left -/
def llmLoop (server : Nat → Except PyExc Response) : Nat → Nat →
    List PyStr × Except PyExc (Option Bool)
  | _, 0 => ([], .ok none)
  | i, n + 1 =>
    match llmAttempt i (server i) with
    | (out, .ok none) =>
      let rest := llmLoop server (i + 1) n
      (out ++ rest.1, rest.2)
    | other => other

/-- `check_llm_service()`: after three turns that went on, the GPU check -/
def checkLlmService (gpu : Option UInt64) (server : Nat → Except PyExc Response) :
    List PyStr × Except PyExc Bool :=
  match llmLoop server 0 maxRetries with
  | (out, .ok (some ok)) => (out, .ok ok)
  | (out, .ok none) => (out ++ (checkBasicGpu gpu).1, .ok (checkBasicGpu gpu).2)
  | (out, .error e) => (out, .error e)

/-- the choices of `--service` -/
inductive Service where
  | embedding
  | llm

/-- the verdict lines of `main` -/
def verdict (name : String) (ok : Bool) : PyStr :=
  if ok then pyStr ("✅ " ++ name ++ " service health check passed")
  else pyStr ("❌ " ++ name ++ " service health check failed")

/-- `main()`: the lines printed and the exit status, 1 when an exception escapes -/
def main (service : Service) (gpu : Option UInt64) (server : Nat → Except PyExc Response) :
    List PyStr × Nat :=
  match service with
  | .embedding =>
    let (out, ok) := checkBasicGpu gpu
    (pyStr "Running health check for embedding service..." :: out ++ [verdict "Embedding" ok],
      if ok then 0 else 1)
  | .llm =>
    let header := pyStr "Running health check for llm service..."
    match checkLlmService gpu server with
    | (out, .ok ok) => (header :: out ++ [verdict "LLM" ok], if ok then 0 else 1)
    | (out, .error _) => (header :: out, 1)

/-! ## the GPU check -/

theorem grid_two_pow_64 : Grid (2 ^ 52) 12 ∧ ((2 ^ 52 : ℕ) : ℚ) * 2 ^ (12 : ℤ) = 2 ^ 64 :=
  ⟨⟨by norm_num, by norm_num, by norm_num, .inl le_rfl⟩, by norm_num⟩

theorem grid_one : Grid (2 ^ 52) (-52) ∧ ((2 ^ 52 : ℕ) : ℚ) * 2 ^ (-52 : ℤ) = 1 :=
  ⟨⟨by norm_num, by norm_num, by norm_num, .inl le_rfl⟩, by norm_num⟩

/-- `3.5` and the double below it -/
theorem grid_three_half :
    Grid (7 * 2 ^ 50) (-51) ∧ ((7 * 2 ^ 50 : ℕ) : ℚ) * 2 ^ (-51 : ℤ) = 7 / 2 ∧
    Grid (7 * 2 ^ 50 - 1) (-51) ∧ ((7 * 2 ^ 50 - 1 : ℕ) : ℚ) * 2 ^ (-51 : ℤ) = 7 / 2 - 1 / 2 ^ 51 :=
  ⟨⟨by norm_num, by norm_num, by norm_num, .inl (by norm_num)⟩, by norm_num,
    ⟨by norm_num, by norm_num, by norm_num, .inl (by norm_num)⟩, by norm_num⟩

/-- `3.5e9` -/
theorem grid_threshold :
    Grid (3500000000 * 2 ^ 21) (-21) ∧ ((3500000000 * 2 ^ 21 : ℕ) : ℚ) * 2 ^ (-21 : ℤ) = 3500000000 :=
  ⟨⟨by norm_num, by norm_num, by norm_num, .inl (by norm_num)⟩, by norm_num⟩

/-- the double `total_memory / 1e9`, for a device with memory -/
theorem gpuMem_pos (t : UInt64) (ht : 0 < t.toNat) :
    gpuMem t = roundMag (roundMag t.toNat / 10 ^ 9) ∧ 0 < roundMag t.toNat := by
  have hT : (0 : ℚ) < t.toNat := by exact_mod_cast ht
  have hT64 : (t.toNat : ℚ) ≤ 2 ^ 64 := by exact_mod_cast (UInt64.toNat_lt_size t).le
  have h1 : 1 ≤ roundMag t.toNat :=
    double_le_roundMag grid_one.1 grid_one.2 (by exact_mod_cast ht)
  have hR : roundMag t.toNat ≤ 2 ^ 64 := roundMag_le_double hT grid_two_pow_64.1 grid_two_pow_64.2 hT64
  have hq : (0 : ℚ) < roundMag t.toNat / 10 ^ 9 := by positivity
  have hR2 : roundMag (roundMag t.toNat / 10 ^ 9) ≤ 2 ^ 64 :=
    roundMag_le_double hq grid_two_pow_64.1 grid_two_pow_64.2
      ((div_le_self (by positivity) (by norm_num)).trans hR)
  refine ⟨?_, by positivity⟩
  rw [gpuMem, round64_pos hT (hR.trans_lt (by norm_num)), PyFloat.finVal,
    round64_pos hq (hR2.trans_lt (by norm_num))]
  rfl

/-- **the GPU check passes exactly when device 0 has at least `3.5 · 10⁹` bytes**: the two
roundings of `total_memory / 1e9` never move the quotient across `3.5` -/
theorem checkBasicGpu_passes (t : UInt64) :
    (checkBasicGpu (some t)).2 = true ↔ 3500000000 ≤ t.toNat := by
  have hpass : (checkBasicGpu (some t)).2 = true ↔ 7 / 2 ≤ gpuMem t := by
    simp only [checkBasicGpu]
    split_ifs with h <;> simp [h, not_lt.mp]
  rw [hpass]
  rcases Nat.eq_zero_or_pos t.toNat with h0 | hpos
  · simp [gpuMem, h0, round64_zero, PyFloat.finVal]
  obtain ⟨hmem, hR⟩ := gpuMem_pos t hpos
  rw [hmem]
  constructor
  · intro h
    by_contra hlt
    obtain ⟨hg, hv⟩ := nat_grid hpos (by omega)
    have hexact : roundMag t.toNat = t.toNat := by rw [← hv, roundMag_grid hg]
    have hle : roundMag (t.toNat : ℚ) / 10 ^ 9 ≤ 7 / 2 - 1 / 2 ^ 51 := by
      rw [hexact, div_le_iff₀ (by norm_num)]
      have : (t.toNat : ℚ) ≤ 3499999999 := by exact_mod_cast (by omega : t.toNat ≤ 3499999999)
      linarith
    have := roundMag_le_double (by positivity) grid_three_half.2.2.1 grid_three_half.2.2.2 hle
    linarith
  · intro h
    have h1 : (3500000000 : ℚ) ≤ roundMag t.toNat :=
      double_le_roundMag grid_threshold.1 grid_threshold.2 (by exact_mod_cast h)
    exact double_le_roundMag grid_three_half.1 grid_three_half.2.1
      (by rw [le_div_iff₀ (by norm_num)]; linarith)

end Health

end QQ
