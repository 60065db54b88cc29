import QdrantQwen.Py.Text
import Mathlib.Data.Int.Log
import Mathlib.Data.Rat.Floor

/-!
# Python `float`: rounding to a double, and `repr`

A Python `float` is an IEEE 754 double.  The model keeps a float as its exact value (`fin`),
NaN or an infinity, and rounds where the code makes a float: `float(text)`, `float(n)` and
each arithmetic operation give the double nearest to the exact result, ties to the even one,
and infinity from `2^1024` on (`round64`).  The sign of a zero is not kept: `-0.0` is `0.0`.

`float.__repr__` prints the fewest digits that round back to the double (`_Py_dg_dtoa` in mode
0), and `format_float_short` lays them out: in exponent notation when the decimal point falls
four places before the first digit or more than sixteen after it (`1e-05`, `1e+16`), the
exponent signed and of at least two digits; otherwise with at least one digit after the point.

* `round64`                        the double nearest to a value;
* `round64_idem`                   a double rounds to itself;
* `round64_neg`                    rounding commutes with the sign;
* `roundMag_le_double`, `double_le_roundMag`   rounding never crosses a double;
* `shortest`, `shortest_round64`   the digits `repr` prints round back to the double;
* `layout`, `render`, `PyFloat.repr`   `repr(x)`.
-/

namespace QQ

/-- a Python `float`: a finite value, or `nan`, `inf`, `-inf` (`json.loads` reads the
literals `NaN`, `Infinity`, `-Infinity`) -/
inductive PyFloat where
  | fin (q : ℚ)
  | nan
  | inf (neg : Bool)
  deriving DecidableEq

/-- the finite value of a float (`0` for the others) -/
def PyFloat.finVal : PyFloat → ℚ
  | .fin q => q
  | _ => 0

/-! ## rounding to a double -/

/-- the integer nearest to `x`, ties to the even one -/
def roundEven (x : ℚ) : ℤ :=
  if x - ⌊x⌋ < 1 / 2 then ⌊x⌋
  else if 1 / 2 < x - ⌊x⌋ then ⌊x⌋ + 1
  else if ⌊x⌋ % 2 = 0 then ⌊x⌋ else ⌊x⌋ + 1

/-- the exponent of the last bit of a double near `a > 0`: 52 bits below the leading one, and
never below the subnormal step `2^-1074` -/
def quantum (a : ℚ) : ℤ := max (Int.log 2 a - 52) (-1074)

/-- `a > 0` rounded to a multiple of `2^quantum a` -/
def roundMag (a : ℚ) : ℚ := roundEven (a / 2 ^ quantum a) * 2 ^ quantum a

/-- the double nearest to `q`, ties to even; infinity when the rounded magnitude reaches
`2^1024` -/
def round64 (q : ℚ) : PyFloat :=
  if q = 0 then .fin 0
  else if 2 ^ 1024 ≤ roundMag |q| then .inf (decide (q < 0))
  else .fin (if q < 0 then -roundMag |q| else roundMag |q|)

/-- the double a float stands for -/
def PyFloat.toDouble : PyFloat → PyFloat
  | .fin q => round64 q
  | x => x

/-- `m * 2^E` is a positive double: `m` has 53 bits with the top one set, or the exponent is
the subnormal one -/
def Grid (m : ℕ) (E : ℤ) : Prop :=
  0 < m ∧ m < 2 ^ 53 ∧ -1074 ≤ E ∧ (2 ^ 52 ≤ m ∨ E = -1074)

theorem roundEven_intCast (n : ℤ) : roundEven n = n := by
  simp [roundEven]

theorem floor_le_roundEven (x : ℚ) : ⌊x⌋ ≤ roundEven x := by
  unfold roundEven
  split_ifs <;> omega

theorem roundEven_le (x : ℚ) : roundEven x ≤ ⌊x⌋ + 1 := by
  unfold roundEven
  split_ifs <;> omega

theorem two_zpow_pos (E : ℤ) : (0 : ℚ) < 2 ^ E := zpow_pos (by norm_num) E

theorem le_quantum (a : ℚ) : Int.log 2 a - 52 ≤ quantum a := le_max_left _ _

theorem quantum_ge (a : ℚ) : -1074 ≤ quantum a := le_max_right _ _

/-- the binary logarithm of a point of the grid -/
theorem log2_grid (m : ℕ) (E : ℤ) (hm : 0 < m) :
    Int.log 2 ((m : ℚ) * 2 ^ E) = Nat.log 2 m + E := by
  have hpos : (0 : ℚ) < m * 2 ^ E := mul_pos (by exact_mod_cast hm) (two_zpow_pos E)
  have hlo : ((2 : ℕ) : ℚ) ^ ((Nat.log 2 m : ℤ) + E) ≤ m * 2 ^ E := by
    rw [zpow_add₀ (by norm_num), zpow_natCast]
    push_cast
    exact mul_le_mul_of_nonneg_right (by exact_mod_cast Nat.pow_log_le_self 2 hm.ne')
      (two_zpow_pos E).le
  have hhi : (m : ℚ) * 2 ^ E < ((2 : ℕ) : ℚ) ^ ((Nat.log 2 m : ℤ) + E + 1) := by
    rw [add_right_comm, zpow_add₀ (by norm_num), ← Nat.cast_succ, zpow_natCast]
    push_cast
    exact mul_lt_mul_of_pos_right (by exact_mod_cast Nat.lt_pow_succ_log_self (by decide) m)
      (two_zpow_pos E)
  have h1 := (Int.zpow_le_iff_le_log (by decide) hpos).mp hlo
  have h2 := (Int.lt_zpow_iff_log_lt (by decide) hpos).mp hhi
  omega

theorem quantum_grid {m : ℕ} {E : ℤ} (h : Grid m E) : quantum ((m : ℚ) * 2 ^ E) = E := by
  obtain ⟨hm, hm53, hE, hn⟩ := h
  rw [quantum, log2_grid m E hm]
  by_cases h52 : 2 ^ 52 ≤ m
  · have : Nat.log 2 m = 52 := (Nat.log_eq_iff (Or.inl (by norm_num))).mpr ⟨h52, hm53⟩
    omega
  · have : Nat.log 2 m < 52 := Nat.log_lt_of_lt_pow hm.ne' (by omega)
    have : E = -1074 := hn.resolve_left h52
    omega

/-- a point of the grid rounds to itself -/
theorem roundMag_grid {m : ℕ} {E : ℤ} (h : Grid m E) :
    roundMag ((m : ℚ) * 2 ^ E) = m * 2 ^ E := by
  rw [roundMag, quantum_grid h, mul_div_cancel_right₀ _ (two_zpow_pos E).ne']
  exact_mod_cast congrArg (fun z : ℤ => (z : ℚ) * 2 ^ E) (roundEven_intCast m)

theorem lt_two_pow_quantum (a : ℚ) : a / 2 ^ quantum a < 2 ^ 53 := by
  rw [div_lt_iff₀ (two_zpow_pos _)]
  calc a < ((2 : ℕ) : ℚ) ^ (Int.log 2 a).succ := Int.lt_zpow_succ_log_self (by norm_num) a
    _ ≤ 2 ^ ((53 : ℕ) + quantum a) := by
        push_cast
        exact zpow_le_zpow_right₀ (by norm_num) (by have := le_quantum a; simp only [Int.succ]; omega)
    _ = 2 ^ 53 * 2 ^ quantum a := by rw [zpow_add₀ two_ne_zero, zpow_natCast]

theorem le_two_pow_quantum {a : ℚ} (ha : 0 < a) (h : quantum a ≠ -1074) :
    2 ^ 52 ≤ a / 2 ^ quantum a := by
  have hq : quantum a = Int.log 2 a - 52 := by
    unfold quantum at h ⊢; omega
  rw [le_div_iff₀ (two_zpow_pos _)]
  calc (2 : ℚ) ^ 52 * 2 ^ quantum a = ((2 : ℕ) : ℚ) ^ Int.log 2 a := by
        rw [hq, ← zpow_natCast, ← zpow_add₀ two_ne_zero]; push_cast; ring_nf
    _ ≤ a := Int.zpow_log_le_self (by norm_num) ha

/-- rounding up past 53 bits lands on the next binade -/
theorem grid_top (E : ℤ) (hE : -1074 ≤ E) :
    Grid (2 ^ 52) (E + 1) ∧ ((2 ^ 53 : ℤ) : ℚ) * 2 ^ E = ((2 ^ 52 : ℕ) : ℚ) * 2 ^ (E + 1) := by
  refine ⟨⟨by norm_num, by norm_num, by omega, .inl le_rfl⟩, ?_⟩
  rw [zpow_add_one₀ two_ne_zero]
  push_cast
  ring

/-- a rounded positive value is zero or a point of the grid -/
theorem roundMag_canonical {a : ℚ} (ha : 0 < a) :
    roundMag a = 0 ∨ ∃ m E, Grid m E ∧ roundMag a = m * 2 ^ E := by
  set E := quantum a with hE
  have hy0 : 0 ≤ a / 2 ^ E := div_nonneg ha.le (two_zpow_pos E).le
  have hfl0 : 0 ≤ ⌊a / 2 ^ E⌋ := Int.floor_nonneg.mpr hy0
  have hfl53 : ⌊a / 2 ^ E⌋ < 2 ^ 53 := Int.floor_lt.mpr (by exact_mod_cast lt_two_pow_quantum a)
  have hlo := floor_le_roundEven (a / 2 ^ E)
  have hhi := roundEven_le (a / 2 ^ E)
  have hEge : -1074 ≤ E := quantum_ge a
  unfold roundMag
  rw [← hE]
  rcases (show roundEven (a / 2 ^ E) = 0 ∨ roundEven (a / 2 ^ E) = 2 ^ 53 ∨
      0 < roundEven (a / 2 ^ E) ∧ roundEven (a / 2 ^ E) < 2 ^ 53 by omega) with h0 | htop | ⟨hpos, hlt⟩
  · left; rw [h0]; simp
  · right
    exact ⟨_, _, (grid_top E hEge).1, by rw [htop, (grid_top E hEge).2]⟩
  · right
    refine ⟨(roundEven (a / 2 ^ E)).toNat, E, ⟨by omega, by omega, hEge, ?_⟩, by
      rw [← Int.toNat_of_nonneg hpos.le, Int.toNat_natCast, Int.cast_natCast]⟩
    by_cases hsub : E = -1074
    · exact .inr hsub
    · have h52 : (2 : ℤ) ^ 52 ≤ ⌊a / 2 ^ E⌋ :=
        Int.le_floor.mpr (by exact_mod_cast le_two_pow_quantum ha hsub)
      left; omega

theorem roundMag_zero : roundMag 0 = 0 := by simp [roundMag, roundEven]

theorem roundMag_nonneg {a : ℚ} (ha : 0 ≤ a) : 0 ≤ roundMag a := by
  have h0 : 0 ≤ ⌊a / 2 ^ quantum a⌋ := Int.floor_nonneg.mpr (div_nonneg ha (two_zpow_pos _).le)
  have := floor_le_roundEven (a / 2 ^ quantum a)
  exact mul_nonneg (by exact_mod_cast h0.trans this) (two_zpow_pos _).le

/-- rounding is idempotent on magnitudes -/
theorem roundMag_roundMag {a : ℚ} (ha : 0 < a) : roundMag (roundMag a) = roundMag a := by
  rcases roundMag_canonical ha with h0 | ⟨m, E, hg, hm⟩
  · rw [h0, roundMag_zero]
  · rw [hm, roundMag_grid hg]

/-- a value that is its own rounding, below `2^1024`, is a double -/
theorem round64_of_fixed {q : ℚ} (hq : q ≠ 0) (hm : roundMag |q| = |q|) (hb : |q| < 2 ^ 1024) :
    round64 q = .fin q := by
  rw [round64, if_neg hq, hm, if_neg (not_le.mpr hb)]
  split
  · next h => rw [abs_of_neg h, neg_neg]
  · next h => rw [abs_of_nonneg (not_lt.mp h)]

theorem round64_zero : round64 0 = .fin 0 := if_pos rfl

/-- **a double rounds to itself**: what `round64` returns is a fixed point of it -/
theorem round64_idem {q x : ℚ} (h : round64 q = .fin x) : round64 x = .fin x := by
  unfold round64 at h
  by_cases hq : q = 0
  · rw [if_pos hq] at h; cases h; exact round64_zero
  by_cases hov : 2 ^ 1024 ≤ roundMag |q|
  · rw [if_neg hq, if_pos hov] at h; cases h
  rw [if_neg hq, if_neg hov] at h
  cases h
  have hq' : 0 < |q| := abs_pos.mpr hq
  have hR := roundMag_nonneg hq'.le
  have habs : |(if q < 0 then -roundMag |q| else roundMag |q|)| = roundMag |q| := by
    split <;> simp only [abs_neg, abs_of_nonneg hR]
  by_cases hx : (if q < 0 then -roundMag |q| else roundMag |q|) = 0
  · rw [hx]; exact round64_zero
  · exact round64_of_fixed hx (by rw [habs, roundMag_roundMag hq']) (by rw [habs]; exact not_le.mp hov)

/-- rounding commutes with the sign -/
theorem round64_neg {q x : ℚ} (h : round64 q = .fin x) : round64 (-q) = .fin (-x) := by
  unfold round64 at h ⊢
  simp only [abs_neg, neg_eq_zero]
  by_cases hq : q = 0
  · rw [if_pos hq] at h ⊢; cases h; rw [neg_zero]
  by_cases hov : 2 ^ 1024 ≤ roundMag |q|
  · rw [if_neg hq, if_pos hov] at h; cases h
  rw [if_neg hq, if_neg hov] at h ⊢
  cases h
  rcases lt_or_gt_of_ne hq with hlt | hgt
  · simp [hlt, not_lt.mpr (neg_nonneg.mpr hlt.le)]
  · simp [not_lt.mpr hgt.le, neg_lt_zero.mpr hgt]

theorem roundMag_of_double {x : ℚ} (hx : 0 < x) (h : round64 x = .fin x) : roundMag x = x := by
  unfold round64 at h
  rw [if_neg hx.ne', abs_of_pos hx, if_neg (not_lt.mpr hx.le)] at h
  split at h
  · cases h
  · exact PyFloat.fin.inj h

/-! ## rounding is monotone across doubles -/

theorem quantum_mono {a b : ℚ} (ha : 0 < a) (hab : a ≤ b) : quantum a ≤ quantum b :=
  max_le_max (by have := @Int.log_mono_right ℚ _ _ 2 _ _ ha hab; omega) le_rfl

theorem roundEven_le_of_le {x : ℚ} {N : ℤ} (h : x ≤ N) : roundEven x ≤ N := by
  have hfl : ⌊x⌋ ≤ N := Int.floor_le_floor h |>.trans (by rw [Int.floor_intCast])
  unfold roundEven
  rcases hfl.lt_or_eq with hlt | heq
  · split_ifs <;> omega
  · have hx : x = ⌊x⌋ := le_antisymm (by rw [heq]; exact h) (Int.floor_le x)
    rw [if_pos (by rw [← hx, sub_self]; norm_num), heq]

theorem le_roundEven_of_le {x : ℚ} {N : ℤ} (h : (N : ℚ) ≤ x) : N ≤ roundEven x :=
  (Int.le_floor.mpr h).trans (floor_le_roundEven x)

theorem grid_pos {m : ℕ} {E : ℤ} (hg : Grid m E) : (0 : ℚ) < m * 2 ^ E :=
  mul_pos (by exact_mod_cast hg.1) (two_zpow_pos E)

/-- a point of the grid is an integer number of quanta of any finer grid -/
theorem grid_div_zpow (m : ℕ) {E q : ℤ} (h : q ≤ E) :
    (m : ℚ) * 2 ^ E = ((m * 2 ^ (E - q).toNat : ℕ) : ℤ) * 2 ^ q := by
  push_cast
  rw [← zpow_natCast, Int.toNat_of_nonneg (by omega), mul_assoc, ← zpow_add₀ two_ne_zero]
  congr 2
  ring

/-- **rounding never goes past a double above the value** -/
theorem roundMag_le_double {a c : ℚ} (ha : 0 < a) {m : ℕ} {E : ℤ} (hg : Grid m E)
    (hc : (m : ℚ) * 2 ^ E = c) (h : a ≤ c) : roundMag a ≤ c := by
  subst hc
  have hq : quantum a ≤ E := quantum_grid hg ▸ quantum_mono ha h
  rw [grid_div_zpow m hq] at h ⊢
  rw [roundMag]
  refine mul_le_mul_of_nonneg_right (Int.cast_le.mpr (roundEven_le_of_le ?_)) (two_zpow_pos _).le
  rwa [div_le_iff₀ (two_zpow_pos _)]

/-- **rounding never goes below a double under the value** -/
theorem double_le_roundMag {a c : ℚ} {m : ℕ} {E : ℤ} (hg : Grid m E) (hc : (m : ℚ) * 2 ^ E = c)
    (h : c ≤ a) : c ≤ roundMag a := by
  subst hc
  have ha := (grid_pos hg).trans_le h
  have hq : E ≤ quantum a := quantum_grid hg ▸ quantum_mono (grid_pos hg) h
  rw [roundMag]
  rcases hq.lt_or_eq with hlt | rfl
  · have hn : quantum a ≠ -1074 := by have := hg.2.2.1; omega
    have h52 : ((2 ^ 52 : ℕ) : ℤ) ≤ roundEven (a / 2 ^ quantum a) :=
      le_roundEven_of_le (by push_cast; exact le_two_pow_quantum ha hn)
    calc (m : ℚ) * 2 ^ E ≤ 2 ^ 53 * 2 ^ E :=
          mul_le_mul_of_nonneg_right (by exact_mod_cast hg.2.1.le) (two_zpow_pos E).le
      _ = 2 ^ 52 * 2 ^ (E + 1) := by rw [zpow_add_one₀ two_ne_zero]; ring
      _ ≤ 2 ^ 52 * 2 ^ quantum a :=
          mul_le_mul_of_nonneg_left (zpow_le_zpow_right₀ (by norm_num) hlt) (by norm_num)
      _ ≤ roundEven (a / 2 ^ quantum a) * 2 ^ quantum a :=
          mul_le_mul_of_nonneg_right (by exact_mod_cast h52) (two_zpow_pos _).le
  · refine mul_le_mul_of_nonneg_right ?_ (two_zpow_pos _).le
    have : ((m : ℤ) : ℚ) ≤ a / 2 ^ quantum a := by
      rw [le_div_iff₀ (two_zpow_pos _)]; exact_mod_cast h
    exact_mod_cast le_roundEven_of_le this

theorem nat_grid {n : ℕ} (h0 : 0 < n) (h : n < 2 ^ 53) :
    Grid (n * 2 ^ (52 - Nat.log 2 n)) (-((52 - Nat.log 2 n : ℕ) : ℤ)) ∧
      ((n * 2 ^ (52 - Nat.log 2 n) : ℕ) : ℚ) * 2 ^ (-((52 - Nat.log 2 n : ℕ) : ℤ)) = n := by
  have hlog : Nat.log 2 n < 53 := Nat.log_lt_of_lt_pow h0.ne' h
  have hlo := Nat.pow_log_le_self 2 h0.ne'
  have hhi := Nat.lt_pow_succ_log_self (by decide : 1 < 2) n
  refine ⟨⟨by positivity, ?_, by omega, .inl ?_⟩, ?_⟩
  · calc n * 2 ^ (52 - Nat.log 2 n) < 2 ^ (Nat.log 2 n + 1) * 2 ^ (52 - Nat.log 2 n) :=
          Nat.mul_lt_mul_of_pos_right hhi (by positivity)
      _ = 2 ^ 53 := by rw [← pow_add]; congr 1; omega
  · calc 2 ^ 52 = 2 ^ Nat.log 2 n * 2 ^ (52 - Nat.log 2 n) := by rw [← pow_add]; congr 1; omega
      _ ≤ n * 2 ^ (52 - Nat.log 2 n) := Nat.mul_le_mul_right _ hlo
  · rw [zpow_neg, zpow_natCast]
    push_cast
    field_simp

/-- a positive value whose rounding stays below `2^1024` rounds to a finite double -/
theorem round64_pos {a : ℚ} (ha : 0 < a) (hb : roundMag a < 2 ^ 1024) :
    round64 a = .fin (roundMag a) := by
  rw [round64, if_neg ha.ne', abs_of_pos ha, if_neg (not_le.mpr hb), if_neg (not_lt.mpr ha.le)]

/-! ## the shortest digits -/

/-- the decimal `c * 10^-s` rounds back to `x` -/
def roundsTo (x : ℚ) (c : ℕ) (s : ℤ) : Bool := round64 (c / 10 ^ s) = .fin x

/-- the `p`-digit decimals either side of `x` that round back to it, the nearer one first (ties
to the even one) -/
def candidate (x : ℚ) (p : ℕ) : Option (ℕ × ℤ) :=
  let s : ℤ := p - 1 - Int.log 10 x
  let lo := ⌊x * 10 ^ s⌋.toNat
  if roundsTo x lo s then
    if roundsTo x (lo + 1) s then
      if x * 10 ^ s - lo < lo + 1 - x * 10 ^ s then some (lo, s)
      else if lo + 1 - x * 10 ^ s < x * 10 ^ s - lo then some (lo + 1, s)
      else if lo % 2 = 0 then some (lo, s) else some (lo + 1, s)
    else some (lo, s)
  else if roundsTo x (lo + 1) s then some (lo + 1, s) else none

/-- the exponent that makes a double `x` an integer: `x * 10^exactScale x` has no fraction -/
def exactScale (x : ℚ) : ℕ := (-quantum x).toNat

/-- the digits `c` and scale `s` of `repr(x)`, `x` a positive double: the fewest digits, at most
17, that round back to `x`; the exact digits if none did (seventeen always do) -/
def shortest (x : ℚ) : ℕ × ℤ :=
  ((List.range 17).findSome? fun i => candidate x (i + 1)).getD
    (⌊x * 10 ^ exactScale x⌋.toNat, exactScale x)

theorem candidate_roundsTo {x : ℚ} {p c : ℕ} {s : ℤ} (h : candidate x p = some (c, s)) :
    roundsTo x c s = true := by
  dsimp only [candidate] at h
  split_ifs at h <;> cases h <;> assumption

/-- a positive double times `10^exactScale` is an integer -/
theorem double_mul_exactScale {x : ℚ} (hx : 0 < x) (h : round64 x = .fin x) :
    ((⌊x * 10 ^ exactScale x⌋.toNat : ℕ) : ℚ) = x * 10 ^ exactScale x := by
  set E := quantum x
  set S := exactScale x
  have hES : 0 ≤ E + S := by simp only [S, exactScale]; omega
  have hx' : x * 10 ^ S = ((roundEven (x / 2 ^ E) * 5 ^ S * 2 ^ (E + S).toNat : ℤ) : ℚ) := by
    conv_lhs => rw [← roundMag_of_double hx h, roundMag]
    push_cast
    rw [← zpow_natCast (2 : ℚ), Int.toNat_of_nonneg hES, zpow_add₀ two_ne_zero,
      show (10 : ℚ) ^ S = 2 ^ S * 5 ^ S by rw [← mul_pow]; norm_num, zpow_natCast]
    ring
  have hnn : 0 ≤ x * 10 ^ S := mul_nonneg hx.le (by positivity)
  rw [hx', Int.floor_intCast, ← Int.cast_natCast, Int.toNat_of_nonneg (by exact_mod_cast hx' ▸ hnn)]

/-- **the digits of `repr` round back to the double they print** -/
theorem shortest_round64 {x : ℚ} (hx : 0 < x) (h : round64 x = .fin x) :
    round64 ((shortest x).1 / 10 ^ (shortest x).2) = .fin x := by
  unfold shortest
  cases hf : (List.range 17).findSome? fun i => candidate x (i + 1) with
  | some cs =>
    obtain ⟨i, -, hi⟩ := List.exists_of_findSome?_eq_some hf
    simpa [roundsTo] using candidate_roundsTo hi
  | none =>
    simp only [Option.getD_none, zpow_natCast]
    rw [double_mul_exactScale hx h, mul_div_cancel_right₀ _ (by positivity), h]

/-! ## the text -/

/-- the decimal digits of `n`, as `str(n)` writes them -/
def digits (n : Nat) : PyStr := (Nat.toDigits 10 n).map cp

/-- `n` zeros -/
def zeros (n : Nat) : PyStr := List.replicate n (cp '0')

/-- the digits without their trailing zeros -/
def stripZeros (ds : PyStr) : PyStr := (ds.reverse.dropWhile (· = cp '0')).reverse

/-- the digits of an exponent, at least two (`%.02d`) -/
def expDigits (n : Nat) : PyStr := if n < 10 then cp '0' :: digits n else digits n

/-- `format_float_short`: the digits before the point, those after it, and the exponent, for
the digits `ds` with the decimal point `decpt` places from their start -/
def layout (ds : PyStr) (decpt : ℤ) : PyStr × PyStr × Option ℤ :=
  if decpt ≤ -4 ∨ 16 < decpt then (ds.take 1, ds.drop 1, some (decpt - 1))
  else if decpt ≤ 0 then ([cp '0'], zeros (-decpt).toNat ++ ds, none)
  else if decpt < ds.length then (ds.take decpt.toNat, ds.drop decpt.toNat, none)
  else (ds ++ zeros (decpt.toNat - ds.length), [cp '0'], none)

/-- the point and the digits after it, nothing when there are none -/
def pointText (f : PyStr) : PyStr := if f = [] then [] else cp '.' :: f

/-- the exponent, signed (`e%+.02d`) -/
def expText : Option ℤ → PyStr
  | none => []
  | some e => cp 'e' :: (if e < 0 then cp '-' else cp '+') :: expDigits e.natAbs

/-- the text of a layout -/
def render : PyStr × PyStr × Option ℤ → PyStr
  | (i, f, e) => i ++ pointText f ++ expText e

theorem render_eq (L : PyStr × PyStr × Option ℤ) : render L = L.1 ++ pointText L.2.1 ++ expText L.2.2 :=
  rfl

/-- the shortest digits of a positive double and the place of the point -/
def reprDigits (x : ℚ) : PyStr × ℤ :=
  (stripZeros (digits (shortest x).1), ((digits (shortest x).1).length : ℤ) - (shortest x).2)

/-- `repr` of a finite double -/
def reprFinite (x : ℚ) : PyStr :=
  if x = 0 then pyStr "0.0"
  else if x < 0 then cp '-' :: render (layout (reprDigits (-x)).1 (reprDigits (-x)).2)
  else render (layout (reprDigits x).1 (reprDigits x).2)

/-- `repr(x)` -/
def PyFloat.repr (x : PyFloat) : PyStr :=
  match x.toDouble with
  | .fin y => reprFinite y
  | .nan => pyStr "nan"
  | .inf false => pyStr "inf"
  | .inf true => pyStr "-inf"

end QQ
