import QdrantQwen.Py.Loads
import Mathlib.Data.Nat.Digits

/-!
# `json.dumps`

Both bridges print each answer with `json.dumps(response)`: CPython's C encoder with the
defaults `ensure_ascii=True`, `allow_nan=True` and the separators `", "` and `": "`.  A `str` is
written in double quotes: the characters from space to tilde as they are, but for the quote and
the backslash, which get a one-letter escape as `\b`, `\f`, `\n`, `\r` and `\t` do; any other
character below `U+10000` becomes `\uXXXX`, and one above it the two escapes of its UTF-16
surrogate pair.  `NaN` and the infinities are written `NaN`, `Infinity` and `-Infinity`, other
floats with `repr`, an `int` with `repr`, which raises `ValueError` past 4300 digits.

So whatever a value holds, its text is printable ASCII, with no newline in it.

* `encodeString`, `dumps`;
* `plain`              the values whose text `json.loads` reads back (`Py.RoundTrip`);
* `printable_dumps`    every text `json.dumps` writes is printable ASCII.
-/

namespace QQ

namespace Dumps

open Loads

/-! ## the ASCII encoder of `str` -/

/-- `S_CHAR`: the characters the ASCII encoder copies as they are -/
def sChar (c : CodePoint) : Bool := 0x20 ≤ c.val && c.val ≤ 0x7e && c != cp '\\' && c != cp '"'

/-- `\uXXXX` of a value below `0x10000`, in the lower-case digits of `Py_hexdigits` -/
def uEscape (n : Nat) : PyStr := cp '\\' :: cp 'u' :: hexPad 4 n

/-- `ascii_escape_unichar`: the escape of a character that is not an `S_CHAR`; past `0xFFFF`,
the escapes of its UTF-16 surrogate pair (`Py_UNICODE_HIGH_SURROGATE`, `Py_UNICODE_LOW_SURROGATE`) -/
def asciiEscape (c : CodePoint) : PyStr :=
  if c = cp '\\' then [cp '\\', cp '\\']
  else if c = cp '"' then [cp '\\', cp '"']
  else if c.val = 8 then [cp '\\', cp 'b']
  else if c.val = 12 then [cp '\\', cp 'f']
  else if c = cp '\n' then [cp '\\', cp 'n']
  else if c = cp '\r' then [cp '\\', cp 'r']
  else if c = cp '\t' then [cp '\\', cp 't']
  else if 0x10000 ≤ c.val then uEscape (0xD7C0 + c.val / 0x400) ++ uEscape (0xDC00 + c.val % 0x400)
  else uEscape c.val

/-- one character as `ascii_escape_unicode` writes it -/
def encodeChar (c : CodePoint) : PyStr := if sChar c then [c] else asciiEscape c

/-- `py_encode_basestring_ascii`: a `str` in double quotes -/
def encodeString (s : PyStr) : PyStr := cp '"' :: (s.flatMap encodeChar ++ [cp '"'])

/-! ## numbers -/

/-- the `ValueError` of `int.__repr__` past `sys.get_int_max_str_digits()` -/
def intStrError : PyExc :=
  ⟨.ValueError, pyStr "Exceeds the limit (4300 digits) for integer string conversion; use sys.set_int_max_str_digits() to increase the limit"⟩

/-- `int.__repr__`: the digits, refused past 4300 of them -/
def intRepr (n : Int) : Except PyExc PyStr :=
  if 4300 < (digits n.natAbs).length then .error intStrError else .ok (showInt n)

/-- `floatstr` of the encoder, with `allow_nan=True`: `float.__repr__` of a finite double -/
def floatstr (x : PyFloat) : PyStr :=
  match x.toDouble with
  | .fin y => reprFinite y
  | .nan => pyStr "NaN"
  | .inf false => pyStr "Infinity"
  | .inf true => pyStr "-Infinity"

/-! ## values -/

mutual
/-- `json.dumps(v)` with its defaults: `ensure_ascii=True`, `allow_nan=True`, separators `", "`
and `": "`, the keys of a `dict` in their order -/
def dumps : Json → Except PyExc PyStr
  | .null => .ok (pyStr "null")
  | .bool true => .ok (pyStr "true")
  | .bool false => .ok (pyStr "false")
  | .int n => intRepr n
  | .float x => .ok (floatstr x)
  | .str s => .ok (encodeString s)
  | .list [] => .ok [cp '[', cp ']']
  | .list (x :: xs) => do
    let a ← dumps x
    let b ← dumpsItems xs
    pure (cp '[' :: (a ++ b ++ [cp ']']))
  | .dict [] => .ok [cp '{', cp '}']
  | .dict ((k, v) :: kvs) => do
    let a ← dumps v
    let b ← dumpsMembers kvs
    pure (cp '{' :: (encodeString k ++ pyStr ": " ++ a ++ b ++ [cp '}']))

/-- the items of a list after the first, each after `", "` -/
def dumpsItems : List Json → Except PyExc PyStr
  | [] => .ok []
  | x :: xs => do
    let a ← dumps x
    let b ← dumpsItems xs
    pure (pyStr ", " ++ a ++ b)

/-- the members of a `dict` after the first, each after `", "` -/
def dumpsMembers : List (PyStr × Json) → Except PyExc PyStr
  | [] => .ok []
  | (k, v) :: kvs => do
    let a ← dumps v
    let b ← dumpsMembers kvs
    pure (pyStr ", " ++ encodeString k ++ pyStr ": " ++ a ++ b)
end

example : dumps (.list [.int 1, .str (pyStr "a\n")]) = .ok (pyStr "[1, \"a\\n\"]") := rfl

example : dumps (.str [⟨0x1F600, by decide⟩]) = .ok (pyStr "\"\\ud83d\\ude00\"") := rfl

/-- a text with no surrogate code point -/
def noSurrogate (s : PyStr) : Bool := s.all fun c => !isSurrogate c

mutual
/-- a value `json.loads` reads back from its `json.dumps` text: no integer past 4300 digits, no
surrogate, distinct keys in each object, and floats that are doubles, as every Python float is -/
def plain : Json → Bool
  | .int n => (digits n.natAbs).length ≤ 4300
  | .float (.fin q) => round64 q = .fin q
  | .str s => noSurrogate s
  | .list xs => plainItems xs
  | .dict kvs => decide (kvs.map Prod.fst).Nodup && plainMembers kvs
  | _ => true

/-- every item is `plain` -/
def plainItems : List Json → Bool
  | [] => true
  | x :: xs => plain x && plainItems xs

/-- every key has no surrogate and every value is `plain` -/
def plainMembers : List (PyStr × Json) → Bool
  | [] => true
  | (k, v) :: kvs => noSurrogate k && plain v && plainMembers kvs
end

/-- the nesting within which the bridges' `json.loads` and `json.dumps` stay clear of CPython's
recursion limit: the C scanner and encoder make one recursive call per nested list or dict,
against the default limit of 1000 frames, so that about 985 levels raise `RecursionError`,
which the model leaves out -/
def maxNesting : Nat := 900

/-! ## the digits `str` writes -/

theorem toDigitsCore_eq (fuel : Nat) : ∀ n < fuel, ∀ ds : List Char,
    Nat.toDigitsCore 10 fuel n ds = Nat.toDigits 10 n ++ ds := by
  induction fuel using Nat.strong_induction_on with
  | _ fuel ih =>
    intro n hn ds
    obtain ⟨fuel, rfl⟩ : ∃ f, fuel = f + 1 := ⟨fuel - 1, by omega⟩
    unfold Nat.toDigits
    simp only [Nat.toDigitsCore]
    split
    · rfl
    · next h =>
      rw [ih fuel (by omega) (n / 10) (by omega), ih n (by omega) (n / 10) (by omega),
        List.append_assoc, List.singleton_append]

theorem toDigits_eq (n : Nat) : Nat.toDigits 10 n =
    if n < 10 then [Nat.digitChar n] else Nat.toDigits 10 (n / 10) ++ [Nat.digitChar (n % 10)] := by
  conv_lhs => unfold Nat.toDigits; simp only [Nat.toDigitsCore]
  split
  · next h => rw [if_pos (by omega), Nat.mod_eq_of_lt (by omega)]
  · next h => rw [if_neg (by omega), toDigitsCore_eq n (n / 10) (by omega)]

theorem digitChar_val (d : Nat) (h : d < 10) : (cp (Nat.digitChar d)).val = 48 + d := by
  have hall : ∀ d < 10, (cp (Nat.digitChar d)).val = 48 + d := by decide
  exact hall d h

theorem digits_eq (n : Nat) : digits n =
    if n < 10 then [cp (Nat.digitChar n)] else digits (n / 10) ++ [cp (Nat.digitChar (n % 10))] := by
  unfold digits
  rw [toDigits_eq]
  split <;> simp

theorem isDigit_digitChar (d : Nat) (h : d < 10) : isDigit (cp (Nat.digitChar d)) = true := by
  simp only [isDigit, digitChar_val d h, Bool.and_eq_true, decide_eq_true_eq]
  omega

theorem isDigit_digits (n : Nat) : ∀ c ∈ digits n, isDigit c = true := by
  induction n using Nat.strong_induction_on with
  | _ n ih =>
    rw [digits_eq]
    split
    · next h => simpa using isDigit_digitChar n h
    · next h =>
      intro c hc
      rcases List.mem_append.mp hc with hc | hc
      · exact ih (n / 10) (by omega) c hc
      · rw [List.mem_singleton.mp hc]; exact isDigit_digitChar _ (Nat.mod_lt _ (by decide))

theorem decimal_digits (n : Nat) : decimal (digits n) = n := by
  induction n using Nat.strong_induction_on with
  | _ n ih =>
    rw [digits_eq]
    split
    · next h => simp only [decimal, List.foldl, digitChar_val n h]; omega
    · next h =>
      have hd := ih (n / 10) (by omega)
      simp only [decimal, List.foldl_append, List.foldl] at hd ⊢
      rw [hd, digitChar_val _ (Nat.mod_lt _ (by decide))]
      omega

theorem digits_head (n : Nat) (h : 0 < n) : ∃ c t, digits n = c :: t ∧ c ≠ cp '0' := by
  induction n using Nat.strong_induction_on with
  | _ n ih =>
    rw [digits_eq]
    split
    · next hn =>
      refine ⟨_, [], rfl, fun he => ?_⟩
      have h1 := congrArg Fin.val he
      have h0 : (cp '0').val = 48 := rfl
      rw [digitChar_val n hn, h0] at h1
      omega
    · next hn =>
      obtain ⟨c, t, ht, hc⟩ := ih (n / 10) (by omega) (by omega)
      exact ⟨c, t ++ [_], by rw [ht, List.cons_append], hc⟩

theorem digits_lead (n : Nat) : ∃ c t, digits n = c :: t ∧ (c :: t = [cp '0'] ∨ c ≠ cp '0') := by
  rcases Nat.eq_zero_or_pos n with rfl | hn
  · exact ⟨_, _, rfl, .inl rfl⟩
  · obtain ⟨c, t, ht, hc⟩ := digits_head n hn
    exact ⟨c, t, ht, .inr hc⟩

theorem showInt_eq (n : Int) : showInt n = (if n < 0 then pyStr "-" else []) ++ digits n.natAbs := by
  cases n with
  | ofNat m => rw [Int.ofNat_eq_coe, if_neg (by omega)]; rfl
  | negSucc m => rw [if_pos (Int.negSucc_lt_zero m)]; rfl

theorem decimal_zeros (n : Nat) (ds : PyStr) : decimal (List.replicate n (cp '0') ++ ds) = decimal ds := by
  have h0 : ∀ n, (List.replicate n (cp '0')).foldl (fun acc c => 10 * acc + (c.val - 48)) 0 = 0 := by
    intro n
    induction n with
    | zero => rfl
    | succ n ih => rw [List.replicate_succ, List.foldl_cons]; exact ih
  rw [decimal, List.foldl_append, h0]
  rfl

theorem foldl_decimal (b : PyStr) (acc : Nat) :
    b.foldl (fun acc c => 10 * acc + (c.val - 48)) acc = acc * 10 ^ b.length + decimal b := by
  induction b generalizing acc with
  | nil => simp [decimal]
  | cons c b ih =>
    have h0 : decimal (c :: b) = b.foldl (fun acc c => 10 * acc + (c.val - 48)) (c.val - 48) := by
      rw [decimal, List.foldl_cons, Nat.mul_zero, Nat.zero_add]
    rw [List.foldl_cons, ih, h0, ih, List.length_cons, pow_succ]
    ring

theorem decimal_append (a b : PyStr) : decimal (a ++ b) = decimal a * 10 ^ b.length + decimal b := by
  rw [decimal, List.foldl_append, ← decimal, foldl_decimal]

theorem decimal_zeros_right (ds : PyStr) (n : Nat) : decimal (ds ++ zeros n) = decimal ds * 10 ^ n := by
  rw [decimal_append, zeros, List.length_replicate, ← List.append_nil (List.replicate n _),
    decimal_zeros]
  rfl

theorem isDigit_zeros (n : Nat) : ∀ x ∈ zeros n, isDigit x = true := fun x hx => by
  rw [List.eq_of_mem_replicate hx]; rfl

/-! ## the text of a float -/

/-- stripping leaves the digits and a run of zeros -/
theorem stripZeros_append (ds : PyStr) : ∃ k, ds = stripZeros ds ++ zeros k := by
  have hz : ∀ x ∈ ds.reverse.takeWhile (· = cp '0'), x = cp '0' := fun x hx => by
    simpa using List.mem_takeWhile_imp hx
  refine ⟨(ds.reverse.takeWhile (· = cp '0')).length, ?_⟩
  conv_lhs => rw [← List.reverse_reverse ds, ← List.takeWhile_append_dropWhile (· = cp '0') ds.reverse]
  rw [List.reverse_append, stripZeros, zeros, List.eq_replicate_iff.mpr ⟨rfl, hz⟩,
    List.reverse_replicate, List.length_replicate]

theorem stripZeros_digits {ds : PyStr} (hds : ∀ x ∈ ds, isDigit x = true) :
    ∀ x ∈ stripZeros ds, isDigit x = true := by
  obtain ⟨k, hk⟩ := stripZeros_append ds
  exact fun x hx => hds x (hk ▸ List.mem_append_left _ hx)

theorem stripZeros_head {c : CodePoint} {t : PyStr} (hc : c ≠ cp '0') :
    ∃ t', stripZeros (c :: t) = c :: t' := by
  obtain ⟨k, hk⟩ := stripZeros_append (c :: t)
  match h : stripZeros (c :: t), hk with
  | [], hk =>
    rw [List.nil_append, zeros] at hk
    exact absurd (List.eq_of_mem_replicate (hk ▸ List.mem_cons_self c t)) hc
  | c' :: t', hk =>
    rw [List.cons_append] at hk
    exact ⟨t', by rw [(List.cons_eq_cons.mp hk).1]⟩

/-- the digits of a layout, before and after the point, are digits -/
theorem layout_digits (ds : PyStr) (P : ℤ) (hds : ∀ x ∈ ds, isDigit x = true) :
    (∀ x ∈ (layout ds P).1, isDigit x = true) ∧ ∀ x ∈ (layout ds P).2.1, isDigit x = true := by
  unfold layout
  split_ifs
  · exact ⟨fun x hx => hds x (List.mem_of_mem_take hx), fun x hx => hds x (List.mem_of_mem_drop hx)⟩
  · refine ⟨fun x hx => by rw [List.mem_singleton.mp hx]; rfl, fun x hx => ?_⟩
    rcases List.mem_append.mp hx with hx | hx
    exacts [isDigit_zeros _ x hx, hds x hx]
  · exact ⟨fun x hx => hds x (List.mem_of_mem_take hx), fun x hx => hds x (List.mem_of_mem_drop hx)⟩
  · refine ⟨fun x hx => ?_, fun x hx => by rw [List.mem_singleton.mp hx]; rfl⟩
    rcases List.mem_append.mp hx with hx | hx
    exacts [hds x hx, isDigit_zeros _ x hx]

/-- a layout that `json.loads` reads as a float: an integer part without a leading zero, and a
point or an exponent -/
def LayoutLead (L : PyStr × PyStr × Option ℤ) : Prop :=
  (∃ c t, L.1 = c :: t ∧ (c :: t = [cp '0'] ∨ c ≠ cp '0')) ∧ (L.2.2 = none → L.2.1 ≠ [])

theorem layout_lead {c : CodePoint} {t : PyStr} (hc : c ≠ cp '0') (P : ℤ) :
    LayoutLead (layout (c :: t) P) := by
  unfold layout
  split_ifs with h1 h2 h3
  · exact ⟨⟨c, [], rfl, .inr hc⟩, fun h => by cases h⟩
  · exact ⟨⟨_, [], rfl, .inl rfl⟩, fun _ => by simp⟩
  · obtain ⟨k, hk⟩ : ∃ k, P.toNat = k + 1 := ⟨P.toNat - 1, by omega⟩
    refine ⟨⟨c, t.take k, by rw [hk, List.take_succ_cons], .inr hc⟩, fun _ => ?_⟩
    rw [Ne, List.drop_eq_nil_iff]
    omega
  · exact ⟨⟨c, t ++ zeros _, rfl, .inr hc⟩, fun _ => by simp⟩

/-- the value of the digits of a layout -/
def layoutValue (L : PyStr × PyStr × Option ℤ) : ℚ :=
  decimal (L.1 ++ L.2.1) / 10 ^ L.2.1.length * 10 ^ L.2.2.getD 0

theorem scaled (a m n : ℕ) (e f : ℤ) (h : m + e - n = f) :
    ((a * 10 ^ m : ℕ) : ℚ) / 10 ^ n * 10 ^ e = a * 10 ^ f := by
  rw [← h, zpow_sub₀ (by norm_num), zpow_add₀ (by norm_num), zpow_natCast, zpow_natCast]
  push_cast
  ring

theorem scaled_one (a n : ℕ) (e f : ℤ) (h : e - n = f) : (a : ℚ) / 10 ^ n * 10 ^ e = a * 10 ^ f := by
  simpa using scaled a 0 n e f (by simpa using h)

/-- **a layout of the digits `ds` with the point `decpt` places in stands for
`ds * 10^(decpt - len ds)`** -/
theorem layoutValue_layout {ds : PyStr} (hne : ds ≠ []) (P : ℤ) :
    layoutValue (layout ds P) = decimal ds * 10 ^ (P - ds.length) := by
  have hL : 0 < ds.length := List.length_pos.mpr hne
  unfold layout layoutValue
  split_ifs with h1 h2 h3 <;> dsimp only
  · rw [List.take_append_drop, List.length_drop, Option.getD_some]
    exact scaled_one _ _ _ _ (by omega)
  · rw [List.singleton_append, zeros, ← List.cons_append, ← List.replicate_succ, decimal_zeros,
      List.length_append, List.length_replicate, Option.getD_none]
    exact scaled_one _ _ _ _ (by omega)
  · rw [List.take_append_drop, List.length_drop, Option.getD_none]
    exact scaled_one _ _ _ _ (by omega)
  · rw [List.append_assoc, zeros, ← List.replicate_succ', ← zeros, decimal_zeros_right,
      List.length_singleton, Option.getD_none]
    exact scaled _ _ _ _ _ (by omega)

/-- **the layout `repr` prints for a positive double is read as a float, and stands for a
decimal that rounds back to the double** -/
theorem reprDigits_layout {x : ℚ} (hx : 0 < x) (h : round64 x = .fin x) :
    LayoutLead (layout (reprDigits x).1 (reprDigits x).2) ∧
      round64 (layoutValue (layout (reprDigits x).1 (reprDigits x).2)) = .fin x := by
  have hr := shortest_round64 hx h
  set c := (shortest x).1
  set S := stripZeros (digits c)
  have hc : 0 < c := Nat.pos_of_ne_zero fun h0 => by
    rw [h0, Nat.cast_zero, zero_div, round64_zero, PyFloat.fin.injEq] at hr
    exact hx.ne hr
  obtain ⟨d, t, hdt, hd⟩ := digits_head c hc
  obtain ⟨t', ht'⟩ : ∃ t', S = d :: t' := by
    show ∃ t', stripZeros (digits c) = _; rw [hdt]; exact stripZeros_head hd
  obtain ⟨k, hk⟩ := stripZeros_append (digits c)
  have hdec : c = decimal S * 10 ^ k := by rw [← decimal_zeros_right, ← hk, decimal_digits]
  have hlen : (digits c).length = S.length + k := by
    rw [hk, List.length_append, zeros, List.length_replicate]
  refine ⟨by rw [show (reprDigits x).1 = S from rfl, ht']; exact layout_lead hd _, ?_⟩
  rw [layoutValue_layout (by rw [show (reprDigits x).1 = S from rfl, ht']; exact List.cons_ne_nil _ _)]
  convert hr using 2
  calc (decimal S : ℚ) * 10 ^ ((reprDigits x).2 - S.length) = decimal S * 10 ^ k / 10 ^ (shortest x).2 := by
        rw [show (reprDigits x).2 = ((digits c).length : ℤ) - (shortest x).2 from rfl, hlen,
          show ((S.length + k : ℕ) : ℤ) - (shortest x).2 - S.length = (k : ℤ) - (shortest x).2 by
            push_cast; ring, zpow_sub₀ (by norm_num), zpow_natCast, mul_div_assoc]
    _ = c / 10 ^ (shortest x).2 := by rw [hdec]; push_cast; rfl

/-! ## one line of ASCII -/

/-- a printable ASCII character, space to tilde -/
def printable (c : CodePoint) : Bool := 0x20 ≤ c.val && c.val ≤ 0x7e

theorem printable_digit (c : CodePoint) (h : isDigit c = true) : printable c = true := by
  simp only [isDigit, printable, Bool.and_eq_true, decide_eq_true_eq] at h ⊢
  omega

theorem printable_of_all (s : PyStr) (h : s.all printable = true) :
    ∀ x ∈ s, printable x = true :=
  fun x hx => List.all_eq_true.mp h x hx

theorem printable_append {a b : PyStr} (ha : ∀ x ∈ a, printable x = true)
    (hb : ∀ x ∈ b, printable x = true) : ∀ x ∈ a ++ b, printable x = true := fun x hx =>
  (List.mem_append.mp hx).elim (ha x) (hb x)

theorem printable_ite {p : Prop} [Decidable p] {a b : PyStr}
    (ha : p → ∀ x ∈ a, printable x = true) (hb : ¬p → ∀ x ∈ b, printable x = true) :
    ∀ x ∈ (if p then a else b), printable x = true := by
  split
  · exact ha ‹_›
  · exact hb ‹_›

theorem printable_hexPad (w n : Nat) : ∀ c ∈ hexPad w n, printable c = true := by
  have hall : ∀ d < 16, printable (hexDigit d) = true := by decide
  induction w generalizing n with
  | zero => intro c hc; cases hc
  | succ w ih =>
    intro c hc
    rcases List.mem_append.mp hc with hc | hc
    · exact ih _ c hc
    · rw [List.mem_singleton.mp hc]; exact hall _ (Nat.mod_lt _ (by decide))

theorem printable_uEscape (n : Nat) : ∀ x ∈ uEscape n, printable x = true := by
  intro x hx
  rcases List.mem_cons.mp hx with rfl | hx
  · rfl
  rcases List.mem_cons.mp hx with rfl | hx
  · rfl
  exact printable_hexPad 4 n x hx

theorem printable_encodeChar (c : CodePoint) : ∀ x ∈ encodeChar c, printable x = true := by
  unfold encodeChar asciiEscape
  refine printable_ite (fun hs x hx => ?_) fun _ => ?_
  · rw [List.mem_singleton.mp hx]
    simp only [sChar, printable, Bool.and_eq_true, decide_eq_true_eq] at hs ⊢
    exact hs.1.1
  iterate 7 refine printable_ite (fun _ => printable_of_all _ rfl) fun _ => ?_
  refine printable_ite (fun _ x hx => ?_) fun _ => printable_uEscape _
  rcases List.mem_append.mp hx with hx | hx <;> exact printable_uEscape _ x hx

theorem printable_encodeString (s : PyStr) : ∀ x ∈ encodeString s, printable x = true := by
  intro x hx
  simp only [encodeString, List.mem_cons, List.mem_append, List.mem_flatMap, List.mem_singleton,
    List.not_mem_nil, or_false] at hx
  rcases hx with rfl | ⟨c, -, hx⟩ | rfl
  · rfl
  · exact printable_encodeChar c x hx
  · rfl

theorem printable_digits (n : Nat) : ∀ x ∈ digits n, printable x = true :=
  fun x hx => printable_digit x (isDigit_digits n x hx)

theorem printable_sign (p : Prop) [Decidable p] :
    ∀ x ∈ (if p then pyStr "-" else []), printable x = true :=
  printable_ite (fun _ => printable_of_all _ rfl) fun _ x hx => by cases hx

theorem printable_showInt (n : Int) : ∀ x ∈ showInt n, printable x = true := by
  rw [showInt_eq]
  exact printable_append (printable_sign _) (printable_digits _)

theorem printable_expDigits (n : Nat) : ∀ x ∈ expDigits n, printable x = true := by
  unfold expDigits
  refine printable_ite (fun _ x hx => ?_) fun _ => printable_digits n
  rcases List.mem_cons.mp hx with rfl | hx
  exacts [rfl, printable_digits n x hx]

theorem printable_render (L : PyStr × PyStr × Option ℤ) (hi : ∀ x ∈ L.1, isDigit x = true)
    (hf : ∀ x ∈ L.2.1, isDigit x = true) : ∀ x ∈ render L, printable x = true := by
  obtain ⟨i, f, e⟩ := L
  refine printable_append (printable_append (fun x hx => printable_digit x (hi x hx))
    (printable_ite (fun _ x hx => by cases hx) fun _ x hx => ?_)) ?_
  · rcases List.mem_cons.mp hx with rfl | hx
    exacts [rfl, printable_digit x (hf x hx)]
  · match e with
    | none => intro x hx; cases hx
    | some e =>
      refine printable_append (printable_of_all [cp 'e'] rfl) ?_
      refine fun x hx => (List.mem_cons.mp hx).elim (fun h => ?_) (printable_expDigits _ x)
      rw [h]; split <;> rfl

theorem reprDigits_digits (x : ℚ) : ∀ c ∈ (reprDigits x).1, isDigit c = true :=
  stripZeros_digits (isDigit_digits _)

theorem printable_reprLayout (x : ℚ) :
    ∀ c ∈ render (layout (reprDigits x).1 (reprDigits x).2), printable c = true :=
  printable_render _ (layout_digits _ _ (reprDigits_digits x)).1
    (layout_digits _ _ (reprDigits_digits x)).2

theorem printable_floatstr (x : PyFloat) : ∀ c ∈ floatstr x, printable c = true := by
  unfold floatstr
  match x.toDouble with
  | .fin y =>
    unfold reprFinite
    refine printable_ite (fun _ => printable_of_all _ rfl) fun _ => ?_
    refine printable_ite (fun _ c hc => ?_) fun _ => printable_reprLayout y
    rcases List.mem_cons.mp hc with rfl | hc
    exacts [rfl, printable_reprLayout _ c hc]
  | .nan => exact printable_of_all _ rfl
  | .inf true => exact printable_of_all _ rfl
  | .inf false => exact printable_of_all _ rfl

mutual
theorem printable_dumps : ∀ v t, dumps v = .ok t → ∀ x ∈ t, printable x = true
  | .null, _, h | .bool true, _, h | .bool false, _, h | .list [], _, h | .dict [], _, h => by
    cases h; exact printable_of_all _ rfl
  | .int n, t, h => by
    simp only [dumps, intRepr] at h
    split at h
    · cases h
    · cases h; exact printable_showInt n
  | .float x, _, h => by cases h; exact printable_floatstr x
  | .str s, _, h => by cases h; exact printable_encodeString s
  | .list (x :: xs), _, h => by
    obtain ⟨a, ha, h⟩ := bind_eq_ok h
    obtain ⟨b, hb, h⟩ := bind_eq_ok h
    cases h
    exact printable_append (printable_of_all [cp '['] rfl) (printable_append (printable_append
      (printable_dumps x a ha) (printable_dumpsItems xs b hb)) (printable_of_all [cp ']'] rfl))
  | .dict ((k, v) :: kvs), _, h => by
    obtain ⟨a, ha, h⟩ := bind_eq_ok h
    obtain ⟨b, hb, h⟩ := bind_eq_ok h
    cases h
    exact printable_append (printable_of_all [cp '{'] rfl) (printable_append (printable_append
      (printable_append (printable_append (printable_encodeString k)
        (printable_of_all (pyStr ": ") rfl)) (printable_dumps v a ha))
          (printable_dumpsMembers kvs b hb)) (printable_of_all [cp '}'] rfl))

theorem printable_dumpsItems : ∀ xs t, dumpsItems xs = .ok t → ∀ x ∈ t, printable x = true
  | [], _, h => by cases h; intro x hx; cases hx
  | x :: xs, _, h => by
    obtain ⟨a, ha, h⟩ := bind_eq_ok h
    obtain ⟨b, hb, h⟩ := bind_eq_ok h
    cases h
    exact printable_append (printable_append (printable_of_all (pyStr ", ") rfl)
      (printable_dumps x a ha)) (printable_dumpsItems xs b hb)

theorem printable_dumpsMembers : ∀ kvs t, dumpsMembers kvs = .ok t → ∀ x ∈ t, printable x = true
  | [], _, h => by cases h; intro x hx; cases hx
  | (k, v) :: kvs, _, h => by
    obtain ⟨a, ha, h⟩ := bind_eq_ok h
    obtain ⟨b, hb, h⟩ := bind_eq_ok h
    cases h
    exact printable_append (printable_append (printable_append (printable_append
      (printable_of_all (pyStr ", ") rfl) (printable_encodeString k))
        (printable_of_all (pyStr ": ") rfl)) (printable_dumps v a ha))
          (printable_dumpsMembers kvs b hb)
end

end Dumps

end QQ
