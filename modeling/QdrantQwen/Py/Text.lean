import Mathlib.Data.List.Basic
import Mathlib.Tactic.Ring

/-!
# Python text: code-point strings, exceptions, `str.strip`, `str.encode`, `int(s, 16)`

A Python `str` is a sequence of code points below `0x110000`, lone surrogates included:
`json.loads` turns the escape `\ud800` of a request body into one.  Lean's `Char` leaves the
surrogates out, so a Python string is modelled as a list of `CodePoint`s.

* `PyStr`, `pyStr`    a Python string, and a Lean literal read as one;
* `PyExc`             a raised exception: its class and its text `str(e)`;
* `strip`, `split`    `str.strip()` and `str.split()`, with the whitespace of `str.isspace`;
* `encode`            `str.encode('utf-8')` with the default strict error handler;
* `intBase16`         `int(s, 16)`;
* `encode_ok_iff`     encoding succeeds exactly on the strings without a surrogate;
* `intBase16_hex`     `int(s, 16)` of a non-empty string of hex digits is its value.
-/

namespace QQ

/-! ## strings -/

/-- a Unicode code point, the element of a Python `str` -/
abbrev CodePoint := Fin 0x110000

/-- a Python `str` -/
abbrev PyStr := List CodePoint

theorem char_toNat_lt (c : Char) : c.toNat < 0x110000 := by
  have h := c.valid
  simp only [UInt32.isValidChar, Nat.isValidChar] at h
  show c.val.toNat < _
  omega

/-- the code point of a Lean character -/
def cp (c : Char) : CodePoint := ⟨c.toNat, char_toNat_lt c⟩

/-- a Lean string literal as a Python `str` -/
def pyStr (s : String) : PyStr := s.toList.map cp

instance : Coe String PyStr := ⟨pyStr⟩

/-- `str(n)` of a Python `int` -/
def showInt (n : Int) : PyStr := pyStr (toString n)

/-- the lower-case hexadecimal digit of `d < 16` -/
def hexDigit (d : Nat) : CodePoint :=
  ⟨(if d < 10 then 48 + d else 87 + d) % 0x110000, Nat.mod_lt _ (by decide)⟩

/-- the value of a hexadecimal digit, either case -/
def hexVal (c : CodePoint) : Option Nat :=
  if 48 ≤ c.val ∧ c.val ≤ 57 then some (c.val - 48)
  else if 97 ≤ c.val ∧ c.val ≤ 102 then some (c.val - 87)
  else if 65 ≤ c.val ∧ c.val ≤ 70 then some (c.val - 55)
  else none

/-- `n` as `w` lower-case hex digits (the low `w` digits) -/
def hexPad : Nat → Nat → PyStr
  | 0, _ => []
  | w + 1, n => hexPad w (n / 16) ++ [hexDigit (n % 16)]

theorem hexVal_hexDigit (d : Nat) (h : d < 16) : hexVal (hexDigit d) = some d := by
  unfold hexDigit hexVal
  by_cases hd : d < 10
  · simp only [hd, if_true, Nat.mod_eq_of_lt (show 48 + d < 0x110000 by omega)]
    rw [if_pos (by omega)]
    congr 1
    omega
  · simp only [hd, if_false, Nat.mod_eq_of_lt (show 87 + d < 0x110000 by omega)]
    rw [if_neg (by omega), if_pos (by omega)]
    congr 1
    omega

/-! ## exceptions -/

/-- the class of a raised exception, as far as an `except` clause of the code tells them
apart -/
inductive ExcKind where
  | ValueError
  | JSONDecodeError
  | TypeError
  | AttributeError
  | KeyError
  | IndexError
  | UnicodeEncodeError
  | ImportError
  | OverflowError
  /-- `fastapi.HTTPException(status_code, detail)` -/
  | HTTPException (status : Nat) (detail : PyStr)
  /-- an exception of `requests` (connection error, timeout, `raise_for_status`) -/
  | RequestException
  /-- an exception of `aiohttp` (connection error, timeout, content type of `json()`) -/
  | ClientError
  /-- `Exception(msg)` raised by the code itself -/
  | Exception
  deriving DecidableEq

/-- a raised exception: its class and `str(e)` -/
structure PyExc where
  kind : ExcKind
  msg : PyStr
  deriving DecidableEq

/-- `HTTPException(status, detail)`; starlette prints it as `"{status}: {detail}"` -/
def PyExc.http (status : Nat) (detail : PyStr) : PyExc :=
  ⟨.HTTPException status detail, showInt status ++ pyStr ": " ++ detail⟩

@[simp] theorem ok_bind {α β : Type} (a : α) (f : α → Except PyExc β) :
    (Except.ok a >>= f) = f a := rfl

@[simp] theorem error_bind {α β : Type} (e : PyExc) (f : α → Except PyExc β) :
    (Except.error e >>= f : Except PyExc β) = .error e := rfl

/-- a computation that succeeded ran every step it binds -/
theorem bind_eq_ok {α β : Type} {x : Except PyExc α} {f : α → Except PyExc β} {r : β}
    (h : (x >>= f) = .ok r) : ∃ a, x = .ok a ∧ f a = .ok r := by
  cases x with
  | error e => cases h
  | ok a => exact ⟨a, rfl, h⟩

/-- a computation that raised raised in a step it binds -/
theorem bind_eq_error {α β : Type} {x : Except PyExc α} {f : α → Except PyExc β} {e : PyExc}
    (h : (x >>= f) = .error e) : x = .error e ∨ ∃ a, x = .ok a ∧ f a = .error e := by
  cases x with
  | error e' => exact .inl (by cases h; rfl)
  | ok a => exact .inr ⟨a, rfl, h⟩

/-! ## `str.strip()`, `str.split()` -/

/-- `str.isspace()` of one code point -/
def isSpace (c : CodePoint) : Bool :=
  (9 ≤ c.val && c.val ≤ 13) || (28 ≤ c.val && c.val ≤ 32) || c.val == 0x85 ||
  c.val == 0xA0 || c.val == 0x1680 || (0x2000 ≤ c.val && c.val ≤ 0x200A) ||
  c.val == 0x2028 || c.val == 0x2029 || c.val == 0x202F || c.val == 0x205F || c.val == 0x3000

/-- `str.strip()` -/
def strip (s : PyStr) : PyStr := ((s.dropWhile isSpace).reverse.dropWhile isSpace).reverse

/-- a text that starts and ends with a non-space is its own `strip()` -/
theorem strip_eq_self (c e : CodePoint) (m : PyStr) (hc : isSpace c = false)
    (he : isSpace e = false) : strip (c :: (m ++ [e])) = c :: (m ++ [e]) := by
  have hrev : (c :: (m ++ [e])).reverse = e :: (m.reverse ++ [c]) := by simp
  rw [strip, List.dropWhile_cons_of_neg (by simp [hc]), hrev,
    List.dropWhile_cons_of_neg (by simp [he])]
  simp

/-- `s.split()`: the runs of non-whitespace code points -/
def split (s : PyStr) : List PyStr := (s.splitOnP isSpace).filter fun w => !w.isEmpty

/-! ## `str.encode('utf-8')` -/

/-- a UTF-16 surrogate, which UTF-8 cannot encode -/
def isSurrogate (c : CodePoint) : Bool := 0xD800 ≤ c.val && c.val ≤ 0xDFFF

/-- the UTF-8 bytes of a code point that is not a surrogate -/
def utf8 (c : CodePoint) : List UInt8 :=
  if c.val < 0x80 then [c.val.toUInt8]
  else if c.val < 0x800 then [(0xC0 + c.val / 64).toUInt8, (0x80 + c.val % 64).toUInt8]
  else if c.val < 0x10000 then
    [(0xE0 + c.val / 4096).toUInt8, (0x80 + c.val / 64 % 64).toUInt8,
      (0x80 + c.val % 64).toUInt8]
  else
    [(0xF0 + c.val / 262144).toUInt8, (0x80 + c.val / 4096 % 64).toUInt8,
      (0x80 + c.val / 64 % 64).toUInt8, (0x80 + c.val % 64).toUInt8]

/-- the `UnicodeEncodeError` of the strict UTF-8 codec at the surrogate in position `i`:
CPython reports the whole run of surrogates that starts there -/
def encodeError (s : PyStr) (i : Nat) : PyExc :=
  let run := ((s.drop i).takeWhile isSurrogate).length
  let what : PyStr :=
    if run = 1 then
      pyStr "character '\\u" ++ hexPad 4 ((s.drop i).headD 0).val ++ pyStr "' in position " ++
        showInt i
    else pyStr "characters in position " ++ showInt i ++ pyStr "-" ++ showInt (i + run - 1)
  ⟨.UnicodeEncodeError,
    pyStr "'utf-8' codec can't encode " ++ what ++ pyStr ": surrogates not allowed"⟩

/-- `s.encode('utf-8')` (also `s.encode()`): strict, so the first surrogate raises -/
def encode (s : PyStr) : Except PyExc (List UInt8) :=
  match s.findIdx? isSurrogate with
  | some i => .error (encodeError s i)
  | none => .ok (s.flatMap utf8)

/-- a Lean literal has no surrogate: `Char` leaves them out -/
theorem pyStr_no_surrogate (t : String) : ∀ c ∈ pyStr t, isSurrogate c = false := by
  intro c hc
  obtain ⟨ch, -, rfl⟩ := List.mem_map.mp hc
  have h := ch.valid
  simp only [UInt32.isValidChar, Nat.isValidChar] at h
  simp only [isSurrogate, cp, Char.toNat, Bool.and_eq_false_imp, decide_eq_true_eq,
    decide_eq_false_iff_not, not_le]
  omega

theorem encode_eq_ok (s : PyStr) (h : ∀ c ∈ s, isSurrogate c = false) :
    encode s = .ok (s.flatMap utf8) := by
  have hn : s.findIdx? isSurrogate = none := by
    rw [List.findIdx?_eq_none_iff]
    exact h
  simp [encode, hn]

theorem encode_error_kind {s : PyStr} {e : PyExc} (h : encode s = .error e) :
    e.kind = .UnicodeEncodeError := by
  unfold encode at h
  split at h <;> cases h
  rfl

theorem encode_eq_error (s : PyStr) (c : CodePoint) (hc : c ∈ s) (h : isSurrogate c = true) :
    ∃ i, encode s = .error (encodeError s i) := by
  cases hi : s.findIdx? isSurrogate with
  | none =>
    rw [List.findIdx?_eq_none_iff] at hi
    exact absurd (hi c hc) (by simp [h])
  | some i => exact ⟨i, by simp [encode, hi]⟩

/-- **strict UTF-8 encoding succeeds exactly on the strings without a surrogate** -/
theorem encode_ok_iff (s : PyStr) :
    (∃ b, encode s = .ok b) ↔ ∀ c ∈ s, isSurrogate c = false := by
  constructor
  · rintro ⟨b, hb⟩ c hc
    cases h : isSurrogate c
    · rfl
    · obtain ⟨i, hi⟩ := encode_eq_error s c hc h
      rw [hi] at hb
      cases hb
  · exact fun h => ⟨_, encode_eq_ok s h⟩

/-! ## `int(s, 16)` -/

/-- the digits after the first one: hex digits, a single `_` before any of them (`us`: the
last character read was `_`) -/
def hexTail : PyStr → Bool → Nat → Option Nat
  | [], us, acc => if us then none else some acc
  | c :: cs, us, acc =>
    match hexVal c with
    | some d => hexTail cs false (16 * acc + d)
    | none => if c = cp '_' ∧ us = false then hexTail cs true acc else none

/-- a non-empty run of hex digits with single `_` between them -/
def hexBody : PyStr → Option Nat
  | [] => none
  | c :: cs => (hexVal c).bind (hexTail cs false)

/-- the sign of an `int` literal and what follows it -/
def intSign : PyStr → Bool × PyStr
  | c :: cs => if c = cp '-' then (true, cs) else if c = cp '+' then (false, cs) else (false, c :: cs)
  | [] => (false, [])

/-- drops the optional prefix `0x` of base 16, with one `_` after it -/
def dropHexPrefix : PyStr → PyStr
  | z :: x :: r =>
    if z = cp '0' ∧ (x = cp 'x' ∨ x = cp 'X') then
      match r with
      | c :: r' => if c = cp '_' then r' else c :: r'
      | [] => []
    else z :: x :: r
  | u => u

/-- `int(s, 16)`: whitespace around, a sign, the prefix `0x`, digits with single `_` between
them; anything else raises `ValueError` (CPython also reads non-ASCII decimal digits, which no
caller here passes) -/
def intBase16 (s : PyStr) : Except PyExc Int :=
  let (neg, u) := intSign (strip s)
  match hexBody (dropHexPrefix u) with
  | some v => .ok (if neg then -(v : Int) else v)
  | none => .error ⟨.ValueError,
      pyStr "invalid literal for int() with base 16: '" ++ s ++ pyStr "'"⟩

/-- the value of a string of hex digits -/
def hexNat (s : PyStr) : Nat := s.foldl (fun acc c => 16 * acc + (hexVal c).getD 0) 0

/-- a string of hex digits: every character is one -/
def IsHex (s : PyStr) : Prop := ∀ c ∈ s, (hexVal c).isSome = true

instance : DecidablePred IsHex := fun s => inferInstanceAs (Decidable (∀ c ∈ s, _))

theorem hexVal_lt {c : CodePoint} {d : Nat} (h : hexVal c = some d) : d < 16 := by
  unfold hexVal at h
  split at h
  · cases h; omega
  · split at h
    · cases h; omega
    · split at h
      · cases h; omega
      · cases h

theorem hexNat_lt (s : PyStr) (h : IsHex s) : hexNat s < 16 ^ s.length := by
  suffices ∀ acc, s.foldl (fun acc c => 16 * acc + (hexVal c).getD 0) acc < (acc + 1) * 16 ^ s.length
    by simpa [hexNat] using this 0
  induction s with
  | nil => intro acc; simp
  | cons c cs ih =>
    intro acc
    obtain ⟨d, hd⟩ := Option.isSome_iff_exists.mp (h c (List.mem_cons_self _ _))
    have hd16 := hexVal_lt hd
    have := ih (fun x hx => h x (List.mem_cons_of_mem _ hx)) (16 * acc + d)
    rw [List.foldl_cons, hd, Option.getD_some, List.length_cons, Nat.pow_succ]
    calc _ < (16 * acc + d + 1) * 16 ^ cs.length := this
      _ ≤ 16 * (acc + 1) * 16 ^ cs.length := Nat.mul_le_mul_right _ (by omega)
      _ = (acc + 1) * (16 ^ cs.length * 16) := by ring

theorem hexTail_hex (s : PyStr) (acc : Nat) (h : IsHex s) :
    hexTail s false acc = some (s.foldl (fun acc c => 16 * acc + (hexVal c).getD 0) acc) := by
  induction s generalizing acc with
  | nil => rfl
  | cons c cs ih =>
    obtain ⟨d, hd⟩ := Option.isSome_iff_exists.mp (h c (List.mem_cons_self _ _))
    simp only [hexTail, hd, List.foldl_cons, Option.getD_some]
    exact ih _ fun x hx => h x (List.mem_cons_of_mem _ hx)

theorem isSpace_of_hex (c : CodePoint) (h : (hexVal c).isSome = true) : isSpace c = false := by
  have hc : 48 ≤ c.val ∧ c.val ≤ 102 := by
    unfold hexVal at h
    split at h
    · omega
    · split at h
      · omega
      · split at h
        · omega
        · cases h
  simp only [isSpace, Bool.or_eq_false_iff, Bool.and_eq_false_imp, decide_eq_true_eq,
    beq_eq_false_iff_ne, decide_eq_false_iff_not, not_le]
  omega

theorem hex_ne_of_lt {c : CodePoint} (h : (hexVal c).isSome = true) (n : Nat) (hn : n < 48) :
    c.val ≠ n := by
  unfold hexVal at h
  split at h
  · omega
  · split at h
    · omega
    · split at h
      · omega
      · cases h

theorem hex_ne_x {c : CodePoint} (h : (hexVal c).isSome = true) : c ≠ cp 'x' ∧ c ≠ cp 'X' := by
  constructor <;> rintro rfl <;> revert h <;> decide

theorem dropWhile_space_hex (s : PyStr) (h : IsHex s) : s.dropWhile isSpace = s := by
  cases s with
  | nil => rfl
  | cons c cs => simp [List.dropWhile, isSpace_of_hex c (h c (List.mem_cons_self _ _))]

theorem strip_hex (s : PyStr) (h : IsHex s) : strip s = s := by
  have hr : IsHex s.reverse := fun c hc => h c (List.mem_reverse.mp hc)
  rw [strip, dropWhile_space_hex s h, dropWhile_space_hex _ hr, List.reverse_reverse]

/-- **`int(s, 16)` reads a non-empty string of hex digits as its value: it never raises
there** -/
theorem intBase16_hex (s : PyStr) (hs : s ≠ []) (h : IsHex s) :
    intBase16 s = .ok (hexNat s) := by
  obtain ⟨c, cs, rfl⟩ := List.exists_cons_of_ne_nil hs
  have hc := h c (List.mem_cons_self _ _)
  have hcs : IsHex cs := fun x hx => h x (List.mem_cons_of_mem _ hx)
  have hsign : intSign (c :: cs) = (false, c :: cs) := by
    have h1 := hex_ne_of_lt hc 45 (by omega)
    have h2 := hex_ne_of_lt hc 43 (by omega)
    simp only [intSign, cp, Char.toNat]
    rw [if_neg (fun e => h1 (by rw [e]; rfl)), if_neg (fun e => h2 (by rw [e]; rfl))]
  have hpre : dropHexPrefix (c :: cs) = c :: cs := by
    cases cs with
    | nil => rfl
    | cons x r =>
      have hx := hex_ne_x (hcs x (List.mem_cons_self _ _))
      simp only [dropHexPrefix]
      rw [if_neg (by tauto)]
  obtain ⟨d, hd⟩ := Option.isSome_iff_exists.mp hc
  simp only [intBase16, strip_hex _ h, hsign, hpre, hexBody, hd, Option.bind_some,
    hexTail_hex cs _ hcs, hexNat, List.foldl_cons, Option.getD_some, Nat.mul_zero,
    Nat.zero_add]
  rfl

end QQ
