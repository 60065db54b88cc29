import QdrantQwen.Py.Json
import Mathlib.Algebra.Order.Field.Power

/-!
# `json.loads`

The bridges read each request line with `json.loads(line.strip())`.  This is CPython's
decoder with its C scanner: whitespace is space, tab, newline and carriage return; besides the
JSON grammar it reads `NaN`, `Infinity` and `-Infinity`; a repeated key keeps its first place
and its last value; a number with a fraction or an exponent is a `float`, any other an `int`,
and `int()` refuses more than 4300 digits (`sys.get_int_max_str_digits()`) with a `ValueError`,
which is not a `JSONDecodeError`.  Every other malformed text raises `JSONDecodeError`; its
text (which also names the line and column) is cut to the reason, since the bridges drop it.

A float is the double nearest to the value of its literal (`float(numstr)`), so `1e400` is
`inf`.  The nesting of arrays and objects is not bounded: CPython's `RecursionError` at about a
thousand levels is left out, and the theorems that read a value back bound its depth
(`maxNesting`).

* `loads`                 `json.loads(s)`;
* `matchNumber_big_int`   an integer literal of more than 4300 digits raises `ValueError`;
* `loads_object_big_int`  and so does an object whose first member is one;
* `loads_error`           and a `JSONDecodeError` is all it raises besides.
-/

namespace QQ

namespace Loads

/-- the whitespace of the decoder -/
def isWs (c : CodePoint) : Bool :=
  c == cp ' ' || c == cp '\t' || c == cp '\n' || c == cp '\r'

/-- skips the decoder's whitespace -/
def ws (s : PyStr) : PyStr := s.dropWhile isWs

/-- an ASCII digit -/
def isDigit (c : CodePoint) : Bool := 48 ≤ c.val && c.val ≤ 57

/-- a `JSONDecodeError`, its text cut to the reason -/
def decodeError (msg : String) : PyExc := ⟨.JSONDecodeError, pyStr msg⟩

/-! ## numbers -/

/-- the value of decimal digits -/
def decimal (ds : PyStr) : Nat := ds.foldl (fun acc c => 10 * acc + (c.val - 48)) 0

/-- the `ValueError` of `int()` on `n` digits, past the default limit of 4300 -/
def intLimitError (n : Nat) : PyExc :=
  ⟨.ValueError, pyStr "Exceeds the limit (4300 digits) for integer string conversion: value has " ++
    showInt n ++ pyStr " digits; use sys.set_int_max_str_digits() to increase the limit"⟩

/-- `int(numstr)` -/
def toInt (neg : Bool) (ds : PyStr) : Except PyExc Json :=
  if 4300 < ds.length then .error (intLimitError ds.length)
  else .ok (.int (if neg then -(decimal ds : Int) else decimal ds))

/-- `float(numstr)`: the double nearest to the value of the literal -/
def toFloat (neg : Bool) (ds frac : PyStr) (expNeg : Bool) (exp : PyStr) : Json :=
  let m : ℚ := decimal (ds ++ frac) / 10 ^ frac.length
  let e : Int := if expNeg then -(decimal exp : Int) else decimal exp
  .float (round64 ((if neg then -m else m) * (10 : ℚ) ^ e))

/-- the integer digits: `0`, or a digit `1-9` and every digit after it -/
def intPart : PyStr → Option (PyStr × PyStr)
  | c :: r =>
    if c = cp '0' then some ([c], r)
    else if isDigit c then some (c :: r.takeWhile isDigit, r.dropWhile isDigit)
    else none
  | [] => none

/-- the fraction digits, read only when a digit follows the point -/
def fracPart : PyStr → PyStr × PyStr
  | p :: d :: r =>
    if p = cp '.' ∧ isDigit d = true then (d :: r.takeWhile isDigit, r.dropWhile isDigit)
    else ([], p :: d :: r)
  | s => ([], s)

/-- the sign of an exponent -/
def expSign : PyStr → Bool × PyStr
  | c :: t => if c = cp '-' then (true, t) else if c = cp '+' then (false, t) else (false, c :: t)
  | [] => (false, [])

/-- `e` or `E`, a sign, the exponent digits; with no digit the scanner backs off to the `e` -/
def expPart : PyStr → Option (Bool × PyStr × PyStr)
  | e :: r =>
    if e = cp 'e' ∨ e = cp 'E' then
      let (neg, t) := expSign r
      if (t.takeWhile isDigit).isEmpty then none
      else some (neg, t.takeWhile isDigit, t.dropWhile isDigit)
    else none
  | [] => none

/-- `_match_number_unicode`: the number at the head of `s` and what follows it -/
def matchNumber (s : PyStr) : Except PyExc (Json × PyStr) :=
  let (neg, s1) := match s with
    | c :: r => if c = cp '-' then (true, r) else (false, c :: r)
    | [] => (false, [])
  match intPart s1 with
  | none => .error (decodeError "Expecting value")
  | some (ds, s2) =>
    let (frac, s3) := fracPart s2
    match expPart s3 with
    | some (expNeg, exp, s4) => .ok (toFloat neg ds frac expNeg exp, s4)
    | none =>
      if frac.isEmpty then do
        let v ← toInt neg ds
        pure (v, s3)
      else .ok (toFloat neg ds frac false [], s3)

/-! ## strings -/

/-- four hex digits of a `\uXXXX` escape -/
def hexWord (a b c d : CodePoint) : Option CodePoint := do
  let v := (((← hexVal a) * 16 + (← hexVal b)) * 16 + (← hexVal c)) * 16 + (← hexVal d)
  pure ⟨v % 0x110000, Nat.mod_lt _ (by decide)⟩

/-- the code point a surrogate pair stands for -/
def joinSurrogates (hi lo : CodePoint) : CodePoint :=
  ⟨(0x10000 + (hi.val - 0xD800) * 0x400 + (lo.val - 0xDC00)) % 0x110000, Nat.mod_lt _ (by decide)⟩

/-- the character of a one-letter escape -/
def simpleEscape (e : CodePoint) : Option CodePoint :=
  if e = cp '"' then some (cp '"')
  else if e = cp '\\' then some (cp '\\')
  else if e = cp '/' then some (cp '/')
  else if e = cp 'b' then some ⟨8, by decide⟩
  else if e = cp 'f' then some ⟨12, by decide⟩
  else if e = cp 'n' then some ⟨10, by decide⟩
  else if e = cp 'r' then some ⟨13, by decide⟩
  else if e = cp 't' then some ⟨9, by decide⟩
  else none

/-- the escape after a backslash: what it stands for, and what follows it.  A high surrogate
escape followed by a low one is joined; any other surrogate escape stays a lone surrogate -/
def escape : PyStr → Except PyExc (PyStr × PyStr)
  | [] => .error (decodeError "Unterminated string starting at")
  | e :: r =>
    if e = cp 'u' then
      match r with
      | a :: b :: c :: d :: t =>
        match hexWord a b c d with
        | none => .error (decodeError "Invalid \\uXXXX escape")
        | some u =>
          if 0xD800 ≤ u.val ∧ u.val ≤ 0xDBFF then
            match t with
            | bs :: uu :: a' :: b' :: c' :: d' :: t' =>
              if bs = cp '\\' ∧ uu = cp 'u' then
                match hexWord a' b' c' d' with
                | none => .error (decodeError "Invalid \\uXXXX escape")
                | some u2 =>
                  if 0xDC00 ≤ u2.val ∧ u2.val ≤ 0xDFFF then .ok ([joinSurrogates u u2], t')
                  else .ok ([u], t)
              else .ok ([u], t)
            | _ => .ok ([u], t)
          else .ok ([u], t)
      | _ => .error (decodeError "Invalid \\uXXXX escape")
    else
      match simpleEscape e with
      | some x => .ok ([x], r)
      | none => .error (decodeError "Invalid \\escape")

theorem escape_shorter {r x t : PyStr} (h : escape r = .ok (x, t)) : t.length < r.length := by
  unfold escape at h
  repeat' split at h
  all_goals cases h
  all_goals simp only [List.length_cons]; omega

/-- `scanstring` from after the opening quote, `acc` holding what was read: the string and
what follows its closing quote -/
def scanString : PyStr → PyStr → Except PyExc (PyStr × PyStr)
  | [], _ => .error (decodeError "Unterminated string starting at")
  | c :: r, acc =>
    if c = cp '"' then .ok (acc, r)
    else if c = cp '\\' then
      match h : escape r with
      | .ok (x, t) => scanString t (acc ++ x)
      | .error e => .error e
    else if c.val < 0x20 then .error (decodeError "Invalid control character at")
    else scanString r (acc ++ [c])
termination_by s => s.length
decreasing_by
  · have := escape_shorter h
    simp only [List.length_cons]
    omega
  · simp only [List.length_cons]
    omega

/-! ## arrays and objects -/

/-- `d[k] = v` on a `dict`: a key already there keeps its place -/
def dictInsert : List (PyStr × Json) → PyStr → Json → List (PyStr × Json)
  | [], k, v => [(k, v)]
  | (k', v') :: kvs, k, v => if k' = k then (k, v) :: kvs else (k', v') :: dictInsert kvs k v

mutual
/-- `scan_once` at the head of `s`; `fuel` bounds the nested calls, each of which reads at least
one character, so that `s.length + 1` is enough -/
def parseValue : Nat → PyStr → Except PyExc (Json × PyStr)
  | 0, _ => .error (decodeError "Expecting value")
  | fuel + 1, s =>
    match s with
    | [] => .error (decodeError "Expecting value")
    | c :: r =>
      if c = cp '"' then do
        let (t, rest) ← scanString r []
        pure (.str t, rest)
      else if c = cp '{' then
        match ws r with
        | d :: t => if d = cp '}' then .ok (.dict [], t) else parseMembers fuel (d :: t) []
        | [] => parseMembers fuel [] []
      else if c = cp '[' then
        match ws r with
        | d :: t => if d = cp ']' then .ok (.list [], t) else parseItems fuel (d :: t) []
        | [] => parseItems fuel [] []
      else if c = cp 'n' ∧ (pyStr "ull").isPrefixOf r then .ok (.null, r.drop 3)
      else if c = cp 't' ∧ (pyStr "rue").isPrefixOf r then .ok (.bool true, r.drop 3)
      else if c = cp 'f' ∧ (pyStr "alse").isPrefixOf r then .ok (.bool false, r.drop 4)
      else if c = cp 'N' ∧ (pyStr "aN").isPrefixOf r then .ok (.float .nan, r.drop 2)
      else if c = cp 'I' ∧ (pyStr "nfinity").isPrefixOf r then .ok (.float (.inf false), r.drop 7)
      else if c = cp '-' ∧ (pyStr "Infinity").isPrefixOf r then
        .ok (.float (.inf true), r.drop 8)
      else matchNumber (c :: r)

/-- the items of an array from its first item on, `acc` holding those read -/
def parseItems : Nat → PyStr → List Json → Except PyExc (Json × PyStr)
  | 0, _, _ => .error (decodeError "Expecting value")
  | fuel + 1, s, acc => do
    let (v, r) ← parseValue fuel s
    match ws r with
    | c :: t =>
      if c = cp ']' then .ok (.list (acc ++ [v]), t)
      else if c = cp ',' then parseItems fuel (ws t) (acc ++ [v])
      else .error (decodeError "Expecting ',' delimiter")
    | [] => .error (decodeError "Expecting ',' delimiter")

/-- the members of an object from its first key on, `acc` holding those read -/
def parseMembers : Nat → PyStr → List (PyStr × Json) → Except PyExc (Json × PyStr)
  | 0, _, _ => .error (decodeError "Expecting value")
  | fuel + 1, s, acc =>
    match s with
    | q :: r =>
      if q = cp '"' then do
        let (key, r) ← scanString r []
        match ws r with
        | c :: t =>
          if c = cp ':' then do
            let (v, r) ← parseValue fuel (ws t)
            match ws r with
            | d :: t' =>
              if d = cp '}' then .ok (.dict (dictInsert acc key v), t')
              else if d = cp ',' then parseMembers fuel (ws t') (dictInsert acc key v)
              else .error (decodeError "Expecting ',' delimiter")
            | [] => .error (decodeError "Expecting ',' delimiter")
          else .error (decodeError "Expecting ':' delimiter")
        | [] => .error (decodeError "Expecting ':' delimiter")
      else .error (decodeError "Expecting property name enclosed in double quotes")
    | [] => .error (decodeError "Expecting property name enclosed in double quotes")
end

/-- `json.loads(s)` -/
def loads (s : PyStr) : Except PyExc Json :=
  if s.head? = some ⟨0xFEFF, by decide⟩ then
    .error (decodeError "Unexpected UTF-8 BOM (decode using utf-8-sig)")
  else do
    let (v, rest) ← parseValue (s.length + 1) (ws s)
    if (ws rest).isEmpty then pure v else .error (decodeError "Extra data")

/-! ## the scanner, step by step -/

theorem ws_cons (c : CodePoint) (r : PyStr) (h : isWs c = false) : ws (c :: r) = c :: r :=
  List.dropWhile_cons_of_neg (by rw [h]; decide)

theorem scanString_quote (r acc : PyStr) : scanString (cp '"' :: r) acc = .ok (acc, r) := by
  rw [scanString.eq_def]
  exact if_pos rfl

/-- a plain character is read as it is -/
theorem scanString_char (c : CodePoint) (r acc : PyStr) (h1 : c ≠ cp '"') (h2 : c ≠ cp '\\')
    (h3 : 0x20 ≤ c.val) : scanString (c :: r) acc = scanString r (acc ++ [c]) := by
  rw [scanString.eq_def]
  simp only
  rw [if_neg h1, if_neg h2, if_neg (by omega)]

/-- a digit starts a number -/
theorem parseValue_digit (fuel : Nat) (c : CodePoint) (r : PyStr) (hc : isDigit c = true) :
    parseValue (fuel + 1) (c :: r) = matchNumber (c :: r) := by
  have hne : ∀ x, isDigit x = false → c ≠ x := fun x hx h => by
    rw [h] at hc
    rw [hc] at hx
    cases hx
  simp only [parseValue]
  rw [if_neg (hne (cp '"') rfl), if_neg (hne (cp '{') rfl), if_neg (hne (cp '[') rfl),
    if_neg fun h => hne (cp 'n') rfl h.1, if_neg fun h => hne (cp 't') rfl h.1,
    if_neg fun h => hne (cp 'f') rfl h.1, if_neg fun h => hne (cp 'N') rfl h.1,
    if_neg fun h => hne (cp 'I') rfl h.1, if_neg fun h => hne (cp '-') rfl h.1]

theorem takeWhile_digits (ds rest : PyStr) (hds : ∀ c ∈ ds, isDigit c = true)
    (hr : ∀ c ∈ rest.head?, isDigit c = false) :
    (ds ++ rest).takeWhile isDigit = ds ∧ (ds ++ rest).dropWhile isDigit = rest := by
  rw [List.takeWhile_append_of_pos hds, List.dropWhile_append_of_pos hds]
  cases rest with
  | nil => simp
  | cons c r =>
    have hc := hr c rfl
    simp [List.takeWhile_cons, List.dropWhile_cons, hc]

/-- **an integer literal of more than 4300 digits raises `ValueError`** -/
theorem matchNumber_big_int (d : CodePoint) (ds rest : PyStr) (hd : isDigit d = true)
    (h0 : d ≠ cp '0') (hds : ∀ c ∈ ds, isDigit c = true)
    (hr : ∀ c ∈ rest.head?, isDigit c = false ∧ c ≠ cp '.' ∧ c ≠ cp 'e' ∧ c ≠ cp 'E')
    (hlen : 4300 < ds.length + 1) :
    matchNumber (d :: (ds ++ rest)) = .error (intLimitError (ds.length + 1)) := by
  have hminus : d ≠ cp '-' := fun h => by rw [h] at hd; cases hd
  obtain ⟨ht, hdrop⟩ := takeWhile_digits ds rest hds fun c hc => (hr c hc).1
  have hint : intPart (d :: (ds ++ rest)) = some (d :: ds, rest) := by
    simp only [intPart, if_neg h0, hd, if_true, ht, hdrop]
  have hfrac : fracPart rest = ([], rest) := by
    match rest, hr with
    | [], _ => rfl
    | [_], _ => rfl
    | p :: q :: t, hr => exact if_neg fun h => (hr p rfl).2.1 h.1
  have hexp : expPart rest = none := by
    match rest, hr with
    | [], _ => rfl
    | e :: t, hr => exact if_neg fun h => h.elim (hr e rfl).2.2.1 (hr e rfl).2.2.2
  simp only [matchNumber, if_neg hminus, hint, hfrac, hexp, List.isEmpty_nil, if_true, toInt,
    List.length_cons, if_pos hlen, error_bind]

/-- a run of plain characters is read up to the closing quote -/
theorem scanString_plain (key r acc : PyStr)
    (hkey : ∀ c ∈ key, c ≠ cp '"' ∧ c ≠ cp '\\' ∧ 0x20 ≤ c.val) :
    scanString (key ++ cp '"' :: r) acc = .ok (acc ++ key, r) := by
  induction key generalizing acc with
  | nil => simpa using scanString_quote r acc
  | cons c key ih =>
    obtain ⟨h1, h2, h3⟩ := hkey c (List.mem_cons_self c key)
    rw [List.cons_append, scanString_char c _ acc h1 h2 h3,
      ih _ fun x hx => hkey x (List.mem_cons_of_mem c hx), List.append_assoc, List.singleton_append]

/-- an object is read member by member -/
theorem parseValue_object (fuel : Nat) (d : CodePoint) (t : PyStr) (hd : isWs d = false)
    (h : d ≠ cp '}') : parseValue (fuel + 1) (cp '{' :: d :: t) = parseMembers fuel (d :: t) [] := by
  simp only [parseValue, if_neg (by decide : cp '{' ≠ cp '"'), eq_self_iff_true, if_true,
    ws_cons d t hd, if_neg h]

/-- a member whose value raises makes the object raise -/
theorem parseMembers_value_error (fuel : Nat) (key r : PyStr) (acc : List (PyStr × Json))
    (hkey : ∀ c ∈ key, c ≠ cp '"' ∧ c ≠ cp '\\' ∧ 0x20 ≤ c.val) (e : PyExc)
    (h : parseValue fuel (ws r) = .error e) :
    parseMembers (fuel + 1) (cp '"' :: (key ++ cp '"' :: cp ':' :: r)) acc = .error e := by
  simp only [parseMembers, eq_self_iff_true, if_true, scanString_plain key _ [] hkey, ok_bind,
    List.nil_append, ws_cons (cp ':') r rfl, h, error_bind]

/-- **an object whose first member is an integer literal of more than 4300 digits raises the
`ValueError` of `int()`**, though the text is JSON -/
theorem loads_object_big_int (key : PyStr) (d : CodePoint) (ds rest : PyStr)
    (hkey : ∀ c ∈ key, c ≠ cp '"' ∧ c ≠ cp '\\' ∧ 0x20 ≤ c.val) (hd : isDigit d = true)
    (h0 : d ≠ cp '0') (hds : ∀ c ∈ ds, isDigit c = true) (hlen : 4300 < ds.length + 1) :
    loads (cp '{' :: cp '"' :: (key ++ cp '"' :: cp ':' :: d :: (ds ++ cp '}' :: rest))) =
      .error (intLimitError (ds.length + 1)) := by
  have hd_ws : isWs d = false := by
    have hval : 48 ≤ d.val ∧ d.val ≤ 57 := by simpa [isDigit] using hd
    have hne : d ≠ cp ' ' ∧ d ≠ cp '\t' ∧ d ≠ cp '\n' ∧ d ≠ cp '\r' := by
      refine ⟨?_, ?_, ?_, ?_⟩ <;> rintro rfl <;> revert hval <;> decide
    simp [isWs, hne]
  have hvalue : parseValue (key.length + ds.length + rest.length + 4 + 1)
      (ws (d :: (ds ++ cp '}' :: rest))) = .error (intLimitError (ds.length + 1)) := by
    rw [ws_cons d _ hd_ws, parseValue_digit _ d _ hd]
    exact matchNumber_big_int d ds (cp '}' :: rest) hd h0 hds (fun c hc => by cases hc; decide) hlen
  have hfuel : (cp '{' :: cp '"' :: (key ++ cp '"' :: cp ':' :: d :: (ds ++ cp '}' :: rest))).length
      + 1 = key.length + ds.length + rest.length + 4 + 1 + 1 + 1 := by
    simp only [List.length_cons, List.length_append]
    omega
  unfold loads
  rw [List.head?_cons, if_neg (by decide), ws_cons (cp '{') _ rfl, hfuel,
    parseValue_object _ (cp '"') _ rfl (by decide), parseMembers_value_error _ key _ [] hkey _ hvalue,
    error_bind]

/-! ## what `json.loads` raises -/

/-- an exception `json.loads` may raise: a `JSONDecodeError`, or the `ValueError` of `int()` on
more than 4300 digits -/
def LoadsError (e : PyExc) : Prop :=
  e.kind = .JSONDecodeError ∨ ∃ n, 4300 < n ∧ e = intLimitError n

theorem decodeError_loadsError (msg : String) : LoadsError (decodeError msg) := .inl rfl

theorem decodeError_eq {α : Type} {msg : String} {e : PyExc}
    (h : (Except.error (decodeError msg) : Except PyExc α) = .error e) : LoadsError e := by
  cases h
  exact decodeError_loadsError msg

theorem escape_error {r : PyStr} {e : PyExc} (h : escape r = .error e) :
    e.kind = .JSONDecodeError := by
  unfold escape at h
  repeat' split at h
  all_goals first | (cases h; rfl) | cases h

theorem scanString_error (s acc : PyStr) (e : PyExc) (h : scanString s acc = .error e) :
    e.kind = .JSONDecodeError := by
  induction s, acc using scanString.induct with
  | case1 acc => rw [scanString.eq_def] at h; cases h; rfl
  | case2 r acc => rw [scanString_quote] at h; cases h
  | case3 r acc x t hx _ ih =>
    rw [scanString.eq_def] at h
    simp only [if_neg (by decide : cp '\\' ≠ cp '"'), eq_self_iff_true, if_true] at h
    split at h
    · next x' t' hx' =>
      rw [hx] at hx'
      cases hx'
      exact ih h
    · next e' he => rw [hx] at he; cases he
  | case4 r acc e' he _ =>
    rw [scanString.eq_def] at h
    simp only [if_neg (by decide : cp '\\' ≠ cp '"'), eq_self_iff_true, if_true] at h
    split at h
    · next x' t' hx' => rw [he] at hx'; cases hx'
    · next e'' he' => rw [he] at he'; cases he'; cases h; exact escape_error he
  | case5 c r acc h1 h2 h3 =>
    rw [scanString.eq_def] at h
    simp only [if_neg h1, if_neg h2, if_pos h3] at h
    cases h; rfl
  | case6 c r acc h1 h2 h3 ih => rw [scanString_char c r acc h1 h2 (by omega)] at h; exact ih h

theorem toInt_error {neg : Bool} {ds : PyStr} {e : PyExc} (h : toInt neg ds = .error e) :
    LoadsError e := by
  unfold toInt at h
  split_ifs at h with hl
  cases h
  exact .inr ⟨_, hl, rfl⟩

theorem matchNumber_error {s : PyStr} {e : PyExc} (h : matchNumber s = .error e) :
    LoadsError e := by
  unfold matchNumber at h
  repeat' split at h
  all_goals first
    | exact decodeError_eq h
    | cases h
    | (rcases bind_eq_error h with h | ⟨_, -, h⟩
       · exact toInt_error h
       · cases h)

theorem ite_error {α : Type} {p : Prop} [Decidable p] {x y : Except PyExc α} {e : PyExc}
    (h : (if p then x else y) = .error e) : x = .error e ∨ y = .error e := by
  by_cases hp : p
  · exact .inl (by rwa [if_pos hp] at h)
  · exact .inr (by rwa [if_neg hp] at h)

theorem ite_ok_error {α : Type} {p : Prop} [Decidable p] {a : α} {y : Except PyExc α} {e : PyExc}
    (h : (if p then .ok a else y) = .error e) : y = .error e :=
  (ite_error h).resolve_left fun h => by cases h

section parse

variable (fuel : Nat)

/-- one level of `parseValue`: it raises what a string, a nested array or object, or a number
raises -/
theorem parseValue_error_step
    (hi : ∀ s acc e, parseItems fuel s acc = .error e → LoadsError e)
    (hm : ∀ s acc e, parseMembers fuel s acc = .error e → LoadsError e)
    (s : PyStr) (e : PyExc) (h : parseValue (fuel + 1) s = .error e) : LoadsError e := by
  cases s with
  | nil => exact decodeError_eq h
  | cons c r =>
    rw [parseValue] at h
    rcases ite_error h with h | h
    · rcases bind_eq_error h with h | ⟨⟨_, _⟩, -, h⟩
      · exact .inl (scanString_error _ _ _ h)
      · cases h
    rcases ite_error h with h | h
    · split at h
      · exact hm _ _ _ (ite_ok_error h)
      · exact hm _ _ _ h
    rcases ite_error h with h | h
    · split at h
      · exact hi _ _ _ (ite_ok_error h)
      · exact hi _ _ _ h
    repeat replace h := ite_ok_error h
    exact matchNumber_error h

/-- one level of `parseItems` -/
theorem parseItems_error_step
    (hv : ∀ s e, parseValue fuel s = .error e → LoadsError e)
    (hi : ∀ s acc e, parseItems fuel s acc = .error e → LoadsError e)
    (s : PyStr) (acc : List Json) (e : PyExc) (h : parseItems (fuel + 1) s acc = .error e) :
    LoadsError e := by
  rw [parseItems] at h
  rcases bind_eq_error h with h | ⟨⟨_, _⟩, -, h⟩
  · exact hv _ _ h
  dsimp only at h
  split at h
  · replace h := ite_ok_error h
    rcases ite_error h with h | h
    · exact hi _ _ _ h
    · exact decodeError_eq h
  · exact decodeError_eq h

/-- one level of `parseMembers` -/
theorem parseMembers_error_step
    (hv : ∀ s e, parseValue fuel s = .error e → LoadsError e)
    (hm : ∀ s acc e, parseMembers fuel s acc = .error e → LoadsError e)
    (s : PyStr) (acc : List (PyStr × Json)) (e : PyExc)
    (h : parseMembers (fuel + 1) s acc = .error e) : LoadsError e := by
  cases s with
  | nil => exact decodeError_eq h
  | cons q r =>
    rw [parseMembers] at h
    rcases ite_error h with h | h
    · rcases bind_eq_error h with h | ⟨⟨_, _⟩, -, h⟩
      · exact .inl (scanString_error _ _ _ h)
      dsimp only at h
      split at h
      · rcases ite_error h with h | h
        · rcases bind_eq_error h with h | ⟨⟨_, _⟩, -, h⟩
          · exact hv _ _ h
          dsimp only at h
          split at h
          · replace h := ite_ok_error h
            rcases ite_error h with h | h
            · exact hm _ _ _ h
            · exact decodeError_eq h
          · exact decodeError_eq h
        · exact decodeError_eq h
      · exact decodeError_eq h
    · exact decodeError_eq h

end parse

theorem parse_error (fuel : Nat) :
    (∀ s e, parseValue fuel s = .error e → LoadsError e) ∧
    (∀ s acc e, parseItems fuel s acc = .error e → LoadsError e) ∧
    (∀ s acc e, parseMembers fuel s acc = .error e → LoadsError e) := by
  induction fuel with
  | zero =>
    refine ⟨fun _ _ h => ?_, fun _ _ _ h => ?_, fun _ _ _ h => ?_⟩ <;>
      (simp only [parseValue, parseItems, parseMembers] at h; exact decodeError_eq h)
  | succ fuel ih =>
    obtain ⟨hv, hi, hm⟩ := ih
    exact ⟨parseValue_error_step fuel hi hm, parseItems_error_step fuel hv hi,
      parseMembers_error_step fuel hv hm⟩

/-- **`json.loads` raises a `JSONDecodeError`, or the `ValueError` of an integer of more than
4300 digits, and nothing else** -/
theorem loads_error (s : PyStr) (e : PyExc) (h : loads s = .error e) : LoadsError e := by
  unfold loads at h
  split_ifs at h
  · exact decodeError_eq h
  · rcases bind_eq_error h with h | ⟨⟨_, _⟩, -, h⟩
    · exact (parse_error _).1 _ _ h
    · dsimp only at h
      split_ifs at h
      · cases h
      · exact decodeError_eq h

end Loads

end QQ
