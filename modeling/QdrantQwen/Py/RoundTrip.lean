import QdrantQwen.Py.Dumps

/-!
# `json.loads` of what `json.dumps` wrote

A client of the bridges reads each answer line back with `json.loads`.  It gets the value the
bridge printed, whenever that value is `plain`: `json.dumps` succeeds on it, and the decoder
undoes every escape of the encoder, reads back the digits of every `int`, reads the `repr` of
every double as a literal whose nearest double is that double, and rebuilds each object member
by member.  Outside `plain` the round trip fails in the model as in CPython: an `int` past 4300
digits is refused by `json.dumps`, two lone surrogates written one after the other come back
joined, and a repeated key keeps one value.

The proof follows the decoder: one lemma per escape form of the encoder, one per kind of
number, then `parseValue`, `parseItems` and `parseMembers` together by induction on their fuel,
which the length of the text bounds.

* `scanString_encode`                   the scanner reads an encoded `str` back;
* `parseValue_int`                      and the digits of an `int`;
* `parseValue_render`, `parseValue_float`  and the text `repr` lays out for a double, in fixed
                                        or exponent notation;
* `parse_dumps`                         the three parsers read back any text of `dumps`;
* `loads_dumps`                         `json.loads(json.dumps(v)) == v` for every `plain` `v`;
* `parse_dumpable`, `dumps_loads`       the other way: `json.dumps` never raises on a value
                                        `json.loads` returned.
-/

namespace QQ

namespace Dumps

open Loads

theorem cp_eq_cp (a b : Char) : cp a = cp b ↔ a = b :=
  ⟨fun h => by
    rw [← Char.ofNat_toNat a, ← Char.ofNat_toNat b]
    have h' : (cp a).val = (cp b).val := congrArg Fin.val h
    exact congrArg Char.ofNat h', fun h => h ▸ rfl⟩

/-! ## strings -/

theorem scanString_escape (r acc x t : PyStr) (h : escape r = .ok (x, t)) :
    scanString (cp '\\' :: r) acc = scanString t (acc ++ x) := by
  rw [scanString.eq_def]
  simp only [if_neg (by decide : cp '\\' ≠ cp '"'), if_true]
  split
  · next x' t' hx' => rw [h] at hx'; cases hx'; rfl
  · next e he => rw [h] at he; cases he

theorem hexPad_four (n : Nat) : hexPad 4 n =
    [hexDigit (n / 16 / 16 / 16 % 16), hexDigit (n / 16 / 16 % 16), hexDigit (n / 16 % 16),
      hexDigit (n % 16)] := rfl

theorem hexWord_hexPad (n : Nat) (hn : n < 0x10000) :
    hexWord (hexDigit (n / 16 / 16 / 16 % 16)) (hexDigit (n / 16 / 16 % 16))
      (hexDigit (n / 16 % 16)) (hexDigit (n % 16)) = some ⟨n, by omega⟩ := by
  simp only [hexWord, hexVal_hexDigit _ (Nat.mod_lt _ (by decide : 16 > 0))]
  simp only [Option.pure_def, Option.bind_eq_bind, Option.some_bind, Option.some.injEq]
  ext
  simp only
  omega

theorem escape_u (n : Nat) (hn : n < 0x10000) (hs : ¬(0xD800 ≤ n ∧ n ≤ 0xDBFF)) (r : PyStr) :
    escape (cp 'u' :: (hexPad 4 n ++ r)) = .ok ([⟨n, by omega⟩], r) := by
  rw [hexPad_four]
  simp only [escape, if_true, List.cons_append, List.nil_append, hexWord_hexPad n hn, if_neg hs]

theorem escape_pair (c : CodePoint) (hc : 0x10000 ≤ c.val) (r : PyStr) :
    escape (cp 'u' :: (hexPad 4 (0xD7C0 + c.val / 0x400) ++ (uEscape (0xDC00 + c.val % 0x400) ++ r))) =
      .ok ([c], r) := by
  have hc' := c.isLt
  have hhi : 0xD7C0 + c.val / 0x400 < 0x10000 := by omega
  have hlo : 0xDC00 + c.val % 0x400 < 0x10000 := by omega
  rw [uEscape, hexPad_four, hexPad_four]
  simp only [escape, if_true, List.cons_append, List.nil_append, hexWord_hexPad _ hhi,
    hexWord_hexPad _ hlo]
  rw [if_pos (by omega), if_pos ⟨trivial, trivial⟩, if_pos (by omega)]
  have hj : joinSurrogates ⟨0xD7C0 + c.val / 0x400, by omega⟩ ⟨0xDC00 + c.val % 0x400, by omega⟩ =
      c := Fin.ext (by simp only [joinSurrogates]; omega)
  rw [hj]

theorem scanString_simple (e x : CodePoint) (r acc : PyStr) (h : simpleEscape e = some x)
    (hu : e ≠ cp 'u') : scanString ([cp '\\', e] ++ r) acc = scanString r (acc ++ [x]) :=
  scanString_escape (e :: r) acc [x] r (by simp only [escape, if_neg hu, h])

theorem scanString_encodeChar (c : CodePoint) (hc : isSurrogate c = false) (r acc : PyStr) :
    scanString (encodeChar c ++ r) acc = scanString r (acc ++ [c]) := by
  unfold encodeChar
  by_cases hs : sChar c
  · simp only [sChar, Bool.and_eq_true, decide_eq_true_eq, bne_iff_ne, ne_eq] at hs
    rw [if_pos (by simpa [sChar] using hs)]
    exact scanString_char c r acc hs.2 hs.1.2 hs.1.1.1
  rw [if_neg hs]
  rw [asciiEscape]
  by_cases h1 : c = cp '\\'
  · rw [if_pos h1, h1]; exact scanString_simple (cp '\\') _ r acc (by decide) (by decide)
  rw [if_neg h1]
  by_cases h2 : c = cp '"'
  · rw [if_pos h2, h2]; exact scanString_simple (cp '"') _ r acc (by decide) (by decide)
  rw [if_neg h2]
  by_cases h3 : c.val = 8
  · rw [if_pos h3, show c = ⟨8, by decide⟩ from Fin.ext h3]
    exact scanString_simple (cp 'b') _ r acc (by decide) (by decide)
  rw [if_neg h3]
  by_cases h4 : c.val = 12
  · rw [if_pos h4, show c = ⟨12, by decide⟩ from Fin.ext h4]
    exact scanString_simple (cp 'f') _ r acc (by decide) (by decide)
  rw [if_neg h4]
  by_cases h5 : c = cp '\n'
  · rw [if_pos h5, h5]; exact scanString_simple (cp 'n') _ r acc (by decide) (by decide)
  rw [if_neg h5]
  by_cases h6 : c = cp '\r'
  · rw [if_pos h6, h6]; exact scanString_simple (cp 'r') _ r acc (by decide) (by decide)
  rw [if_neg h6]
  by_cases h7 : c = cp '\t'
  · rw [if_pos h7, h7]; exact scanString_simple (cp 't') _ r acc (by decide) (by decide)
  rw [if_neg h7]
  by_cases h8 : 0x10000 ≤ c.val
  · rw [if_pos h8, List.append_assoc, uEscape, List.cons_append, List.cons_append,
      scanString_escape _ _ _ _ (escape_pair c h8 r)]
  have hns : ¬(0xD800 ≤ c.val ∧ c.val ≤ 0xDBFF) := by
    simp only [isSurrogate, Bool.and_eq_false_iff, decide_eq_false_iff_not] at hc
    omega
  rw [if_neg h8, uEscape, List.cons_append, List.cons_append,
    scanString_escape _ _ _ _ (escape_u c.val (by omega) hns r)]

theorem scanString_encode (s : PyStr) (hs : ∀ c ∈ s, isSurrogate c = false) (r acc : PyStr) :
    scanString (s.flatMap encodeChar ++ cp '"' :: r) acc = .ok (acc ++ s, r) := by
  induction s generalizing acc with
  | nil => simpa using scanString_quote r acc
  | cons c s ih =>
    rw [List.flatMap_cons, List.append_assoc,
      scanString_encodeChar c (hs c (List.mem_cons_self c s)),
      ih (fun x hx => hs x (List.mem_cons_of_mem c hx)), List.append_assoc, List.singleton_append]

theorem parseValue_string (fuel : Nat) (s : PyStr) (hs : noSurrogate s = true) (r : PyStr) :
    parseValue (fuel + 1) (encodeString s ++ r) = .ok (.str s, r) := by
  have hs' : ∀ c ∈ s, isSurrogate c = false := by
    simpa [noSurrogate] using hs
  rw [encodeString, List.cons_append, List.append_assoc, List.singleton_append]
  simp only [parseValue, if_true, scanString_encode s hs' r [], List.nil_append]
  rfl

/-! ## numbers -/

def Stop (r : PyStr) : Prop :=
  ∀ c ∈ r.head?, isDigit c = false ∧ c ≠ cp '.' ∧ c ≠ cp 'e' ∧ c ≠ cp 'E'

theorem fracPart_stop {r : PyStr} (hr : Stop r) : fracPart r = ([], r) := by
  match r, hr with
  | [], _ => rfl
  | [_], _ => rfl
  | p :: q :: t, hr => exact if_neg fun h => (hr p rfl).2.1 h.1

theorem expPart_stop {r : PyStr} (hr : Stop r) : expPart r = none := by
  match r, hr with
  | [], _ => rfl
  | e :: t, hr => exact if_neg fun h => h.elim (hr e rfl).2.2.1 (hr e rfl).2.2.2

theorem intPart_eq (c : CodePoint) (t rest : PyStr) (hd : ∀ x ∈ c :: t, isDigit x = true)
    (hz : c :: t = [cp '0'] ∨ c ≠ cp '0') (hr : ∀ x ∈ rest.head?, isDigit x = false) :
    intPart (c :: t ++ rest) = some (c :: t, rest) := by
  rcases hz with h | h
  · obtain ⟨rfl, rfl⟩ := List.cons_eq_cons.mp h
    rfl
  obtain ⟨htake, hdrop⟩ := takeWhile_digits t rest (fun x hx => hd x (List.mem_cons_of_mem c hx)) hr
  simp only [List.cons_append, intPart, if_neg h, hd c (List.mem_cons_self c t), if_true, htake,
    hdrop]

theorem matchNumber_int (neg : Prop) [Decidable neg] (c : CodePoint) (t r : PyStr)
    (hint : intPart (c :: t ++ r) = some (c :: t, r)) (hc : c ≠ cp '-') (hr : Stop r)
    (hlen : (c :: t).length ≤ 4300) :
    matchNumber ((if neg then pyStr "-" else []) ++ (c :: t ++ r)) =
      .ok (.int (if neg then -(decimal (c :: t) : Int) else decimal (c :: t)), r) := by
  have hlen' : ¬4300 < (c :: t).length := by omega
  by_cases hn : neg <;>
  · simp only [hn, if_true, if_false, List.nil_append, List.singleton_append, pyStr, String.toList, List.map_cons, List.map_nil,
      List.cons_append, matchNumber, if_neg hc]
    rw [← List.cons_append, hint]
    simp only [fracPart_stop hr, expPart_stop hr, List.isEmpty_nil, if_true, toInt, if_neg hlen',
      ok_bind]
    rfl

theorem parseValue_signed (fuel : Nat) (neg : Prop) [Decidable neg] (c : CodePoint) (t : PyStr)
    (hc : isDigit c = true) :
    parseValue (fuel + 1) ((if neg then pyStr "-" else []) ++ c :: t) =
      matchNumber ((if neg then pyStr "-" else []) ++ c :: t) := by
  by_cases hn : neg
  · have hI : (pyStr "Infinity").isPrefixOf (c :: t) = false := by
      show (cp 'I' == c && _) = false
      have : c ≠ cp 'I' := fun h => by rw [h] at hc; cases hc
      simp [Ne.symm this]
    rw [if_pos hn]
    show parseValue (fuel + 1) (cp '-' :: c :: t) = matchNumber (cp '-' :: c :: t)
    simp only [parseValue, hI]
    rw [if_neg (by decide), if_neg (by decide), if_neg (by decide), if_neg (by simp [cp_eq_cp]),
      if_neg (by simp [cp_eq_cp]), if_neg (by simp [cp_eq_cp]), if_neg (by simp [cp_eq_cp]),
      if_neg (by simp [cp_eq_cp]), if_neg (by simp [cp_eq_cp])]
  · rw [if_neg hn, List.nil_append]
    exact parseValue_digit fuel c t hc

theorem parseValue_int (fuel : Nat) (n : Int) (r : PyStr) (hr : Stop r)
    (hlen : (digits n.natAbs).length ≤ 4300) :
    parseValue (fuel + 1) (showInt n ++ r) = .ok (.int n, r) := by
  obtain ⟨c, t, ht, hz⟩ := digits_lead n.natAbs
  have hd := isDigit_digits n.natAbs
  rw [ht] at hd hlen
  have hc : c ≠ cp '-' := fun h => by
    have := hd c (List.mem_cons_self c t); rw [h] at this; cases this
  have hint := intPart_eq c t r hd hz fun x hx => (hr x hx).1
  have hn : (if n < 0 then -(decimal (c :: t) : Int) else decimal (c :: t)) = n := by
    rw [← ht, decimal_digits]; split <;> omega
  rw [showInt_eq, ht, List.append_assoc]
  calc parseValue (fuel + 1) ((if n < 0 then pyStr "-" else []) ++ (c :: t ++ r))
      = matchNumber ((if n < 0 then pyStr "-" else []) ++ (c :: t ++ r)) :=
        parseValue_signed fuel _ c _ (hd c (List.mem_cons_self c t))
    _ = .ok (.int n, r) := by rw [matchNumber_int _ c t r hint hc hr hlen, hn]

theorem fracPart_split (f rest : PyStr) (hf : ∀ x ∈ f, isDigit x = true)
    (hr : ∀ x ∈ rest.head?, isDigit x = false ∧ x ≠ cp '.') :
    fracPart (pointText f ++ rest) = (f, rest) := by
  match f, rest, hr with
  | [], [], _ | [], [_], _ => rfl
  | [], p :: d :: r, hr => exact if_neg fun h => (hr p rfl).2 h.1
  | b :: B, rest, hr =>
    obtain ⟨htake, hdrop⟩ := takeWhile_digits B rest (fun x hx => hf x (List.mem_cons_of_mem b hx))
      fun x hx => (hr x hx).1
    simp only [pointText, List.cons_ne_nil, if_false, List.cons_append, fracPart,
      hf b (List.mem_cons_self b B), and_self, htake, hdrop]
    exact if_pos trivial

/-- the sign, the integer digits and the fraction digits of a literal are read, and what
follows decides between an exponent, an `int` and a `float` -/
theorem matchNumber_split (neg : Prop) [Decidable neg] (c : CodePoint) (t f rest : PyStr)
    (hi : ∀ x ∈ c :: t, isDigit x = true) (hz : c :: t = [cp '0'] ∨ c ≠ cp '0')
    (hf : ∀ x ∈ f, isDigit x = true) (hr : ∀ x ∈ rest.head?, isDigit x = false ∧ x ≠ cp '.') :
    matchNumber ((if neg then pyStr "-" else []) ++
        (c :: t ++ (pointText f ++ rest))) =
      match expPart rest with
      | some (expNeg, exp, s4) => .ok (toFloat (decide neg) (c :: t) f expNeg exp, s4)
      | none =>
        if f.isEmpty then do
          let v ← toInt (decide neg) (c :: t)
          pure (v, rest)
        else .ok (toFloat (decide neg) (c :: t) f false [], rest) := by
  have hc : c ≠ cp '-' := fun h => by
    have := hi c (List.mem_cons_self c t); rw [h] at this; cases this
  have hint := intPart_eq c t (pointText f ++ rest) hi hz fun x hx => by
    unfold pointText at hx
    split at hx
    · exact (hr x hx).1
    · cases hx; rfl
  by_cases hn : neg <;> rcases he : expPart rest with _ | ⟨_, _, _⟩ <;>
  · simp only [hn, if_true, if_false, List.nil_append, List.singleton_append, pyStr, String.toList,
      List.map_cons, List.map_nil, List.cons_append, matchNumber, if_neg hc]
    rw [← List.cons_append, hint]
    simp only [fracPart_split f rest hf hr, he, decide_True, decide_False]

theorem expPart_signed (p : Prop) [Decidable p] (E r : PyStr) (hE : E ≠ [])
    (hd : ∀ x ∈ E, isDigit x = true) (hr : ∀ x ∈ r.head?, isDigit x = false) :
    expPart (cp 'e' :: (if p then cp '-' else cp '+') :: (E ++ r)) = some (decide p, E, r) := by
  obtain ⟨htake, hdrop⟩ := takeWhile_digits E r hd hr
  have hs : expSign ((if p then cp '-' else cp '+') :: (E ++ r)) = (decide p, E ++ r) := by
    by_cases hp : p <;> simp [expSign, hp, cp_eq_cp]
  simp only [expPart, true_or, if_true, hs, htake, hdrop, List.isEmpty_eq_false.mpr hE]
  rfl

theorem decimal_expDigits (n : Nat) : decimal (expDigits n) = n := by
  unfold expDigits
  split
  · rw [← List.singleton_append, ← List.replicate_one, decimal_zeros, decimal_digits]
  · exact decimal_digits n

theorem isDigit_expDigits (n : Nat) : ∀ x ∈ expDigits n, isDigit x = true := by
  unfold expDigits
  split
  · intro x hx
    rcases List.mem_cons.mp hx with rfl | hx
    exacts [rfl, isDigit_digits n x hx]
  · exact isDigit_digits n

theorem expDigits_ne_nil (n : Nat) : expDigits n ≠ [] := by
  unfold expDigits
  split
  · exact List.cons_ne_nil _ _
  · obtain ⟨c, t, h, -⟩ := digits_lead n
    rw [h]; exact List.cons_ne_nil _ _

theorem signed_mul (neg : Prop) [Decidable neg] (m x : ℚ) :
    (if neg then -m else m) * x = if neg then -(m * x) else m * x := by
  split <;> ring

/-- **the text of a layout, signed, is read back as the double nearest to its value** -/
theorem parseValue_render (fuel : Nat) (neg : Prop) [Decidable neg] (L : PyStr × PyStr × Option ℤ)
    (hi : ∀ x ∈ L.1, isDigit x = true) (hf : ∀ x ∈ L.2.1, isDigit x = true) (hL : LayoutLead L)
    (r : PyStr) (hr : Stop r) :
    parseValue (fuel + 1) ((if neg then pyStr "-" else []) ++ render L ++ r) =
      .ok (.float (round64 (if neg then -layoutValue L else layoutValue L)), r) := by
  obtain ⟨i, f, e⟩ := L
  obtain ⟨⟨c, t, rfl, hz⟩, hfe⟩ := hL
  have htext : (if neg then pyStr "-" else []) ++ render (c :: t, f, e) ++ r =
      (if neg then pyStr "-" else []) ++ c :: (t ++ (pointText f ++ (expText e ++ r))) := by
    simp only [render, List.append_assoc, List.cons_append]
  rw [htext, parseValue_signed fuel neg c _ (hi c (List.mem_cons_self c t)), ← List.cons_append]
  match e with
  | none =>
    have hne : f.isEmpty = false := List.isEmpty_eq_false.mpr (hfe rfl)
    rw [expText, List.nil_append, matchNumber_split neg c t f r hi hz hf fun x hx => ⟨(hr x hx).1, (hr x hx).2.1⟩,
      expPart_stop hr]
    simp only [hne, Bool.false_eq_true, if_false, toFloat, layoutValue, Option.getD_none,
      signed_mul, decide_eq_true_eq]
    rfl
  | some e =>
    rw [matchNumber_split neg c t f (expText (some e) ++ r) hi hz hf fun x hx => by
        simp only [expText, List.cons_append, List.head?_cons, Option.mem_def,
          Option.some.injEq] at hx
        subst hx; exact ⟨rfl, by decide⟩,
      expText, List.cons_append, List.cons_append,
      expPart_signed _ _ r (expDigits_ne_nil _) (isDigit_expDigits _) fun x hx => (hr x hx).1]
    have he : (if e < 0 then -(decimal (expDigits e.natAbs) : ℤ)
        else decimal (expDigits e.natAbs)) = e := by
      rw [decimal_expDigits]; split <;> omega
    simp only [toFloat, decide_eq_true_eq, he, layoutValue, Option.getD_some, signed_mul]

/-- **`json.loads` reads back the `repr` of a double** -/
theorem parseValue_float (fuel : Nat) (q : ℚ) (hq : round64 q = .fin q) (r : PyStr) (hr : Stop r) :
    parseValue (fuel + 1) (floatstr (.fin q) ++ r) = .ok (.float (.fin q), r) := by
  have hs : floatstr (.fin q) = reprFinite q := by simp only [floatstr, PyFloat.toDouble, hq]
  rw [hs, reprFinite]
  split_ifs with h0 hneg
  · have hzero : ∀ x ∈ [cp '0'], isDigit x = true := fun x hx => by
      rw [List.mem_singleton.mp hx]; rfl
    have h := parseValue_render fuel False ([cp '0'], [cp '0'], none) hzero hzero
      ⟨⟨_, [], rfl, .inl rfl⟩, fun _ => List.cons_ne_nil _ _⟩ r hr
    have hv : layoutValue ([cp '0'], [cp '0'], none) = 0 := by
      rw [layoutValue, show decimal ([cp '0'] ++ [cp '0']) = 0 from rfl]; simp
    rw [if_neg not_false, if_neg not_false, hv, round64_zero, List.nil_append] at h
    rw [h0]
    exact h
  · obtain ⟨hlead, hval⟩ := reprDigits_layout (neg_pos.mpr hneg) (round64_neg hq)
    have h := parseValue_render fuel True _ (layout_digits _ _ (reprDigits_digits (-q))).1
      (layout_digits _ _ (reprDigits_digits (-q))).2 hlead r hr
    rw [if_pos trivial, if_pos trivial, round64_neg hval, neg_neg] at h
    exact h
  · have hpos : 0 < q := lt_of_le_of_ne (not_lt.mp hneg) (Ne.symm h0)
    obtain ⟨hlead, hval⟩ := reprDigits_layout hpos hq
    have h := parseValue_render fuel False _ (layout_digits _ _ (reprDigits_digits q)).1
      (layout_digits _ _ (reprDigits_digits q)).2 hlead r hr
    rw [if_neg not_false, if_neg not_false, hval, List.nil_append] at h
    exact h

/-! ## arrays and objects -/

theorem prefix_self (w r : PyStr) : w.isPrefixOf (w ++ r) = true :=
  List.isPrefixOf_iff_prefix.mpr (List.prefix_append w r)

theorem ws_space (s : PyStr) : ws (cp ' ' :: s) = ws s :=
  List.dropWhile_cons_of_pos rfl

theorem comma_append (s : PyStr) : pyStr ", " ++ s = cp ',' :: cp ' ' :: s := rfl

theorem colon_append (s : PyStr) : pyStr ": " ++ s = cp ':' :: cp ' ' :: s := rfl

theorem dictInsert_fresh (acc : List (PyStr × Json)) (k : PyStr) (v : Json)
    (h : k ∉ acc.map Prod.fst) : dictInsert acc k v = acc ++ [(k, v)] := by
  induction acc with
  | nil => rfl
  | cons kv acc ih =>
    have hk : kv.1 ≠ k := fun he => h (he ▸ List.mem_cons_self _ _)
    rw [dictInsert, if_neg hk, ih fun hm => h (List.mem_cons_of_mem _ hm), List.cons_append]

mutual
theorem dumps_ok : ∀ v, plain v = true → ∃ t, dumps v = .ok t
  | .null, _ => ⟨_, rfl⟩
  | .bool true, _ => ⟨_, rfl⟩
  | .bool false, _ => ⟨_, rfl⟩
  | .int n, h => ⟨_, if_neg (by simpa [plain] using h)⟩
  | .float _, _ => ⟨_, rfl⟩
  | .str _, _ => ⟨_, rfl⟩
  | .list [], _ => ⟨_, rfl⟩
  | .list (x :: xs), h => by
    simp only [plain, plainItems, Bool.and_eq_true] at h
    obtain ⟨a, ha⟩ := dumps_ok x h.1
    obtain ⟨b, hb⟩ := dumpsItems_ok xs h.2
    exact ⟨_, by simp only [dumps, ha, hb, ok_bind]; rfl⟩
  | .dict [], _ => ⟨_, rfl⟩
  | .dict ((k, v) :: kvs), h => by
    simp only [plain, plainMembers, Bool.and_eq_true] at h
    obtain ⟨a, ha⟩ := dumps_ok v h.2.1.2
    obtain ⟨b, hb⟩ := dumpsMembers_ok kvs h.2.2
    exact ⟨_, by simp only [dumps, ha, hb, ok_bind]; rfl⟩

theorem dumpsItems_ok : ∀ xs, plainItems xs = true → ∃ t, dumpsItems xs = .ok t
  | [], _ => ⟨_, rfl⟩
  | x :: xs, h => by
    simp only [plainItems, Bool.and_eq_true] at h
    obtain ⟨a, ha⟩ := dumps_ok x h.1
    obtain ⟨b, hb⟩ := dumpsItems_ok xs h.2
    exact ⟨_, by simp only [dumpsItems, ha, hb, ok_bind]; rfl⟩

theorem dumpsMembers_ok : ∀ kvs, plainMembers kvs = true → ∃ t, dumpsMembers kvs = .ok t
  | [], _ => ⟨_, rfl⟩
  | (k, v) :: kvs, h => by
    simp only [plainMembers, Bool.and_eq_true] at h
    obtain ⟨a, ha⟩ := dumps_ok v h.1.2
    obtain ⟨b, hb⟩ := dumpsMembers_ok kvs h.2
    exact ⟨_, by simp only [dumpsMembers, ha, hb, ok_bind]; rfl⟩
end

/-- a character a value's text may start with: not whitespace, not a closing bracket, ASCII -/
def lead (c : CodePoint) : Bool := !isWs c && c != cp ']' && decide (c.val < 0x80)

theorem lead_digit (c : CodePoint) (h : isDigit c = true) : lead c = true := by
  have hall : ∀ d < 10, lead ⟨(48 + d) % 0x110000, Nat.mod_lt _ (by decide)⟩ = true := by decide
  have hc : 48 ≤ c.val ∧ c.val ≤ 57 := by simpa [isDigit] using h
  have := hall (c.val - 48) (by omega)
  rwa [show (⟨(48 + (c.val - 48)) % 0x110000, Nat.mod_lt _ (by decide)⟩ : CodePoint) = c from
    Fin.ext (by simp only; omega)] at this

theorem lead_signed (neg : Prop) [Decidable neg] (c : CodePoint) (t : PyStr) (hc : isDigit c = true) :
    ∃ c' t', (if neg then pyStr "-" else []) ++ c :: t = c' :: t' ∧ lead c' = true := by
  by_cases hn : neg
  · exact ⟨cp '-', c :: t, by rw [if_pos hn]; rfl, by decide⟩
  · exact ⟨c, t, by rw [if_neg hn, List.nil_append], lead_digit c hc⟩

theorem floatstr_head (q : ℚ) (hq : round64 q = .fin q) :
    ∃ c t, floatstr (.fin q) = c :: t ∧ lead c = true := by
  rw [show floatstr (.fin q) = reprFinite q by simp only [floatstr, PyFloat.toDouble, hq], reprFinite]
  split_ifs with h0 hneg
  · exact ⟨_, _, rfl, by decide⟩
  · exact ⟨_, _, rfl, by decide⟩
  · obtain ⟨⟨c, t, hct, -⟩, -⟩ := (reprDigits_layout (lt_of_le_of_ne (not_lt.mp hneg) (Ne.symm h0)) hq).1
    refine ⟨c, t ++ _, by rw [render_eq, hct, List.append_assoc, List.cons_append], lead_digit c ?_⟩
    exact (layout_digits _ _ (reprDigits_digits q)).1 c (hct ▸ List.mem_cons_self c t)

/-- the text of a value starts with a `lead` character -/
theorem dumps_head (v : Json) (hv : plain v = true) (t : PyStr) (ht : dumps v = .ok t) :
    ∃ c t', t = c :: t' ∧ lead c = true := by
  match v, hv, ht with
  | .null, _, ht => cases ht; exact ⟨_, _, rfl, by decide⟩
  | .bool true, _, ht => cases ht; exact ⟨_, _, rfl, by decide⟩
  | .bool false, _, ht => cases ht; exact ⟨_, _, rfl, by decide⟩
  | .int n, hv, ht =>
    simp only [dumps, intRepr, if_neg (Nat.not_lt.mpr (by simpa [plain] using hv))] at ht
    cases ht
    obtain ⟨c, t, hct, -⟩ := digits_lead n.natAbs
    rw [showInt_eq, hct]
    exact lead_signed _ c t (isDigit_digits _ c (hct ▸ List.mem_cons_self c t))
  | .float (.fin q), hv, ht =>
    cases ht
    exact floatstr_head q (by simpa [plain] using hv)
  | .float .nan, _, ht => cases ht; exact ⟨_, _, rfl, by decide⟩
  | .float (.inf true), _, ht => cases ht; exact ⟨_, _, rfl, by decide⟩
  | .float (.inf false), _, ht => cases ht; exact ⟨_, _, rfl, by decide⟩
  | .str s, _, ht => cases ht; exact ⟨_, _, rfl, by decide⟩
  | .list [], _, ht => cases ht; exact ⟨_, _, rfl, by decide⟩
  | .list (x :: xs), _, ht =>
    obtain ⟨a, -, ht⟩ := bind_eq_ok ht
    obtain ⟨b, -, ht⟩ := bind_eq_ok ht
    cases ht; exact ⟨_, _, rfl, by decide⟩
  | .dict [], _, ht => cases ht; exact ⟨_, _, rfl, by decide⟩
  | .dict ((k, v) :: kvs), _, ht =>
    obtain ⟨a, -, ht⟩ := bind_eq_ok ht
    obtain ⟨b, -, ht⟩ := bind_eq_ok ht
    cases ht; exact ⟨_, _, rfl, by decide⟩

theorem lead_ws {c : CodePoint} (h : lead c = true) : isWs c = false := by
  simp only [lead, Bool.and_eq_true, Bool.not_eq_true'] at h
  exact h.1.1

theorem lead_ne {c : CodePoint} (h : lead c = true) : c ≠ cp ']' := by
  simp only [lead, Bool.and_eq_true, bne_iff_ne] at h
  exact h.1.2

theorem stop_of_head (c : CodePoint) (r : PyStr) (h : c = cp ',' ∨ c = cp ']' ∨ c = cp '}') :
    Stop (c :: r) := by
  intro x hx
  cases hx
  rcases h with rfl | rfl | rfl <;> decide

theorem parseValue_array (fuel : Nat) (c : CodePoint) (s : PyStr) (hc : lead c = true) :
    parseValue (fuel + 1) (cp '[' :: c :: s) = parseItems fuel (c :: s) [] := by
  simp only [parseValue, if_neg (by decide : cp '[' ≠ cp '"'), if_neg (by decide : cp '[' ≠ cp '{'),
    if_true, ws_cons c s (lead_ws hc), if_neg (lead_ne hc)]

/-- what `parseValue` reads back at `fuel` -/
def ValueOk (fuel : Nat) : Prop :=
  ∀ v t r, plain v = true → dumps v = .ok t → t.length ≤ fuel → Stop r →
    parseValue fuel (t ++ r) = .ok (v, r)

/-- what `parseItems` reads back at `fuel`: the items from the first on, and the closing bracket -/
def ItemsOk (fuel : Nat) : Prop :=
  ∀ x xs a b r acc, plain x = true → plainItems xs = true → dumps x = .ok a →
    dumpsItems xs = .ok b → a.length + b.length < fuel →
    parseItems fuel (a ++ b ++ cp ']' :: r) acc = .ok (.list (acc ++ x :: xs), r)

/-- what `parseMembers` reads back at `fuel`, the keys read so far in `acc` -/
def MembersOk (fuel : Nat) : Prop :=
  ∀ k v kvs a b r acc, noSurrogate k = true → plain v = true → plainMembers kvs = true →
    (acc.map Prod.fst ++ k :: kvs.map Prod.fst).Nodup → dumps v = .ok a → dumpsMembers kvs = .ok b →
    a.length + b.length < fuel →
    parseMembers fuel (encodeString k ++ pyStr ": " ++ a ++ b ++ cp '}' :: r) acc =
      .ok (.dict (acc ++ (k, v) :: kvs), r)

theorem parseValue_dumps_step (fuel : Nat) (hi : ItemsOk fuel) (hm : MembersOk fuel) :
    ValueOk (fuel + 1) := by
  intro v t r hv ht hlen hr
  match v, hv, ht with
  | .null, _, ht | .bool true, _, ht | .bool false, _, ht | .float .nan, _, ht
  | .float (.inf false), _, ht | .float (.inf true), _, ht =>
    cases ht; simp [floatstr, PyFloat.toDouble, parseValue, pyStr, prefix_self, cp_eq_cp]
  | .int n, hv, ht =>
    have hn : (digits n.natAbs).length ≤ 4300 := by simpa [plain] using hv
    simp only [dumps, intRepr, if_neg (Nat.not_lt.mpr hn)] at ht
    cases ht
    exact parseValue_int fuel n r hr hn
  | .float (.fin q), hv, ht =>
    cases ht
    exact parseValue_float fuel q (by simpa [plain] using hv) r hr
  | .str s, hv, ht =>
    cases ht
    exact parseValue_string fuel s (by simpa [plain] using hv) r
  | .list [], _, ht =>
    cases ht
    simp only [List.cons_append, List.nil_append, parseValue, if_neg (by decide : cp '[' ≠ cp '"'),
      if_neg (by decide : cp '[' ≠ cp '{'), if_true, ws_cons (cp ']') r rfl]
  | .list (x :: xs), hv, ht =>
    simp only [plain, plainItems, Bool.and_eq_true] at hv
    obtain ⟨a, ha, ht⟩ := bind_eq_ok ht
    obtain ⟨b, hb, ht⟩ := bind_eq_ok ht
    cases ht
    obtain ⟨c, a', rfl, hc⟩ := dumps_head x hv.1 a ha
    have hab : (c :: a').length + b.length < fuel := by
      simp only [List.length_cons, List.length_append, List.length_singleton] at hlen ⊢; omega
    have key := hi x xs (c :: a') b r [] hv.1 hv.2 ha hb hab
    simp only [List.cons_append, List.append_assoc, List.singleton_append, List.nil_append] at key ⊢
    rw [parseValue_array fuel c _ hc, key]
  | .dict [], _, ht =>
    cases ht
    simp only [List.cons_append, List.nil_append, parseValue, if_neg (by decide : cp '{' ≠ cp '"'),
      if_true, ws_cons (cp '}') r rfl]
  | .dict ((k, w) :: kvs), hv, ht =>
    simp only [plain, plainMembers, Bool.and_eq_true, decide_eq_true_eq] at hv
    obtain ⟨a, ha, ht⟩ := bind_eq_ok ht
    obtain ⟨b, hb, ht⟩ := bind_eq_ok ht
    cases ht
    have hab : a.length + b.length < fuel := by
      simp only [List.length_cons, List.length_append, List.length_singleton] at hlen ⊢; omega
    have key := hm k w kvs a b r [] hv.2.1.1 hv.2.1.2 hv.2.2 hv.1 ha hb hab
    rw [encodeString] at key ⊢
    simp only [List.cons_append, List.append_assoc, List.singleton_append, List.nil_append] at key ⊢
    rw [parseValue_object fuel (cp '"') _ rfl (by decide), key]

theorem parseItems_dumps_step (fuel : Nat) (hv : ValueOk fuel) (hi : ItemsOk fuel) :
    ItemsOk (fuel + 1) := by
  intro x xs a b r acc hx hxs ha hb hlen
  cases xs with
  | nil =>
    cases hb
    have hx' := hv x a (cp ']' :: r) hx ha (by omega) (stop_of_head _ r (by simp))
    rw [List.append_nil, parseItems, hx', ok_bind]
    simp only [ws_cons (cp ']') r rfl, if_true]
  | cons y ys =>
    simp only [plainItems, Bool.and_eq_true] at hxs
    obtain ⟨a', ha', hb⟩ := bind_eq_ok hb
    obtain ⟨b', hb', hb⟩ := bind_eq_ok hb
    cases hb
    obtain ⟨c, a'', rfl, hc⟩ := dumps_head y hxs.1 a' ha'
    have hab : (c :: a'').length + b'.length < fuel := by
      simp only [List.length_cons, List.length_append] at hlen ⊢
      have : pyStr ", " = [cp ',', cp ' '] := rfl
      rw [this] at hlen
      simp only [List.length_cons, List.length_nil] at hlen
      omega
    have key := hi y ys (c :: a'') b' r (acc ++ [x]) hxs.1 hxs.2 ha' hb' hab
    have hx' := hv x a (pyStr ", " ++ c :: a'' ++ b' ++ cp ']' :: r) hx ha (by
      simp only [List.length_append] at hlen; omega) (stop_of_head _ _ (by simp))
    simp only [List.append_assoc] at hx' ⊢
    rw [parseItems, hx', ok_bind]
    have hcomma : pyStr ", " ++ (c :: a'' ++ (b' ++ cp ']' :: r)) =
        cp ',' :: cp ' ' :: c :: (a'' ++ (b' ++ cp ']' :: r)) := rfl
    simp only [List.cons_append, List.append_assoc] at key
    simp only [hcomma, ws_cons (cp ',') _ rfl, if_neg (by decide : cp ',' ≠ cp ']'), if_true, ws_space,
      ws_cons c (a'' ++ (b' ++ cp ']' :: r)) (lead_ws hc), key, List.append_assoc,
      List.singleton_append, List.nil_append]

theorem parseMembers_dumps_step (fuel : Nat) (hv : ValueOk fuel) (hm : MembersOk fuel) :
    MembersOk (fuel + 1) := by
  intro k v kvs a b r acc hk hv' hkvs hnd ha hb hlen
  have hk' : ∀ c ∈ k, isSurrogate c = false := by simpa [noSurrogate] using hk
  have hfresh : k ∉ acc.map Prod.fst := fun h =>
    (List.pairwise_append.mp hnd).2.2 k h k (List.mem_cons_self k _) rfl
  obtain ⟨c, a', rfl, hc⟩ := dumps_head v hv' a ha
  have hval : ∀ r', Stop r' → parseValue fuel (c :: (a' ++ r')) = .ok (v, r') := fun r' hr' => by
    have := hv v _ r' hv' ha (by simp only [List.length_cons] at hlen ⊢; omega) hr'
    rwa [List.cons_append] at this
  rw [encodeString]
  simp only [List.cons_append, List.append_assoc, List.singleton_append, parseMembers, if_true,
    scanString_encode k hk', ok_bind, List.nil_append, colon_append, ws_cons (cp ':') _ rfl, ws_space,
    ws_cons c _ (lead_ws hc)]
  cases kvs with
  | nil =>
    cases hb
    rw [List.nil_append, hval _ (stop_of_head _ r (by simp)), ok_bind]
    simp only [ws_cons (cp '}') r rfl, if_true, dictInsert_fresh acc k v hfresh]
  | cons kv kvs =>
    obtain ⟨k2, v2⟩ := kv
    simp only [plainMembers, Bool.and_eq_true] at hkvs
    obtain ⟨a2, ha2, hb⟩ := bind_eq_ok hb
    obtain ⟨b2, hb2, hb⟩ := bind_eq_ok hb
    cases hb
    have hab : a2.length + b2.length < fuel := by
      simp only [List.length_cons, List.length_append, comma_append, colon_append, encodeString]
        at hlen
      omega
    have hnd' : ((acc ++ [(k, v)]).map Prod.fst ++ k2 :: kvs.map Prod.fst).Nodup := by
      simpa only [List.map_append, List.map_cons, List.map_nil, List.append_assoc,
        List.singleton_append] using hnd
    have key := hm k2 v2 kvs a2 b2 r (acc ++ [(k, v)]) hkvs.1.1 hkvs.1.2 hkvs.2 hnd' ha2 hb2 hab
    rw [encodeString] at key
    simp only [List.cons_append, List.append_assoc, List.singleton_append, List.nil_append,
      colon_append] at key ⊢
    rw [comma_append, hval _ (stop_of_head _ _ (by simp)), ok_bind]
    simp only [ws_cons (cp ',') _ rfl, if_neg (by decide : cp ',' ≠ cp '}'), if_true, ws_space,
      encodeString, List.cons_append, List.append_assoc, List.singleton_append, List.nil_append,
      ws_cons (cp '"') _ rfl, dictInsert_fresh acc k v hfresh, key]

theorem parse_dumps (fuel : Nat) : ValueOk fuel ∧ ItemsOk fuel ∧ MembersOk fuel := by
  induction fuel with
  | zero =>
    refine ⟨fun v t r hv ht hlen _ => ?_, fun _ _ _ _ _ _ _ _ _ _ h => absurd h (Nat.not_lt_zero _),
      fun _ _ _ _ _ _ _ _ _ _ _ _ _ h => absurd h (Nat.not_lt_zero _)⟩
    obtain ⟨c, t', rfl, -⟩ := dumps_head v hv t ht
    simp at hlen
  | succ fuel ih =>
    obtain ⟨hv, hi, hm⟩ := ih
    exact ⟨parseValue_dumps_step fuel hi hm, parseItems_dumps_step fuel hv hi,
      parseMembers_dumps_step fuel hv hm⟩

theorem stop_of_ws (r : PyStr) (hr : ∀ c ∈ r, isWs c = true) : Stop r := by
  intro c hc
  have hw := hr c (List.mem_of_mem_head? hc)
  simp only [isWs, Bool.or_eq_true, beq_iff_eq] at hw
  rcases hw with ((rfl | rfl) | rfl) | rfl <;> decide

/-- a text of `dumps`, followed by whitespace, is read back by `json.loads` -/
theorem loads_dumps_ws (v : Json) (hv : plain v = true) (t r : PyStr) (ht : dumps v = .ok t)
    (hr : ∀ c ∈ r, isWs c = true) : loads (t ++ r) = .ok v := by
  obtain ⟨c, t', rfl, hc⟩ := dumps_head v hv t ht
  have hbom : (c :: t' ++ r).head? ≠ some ⟨0xFEFF, by decide⟩ := by
    simp only [lead, Bool.and_eq_true, decide_eq_true_eq] at hc
    intro h
    cases h
    exact absurd hc.2 (by decide)
  have hparse := (parse_dumps ((c :: t' ++ r).length + 1)).1 v (c :: t') r hv ht
    (by simp only [List.length_append]; omega) (stop_of_ws r hr)
  unfold loads
  rw [if_neg hbom, List.cons_append, ws_cons c _ (lead_ws hc), ← List.cons_append, hparse, ok_bind]
  simp only [show ws r = [] from List.dropWhile_eq_nil_iff.mpr hr, List.isEmpty_nil, if_true]
  rfl

/-- **`json.loads` reads back what `json.dumps` printed**: for every value with no integer past
4300 digits, no surrogate, distinct keys in each object and floats that are doubles,
`json.dumps` succeeds and `json.loads` of its text is the value -/
theorem loads_dumps (v : Json) (hv : plain v = true) : ∃ t, dumps v = .ok t ∧ loads t = .ok v := by
  obtain ⟨t, ht⟩ := dumps_ok v hv
  exact ⟨t, ht, by simpa using loads_dumps_ws v hv t [] ht fun _ h => by cases h⟩

/-! ## the other way: `json.dumps` of what `json.loads` read -/

theorem ite_ok {α : Type} {p : Prop} [Decidable p] {x y : Except PyExc α} {a : α}
    (h : (if p then x else y) = .ok a) : x = .ok a ∨ y = .ok a := by
  by_cases hp : p
  · exact .inl (by rwa [if_pos hp] at h)
  · exact .inr (by rwa [if_neg hp] at h)

theorem digits_length_le (n e : Nat) (he : 0 < e) (h : n < 10 ^ e) : (digits n).length ≤ e := by
  rw [digits, List.length_map]
  exact Nat.toDigitsCore_length 10 (by decide) _ n e h he

theorem foldl_decimal_lt (ds : PyStr) (hds : ∀ c ∈ ds, isDigit c = true) (acc : Nat) :
    ds.foldl (fun acc c => 10 * acc + (c.val - 48)) acc < (acc + 1) * 10 ^ ds.length := by
  induction ds generalizing acc with
  | nil => simp
  | cons c ds ih =>
    have hc : c.val - 48 ≤ 9 := by
      have := hds c (List.mem_cons_self c ds)
      simp only [isDigit, Bool.and_eq_true, decide_eq_true_eq] at this
      omega
    calc _ < (10 * acc + (c.val - 48) + 1) * 10 ^ ds.length :=
          ih (fun x hx => hds x (List.mem_cons_of_mem c hx)) _
      _ ≤ 10 * (acc + 1) * 10 ^ ds.length := Nat.mul_le_mul_right _ (by omega)
      _ = (acc + 1) * 10 ^ (ds.length + 1) := by rw [pow_succ]; ring

theorem decimal_lt (ds : PyStr) (hds : ∀ c ∈ ds, isDigit c = true) :
    decimal ds < 10 ^ ds.length := by
  simpa using foldl_decimal_lt ds hds 0

theorem intPart_digits {s ds rest : PyStr} (h : intPart s = some (ds, rest)) :
    ∀ c ∈ ds, isDigit c = true := by
  match s, h with
  | c :: r, h =>
    simp only [intPart] at h
    split_ifs at h with h0 h1
    · cases h
      intro x hx
      rw [List.mem_singleton.mp hx, h0]
      rfl
    · cases h
      intro x hx
      rcases List.mem_cons.mp hx with rfl | hx
      · exact h1
      · exact List.mem_takeWhile_imp hx

theorem toInt_dumps {neg : Bool} {ds : PyStr} {v : Json} (hds : ∀ c ∈ ds, isDigit c = true)
    (h : toInt neg ds = .ok v) : ∃ t, dumps v = .ok t := by
  have hlen : ¬4300 < ds.length := fun hl => by rw [toInt, if_pos hl] at h; cases h
  rw [toInt, if_neg hlen] at h
  cases h
  have habs : (if neg then -(decimal ds : Int) else decimal ds).natAbs = decimal ds := by
    split <;> simp
  have hd := digits_length_le (decimal ds) (max ds.length 1) (by omega)
    (lt_of_lt_of_le (decimal_lt ds hds) (Nat.pow_le_pow_right (by decide) (le_max_left _ _)))
  exact ⟨_, if_neg (by rw [habs]; omega)⟩

theorem matchNumber_dumps {s : PyStr} {v : Json} {r : PyStr} (h : matchNumber s = .ok (v, r)) :
    ∃ t, dumps v = .ok t := by
  unfold matchNumber at h
  split at h
  split at h
  · cases h
  · next ds s2 hint =>
    split at h
    split at h
    · cases h
      exact ⟨_, rfl⟩
    · split_ifs at h
      · obtain ⟨w, hw, h⟩ := bind_eq_ok h
        cases h
        exact toInt_dumps (intPart_digits hint) hw
      · cases h
        exact ⟨_, rfl⟩


theorem dumpsItems_of_all : ∀ xs : List Json, (∀ x ∈ xs, ∃ t, dumps x = .ok t) →
    ∃ t, dumpsItems xs = .ok t
  | [], _ => ⟨_, rfl⟩
  | x :: xs, h => by
    obtain ⟨a, ha⟩ := h x (List.mem_cons_self x xs)
    obtain ⟨b, hb⟩ := dumpsItems_of_all xs fun y hy => h y (List.mem_cons_of_mem x hy)
    exact ⟨_, by simp only [dumpsItems, ha, hb, ok_bind]; rfl⟩

theorem dumps_list_of_all (xs : List Json) (h : ∀ x ∈ xs, ∃ t, dumps x = .ok t) :
    ∃ t, dumps (.list xs) = .ok t := by
  cases xs with
  | nil => exact ⟨_, rfl⟩
  | cons x xs =>
    obtain ⟨a, ha⟩ := h x (List.mem_cons_self x xs)
    obtain ⟨b, hb⟩ := dumpsItems_of_all xs fun y hy => h y (List.mem_cons_of_mem x hy)
    exact ⟨_, by simp only [dumps, ha, hb, ok_bind]; rfl⟩

theorem dumpsMembers_of_all : ∀ kvs : List (PyStr × Json), (∀ kv ∈ kvs, ∃ t, dumps kv.2 = .ok t) →
    ∃ t, dumpsMembers kvs = .ok t
  | [], _ => ⟨_, rfl⟩
  | (k, v) :: kvs, h => by
    obtain ⟨a, ha⟩ := h (k, v) (List.mem_cons_self _ kvs)
    obtain ⟨b, hb⟩ := dumpsMembers_of_all kvs fun kv hkv => h kv (List.mem_cons_of_mem _ hkv)
    exact ⟨_, by simp only [dumpsMembers, ha, hb, ok_bind]; rfl⟩

theorem dumps_dict_of_all (kvs : List (PyStr × Json)) (h : ∀ kv ∈ kvs, ∃ t, dumps kv.2 = .ok t) :
    ∃ t, dumps (.dict kvs) = .ok t := by
  match kvs, h with
  | [], _ => exact ⟨_, rfl⟩
  | (k, v) :: kvs, h =>
    obtain ⟨a, ha⟩ := h (k, v) (List.mem_cons_self _ kvs)
    obtain ⟨b, hb⟩ := dumpsMembers_of_all kvs fun kv hkv => h kv (List.mem_cons_of_mem _ hkv)
    exact ⟨_, by simp only [dumps, ha, hb, ok_bind]; rfl⟩

/-- `d[k] = v` keeps a property every value has -/
theorem dictInsert_values (P : Json → Prop) (acc : List (PyStr × Json)) (k : PyStr) (v : Json)
    (hacc : ∀ kv ∈ acc, P kv.2) (hv : P v) : ∀ kv ∈ dictInsert acc k v, P kv.2 := by
  induction acc with
  | nil => simpa [dictInsert] using hv
  | cons kv' acc ih =>
    obtain ⟨k', v'⟩ := kv'
    intro kv hkv
    unfold dictInsert at hkv
    split_ifs at hkv
    · rcases List.mem_cons.mp hkv with rfl | hkv
      · exact hv
      · exact hacc kv (List.mem_cons_of_mem _ hkv)
    · rcases List.mem_cons.mp hkv with rfl | hkv
      · exact hacc _ (List.mem_cons_self _ acc)
      · exact ih (fun kv h => hacc kv (List.mem_cons_of_mem _ h)) kv hkv

section dumpable

variable (fuel : Nat)

/-- one level of `parseValue`: `json.dumps` prints what it reads, given that it prints what the
nested arrays and objects read -/
theorem parseValue_dumpable_step
    (hi : ∀ s w r, parseItems fuel s [] = .ok (w, r) → ∃ t, dumps w = .ok t)
    (hm : ∀ s w r, parseMembers fuel s [] = .ok (w, r) → ∃ t, dumps w = .ok t)
    (s : PyStr) (v : Json) (r : PyStr) (h : parseValue (fuel + 1) s = .ok (v, r)) :
    ∃ t, dumps v = .ok t := by
  cases s with
  | nil => cases h
  | cons c r' =>
    rw [parseValue] at h
    rcases ite_ok h with h | h
    · obtain ⟨⟨_, _⟩, -, h⟩ := bind_eq_ok h
      cases h
      exact ⟨_, rfl⟩
    rcases ite_ok h with h | h
    · split at h
      · rcases ite_ok h with h | h
        · cases h; exact ⟨_, rfl⟩
        · exact hm _ _ _ h
      · exact hm _ _ _ h
    rcases ite_ok h with h | h
    · split at h
      · rcases ite_ok h with h | h
        · cases h; exact ⟨_, rfl⟩
        · exact hi _ _ _ h
      · exact hi _ _ _ h
    iterate 6 refine (ite_ok h).elim (fun h => by cases h; exact ⟨_, rfl⟩) fun h => ?_
    exact matchNumber_dumps h

/-- one level of `parseItems` -/
theorem parseItems_dumpable_step
    (hv : ∀ s v r, parseValue fuel s = .ok (v, r) → ∃ t, dumps v = .ok t)
    (hi : ∀ s acc w r, (∀ x ∈ acc, ∃ t, dumps x = .ok t) → parseItems fuel s acc = .ok (w, r) →
      ∃ t, dumps w = .ok t)
    (s : PyStr) (acc : List Json) (w : Json) (r : PyStr) (hacc : ∀ x ∈ acc, ∃ t, dumps x = .ok t)
    (h : parseItems (fuel + 1) s acc = .ok (w, r)) : ∃ t, dumps w = .ok t := by
  rw [parseItems] at h
  obtain ⟨⟨v, r'⟩, hvr, h⟩ := bind_eq_ok h
  have hacc' : ∀ x ∈ acc ++ [v], ∃ t, dumps x = .ok t := fun x hx =>
    (List.mem_append.mp hx).elim (hacc x) fun hx => List.mem_singleton.mp hx ▸ hv _ _ _ hvr
  dsimp only at h
  split at h
  · rcases ite_ok h with h | h
    · cases h
      exact dumps_list_of_all _ hacc'
    rcases ite_ok h with h | h
    · exact hi _ _ _ _ hacc' h
    · cases h
  · cases h

/-- one level of `parseMembers` -/
theorem parseMembers_dumpable_step
    (hv : ∀ s v r, parseValue fuel s = .ok (v, r) → ∃ t, dumps v = .ok t)
    (hm : ∀ s acc w r, (∀ kv ∈ acc, ∃ t, dumps kv.2 = .ok t) →
      parseMembers fuel s acc = .ok (w, r) → ∃ t, dumps w = .ok t)
    (s : PyStr) (acc : List (PyStr × Json)) (w : Json) (r : PyStr)
    (hacc : ∀ kv ∈ acc, ∃ t, dumps kv.2 = .ok t) (h : parseMembers (fuel + 1) s acc = .ok (w, r)) :
    ∃ t, dumps w = .ok t := by
  cases s with
  | nil => cases h
  | cons q r =>
    rw [parseMembers] at h
    rcases ite_ok h with h | h
    · obtain ⟨⟨key, r'⟩, -, h⟩ := bind_eq_ok h
      dsimp only at h
      split at h
      · rcases ite_ok h with h | h
        · obtain ⟨⟨v, r''⟩, hvr, h⟩ := bind_eq_ok h
          have hacc' := dictInsert_values (fun v => ∃ t, dumps v = .ok t) acc key v hacc (hv _ _ _ hvr)
          dsimp only at h
          split at h
          · rcases ite_ok h with h | h
            · cases h
              exact dumps_dict_of_all _ hacc'
            rcases ite_ok h with h | h
            · exact hm _ _ _ _ hacc' h
            · cases h
          · cases h
        · cases h
      · cases h
    · cases h

end dumpable

theorem parse_dumpable (fuel : Nat) :
    (∀ s v r, parseValue fuel s = .ok (v, r) → ∃ t, dumps v = .ok t) ∧
    (∀ s acc w r, (∀ x ∈ acc, ∃ t, dumps x = .ok t) → parseItems fuel s acc = .ok (w, r) →
      ∃ t, dumps w = .ok t) ∧
    (∀ s acc w r, (∀ kv ∈ acc, ∃ t, dumps kv.2 = .ok t) → parseMembers fuel s acc = .ok (w, r) →
      ∃ t, dumps w = .ok t) := by
  induction fuel with
  | zero =>
    refine ⟨fun _ _ _ h => ?_, fun _ _ _ _ _ h => ?_, fun _ _ _ _ _ h => ?_⟩ <;>
      (simp only [parseValue, parseItems, parseMembers] at h; cases h)
  | succ fuel ih =>
    obtain ⟨hv, hi, hm⟩ := ih
    exact ⟨parseValue_dumpable_step fuel (fun s w r => hi s [] w r fun _ h => by cases h)
        (fun s w r => hm s [] w r fun _ h => by cases h),
      parseItems_dumpable_step fuel hv hi, parseMembers_dumpable_step fuel hv hm⟩

/-- **`json.dumps` never raises on what `json.loads` returned**: the decoder refuses an integer
of more than 4300 digits, the only value the encoder raises on -/
theorem dumps_loads (s : PyStr) (v : Json) (h : loads s = .ok v) : ∃ t, dumps v = .ok t := by
  unfold loads at h
  split_ifs at h
  obtain ⟨⟨v', r⟩, hvr, h⟩ := bind_eq_ok h
  dsimp only at h
  split_ifs at h
  cases h
  exact (parse_dumpable _).1 _ _ _ hvr

end Dumps

end QQ
