import QdrantQwen.Py.Float
import Mathlib.Data.List.Infix

/-!
# Python values read from JSON, and the operations the code applies to them

Every value the programs take from a request line or a response body is what `json.loads`
builds: `None`, a `bool`, an `int`, a `float`, a `str`, a `list` or a `dict`.  The code reads
them with `.get`, `len`, `in`, `[...]`, slicing, iteration and truth tests, and each of these
raises on some types.  They are modelled here once, with the exception and the text CPython
gives, so that the handlers of the other modules can be read against the source line by line.

* `Json`                 the value;
* `Json.get`             `v.get(k, default)`: `AttributeError` unless `v` is a `dict`;
* `Json.len`, `Json.iter`, `Json.truthy`, `Json.index0`, `Json.contains`, `Json.subscript`,
  `Json.sliceTo`, `Json.extend`;
* `Json.toStr`           `str(v)`, as an f-string prints `v`;
* `Json.hasKey`          a `dict` with the key `k` (what "the result contains an 'error' key"
                         means).
-/

namespace QQ

/-- a value built by `json.loads`, or by a literal of the code -/
inductive Json where
  | null
  | bool (b : Bool)
  | int (n : Int)
  | float (x : PyFloat)
  | str (s : PyStr)
  | list (xs : List Json)
  | dict (kvs : List (PyStr × Json))

namespace Json

/-- a `dict` literal of the code, its keys written as Lean strings -/
def obj (kvs : List (String × Json)) : Json := dict (kvs.map fun kv => (pyStr kv.1, kv.2))

/-- a `str` literal of the code -/
def s (t : String) : Json := str (pyStr t)

/-- `type(v).__name__` -/
def typeName : Json → PyStr
  | null => pyStr "NoneType"
  | bool _ => pyStr "bool"
  | int _ => pyStr "int"
  | float _ => pyStr "float"
  | str _ => pyStr "str"
  | list _ => pyStr "list"
  | dict _ => pyStr "dict"

/-- the `AttributeError` of `v.a` for a method `a` the type of `v` lacks -/
def noAttr (v : Json) (a : String) : PyExc :=
  ⟨.AttributeError, pyStr "'" ++ v.typeName ++ pyStr "' object has no attribute '" ++ pyStr a ++
    pyStr "'"⟩

/-- `v.get(k, default)` -/
def get (v : Json) (k : PyStr) (default : Json) : Except PyExc Json :=
  match v with
  | dict kvs => .ok ((kvs.lookup k).getD default)
  | v => .error (noAttr v "get")

/-- `len(v)` -/
def len : Json → Except PyExc Nat
  | str t => .ok t.length
  | list xs => .ok xs.length
  | dict kvs => .ok kvs.length
  | v => .error ⟨.TypeError, pyStr "object of type '" ++ v.typeName ++ pyStr "' has no len()"⟩

/-- `iter(v)`: the items a `for` loop or `zip` reads -/
def iter : Json → Except PyExc (List Json)
  | str t => .ok (t.map fun c => str [c])
  | list xs => .ok xs
  | dict kvs => .ok (kvs.map fun kv => str kv.1)
  | v => .error ⟨.TypeError, pyStr "'" ++ v.typeName ++ pyStr "' object is not iterable"⟩

/-- `bool(v)`, the test of an `if` -/
def truthy : Json → Bool
  | null => false
  | bool b => b
  | int n => n != 0
  | float (.fin q) => q != 0
  | float _ => true
  | str t => !t.isEmpty
  | list xs => !xs.isEmpty
  | dict kvs => !kvs.isEmpty

/-- `v[0]` -/
def index0 : Json → Except PyExc Json
  | list (x :: _) => .ok x
  | list [] => .error ⟨.IndexError, pyStr "list index out of range"⟩
  | str (c :: _) => .ok (str [c])
  | str [] => .error ⟨.IndexError, pyStr "string index out of range"⟩
  | dict _ => .error ⟨.KeyError, pyStr "0"⟩
  | v => .error ⟨.TypeError, pyStr "'" ++ v.typeName ++ pyStr "' object is not subscriptable"⟩

/-- `k in v` for a `str` key -/
def contains (k : PyStr) : Json → Except PyExc Bool
  | dict kvs => .ok (kvs.lookup k).isSome
  | list xs => .ok (xs.any fun x => match x with | str t => t == k | _ => false)
  | str t => .ok (decide (k <:+: t))
  | v => .error ⟨.TypeError, pyStr "argument of type '" ++ v.typeName ++
      pyStr "' is not iterable"⟩

/-- `v[k]` for a `str` key -/
def subscript (v : Json) (k : PyStr) : Except PyExc Json :=
  match v with
  | dict kvs =>
    match kvs.lookup k with
    | some x => .ok x
    | none => .error ⟨.KeyError, pyStr "'" ++ k ++ pyStr "'"⟩
  | list _ => .error ⟨.TypeError, pyStr "list indices must be integers or slices, not str"⟩
  | str _ => .error ⟨.TypeError, pyStr "string indices must be integers, not 'str'"⟩
  | v => .error ⟨.TypeError, pyStr "'" ++ v.typeName ++ pyStr "' object is not subscriptable"⟩

/-- `v[:n]` -/
def sliceTo (v : Json) (n : Nat) : Except PyExc Json :=
  match v with
  | list xs => .ok (list (xs.take n))
  | str t => .ok (str (t.take n))
  | dict _ => .error ⟨.KeyError, pyStr "slice(None, " ++ showInt n ++ pyStr ", None)"⟩
  | v => .error ⟨.TypeError, pyStr "'" ++ v.typeName ++ pyStr "' object is not subscriptable"⟩

/-- `v.extend(ys)` for a list `ys`: the list `v` after the call -/
def extend (v : Json) (ys : List Json) : Except PyExc Json :=
  match v with
  | list xs => .ok (list (xs ++ ys))
  | v => .error (noAttr v "extend")

/-- `v` is a `dict` with the key `k` -/
def hasKey (v : Json) (k : PyStr) : Bool :=
  match v with
  | dict kvs => (kvs.lookup k).isSome
  | _ => false

end Json

/-! ## `str(v)` -/

/-- a code point that `repr` prints as it is (`str.isprintable`; CPython also escapes the
unassigned and format characters of the Unicode database, which are not listed here) -/
def isPrintable (c : CodePoint) : Bool :=
  !(c.val < 0x20 || (0x7F ≤ c.val && c.val ≤ 0xA0) || (0x80 ≤ c.val && isSpace c) ||
    isSurrogate c || (0xE000 ≤ c.val && c.val ≤ 0xF8FF))

/-- one code point as `repr` of a `str` quoted with `q` prints it -/
def reprChar (q : CodePoint) (c : CodePoint) : PyStr :=
  if c = q ∨ c = cp '\\' then [cp '\\', c]
  else if c = cp '\t' then pyStr "\\t"
  else if c = cp '\n' then pyStr "\\n"
  else if c = cp '\r' then pyStr "\\r"
  else if isPrintable c then [c]
  else if c.val < 0x100 then pyStr "\\x" ++ hexPad 2 c.val
  else if c.val < 0x10000 then pyStr "\\u" ++ hexPad 4 c.val
  else pyStr "\\U" ++ hexPad 8 c.val

/-- `repr(s)` of a `str`: single quotes unless the text has one and no double quote -/
def reprStr (t : PyStr) : PyStr :=
  let q := if cp '\'' ∈ t ∧ cp '"' ∉ t then cp '"' else cp '\''
  q :: t.flatMap (reprChar q) ++ [q]

mutual
/-- `repr(v)` -/
def Json.repr : Json → PyStr
  | .null => pyStr "None"
  | .bool true => pyStr "True"
  | .bool false => pyStr "False"
  | .int n => showInt n
  | .float x => x.repr
  | .str t => reprStr t
  | .list xs => pyStr "[" ++ Json.reprList xs ++ pyStr "]"
  | .dict kvs => pyStr "\x7b" ++ Json.reprDict kvs ++ pyStr "\x7d"

/-- the items of a `list`, as `repr` joins them -/
def Json.reprList : List Json → PyStr
  | [] => []
  | [x] => x.repr
  | x :: xs => x.repr ++ pyStr ", " ++ Json.reprList xs

/-- the items of a `dict`, as `repr` joins them -/
def Json.reprDict : List (PyStr × Json) → PyStr
  | [] => []
  | [(k, v)] => reprStr k ++ pyStr ": " ++ v.repr
  | (k, v) :: kvs => reprStr k ++ pyStr ": " ++ v.repr ++ pyStr ", " ++ Json.reprDict kvs
end

/-- `str(v)`, what an f-string prints for `{v}` -/
def Json.toStr : Json → PyStr
  | .str t => t
  | v => v.repr

mutual
/-- how deep lists and dicts nest in a value, `0` for a scalar -/
def Json.depth : Json → Nat
  | .list xs => Json.depthItems xs + 1
  | .dict kvs => Json.depthMembers kvs + 1
  | _ => 0

/-- the deepest item of a list -/
def Json.depthItems : List Json → Nat
  | [] => 0
  | x :: xs => max x.depth (Json.depthItems xs)

/-- the deepest value of a dict -/
def Json.depthMembers : List (PyStr × Json) → Nat
  | [] => 0
  | (_, v) :: kvs => max v.depth (Json.depthMembers kvs)
end

end QQ
