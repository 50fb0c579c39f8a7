import Mathlib.Data.Int.Log
import Mathlib.Data.Rat.Floor
import Sudonit.Core.Octets

/-!
# Python values that cross a JSON boundary

The part of Python's data model a program meets when it calls `json.loads` and then `int()` on what
came out, at the generality of the language: a `str` is a sequence of code points, surrogates
included; a `float` is an IEEE double, the infinities and NaN included; an `int` is unbounded.

* `PyStr`, `PyFloat`, `JsonValue` — the values.  A dictionary is an association list with one entry
  for each key; `dictSet` is item assignment and `dictGet` is lookup.
* `roundToDouble` — the double nearest to a rational, ties to even, overflowing to an infinity.
* `pyInt` — `int(value)`, with the exception each argument raises (`IntError`).
* `utf8Decode` — `bytes.decode("utf-8")`, strict.
-/

namespace Python

open Octets

/-! ## Strings -/

/-- A code point; the surrogates are code points too. -/
abbrev CodePoint := Fin 0x110000

instance neZeroCodePoint : NeZero 0x110000 := ⟨by decide⟩

/-- A Python `str`. -/
abbrev PyStr := List CodePoint

/-- The code point an octet denotes in ASCII or Latin-1. -/
def CodePoint.ofByte (b : UInt8) : CodePoint := ⟨b.toNat, by have := b.toNat_lt; omega⟩

/-- The code point of an ASCII character. -/
def cp (c : Char) : CodePoint := CodePoint.ofByte (oct c)

/-- The `str` an ASCII byte string decodes to. -/
def ofBytes (bs : Bytes) : PyStr := bs.map CodePoint.ofByte

/-- A source literal. -/
def str (s : String) : PyStr := ofBytes (ascii s)

lemma CodePoint.ofByte_injective : Function.Injective CodePoint.ofByte := by
  intro a b h
  simpa [CodePoint.ofByte, UInt8.toNat_inj] using h

lemma ofBytes_injective : Function.Injective ofBytes :=
  List.map_injective_iff.mpr CodePoint.ofByte_injective

@[simp] lemma ofBytes_nil : ofBytes [] = [] := rfl

@[simp] lemma ofBytes_cons (b : UInt8) (bs : Bytes) :
    ofBytes (b :: bs) = CodePoint.ofByte b :: ofBytes bs := rfl

@[simp] lemma ofBytes_append (a b : Bytes) : ofBytes (a ++ b) = ofBytes a ++ ofBytes b :=
  List.map_append

/-- A continuation octet. -/
def isTail (b : UInt8) : Bool := 0x80 ≤ b && b ≤ 0xBF

/-- The code point put together from the payload bits of a multi-octet form. -/
def codePoint (n : ℕ) : CodePoint := Fin.ofNat _ n

/-- `bytes.decode("utf-8")`: the code points, or `none` where Python raises `UnicodeDecodeError`.
Overlong forms, surrogates and numbers above `0x10FFFF` are refused, as RFC 3629 has it. -/
def utf8Decode : Bytes → Option PyStr
  | [] => some []
  | a :: rest =>
      if a < 0x80 then (utf8Decode rest).map (CodePoint.ofByte a :: ·)
      else match rest with
        | [] => none
        | b :: rest =>
            if 0xC2 ≤ a ∧ a ≤ 0xDF then
              if isTail b then
                (utf8Decode rest).map (codePoint (a.toNat % 32 * 64 + b.toNat % 64) :: ·)
              else none
            else match rest with
              | [] => none
              | c :: rest =>
                  if 0xE0 ≤ a ∧ a ≤ 0xEF then
                    if isTail b ∧ isTail c ∧ (a = 0xE0 → 0xA0 ≤ b) ∧ (a = 0xED → b ≤ 0x9F) then
                      (utf8Decode rest).map (codePoint
                        (a.toNat % 16 * 4096 + b.toNat % 64 * 64 + c.toNat % 64) :: ·)
                    else none
                  else match rest with
                    | [] => none
                    | d :: rest =>
                        if 0xF0 ≤ a ∧ a ≤ 0xF4 then
                          if isTail b ∧ isTail c ∧ isTail d ∧ (a = 0xF0 → 0x90 ≤ b) ∧
                              (a = 0xF4 → b ≤ 0x8F) then
                            (utf8Decode rest).map (codePoint (a.toNat % 8 * 262144 +
                              b.toNat % 64 * 4096 + c.toNat % 64 * 64 + d.toNat % 64) :: ·)
                          else none
                        else none

/-- ASCII text decodes octet by octet. -/
theorem utf8Decode_ascii {bs : Bytes} (h : ∀ b ∈ bs, b < 0x80) :
    utf8Decode bs = some (ofBytes bs) := by
  induction bs with
  | nil => rfl
  | cons b bs ih =>
      rw [utf8Decode.eq_def]
      simp only [if_pos (h b List.mem_cons_self),
        ih (fun x hx => h x (List.mem_cons_of_mem _ hx)), Option.map_some, ofBytes_cons]

/-! ## Floats -/

/-- A Python `float`.  A finite double is the rational number it stands for; zero has a negative
twin. -/
inductive PyFloat
  | finite (q : ℚ)
  | negZero
  | inf (negative : Bool)
  | nan
  deriving DecidableEq, Repr

/-- The integer nearest to `x`, ties to even. -/
def roundHalfEven (x : ℚ) : ℤ :=
  let r := x - ⌊x⌋
  if r < 1 / 2 then ⌊x⌋
  else if 1 / 2 < r then ⌊x⌋ + 1
  else if ⌊x⌋ % 2 = 0 then ⌊x⌋ else ⌊x⌋ + 1

/-- The IEEE double nearest to `q`, ties to even: 53 significant bits, quantum `2 ^ (-1074)` at
least, and an infinity from `2 ^ 1024` on. -/
def roundToDouble (q : ℚ) : PyFloat :=
  if q = 0 then .finite 0
  else
    let quantum : ℚ := 2 ^ max (Int.log 2 |q| - 52) (-1074)
    let m : ℚ := roundHalfEven (q / quantum) * quantum
    if |m| < 2 ^ (1024 : ℕ) then .finite m else .inf (q < 0)

/-! ## JSON values -/

/-- What `json.loads` returns. -/
inductive JsonValue
  | null
  | bool (b : Bool)
  | int (n : ℤ)
  | float (f : PyFloat)
  | str (s : PyStr)
  | arr (items : List JsonValue)
  | obj (members : List (PyStr × JsonValue))

/-- A Python dictionary with string keys: one entry for each key, in insertion order. -/
abbrev Dict := List (PyStr × JsonValue)

/-- `d[k] = v`: the entry keeps its place if the key is there already. -/
def dictSet (d : Dict) (k : PyStr) (v : JsonValue) : Dict :=
  match d with
  | [] => [(k, v)]
  | (k', v') :: d => if k' = k then (k, v) :: d else (k', v') :: dictSet d k v

/-- `d.get(k)`. -/
def dictGet (d : Dict) (k : PyStr) : Option JsonValue :=
  match d with
  | [] => none
  | (k', v) :: d => if k' = k then some v else dictGet d k

/-- The dictionary a sequence of pairs builds: a later pair with the same key wins. -/
def dictOf (pairs : List (PyStr × JsonValue)) : Dict :=
  pairs.foldl (fun d kv => dictSet d kv.1 kv.2) []

/-- A new key is appended. -/
lemma dictSet_of_notMem {d : Dict} {k : PyStr} (v : JsonValue) (h : k ∉ d.map Prod.fst) :
    dictSet d k v = d ++ [(k, v)] := by
  induction d with
  | nil => rfl
  | cons e d ih =>
      obtain ⟨k₁, v₁⟩ := e
      simp only [List.map_cons, List.mem_cons, not_or] at h
      rw [dictSet, if_neg (Ne.symm h.1), ih h.2, List.cons_append]

/-- Pairs with distinct keys are the dictionary they build. -/
theorem dictOf_nodup {pairs : List (PyStr × JsonValue)} (h : (pairs.map Prod.fst).Nodup) :
    dictOf pairs = pairs := by
  suffices ∀ d : Dict, ((d ++ pairs).map Prod.fst).Nodup →
      pairs.foldl (fun d kv => dictSet d kv.1 kv.2) d = d ++ pairs by
    simpa [dictOf] using this [] (by simpa using h)
  clear h
  induction pairs with
  | nil => intro d _; simp
  | cons e pairs ih =>
      intro d hd
      have hnew : e.1 ∉ d.map Prod.fst := by
        intro hmem
        rw [List.map_append, List.map_cons, List.nodup_append] at hd
        exact hd.2.2 _ hmem _ List.mem_cons_self rfl
      rw [List.foldl_cons, dictSet_of_notMem _ hnew, ih _ (by simpa using hd)]
      simp

/-! ## `int()` -/

/-- What `int(value)` raises. -/
inductive IntError
  /-- `TypeError`: not a number and not a string -/
  | type
  /-- `ValueError`: not a numeral, longer than the digit limit, or NaN -/
  | value
  /-- `OverflowError`: an infinity -/
  | overflow
  deriving DecidableEq, Repr

/-- Digits beyond which the conversion of a decimal numeral is refused. -/
def maxStrDigits : ℕ := 4300

/-- The code points with decimal value zero; the nine after each have the values one to nine. -/
def decimalZeros : List ℕ :=
  [0x30, 0x660, 0x6f0, 0x7c0, 0x966, 0x9e6, 0xa66, 0xae6, 0xb66, 0xbe6, 0xc66, 0xce6, 0xd66, 0xde6,
    0xe50, 0xed0, 0xf20, 0x1040, 0x1090, 0x17e0, 0x1810, 0x1946, 0x19d0, 0x1a80, 0x1a90, 0x1b50,
    0x1bb0, 0x1c40, 0x1c50, 0xa620, 0xa8d0, 0xa900, 0xa9d0, 0xa9f0, 0xaa50, 0xabf0, 0xff10, 0x104a0,
    0x10d30, 0x11066, 0x110f0, 0x11136, 0x111d0, 0x112f0, 0x11450, 0x114d0, 0x11650, 0x116c0,
    0x11730, 0x118e0, 0x11950, 0x11c50, 0x11d50, 0x11da0, 0x16a60, 0x16ac0, 0x16b50, 0x1d7ce,
    0x1d7d8, 0x1d7e2, 0x1d7ec, 0x1d7f6, 0x1e140, 0x1e2f0, 0x1e950, 0x1fbf0]

/-- The decimal value of a code point, in any script. -/
def decimalDigit (c : CodePoint) : Option ℕ :=
  (decimalZeros.find? fun z => z ≤ c.val ∧ c.val < z + 10).map (c.val - ·)

/-- The blanks `int()` ignores at both ends of a string. -/
def intBlanks : List ℕ :=
  [0x9, 0xa, 0xb, 0xc, 0xd, 0x20, 0x85, 0xa0, 0x1680, 0x2000, 0x2001, 0x2002, 0x2003, 0x2004, 0x2005,
    0x2006, 0x2007, 0x2008, 0x2009, 0x200a, 0x2028, 0x2029, 0x202f, 0x205f, 0x3000]

/-- Is the code point a blank for `int()`? -/
def isIntBlank (c : CodePoint) : Bool := c.val ∈ intBlanks

/-- The digits of a numeral, single underscores between digits dropped.  `none` if it is not one. -/
def digitRun : PyStr → Option (List ℕ)
  | [] => none
  | c :: rest =>
      match decimalDigit c, rest with
      | none, _ => none
      | some d, [] => some [d]
      | some d, u :: rest =>
          if u = cp '_' then (digitRun rest).map (d :: ·) else (digitRun (u :: rest)).map (d :: ·)

/-- `int(s)` for a string. -/
def intOfStr (s : PyStr) : Except IntError ℤ :=
  let body := ((s.dropWhile isIntBlank).reverse.dropWhile isIntBlank).reverse
  let (negative, numeral) := match body with
    | c :: rest => if c = cp '-' then (true, rest) else if c = cp '+' then (false, rest) else (false, body)
    | [] => (false, [])
  match digitRun numeral with
  | none => .error .value
  | some digits =>
      if maxStrDigits < digits.length then .error .value
      else
        let n : ℤ := (digits.foldl (fun v d => v * 10 + d) 0 : ℕ)
        .ok (if negative then -n else n)

/-- `int(value)`. -/
def pyInt : JsonValue → Except IntError ℤ
  | .null => .error .type
  | .bool b => .ok (if b then 1 else 0)
  | .int n => .ok n
  | .float (.finite q) => .ok (q.num.tdiv q.den)
  | .float .negZero => .ok 0
  | .float (.inf _) => .error .overflow
  | .float .nan => .error .value
  | .str s => intOfStr s
  | .arr _ => .error .type
  | .obj _ => .error .type

end Python
