import Sudonit.Python.Value

/-!
# `json.loads` and `json.dumps`

Python's `json` module on the values of `Python.Value`, as its documentation and reference scanner
have it.

* `loads` — the scanner: standard JSON, and beyond it `NaN`, `Infinity` and `-Infinity`.  A number
  with a fraction or an exponent is a `float`, and overflows to an infinity; one without is an
  `int`, and is refused with a plain `ValueError` past the interpreter's digit limit.  Arrays and
  objects nested deeper than the interpreter recurses raise `RecursionError`.
* `dumps` — `json.dumps(v, sort_keys=True, separators=(",", ":"))` with the default `ensure_ascii`: the text
  (`rendered`), or a `RecursionError` if the value is nested deeper than the interpreter recurses.

The scanner is written with fuel, one unit for each value, item and member; `loads` starts it with
enough (`loads_ne_fuel`).
-/

namespace Python

open Octets

/-! ## Scanning -/

/-- How `json.loads` fails. -/
inductive JsonError
  /-- `JSONDecodeError`: not a JSON text -/
  | decode
  /-- `ValueError`: an integer literal past the digit limit -/
  | value
  /-- `RecursionError`: nested too deep -/
  | recursion
  /-- the scanner's own fuel; never the outcome of `loads` -/
  | fuel
  deriving DecidableEq, Repr

/-- JSON whitespace. -/
def isBlank (c : CodePoint) : Bool := c = cp ' ' || c = cp '\t' || c = cp '\n' || c = cp '\r'

def skipBlanks (s : PyStr) : PyStr := s.dropWhile isBlank

/-- The value of a hexadecimal digit, either case. -/
def hexDigit (c : CodePoint) : Option ℕ :=
  if 48 ≤ c.val ∧ c.val ≤ 57 then some (c.val - 48)
  else if 97 ≤ c.val ∧ c.val ≤ 102 then some (c.val - 87)
  else if 65 ≤ c.val ∧ c.val ≤ 70 then some (c.val - 55)
  else none

/-- Four hexadecimal digits. -/
def scanHex4 : PyStr → Option (ℕ × PyStr)
  | a :: b :: c :: d :: rest => do
      let a ← hexDigit a
      let b ← hexDigit b
      let c ← hexDigit c
      let d ← hexDigit d
      return (a * 4096 + b * 256 + c * 16 + d, rest)
  | _ => none

def isHighSurrogate (n : ℕ) : Bool := 0xD800 ≤ n && n ≤ 0xDBFF

def isLowSurrogate (n : ℕ) : Bool := 0xDC00 ≤ n && n ≤ 0xDFFF

/-- The code point of a surrogate pair. -/
def joinSurrogates (hi lo : ℕ) : ℕ := 0x10000 + (hi - 0xD800) * 0x400 + (lo - 0xDC00)

/-- What follows `\u`: a code unit, joined with a low surrogate escaped right after it. -/
def scanUnicodeEscape (s : PyStr) : Option (CodePoint × PyStr) :=
  match scanHex4 s with
  | none => none
  | some (hi, rest) =>
      match rest with
      | b :: u :: more =>
          if isHighSurrogate hi ∧ b = cp '\\' ∧ u = cp 'u' then
            match scanHex4 more with
            | none => none
            | some (lo, rest') =>
                if isLowSurrogate lo then some (codePoint (joinSurrogates hi lo), rest')
                else some (codePoint hi, rest)
          else some (codePoint hi, rest)
      | _ => some (codePoint hi, rest)

/-- The character a one-letter escape stands for. -/
def shortEscape (c : CodePoint) : Option CodePoint :=
  if c = cp '"' then some (cp '"')
  else if c = cp '\\' then some (cp '\\')
  else if c = cp '/' then some (cp '/')
  else if c = cp 'b' then some 8
  else if c = cp 'f' then some 12
  else if c = cp 'n' then some (cp '\n')
  else if c = cp 'r' then some (cp '\r')
  else if c = cp 't' then some (cp '\t')
  else none

/-- One character of a string literal, escaped or not; control characters must be escaped. -/
def scanChar : PyStr → Option (CodePoint × PyStr)
  | [] => none
  | c :: rest =>
      if c = cp '\\' then
        match rest with
        | [] => none
        | e :: rest =>
            if e = cp 'u' then scanUnicodeEscape rest
            else (shortEscape e).map fun x => (x, rest)
      else if c.val < 0x20 then none
      else some (c, rest)

lemma scanHex4_length {s rest : PyStr} {n : ℕ} (h : scanHex4 s = some (n, rest)) :
    rest.length < s.length := by
  unfold scanHex4 at h
  split at h
  · simp only [Option.pure_def, Option.bind_eq_bind, Option.bind_eq_some_iff, Option.some.injEq,
      Prod.mk.injEq] at h
    obtain ⟨_, -, _, -, _, -, _, -, -, rfl⟩ := h
    simp only [List.length_cons]
    omega
  · exact absurd h (by simp)

lemma scanUnicodeEscape_length {s rest : PyStr} {c : CodePoint}
    (h : scanUnicodeEscape s = some (c, rest)) : rest.length < s.length := by
  unfold scanUnicodeEscape at h
  split at h
  · exact absurd h (by simp)
  · rename_i hi after hhex
    have hlen := scanHex4_length hhex
    have alone : some (codePoint hi, after) = some (c, rest) → rest.length < s.length := by
      intro h
      simp only [Option.some.injEq, Prod.mk.injEq] at h
      rw [← h.2]
      exact hlen
    split at h
    · rename_i b u more
      split_ifs at h
      · split at h
        · exact absurd h (by simp)
        · rename_i lo after' hhex'
          have hlen' := scanHex4_length hhex'
          split_ifs at h
          · simp only [Option.some.injEq, Prod.mk.injEq] at h
            rw [← h.2]
            simp only [List.length_cons] at hlen
            omega
          · exact alone h
      · exact alone h
    · exact alone h

/-- A scanned character consumes input. -/
lemma scanChar_length {s rest : PyStr} {c : CodePoint} (h : scanChar s = some (c, rest)) :
    rest.length < s.length := by
  match s with
  | [] => simp [scanChar] at h
  | a :: s =>
      rw [scanChar.eq_def] at h
      simp only at h
      split_ifs at h
      · cases s with
        | nil => simp at h
        | cons e s =>
            simp only [List.length_cons] at h ⊢
            split_ifs at h
            · have := scanUnicodeEscape_length h
              omega
            · simp only [Option.map_eq_some_iff, Prod.mk.injEq] at h
              obtain ⟨_, -, -, rfl⟩ := h
              omega
      · simp only [Option.some.injEq, Prod.mk.injEq] at h
        obtain ⟨-, rfl⟩ := h
        simp

/-- The rest of a string literal, after its opening quote. -/
def scanString (s : PyStr) : Except JsonError (PyStr × PyStr) :=
  match s with
  | [] => .error .decode
  | c :: rest =>
      if c = cp '"' then .ok ([], rest)
      else
        match _h : scanChar (c :: rest) with
        | none => .error .decode
        | some (x, rest') =>
            match scanString rest' with
            | .error e => .error e
            | .ok (t, rest'') => .ok (x :: t, rest'')
termination_by s.length
decreasing_by exact scanChar_length _h

/-- Is the code point an ASCII digit? -/
def isAsciiDigit (c : CodePoint) : Bool := 48 ≤ c.val && c.val ≤ 57

/-- The number a run of ASCII digits denotes. -/
def digitsValue (ds : PyStr) : ℕ := ds.foldl (fun v c => v * 10 + (c.val - 48)) 0

/-- The integer part of a number: `0`, or digits that do not start with `0`. -/
def scanIntPart : PyStr → Option (PyStr × PyStr)
  | [] => none
  | c :: rest =>
      if c = cp '0' then some ([c], rest)
      else if isAsciiDigit c then
        some (c :: rest.takeWhile isAsciiDigit, rest.dropWhile isAsciiDigit)
      else none

/-- The fraction of a number, if a digit follows the point. -/
def scanFraction : PyStr → Option (PyStr × PyStr)
  | c :: d :: rest =>
      if c = cp '.' ∧ isAsciiDigit d then
        some (d :: rest.takeWhile isAsciiDigit, rest.dropWhile isAsciiDigit)
      else none
  | _ => none

/-- An optional sign: is it a minus, and what follows. -/
def scanSign : PyStr → Bool × PyStr
  | [] => (false, [])
  | g :: rest =>
      if g = cp '-' then (true, rest) else if g = cp '+' then (false, rest) else (false, g :: rest)

/-- The exponent of a number, if a digit follows the letter and the sign. -/
def scanExponent : PyStr → Option (ℤ × PyStr)
  | [] => none
  | c :: rest =>
      let ds := (scanSign rest).2.takeWhile isAsciiDigit
      if (c = cp 'e' ∨ c = cp 'E') ∧ ds ≠ [] then
        some ((if (scanSign rest).1 then -(digitsValue ds : ℤ) else digitsValue ds),
          (scanSign rest).2.dropWhile isAsciiDigit)
      else none

/-- A number, its sign read already: an `int` unless a fraction or an exponent follows. -/
def scanNumber (negative : Bool) (s : PyStr) : Except JsonError (JsonValue × PyStr) :=
  match scanIntPart s with
  | none => .error .decode
  | some (ds, rest) =>
      let fraction := scanFraction rest
      let afterFraction := (fraction.map Prod.snd).getD rest
      let exponent := scanExponent afterFraction
      match fraction, exponent with
      | none, none =>
          if maxStrDigits < ds.length then .error .value
          else .ok (.int (if negative then -(digitsValue ds : ℤ) else digitsValue ds), rest)
      | _, _ =>
          let fs := (fraction.map Prod.fst).getD []
          let magnitude : ℚ := digitsValue (ds ++ fs) *
            10 ^ ((exponent.map Prod.fst).getD 0 - fs.length)
          let value := roundToDouble (if negative then -magnitude else magnitude)
          .ok (.float (if negative ∧ value = .finite 0 then .negZero else value),
            (exponent.map Prod.snd).getD afterFraction)

/-- A literal word. -/
def scanWord (word : String) (v : JsonValue) (s : PyStr) : Except JsonError (JsonValue × PyStr) :=
  if str word <+: s then .ok (v, s.drop (str word).length) else .error .decode

/-- The next character that is not a blank. -/
def nextChar (s : PyStr) : Except JsonError (CodePoint × PyStr) :=
  match skipBlanks s with
  | [] => .error .decode
  | c :: rest => .ok (c, rest)

/-- Entering a container uses up one level of recursion. -/
def enter : ℕ → Except JsonError ℕ
  | 0 => .error .recursion
  | depth + 1 => .ok depth

mutual

/-- One value, starting at its first character. -/
def scanOnce : ℕ → ℕ → PyStr → Except JsonError (JsonValue × PyStr)
  | 0, _, _ => .error .fuel
  | fuel + 1, depth, s =>
      match s with
      | [] => .error .decode
      | c :: rest =>
          if c = cp '"' then do
            let (t, rest) ← scanString rest
            return (.str t, rest)
          else if c = cp '{' then do
            let depth ← enter depth
            let (d, rest) ← nextChar rest
            if d = cp '}' then return (.obj [], rest)
            let (members, rest) ← scanMembers fuel depth (d :: rest)
            return (.obj (dictOf members), rest)
          else if c = cp '[' then do
            let depth ← enter depth
            let (d, rest) ← nextChar rest
            if d = cp ']' then return (.arr [], rest)
            let (items, rest) ← scanItems fuel depth (d :: rest)
            return (.arr items, rest)
          else if c = cp 'n' then scanWord "null" .null (c :: rest)
          else if c = cp 't' then scanWord "true" (.bool true) (c :: rest)
          else if c = cp 'f' then scanWord "false" (.bool false) (c :: rest)
          else if c = cp 'N' then scanWord "NaN" (.float .nan) (c :: rest)
          else if c = cp 'I' then scanWord "Infinity" (.float (.inf false)) (c :: rest)
          else if c = cp '-' then
            if str "Infinity" <+: rest then scanWord "Infinity" (.float (.inf true)) rest
            else scanNumber true rest
          else scanNumber false (c :: rest)

/-- The items of an array, from the first, through the closing bracket. -/
def scanItems : ℕ → ℕ → PyStr → Except JsonError (List JsonValue × PyStr)
  | 0, _, _ => .error .fuel
  | fuel + 1, depth, s => do
      let (v, rest) ← scanOnce fuel depth s
      let (d, rest) ← nextChar rest
      if d = cp ']' then return ([v], rest)
      else if d = cp ',' then
        let (items, rest) ← scanItems fuel depth (skipBlanks rest)
        return (v :: items, rest)
      else .error .decode

/-- The members of an object, from the first, through the closing brace. -/
def scanMembers : ℕ → ℕ → PyStr → Except JsonError (List (PyStr × JsonValue) × PyStr)
  | 0, _, _ => .error .fuel
  | fuel + 1, depth, s =>
      match s with
      | [] => .error .decode
      | q :: rest =>
          if q = cp '"' then do
            let (k, rest) ← scanString rest
            let (colon, rest) ← nextChar rest
            if colon = cp ':' then
              let (v, rest) ← scanOnce fuel depth (skipBlanks rest)
              let (d, rest) ← nextChar rest
              if d = cp '}' then return ([(k, v)], rest)
              else if d = cp ',' then
                let (members, rest) ← scanMembers fuel depth (skipBlanks rest)
                return ((k, v) :: members, rest)
              else .error .decode
            else .error .decode
          else .error .decode

end

/-- `json.loads(s)` on an interpreter that recurses `depth` containers deep. -/
def loads (depth : ℕ) (s : PyStr) : Except JsonError JsonValue :=
  if s.head? = some 0xFEFF then .error .decode
  else
    do
      let (v, rest) ← scanOnce (2 * s.length + 1) depth (skipBlanks s)
      if skipBlanks rest = [] then return v else .error .decode

/-! ## Dumping -/

/-- A hexadecimal digit, lower case. -/
def hexChar (n : ℕ) : UInt8 := UInt8.ofNat (if n < 10 then 48 + n else 87 + n)

/-- `\uXXXX`. -/
def unicodeEscape (n : ℕ) : Bytes :=
  [oct '\\', oct 'u', hexChar (n / 4096 % 16), hexChar (n / 256 % 16), hexChar (n / 16 % 16),
    hexChar (n % 16)]

/-- A character as `ensure_ascii` writes it. -/
def escapeChar (c : CodePoint) : Bytes :=
  if c = cp '"' then [oct '\\', oct '"']
  else if c = cp '\\' then [oct '\\', oct '\\']
  else if c = cp '\n' then [oct '\\', oct 'n']
  else if c = cp '\r' then [oct '\\', oct 'r']
  else if c = cp '\t' then [oct '\\', oct 't']
  else if c = 12 then [oct '\\', oct 'f']
  else if c = 8 then [oct '\\', oct 'b']
  else if 0x20 ≤ c.val ∧ c.val ≤ 0x7E then [UInt8.ofNat c.val]
  else if c.val < 0x10000 then unicodeEscape c.val
  else unicodeEscape (0xD800 + (c.val - 0x10000) / 0x400) ++
    unicodeEscape (0xDC00 + (c.val - 0x10000) % 0x400)

/-- The inside of a string literal. -/
def escape (s : PyStr) : Bytes := s.flatMap escapeChar

/-- A string literal. -/
def quoted (s : PyStr) : Bytes := oct '"' :: escape s ++ [oct '"']

/-- An integer literal. -/
def intRepr (n : ℤ) : Bytes := if n < 0 then oct '-' :: decimal n.natAbs else decimal n.natAbs

/-- The `p` significant digits nearest to a positive `q`, as an integer and its decimal exponent. -/
def significant (p : ℕ) (q : ℚ) : ℕ × ℤ :=
  let e : ℤ := Int.log 10 q - p + 1
  ((roundHalfEven (q / (10 : ℚ) ^ e)).toNat, e)

/-- The neighbours of `q` with `p` significant digits, the nearer one first. -/
def neighbours (p : ℕ) (q : ℚ) : List (ℕ × ℤ) :=
  let (m, e) := significant p q
  [(m, e), (if (m : ℚ) * 10 ^ e ≤ q then m + 1 else m - 1, e)]

/-- The shortest digits that read back as `q`, at most seventeen; of two that do, the nearer. -/
def shortestDigits (q : ℚ) : ℕ × ℤ :=
  ((List.range' 1 17).flatMap fun p => neighbours p q).find?
    (fun me => roundToDouble (me.1 * (10 : ℚ) ^ me.2) = .finite q) |>.getD (significant 17 q)

/-- `float.__repr__` of a positive double: positional for exponents from `-4` to `15`, scientific
otherwise. -/
def positiveRepr (q : ℚ) : Bytes :=
  let (m, e) := shortestDigits q
  let ds := ((decimal m).reverse.dropWhile (· = oct '0')).reverse
  let point : ℤ := (decimal m).length + e
  if -4 < point ∧ point ≤ 16 then
    if point ≤ 0 then ascii "0." ++ List.replicate (-point).toNat (oct '0') ++ ds
    else if (ds.length : ℤ) ≤ point then
      ds ++ List.replicate (point.toNat - ds.length) (oct '0') ++ ascii ".0"
    else ds.take point.toNat ++ ascii "." ++ ds.drop point.toNat
  else
    let exponent := point - 1
    let es := decimal exponent.natAbs
    ds.take 1 ++ (if ds.length = 1 then [] else ascii "." ++ ds.drop 1) ++
      ascii (if exponent < 0 then "e-" else "e+") ++
      List.replicate (2 - es.length) (oct '0') ++ es

/-- A float literal, as `json` writes it. -/
def floatRepr : PyFloat → Bytes
  | .nan => ascii "NaN"
  | .inf false => ascii "Infinity"
  | .inf true => ascii "-Infinity"
  | .negZero => ascii "-0.0"
  | .finite q =>
      if q = 0 then ascii "0.0"
      else if q < 0 then oct '-' :: positiveRepr (-q) else positiveRepr q

/-- The order of strings, code point by code point. -/
def keyLe : PyStr → PyStr → Bool
  | [], _ => true
  | _ :: _, [] => false
  | a :: as, b :: bs => if a.val < b.val then true else if b.val < a.val then false else keyLe as bs

/-- Insert a dumped member at its place in the order of the keys. -/
def insertMember (m : PyStr × Bytes) : List (PyStr × Bytes) → List (PyStr × Bytes)
  | [] => [m]
  | m' :: ms => if keyLe m.1 m'.1 then m :: m' :: ms else m' :: insertMember m ms

/-- `sort_keys`. -/
def sortMembers (ms : List (PyStr × Bytes)) : List (PyStr × Bytes) := ms.foldr insertMember []

/-- Dumped items or members with commas between them. -/
def commaJoin : List Bytes → Bytes
  | [] => []
  | [b] => b
  | b :: b' :: bs => b ++ oct ',' :: commaJoin (b' :: bs)

/-- An object literal from its dumped members, in this order. -/
def objectText (ms : List (PyStr × Bytes)) : Bytes :=
  oct '{' :: commaJoin (ms.map fun m => quoted m.1 ++ oct ':' :: m.2) ++ [oct '}']

mutual

/-- The text of a value: keys sorted, no blanks, ASCII only. -/
def rendered : JsonValue → Bytes
  | .null => ascii "null"
  | .bool true => ascii "true"
  | .bool false => ascii "false"
  | .int n => intRepr n
  | .float f => floatRepr f
  | .str s => quoted s
  | .arr items => oct '[' :: commaJoin (renderedItems items) ++ [oct ']']
  | .obj members => objectText (sortMembers (renderedMembers members))

def renderedItems : List JsonValue → List Bytes
  | [] => []
  | v :: vs => rendered v :: renderedItems vs

def renderedMembers : List (PyStr × JsonValue) → List (PyStr × Bytes)
  | [] => []
  | (k, v) :: ms => (k, rendered v) :: renderedMembers ms

end

mutual

/-- How many containers deep a value is nested. -/
def nesting : JsonValue → ℕ
  | .arr items => nestingItems items + 1
  | .obj members => nestingMembers members + 1
  | _ => 0

def nestingItems : List JsonValue → ℕ
  | [] => 0
  | v :: vs => max (nesting v) (nestingItems vs)

def nestingMembers : List (PyStr × JsonValue) → ℕ
  | [] => 0
  | (_, v) :: ms => max (nesting v) (nestingMembers ms)

end

/-- `json.dumps(v, sort_keys=True, separators=(",", ":"))`, encoded, on an interpreter that recurses `depth`
containers deep.  The integers are such as `loads` returns: within the digit limit. -/
def dumps (depth : ℕ) (v : JsonValue) : Except JsonError Bytes :=
  if nesting v ≤ depth then .ok (rendered v) else .error .recursion

lemma nestingMembers_le_iff {ms : List (PyStr × JsonValue)} {n : ℕ} :
    nestingMembers ms ≤ n ↔ ∀ m ∈ ms, nesting m.2 ≤ n := by
  induction ms with
  | nil => simp [nestingMembers]
  | cons m ms ih =>
      obtain ⟨k, v⟩ := m
      rw [nestingMembers, max_le_iff, ih, List.forall_mem_cons]

lemma dumps_ok_iff {depth : ℕ} {v : JsonValue} {text : Bytes} :
    dumps depth v = .ok text ↔ nesting v ≤ depth ∧ rendered v = text := by
  rw [dumps]
  split_ifs with h <;> simp [h]

end Python
