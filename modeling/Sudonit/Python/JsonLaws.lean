import Sudonit.Python.Json

/-!
# Laws of `json.loads` and `json.dumps`

* `loads_ne_fuel` — the scanner always has fuel enough, so its outcome is one Python has.  One
  induction says what a scan leaves and how much fuel it takes (`scan_scans`).
* `escaped_escapeChar` — the four ways a character is written, from which every law of written strings
  follows.
* `loads_flatText` — a flat object of strings and integers reads back as the dictionary it was
  written from, whatever the order of its members.  Its steps are a character
  (`scanChar_escapeChar`), a string (`scanString_escape`), a value (`scanOnce_rendered`) and a member
  (`scanMembers_member`).
-/

namespace Python

open Octets

/-! ## Every scan consumes input -/

/-- A scan that succeeds leaves fewer than `n` characters. -/
def Leaves {α : Type} (n : ℕ) (r : Except JsonError (α × PyStr)) : Prop :=
  ∀ a rest, r = .ok (a, rest) → rest.length < n

/-- A scan that has fuel enough. -/
def Fuelled {α : Type} (r : Except JsonError α) : Prop := r ≠ .error .fuel

/-- Both: what a scan that is given enough does. -/
structure Scans {α : Type} (n : ℕ) (r : Except JsonError (α × PyStr)) : Prop where
  leaves : Leaves n r
  fuelled : Fuelled r

section Scans

variable {α β : Type} {m n : ℕ}

lemma Scans.ok {a : α} {rest : PyStr} (h : rest.length < n) : Scans n (.ok (a, rest)) := by
  refine ⟨?_, by simp [Fuelled]⟩
  rintro b rest' ⟨⟩
  exact h

lemma Scans.decode : Scans n (.error .decode : Except JsonError (α × PyStr)) := by
  refine ⟨?_, by simp [Fuelled]⟩
  rintro b rest ⟨⟩

lemma Scans.mono {r : Except JsonError (α × PyStr)} (h : Scans m r) (hmn : m ≤ n) : Scans n r :=
  ⟨fun a rest hr => lt_of_lt_of_le (h.leaves a rest hr) hmn, h.fuelled⟩

/-- Sequencing: the second half goes on with what the first one left. -/
lemma Scans.bind {x : Except JsonError (α × PyStr)} {f : α × PyStr → Except JsonError (β × PyStr)}
    (hx : Scans m x) (hf : ∀ a rest, rest.length < m → Scans n (f (a, rest))) : Scans n (x >>= f) := by
  cases x with
  | error e =>
      refine ⟨?_, fun h => hx.fuelled (by cases h; rfl)⟩
      rintro b rest ⟨⟩
  | ok r => exact hf r.1 r.2 (hx.leaves r.1 r.2 rfl)

end Scans

section Fuel

variable {fuel : ℕ}

end Fuel

@[simp] lemma ofByte_eq_cp (b : UInt8) (c : Char) : CodePoint.ofByte b = cp c ↔ b = oct c :=
  CodePoint.ofByte_injective.eq_iff

@[simp] lemma val_ofByte (b : UInt8) : (CodePoint.ofByte b).val = b.toNat := rfl

@[simp] lemma codePoint_val (c : CodePoint) : codePoint c.val = c := by
  simp [codePoint]

lemma ofByte_ofNat {c : CodePoint} (h : c.val < 256) : CodePoint.ofByte (UInt8.ofNat c.val) = c := by
  apply Fin.ext
  rw [val_ofByte, UInt8.toNat_ofNat', Nat.mod_eq_of_lt h]

/-- A printable ASCII octet. -/
def Printable (b : UInt8) : Prop := 0x20 ≤ b ∧ b ≤ 0x7E

instance (b : UInt8) : Decidable (Printable b) := inferInstanceAs (Decidable (_ ∧ _))

/-- A printable octet that needs no escape. -/
def Bare (b : UInt8) : Prop := Printable b ∧ b ≠ oct '"' ∧ b ≠ oct '\\'

instance (b : UInt8) : Decidable (Bare b) := inferInstanceAs (Decidable (_ ∧ _ ∧ _))

/-- The characters with an escape of two octets, and what stands behind its backslash. -/
def shortEscapes : List (UInt8 × UInt8) :=
  [(oct '"', oct '"'), (oct '\\', oct '\\'), (oct '\n', oct 'n'), (oct '\r', oct 'r'), (oct '\t', oct 't'),
    (12, oct 'f'), (8, oct 'b')]

/-- A character and what `ensure_ascii` makes of it: a short escape, the character itself, the escape of
its code unit or those of its surrogates. -/
inductive Escaped : CodePoint → Bytes → Prop
  | short {x e : UInt8} (h : (x, e) ∈ shortEscapes) : Escaped (CodePoint.ofByte x) [oct '\\', e]
  | bare {b : UInt8} (hb : Bare b) : Escaped (CodePoint.ofByte b) [b]
  | unit {c : CodePoint} (h : c.val < 0x10000) : Escaped c (unicodeEscape c.val)
  | pair {c : CodePoint} (h : 0x10000 ≤ c.val) :
      Escaped c (unicodeEscape (0xD800 + (c.val - 0x10000) / 0x400) ++
        unicodeEscape (0xDC00 + (c.val - 0x10000) % 0x400))

/-- **Every character is written in one of the four ways.** -/
theorem escaped_escapeChar (c : CodePoint) : Escaped c (escapeChar c) := by
  unfold escapeChar
  refine iteInduction (motive := Escaped c) (fun h₁ => ?_) fun h₁ => ?_
  · exact h₁ ▸ .short (show (oct '"', oct '"') ∈ shortEscapes by decide)
  refine iteInduction (motive := Escaped c) (fun h₂ => ?_) fun h₂ => ?_
  · exact h₂ ▸ .short (show (oct '\\', oct '\\') ∈ shortEscapes by decide)
  refine iteInduction (motive := Escaped c) (fun h₃ => ?_) fun h₃ => ?_
  · exact h₃ ▸ .short (show (oct '\n', oct 'n') ∈ shortEscapes by decide)
  refine iteInduction (motive := Escaped c) (fun h₄ => ?_) fun h₄ => ?_
  · exact h₄ ▸ .short (show (oct '\r', oct 'r') ∈ shortEscapes by decide)
  refine iteInduction (motive := Escaped c) (fun h₅ => ?_) fun h₅ => ?_
  · exact h₅ ▸ .short (show (oct '\t', oct 't') ∈ shortEscapes by decide)
  refine iteInduction (motive := Escaped c) (fun h₆ => ?_) fun h₆ => ?_
  · exact h₆ ▸ .short (show ((12 : UInt8), oct 'f') ∈ shortEscapes by decide)
  refine iteInduction (motive := Escaped c) (fun h₇ => ?_) fun h₇ => ?_
  · exact h₇ ▸ .short (show ((8 : UInt8), oct 'b') ∈ shortEscapes by decide)
  refine iteInduction (motive := Escaped c) (fun h₈ => ?_) fun h₈ => ?_
  · have hc : CodePoint.ofByte (UInt8.ofNat c.val) = c := ofByte_ofNat (by omega)
    have hval : (UInt8.ofNat c.val).toNat = c.val := by
      rw [UInt8.toNat_ofNat', Nat.mod_eq_of_lt (by omega)]
    have hprintable : Printable (UInt8.ofNat c.val) := by
      rw [Printable, UInt8.le_iff_toNat_le, UInt8.le_iff_toNat_le, hval]
      exact h₈
    have hbare : Bare (UInt8.ofNat c.val) :=
      ⟨hprintable, fun h => h₁ (by rw [← hc, h]; rfl), fun h => h₂ (by rw [← hc, h]; rfl)⟩
    have hesc := Escaped.bare hbare
    rwa [hc] at hesc
  refine iteInduction (motive := Escaped c) (fun h₉ => ?_) fun h₉ => ?_
  · exact .unit h₉
  · exact .pair (Nat.not_lt.mp h₉)

/-- No escaped character starts with a quote. -/
lemma escapeChar_head (c : CodePoint) : ∃ b bs, escapeChar c = b :: bs ∧ b ≠ oct '"' := by
  have hc := escaped_escapeChar c
  generalize escapeChar c = w at hc ⊢
  cases hc with
  | short h => exact ⟨_, _, rfl, by decide⟩
  | bare hb => exact ⟨_, _, rfl, hb.2.1⟩
  | unit h => exact ⟨_, _, rfl, by decide⟩
  | pair h => exact ⟨_, _, rfl, by decide⟩

lemma escape_cons (c : CodePoint) (s : PyStr) : escape (c :: s) = escapeChar c ++ escape s := rfl

/-! ## Reading back what was written -/

/-- A code point that is not a surrogate. -/
def IsScalar (c : CodePoint) : Prop := c.val < 0xD800 ∨ 0xDFFF < c.val

/-- A flat message member: text without surrogates, an integer within the digit limit, or the literal
`Infinity`. -/
def Flat : JsonValue → Prop
  | .str s => ∀ c ∈ s, IsScalar c
  | .int n => (decimal n.natAbs).length ≤ maxStrDigits
  | .float (.inf false) => True
  | _ => False

lemma hexDigit_hexChar {n : ℕ} (h : n < 16) : hexDigit (CodePoint.ofByte (hexChar n)) = some n := by
  have : ∀ n < 16, hexDigit (CodePoint.ofByte (hexChar n)) = some n := by decide
  exact this n h

/-- Four digits of a code unit read back. -/
lemma scanHex4_unicodeEscape (n : ℕ) (hn : n < 0x10000) (rest : PyStr) :
    scanHex4 (ofBytes ((unicodeEscape n).drop 2) ++ rest) = some (n, rest) := by
  have digit (k : ℕ) : hexDigit (CodePoint.ofByte (hexChar (k % 16))) = some (k % 16) :=
    hexDigit_hexChar (Nat.mod_lt _ (by decide))
  simp only [unicodeEscape, List.drop_succ_cons, List.drop_zero, ofBytes_cons, ofBytes_nil,
    List.cons_append, List.nil_append, scanHex4, digit, Option.bind_eq_bind, Option.bind_some,
    Option.pure_def, Option.some.injEq, Prod.mk.injEq, and_true]
  omega

lemma ofBytes_unicodeEscape (n : ℕ) :
    ofBytes (unicodeEscape n) = cp '\\' :: cp 'u' :: ofBytes ((unicodeEscape n).drop 2) := rfl

/-- A code unit that is no high surrogate reads back alone. -/
lemma scanUnicodeEscape_single {n : ℕ} (hn : n < 0x10000) (hs : isHighSurrogate n = false)
    (rest : PyStr) :
    scanUnicodeEscape (ofBytes ((unicodeEscape n).drop 2) ++ rest) = some (codePoint n, rest) := by
  rw [scanUnicodeEscape, scanHex4_unicodeEscape n hn]
  simp only [hs]
  split <;> simp

/-- A surrogate pair reads back as the code point it encodes. -/
lemma scanUnicodeEscape_pair (hi lo : ℕ) (hhi : isHighSurrogate hi = true)
    (hlo : isLowSurrogate lo = true) (rest : PyStr) :
    scanUnicodeEscape (ofBytes ((unicodeEscape hi).drop 2) ++ (ofBytes (unicodeEscape lo) ++ rest))
      = some (codePoint (joinSurrogates hi lo), rest) := by
  have hhi' : hi < 0x10000 := by
    simp only [isHighSurrogate, Bool.and_eq_true, decide_eq_true_eq] at hhi
    omega
  have hlo' : lo < 0x10000 := by
    simp only [isLowSurrogate, Bool.and_eq_true, decide_eq_true_eq] at hlo
    omega
  rw [scanUnicodeEscape, scanHex4_unicodeEscape hi hhi', ofBytes_unicodeEscape]
  simp only [List.cons_append, hhi, and_self, if_true, scanHex4_unicodeEscape lo hlo', hlo]

/-- **An escaped character reads back as itself.** -/
theorem scanChar_escapeChar {c : CodePoint} (hc : IsScalar c) (rest : PyStr) :
    scanChar (ofBytes (escapeChar c) ++ rest) = some (c, rest) := by
  have hesc := escaped_escapeChar c
  generalize escapeChar c = w at hesc ⊢
  cases hesc with
  | @short x e h =>
      have hshort : ∀ p ∈ shortEscapes, p.2 ≠ oct 'u' ∧
          shortEscape (CodePoint.ofByte p.2) = some (CodePoint.ofByte p.1) := by decide
      obtain ⟨hne, hx⟩ := hshort _ h
      rw [ofBytes_cons, ofBytes_cons, ofBytes_nil, List.cons_append, List.singleton_append, scanChar.eq_def]
      simp only [ofByte_eq_cp, if_true, hne, if_false, hx, Option.map_some]
  | @bare b hb =>
      have hlow : ¬ (CodePoint.ofByte b).val < 0x20 := by
        rw [val_ofByte]
        exact Nat.not_lt.mpr (UInt8.le_iff_toNat_le.mp hb.1.1)
      rw [ofBytes_cons, ofBytes_nil, List.singleton_append, scanChar.eq_def]
      simp only [ofByte_eq_cp, if_neg hb.2.2, if_neg hlow]
  | unit h =>
      have hs : isHighSurrogate c.val = false := by
        simp only [IsScalar, isHighSurrogate, Bool.and_eq_false_iff, decide_eq_false_iff_not] at hc ⊢
        omega
      have := scanUnicodeEscape_single h hs rest
      rw [ofBytes_unicodeEscape, List.cons_append, List.cons_append, scanChar.eq_def]
      simp only [if_true, this, codePoint_val]
  | pair h =>
      have hlt := c.isLt
      have hpair := scanUnicodeEscape_pair (0xD800 + (c.val - 0x10000) / 0x400)
        (0xDC00 + (c.val - 0x10000) % 0x400)
        (by simp only [isHighSurrogate, Bool.and_eq_true, decide_eq_true_eq]; omega)
        (by simp only [isLowSurrogate, Bool.and_eq_true, decide_eq_true_eq]; omega) rest
      have hjoin : joinSurrogates (0xD800 + (c.val - 0x10000) / 0x400)
          (0xDC00 + (c.val - 0x10000) % 0x400) = c.val := by
        unfold joinSurrogates
        omega
      rw [ofBytes_append, List.append_assoc, ofBytes_unicodeEscape, List.cons_append,
        List.cons_append, scanChar.eq_def]
      simp only [if_true, hpair, hjoin, codePoint_val]

/-- **A string literal reads back as the text it was written for.** -/
theorem scanString_escape {s : PyStr} (hs : ∀ c ∈ s, IsScalar c) (rest : PyStr) :
    scanString (ofBytes (escape s) ++ cp '"' :: rest) = .ok (s, rest) := by
  induction s with
  | nil =>
      rw [scanString.eq_def]
      simp [escape]
  | cons c s ih =>
      obtain ⟨b, bs, hb, hne⟩ := escapeChar_head c
      have hchar := scanChar_escapeChar (hs c List.mem_cons_self)
        (ofBytes (escape s) ++ cp '"' :: rest)
      rw [hb, ofBytes_cons, List.cons_append] at hchar
      have hrec := ih fun x hx => hs x (List.mem_cons_of_mem _ hx)
      rw [escape_cons, hb, List.cons_append, ofBytes_cons, ofBytes_append, List.cons_append,
        List.append_assoc, scanString.eq_def]
      simp only [ofByte_eq_cp, if_neg hne]
      split
      · rename_i hnone
        simp [hnone] at hchar
      · rename_i x rest' hsome
        rw [hchar, Option.some.injEq, Prod.mk.injEq] at hsome
        obtain ⟨rfl, rfl⟩ := hsome
        simp only [hrec]

lemma isAsciiDigit_ofByte (b : UInt8) : isAsciiDigit (CodePoint.ofByte b) = isDigit b := by
  show (decide (48 ≤ b.toNat) && decide (b.toNat ≤ 57)) = isDigit b
  simp only [isDigit, UInt8.le_iff_toNat_le]
  rfl

lemma digitsValue_ofBytes (bs : Bytes) : digitsValue (ofBytes bs) = decimalValue bs := by
  simp [digitsValue, decimalValue, decimalFrom, ofBytes, List.foldl_map]

/-- What may follow a member's value. -/
def Delimited (rest : PyStr) : Prop := ∃ c t, rest = c :: t ∧ (c = cp ',' ∨ c = cp '}')

/-- A numeral reads back, up to a delimiter. -/
lemma scanNumber_decimal {n : ℕ} (hn : (decimal n).length ≤ maxStrDigits) (negative : Bool)
    {rest : PyStr} (hrest : Delimited rest) :
    scanNumber negative (ofBytes (decimal n) ++ rest)
      = .ok (.int (if negative then -(n : ℤ) else n), rest) := by
  obtain ⟨c, t, rfl, hc⟩ := hrest
  have hdigits : ∀ x ∈ ofBytes (decimal n), isAsciiDigit x = true := by
    intro x hx
    obtain ⟨b, hb, rfl⟩ := List.mem_map.mp hx
    rw [isAsciiDigit_ofByte]
    exact isDigit_of_mem_decimal hb
  have hstop : isAsciiDigit c = false := by rcases hc with rfl | rfl <;> decide
  have hint : scanIntPart (ofBytes (decimal n) ++ c :: t) = some (ofBytes (decimal n), c :: t) := by
    obtain ⟨b, bs, hb, hd, hz⟩ := decimal_head n
    rw [hb, ofBytes_cons] at hdigits ⊢
    rw [List.cons_append, scanIntPart]
    by_cases h0 : b = oct '0'
    · obtain ⟨-, rfl⟩ := hz h0
      simp [h0]
    · have htail : ∀ x ∈ ofBytes bs, isAsciiDigit x = true :=
        fun x hx => hdigits x (List.mem_cons_of_mem _ hx)
      rw [if_neg (by simpa using h0), if_pos (hdigits _ List.mem_cons_self),
        List.takeWhile_append_of_pos htail, List.dropWhile_append_of_pos htail]
      simp [hstop]
  have hfrac : scanFraction (c :: t) = none := by
    cases t with
    | nil => rfl
    | cons d t =>
        have hdot : c ≠ cp '.' := by rcases hc with rfl | rfl <;> decide
        simp [scanFraction, hdot]
  have hexp : scanExponent (c :: t) = none := by
    rcases hc with rfl | rfl <;> simp [scanExponent] <;> intro h <;> exact absurd h (by decide)
  unfold scanNumber
  simp only [hint, hfrac, hexp, Option.map_none, Option.getD_none]
  rw [if_neg (by simpa [ofBytes] using Nat.not_lt.mpr hn), digitsValue_ofBytes,
    decimalValue_decimal]

lemma flat_float {f : PyFloat} (h : Flat (.float f)) : f = .inf false := by
  rcases f with _ | _ | _ | _
  · exact h.elim
  · exact h.elim
  · rename_i negative
    cases negative with
    | true => exact h.elim
    | false => rfl
  · exact h.elim

/-- The literal of a flat member reads back, up to a delimiter. -/
theorem scanOnce_rendered {v : JsonValue} (hv : Flat v) (fuel depth : ℕ) {rest : PyStr}
    (hrest : Delimited rest) :
    scanOnce (fuel + 1) depth (ofBytes (rendered v) ++ rest) = .ok (v, rest) := by
  cases v with
  | str s =>
      rw [rendered, quoted, List.cons_append, ofBytes_cons, ofBytes_append, List.cons_append,
        List.append_assoc, scanOnce.eq_def]
      have := scanString_escape hv rest
      simp only [ofByte_eq_cp, if_true, ofBytes_cons, ofBytes_nil, List.cons_append,
        List.nil_append]
      rw [show CodePoint.ofByte (oct '"') = cp '"' from rfl, this]
      rfl
  | int n =>
      rw [rendered, intRepr]
      obtain ⟨b, bs, hb, hd, -⟩ := decimal_head n.natAbs
      have hnum := scanNumber_decimal hv (n < 0) hrest
      rw [hb] at hnum
      split_ifs with hneg
      · have hinf : ¬ str "Infinity" <+: ofBytes (b :: bs) ++ rest := by
          intro hpre
          have hI : str "Infinity" = cp 'I' :: str "nfinity" := rfl
          rw [hI, ofBytes_cons, List.cons_append, List.cons_prefix_cons] at hpre
          have := (ofByte_eq_cp b 'I').mp hpre.1.symm
          rw [this] at hd
          exact absurd hd (by decide)
        rw [ofBytes_cons, List.cons_append, hb, scanOnce.eq_def]
        simp only [show CodePoint.ofByte (oct '-') = cp '-' from rfl]
        iterate 8 rw [if_neg (by decide)]
        simp only [hneg, decide_true, if_true] at hnum
        rw [if_pos trivial, if_neg hinf, hnum]
        rw [Int.natCast_natAbs, abs_of_neg hneg, neg_neg]
      · have hother : ∀ c, isDigit (oct c) = false → CodePoint.ofByte b ≠ cp c := by
          intro c hc h
          rw [(ofByte_eq_cp b c).mp h, hc] at hd
          exact absurd hd (by decide)
        rw [hb, ofBytes_cons, List.cons_append, scanOnce.eq_def]
        simp only
        iterate 9 rw [if_neg (hother _ (by decide))]
        rw [ofBytes_cons, List.cons_append] at hnum
        simp only [hneg, decide_false] at hnum
        rw [hnum]
        simp [abs_of_nonneg (not_lt.mp hneg)]
  | float f =>
      obtain rfl := flat_float hv
      have hword : scanWord "Infinity" (.float (.inf false)) (str "Infinity" ++ rest)
          = .ok (.float (.inf false), rest) := by
        rw [scanWord, if_pos (List.prefix_append _ _), List.drop_left]
      rw [rendered, floatRepr, scanOnce.eq_def]
      exact hword
  | _ => exact hv.elim

/-- A value that starts a token: no blank before it. -/
lemma skipBlanks_rendered {v : JsonValue} (hv : Flat v) (rest : PyStr) :
    skipBlanks (ofBytes (rendered v) ++ rest) = ofBytes (rendered v) ++ rest := by
  have start : ∀ b bs, rendered v = b :: bs → isBlank (CodePoint.ofByte b) = false →
      skipBlanks (ofBytes (rendered v) ++ rest) = ofBytes (rendered v) ++ rest := by
    intro b bs hb hblank
    rw [hb, ofBytes_cons, List.cons_append, skipBlanks, List.dropWhile_cons_of_neg (by simp [hblank])]
  cases v with
  | str s => exact start _ _ rfl (by decide)
  | int n =>
      obtain ⟨b, bs, hb, hd, -⟩ := decimal_head n.natAbs
      by_cases hneg : n < 0
      · exact start (oct '-') _ (by rw [rendered, intRepr, if_pos hneg]) (by decide)
      · refine start b bs (by rw [rendered, intRepr, if_neg hneg, hb]) ?_
        have hother : ∀ c, isDigit (oct c) = false → CodePoint.ofByte b ≠ cp c := by
          intro c hc h
          rw [(ofByte_eq_cp b c).mp h, hc] at hd
          exact absurd hd (by decide)
        simp [isBlank, hother _ (show isDigit (oct ' ') = false by decide),
          hother _ (show isDigit (oct '\t') = false by decide),
          hother _ (show isDigit (oct '\n') = false by decide),
          hother _ (show isDigit (oct '\r') = false by decide)]
  | float f =>
      obtain rfl := flat_float hv
      exact start _ _ rfl (by decide)
  | _ => exact hv.elim

/-- The text of members in the order given. -/
def membersText (ms : List (PyStr × JsonValue)) : Bytes :=
  commaJoin ((renderedMembers ms).map fun m => quoted m.1 ++ oct ':' :: m.2)

/-- Every member is flat and its key has no surrogate. -/
def FlatMembers (ms : List (PyStr × JsonValue)) : Prop :=
  ∀ m ∈ ms, (∀ c ∈ m.1, IsScalar c) ∧ Flat m.2

lemma nextChar_of_not_blank {c : CodePoint} (hc : isBlank c = false) (t : PyStr) :
    nextChar (c :: t) = .ok (c, t) := by
  rw [nextChar, skipBlanks, List.dropWhile_cons_of_neg (by simp [hc])]

/-- One member reads back, up to the comma or the brace after it. -/
lemma scanMembers_member {k : PyStr} {v : JsonValue} (hk : ∀ c ∈ k, IsScalar c) (hv : Flat v)
    (fuel depth : ℕ) {d : CodePoint} (hd : d = cp ',' ∨ d = cp '}') (rest : PyStr) :
    scanMembers (fuel + 2) depth (ofBytes (quoted k ++ oct ':' :: rendered v) ++ d :: rest)
      = if d = cp '}' then .ok ([(k, v)], rest)
        else do
          let (members, rest) ← scanMembers (fuel + 1) depth (skipBlanks rest)
          return ((k, v) :: members, rest) := by
  have hblank : isBlank d = false := by rcases hd with rfl | rfl <;> decide
  have hcolon (t : PyStr) : nextChar (cp ':' :: t) = .ok (cp ':', t) :=
    nextChar_of_not_blank (by decide) t
  have hval := scanOnce_rendered hv fuel depth
    (show Delimited (d :: rest) from ⟨d, rest, rfl, hd⟩)
  have hkey := scanString_escape hk (cp ':' :: (ofBytes (rendered v) ++ d :: rest))
  have hskip := skipBlanks_rendered hv (d :: rest)
  rw [scanMembers.eq_def, quoted]
  simp only [List.cons_append, ofBytes_cons, ofBytes_append, List.append_assoc,
    List.nil_append, show CodePoint.ofByte (oct '"') = cp '"' from rfl,
    show CodePoint.ofByte (oct ':') = cp ':' from rfl, if_true, hkey, hcolon, hskip, hval,
    nextChar_of_not_blank hblank, bind, Except.bind]
  rcases hd with rfl | rfl <;> rfl

lemma membersText_singleton (k : PyStr) (v : JsonValue) :
    membersText [(k, v)] = quoted k ++ oct ':' :: rendered v := rfl

lemma membersText_cons (k : PyStr) (v : JsonValue) (m : PyStr × JsonValue)
    (ms : List (PyStr × JsonValue)) :
    membersText ((k, v) :: m :: ms)
      = (quoted k ++ oct ':' :: rendered v) ++ oct ',' :: membersText (m :: ms) := rfl

/-- The members of a flat object read back. -/
theorem scanMembers_membersText {ms : List (PyStr × JsonValue)} (hne : ms ≠ [])
    (hms : FlatMembers ms) (fuel depth : ℕ) (hfuel : ms.length + 1 ≤ fuel) (rest : PyStr) :
    scanMembers fuel depth (ofBytes (membersText ms) ++ cp '}' :: rest) = .ok (ms, rest) := by
  induction ms generalizing fuel with
  | nil => exact absurd rfl hne
  | cons m ms ih =>
      obtain ⟨k, v⟩ := m
      obtain ⟨hk, hv⟩ := hms _ List.mem_cons_self
      simp only [List.length_cons] at hfuel
      obtain ⟨fuel, rfl⟩ : ∃ f, fuel = f + 2 := ⟨fuel - 2, by omega⟩
      cases ms with
      | nil =>
          rw [membersText_singleton, scanMembers_member hk hv fuel depth (Or.inr rfl), if_pos rfl]
      | cons m' ms =>
          have hrec := ih (by simp) (fun x hx => hms x (List.mem_cons_of_mem _ hx)) (fuel + 1)
            (by omega)
          have hstart : skipBlanks (ofBytes (membersText (m' :: ms)) ++ cp '}' :: rest)
              = ofBytes (membersText (m' :: ms)) ++ cp '}' :: rest := by
            obtain ⟨k', v'⟩ := m'
            cases ms <;> rfl
          rw [membersText_cons, ofBytes_append, ofBytes_cons, List.append_assoc, List.cons_append,
            show CodePoint.ofByte (oct ',') = cp ',' from rfl,
            scanMembers_member hk hv fuel depth (Or.inl rfl), if_neg (by decide), hstart, hrec]
          rfl

/-- The text of an object in the order given. -/
def flatText (ms : List (PyStr × JsonValue)) : Bytes := oct '{' :: membersText ms ++ [oct '}']

lemma length_membersText (ms : List (PyStr × JsonValue)) : ms.length ≤ (membersText ms).length := by
  induction ms with
  | nil => simp
  | cons m ms ih =>
      obtain ⟨k, v⟩ := m
      cases ms with
      | nil => simp [membersText_singleton, quoted]
      | cons m' ms =>
          rw [membersText_cons, List.length_append, List.length_cons (a := oct ',')]
          simp only [List.length_cons] at ih ⊢
          omega

/-- How long the text is. -/
lemma length_flatText {ms : List (PyStr × JsonValue)} (hne : ms ≠ []) : (flatText ms).length
    = (ms.map fun m => (quoted m.1).length + (rendered m.2).length + 2).sum + 1 := by
  have hmembers : (membersText ms).length + 1
      = (ms.map fun m => (quoted m.1).length + (rendered m.2).length + 2).sum := by
    induction ms with
    | nil => exact absurd rfl hne
    | cons m ms ih =>
        obtain ⟨k, v⟩ := m
        cases ms with
        | nil =>
            simp only [membersText_singleton, List.length_append, List.length_cons, List.map_cons,
              List.map_nil, List.sum_cons, List.sum_nil]
            omega
        | cons m' ms =>
            rw [membersText_cons, List.map_cons, List.sum_cons, ← ih (by simp)]
            simp only [List.length_append, List.length_cons]
            omega
  rw [flatText, ← hmembers, List.length_append, List.length_cons, List.length_singleton]

/-- **A flat object reads back as the dictionary it was written from.** -/
theorem loads_flatText {ms : List (PyStr × JsonValue)} (hne : ms ≠ []) (hms : FlatMembers ms)
    (hkeys : (ms.map Prod.fst).Nodup) (depth : ℕ) :
    loads (depth + 1) (ofBytes (flatText ms)) = .ok (.obj ms) := by
  have hlen := length_membersText ms
  have hmembers := scanMembers_membersText hne hms
    (2 * (ofBytes (flatText ms)).length) depth
    (by simp only [flatText, ofBytes, List.length_map, List.length_append, List.length_cons]; omega) []
  have hquote : ∃ t, ofBytes (membersText ms) ++ [cp '}'] = cp '"' :: t := by
    cases ms with
    | nil => exact absurd rfl hne
    | cons m ms =>
        obtain ⟨k, v⟩ := m
        cases ms <;> exact ⟨_, rfl⟩
  obtain ⟨t, ht⟩ := hquote
  have hnext : nextChar (ofBytes (membersText ms) ++ [cp '}']) = .ok (cp '"', t) := by
    rw [ht, nextChar_of_not_blank (by decide)]
  have htext : ofBytes (flatText ms) = cp '{' :: (ofBytes (membersText ms) ++ [cp '}']) := by
    simp [flatText]
  have hscan : scanOnce (2 * (ofBytes (flatText ms)).length + 1) (depth + 1)
      (ofBytes (flatText ms)) = .ok (.obj ms, []) := by
    rw [scanOnce.eq_def]
    rw [htext] at hmembers ⊢
    simp only [show cp '{' ≠ cp '"' by decide, if_false, if_true, enter, hnext, bind, Except.bind,
      show cp '"' ≠ cp '}' by decide]
    rw [← ht, hmembers]
    simp only [dictOf_nodup hkeys]
    rfl
  have hblank : skipBlanks (ofBytes (flatText ms)) = ofBytes (flatText ms) := by
    rw [htext]
    rfl
  have hbom : (ofBytes (flatText ms)).head? ≠ some 0xFEFF := by
    rw [htext, List.head?_cons]
    decide
  rw [loads, if_neg hbom, hblank, hscan]
  rfl

/-! ## What is written is printable -/

/-- Text of printable octets. -/
def AllPrintable (bs : Bytes) : Prop := ∀ b ∈ bs, Printable b

instance (bs : Bytes) : Decidable (AllPrintable bs) := inferInstanceAs (Decidable (∀ b ∈ bs, _))

lemma allPrintable_append {a b : Bytes} :
    AllPrintable (a ++ b) ↔ AllPrintable a ∧ AllPrintable b := by
  simp only [AllPrintable, List.mem_append, or_imp, forall_and]

lemma allPrintable_cons {x : UInt8} {a : Bytes} :
    AllPrintable (x :: a) ↔ Printable x ∧ AllPrintable a := by
  simp only [AllPrintable, List.mem_cons, forall_eq_or_imp]

lemma allPrintable_of_subset {a b : Bytes} (h : a ⊆ b) (hb : AllPrintable b) : AllPrintable a :=
  fun x hx => hb x (h hx)

lemma allPrintable_decimal (n : ℕ) : AllPrintable (decimal n) := by
  intro b hb
  have hdigit := isDigit_of_mem_decimal hb
  have hdigits : ∀ b : UInt8, isDigit b → Printable b := by
    intro b hb
    simp only [isDigit, Bool.and_eq_true, decide_eq_true_eq] at hb
    exact ⟨UInt8.le_trans (show 0x20 ≤ oct '0' by decide) hb.1,
      UInt8.le_trans hb.2 (show oct '9' ≤ 0x7E by decide)⟩
  exact hdigits b hdigit

lemma allPrintable_unicodeEscape (n : ℕ) : AllPrintable (unicodeEscape n) := by
  have hhex : ∀ n < 16, Printable (hexChar n) := by decide
  intro b hb
  simp only [unicodeEscape, List.mem_cons, List.not_mem_nil, or_false] at hb
  rcases hb with rfl | rfl | rfl | rfl | rfl | rfl
  · decide
  · decide
  all_goals exact hhex _ (Nat.mod_lt _ (by decide))

lemma allPrintable_escapeChar (c : CodePoint) : AllPrintable (escapeChar c) := by
  have hc := escaped_escapeChar c
  generalize escapeChar c = w at hc ⊢
  cases hc with
  | short h =>
      have hshort : ∀ p ∈ shortEscapes, AllPrintable [oct '\\', p.2] := by decide
      exact hshort _ h
  | bare hb => exact fun x hx => List.mem_singleton.mp hx ▸ hb.1
  | unit h => exact allPrintable_unicodeEscape _
  | pair h => exact allPrintable_append.mpr ⟨allPrintable_unicodeEscape _, allPrintable_unicodeEscape _⟩

lemma allPrintable_quoted (s : PyStr) : AllPrintable (quoted s) := by
  have hesc : AllPrintable (escape s) := by
    intro b hb
    obtain ⟨c, -, hc⟩ := List.mem_flatMap.mp hb
    exact allPrintable_escapeChar c b hc
  rw [quoted, List.cons_append, allPrintable_cons, allPrintable_append]
  exact ⟨by decide, hesc, by decide⟩

lemma allPrintable_positiveRepr (q : ℚ) : AllPrintable (positiveRepr q) := by
  have hdigits : ∀ n, AllPrintable ((decimal n).reverse.dropWhile (· = oct '0')).reverse := by
    intro n
    refine allPrintable_of_subset ?_ (allPrintable_decimal n)
    intro b hb
    rw [List.mem_reverse] at hb
    exact List.mem_reverse.mp ((List.dropWhile_sublist _).subset hb)
  have hzeros : ∀ n, AllPrintable (List.replicate n (oct '0')) := by
    intro n b hb
    rw [List.eq_of_mem_replicate hb]
    decide
  have htake : ∀ n {a : Bytes}, AllPrintable a → AllPrintable (a.take n) :=
    fun n _ h => allPrintable_of_subset (List.take_subset n _) h
  have hdrop : ∀ n {a : Bytes}, AllPrintable a → AllPrintable (a.drop n) :=
    fun n _ h => allPrintable_of_subset (List.drop_subset n _) h
  have hd := hdigits (shortestDigits q).1
  have hzero : AllPrintable (ascii "0.") := by decide
  have hend : AllPrintable (ascii ".0") := by decide
  have hdot : AllPrintable (ascii ".") := by decide
  have hexp : ∀ n : ℤ, AllPrintable (ascii (if n < 0 then "e-" else "e+")) := by
    intro n
    split_ifs <;> decide
  have hfrac : ∀ {ds : Bytes}, AllPrintable ds →
      AllPrintable (if ds.length = 1 then [] else ascii "." ++ ds.drop 1) := by
    intro ds h
    split_ifs
    · decide
    · exact allPrintable_append.mpr ⟨hdot, hdrop _ h⟩
  simp only [positiveRepr]
  split
  · split
    · exact allPrintable_append.mpr ⟨allPrintable_append.mpr ⟨hzero, hzeros _⟩, hd⟩
    · split
      · exact allPrintable_append.mpr ⟨allPrintable_append.mpr ⟨hd, hzeros _⟩, hend⟩
      · exact allPrintable_append.mpr ⟨allPrintable_append.mpr ⟨htake _ hd, hdot⟩, hdrop _ hd⟩
  · have hmantissa := allPrintable_append.mpr ⟨htake 1 hd, hfrac hd⟩
    exact allPrintable_append.mpr ⟨allPrintable_append.mpr
      ⟨allPrintable_append.mpr ⟨hmantissa, hexp _⟩, hzeros _⟩, allPrintable_decimal _⟩

lemma allPrintable_floatRepr (f : PyFloat) : AllPrintable (floatRepr f) := by
  cases f with
  | finite q =>
      rw [floatRepr]
      split_ifs
      · decide
      · exact allPrintable_cons.mpr ⟨by decide, allPrintable_positiveRepr _⟩
      · exact allPrintable_positiveRepr q
  | negZero => decide
  | inf negative => cases negative <;> decide
  | nan => decide

lemma allPrintable_intRepr (n : ℤ) : AllPrintable (intRepr n) := by
  rw [intRepr]
  split_ifs
  · exact allPrintable_cons.mpr ⟨by decide, allPrintable_decimal _⟩
  · exact allPrintable_decimal _

lemma allPrintable_commaJoin {bs : List Bytes} (h : ∀ b ∈ bs, AllPrintable b) :
    AllPrintable (commaJoin bs) := by
  induction bs with
  | nil => simp [commaJoin, AllPrintable]
  | cons b bs ih =>
      cases bs with
      | nil => exact h b List.mem_cons_self
      | cons b' bs =>
          rw [commaJoin, allPrintable_append, allPrintable_cons]
          exact ⟨h b List.mem_cons_self, by decide,
            ih fun x hx => h x (List.mem_cons_of_mem _ hx)⟩

lemma mem_insertMember {m x : PyStr × Bytes} {ms : List (PyStr × Bytes)}
    (h : x ∈ insertMember m ms) : x = m ∨ x ∈ ms := by
  induction ms with
  | nil => simpa [insertMember] using h
  | cons m' ms ih =>
      rw [insertMember] at h
      split_ifs at h
      · simpa using h
      · rcases List.mem_cons.mp h with rfl | h
        · simp
        · rcases ih h with rfl | h <;> simp [*]

lemma mem_sortMembers {x : PyStr × Bytes} {ms : List (PyStr × Bytes)} (h : x ∈ sortMembers ms) :
    x ∈ ms := by
  induction ms with
  | nil => exact h
  | cons m ms ih =>
      rcases mem_insertMember h with rfl | h
      · exact List.mem_cons_self
      · exact List.mem_cons_of_mem _ (ih h)

lemma allPrintable_objectText {ms : List (PyStr × Bytes)} (h : ∀ m ∈ ms, AllPrintable m.2) :
    AllPrintable (objectText ms) := by
  have hjoin : AllPrintable (commaJoin (ms.map fun m => quoted m.1 ++ oct ':' :: m.2)) := by
    refine allPrintable_commaJoin ?_
    intro b hb
    obtain ⟨m, hm, rfl⟩ := List.mem_map.mp hb
    exact allPrintable_append.mpr
      ⟨allPrintable_quoted _, allPrintable_cons.mpr ⟨by decide, h m hm⟩⟩
  rw [objectText, List.cons_append, allPrintable_cons, allPrintable_append]
  exact ⟨by decide, hjoin, by decide⟩

mutual

/-- **What `json.dumps` writes is printable ASCII**, whatever the value. -/
theorem allPrintable_rendered : ∀ v : JsonValue, AllPrintable (rendered v)
  | .null => by decide
  | .bool true => by decide
  | .bool false => by decide
  | .int n => allPrintable_intRepr n
  | .float f => allPrintable_floatRepr f
  | .str s => allPrintable_quoted s
  | .arr items => by
      rw [rendered, List.cons_append, allPrintable_cons, allPrintable_append]
      exact ⟨by decide, allPrintable_commaJoin (allPrintable_renderedItems items), by decide⟩
  | .obj members => by
      rw [rendered]
      exact allPrintable_objectText fun m hm => allPrintable_renderedMembers members m (mem_sortMembers hm)

theorem allPrintable_renderedItems : ∀ vs : List JsonValue, ∀ b ∈ renderedItems vs, AllPrintable b
  | [], _, h => by simp [renderedItems] at h
  | v :: vs, b, h => by
      rw [renderedItems] at h
      rcases List.mem_cons.mp h with rfl | h
      · exact allPrintable_rendered v
      · exact allPrintable_renderedItems vs b h

theorem allPrintable_renderedMembers :
    ∀ ms : List (PyStr × JsonValue), ∀ m ∈ renderedMembers ms, AllPrintable m.2
  | [], _, h => by simp [renderedMembers] at h
  | (k, v) :: ms, m, h => by
      rw [renderedMembers] at h
      rcases List.mem_cons.mp h with rfl | h
      · exact allPrintable_rendered v
      · exact allPrintable_renderedMembers ms m h

end

lemma zero_notMem_of_printable {bs : Bytes} (h : AllPrintable bs) : 0 ∉ bs :=
  fun h0 => absurd (h 0 h0) (by decide)

lemma allPrintable_flatText (ms : List (PyStr × JsonValue)) : AllPrintable (flatText ms) :=
  allPrintable_objectText fun m hm => allPrintable_renderedMembers ms m hm

/-! ## What is written as it is -/

lemma escapeChar_ofByte {b : UInt8} (hb : Bare b) : escapeChar (CodePoint.ofByte b) = [b] := by
  obtain ⟨⟨hlow, hhigh⟩, hquote, hback⟩ := hb
  rw [UInt8.le_iff_toNat_le] at hlow hhigh
  have hval : ∀ n : CodePoint, n.val < 0x20 → CodePoint.ofByte b ≠ n := by
    rintro n hn rfl
    exact absurd hlow (not_le.mpr hn)
  unfold escapeChar
  rw [if_neg (by rwa [ofByte_eq_cp]), if_neg (by rwa [ofByte_eq_cp]), if_neg (hval _ (by decide)),
    if_neg (hval _ (by decide)), if_neg (hval _ (by decide)), if_neg (hval 12 (by decide)),
    if_neg (hval 8 (by decide)), if_pos ⟨hlow, hhigh⟩, val_ofByte, UInt8.ofNat_toNat]

theorem escape_ofBytes {bs : Bytes} (h : ∀ b ∈ bs, Bare b) : escape (ofBytes bs) = bs := by
  induction bs with
  | nil => rfl
  | cons b bs ih =>
      rw [ofBytes_cons, escape_cons, escapeChar_ofByte (h b List.mem_cons_self),
        ih fun x hx => h x (List.mem_cons_of_mem _ hx), List.singleton_append]

lemma length_quoted {bs : Bytes} (h : ∀ b ∈ bs, Bare b) : (quoted (ofBytes bs)).length = bs.length + 2 := by
  rw [quoted, escape_ofBytes h, List.length_append, List.length_cons, List.length_singleton]

lemma isScalar_ofByte (b : UInt8) : IsScalar (CodePoint.ofByte b) := by
  have := b.toNat_lt
  left
  rw [val_ofByte]
  omega

end Python
