import Mathlib.Algebra.Group.Nat.Defs
import Mathlib.Data.Nat.Notation
import Mathlib.Tactic.Lemma

/-!
# Octets

The byte-level vocabulary both ends of a wire share: ASCII literals, 32-bit big-endian numbers and
decimal numerals, each with the inverse a decoder applies.

* `ascii` — the bytes of a source literal.
* `be32`, `beNat` — a number as four octets, most significant first, and back.  `beNat_be32` is the
  round trip below `2 ^ 32`; above it only the residue survives, which is `beNat_be32_mod`.
* `le`, `leNat` — a number of any width in the order of the memory, and back.
* `decimal`, `decimalValue` — the numeral `%zu` or `str(int)` prints and the left-to-right
  accumulation every reader of such a numeral performs.
-/

namespace Octets

/-- A string of bytes. -/
abbrev Bytes := List UInt8

-- `UInt8` is a finite type: without the priority a check over a list may run over all octets instead.
instance (priority := 2000) decidableForallMem {α : Type} (p : α → Prop) [DecidablePred p] (l : List α) :
    Decidable (∀ a ∈ l, p a) :=
  List.decidableBAll p l

/-- The octet of an ASCII character. -/
def oct (c : Char) : UInt8 := UInt8.ofNat c.toNat

/-- The bytes of an ASCII literal. -/
def ascii (s : String) : Bytes := s.toList.map oct

/-! ## Big-endian words -/

/-- The four octets of `n`, most significant first; bits above the 32nd are cut off. -/
def be32 (n : ℕ) : Bytes :=
  [UInt8.ofNat (n >>> 24), UInt8.ofNat (n >>> 16), UInt8.ofNat (n >>> 8), UInt8.ofNat n]

/-- The number a string of octets denotes, most significant first. -/
def beNat (bs : Bytes) : ℕ := bs.foldl (fun v b => v * 256 + b.toNat) 0

/-- The two low octets of `n`, most significant first. -/
def be16 (n : ℕ) : Bytes := [UInt8.ofNat (n >>> 8), UInt8.ofNat n]

@[simp] lemma beNat_be16 {n : ℕ} (h : n < 2 ^ 16) : beNat (be16 n) = n := by
  simp only [be16, beNat, List.foldl_cons, List.foldl_nil, UInt8.toNat_ofNat', Nat.shiftRight_eq_div_pow]
  omega

@[simp] lemma length_be32 (n : ℕ) : (be32 n).length = 4 := rfl

lemma beNat_four (a b c d : UInt8) :
    beNat [a, b, c, d]
      = a.toNat * 2 ^ 24 + b.toNat * 2 ^ 16 + c.toNat * 2 ^ 8 + d.toNat := by
  simp only [beNat, List.foldl_cons, List.foldl_nil]
  omega

/-- Encoding keeps the number modulo `2 ^ 32`. -/
theorem beNat_be32_mod (n : ℕ) : beNat (be32 n) = n % 2 ^ 32 := by
  rw [be32, beNat_four]
  simp only [UInt8.toNat_ofNat', Nat.shiftRight_eq_div_pow]
  omega

@[simp] theorem beNat_be32 {n : ℕ} (h : n < 2 ^ 32) : beNat (be32 n) = n := by
  rw [beNat_be32_mod, Nat.mod_eq_of_lt h]

/-- Four octets hold a 32-bit number. -/
theorem beNat_lt {bs : Bytes} (h : bs.length = 4) : beNat bs < 2 ^ 32 := by
  match bs, h with
  | [a, b, c, d], _ =>
      rw [beNat_four]
      have := a.toNat_lt
      have := b.toNat_lt
      have := c.toNat_lt
      have := d.toNat_lt
      omega

/-- Decoding four octets and encoding them again gives the octets back. -/
theorem be32_beNat {bs : Bytes} (h : bs.length = 4) : be32 (beNat bs) = bs := by
  match bs, h with
  | [a, b, c, d], _ =>
      have ha := a.toNat_lt
      have hb := b.toNat_lt
      have hc := c.toNat_lt
      have hd := d.toNat_lt
      rw [beNat_four, be32]
      simp only [List.cons.injEq, and_true, ← UInt8.toNat_inj, UInt8.toNat_ofNat',
        Nat.shiftRight_eq_div_pow]
      refine ⟨?_, ?_, ?_, ?_⟩ <;> omega

/-! ## Little-endian words -/

/-- A number as `k` octets, least significant first. -/
def le : ℕ → ℕ → Bytes
  | 0, _ => []
  | k + 1, n => UInt8.ofNat n :: le k (n / 256)

/-- The number a string of octets denotes, least significant first. -/
def leNat (bs : Bytes) : ℕ := bs.foldr (fun b v => v * 256 + b.toNat) 0

@[simp] lemma length_le (k n : ℕ) : (le k n).length = k := by
  induction k generalizing n with
  | zero => rfl
  | succ k ih => rw [le, List.length_cons, ih]

@[simp] theorem leNat_le {k n : ℕ} (h : n < 256 ^ k) : leNat (le k n) = n := by
  induction k generalizing n with
  | zero =>
      rw [Nat.pow_zero, Nat.lt_one_iff] at h
      rw [h]
      rfl
  | succ k ih =>
      rw [Nat.pow_succ, Nat.mul_comm] at h
      have hrest := ih (Nat.div_lt_of_lt_mul h)
      rw [leNat] at hrest
      rw [le, leNat, List.foldr_cons, hrest, UInt8.toNat_ofNat']
      omega

/-- Decoding octets and encoding them again gives the octets back. -/
theorem le_leNat (bs : Bytes) : le bs.length (leNat bs) = bs := by
  induction bs with
  | nil => rfl
  | cons b bs ih =>
      have hb := b.toNat_lt
      have hval : leNat (b :: bs) = leNat bs * 256 + b.toNat := rfl
      rw [List.length_cons, le, hval, show (leNat bs * 256 + b.toNat) / 256 = leNat bs by omega, ih,
        List.cons.injEq, ← UInt8.toNat_inj, UInt8.toNat_ofNat']
      exact ⟨by omega, rfl⟩

/-! ## Decimal numerals -/

/-- Is the octet an ASCII digit? -/
def isDigit (b : UInt8) : Bool := oct '0' ≤ b && b ≤ oct '9'

/-- The numeral `%zu` prints: no sign, no leading zero. -/
def decimal (n : ℕ) : Bytes := (Nat.toDigits 10 n).map oct

/-- The value a left-to-right reader of digits accumulates, from `v`. -/
def decimalFrom (v : ℕ) (bs : Bytes) : ℕ := bs.foldl (fun v b => v * 10 + (b.toNat - 48)) v

/-- The number a numeral denotes. -/
def decimalValue (bs : Bytes) : ℕ := decimalFrom 0 bs

@[simp] lemma decimalFrom_nil (v : ℕ) : decimalFrom v [] = v := rfl

@[simp] lemma decimalFrom_cons (v : ℕ) (b : UInt8) (bs : Bytes) :
    decimalFrom v (b :: bs) = decimalFrom (v * 10 + (b.toNat - 48)) bs := by
  simp only [decimalFrom, List.foldl_cons]

lemma decimalValue_append (a b : Bytes) : decimalValue (a ++ b) = decimalFrom (decimalValue a) b := by
  simp [decimalValue, decimalFrom]

/-- A numeral of one digit. -/
lemma decimal_of_lt {n : ℕ} (h : n < 10) : decimal n = [UInt8.ofNat (48 + n)] := by
  have digit : ∀ m < 10, oct (Nat.digitChar m) = UInt8.ofNat (48 + m) := by decide
  rw [decimal, Nat.toDigits_of_lt_base h, List.map_singleton, digit n h]

/-- A longer numeral is the numeral of the quotient and one more digit. -/
lemma decimal_of_ge {n : ℕ} (h : 10 ≤ n) :
    decimal n = decimal (n / 10) ++ [UInt8.ofNat (48 + n % 10)] := by
  have hd : n % 10 < 10 := Nat.mod_lt _ (by decide)
  have := decimal_of_lt hd
  rw [decimal, Nat.toDigits_of_lt_base hd] at this
  rw [decimal, Nat.toDigits_of_base_le (by decide) h, List.map_append, this, decimal]

/-- Induction over the digits of a number, most significant first. -/
theorem decimal_induction {P : ℕ → Prop} (one : ∀ n < 10, P n)
    (more : ∀ n, 10 ≤ n → P (n / 10) → P n) (n : ℕ) : P n := by
  induction n using Nat.strongRecOn with
  | ind n ih =>
      by_cases h : n < 10
      · exact one n h
      · exact more n (by omega) (ih _ (by omega))

/-- Reading a numeral gives back the number printed. -/
@[simp] theorem decimalValue_decimal (n : ℕ) : decimalValue (decimal n) = n := by
  have digit : ∀ m < 10, (UInt8.ofNat (48 + m)).toNat - 48 = m := by decide
  induction n using decimal_induction with
  | one n h =>
      rw [decimal_of_lt h, decimalValue, decimalFrom_cons, decimalFrom_nil, digit n h]
      omega
  | more n h ih =>
      have hd : n % 10 < 10 := Nat.mod_lt _ (by decide)
      rw [decimal_of_ge h, decimalValue_append, ih]
      simp only [decimalFrom_cons, decimalFrom_nil, digit _ hd]
      omega

/-- A numeral is made of digits. -/
theorem isDigit_of_mem_decimal {n : ℕ} {b : UInt8} (h : b ∈ decimal n) : isDigit b = true := by
  have digit : ∀ m < 10, isDigit (UInt8.ofNat (48 + m)) = true := by decide
  induction n using decimal_induction with
  | one n hn =>
      rw [decimal_of_lt hn, List.mem_singleton] at h
      exact h ▸ digit n hn
  | more n hn ih =>
      rw [decimal_of_ge hn, List.mem_append, List.mem_singleton] at h
      rcases h with h | h
      · exact ih h
      · exact h ▸ digit _ (Nat.mod_lt _ (by decide))

/-- A numeral has a first digit, which is `0` for the number zero only. -/
theorem decimal_head (n : ℕ) : ∃ b bs, decimal n = b :: bs ∧ isDigit b = true ∧
    (b = 48 → n = 0 ∧ bs = []) := by
  have digit : ∀ m < 10, isDigit (UInt8.ofNat (48 + m)) = true ∧
      (UInt8.ofNat (48 + m) = 48 → m = 0) := by decide
  induction n using decimal_induction with
  | one n h => exact ⟨_, _, decimal_of_lt h, (digit n h).1, fun e => ⟨(digit n h).2 e, rfl⟩⟩
  | more n h ih =>
      obtain ⟨b, bs, hb, hd, hz⟩ := ih
      refine ⟨b, bs ++ [UInt8.ofNat (48 + n % 10)], by rw [decimal_of_ge h, hb]; rfl, hd, ?_⟩
      intro e
      have := (hz e).1
      omega

/-- A numeral of `k` digits denotes a number below `10 ^ k`, and conversely. -/
theorem length_decimal_le {n k : ℕ} (hk : 0 < k) : (decimal n).length ≤ k ↔ n < 10 ^ k := by
  rw [decimal, List.length_map]
  exact Nat.length_toDigits_le_iff (by decide) hk

end Octets
