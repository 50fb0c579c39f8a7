import Mathlib.Tactic.SplitIfs
import Sudonit.Core.Octets

/-!
# UTF-8 and its character boundaries

The octets of a string of Unicode scalar values, and where such a string of octets may be cut.

* `encodeChar_shape` — a character is a lead octet, which says how many octets it takes, and
  continuation octets.
* `split_at_lead` — every lead octet of an encoded string is the start of one of its characters.
* `valid_prefix_iff` — a prefix of an encoded string is itself one exactly when what follows does not
  start with a continuation octet.
* `IsTruncation` — the longest part of an encoded string that fits, cut between two characters.
-/

namespace Utf8

open Octets

/-- The UTF-8 encoding of a string. -/
def encode (s : List Char) : Bytes := s.flatMap String.utf8EncodeChar

/-- The octets are the encoding of some string. -/
def Valid (bs : Bytes) : Prop := ∃ s, bs = encode s

/-- An octet `10xxxxxx`. -/
def isContinuation (b : UInt8) : Bool := 0x80 ≤ b && b ≤ 0xBF

/-- The length of the character that starts with this octet. -/
def width (b : UInt8) : ℕ :=
  if b.toNat < 0x80 then 1 else if b.toNat < 0xE0 then 2 else if b.toNat < 0xF0 then 3 else 4

@[simp] lemma encode_nil : encode [] = [] := rfl

lemma encode_cons (c : Char) (s : List Char) : encode (c :: s) = String.utf8EncodeChar c ++ encode s := rfl

lemma encode_append (s t : List Char) : encode (s ++ t) = encode s ++ encode t := List.flatMap_append

lemma isContinuation_iff {b : UInt8} : isContinuation b ↔ 0x80 ≤ b.toNat ∧ b.toNat ≤ 0xBF := by
  rw [isContinuation, Bool.and_eq_true, decide_eq_true_eq, decide_eq_true_eq, UInt8.le_iff_toNat_le,
    UInt8.le_iff_toNat_le]
  rfl

/-- A lead octet and continuation octets. -/
def Led (bs : Bytes) : Prop :=
  ∃ lead tail, bs = lead :: tail ∧ isContinuation lead = false ∧ ∀ b ∈ tail, isContinuation b

/-- As many of them as the lead octet announces. -/
def Shape (bs : Bytes) : Prop :=
  ∃ lead tail, bs = lead :: tail ∧ isContinuation lead = false ∧ (∀ b ∈ tail, isContinuation b) ∧
    tail.length + 1 = width lead

lemma val_lt (c : Char) : c.val.toNat < 0x110000 := by
  rcases c.valid with h | h <;> omega

lemma shape_cons {m : ℕ} {tail : Bytes} (hlt : m < 256) (hlead : m < 0x80 ∨ 0xC0 ≤ m)
    (htail : ∀ b ∈ tail, isContinuation b)
    (hlen : tail.length + 1 = if m < 0x80 then 1 else if m < 0xE0 then 2 else if m < 0xF0 then 3 else 4) :
    Shape (UInt8.ofNat m :: tail) := by
  have hval : (UInt8.ofNat m).toNat = m := by rw [UInt8.toNat_ofNat', Nat.mod_eq_of_lt hlt]
  refine ⟨_, _, rfl, ?_, htail, by rw [hlen, width, hval]⟩
  rw [Bool.eq_false_iff, ne_eq, isContinuation_iff, hval]
  omega

/-- **A character is a lead octet and its continuation octets.** -/
theorem encodeChar_shape (c : Char) : Shape (String.utf8EncodeChar c) := by
  have tail : ∀ m, isContinuation (UInt8.ofNat (m % 0x40 + 0x80)) := by
    intro m
    rw [isContinuation_iff, UInt8.toNat_ofNat']
    omega
  have hmax := val_lt c
  rw [String.utf8EncodeChar]
  generalize c.val.toNat = v at hmax
  by_cases h₁ : v ≤ 0x7F
  · rw [if_pos h₁]
    refine shape_cons (by omega) (by omega) (by simp) ?_
    rw [if_pos (by omega), List.length_nil]
  rw [if_neg h₁]
  by_cases h₂ : v ≤ 0x7FF
  · rw [if_pos h₂]
    refine shape_cons (by omega) (by omega) ?_ ?_
    · simpa only [List.forall_mem_singleton] using tail _
    · rw [if_neg (by omega), if_pos (by omega), List.length_singleton]
  rw [if_neg h₂]
  by_cases h₃ : v ≤ 0xFFFF
  · rw [if_pos h₃]
    refine shape_cons (by omega) (by omega) ?_ ?_
    · simpa only [List.forall_mem_cons, List.not_mem_nil, false_imp_iff, implies_true, and_true] using ⟨tail _, tail _⟩
    · rw [if_neg (by omega), if_neg (by omega), if_pos (by omega), List.length_cons, List.length_singleton]
  · rw [if_neg h₃]
    refine shape_cons (by omega) (by omega) ?_ ?_
    · simpa only [List.forall_mem_cons, List.not_mem_nil, false_imp_iff, implies_true, and_true] using ⟨tail _, tail _, tail _⟩
    · rw [if_neg (by omega), if_neg (by omega), if_neg (by omega)]
      simp only [List.length_cons, List.length_nil]

/-- A string that is not empty starts with a lead octet. -/
lemma encode_head {s : List Char} {b : UInt8} {bs : Bytes} (h : encode s = b :: bs) :
    isContinuation b = false := by
  cases s with
  | nil => simp at h
  | cons c s =>
      obtain ⟨lead, tail, hc, hlead, -, -⟩ := encodeChar_shape c
      rw [encode_cons, hc, List.cons_append, List.cons.injEq] at h
      rw [← h.1]
      exact hlead

/-- **A lead octet starts a character**, and what is in front of it is whole characters. -/
theorem split_at_lead {s : List Char} {a r : Bytes} {b : UInt8} (h : encode s = a ++ b :: r)
    (hb : isContinuation b = false) :
    ∃ s₁ c s₂, s = s₁ ++ c :: s₂ ∧ a = encode s₁ ∧ b :: r = String.utf8EncodeChar c ++ encode s₂ := by
  induction s generalizing a with
  | nil => simp at h
  | cons c s ih =>
      rw [encode_cons] at h
      cases a with
      | nil => exact ⟨[], c, s, rfl, rfl, h.symm⟩
      | cons x a =>
          -- The lead octet is not among the rest of the first character.
          obtain ⟨lead, tail, hc, -, htail, -⟩ := encodeChar_shape c
          rw [hc, List.cons_append, List.cons_append, List.cons.injEq] at h
          have behind : ∀ a', a = tail ++ a' → encode s = a' ++ b :: r → ∃ s₁ d s₂, c :: s = s₁ ++ d :: s₂ ∧
              x :: a = encode s₁ ∧ b :: r = String.utf8EncodeChar d ++ encode s₂ := by
            intro a' ha hrest
            obtain ⟨s₁, d, s₂, hs, ha', heq⟩ := ih hrest
            exact ⟨c :: s₁, d, s₂, by rw [hs]; rfl, by rw [encode_cons, hc, ← ha', ha, h.1]; rfl, heq⟩
          rcases List.append_eq_append_iff.mp h.2 with ⟨a', ha, hrest⟩ | ⟨t, htl, hrest⟩
          · exact behind a' ha hrest
          · cases t with
            | nil => exact behind [] (by rw [htl, List.append_nil, List.append_nil]) hrest.symm
            | cons y t =>
                rw [List.cons_append, List.cons.injEq] at hrest
                have hy := htail y (by rw [htl]; simp)
                rw [← hrest.1, hb] at hy
                simp at hy

/-- A prefix cut off in front of a continuation octet is not whole characters. -/
lemma not_valid_of_continuation {s : List Char} {a r : Bytes} {b : UInt8} (h : encode s = a ++ b :: r)
    (hb : isContinuation b) : ¬ Valid a := by
  rintro ⟨t, rfl⟩
  rcases List.eq_nil_or_concat t with rfl | ⟨t, c, rfl⟩
  · rw [encode_head h] at hb
    simp at hb
  · -- The last character of the prefix is followed by one continuation octet too many.
    obtain ⟨lead, tail, hc, hlead, htail, hwidth⟩ := encodeChar_shape c
    rw [List.concat_eq_append, encode_append, encode_cons, hc, encode_nil, List.append_nil,
      List.append_assoc, List.cons_append] at h
    obtain ⟨s₁, d, s₂, -, -, heq⟩ := split_at_lead h hlead
    obtain ⟨lead', tail', hd, -, -, hwidth'⟩ := encodeChar_shape d
    rw [hd, List.cons_append, List.cons.injEq] at heq
    obtain ⟨rfl, htails⟩ := heq
    obtain ⟨rfl, hrest⟩ := List.append_inj htails (by omega)
    rw [encode_head hrest.symm] at hb
    simp at hb

/-- **Where an encoded string may be cut.** -/
theorem valid_prefix_iff {s : List Char} {a b : Bytes} (h : encode s = a ++ b) :
    Valid a ↔ ∀ x r, b = x :: r → isContinuation x = false := by
  constructor
  · rintro ha x r rfl
    cases hx : isContinuation x with
    | false => rfl
    | true => exact absurd ha (not_valid_of_continuation h hx)
  · intro hb
    cases b with
    | nil => exact ⟨s, by rw [h, List.append_nil]⟩
    | cons x r =>
        obtain ⟨s₁, c, s₂, -, rfl, -⟩ := split_at_lead h (hb x r rfl)
        exact ⟨s₁, rfl⟩

/-- What is left of some octets when only so many fit: the longest part from their front that is whole
characters. -/
structure IsTruncation (room : ℕ) (full w : Bytes) : Prop where
  front : w <+: full
  whole : Valid w
  fits : w.length ≤ room
  longest : ∀ v, v <+: full → Valid v → v.length ≤ room → v.length ≤ w.length

/-- Octets that fit are left whole. -/
lemma isTruncation_self {room : ℕ} {full : Bytes} (hvalid : Valid full) (hfits : full.length ≤ room) :
    IsTruncation room full full :=
  ⟨List.prefix_rfl, hvalid, hfits, fun _ hv _ _ => hv.length_le⟩

/-- A character is not cut: no whole characters end inside it. -/
lemma not_valid_inside {s : List Char} {a v p r : Bytes} (h : encode s = a ++ p ++ r) (hp : Led p)
    (hv : v <+: encode s) (hlt : a.length < v.length) (hgt : v.length < a.length + p.length) : ¬ Valid v := by
  obtain ⟨lead, tail, rfl, -, htail⟩ := hp
  obtain ⟨u, hu⟩ := hv
  rw [← hu, List.append_assoc] at h
  -- The prefix ends behind the lead octet and in front of some of the others.
  obtain ⟨v', rfl, hrest⟩ : ∃ v', v = a ++ v' ∧ v' ++ u = lead :: tail ++ r := by
    rcases List.append_eq_append_iff.mp h with ⟨a', rfl, -⟩ | ⟨v', hv', hrest⟩
    · rw [List.length_append] at hlt
      omega
    · exact ⟨v', hv', hrest.symm⟩
  rw [List.length_append] at hlt hgt
  cases v' with
  | nil => simp at hlt
  | cons x v' =>
      rw [List.cons_append, List.cons_append, List.cons.injEq] at hrest
      rcases List.append_eq_append_iff.mp hrest.2 with ⟨t, rfl, rfl⟩ | ⟨t, rfl, -⟩
      · cases t with
        | nil => simp at hgt
        | cons y t =>
            rw [List.cons_append] at hu
            exact not_valid_of_continuation hu.symm (htail y (by simp))
      · simp only [List.length_cons, List.length_append] at hgt
        omega

end Utf8
