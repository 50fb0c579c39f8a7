import Mathlib.Data.List.Infix
import Sudonit.Core.Octets

/-!
# C strings and C buffers

A pointer is the rest of the object it points into, as a list of octets, so that reading through it
is defined only while there are octets left; a buffer is the whole object.  `none` stands for
undefined behaviour: an access outside the object.

* `store` — writing octets into a buffer at an index; `overlay` is what a buffer holds after the
  octets written from its front, and `store_overlay` is one more write.
* `cstring`, `strstr`, `snprintfString` — the library functions, over memory.
* `find` — the first suffix that starts with a needle.  `find_append_sep` takes a text apart at a
  character the needle does not have, and `find_first` goes by what stands in front of an occurrence.
-/

namespace CText

open Octets

/-! ## Buffers -/

/-- Write `bs` at index `i`. -/
def store (out : Bytes) (i : ℕ) (bs : Bytes) : Option Bytes :=
  if i + bs.length ≤ out.length then some (out.take i ++ bs ++ out.drop (i + bs.length)) else none

/-- The buffer after `bs` has been written over its front. -/
def overlay (out bs : Bytes) : Bytes := bs ++ out.drop bs.length

lemma length_overlay {out bs : Bytes} (h : bs.length ≤ out.length) :
    (overlay out bs).length = out.length := by
  rw [overlay, List.length_append, List.length_drop]
  omega

lemma length_store {out out' bs : Bytes} {i : ℕ} (h : store out i bs = some out') :
    out'.length = out.length := by
  unfold store at h
  split_ifs at h with hle
  rw [← Option.some.inj h]
  simp only [List.length_append, List.length_take, List.length_drop]
  omega

lemma store_nil {out out' : Bytes} {i : ℕ} (h : store out i [] = some out') : out' = out := by
  unfold store at h
  split_ifs at h
  rw [← Option.some.inj h, List.append_nil, List.length_nil, Nat.add_zero, List.take_append_drop]

lemma store_fits {out out' bs : Bytes} {i : ℕ} (h : store out i bs = some out') : i + bs.length ≤ out.length := by
  unfold store at h
  split_ifs at h with hle
  exact hle

/-- One octet, then the rest. -/
lemma store_cons {out : Bytes} {i : ℕ} (h : i < out.length) (x : UInt8) (xs : Bytes) :
    store out i (x :: xs) = store (out.set i x) (i + 1) xs := by
  have hlen : (out.take i ++ [x]).length = i + 1 := by
    rw [List.length_append, List.length_take_of_le h.le, List.length_singleton]
  have hset : out.set i x = (out.take i ++ [x]) ++ out.drop (i + 1) := by
    rw [List.set_eq_take_append_cons_drop, if_pos h, List.append_assoc, List.singleton_append]
  have hdrop : ((out.take i ++ [x]) ++ out.drop (i + 1)).drop (i + 1 + xs.length) = out.drop (i + 1 + xs.length) := by
    rw [← List.drop_drop, List.drop_left' hlen, List.drop_drop]
  rw [store, store, List.length_set, List.length_cons, show i + (xs.length + 1) = i + 1 + xs.length by omega]
  split_ifs
  · rw [hset, List.take_left' hlen, hdrop, List.append_assoc, List.append_assoc, List.append_assoc,
      List.singleton_append, List.cons_append]
  · rfl

/-- Writing on from where the octets written so far end. -/
lemma store_overlay {out acc bs : Bytes} (h : acc.length + bs.length ≤ out.length) :
    store (overlay out acc) acc.length bs = some (overlay out (acc ++ bs)) := by
  rw [store, length_overlay (by omega), if_pos h]
  simp only [overlay, List.take_left, List.drop_append, List.length_append]
  rw [List.drop_eq_nil_of_le (show acc.length ≤ acc.length + bs.length by omega), List.nil_append,
    List.drop_drop, show acc.length + (acc.length + bs.length - acc.length)
      = acc.length + bs.length by omega]

/-! ## Searching -/

/-- The first suffix that starts with the needle. -/
def find (needle : Bytes) : Bytes → Option Bytes
  | [] => if needle = [] then some [] else none
  | b :: bs => if needle <+: b :: bs then some (b :: bs) else find needle bs

lemma find_nil (needle : Bytes) : find needle [] = if needle = [] then some [] else none := rfl

lemma find_cons (needle : Bytes) (b : UInt8) (bs : Bytes) :
    find needle (b :: bs) = if needle <+: b :: bs then some (b :: bs) else find needle bs := rfl

lemma find_eq_none_iff {needle bs : Bytes} : find needle bs = none ↔ ¬ needle <:+: bs := by
  induction bs with
  | nil =>
      rw [find, List.infix_nil]
      split_ifs with h <;> simp [h]
  | cons b bs ih =>
      rw [find, List.infix_cons_iff]
      split_ifs with h
      · simp [h]
      · rw [ih]
        simp [h]

/-- What is found starts with the needle and is a suffix. -/
lemma find_some {needle bs r : Bytes} (h : find needle bs = some r) : needle <+: r ∧ r <:+ bs := by
  induction bs with
  | nil =>
      rw [find] at h
      split_ifs at h with he
      rw [← Option.some.inj h, he]
      exact ⟨List.nil_prefix, List.suffix_rfl⟩
  | cons b bs ih =>
      rw [find] at h
      split_ifs at h with hp
      · rw [← Option.some.inj h]
        exact ⟨hp, List.suffix_rfl⟩
      · exact ⟨(ih h).1, (ih h).2.trans (List.suffix_cons b bs)⟩

/-- A text that starts with the needle is found where it starts. -/
lemma find_of_prefix {needle bs : Bytes} (h : needle <+: bs) : find needle bs = some bs := by
  cases bs with
  | nil => rw [find, if_pos (List.prefix_nil.mp h)]
  | cons b bs => rw [find, if_pos h]

/-- A prefix up to a character it does not have. -/
lemma prefix_append_sep {needle u w : Bytes} {x : UInt8} (hx : x ∉ needle) :
    needle <+: u ++ x :: w ↔ needle <+: u := by
  constructor
  · intro h
    rcases List.prefix_or_prefix_of_prefix h (List.prefix_append u (x :: w)) with h' | h'
    · exact h'
    · obtain ⟨t, rfl⟩ := h'
      rw [List.prefix_append_right_inj] at h
      cases t with
      | nil => simp
      | cons y t => simp [(List.cons_prefix_cons.mp h).1] at hx
  · exact fun h => h.trans (List.prefix_append u (x :: w))

/-- **A character the needle does not have cuts the search in two.** -/
theorem find_append_sep {needle u w : Bytes} {x : UInt8} (hx : x ∉ needle) (hne : needle ≠ []) :
    find needle (u ++ x :: w) =
      match find needle u with
      | some r => some (r ++ x :: w)
      | none => find needle w := by
  induction u with
  | nil =>
      have hno : ¬ needle <+: x :: w := by
        rw [← List.nil_append (x :: w), prefix_append_sep hx, List.prefix_nil]
        exact hne
      rw [List.nil_append, find_cons, if_neg hno, find_nil, if_neg hne]
  | cons b u ih =>
      have hiff : needle <+: b :: (u ++ x :: w) ↔ needle <+: b :: u :=
        prefix_append_sep (u := b :: u) hx
      rw [List.cons_append, find_cons, find_cons]
      by_cases hp : needle <+: b :: u
      · rw [if_pos (hiff.mpr hp), if_pos hp]
        rfl
      · rw [if_neg (fun h => hp (hiff.mp h)), if_neg hp, ih]

/-- A text without one of the characters of the needle does not have the needle. -/
lemma find_of_notMem {needle bs : Bytes} {x : UInt8} (hx : x ∈ needle) (hbs : x ∉ bs) :
    find needle bs = none :=
  find_eq_none_iff.mpr fun h => hbs (h.subset hx)

/-! ## First occurrences -/

/-- The needle does not start in `a` when it comes right behind it. -/
def FirstBehind (needle a : Bytes) : Prop := ¬ needle <:+: a ++ needle.dropLast

instance (needle a : Bytes) : Decidable (FirstBehind needle a) := inferInstanceAs (Decidable (¬ _))

/-- A needle that is found is the first occurrence. -/
lemma find_some_split {needle bs r : Bytes} (hne : needle ≠ []) (h : find needle bs = some r) :
    ∃ a r', bs = a ++ r ∧ r = needle ++ r' ∧ FirstBehind needle a := by
  induction bs with
  | nil =>
      rw [find_nil, if_neg hne] at h
      simp at h
  | cons b bs ih =>
      rw [find_cons] at h
      by_cases hp : needle <+: b :: bs
      · rw [if_pos hp] at h
        obtain ⟨r', hr'⟩ := hp
        refine ⟨[], r', by rw [← Option.some.inj h]; rfl, by rw [← Option.some.inj h, hr'], fun hin => ?_⟩
        have := hin.length_le
        rw [List.nil_append, List.length_dropLast] at this
        have := List.length_pos_of_ne_nil hne
        omega
      · rw [if_neg hp] at h
        obtain ⟨a, r', rfl, rfl, hfirst⟩ := ih h
        refine ⟨b :: a, r', rfl, rfl, fun hin => ?_⟩
        rcases List.infix_cons_iff.mp hin with hpre | hin
        · have hmore : b :: (a ++ needle.dropLast) <+: b :: (a ++ (needle ++ r')) := by
            rw [List.prefix_cons_inj, List.prefix_append_right_inj]
            exact (List.dropLast_prefix needle).trans (List.prefix_append _ _)
          exact hp (hpre.trans hmore)
        · exact hfirst hin

/-- **The first occurrence is found.** -/
theorem find_first {needle a : Bytes} (h : FirstBehind needle a) (r : Bytes) :
    find needle (a ++ (needle ++ r)) = some (needle ++ r) := by
  induction a with
  | nil => exact find_of_prefix (List.prefix_append _ _)
  | cons x a ih =>
      have hno : ¬ needle <+: x :: (a ++ (needle ++ r)) := by
        intro hp
        refine h (List.IsPrefix.isInfix ?_)
        have hcut : x :: a ++ needle.dropLast <+: x :: (a ++ (needle ++ r)) := by
          rw [List.cons_append, List.prefix_cons_inj, List.prefix_append_right_inj]
          exact (List.dropLast_prefix needle).trans (List.prefix_append _ _)
        refine List.prefix_of_prefix_length_le hp hcut ?_
        simp only [List.length_append, List.length_cons, List.length_dropLast]
        omega
      rw [List.cons_append, find_cons, if_neg hno]
      exact ih fun hin => h (hin.trans (List.suffix_cons x _).isInfix)

/-! ## C strings in memory -/

/-- The C string at a pointer: the octets before the terminator. -/
def cstring (mem : Bytes) : Option Bytes :=
  if 0 ∈ mem then some (mem.takeWhile (· ≠ 0)) else none

/-- `strstr`: the pointer to the first occurrence, if there is one. -/
def strstr (mem needle : Bytes) : Option (Option Bytes) :=
  (cstring mem).map fun s => (find needle s).map (· ++ mem.drop s.length)

/-- `snprintf(out, cap, "%s", mem)` into the whole of a buffer. -/
def snprintfString (out mem : Bytes) : Option Bytes :=
  (cstring mem).bind fun s => store out 0 (s.take (out.length - 1) ++ [0])

/-- Terminated memory, taken apart at the terminator. -/
lemma cstring_append {t : Bytes} (ht : 0 ∉ t) (junk : Bytes) :
    cstring (t ++ 0 :: junk) = some t := by
  have hall : ∀ b ∈ t, (decide (b ≠ 0)) = true := by
    intro b hb
    simp only [decide_eq_true_eq]
    rintro rfl
    exact ht hb
  rw [cstring, if_pos (by simp), List.takeWhile_append_of_pos hall]
  simp

/-- Memory with a zero octet is a C string and what comes after it. -/
lemma exists_cstring {mem : Bytes} (h : 0 ∈ mem) : ∃ t junk, 0 ∉ t ∧ mem = t ++ 0 :: junk := by
  obtain ⟨t, junk, rfl, ht⟩ := List.eq_append_cons_of_mem h
  exact ⟨t, junk, ht, rfl⟩

lemma strstr_append {t : Bytes} (ht : 0 ∉ t) (junk needle : Bytes) :
    strstr (t ++ 0 :: junk) needle = some ((find needle t).map (· ++ 0 :: junk)) := by
  rw [strstr, cstring_append ht, Option.map_some, List.drop_left]

end CText
