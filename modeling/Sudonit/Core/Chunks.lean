import Mathlib.Algebra.BigOperators.Group.Finset.Basic
import Mathlib.Algebra.GroupWithZero.Nat
import Mathlib.Algebra.Order.BigOperators.Group.Finset
import Mathlib.Algebra.Order.BigOperators.Group.List
import Mathlib.Tactic.Lemma

/-!
# Numbered chunks of a block of data

A block of data crosses in numbered chunks of at most `w` elements; chunk `i` belongs at `i * w`.  One
receiver writes each chunk where it belongs in a buffer of the announced size; another keeps the chunks
by number and joins them.

* `slices` — the chunks a sender cuts; `writeAll_slices` puts them together again, in any order.
* `writeAll` — the receiver with a buffer.  `window_writeAll`: with distinct numbers every chunk is
  still where it was written at the end, in whatever order they came.
* `Tiling.mem_iff`, `Tiling.length_eq` — distinct chunks that stay inside the buffer and are as long
  together as it is number `0` to their count, and each is as long as it can be.
* `Tiling.joined_last` — then the buffer is what joining them by number gives.
* `count_and_joined_iff` — counting the numbers and joining from zero decides whether exactly those
  below the count are there.
-/

namespace Chunks

/-- A chunk: its number and its data. -/
structure Chunk (α : Type) where
  seq : ℕ
  data : List α

variable {α : Type} (w : ℕ)

/-! ## Windows of a buffer -/

/-- What a buffer holds where chunk `seq` of that length belongs. -/
def window (buf : List α) (seq len : ℕ) : List α := (buf.drop (seq * w)).take len

/-- Write a chunk where it belongs. -/
def write (buf : List α) (c : Chunk α) : List α :=
  buf.take (c.seq * w) ++ c.data ++ buf.drop (c.seq * w + c.data.length)

/-- Write chunk after chunk. -/
def writeAll (buf : List α) (cs : List (Chunk α)) : List α := cs.foldl (write w) buf

/-- A chunk that is not too long and stays inside a buffer of that size. -/
def Fits (size : ℕ) (c : Chunk α) : Prop := c.data.length ≤ w ∧ c.seq * w + c.data.length ≤ size

variable {w}

lemma length_write {buf : List α} {c : Chunk α} (hc : Fits w buf.length c) :
    (write w buf c).length = buf.length := by
  have := hc.2
  simp only [write, List.length_append, List.length_take, List.length_drop]
  omega

lemma window_write_self {buf : List α} {c : Chunk α} (hc : Fits w buf.length c) :
    window w (write w buf c) c.seq c.data.length = c.data := by
  have hlen : (buf.take (c.seq * w)).length = c.seq * w := by
    rw [List.length_take]
    have := hc.2
    omega
  rw [window, write, List.append_assoc, List.drop_left' hlen, List.take_left' rfl]

/-- Windows of different numbers do not overlap. -/
lemma offset_disjoint {i j m n : ℕ} (hij : i ≠ j) (hm : m ≤ w) (hn : n ≤ w) :
    i * w + m ≤ j * w ∨ j * w + n ≤ i * w := by
  rcases Nat.lt_or_gt_of_ne hij with h | h
  · left
    have := Nat.mul_le_mul_right w h
    rw [Nat.succ_mul] at this
    omega
  · right
    have := Nat.mul_le_mul_right w h
    rw [Nat.succ_mul] at this
    omega

/-- Writing a chunk leaves the windows of other numbers alone. -/
lemma window_write_ne {buf : List α} {c : Chunk α} (hc : Fits w buf.length c) {seq len : ℕ}
    (hne : seq ≠ c.seq) (hlen : len ≤ w) : window w (write w buf c) seq len = window w buf seq len := by
  have hfit := hc.2
  have hdisj := offset_disjoint hne hlen hc.1
  apply List.ext_getElem?
  intro i
  simp only [window, write, List.getElem?_take, List.getElem?_drop]
  by_cases hi : i < len
  · rw [if_pos hi, if_pos hi]
    rcases hdisj with hbefore | hafter
    · rw [List.append_assoc, List.getElem?_append_left (by rw [List.length_take]; omega),
        List.getElem?_take, if_pos (by omega)]
    · rw [List.getElem?_append_right (by
          rw [List.length_append, List.length_take]
          omega), List.getElem?_drop, List.length_append, List.length_take]
      congr 1
      omega
  · rw [if_neg hi, if_neg hi]

lemma length_writeAll {buf : List α} {cs : List (Chunk α)} (hfit : ∀ c ∈ cs, Fits w buf.length c) :
    (writeAll w buf cs).length = buf.length := by
  induction cs generalizing buf with
  | nil => rfl
  | cons c cs ih =>
      have hc := length_write (hfit c List.mem_cons_self)
      rw [writeAll, List.foldl_cons, ← writeAll, ih, hc]
      exact fun d hd => hc.symm ▸ hfit d (List.mem_cons_of_mem _ hd)

lemma window_writeAll_other {buf : List α} {cs : List (Chunk α)}
    (hfit : ∀ c ∈ cs, Fits w buf.length c) {seq len : ℕ} (hne : seq ∉ cs.map Chunk.seq)
    (hlen : len ≤ w) : window w (writeAll w buf cs) seq len = window w buf seq len := by
  induction cs generalizing buf with
  | nil => rfl
  | cons c cs ih =>
      have hc := hfit c List.mem_cons_self
      simp only [List.map_cons, List.mem_cons, not_or] at hne
      rw [writeAll, List.foldl_cons, ← writeAll, ih _ hne.2, window_write_ne hc hne.1 hlen]
      exact fun d hd => (length_write hc).symm ▸ hfit d (List.mem_cons_of_mem _ hd)

/-- **With distinct numbers every chunk is where it belongs in the end**, in whatever order they were
written and whatever the buffer held before. -/
theorem window_writeAll {buf : List α} {cs : List (Chunk α)} (hnd : (cs.map Chunk.seq).Nodup)
    (hfit : ∀ c ∈ cs, Fits w buf.length c) {c : Chunk α} (hc : c ∈ cs) :
    window w (writeAll w buf cs) c.seq c.data.length = c.data := by
  induction cs generalizing buf with
  | nil => simp at hc
  | cons d cs ih =>
      have hd := hfit d List.mem_cons_self
      have hrest : ∀ e ∈ cs, Fits w (write w buf d).length e :=
        fun e he => (length_write hd).symm ▸ hfit e (List.mem_cons_of_mem _ he)
      rw [List.map_cons, List.nodup_cons] at hnd
      rw [writeAll, List.foldl_cons, ← writeAll]
      rcases List.mem_cons.mp hc with rfl | hc
      · rw [window_writeAll_other hrest hnd.1 hd.1, window_write_self hd]
      · exact ih hnd.2 hrest hc

/-! ## Tilings -/

/-- Chunks with distinct numbers that stay inside a buffer of `size` elements and are as long together
as it is. -/
structure Tiling (w size : ℕ) (cs : List (Chunk α)) : Prop where
  nodup : (cs.map Chunk.seq).Nodup
  fits : ∀ c ∈ cs, Fits w size c
  total : (cs.map fun c => c.data.length).sum = size

/-- The most that chunk `i` of a buffer can hold. -/
def room (w size i : ℕ) : ℕ := min w (size - i * w)

lemma Fits.le_room {size : ℕ} {c : Chunk α} (h : Fits w size c) : c.data.length ≤ room w size c.seq := by
  obtain ⟨hw, hsize⟩ := h
  rw [room]
  omega

lemma sum_room (w size n : ℕ) : ∑ i ∈ Finset.range n, room w size i = min size (n * w) := by
  induction n with
  | zero => simp
  | succ n ih =>
      rw [Finset.sum_range_succ, ih, room, Nat.succ_mul]
      omega

/-- The chunks of distinct numbers hold no more than the buffer. -/
lemma sum_room_le {size : ℕ} {cs : List (Chunk α)} (hnd : (cs.map Chunk.seq).Nodup) :
    (cs.map fun c => room w size c.seq).sum ≤ size := by
  have hsum : (cs.map fun c => room w size c.seq).sum
      = ∑ i ∈ (cs.map Chunk.seq).toFinset, room w size i := by
    rw [List.sum_toFinset _ hnd, List.map_map]
    rfl
  obtain ⟨n, hn⟩ := (cs.map Chunk.seq).toFinset.exists_nat_subset_range
  rw [hsum]
  calc ∑ i ∈ (cs.map Chunk.seq).toFinset, room w size i
      ≤ ∑ i ∈ Finset.range n, room w size i := Finset.sum_le_sum_of_subset hn
    _ = min size (n * w) := sum_room w size n
    _ ≤ size := min_le_left _ _

lemma sum_length_le {size : ℕ} {cs : List (Chunk α)} (hnd : (cs.map Chunk.seq).Nodup)
    (hfit : ∀ c ∈ cs, Fits w size c) : (cs.map fun c => c.data.length).sum ≤ size :=
  (List.sum_le_sum fun c hc => (hfit c hc).le_room).trans (sum_room_le hnd)

/-- **In a tiling every chunk is as long as it can be.** -/
theorem Tiling.length_eq {size : ℕ} {cs : List (Chunk α)} (h : Tiling w size cs) {c : Chunk α}
    (hc : c ∈ cs) : c.data.length = room w size c.seq := by
  by_contra hne
  have hlt := List.sum_lt_sum (fun c : Chunk α => c.data.length) (fun c => room w size c.seq)
    (fun d hd => (h.fits d hd).le_room) ⟨c, hc, lt_of_le_of_ne (h.fits c hc).le_room hne⟩
  have hroom : (cs.map fun c => room w size c.seq).sum ≤ size := sum_room_le h.nodup
  have htotal := h.total
  omega

/-- A number whose place is inside the buffer belongs to some chunk. -/
lemma Tiling.mem_of_lt {size : ℕ} (hw : 0 < w) {cs : List (Chunk α)} (h : Tiling w size cs) {i : ℕ}
    (hi : i * w < size) : i ∈ cs.map Chunk.seq := by
  by_contra hnot
  have hroom : 0 < room w size i := by
    rw [room]
    omega
  have hone : (((⟨i, []⟩ : Chunk α) :: cs).map Chunk.seq).Nodup :=
    List.nodup_cons.mpr ⟨hnot, h.nodup⟩
  have hle : (((⟨i, []⟩ : Chunk α) :: cs).map fun c => room w size c.seq).sum ≤ size :=
    sum_room_le hone
  have htotal : (cs.map fun c => room w size c.seq).sum = size := by
    have htotal := h.total
    rwa [List.map_congr_left fun c hc => h.length_eq hc] at htotal
  rw [List.map_cons, List.sum_cons, htotal] at hle
  change room w size i + size ≤ size at hle
  omega

/-- A set of numbers that contains every smaller one is an initial segment. -/
lemma mem_iff_lt_card {s : Finset ℕ} (hdown : ∀ i ∈ s, ∀ j < i, j ∈ s) (i : ℕ) : i ∈ s ↔ i < s.card := by
  constructor
  · intro hi
    have hsub : Finset.range (i + 1) ⊆ s := by
      intro j hj
      rw [Finset.mem_range] at hj
      rcases Nat.lt_or_ge j i with h | h
      · exact hdown i hi j h
      · rwa [show j = i by omega]
    have := Finset.card_le_card hsub
    rw [Finset.card_range] at this
    omega
  · intro hi
    by_contra hnot
    have hsub : s ⊆ Finset.range i := by
      intro j hj
      rw [Finset.mem_range]
      by_contra hge
      rcases Nat.lt_or_ge i j with h | h
      · exact hnot (hdown j hj i h)
      · exact hnot (by rwa [show i = j by omega])
    have := Finset.card_le_card hsub
    rw [Finset.card_range] at this
    omega

/-- **The numbers of a tiling are those below its count.** -/
theorem Tiling.mem_iff {size : ℕ} (hw : 0 < w) {cs : List (Chunk α)} (h : Tiling w size cs) (i : ℕ) :
    i ∈ cs.map Chunk.seq ↔ i < cs.length := by
  have hdown : ∀ j ∈ (cs.map Chunk.seq).toFinset, ∀ k < j, k ∈ (cs.map Chunk.seq).toFinset := by
    intro j hj k hk
    rw [List.mem_toFinset] at hj ⊢
    obtain ⟨c, hc, rfl⟩ := List.mem_map.mp hj
    have hfit := (h.fits c hc).2
    have hlt : k * w < c.seq * w := Nat.mul_lt_mul_of_pos_right hk hw
    exact h.mem_of_lt hw (by omega)
  rw [← List.mem_toFinset, mem_iff_lt_card hdown, List.toFinset_card_of_nodup h.nodup,
    List.length_map]

/-- Every place of the buffer lies in a chunk. -/
lemma Tiling.covers {size : ℕ} (hw : 0 < w) {cs : List (Chunk α)} (h : Tiling w size cs) {i : ℕ}
    (hi : i < size) : ∃ c ∈ cs, c.seq * w ≤ i ∧ i < c.seq * w + c.data.length := by
  have hdiv : i / w * w ≤ i := Nat.div_mul_le_self i w
  have hnext : i < i / w * w + w := by
    have := Nat.lt_mul_div_succ i hw
    rw [Nat.mul_comm, Nat.succ_mul] at this
    exact this
  obtain ⟨c, hc, hseq⟩ := List.mem_map.mp (h.mem_of_lt hw (lt_of_le_of_lt hdiv hi))
  refine ⟨c, hc, by rw [hseq]; exact hdiv, ?_⟩
  rw [h.length_eq hc, hseq, room]
  omega

/-! ## Joining -/

/-- A buffer from window `i` on is window `i` and the buffer from the next one on. -/
lemma drop_window {buf : List α} (i : ℕ) :
    buf.drop (i * w) = window w buf i (room w buf.length i) ++ buf.drop ((i + 1) * w) := by
  rw [window, room, Nat.succ_mul, ← List.drop_drop]
  rcases Nat.le_total w (buf.length - i * w) with h | h
  · rw [min_eq_left h, List.take_append_drop]
  · have hlen : (buf.drop (i * w)).length ≤ w := by rwa [List.length_drop]
    rw [min_eq_right h, List.drop_eq_nil_of_le hlen, List.append_nil,
      List.take_of_length_le (by rw [List.length_drop])]

/-- The chunks of some numbers, from `i` on, joined. -/
def joined (chunk : ℕ → Option (List α)) : ℕ → ℕ → Option (List α)
  | _, 0 => some []
  | i, n + 1 =>
      match chunk i with
      | none => none
      | some data => (joined chunk (i + 1) n).map (data ++ ·)

/-- **Joining the windows of a buffer gives the buffer.** -/
theorem joined_windows {chunk : ℕ → Option (List α)} {buf : List α} {n : ℕ}
    (hall : buf.length ≤ n * w)
    (hchunk : ∀ i < n, chunk i = some (window w buf i (room w buf.length i))) :
    joined chunk 0 n = some buf := by
  suffices h : ∀ k i, i + k = n → joined chunk i k = some (buf.drop (i * w)) by
    simpa using h n 0 (Nat.zero_add n)
  intro k
  induction k with
  | zero =>
      intro i hi
      rw [joined, List.drop_eq_nil_of_le (by rw [show i = n by omega]; exact hall)]
  | succ k ih =>
      intro i hi
      rw [joined, hchunk i (by omega), ih (i + 1) (by omega)]
      simp only [Option.map_some]
      rw [← drop_window]

/-! ## Keeping chunks by number -/

/-- The data that came last under a number. -/
def last (cs : List (Chunk α)) (i : ℕ) : Option (List α) :=
  (cs.reverse.find? fun c => c.seq = i).map Chunk.data

@[simp] lemma last_nil (i : ℕ) : last ([] : List (Chunk α)) i = none := rfl

lemma last_concat (cs : List (Chunk α)) (c : Chunk α) (i : ℕ) :
    last (cs ++ [c]) i = if c.seq = i then some c.data else last cs i := by
  rw [last, List.reverse_append, List.reverse_singleton, List.singleton_append, List.find?_cons]
  by_cases h : c.seq = i <;> simp [h, last]

lemma last_isSome {cs : List (Chunk α)} {i : ℕ} : (last cs i).isSome ↔ i ∈ cs.map Chunk.seq := by
  rw [last, Option.isSome_map, List.find?_isSome]
  simp

/-- With distinct numbers nothing came later. -/
lemma last_of_nodup {cs : List (Chunk α)} (hnd : (cs.map Chunk.seq).Nodup) {c : Chunk α} (hc : c ∈ cs) :
    last cs c.seq = some c.data := by
  induction cs using List.reverseRecOn with
  | nil => simp at hc
  | append_singleton cs d ih =>
      rw [List.map_append, List.nodup_append] at hnd
      rw [last_concat]
      rcases List.mem_append.mp hc with h | h
      · have hne : d.seq ≠ c.seq :=
          fun heq => hnd.2.2 c.seq (List.mem_map_of_mem h) d.seq (by simp) heq.symm
        rw [if_neg hne, ih hnd.1 h]
      · rw [List.mem_singleton.mp h, if_pos rfl]

/-- Joining finds every chunk or none. -/
lemma joined_eq_some {chunk : ℕ → Option (List α)} {i n : ℕ} {data : List α} :
    joined chunk i n = some data ↔ (∀ j < n, (chunk (i + j)).isSome) ∧
      data = (List.range n).flatMap fun j => (chunk (i + j)).getD [] := by
  induction n generalizing i data with
  | zero =>
      rw [joined, Option.some.injEq, List.range_zero, List.flatMap_nil, eq_comm]
      exact ⟨fun h => ⟨fun j hj => absurd hj (Nat.not_lt_zero j), h⟩, And.right⟩
  | succ n ih =>
      have hshift : ∀ j, i + 1 + j = i + (j + 1) := fun j => by omega
      have hrange : (List.range (n + 1)).flatMap (fun j => (chunk (i + j)).getD [])
          = (chunk i).getD [] ++ (List.range n).flatMap fun j => (chunk (i + 1 + j)).getD [] := by
        rw [List.range_succ_eq_map, List.flatMap_cons, List.flatMap_map]
        congr 2
        funext j
        exact congrArg (fun k => (chunk k).getD []) (hshift j).symm
      rw [joined, hrange]
      cases hchunk : chunk i with
      | none =>
          refine iff_of_false (by simp) fun h => ?_
          have hfirst := h.1 0 (Nat.succ_pos n)
          simp [hchunk] at hfirst
      | some first =>
          simp only [Option.map_eq_some_iff, ih, Option.getD_some]
          constructor
          · rintro ⟨rest, ⟨hfound, rfl⟩, rfl⟩
            refine ⟨?_, rfl⟩
            intro j hj
            cases j with
            | zero => simp [hchunk]
            | succ j => exact hshift j ▸ hfound j (Nat.lt_of_succ_lt_succ hj)
          · rintro ⟨hfound, rfl⟩
            refine ⟨_, ⟨?_, rfl⟩, rfl⟩
            intro j hj
            exact hshift j ▸ hfound (j + 1) (Nat.succ_lt_succ hj)

/-- The data that came last under the numbers below `n`, in their order. -/
def content (cs : List (Chunk α)) (n : ℕ) : List α := (List.range n).flatMap fun i => (last cs i).getD []

/-- **Counting decides completeness**: as many different numbers as `n`, and all those below `n` among
them, are exactly the numbers below `n`. -/
theorem count_and_joined_iff {cs : List (Chunk α)} {n : ℕ} {data : List α} :
    ((cs.map Chunk.seq).toFinset.card = n ∧ joined (last cs) 0 n = some data) ↔
      (cs.map Chunk.seq).toFinset = Finset.range n ∧ data = content cs n := by
  simp only [joined_eq_some, Nat.zero_add, last_isSome]
  constructor
  · rintro ⟨hcount, hfound, rfl⟩
    have hsub : Finset.range n ⊆ (cs.map Chunk.seq).toFinset := by
      intro i hi
      exact List.mem_toFinset.mpr (hfound i (Finset.mem_range.mp hi))
    exact ⟨(Finset.eq_of_subset_of_card_le hsub (by rw [hcount, Finset.card_range])).symm, rfl⟩
  · rintro ⟨hnumbers, rfl⟩
    refine ⟨by rw [hnumbers, Finset.card_range], ?_, rfl⟩
    intro i hi
    rw [← List.mem_toFinset, hnumbers]
    exact Finset.mem_range.mpr hi

/-- **In a tiling the chunks kept by number join to the buffer they were written to.** -/
theorem Tiling.joined_last {buf : List α} (hw : 0 < w) {cs : List (Chunk α)}
    (h : Tiling w buf.length cs) :
    joined (last cs) 0 cs.length = some (writeAll w buf cs) := by
  have hlen := length_writeAll h.fits
  have hall : buf.length ≤ cs.length * w := by
    by_contra hgt
    have := (h.mem_iff hw cs.length).mp (h.mem_of_lt hw (by omega))
    omega
  refine joined_windows (by rw [hlen]; exact hall) ?_
  intro i hi
  obtain ⟨c, hc, rfl⟩ := List.mem_map.mp ((h.mem_iff hw i).mpr hi)
  rw [last_of_nodup h.nodup hc, hlen, ← h.length_eq hc, window_writeAll h.nodup h.fits hc]

/-! ## Cutting -/

/-- Chunk `i` of some data. -/
def slice (w : ℕ) (data : List α) (i : ℕ) : Chunk α := ⟨i, (data.drop (i * w)).take w⟩

/-- The first `n` chunks of some data. -/
def slices (w : ℕ) (data : List α) (n : ℕ) : List (Chunk α) := (List.range n).map (slice w data)

@[simp] lemma map_seq_slices (w : ℕ) (data : List α) (n : ℕ) :
    (slices w data n).map Chunk.seq = List.range n := by
  rw [slices, List.map_map]
  exact List.map_id _

lemma length_slice (w : ℕ) (data : List α) (i : ℕ) :
    (slice w data i).data.length = room w data.length i := by
  simp only [slice, room, List.length_take, List.length_drop]

lemma slice_eq_window (w : ℕ) (data : List α) (i : ℕ) :
    (slice w data i).data = window w data i (room w data.length i) := by
  rw [slice, window, room]
  rcases Nat.le_total w (data.length - i * w) with h | h
  · rw [min_eq_left h]
  · rw [min_eq_right h, List.take_of_length_le (by rwa [List.length_drop]),
      List.take_of_length_le (by rw [List.length_drop])]

/-- **As many chunks as are needed, and no more, tile the data.** -/
theorem tiling_slices {w : ℕ} {data : List α} {n : ℕ} (hall : data.length ≤ n * w)
    (hlast : ∀ i < n, i * w ≤ data.length) : Tiling w data.length (slices w data n) where
  nodup := by
    rw [map_seq_slices]
    exact List.nodup_range
  fits c hc := by
    obtain ⟨i, hi, rfl⟩ := List.mem_map.mp hc
    have := hlast i (List.mem_range.mp hi)
    have hlen := length_slice w data i
    have hseq : (slice w data i).seq = i := rfl
    rw [room] at hlen
    rw [Fits, hlen, hseq]
    omega
  total := by
    have hrange : (List.range n).toFinset = Finset.range n := by
      ext i
      simp
    have hsum := sum_room w data.length n
    rw [min_eq_left hall, ← hrange, List.sum_toFinset _ List.nodup_range] at hsum
    rw [slices, List.map_map, ← hsum]
    congr 1
    exact List.map_congr_left fun i _ => length_slice w data i

/-- **Chunks cut from some data and written in any order leave the data.** -/
theorem writeAll_slices {w : ℕ} {data buf : List α} {n : ℕ} (hw : 0 < w)
    (hbuf : buf.length = data.length) (hall : data.length ≤ n * w)
    (hlast : ∀ i < n, i * w ≤ data.length) {cs : List (Chunk α)} (hperm : cs.Perm (slices w data n)) :
    writeAll w buf cs = data := by
  have htiling : Tiling w buf.length cs := by
    have h := tiling_slices hall hlast
    exact ⟨(hperm.map _).nodup_iff.mpr h.nodup, fun c hc => hbuf ▸ h.fits c (hperm.mem_iff.mp hc),
      by rw [hbuf, (hperm.map _).sum_eq, h.total]⟩
  have hlen : cs.length = n := by
    rw [hperm.length_eq, slices, List.length_map, List.length_range]
  have hjoin : joined (last cs) 0 n = some data := by
    refine joined_windows hall ?_
    intro i hi
    have hmem : slice w data i ∈ cs :=
      hperm.mem_iff.mpr (List.mem_map_of_mem (List.mem_range.mpr hi))
    rw [← slice_eq_window]
    exact last_of_nodup htiling.nodup hmem
  have := htiling.joined_last hw
  rw [hlen, hjoin] at this
  exact (Option.some.inj this).symm

end Chunks
