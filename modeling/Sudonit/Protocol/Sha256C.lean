import Mathlib.Data.List.Range
import Sudonit.Core.Sha256

/-!
# `sha256.c`

The portable hash of the firmware: whole blocks are compressed where they lie in the input, and only
the last one or two are put together in a buffer.

* `transform_eq` — the compression function, with its array of schedule words, is that of FIPS 180-4.
* `tail_eq` — the final buffer is what the padding adds after the whole blocks.
* `sdSha256_eq`, `firmware_sha256` — the digest is SHA-256, below the length at which the bit count wraps.
-/

namespace Sudonit

open Octets Sha256

/-! ## As the code computes it -/

/-- The first loop of `transform`: sixteen words of the block. -/
def loadWords (block : Bytes) : List UInt32 := (List.range 16).map (blockWord block)

/-- The second loop of `transform`: one more word of `w`. -/
def extendWords (w : List UInt32) (i : ℕ) : List UInt32 :=
  let s0 := rotr (w.getD (i - 15) 0) 7 ^^^ rotr (w.getD (i - 15) 0) 18 ^^^ (w.getD (i - 15) 0 >>> 3)
  let s1 := rotr (w.getD (i - 2) 0) 17 ^^^ rotr (w.getD (i - 2) 0) 19 ^^^ (w.getD (i - 2) 0 >>> 10)
  w ++ [w.getD (i - 16) 0 + s0 + w.getD (i - 7) 0 + s1]

/-- The third loop of `transform`: one round. -/
def transformRound (w : List UInt32) (s : Words) (i : ℕ) : Words :=
  let S1 := rotr s.e 6 ^^^ rotr s.e 11 ^^^ rotr s.e 25
  let ch := (s.e &&& s.f) ^^^ (~~~s.e &&& s.g)
  let t1 := s.h + S1 + ch + roundConstants.getD i 0 + w.getD i 0
  let S0 := rotr s.a 2 ^^^ rotr s.a 13 ^^^ rotr s.a 22
  let maj := (s.a &&& s.b) ^^^ (s.a &&& s.c) ^^^ (s.b &&& s.c)
  let t2 := S0 + maj
  ⟨t1 + t2, s.a, s.b, s.c, s.d + t1, s.e, s.f, s.g⟩

/-- `transform`. -/
def transform (h : Words) (block : Bytes) : Words :=
  let w := (List.range' 16 48).foldl extendWords (loadWords block)
  h.add ((List.range 64).foldl (transformRound w) h)

/-- The buffer for the final block or blocks: remainder, `0x80`, zeros, and the 64-bit bit count. -/
def finalTail (rem : Bytes) (len : ℕ) : Bytes :=
  let padTo := if rem.length < 56 then 64 else 128
  rem ++ 0x80 :: List.replicate (padTo - rem.length - 1 - 8) 0 ++ be64 (len * 8 % 2 ^ 64)

/-- `sd_sha256`. -/
def sdSha256 (data : Bytes) : Bytes :=
  let full := data.length / 64
  let h := (List.range full).foldl (fun h i => transform h ((data.drop (i * 64)).take 64)) initial
  let tail := finalTail (data.drop (full * 64)) data.length
  let h := transform h (tail.take 64)
  let h := if tail.length = 128 then transform h (tail.drop 64) else h
  h.octets

/-- `sd_sha256_hex`, without its terminator. -/
def sdSha256Hex (data : Bytes) : Bytes := hex (sdSha256 data)

/-! ## The compression function -/

lemma schedule_input (block : Bytes) {n : ℕ} (h : n ≤ 16) :
    schedule block n = (List.range n).map (blockWord block) := by
  induction n with
  | zero => rfl
  | succ n ih =>
      rw [schedule, ih (by omega), if_pos (by omega), List.range_succ, List.map_append]
      rfl

lemma extendWords_schedule (block : Bytes) {t : ℕ} (h : 16 ≤ t) :
    extendWords (schedule block t) t = schedule block (t + 1) := by
  rw [schedule, if_neg (by omega), extendWords, smallSigma0, smallSigma1]
  congr 2
  ac_rfl

lemma foldl_extendWords (block : Bytes) (n : ℕ) :
    (List.range' 16 n).foldl extendWords (loadWords block) = schedule block (16 + n) := by
  induction n with
  | zero => exact (schedule_input block le_rfl).symm
  | succ n ih =>
      rw [List.range'_concat, List.foldl_append, ih, List.foldl_cons, List.foldl_nil, Nat.one_mul,
        extendWords_schedule block (by omega), Nat.add_assoc]

lemma length_schedule (block : Bytes) (n : ℕ) : (schedule block n).length = n := by
  induction n with
  | zero => rfl
  | succ n ih => rw [schedule, List.length_append, ih, List.length_singleton]

/-- Folding over two lists by index is folding over their pairs. -/
lemma foldl_range_zip {σ : Type} (f : σ → UInt32 × UInt32 → σ) (ks ws : List UInt32)
    (hlen : ks.length = ws.length) (s : σ) :
    (List.range ks.length).foldl (fun s i => f s (ks.getD i 0, ws.getD i 0)) s
      = (ks.zip ws).foldl f s := by
  induction ks generalizing ws s with
  | nil => rfl
  | cons k ks ih =>
      cases ws with
      | nil => simp at hlen
      | cons w ws =>
          rw [List.length_cons, List.range_succ_eq_map, List.foldl_cons, List.foldl_map,
            List.zip_cons_cons, List.foldl_cons]
          exact ih ws (by simpa using hlen) _

lemma transformRound_eq (w : List UInt32) :
    transformRound w = fun s i => round s (roundConstants.getD i 0, w.getD i 0) := rfl

/-- **`transform` is the compression function of FIPS 180-4.** -/
theorem transform_eq (h : Words) (block : Bytes) : transform h block = compress h block := by
  have hlen : roundConstants.length = (schedule block 64).length := by
    rw [length_schedule]
    rfl
  have hrange : List.range 64 = List.range roundConstants.length := rfl
  rw [transform, foldl_extendWords, compress, ← foldl_range_zip round _ _ hlen, hrange,
    transformRound_eq]

/-! ## Blocks and the final buffer -/

lemma foldl_whole_blocks (data : Bytes) {n : ℕ} (hn : 64 * n ≤ data.length) (h : Words) :
    (List.range n).foldl (fun h i => compress h ((data.drop (i * 64)).take 64)) h
      = (blocks (data.take (64 * n))).foldl compress h := by
  induction n with
  | zero => simp
  | succ n ih =>
      have hsplit : data.take (64 * (n + 1)) = data.take (64 * n) ++ (data.drop (n * 64)).take 64 := by
        rw [Nat.mul_succ, List.take_add, Nat.mul_comm n 64]
      have hlen : (data.take (64 * n)).length = 64 * n := by
        rw [List.length_take]
        omega
      have hblock : ((data.drop (n * 64)).take 64).length = 64 := by
        rw [List.length_take, List.length_drop]
        omega
      rw [List.range_succ, List.foldl_append, ih (by omega), List.foldl_cons, List.foldl_nil, hsplit,
        blocks_append hlen, List.foldl_append,
        ← List.append_nil ((data.drop (n * 64)).take 64), blocks_cons hblock]
      simp

/-- The final buffer ends the padded message. -/
lemma tail_eq {data : Bytes} (hlen : data.length < 2 ^ 61) :
    pad data = data.take (64 * (data.length / 64)) ++
      finalTail (data.drop (data.length / 64 * 64)) data.length := by
  have hbits : data.length * 8 % 2 ^ 64 = 8 * data.length := by omega
  have hrem : (data.drop (data.length / 64 * 64)).length = data.length % 64 := by
    rw [List.length_drop]
    omega
  have hzeros : (if data.length % 64 < 56 then 64 else 128) - data.length % 64 - 1 - 8
      = paddingZeros data.length := by
    rw [paddingZeros]
    split_ifs <;> omega
  simp only [pad, finalTail, hrem, hzeros, hbits]
  rw [Nat.mul_comm 64, ← List.append_assoc, ← List.append_assoc, List.take_append_drop]

lemma length_finalTail {rem : Bytes} (h : rem.length < 64) (len : ℕ) :
    (finalTail rem len).length = if rem.length < 56 then 64 else 128 := by
  simp only [finalTail, List.length_append, List.length_cons, List.length_replicate, length_be64]
  split_ifs <;> omega

/-- **The digest of the firmware is SHA-256**, for every message whose bit count fits 64 bits. -/
theorem sdSha256_eq {data : Bytes} (hlen : data.length < 2 ^ 61) : sdSha256 data = sha256 data := by
  have hrem : (data.drop (data.length / 64 * 64)).length < 64 := by
    rw [List.length_drop]
    omega
  have hwhole : (data.take (64 * (data.length / 64))).length = 64 * (data.length / 64) := by
    rw [List.length_take]
    omega
  have htail := length_finalTail hrem data.length
  rw [sha256, tail_eq hlen, blocks_append hwhole, List.foldl_append, sdSha256]
  simp only [transform_eq, foldl_whole_blocks data (Nat.mul_div_le data.length 64)]
  generalize finalTail (data.drop (data.length / 64 * 64)) data.length = tail at htail
  split_ifs at htail
  · rw [if_neg (by omega), List.take_of_length_le (show tail.length ≤ 64 by omega),
      ← List.append_nil tail, blocks_cons htail]
    simp
  · have hfront : (tail.take 64).length = 64 := by
      rw [List.length_take]
      omega
    have hback : (tail.drop 64).length = 64 := by
      rw [List.length_drop]
      omega
    rw [if_pos htail]
    conv => rhs; rw [← List.take_append_drop 64 tail, blocks_cons hfront,
      ← List.append_nil (tail.drop 64), blocks_cons hback]
    simp

/-- **The hash of the firmware is SHA-256**, and its rendering is in lower-case hexadecimal: the split at
whole blocks and the one or two final blocks come to the padded message of the standard. -/
theorem firmware_sha256 (data : Bytes) (hlen : data.length < 2 ^ 61) :
    sdSha256 data = ((blocks (pad data)).foldl compress initial).octets ∧
      sdSha256Hex data = hex (sha256 data) := by
  refine ⟨sdSha256_eq hlen, ?_⟩
  rw [sdSha256Hex, sdSha256_eq hlen]

/-- A message whose padding takes a second block. -/
theorem firmware_sha256_two_blocks :
    hex (sha256 (ascii "abcdbcdecdefdefgefghfghighijhijkijkljklmklmnlmnomnopnopq"))
      = ascii "248d6a61d20638b8e5c026930c3e6039a33ce45964ff2167f6ecedd419db06c1" := by
  rw [← (firmware_sha256 _ (by decide)).2]
  decide +kernel

lemma sdSha256Hex_eq {data : Bytes} (hlen : data.length < 2 ^ 61) :
    sdSha256Hex data = hexdigest data := by
  rw [sdSha256Hex, sdSha256_eq hlen, hexdigest]

end Sudonit
