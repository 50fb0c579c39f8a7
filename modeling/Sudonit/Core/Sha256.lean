import Sudonit.Core.Octets

/-!
# SHA-256

The hash function of FIPS 180-4 on byte strings: the message is padded to whole blocks, and the blocks
are compressed one after the other into eight words.

* `blocks_append` — whole blocks in front split off.
* `sha256`, `hexdigest` — the digest and its lower-case hexadecimal rendering, whose length and
  characters are `length_hexdigest` and `hex_of_mem_hexdigest`.
-/

namespace Sha256

open Octets

/-! ## The compression function -/

def rotr (x : UInt32) (n : UInt32) : UInt32 := x >>> n ||| x <<< (32 - n)

def bigSigma0 (x : UInt32) : UInt32 := rotr x 2 ^^^ rotr x 13 ^^^ rotr x 22

def bigSigma1 (x : UInt32) : UInt32 := rotr x 6 ^^^ rotr x 11 ^^^ rotr x 25

def smallSigma0 (x : UInt32) : UInt32 := rotr x 7 ^^^ rotr x 18 ^^^ x >>> 3

def smallSigma1 (x : UInt32) : UInt32 := rotr x 17 ^^^ rotr x 19 ^^^ x >>> 10

def ch (x y z : UInt32) : UInt32 := (x &&& y) ^^^ (~~~x &&& z)

def maj (x y z : UInt32) : UInt32 := (x &&& y) ^^^ (x &&& z) ^^^ (y &&& z)

/-- The round constants. -/
def roundConstants : List UInt32 :=
  [0x428a2f98, 0x71374491, 0xb5c0fbcf, 0xe9b5dba5, 0x3956c25b, 0x59f111f1, 0x923f82a4, 0xab1c5ed5,
    0xd807aa98, 0x12835b01, 0x243185be, 0x550c7dc3, 0x72be5d74, 0x80deb1fe, 0x9bdc06a7, 0xc19bf174,
    0xe49b69c1, 0xefbe4786, 0x0fc19dc6, 0x240ca1cc, 0x2de92c6f, 0x4a7484aa, 0x5cb0a9dc, 0x76f988da,
    0x983e5152, 0xa831c66d, 0xb00327c8, 0xbf597fc7, 0xc6e00bf3, 0xd5a79147, 0x06ca6351, 0x14292967,
    0x27b70a85, 0x2e1b2138, 0x4d2c6dfc, 0x53380d13, 0x650a7354, 0x766a0abb, 0x81c2c92e, 0x92722c85,
    0xa2bfe8a1, 0xa81a664b, 0xc24b8b70, 0xc76c51a3, 0xd192e819, 0xd6990624, 0xf40e3585, 0x106aa070,
    0x19a4c116, 0x1e376c08, 0x2748774c, 0x34b0bcb5, 0x391c0cb3, 0x4ed8aa4a, 0x5b9cca4f, 0x682e6ff3,
    0x748f82ee, 0x78a5636f, 0x84c87814, 0x8cc70208, 0x90befffa, 0xa4506ceb, 0xbef9a3f7, 0xc67178f2]

/-- The eight working variables. -/
structure Words where
  a : UInt32
  b : UInt32
  c : UInt32
  d : UInt32
  e : UInt32
  f : UInt32
  g : UInt32
  h : UInt32
  deriving DecidableEq, Repr

/-- The initial hash value. -/
def initial : Words :=
  ⟨0x6a09e667, 0xbb67ae85, 0x3c6ef372, 0xa54ff53a, 0x510e527f, 0x9b05688c, 0x1f83d9ab, 0x5be0cd19⟩

def Words.add (x y : Words) : Words :=
  ⟨x.a + y.a, x.b + y.b, x.c + y.c, x.d + y.d, x.e + y.e, x.f + y.f, x.g + y.g, x.h + y.h⟩

/-- Word `t` of a block. -/
def blockWord (block : Bytes) (t : ℕ) : UInt32 := UInt32.ofNat (beNat ((block.drop (4 * t)).take 4))

/-- The message schedule up to word `t`. -/
def schedule (block : Bytes) : ℕ → List UInt32
  | 0 => []
  | t + 1 =>
      let w := schedule block t
      w ++ [if t < 16 then blockWord block t
        else smallSigma1 (w.getD (t - 2) 0) + w.getD (t - 7) 0 + smallSigma0 (w.getD (t - 15) 0) +
          w.getD (t - 16) 0]

/-- One round with its constant and its word of the schedule. -/
def round (s : Words) (kw : UInt32 × UInt32) : Words :=
  let t1 := s.h + bigSigma1 s.e + ch s.e s.f s.g + kw.1 + kw.2
  let t2 := bigSigma0 s.a + maj s.a s.b s.c
  ⟨t1 + t2, s.a, s.b, s.c, s.d + t1, s.e, s.f, s.g⟩

/-- Compress one block into the hash value. -/
def compress (s : Words) (block : Bytes) : Words :=
  s.add ((roundConstants.zip (schedule block 64)).foldl round s)

/-! ## Blocks and padding -/

/-- A message in blocks of 64 octets. -/
def blocks (bs : Bytes) : List Bytes :=
  if bs = [] then [] else bs.take 64 :: blocks (bs.drop 64)
termination_by bs.length
decreasing_by
  have := List.length_pos_iff.mpr ‹bs ≠ []›
  rw [List.length_drop]
  omega

@[simp] lemma blocks_nil : blocks [] = [] := by
  rw [blocks, if_pos rfl]

/-- A block in front splits off. -/
lemma blocks_cons {b : Bytes} (hb : b.length = 64) (bs : Bytes) :
    blocks (b ++ bs) = b :: blocks bs := by
  rw [blocks, if_neg (by rintro h; rw [List.append_eq_nil_iff] at h; simp [h.1] at hb),
    List.take_left' hb, List.drop_left' hb]

/-- Whole blocks in front split off. -/
lemma blocks_append {a : Bytes} {n : ℕ} (ha : a.length = 64 * n) (b : Bytes) :
    blocks (a ++ b) = blocks a ++ blocks b := by
  induction n generalizing a with
  | zero =>
      rw [List.length_eq_zero_iff.mp ha]
      simp
  | succ n ih =>
      have hfront : (a.take 64).length = 64 := by
        rw [List.length_take]
        omega
      rw [← List.take_append_drop 64 a, List.append_assoc, blocks_cons hfront, blocks_cons hfront,
        ih (by rw [List.length_drop]; omega), List.cons_append]

/-- A number as eight octets, most significant first. -/
def be64 (n : ℕ) : Bytes := be32 (n >>> 32) ++ be32 n

@[simp] lemma length_be64 (n : ℕ) : (be64 n).length = 8 := rfl

/-- Zero octets between the delimiter and the length. -/
def paddingZeros (len : ℕ) : ℕ := (119 - len % 64) % 64

/-- The message padded to whole blocks: a one bit, zeros, and the length in bits. -/
def pad (m : Bytes) : Bytes :=
  m ++ 0x80 :: List.replicate (paddingZeros m.length) 0 ++ be64 (8 * m.length)

/-! ## The digest -/

/-- The octets of a hash value. -/
def Words.octets (s : Words) : Bytes :=
  [s.a, s.b, s.c, s.d, s.e, s.f, s.g, s.h].flatMap fun w => be32 w.toNat

@[simp] lemma Words.length_octets (s : Words) : s.octets.length = 32 := rfl

/-- SHA-256. -/
def sha256 (m : Bytes) : Bytes := ((blocks (pad m)).foldl compress initial).octets

/-- A hexadecimal digit, lower case. -/
def hexChar (n : ℕ) : UInt8 := (ascii "0123456789abcdef").getD n 0

/-- Octets in hexadecimal. -/
def hex (bs : Bytes) : Bytes := bs.flatMap fun b => [hexChar (b.toNat >>> 4), hexChar (b.toNat &&& 15)]

/-- The digest in hexadecimal. -/
def hexdigest (m : Bytes) : Bytes := hex (sha256 m)

lemma length_hex (bs : Bytes) : (hex bs).length = 2 * bs.length := by
  induction bs with
  | nil => rfl
  | cons b bs ih =>
      rw [hex, List.flatMap_cons, List.length_append, ← hex, ih, List.length_cons]
      simp only [List.length_cons, List.length_nil]
      omega

@[simp] lemma length_hexdigest (m : Bytes) : (hexdigest m).length = 64 := by
  rw [hexdigest, length_hex, sha256, Words.length_octets]

/-- The characters of a digest. -/
def IsHex (b : UInt8) : Prop := b ∈ ascii "0123456789abcdef"

instance (b : UInt8) : Decidable (IsHex b) := inferInstanceAs (Decidable (_ ∈ _))

lemma isHex_hexChar {n : ℕ} (h : n < 16) : IsHex (hexChar n) := by
  have : ∀ n < 16, IsHex (hexChar n) := by decide
  exact this n h

/-- A digest is made of hexadecimal digits. -/
lemma hex_of_mem_hexdigest {m : Bytes} {b : UInt8} (h : b ∈ hexdigest m) : IsHex b := by
  obtain ⟨x, -, hx⟩ := List.mem_flatMap.mp h
  have hlt := x.toNat_lt
  have h4 : x.toNat >>> 4 < 16 := by
    rw [Nat.shiftRight_eq_div_pow]
    omega
  have h15 : x.toNat &&& 15 < 16 := Nat.lt_succ_of_le Nat.and_le_right
  simp only [List.mem_cons, List.not_mem_nil, or_false] at hx
  rcases hx with rfl | rfl
  · exact isHex_hexChar h4
  · exact isHex_hexChar h15

end Sha256
