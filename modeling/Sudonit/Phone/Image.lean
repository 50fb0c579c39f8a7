import Sudonit.Python.Value

/-!
# `image.py`: the headers of an image

`validate_image` reads the dimensions out of a PNG or JPEG header.  `_jpeg_dimensions` walks the markers
with an index that it advances by hand; `frameIn` is the same walk on what is left of the data.

* `jpegScan_eq` — the index walk is the walk on the rest.
* `frameIn_ok_iff` — which data leads to a frame header, as a grammar.
* `jpeg_header_exact` — a header of segments is read for its dimensions whatever the payloads hold, and
  is refused wherever it is cut.
* `fill_transparent_iff` — fill bytes in front of a marker are taken for the marker of a segment.
-/

namespace Sudonit

open Octets Python

/-! ## The source -/

/-- Why an `InvalidImage` was raised. -/
inductive InvalidImage
  /-- not a PNG (bad signature) -/
  | badSignature
  /-- PNG missing IHDR chunk -/
  | missingIhdr
  /-- not a JPEG (missing SOI marker) -/
  | missingSoi
  /-- JPEG segment with invalid length -/
  | badSegmentLength
  /-- JPEG frame header truncated -/
  | frameTruncated
  /-- JPEG has no Start-Of-Frame marker -/
  | noFrame
  /-- empty image payload -/
  | emptyPayload
  /-- dimensions out of range -/
  | outOfRange (fmt : PyStr) (width height : ℕ)
  deriving DecidableEq

/-- `ImageInfo`. -/
structure ImageInfo where
  format : PyStr
  width : ℕ
  height : ℕ
  deriving DecidableEq

/-- `_PNG_SIGNATURE`. -/
def pngSignature : Bytes := 0x89 :: ascii "PNG\r\n" ++ [0x1A, 0x0A]

/-- `_JPEG_SOF_MARKERS`. -/
def jpegSofMarkers : List UInt8 :=
  [0xC0, 0xC1, 0xC2, 0xC3, 0xC5, 0xC6, 0xC7, 0xC9, 0xCA, 0xCB, 0xCD, 0xCE, 0xCF]

/-- `_JPEG_STANDALONE`. -/
def jpegStandalone : List UInt8 :=
  [0xD8, 0xD9, 0x01] ++ [0xD0, 0xD1, 0xD2, 0xD3, 0xD4, 0xD5, 0xD6, 0xD7]

/-- `_MAX_DIMENSION`. -/
def maxDimension : ℕ := 10000

/-- `int.from_bytes(data[a:b], "big")`. -/
def fromBytes (data : Bytes) (a b : ℕ) : ℕ := beNat ((data.drop a).take (b - a))

/-- `_png_dimensions`. -/
def pngDimensions (data : Bytes) : Except InvalidImage (ℕ × ℕ) :=
  if data.length < 24 ∨ data.take 8 ≠ pngSignature then .error .badSignature
  else if (data.drop 12).take 4 ≠ ascii "IHDR" then .error .missingIhdr
  else .ok (fromBytes data 16 20, fromBytes data 20 24)

/-- The loop of `_jpeg_dimensions`, from index `i` on.  Both octets it indexes are inside the data. -/
def jpegScan (data : Bytes) (i : ℕ) : Except InvalidImage (ℕ × ℕ) :=
  if i + 1 < data.length then
    if data.getD i 0 ≠ 0xFF then jpegScan data (i + 1)
    else if data.getD (i + 1) 0 ∈ jpegStandalone then jpegScan data (i + 2)
    else if i + 2 + 2 > data.length then .error .noFrame
    else if fromBytes data (i + 2) (i + 2 + 2) < 2 then .error .badSegmentLength
    else if data.getD (i + 1) 0 ∈ jpegSofMarkers then
      if i + 2 + 7 > data.length then .error .frameTruncated
      else .ok (fromBytes data (i + 2 + 5) (i + 2 + 7), fromBytes data (i + 2 + 3) (i + 2 + 5))
    else jpegScan data (i + 2 + fromBytes data (i + 2) (i + 2 + 2))
  else .error .noFrame
termination_by data.length - i

/-- `_jpeg_dimensions`. -/
def jpegDimensions (data : Bytes) : Except InvalidImage (ℕ × ℕ) :=
  if data.length < 2 ∨ data.take 2 ≠ [0xFF, 0xD8] then .error .missingSoi else jpegScan data 2

/-- The check of the dimensions. -/
def checkDimensions (fmt : PyStr) (dimensions : ℕ × ℕ) : Except InvalidImage ImageInfo :=
  let (width, height) := dimensions
  if (1 ≤ width ∧ width ≤ maxDimension) ∧ 1 ≤ height ∧ height ≤ maxDimension then
    .ok ⟨fmt, width, height⟩
  else .error (.outOfRange fmt width height)

/-- `validate_image`. -/
def validateImage (data : Bytes) (mediaType : PyStr) : Except InvalidImage ImageInfo :=
  if data = [] then .error .emptyPayload
  else if mediaType = str "image/png" then do
    let dimensions ← pngDimensions data
    checkDimensions (str "png") dimensions
  else if mediaType = str "image/jpeg" then do
    let dimensions ← jpegDimensions data
    checkDimensions (str "jpeg") dimensions
  else .ok ⟨mediaType, 0, 0⟩

/-! ## The walk on what is left -/

/-- The first frame header found in the data. -/
def frameIn : Bytes → Except InvalidImage (ℕ × ℕ)
  | b :: m :: rest =>
      if b ≠ 0xFF then frameIn (m :: rest)
      else if m ∈ jpegStandalone then frameIn rest
      else
        match rest with
        | l₁ :: l₂ :: body =>
            if beNat [l₁, l₂] < 2 then .error .badSegmentLength
            else if m ∈ jpegSofMarkers then
              match body with
              | _ :: h₁ :: h₂ :: w₁ :: w₂ :: _ => .ok (beNat [w₁, w₂], beNat [h₁, h₂])
              | _ => .error .frameTruncated
            else frameIn (body.drop (beNat [l₁, l₂] - 2))
        | _ => .error .noFrame
  | _ => .error .noFrame
termination_by bs => bs.length

lemma getD_of_drop {data : Bytes} {i : ℕ} {b : UInt8} {rest : Bytes} (h : data.drop i = b :: rest) :
    data.getD i 0 = b ∧ data.drop (i + 1) = rest := by
  constructor
  · rw [List.getD_eq_getElem?_getD, ← List.head?_drop, h]
    rfl
  · rw [← List.drop_drop, h]
    rfl

lemma fromBytes_drop {data : Bytes} {a i j : ℕ} : fromBytes data (a + i) (a + j)
    = beNat (((data.drop a).drop i).take (j - i)) := by
  rw [fromBytes, List.drop_drop, Nat.add_sub_add_left]

/-- **The index walk is the walk on the rest.** -/
theorem jpegScan_eq (data : Bytes) (i : ℕ) : jpegScan data i = frameIn (data.drop i) := by
  have hlen : (data.drop i).length = data.length - i := List.length_drop
  rw [jpegScan]
  match hrest : data.drop i with
  | [] =>
      rw [hrest, List.length_nil] at hlen
      rw [if_neg (by omega), frameIn]
      simp
  | [b] =>
      rw [hrest, List.length_singleton] at hlen
      rw [if_neg (by omega), frameIn]
      simp
  | b :: m :: rest =>
      rw [hrest, List.length_cons, List.length_cons] at hlen
      have hinside : i + 1 < data.length := by omega
      obtain ⟨hb, hdrop₁⟩ := getD_of_drop hrest
      obtain ⟨hm, hdrop₂⟩ := getD_of_drop hdrop₁
      rw [if_pos hinside, hb, hm, frameIn.eq_def]
      simp only
      by_cases hmark : b ≠ 0xFF
      · rw [if_pos hmark, if_pos hmark, jpegScan_eq data (i + 1), hdrop₁]
      rw [if_neg hmark, if_neg hmark]
      by_cases halone : m ∈ jpegStandalone
      · rw [if_pos halone, if_pos halone, jpegScan_eq data (i + 2), hdrop₂]
      rw [if_neg halone, if_neg halone]
      match rest, hdrop₂, hlen with
      | [], _, hlen => exact if_pos (by simp at hlen; omega)
      | [l], _, hlen => exact if_pos (by simp at hlen; omega)
      | l₁ :: l₂ :: body, hdrop, hlen =>
          rw [List.length_cons, List.length_cons] at hlen
          have hsegment : fromBytes data (i + 2) (i + 2 + 2) = beNat [l₁, l₂] := by
            rw [fromBytes_drop (i := 0) (j := 2), hdrop]
            rfl
          rw [if_neg (by omega), hsegment]
          simp only
          by_cases hshort : beNat [l₁, l₂] < 2
          · rw [if_pos hshort, if_pos hshort]
          rw [if_neg hshort, if_neg hshort]
          by_cases hframe : m ∈ jpegSofMarkers
          · rw [if_pos hframe, if_pos hframe, fromBytes_drop, fromBytes_drop, hdrop]
            match body, hlen with
            | [], hlen => exact if_pos (by simp at hlen; omega)
            | [_], hlen => exact if_pos (by simp at hlen; omega)
            | [_, _], hlen => exact if_pos (by simp at hlen; omega)
            | [_, _, _], hlen => exact if_pos (by simp at hlen; omega)
            | [_, _, _, _], hlen => exact if_pos (by simp at hlen; omega)
            | _ :: _ :: _ :: _ :: _ :: _, hlen => exact if_neg (by simp at hlen; omega)
          · rw [if_neg hframe, if_neg hframe, jpegScan_eq data (i + 2 + beNat [l₁, l₂]), ← List.drop_drop,
              hdrop]
            obtain ⟨k, hk⟩ := Nat.exists_eq_add_of_le (Nat.not_lt.mp hshort)
            rw [hk, Nat.add_sub_cancel_left, Nat.add_comm, List.drop_succ_cons, List.drop_succ_cons]
termination_by data.length - i
decreasing_by all_goals omega

/-! ## Which data leads to a frame header -/

lemma not_standalone_of_sof : ∀ m ∈ jpegSofMarkers, m ∉ jpegStandalone := by decide

/-- A segment marker: it has a length field and does not open a frame header. -/
def IsSegment (m : UInt8) : Prop := m ∉ jpegStandalone ∧ m ∉ jpegSofMarkers

instance (m : UInt8) : Decidable (IsSegment m) := inferInstanceAs (Decidable (_ ∧ _))

/-- Behind other octets, standalone markers and whole segments stands a frame header with this width and
height. -/
inductive LeadsTo : Bytes → ℕ → ℕ → Prop
  | frame {m l₁ l₂ p h₁ h₂ w₁ w₂ : UInt8} {rest : Bytes} (hm : m ∈ jpegSofMarkers) (hlen : 2 ≤ beNat [l₁, l₂]) :
      LeadsTo (0xFF :: m :: l₁ :: l₂ :: p :: h₁ :: h₂ :: w₁ :: w₂ :: rest) (beNat [w₁, w₂]) (beNat [h₁, h₂])
  | other {b : UInt8} {rest : Bytes} {w h : ℕ} (hb : b ≠ 0xFF) (hrest : LeadsTo rest w h) :
      LeadsTo (b :: rest) w h
  | standalone {m : UInt8} {rest : Bytes} {w h : ℕ} (hm : m ∈ jpegStandalone) (hrest : LeadsTo rest w h) :
      LeadsTo (0xFF :: m :: rest) w h
  | segment {m l₁ l₂ : UInt8} {body : Bytes} {w h : ℕ} (hm : IsSegment m) (hlen : 2 ≤ beNat [l₁, l₂])
      (hrest : LeadsTo (body.drop (beNat [l₁, l₂] - 2)) w h) : LeadsTo (0xFF :: m :: l₁ :: l₂ :: body) w h

lemma frameIn_other {b m : UInt8} (hb : b ≠ 0xFF) (rest : Bytes) :
    frameIn (b :: m :: rest) = frameIn (m :: rest) := by
  rw [frameIn.eq_def]
  exact if_pos hb

lemma frameIn_standalone {m : UInt8} (hm : m ∈ jpegStandalone) (rest : Bytes) :
    frameIn (0xFF :: m :: rest) = frameIn rest := by
  rw [frameIn.eq_def]
  exact (if_neg (by decide)).trans (if_pos hm)

lemma frameIn_segment {m l₁ l₂ : UInt8} (hm : IsSegment m) (hlen : 2 ≤ beNat [l₁, l₂]) (body : Bytes) :
    frameIn (0xFF :: m :: l₁ :: l₂ :: body) = frameIn (body.drop (beNat [l₁, l₂] - 2)) := by
  rw [frameIn.eq_def]
  simp only [ne_eq, not_true_eq_false, if_false, hm.1, hm.2, not_lt.mpr hlen]

lemma frameIn_frame {m l₁ l₂ : UInt8} (hm : m ∈ jpegSofMarkers) (hlen : 2 ≤ beNat [l₁, l₂])
    (p h₁ h₂ w₁ w₂ : UInt8) (rest : Bytes) :
    frameIn (0xFF :: m :: l₁ :: l₂ :: p :: h₁ :: h₂ :: w₁ :: w₂ :: rest)
      = .ok (beNat [w₁, w₂], beNat [h₁, h₂]) := by
  rw [frameIn.eq_def]
  simp only [ne_eq, not_true_eq_false, if_false, not_standalone_of_sof m hm, hm, not_lt.mpr hlen, if_true]

/-- **The walk finds a frame header exactly where the data leads to one.** -/
theorem frameIn_ok_iff {bs : Bytes} {w h : ℕ} : frameIn bs = .ok (w, h) ↔ LeadsTo bs w h := by
  constructor
  · intro hok
    fun_induction frameIn bs with
    | case1 b m rest hb ih => exact .other hb (ih hok)
    | case2 b m rest hb hm ih =>
        obtain rfl := not_not.mp hb
        exact .standalone hm (ih hok)
    | case3 => simp at hok
    | case4 b m hb hm l₁ l₂ hlen hsof p h₁ h₂ w₁ w₂ rest =>
        obtain rfl := not_not.mp hb
        obtain ⟨rfl, rfl⟩ := Prod.mk.inj (Except.ok.inj hok)
        exact .frame hsof (not_lt.mp hlen)
    | case5 => simp at hok
    | case6 b m hb hm l₁ l₂ body hlen hsof ih =>
        obtain rfl := not_not.mp hb
        exact .segment ⟨hm, hsof⟩ (not_lt.mp hlen) (ih hok)
    | case7 => simp at hok
    | case8 => simp at hok
  · intro hleads
    induction hleads with
    | frame hm hlen => exact frameIn_frame hm hlen _ _ _ _ _ _
    | @other b rest _ _ hb hrest ih =>
        cases rest with
        | nil => nomatch hrest
        | cons m rest => rwa [frameIn_other hb]
    | standalone hm hrest ih => rwa [frameIn_standalone hm]
    | segment hm hlen hrest ih => rwa [frameIn_segment hm hlen]

/-! ## Headers of segments -/

/-- What may stand in front of the frame header. -/
inductive JpegPart
  | standalone (m : UInt8) (hm : m ∈ jpegStandalone)
  | segment (m : UInt8) (payload : Bytes) (hm : IsSegment m ∧ m ≠ 0xFF) (hlen : payload.length + 2 < 2 ^ 16)

def JpegPart.bytes : JpegPart → Bytes
  | .standalone m _ => [0xFF, m]
  | .segment m payload _ _ => 0xFF :: m :: (be16 (payload.length + 2) ++ payload)

/-- A SOF segment up to the width. -/
structure FrameHeader where
  marker : UInt8
  length : ℕ
  precision : UInt8
  height : ℕ
  width : ℕ
  marker_ok : marker ∈ jpegSofMarkers
  length_ok : 2 ≤ length ∧ length < 2 ^ 16
  height_lt : height < 2 ^ 16
  width_lt : width < 2 ^ 16

def FrameHeader.bytes (f : FrameHeader) : Bytes :=
  0xFF :: f.marker :: (be16 f.length ++ f.precision :: (be16 f.height ++ be16 f.width))

/-- A JPEG up to the width of its frame header. -/
structure JpegHeader where
  parts : List JpegPart
  frame : FrameHeader

/-- The header behind its SOI marker. -/
def JpegHeader.rest (j : JpegHeader) : Bytes := j.parts.flatMap JpegPart.bytes ++ j.frame.bytes

def JpegHeader.bytes (j : JpegHeader) : Bytes := 0xFF :: 0xD8 :: j.rest

lemma jpegDimensions_soi (rest : Bytes) : jpegDimensions (0xFF :: 0xD8 :: rest) = frameIn rest := by
  rw [jpegDimensions, if_neg (by simp), jpegScan_eq]
  rfl

lemma frameIn_part (part : JpegPart) (rest : Bytes) : frameIn (part.bytes ++ rest) = frameIn rest := by
  cases part with
  | standalone m hm => exact frameIn_standalone hm rest
  | segment m payload hm hlen =>
      have hfield : beNat (be16 (payload.length + 2)) = payload.length + 2 := beNat_be16 hlen
      refine (frameIn_segment hm.1 (by rw [← be16, hfield]; omega) (payload ++ rest)).trans ?_
      rw [← be16, hfield, Nat.add_sub_cancel, List.drop_left]

lemma frameIn_frameHeader (f : FrameHeader) (rest : Bytes) :
    frameIn (f.bytes ++ rest) = .ok (f.width, f.height) := by
  have hlength : beNat (be16 f.length) = f.length := beNat_be16 f.length_ok.2
  have hlen : 2 ≤ beNat [UInt8.ofNat (f.length >>> 8), UInt8.ofNat f.length] := by
    rw [← be16, hlength]
    exact f.length_ok.1
  have hframe := frameIn_frame f.marker_ok hlen f.precision (UInt8.ofNat (f.height >>> 8))
    (UInt8.ofNat f.height) (UInt8.ofNat (f.width >>> 8)) (UInt8.ofNat f.width) rest
  rwa [← be16, ← be16, beNat_be16 f.width_lt, beNat_be16 f.height_lt] at hframe

/-- The walk passes over the parts to the frame header. -/
lemma frameIn_rest (j : JpegHeader) (trailing : Bytes) :
    frameIn (j.rest ++ trailing) = .ok (j.frame.width, j.frame.height) := by
  obtain ⟨parts, frame⟩ := j
  induction parts with
  | nil => exact frameIn_frameHeader frame trailing
  | cons part parts ih =>
      rw [JpegHeader.rest, List.flatMap_cons, List.append_assoc, List.append_assoc, frameIn_part]
      rwa [JpegHeader.rest, List.append_assoc] at ih

/-! ## Cut headers -/

/-- The walk does not find a frame header. -/
def FindsNone (bs : Bytes) : Prop := ∃ why, frameIn bs = .error why

lemma findsNone_short {bs : Bytes} (h : bs.length < 2) : FindsNone bs := by
  refine ⟨.noFrame, ?_⟩
  match bs, h with
  | [], _ => rw [frameIn]; simp
  | [_], _ => rw [frameIn]; simp

/-- A marker with less than a length field behind it. -/
lemma findsNone_marker {m : UInt8} (hm : m ∉ jpegStandalone) {rest : Bytes} (h : rest.length < 2) :
    FindsNone (0xFF :: m :: rest) := by
  refine ⟨.noFrame, ?_⟩
  rw [frameIn.eq_def]
  match rest, h with
  | [], _ => simp [hm]
  | [_], _ => simp [hm]

/-- A frame header with less than its width. -/
lemma findsNone_frame {m l₁ l₂ : UInt8} (hm : m ∈ jpegSofMarkers) (hlen : 2 ≤ beNat [l₁, l₂]) {body : Bytes}
    (h : body.length < 5) : FindsNone (0xFF :: m :: l₁ :: l₂ :: body) := by
  refine ⟨.frameTruncated, ?_⟩
  rw [frameIn.eq_def]
  simp only [ne_eq, not_true_eq_false, if_false, not_standalone_of_sof m hm, hm, not_lt.mpr hlen, if_true]
  match body, h with
  | [], _ => rfl
  | [_], _ => rfl
  | [_, _], _ => rfl
  | [_, _, _], _ => rfl
  | [_, _, _, _], _ => rfl

lemma findsNone_take_part (part : JpegPart) {k : ℕ} (h : k < part.bytes.length) :
    FindsNone (part.bytes.take k) := by
  cases part with
  | standalone m hm => exact findsNone_short (by simp [JpegPart.bytes] at h ⊢; omega)
  | segment m payload hm hlen =>
      rcases Nat.lt_or_ge k 2 with hk | hk
      · exact findsNone_short (by simp; omega)
      obtain ⟨n, rfl⟩ := Nat.exists_eq_add_of_le' hk
      rw [JpegPart.bytes, List.take_succ_cons, List.take_succ_cons]
      rcases Nat.lt_or_ge n 2 with hn | hn
      · exact findsNone_marker hm.1.1 (by simp; omega)
      -- The length field is whole, and leads behind what is left.
      have hfield : beNat (be16 (payload.length + 2)) = payload.length + 2 := beNat_be16 hlen
      have hcut : (be16 (payload.length + 2) ++ payload).take n
          = be16 (payload.length + 2) ++ payload.take (n - 2) := by
        rw [List.take_append, List.take_of_length_le (show (be16 (payload.length + 2)).length ≤ n from hn)]
        rfl
      have hleft : (payload.take (n - 2)).drop payload.length = [] :=
        List.drop_eq_nil_of_le (List.length_take_le' _ _)
      obtain ⟨why, hwhy⟩ : FindsNone [] := findsNone_short (by decide)
      refine ⟨why, ?_⟩
      rw [hcut]
      refine (frameIn_segment hm.1 (by rw [← be16, hfield]; omega) (payload.take (n - 2))).trans ?_
      rw [← be16, hfield, Nat.add_sub_cancel, hleft, hwhy]

lemma findsNone_take_frame (f : FrameHeader) {k : ℕ} (h : k < f.bytes.length) :
    FindsNone (f.bytes.take k) := by
  have hnine : f.bytes.length = 9 := rfl
  have hlength : beNat (be16 f.length) = f.length := beNat_be16 f.length_ok.2
  rcases Nat.lt_or_ge k 2 with hk | hk
  · exact findsNone_short (by simp; omega)
  obtain ⟨n, rfl⟩ := Nat.exists_eq_add_of_le' hk
  rw [FrameHeader.bytes, List.take_succ_cons, List.take_succ_cons]
  rcases Nat.lt_or_ge n 2 with hn | hn
  · exact findsNone_marker (not_standalone_of_sof _ f.marker_ok) (by simp; omega)
  obtain ⟨l, rfl⟩ := Nat.exists_eq_add_of_le' hn
  exact findsNone_frame f.marker_ok (by rw [← be16, hlength]; exact f.length_ok.1) (by simp; omega)

lemma findsNone_take (j : JpegHeader) {k : ℕ} (h : k < j.rest.length) : FindsNone (j.rest.take k) := by
  obtain ⟨parts, frame⟩ := j
  induction parts generalizing k with
  | nil => exact findsNone_take_frame frame h
  | cons part parts ih =>
      have hcons : JpegHeader.rest ⟨part :: parts, frame⟩ = part.bytes ++ JpegHeader.rest ⟨parts, frame⟩ := by
        rw [JpegHeader.rest, JpegHeader.rest, List.flatMap_cons, List.append_assoc]
      rw [hcons, List.length_append] at h
      rw [hcons, List.take_append]
      rcases Nat.lt_or_ge k part.bytes.length with hk | hk
      · rw [Nat.sub_eq_zero_of_le hk.le, List.take_zero, List.append_nil]
        exact findsNone_take_part part hk
      · rw [List.take_of_length_le hk]
        obtain ⟨why, hwhy⟩ := ih (k := k - part.bytes.length) (by omega)
        exact ⟨why, by rw [frameIn_part, hwhy]⟩

lemma jpegDimensions_cut (j : JpegHeader) {k : ℕ} (h : k < j.bytes.length) :
    ∃ why, jpegDimensions (j.bytes.take k) = .error why := by
  match k, h with
  | 0, _ => exact ⟨.missingSoi, rfl⟩
  | 1, _ => exact ⟨.missingSoi, rfl⟩
  | k + 2, h =>
      rw [JpegHeader.bytes, List.take_succ_cons, List.take_succ_cons, jpegDimensions_soi]
      exact findsNone_take j (by simpa [JpegHeader.bytes] using h)

/-- **JPEG headers are read for their dimensions, and refused wherever they are cut.**  Whatever the
payloads hold and whatever follows, `_jpeg_dimensions` returns the width and the height; it raises on
every prefix that ends before the last octet of the width; and `validate_image` accepts exactly if both
are in `1..10000`. -/
theorem jpeg_header_exact (j : JpegHeader) (trailing : Bytes) :
    jpegDimensions (j.bytes ++ trailing) = .ok (j.frame.width, j.frame.height) ∧
      (∀ p, p <+: j.bytes ++ trailing → p.length < j.bytes.length → ∃ why, jpegDimensions p = .error why) ∧
      ((∃ info, validateImage (j.bytes ++ trailing) (str "image/jpeg") = .ok info) ↔
        (1 ≤ j.frame.width ∧ j.frame.width ≤ 10000) ∧ 1 ≤ j.frame.height ∧ j.frame.height ≤ 10000) := by
  have hok : jpegDimensions (j.bytes ++ trailing) = .ok (j.frame.width, j.frame.height) :=
    (jpegDimensions_soi _).trans (frameIn_rest j trailing)
  refine ⟨hok, fun p hp hlen => ?_, ?_⟩
  · obtain ⟨tail, htail⟩ := hp
    have hcut : p = j.bytes.take p.length := by
      rw [← List.take_append_of_le_length hlen.le, ← htail, List.take_left]
    rw [hcut]
    exact jpegDimensions_cut j hlen
  · have hvalidate : validateImage (j.bytes ++ trailing) (str "image/jpeg")
        = checkDimensions (str "jpeg") (j.frame.width, j.frame.height) := by
      rw [validateImage, if_neg (by simp [JpegHeader.bytes]), if_neg (by decide), if_pos rfl, hok]
      rfl
    rw [hvalidate, checkDimensions]
    split_ifs with h
    · exact iff_of_true ⟨_, rfl⟩ h
    · exact iff_of_false (by simp) h

/-! ## Fill bytes -/

/-- Fill bytes. -/
def fillBytes (n : ℕ) : Bytes := List.replicate n 0xFF

/-- A header with so many fill bytes in front of each of its markers. -/
structure FilledHeader where
  parts : List (ℕ × JpegPart)
  fill : ℕ
  frame : FrameHeader

/-- Without the fill bytes. -/
def FilledHeader.plain (f : FilledHeader) : JpegHeader := ⟨f.parts.map Prod.snd, f.frame⟩

/-- The filled header behind its SOI marker. -/
def FilledHeader.rest (f : FilledHeader) : Bytes :=
  f.parts.flatMap (fun part => fillBytes part.1 ++ part.2.bytes) ++ (fillBytes f.fill ++ f.frame.bytes)

def FilledHeader.bytes (f : FilledHeader) : Bytes := 0xFF :: 0xD8 :: f.rest

/-- The header from the first marker on that has fill bytes in front of it. -/
def firstFill (fill : ℕ) (frame : FrameHeader) : List (ℕ × JpegPart) → Option Bytes
  | [] => if fill = 0 then none else some (fillBytes fill ++ frame.bytes)
  | part :: parts =>
      if part.1 = 0 then firstFill fill frame parts else some (FilledHeader.rest ⟨part :: parts, fill, frame⟩)

/-- Read as the marker of a segment, `FF FF` at the front takes the two octets behind it for a length, and
this is what is left behind the segment. -/
def FalseSegment (bs rest : Bytes) : Prop :=
  ∃ a b tail, bs = 0xFF :: 0xFF :: a :: b :: tail ∧ 2 ≤ beNat [a, b] ∧ rest = tail.drop (beNat [a, b] - 2)

lemma isSegment_fill : IsSegment 0xFF := by decide

/-- The walk takes a fill byte for the marker of a segment. -/
lemma frameIn_fill_iff {a b : UInt8} {tail : Bytes} {w h : ℕ} :
    frameIn (0xFF :: 0xFF :: a :: b :: tail) = .ok (w, h) ↔
      ∃ rest, FalseSegment (0xFF :: 0xFF :: a :: b :: tail) rest ∧ LeadsTo rest w h := by
  by_cases hlen : 2 ≤ beNat [a, b]
  · rw [frameIn_segment isSegment_fill hlen, frameIn_ok_iff]
    constructor
    · intro hleads
      exact ⟨_, ⟨a, b, tail, rfl, hlen, rfl⟩, hleads⟩
    · rintro ⟨rest, ⟨a', b', tail', heq, -, rfl⟩, hleads⟩
      obtain ⟨rfl, rfl, rfl⟩ : a = a' ∧ b = b' ∧ tail = tail' := by simpa using heq
      exact hleads
  · have hbad : frameIn (0xFF :: 0xFF :: a :: b :: tail) = .error .badSegmentLength := by
      rw [frameIn.eq_def]
      simp only [ne_eq, not_true_eq_false, if_false, isSegment_fill.1, not_le.mp hlen, if_true]
    rw [hbad]
    refine iff_of_false (by simp) ?_
    rintro ⟨rest, ⟨a', b', tail', heq, hlen', rfl⟩, -⟩
    obtain ⟨rfl, rfl, rfl⟩ : a = a' ∧ b = b' ∧ tail = tail' := by simpa using heq
    exact hlen hlen'

/-- Fill bytes, a marker and what follows it start with `FF FF` and two more octets. -/
lemma fillBytes_split {n : ℕ} (hn : n ≠ 0) {bs : Bytes} (hlen : 2 ≤ bs.length) :
    ∃ a b tail, fillBytes n ++ 0xFF :: bs = 0xFF :: 0xFF :: a :: b :: tail := by
  match n, hn, bs, hlen with
  | 1, _, a :: b :: tail, _ => exact ⟨a, b, tail, rfl⟩
  | 2, _, a :: tail, _ => exact ⟨0xFF, a, tail, rfl⟩
  | n + 3, _, bs, _ =>
      refine ⟨0xFF, (fillBytes n ++ 0xFF :: bs).headD 0, (fillBytes n ++ 0xFF :: bs).tail, ?_⟩
      cases n <;> rfl

/-- The walk on fill bytes, a marker and what follows it. -/
lemma frameIn_fillBytes_iff {n : ℕ} (hn : n ≠ 0) {bs : Bytes} (hlen : 2 ≤ bs.length) {w h : ℕ} :
    frameIn (fillBytes n ++ 0xFF :: bs) = .ok (w, h) ↔
      ∃ rest, FalseSegment (fillBytes n ++ 0xFF :: bs) rest ∧ LeadsTo rest w h := by
  obtain ⟨a, b, tail, hsplit⟩ := fillBytes_split hn hlen
  rw [hsplit]
  exact frameIn_fill_iff

lemma FilledHeader.le_length_rest (f : FilledHeader) : 9 ≤ f.rest.length := by
  have hframe : f.frame.bytes.length = 9 := rfl
  rw [FilledHeader.rest, List.length_append, List.length_append, hframe]
  omega

/-- The walk on a filled header. -/
lemma frameIn_filled_iff (f : FilledHeader) (trailing : Bytes) :
    frameIn (f.rest ++ trailing) = .ok (f.frame.width, f.frame.height) ↔
      ∀ bs, firstFill f.fill f.frame f.parts = some bs →
        ∃ rest, FalseSegment (bs ++ trailing) rest ∧ LeadsTo rest f.frame.width f.frame.height := by
  obtain ⟨parts, fill, frame⟩ := f
  induction parts with
  | nil =>
      simp only [firstFill, FilledHeader.rest, List.flatMap_nil, List.nil_append]
      by_cases hfill : fill = 0
      · rw [if_pos hfill, hfill]
        exact iff_of_true (frameIn_frameHeader frame trailing) (by simp)
      · rw [if_neg hfill]
        simp only [Option.some.injEq, forall_eq']
        have hfront : fillBytes fill ++ frame.bytes ++ trailing
            = fillBytes fill ++ 0xFF :: (frame.bytes.tail ++ trailing) := by
          rw [List.append_assoc]
          rfl
        rw [hfront]
        exact frameIn_fillBytes_iff hfill (by simp [FrameHeader.bytes, be16])
  | cons part parts ih =>
      obtain ⟨n, part⟩ := part
      have hcons : FilledHeader.rest ⟨(n, part) :: parts, fill, frame⟩
          = fillBytes n ++ (part.bytes ++ FilledHeader.rest ⟨parts, fill, frame⟩) := by
        simp only [FilledHeader.rest, List.flatMap_cons, List.append_assoc]
      simp only [firstFill]
      by_cases hn : n = 0
      · rw [if_pos hn, hcons, hn, fillBytes, List.replicate_zero, List.nil_append, List.append_assoc,
          frameIn_part]
        exact ih
      · rw [if_neg hn]
        simp only [Option.some.injEq, forall_eq']
        have hnine := FilledHeader.le_length_rest ⟨parts, fill, frame⟩
        have hmarker : part.bytes = 0xFF :: part.bytes.tail := by cases part <;> rfl
        have hfront : FilledHeader.rest ⟨(n, part) :: parts, fill, frame⟩ ++ trailing
            = fillBytes n ++ 0xFF :: (part.bytes.tail ++ (FilledHeader.rest ⟨parts, fill, frame⟩ ++ trailing)) := by
          rw [hcons, hmarker, List.append_assoc, List.append_assoc]
          rfl
        rw [hfront]
        refine frameIn_fillBytes_iff hn ?_
        rw [List.length_append, List.length_append]
        omega

/-- **When fill bytes are transparent.**  With so many fill bytes in front of each marker of a header, its
dimensions are what they were exactly if there are none, or the false segment at the first of them
ends where the data again leads to a frame header with these dimensions. -/
theorem fill_transparent_iff (f : FilledHeader) (trailing : Bytes) :
    jpegDimensions (f.bytes ++ trailing) = jpegDimensions (f.plain.bytes ++ trailing) ↔
      ∀ bs, firstFill f.fill f.frame f.parts = some bs →
        ∃ rest, FalseSegment (bs ++ trailing) rest ∧ LeadsTo rest f.frame.width f.frame.height := by
  have hplain : jpegDimensions (f.plain.bytes ++ trailing) = .ok (f.frame.width, f.frame.height) :=
    (jpegDimensions_soi _).trans (frameIn_rest f.plain trailing)
  have hfilled : jpegDimensions (f.bytes ++ trailing) = frameIn (f.rest ++ trailing) := jpegDimensions_soi _
  rw [hplain, hfilled]
  exact frameIn_filled_iff f trailing

/-- A frame header of 640 by 480. -/
def vgaFrame : FrameHeader := ⟨0xC0, 17, 8, 480, 640, by decide, by decide, by decide, by decide⟩

/-- **One fill byte in front of the frame header hides it.** -/
theorem fill_not_transparent :
    jpegDimensions ((⟨[], vgaFrame⟩ : JpegHeader).bytes ++ [0xFF, 0xD9]) = .ok (640, 480) ∧
      (⟨[], 1, vgaFrame⟩ : FilledHeader).bytes = 0xFF :: 0xD8 :: 0xFF :: vgaFrame.bytes ∧
      jpegDimensions ((⟨[], 1, vgaFrame⟩ : FilledHeader).bytes ++ [0xFF, 0xD9]) = .error .noFrame := by
  refine ⟨(jpegDimensions_soi _).trans (frameIn_rest ⟨[], vgaFrame⟩ _), rfl, ?_⟩
  refine (jpegDimensions_soi _).trans ?_
  refine (frameIn_segment isSegment_fill (show 2 ≤ beNat [0xC0, 0x00] by decide) _).trans ?_
  rw [List.drop_eq_nil_of_le (by decide), frameIn]
  simp

end Sudonit
