import Sudonit.Phone.Session

/-!
# An image on its way to the pipeline

What the two image senders write, read by `handle_connection`.

* `imageBeginText_eq`, `imageEndText_eq` — the text `snprintf` makes is a flat JSON object.
* `validTransfer_image` — an opening frame that announces some data, the chunk frames of the data and a
  closing frame are a complete transfer of it.
* `uplink_end_to_end` — the pipeline is called once, on the image that was sent.
-/

namespace Sudonit

open Octets Stream Frames Python Chunks

/-! ## The opening and the closing message -/

/-- Text of printable characters that need no escape. -/
def AllBare (bs : Bytes) : Prop := ∀ b ∈ bs, Bare b

instance (bs : Bytes) : Decidable (AllBare bs) := inferInstanceAs (Decidable (∀ b ∈ bs, _))

lemma allBare_hexdigest (data : Bytes) : AllBare (Sha256.hexdigest data) :=
  fun b hb => bare_of_wordChar (hexdigest_word data b hb)

lemma rendered_ofBytes {bs : Bytes} (h : AllBare bs) :
    rendered (.str (ofBytes bs)) = oct '"' :: bs ++ [oct '"'] := by
  rw [rendered, quoted, escape_ofBytes h]

lemma rendered_natCast (n : ℕ) : rendered (.int n) = decimal n := by
  rw [rendered, intRepr, if_neg (by omega), Int.natAbs_natCast]

/-- **The `image_begin` of the device is a JSON object** with the members of the phone's, in the order of
the format string. -/
theorem imageBeginText_eq {imageId mediaType data : Bytes} (hid : AllBare imageId)
    (hmt : AllBare mediaType) :
    imageBeginText imageId data.length (chunkCount data.length chunkSize) (Sha256.hexdigest data) mediaType
      = flatText (imageBegin (ofBytes imageId) data (ofBytes mediaType) chunkSize) := by
  rw [imageBegin, flatText, membersText_cons, membersText_cons, membersText_cons, membersText_cons,
    membersText_cons, membersText_singleton, rendered_ofBytes hid, rendered_ofBytes hmt,
    rendered_ofBytes (allBare_hexdigest data), rendered_natCast, rendered_natCast, imageBeginText]
  simp only [List.append_assoc, List.cons_append, List.nil_append]
  rfl

theorem imageEndText_eq {imageId : Bytes} (hid : AllBare imageId) :
    imageEndText imageId = flatText (imageEnd (ofBytes imageId)) := by
  rw [imageEnd, flatText, membersText_cons, membersText_singleton, rendered_ofBytes hid, imageEndText]
  simp only [List.append_assoc, List.cons_append, List.nil_append]
  rfl

/-- The members of the phone's `image_begin` in the order they are written. -/
def sortedImageBegin (imageId : PyStr) (data : Bytes) (mediaType : PyStr) (chunkSize : ℕ) : Dict :=
  [(str "chunks", .int (chunkCount data.length chunkSize)), (str "image_id", .str imageId),
    (str "media_type", .str mediaType), (str "sha256", .str (ofBytes (Sha256.hexdigest data))),
    (str "size", .int data.length), (str "type", .str (str "image_begin"))]

/-- The members of the phone's `image_end` in the order they are written. -/
def sortedImageEnd (imageId : PyStr) : Dict :=
  [(str "image_id", .str imageId), (str "type", .str (str "image_end"))]

lemma rendered_imageBegin (imageId : PyStr) (data : Bytes) (mediaType : PyStr) (chunkSize : ℕ) :
    rendered (.obj (imageBegin imageId data mediaType chunkSize))
      = flatText (sortedImageBegin imageId data mediaType chunkSize) := rfl

lemma rendered_imageEnd (imageId : PyStr) :
    rendered (.obj (imageEnd imageId)) = flatText (sortedImageEnd imageId) := rfl

/-! ## Reading the messages -/

lemma flat_ofBytes (bs : Bytes) : Flat (.str (ofBytes bs)) := by
  intro c hc
  obtain ⟨b, -, rfl⟩ := List.mem_map.mp hc
  exact isScalar_ofByte b

lemma flat_natCast {n : ℕ} (h : n < 2 ^ 64) : Flat (.int n) := by
  rw [Flat, Int.natAbs_natCast, length_decimal_le (by decide)]
  calc n < 2 ^ 64 := h
    _ ≤ 10 ^ 20 := by decide
    _ ≤ 10 ^ maxStrDigits := Nat.pow_le_pow_right (by decide) (by decide)

lemma flatMembers_of_flat {ms : Dict} (h : ∀ m ∈ ms, (∃ k : Bytes, m.1 = ofBytes k) ∧ Flat m.2) :
    FlatMembers ms := by
  intro m hm
  obtain ⟨⟨k, hk⟩, hv⟩ := h m hm
  exact ⟨hk ▸ flat_ofBytes k, hv⟩

/-- The members of an `image_begin` can be written and read back, in any order. -/
lemma flatMembers_imageBegin {imageId mediaType data : Bytes} {cs : ℕ} (hlen : data.length < 2 ^ 64)
    (hcount : chunkCount data.length cs < 2 ^ 64) :
    FlatMembers (imageBegin (ofBytes imageId) data (ofBytes mediaType) cs) := by
  refine flatMembers_of_flat ?_
  intro m hm
  simp only [imageBegin, List.mem_cons, List.not_mem_nil, or_false] at hm
  rcases hm with rfl | rfl | rfl | rfl | rfl | rfl
  · exact ⟨⟨ascii "type", rfl⟩, flat_ofBytes (ascii "image_begin")⟩
  · exact ⟨⟨ascii "image_id", rfl⟩, flat_ofBytes imageId⟩
  · exact ⟨⟨ascii "size", rfl⟩, flat_natCast hlen⟩
  · exact ⟨⟨ascii "chunks", rfl⟩, flat_natCast hcount⟩
  · exact ⟨⟨ascii "sha256", rfl⟩, flat_ofBytes _⟩
  · exact ⟨⟨ascii "media_type", rfl⟩, flat_ofBytes mediaType⟩

lemma flatMembers_imageEnd (imageId : Bytes) : FlatMembers (imageEnd (ofBytes imageId)) := by
  refine flatMembers_of_flat ?_
  intro m hm
  simp only [imageEnd, List.mem_cons, List.not_mem_nil, or_false] at hm
  rcases hm with rfl | rfl
  · exact ⟨⟨ascii "type", rfl⟩, flat_ofBytes (ascii "image_end")⟩
  · exact ⟨⟨ascii "image_id", rfl⟩, flat_ofBytes imageId⟩

/-- What a flat message is to the reassembler. -/
lemma event_flatText (phone : Phone) {ms : Dict} (hms : FlatMembers ms)
    (hkeys : (ms.map Prod.fst).Nodup) (htype : (dictGet ms (str "type")).isSome) :
    event phone ⟨kindJson, flatText ms⟩ = controlEvent ms := by
  have hkind : kindJson ≠ kindBinary := by decide
  rw [event, if_neg hkind, decodeControl_flatText phone.py hms hkeys htype]

/-- What the reassembler for some data expects. -/
def expecting (imageId mediaType : Bytes) (data : Bytes) (cs : ℕ) : ImageReassembler :=
  ⟨.str (ofBytes imageId), .str (ofBytes mediaType), data.length, chunkCount data.length cs,
    .str (ofBytes (Sha256.hexdigest data)), ∅⟩

/-- The frame is an `image_begin` for this data, as the phone reads it. -/
def OpensImage (phone : Phone) (imageId mediaType data : Bytes) (cs : ℕ) (f : Frame) : Prop :=
  ∃ msg, event phone f = .opens msg ∧
    ImageReassembler.new msg = .ok (expecting imageId mediaType data cs)

variable {imageId mediaType data : Bytes} {cs : ℕ}

/-- What the device's `image_begin` opens. -/
lemma opensImage_text (phone : Phone) (hid : AllBare imageId) (hmt : AllBare mediaType)
    (hlen : data.length < 2 ^ 61) (hcount : chunkCount data.length chunkSize < 2 ^ 64) :
    OpensImage phone imageId mediaType data chunkSize ⟨kindJson, imageBeginText imageId data.length
      (chunkCount data.length chunkSize) (sdSha256Hex data) mediaType⟩ := by
  have hkeys : (["type", "image_id", "size", "chunks", "sha256", "media_type"].map str).Nodup := by
    decide
  refine ⟨imageBegin (ofBytes imageId) data (ofBytes mediaType) chunkSize, ?_, rfl⟩
  rw [sdSha256Hex_eq hlen, imageBeginText_eq hid hmt]
  exact event_flatText phone (flatMembers_imageBegin (by omega) hcount) hkeys rfl

/-- What the phone's own `image_begin` opens. -/
lemma opensImage_controlFrame (phone : Phone) (hlen : data.length < 2 ^ 64)
    (hcount : chunkCount data.length cs < 2 ^ 64) :
    OpensImage phone imageId mediaType data cs
      (controlFrame (imageBegin (ofBytes imageId) data (ofBytes mediaType) cs)) := by
  have hkeys : (["chunks", "image_id", "media_type", "sha256", "size", "type"].map str).Nodup := by
    decide
  have hflat : FlatMembers (sortedImageBegin (ofBytes imageId) data (ofBytes mediaType) cs) := by
    intro m hm
    suffices hmem : m ∈ imageBegin (ofBytes imageId) data (ofBytes mediaType) cs from
      flatMembers_imageBegin hlen hcount m hmem
    simp only [sortedImageBegin, List.mem_cons, List.not_mem_nil, or_false] at hm
    rcases hm with rfl | rfl | rfl | rfl | rfl | rfl <;> simp [imageBegin]
  refine ⟨sortedImageBegin (ofBytes imageId) data (ofBytes mediaType) cs, ?_, rfl⟩
  rw [controlFrame, rendered_imageBegin]
  exact event_flatText phone hflat hkeys rfl

lemma closes_text (phone : Phone) (hid : AllBare imageId) :
    event phone ⟨kindJson, imageEndText imageId⟩ = .closes := by
  rw [imageEndText_eq hid]
  have hkeys : (["type", "image_id"].map str).Nodup := by decide
  exact event_flatText phone (flatMembers_imageEnd imageId) hkeys rfl

lemma closes_controlFrame (phone : Phone) (imageId : Bytes) :
    event phone (controlFrame (imageEnd (ofBytes imageId))) = .closes := by
  have hkeys : (["image_id", "type"].map str).Nodup := by decide
  have hflat : FlatMembers (sortedImageEnd (ofBytes imageId)) := by
    intro m hm
    apply flatMembers_imageEnd imageId m
    simp only [sortedImageEnd, List.mem_cons, List.not_mem_nil, or_false] at hm
    rcases hm with rfl | rfl <;> simp [imageEnd]
  rw [controlFrame, rendered_imageEnd]
  exact event_flatText phone hflat hkeys rfl

/-! ## A transfer of some data -/

/-- **Some data announced, cut into chunks and closed is a complete transfer of it.** -/
theorem validTransfer_image {phone : Phone} {b e : Frame}
    (hb : OpensImage phone imageId mediaType data cs b) (hpos : 0 < cs)
    (hseq : ∀ seq < chunkCount data.length cs, seq < 2 ^ 32) (he : event phone e = .closes) :
    ValidTransfer phone (b :: chunkFrames data cs ++ [e])
      ⟨.str (ofBytes imageId), .str (ofBytes mediaType), data⟩ := by
  obtain ⟨msg, hopen, hnew⟩ := hb
  have hslices := chunksOf_chunkFrames hseq
  have hall := length_le_chunkCount hpos data.length
  have hlast : ∀ i < chunkCount data.length cs, i * cs ≤ data.length := fun i hi => offset_le hi
  have hcount : (chunksOf (chunkFrames data cs)).length = chunkCount data.length cs := by
    rw [hslices, slices, List.length_map, List.length_range]
  have hlong : ∀ p ∈ (chunkFrames data cs).map Frame.payload, 4 ≤ p.length := by
    intro p hp
    obtain ⟨f, hf, rfl⟩ := List.mem_map.mp hp
    obtain ⟨seq, -, rfl⟩ := List.mem_map.mp hf
    rw [chunkFrame, List.length_append, length_be32]
    omega
  have hkinds : ∀ f ∈ chunkFrames data cs, f.kind = kindBinary := by
    intro f hf
    obtain ⟨seq, -, rfl⟩ := List.mem_map.mp hf
    rfl
  obtain ⟨t, hfeed, hholds, hsize, hchunks, hsha⟩ := Transfer.feed_ok
    (t := (expecting imageId mediaType data cs).transfer) Transfer.Holds.empty hlong
  rw [List.nil_append, List.map_map] at hholds
  change t.Holds (chunksOf (chunkFrames data cs)) at hholds
  -- The chunks tile the data, and written over the data they leave it.
  have hfill : writeAll cs data (chunksOf (chunkFrames data cs)) = data :=
    writeAll_slices hpos rfl hall hlast (by rw [hslices])
  have hfinish := Transfer.finish_tiling hholds hpos
    (by rw [hslices]; exact tiling_slices hall hlast) (by rw [hchunks, hcount]; rfl)
    (by rw [hsize]; rfl) (by rw [hsha, hfill]; rfl)
  rw [hfill] at hfinish
  refine ⟨b, chunkFrames data cs, e, msg, expecting imageId mediaType data cs,
    { expecting imageId mediaType data cs with transfer := t }, rfl, hopen, hnew, hkinds, ?_, ?_, he⟩
  · rw [ImageReassembler.feed_eq, hfeed]
    rfl
  · rw [ImageReassembler.finish, hfinish]
    rfl

/-- The line for a received image can be printed when its identifier can. -/
lemma print_receivedLine (phone : Phone) (hid : AllBare imageId) (mediaType : JsonValue) (data : Bytes) :
    phone.print (receivedLine phone ⟨.str (ofBytes imageId), mediaType, data⟩) = .ok () := by
  have hline : receivedLine phone ⟨.str (ofBytes imageId), mediaType, data⟩
      = ofBytes (ascii "[server] received image '" ++ imageId ++ ascii "' (" ++ decimal data.length ++
        ascii " bytes)") := by
    rw [receivedLine, phone.format_str]
    simp only [ofBytes_append]
    rfl
  rw [hline]
  apply phone.print_ascii
  simp only [allPrintable_append]
  exact ⟨⟨⟨⟨by decide, fun b hb => (hid b hb).1⟩, by decide⟩, allPrintable_decimal _⟩, by decide⟩

/-- **A transfer that fills a connection calls the pipeline once**, on its image. -/
theorem handleConnection_transfer {phone : Phone} {fs : List Frame} {image : ReceivedImage}
    (htransfer : ValidTransfer phone fs image) (hprint : phone.print (receivedLine phone image) = .ok ())
    (hfs : ∀ f ∈ fs, Sendable f) {conn : Inbound} (hconn : conn.Steady) (hb : conn.bytes = wire fs)
    (s : Served) : (handleConnection phone conn s).2.runs = s.runs ++ [image.call] := by
  have hruns := processAndReply_runs phone image s
  rw [hprint] at hruns
  rw [handleConnection, connectionLoop_eq, drain_recvFrame hconn (fun f hf => (hfs f hf).2) hb,
    serve_transfer htransfer]
  rcases hreply : (processAndReply phone image).run s with ⟨e | _, s'⟩ <;>
    simpa [hreply, Except.map] using hruns

/-! ## The two senders -/

/-- The call for what was sent. -/
def uplinkCall (imageId mediaType data : Bytes) : RunCall :=
  ⟨data, .str (ofBytes mediaType), .str (ofBytes imageId)⟩

lemma sdImageFrames_received {phone : Phone} (hid : AllBare imageId) (hmt : AllBare mediaType)
    (hcount : chunkCount data.length chunkSize < 2 ^ 32)
    (hfs : ∀ f ∈ sdImageFrames imageId data mediaType, Sendable f) {conn : Inbound} (hconn : conn.Steady)
    (hb : conn.bytes = wire (sdImageFrames imageId data mediaType)) (s : Served) :
    (handleConnection phone conn s).2.runs = s.runs ++ [uplinkCall imageId mediaType data] := by
  have hlen : data.length ≤ chunkCount data.length chunkSize * 4096 :=
    length_le_chunkCount (by decide) data.length
  have hbegin : OpensImage phone imageId mediaType data chunkSize _ :=
    opensImage_text phone hid hmt (by omega) (by omega)
  have htransfer := validTransfer_image hbegin (by decide) (fun seq hseq => by omega)
    (closes_text phone hid)
  exact handleConnection_transfer htransfer (print_receivedLine phone hid _ data) hfs hconn hb s

/-- The frames of a transfer and their numbers bound the data. -/
lemma length_lt_of_sendable {opening closing : Dict}
    (hfs : ∀ f ∈ transferFrames opening data cs closing, Sendable f) (hpos : 0 < cs)
    (hseq : ∀ seq < chunkCount data.length cs, seq < 2 ^ 32) : data.length < 2 ^ 56 := by
  have hcount : 0 < chunkCount data.length cs := lt_of_lt_of_le Nat.one_pos (le_max_left _ _)
  have hfirst : chunkFrame data cs 0 ∈ transferFrames opening data cs closing := by
    rw [transferFrames, List.cons_append, List.mem_cons, List.mem_append]
    exact Or.inr (Or.inl (List.mem_map_of_mem (List.mem_range.mpr hcount)))
  have hpayload := (hfs _ hfirst).2
  rw [chunkFrame, slice, List.length_append, length_be32, List.length_take, List.length_drop,
    maxFrameBytes] at hpayload
  have hlast := hseq (chunkCount data.length cs - 1) (by omega)
  rcases Nat.lt_or_ge data.length cs with hone | hmany
  · omega
  · calc data.length ≤ chunkCount data.length cs * cs := length_le_chunkCount hpos _
      _ ≤ 2 ^ 32 * 2 ^ 23 := Nat.mul_le_mul (by omega) (by omega)
      _ < 2 ^ 56 := by decide

lemma transferFrames_received {phone : Phone} (hid : AllBare imageId)
    (hfs : ∀ f ∈ transferFrames (imageBegin (ofBytes imageId) data (ofBytes mediaType) cs) data cs
      (imageEnd (ofBytes imageId)), Sendable f) (hpos : 0 < cs)
    (hseq : ∀ seq < chunkCount data.length cs, seq < 2 ^ 32) {conn : Inbound} (hconn : conn.Steady)
    (hb : conn.bytes = wire (transferFrames (imageBegin (ofBytes imageId) data (ofBytes mediaType) cs)
      data cs (imageEnd (ofBytes imageId)))) (s : Served) :
    (handleConnection phone conn s).2.runs = s.runs ++ [uplinkCall imageId mediaType data] := by
  have hlen := length_lt_of_sendable hfs hpos hseq
  have hcount : chunkCount data.length cs < 2 ^ 64 := by
    by_contra hbig
    have := hseq (2 ^ 32) (by omega)
    omega
  have hbegin : OpensImage phone imageId mediaType data cs _ :=
    opensImage_controlFrame phone (by omega) hcount
  have htransfer := validTransfer_image hbegin hpos hseq (closes_controlFrame phone imageId)
  exact handleConnection_transfer htransfer (print_receivedLine phone hid _ data) hfs hconn hb s

/-- The binary frames of a stream, as the phone takes them off it. -/
def binaryFrames (conn : Inbound) : List Frame :=
  (drain recvFrame.run conn).1.filter fun f => f.kind = kindBinary

lemma filter_chunkFrames {b e : Frame} (hb : b.kind = kindJson) (he : e.kind = kindJson) (data : Bytes)
    (cs : ℕ) : (b :: chunkFrames data cs ++ [e]).filter (fun f => f.kind = kindBinary)
      = chunkFrames data cs := by
  have hne : kindJson ≠ kindBinary := by decide
  have hchunks : (chunkFrames data cs).filter (fun f => f.kind = kindBinary) = chunkFrames data cs := by
    rw [List.filter_eq_self]
    intro f hf
    obtain ⟨seq, -, rfl⟩ := List.mem_map.mp hf
    exact decide_eq_true rfl
  rw [List.filter_append, List.filter_cons_of_neg (by simp [hb, hne]), hchunks,
    List.filter_cons_of_neg (by simp [he, hne]), List.filter_nil, List.append_nil]

/-- **An image sent is an image processed.**

With an identifier and a media type of printable characters that need no escape: if `sd_msg_send_image`
returns `SD_OK`, or `send_image` returns at some chunk size, and the phone is given the bytes written,
it calls the pipeline once, on the image, its media type and its identifier.  At the default chunk size
the binary frames of the two senders are the same. -/
theorem uplink_end_to_end (phone : Phone) (imageId mediaType : CStr) (hid : AllBare imageId.bytes)
    (hmt : AllBare mediaType.bytes) (s : Served) :
    (∀ (target : Target) (heap : Bool) (data : Object target) (t t' : Outbound) (conn : Inbound),
      (sdMsgSendImage target heap imageId data mediaType).run t = (.ok (), t') →
      chunkCount data.bytes.length chunkSize < 2 ^ 32 →
      conn.Steady → t'.sent = t.sent ++ conn.bytes →
      (handleConnection phone conn s).2.runs
        = s.runs ++ [uplinkCall imageId.bytes mediaType.bytes data.bytes]) ∧
    (∀ (py : Interpreter) (data : Bytes) (cs : ℕ) (sock sock' : Outbound) (conn : Inbound),
      (sendImage py (ofBytes imageId.bytes) data (ofBytes mediaType.bytes) cs).run sock = (.ok (), sock') →
      conn.Steady → sock'.sent = sock.sent ++ conn.bytes →
      (handleConnection phone conn s).2.runs
        = s.runs ++ [uplinkCall imageId.bytes mediaType.bytes data]) ∧
    ∀ (py : Interpreter) (target : Target) (heap : Bool) (data : Object target) (t t' sock sock' : Outbound)
      (conn conn' : Inbound),
      (sdMsgSendImage target heap imageId data mediaType).run t = (.ok (), t') →
      (sendImage py (ofBytes imageId.bytes) data.bytes (ofBytes mediaType.bytes) chunkSize).run sock
        = (.ok (), sock') →
      conn.Steady → t'.sent = t.sent ++ conn.bytes →
      conn'.Steady → sock'.sent = sock.sent ++ conn'.bytes →
      binaryFrames conn = binaryFrames conn' := by
  refine ⟨?_, ?_, ?_⟩
  · intro target heap data t t' conn hsend hcount hconn hb
    obtain ⟨hsent, hfs⟩ := sdMsgSendImage_ok hsend
    rw [hsent, List.append_cancel_left_eq] at hb
    exact sdImageFrames_received hid hmt hcount hfs hconn hb.symm s
  · intro py data cs sock sock' conn hsend hconn hb
    rw [sendImage_eq] at hsend
    obtain ⟨hpos, hsent, hfs, hseq⟩ := sendTransfer_ok hsend
    rw [hsent, List.append_cancel_left_eq] at hb
    exact transferFrames_received hid hfs hpos hseq hconn hb.symm s
  · intro py target heap data t t' sock sock' conn conn' hsend hsend' hconn hb hconn' hb'
    obtain ⟨hsent, hfs⟩ := sdMsgSendImage_ok hsend
    rw [sendImage_eq] at hsend'
    obtain ⟨-, hsent', hfs', -⟩ := sendTransfer_ok hsend'
    rw [hsent, List.append_cancel_left_eq] at hb
    rw [hsent', List.append_cancel_left_eq] at hb'
    rw [binaryFrames, binaryFrames, drain_recvFrame hconn (fun f hf => (hfs f hf).2) hb.symm,
      drain_recvFrame hconn' (fun f hf => (hfs' f hf).2) hb'.symm, sdImageFrames, transferFrames,
      filter_chunkFrames rfl rfl, filter_chunkFrames rfl rfl]

/-- An image with a short identifier and media type is sent. -/
lemma sdMsgSendImage_short {target : Target} {imageId mediaType : CStr} {data : Object target}
    (hopen : 146 + imageId.bytes.length + mediaType.bytes.length + (decimal data.bytes.length).length +
      (decimal (chunkCount data.bytes.length chunkSize)).length < 256)
    (hclose : 34 + imageId.bytes.length < 128) :
    ∃ t', (sdMsgSendImage target true imageId data mediaType).run (.fresh []) = (.ok (), t') := by
  have hdelivers : Delivers (sdMsgSendImage target true imageId data mediaType)
      (wire (sdImageFrames imageId.bytes data.bytes mediaType.bytes)) :=
    sdMsgSendImage_delivers (by rwa [length_imageBeginText]) (by rwa [length_imageEndText])
  obtain ⟨t', hrun, -, -⟩ := hdelivers _ (Outbound.steady_fresh [])
  exact ⟨t', hrun⟩

/-- An image of three chunks, the last of them short. -/
@[irreducible] def panorama : Bytes := List.replicate 4096 1 ++ List.replicate 4096 2 ++ ascii "ab"

lemma length_panorama : panorama.length = 8194 := by
  unfold panorama
  simp only [List.length_append, List.length_replicate]
  rfl

/-- The same, in the memory of the device. -/
def panoramaObject : Object .esp32 := ⟨panorama, by rw [length_panorama]; decide⟩

/-- `"a"`. -/
def shortId : CStr := ⟨ascii "a", by decide⟩

/-- `"image/png"`. -/
def pngType : CStr := ⟨ascii "image/png", by decide⟩

lemma length_panoramaObject : panoramaObject.bytes.length = 8194 := length_panorama

lemma sdMsgSendImage_panorama :
    ∃ t', (sdMsgSendImage .esp32 true shortId panoramaObject pngType).run (.fresh []) = (.ok (), t') :=
  sdMsgSendImage_short (by rw [length_panoramaObject]; decide) (by decide)

lemma sendImage_short {data : Bytes} (hlen : data.length = 8194) : ∃ sock', (sendImage usualInterpreter
    (ofBytes shortId.bytes) data (ofBytes pngType.bytes) chunkSize).run (.fresh []) = (.ok (), sock') := by
  have hopen : Writable usualInterpreter (imageBegin (ofBytes shortId.bytes) data (ofBytes pngType.bytes) chunkSize) :=
    .of_plain _ rfl (by decide) (by simp [imageBegin, nesting])
  have hclose : Writable usualInterpreter (imageEnd (ofBytes shortId.bytes)) :=
    .of_plain _ rfl (by decide) (by simp [imageEnd, nesting])
  have hopenLen : (rendered (.obj (imageBegin (ofBytes shortId.bytes) data (ofBytes pngType.bytes) chunkSize))).length
      ≤ maxFrameBytes := by
    rw [rendered_imageBegin, sortedImageBegin, length_flatText (List.cons_ne_nil _ _)]
    simp only [List.map_cons, List.map_nil, List.sum_cons, List.sum_nil, rendered, length_quoted_hexdigest, hlen]
    decide
  have hcount : chunkCount data.length chunkSize ≤ 2 ^ 32 := by
    rw [hlen]
    decide
  obtain ⟨sock', hrun, -, -⟩ := sendTransfer_delivers (by decide) (by decide) hcount hopen.encodeControl hopenLen
    hclose.encodeControl (by decide) _ (Outbound.steady_fresh [])
  exact ⟨sock', hrun⟩

/-- An image of three chunks from either sender, read in pieces of three octets and of one. -/
theorem uplink_end_to_end_panorama : ∃ t' sock',
    (sdMsgSendImage .esp32 true shortId panoramaObject pngType).run (.fresh []) = (.ok (), t') ∧
    (sendImage usualInterpreter (ofBytes shortId.bytes) panoramaObject.bytes (ofBytes pngType.bytes) chunkSize).run
      (.fresh []) = (.ok (), sock') ∧
    (handleConnection deskPhone (.cut t'.sent [3, 1]) ⟨.fresh [], []⟩).2.runs
      = [uplinkCall (ascii "a") (ascii "image/png") panoramaObject.bytes] ∧
    (handleConnection deskPhone (.cut sock'.sent [3, 1]) ⟨.fresh [], []⟩).2.runs
      = [uplinkCall (ascii "a") (ascii "image/png") panoramaObject.bytes] ∧
    binaryFrames (.cut t'.sent [3, 1]) = binaryFrames (.cut sock'.sent [3, 1]) := by
  obtain ⟨t', hsend⟩ := sdMsgSendImage_panorama
  obtain ⟨sock', hsend'⟩ := sendImage_short length_panoramaObject
  obtain ⟨hdevice, hphone, hchunks⟩ := uplink_end_to_end deskPhone shortId pngType (by decide) (by decide)
    ⟨.fresh [], []⟩
  have hcount : chunkCount panoramaObject.bytes.length chunkSize < 2 ^ 32 := by
    rw [length_panoramaObject]
    decide
  have hup : ∀ t : Outbound, t.sent = (Outbound.fresh []).sent ++ (Inbound.cut t.sent [3, 1]).bytes := fun _ => rfl
  have hsteady : ∀ bs, (Inbound.cut bs [3, 1]).Steady := fun bs => Inbound.steady_cut bs [3, 1]
  exact ⟨t', sock', hsend, hsend', hdevice _ _ _ _ _ _ hsend hcount (hsteady _) (hup t'),
    hphone _ _ _ _ _ _ hsend' (hsteady _) (hup sock'),
    hchunks _ _ _ _ _ _ _ _ _ _ hsend hsend' (hsteady _) (hup t') (hsteady _) (hup sock')⟩

end Sudonit
