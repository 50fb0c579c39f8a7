import Sudonit.Protocol.Lookup
import Sudonit.Protocol.MessagesC
import Sudonit.Protocol.Reassembly

/-!
# What the senders put on the wire

A sender that returns has written the opening message, its chunk frames in order and the closing
message, and nothing else.

* `sendTransfer_ok`, `sdMsgSendImage_ok` — the frames of the three senders.
* `transferFrames_delivers` — a transfer whose frames are short enough is sent on a steady link.
* `sdSendChunk_eq` — the chunks of the two senders are the same at the default chunk size.
* `refusal_silent_iff` — when `SD_ERR_INVALID` means that nothing was sent: the two messages are formatted
  into buffers of 256 and 128 octets, and the second only after the chunks.
-/

namespace Sudonit

open Octets Stream Frames Python Chunks

/-! ## Frames of a transfer -/

/-- A control message as a frame. -/
def controlFrame (msg : Dict) : Frame := ⟨kindJson, rendered (.obj msg)⟩

/-- Chunk `seq` of some data as a frame. -/
def chunkFrame (data : Bytes) (chunkSize seq : ℕ) : Frame :=
  ⟨kindBinary, be32 seq ++ slice data chunkSize seq⟩

/-- The chunk frames of some data, in order. -/
def chunkFrames (data : Bytes) (chunkSize : ℕ) : List Frame :=
  (List.range (chunkCount data.length chunkSize)).map (chunkFrame data chunkSize)

lemma chunkOf_chunkFrame {seq : ℕ} (hseq : seq < 2 ^ 32) (data : Bytes) (chunkSize : ℕ) :
    chunkOf (chunkFrame data chunkSize seq).payload = Chunks.slice chunkSize data seq := by
  rw [chunkOf, chunkFrame, List.take_left' (length_be32 seq), List.drop_left' (length_be32 seq),
    beNat_be32 hseq]
  rfl

lemma chunksOf_chunkFrames {data : Bytes} {chunkSize : ℕ}
    (hseq : ∀ seq < chunkCount data.length chunkSize, seq < 2 ^ 32) :
    chunksOf (chunkFrames data chunkSize)
      = slices chunkSize data (chunkCount data.length chunkSize) := by
  rw [chunksOf, chunkFrames, List.map_map]
  exact List.map_congr_left fun seq hmem =>
    chunkOf_chunkFrame (hseq seq (List.mem_range.mp hmem)) data chunkSize

lemma length_le_chunkCount {chunkSize : ℕ} (hpos : 0 < chunkSize) (len : ℕ) :
    len ≤ chunkCount len chunkSize * chunkSize := by
  have hdiv := Nat.div_add_mod (len + chunkSize - 1) chunkSize
  have hmod := Nat.mod_lt (len + chunkSize - 1) hpos
  have hmax : (len + chunkSize - 1) / chunkSize * chunkSize ≤ chunkCount len chunkSize * chunkSize :=
    Nat.mul_le_mul_right _ (le_max_right _ _)
  rw [Nat.mul_comm] at hdiv
  omega

lemma offset_le {chunkSize len seq : ℕ} (hseq : seq < chunkCount len chunkSize) :
    seq * chunkSize ≤ len := by
  rcases Nat.eq_zero_or_pos chunkSize with rfl | hpos
  · simp
  rw [chunkCount, lt_max_iff, Nat.lt_one_iff] at hseq
  rcases hseq with rfl | hseq
  · simp
  · have := (Nat.le_div_iff_mul_le hpos).mp (Nat.succ_le_of_lt hseq)
    rw [Nat.succ_mul] at this
    omega

/-- A frame the senders let pass. -/
def Sendable (f : Frame) : Prop :=
  (f.kind = kindJson ∨ f.kind = kindBinary) ∧ f.payload.length ≤ maxFrameBytes

/-! ## The Python senders -/

lemma sendControl_ok {py : Interpreter} {msg : Dict} {sock sock' : Outbound}
    (h : (sendControl py msg).run sock = (.ok (), sock')) :
    encodeControl py msg = .ok (rendered (.obj msg)) ∧
      (sendFrame kindJson (rendered (.obj msg))).run sock = (.ok (), sock') := by
  obtain ⟨payload, sock₁, henc, hsend⟩ := Effect.run_bind_eq_ok.mp h
  rw [Effect.run_ofExcept, Prod.mk.injEq] at henc
  obtain ⟨henc, rfl⟩ := henc
  obtain rfl := encodeControl_ok henc
  exact ⟨henc, hsend⟩

lemma sendControl_writes (py : Interpreter) (msg : Dict) : Writes (sendControl py msg) (controlFrame msg).bytes :=
  fun _ _ h => sendFrame_writes _ _ _ _ (sendControl_ok h).2

lemma sendControl_delivers {py : Interpreter} {msg : Dict} (henc : encodeControl py msg = .ok (rendered (.obj msg)))
    (hlen : (rendered (.obj msg)).length ≤ maxFrameBytes) :
    Delivers (sendControl py msg) (controlFrame msg).bytes := by
  intro sock hs
  obtain ⟨sock', hrun, hsent, hs'⟩ :=
    sendFrame_delivers ⟨controlFrame msg, Or.inl rfl, hlen⟩ sock hs
  refine ⟨sock', ?_, hsent, hs'⟩
  rw [sendControl, henc, Effect.run_bind_ok (Effect.run_ofExcept _ _)]
  exact hrun

lemma sendChunk_ok {data : Bytes} {chunkSize seq : ℕ} {sock sock' : Outbound}
    (h : (sendChunk data chunkSize seq).run sock = (.ok (), sock')) :
    seq < 2 ^ 32 ∧ (sendFrame kindBinary (be32 seq ++ slice data chunkSize seq)).run sock
      = (.ok (), sock') := by
  obtain ⟨header, sock₁, hpack, hsend⟩ := Effect.run_bind_eq_ok.mp h
  rw [Effect.run_ofExcept, Prod.mk.injEq, packSeq] at hpack
  obtain ⟨hpack, rfl⟩ := hpack
  split_ifs at hpack with hseq
  obtain rfl := Except.ok.inj hpack
  exact ⟨hseq, hsend⟩

lemma sendChunk_writes (data : Bytes) (chunkSize seq : ℕ) :
    Writes (sendChunk data chunkSize seq) (chunkFrame data chunkSize seq).bytes :=
  fun _ _ h => sendFrame_writes _ _ _ _ (sendChunk_ok h).2

lemma length_chunk_le (data : Bytes) (chunkSize seq : ℕ) :
    (be32 seq ++ slice data chunkSize seq).length ≤ 4 + chunkSize := by
  rw [List.length_append, length_be32, slice, List.length_take]
  omega

lemma sendChunk_delivers {chunkSize seq : ℕ} (hseq : seq < 2 ^ 32)
    (hsize : 4 + chunkSize ≤ maxFrameBytes) (data : Bytes) :
    Delivers (sendChunk data chunkSize seq) (chunkFrame data chunkSize seq).bytes := by
  intro sock hs
  obtain ⟨sock', hrun, hsent, hs'⟩ := sendFrame_delivers
    ⟨chunkFrame data chunkSize seq, Or.inr rfl, (length_chunk_le data chunkSize seq).trans hsize⟩ sock hs
  refine ⟨sock', ?_, hsent, hs'⟩
  rw [sendChunk, packSeq, if_pos hseq, Effect.run_bind_ok (Effect.run_ofExcept _ _)]
  exact hrun

/-- What `send_image` and `send_audio` do: a message, the chunks of some data, a message. -/
def sendTransfer (py : Interpreter) (opening : Dict) (data : Bytes) (chunkSize : ℕ) (closing : Dict) :
    Effect Outbound PyExc Unit :=
  if chunkSize = 0 then Effect.fail .zeroDivisionError
  else do
    sendControl py opening
    Effect.forEach (sendChunk data chunkSize) (List.range (chunkCount data.length chunkSize))
    sendControl py closing

lemma sendImage_eq (py : Interpreter) (imageId : PyStr) (data : Bytes) (mediaType : PyStr) (chunkSize : ℕ) :
    sendImage py imageId data mediaType chunkSize
      = sendTransfer py (imageBegin imageId data mediaType chunkSize) data chunkSize (imageEnd imageId) :=
  rfl

lemma sendAudio_eq (py : Interpreter) (audioId : JsonValue) (pcm : Bytes) (sampleRate channels : ℤ)
    (audioFormat : PyStr) (chunkSize : ℕ) : sendAudio py audioId pcm sampleRate channels audioFormat chunkSize
      = sendTransfer py (audioBegin audioId pcm sampleRate channels audioFormat chunkSize) pcm chunkSize
        (audioEnd audioId) :=
  rfl

/-- The frames of a transfer. -/
def transferFrames (opening : Dict) (data : Bytes) (chunkSize : ℕ) (closing : Dict) : List Frame :=
  controlFrame opening :: chunkFrames data chunkSize ++ [controlFrame closing]

lemma wire_transferFrames (opening : Dict) (data : Bytes) (chunkSize : ℕ) (closing : Dict) :
    wire (transferFrames opening data chunkSize closing) = (controlFrame opening).bytes ++
      ((List.range (chunkCount data.length chunkSize)).flatMap
        (fun seq => (chunkFrame data chunkSize seq).bytes) ++ (controlFrame closing).bytes) := by
  rw [transferFrames, wire_append, wire_cons, wire_singleton, List.append_assoc, chunkFrames, wire,
    List.flatMap_map]

/-- **A transfer that was sent** is its frames on the wire, each of which the senders let pass, with
numbers that fit the header. -/
theorem sendTransfer_ok {py : Interpreter} {opening closing : Dict} {data : Bytes} {chunkSize : ℕ}
    {sock sock' : Outbound} (h : (sendTransfer py opening data chunkSize closing).run sock = (.ok (), sock')) :
    0 < chunkSize ∧
      sock'.sent = sock.sent ++ wire (transferFrames opening data chunkSize closing) ∧
      (∀ f ∈ transferFrames opening data chunkSize closing, Sendable f) ∧
      ∀ seq < chunkCount data.length chunkSize, seq < 2 ^ 32 := by
  rw [sendTransfer] at h
  split_ifs at h with hzero
  · simp at h
  have hsent := ((sendControl_writes py opening).bind ((Writes.forEach fun seq _ =>
    sendChunk_writes data chunkSize seq).bind (sendControl_writes py closing))) _ _ h
  obtain ⟨_, sock₁, hopen, hrest⟩ := Effect.run_bind_eq_ok.mp h
  obtain ⟨_, sock₂, hchunks, hclose⟩ := Effect.run_bind_eq_ok.mp hrest
  have hpass := Effect.run_forEach_ok hchunks
  refine ⟨by omega, by rw [wire_transferFrames]; exact hsent, ?_, ?_⟩
  · intro f hf
    rw [transferFrames, List.cons_append, List.mem_cons, List.mem_append, List.mem_singleton] at hf
    rcases hf with rfl | hf | rfl
    · exact sendFrame_ok (sendControl_ok hopen).2
    · obtain ⟨seq, hseq, rfl⟩ := List.mem_map.mp hf
      obtain ⟨s₁, s₂, hrun⟩ := hpass seq hseq
      exact sendFrame_ok (sendChunk_ok hrun).2
    · exact sendFrame_ok (sendControl_ok hclose).2
  · intro seq hseq
    obtain ⟨s₁, s₂, hrun⟩ := hpass seq (List.mem_range.mpr hseq)
    exact (sendChunk_ok hrun).1

/-- **A transfer is sent** on a steady link if its messages can be encoded and no frame is too long. -/
theorem sendTransfer_delivers {py : Interpreter} {opening closing : Dict} {data : Bytes} {chunkSize : ℕ}
    (hpos : 0 < chunkSize) (hsize : 4 + chunkSize ≤ maxFrameBytes)
    (hcount : chunkCount data.length chunkSize ≤ 2 ^ 32)
    (hopen : encodeControl py opening = .ok (rendered (.obj opening)))
    (hopenLen : (rendered (.obj opening)).length ≤ maxFrameBytes)
    (hclose : encodeControl py closing = .ok (rendered (.obj closing)))
    (hcloseLen : (rendered (.obj closing)).length ≤ maxFrameBytes) :
    Delivers (sendTransfer py opening data chunkSize closing)
      (wire (transferFrames opening data chunkSize closing)) := by
  rw [sendTransfer, if_neg (by omega), wire_transferFrames]
  refine (sendControl_delivers hopen hopenLen).bind
    ((Delivers.forEach fun seq hseq => ?_).bind (sendControl_delivers hclose hcloseLen))
  rw [List.mem_range] at hseq
  exact sendChunk_delivers (by omega) hsize data

lemma rendered_audioBegin (audioId : JsonValue) (pcm : Bytes) (sampleRate channels : ℤ)
    (audioFormat : PyStr) (chunkSize : ℕ) :
    rendered (.obj (audioBegin audioId pcm sampleRate channels audioFormat chunkSize)) = flatText
      [(str "audio_id", audioId), (str "channels", .int channels),
        (str "chunks", .int (chunkCount pcm.length chunkSize)), (str "format", .str audioFormat),
        (str "sample_rate", .int sampleRate), (str "sha256", .str (ofBytes (Sha256.hexdigest pcm))),
        (str "size", .int pcm.length), (str "type", .str (str "audio_begin"))] := rfl

/-- The announcement of an utterance can be written exactly if the identifier is not nested too deep. -/
lemma writable_audioBegin {py : Interpreter} {audioId : JsonValue} (h : nesting audioId < py.dumpDepth) (pcm : Bytes)
    (sampleRate channels : ℤ) (audioFormat : PyStr) (chunkSize : ℕ) :
    Writable py (audioBegin audioId pcm sampleRate channels audioFormat chunkSize) := by
  refine ⟨⟨_, rfl, by decide⟩, ?_⟩
  have := py.dumpDepth_pos
  simp [audioBegin, nesting, h, this]

lemma writable_audioEnd {py : Interpreter} {audioId : JsonValue} (h : nesting audioId < py.dumpDepth) :
    Writable py (audioEnd audioId) := by
  refine ⟨⟨_, rfl, by decide⟩, ?_⟩
  simp [audioEnd, nesting, h, py.dumpDepth_pos]

/-- An identifier nested deeper is not written. -/
lemma encodeControl_audioBegin_nested {py : Interpreter} {audioId : JsonValue} (h : py.dumpDepth ≤ nesting audioId)
    (pcm : Bytes) (sampleRate channels : ℤ) (audioFormat : PyStr) (chunkSize : ℕ) :
    encodeControl py (audioBegin audioId pcm sampleRate channels audioFormat chunkSize)
      = .error .recursionError := by
  have hdeep : ¬ nesting (.obj (audioBegin audioId pcm sampleRate channels audioFormat chunkSize)) ≤ py.dumpDepth := by
    simp only [audioBegin, nesting, nestingMembers]
    omega
  have htype : dictGet (audioBegin audioId pcm sampleRate channels audioFormat chunkSize) (str "type")
      = some (.str (str "audio_begin")) := rfl
  have hmem : str "audio_begin" ∈ knownTypes := by decide
  simp only [encodeControl, htype, if_pos hmem, dumps, if_neg hdeep, Except.mapError]

/-- An utterance is sent on a steady link if its two messages can be written and are short enough. -/
lemma sendAudio_delivers {py : Interpreter} {audioId : JsonValue} {pcm : Bytes} {sampleRate channels : ℤ}
    {audioFormat : PyStr} (hpcm : pcm.length < 2 ^ 32) (hid : nesting audioId < py.dumpDepth)
    (hopen : (rendered (.obj (audioBegin audioId pcm sampleRate channels audioFormat chunkSize))).length
      ≤ maxFrameBytes)
    (hclose : (rendered (.obj (audioEnd audioId))).length ≤ maxFrameBytes) :
    Delivers (sendAudio py audioId pcm sampleRate channels audioFormat chunkSize)
      (wire (transferFrames (audioBegin audioId pcm sampleRate channels audioFormat chunkSize) pcm
        chunkSize (audioEnd audioId))) := by
  have hcount : chunkCount pcm.length chunkSize ≤ 2 ^ 32 := by
    rw [chunkCount, chunkSize]
    omega
  rw [sendAudio_eq]
  exact sendTransfer_delivers (by decide) (by decide) hcount (writable_audioBegin hid _ _ _ _ _).encodeControl hopen
    (writable_audioEnd hid).encodeControl hclose

/-! ## The C sender -/

lemma sdChunkCount_eq {target : Target} (data : Object target) :
    sdChunkCount target data.bytes.length = chunkCount data.bytes.length chunkSize := by
  have hle := data.length_le
  have hbig := target.le_sizeModulus
  have hmod : data.bytes.length + chunkSize - 1 < target.sizeModulus := by
    rw [Target.objectMax] at hle
    rw [chunkSize]
    omega
  rw [sdChunkCount, chunkCount, Nat.mod_eq_of_lt hmod]
  split_ifs with h
  · rw [h]
    rfl
  · exact (max_eq_right (Nat.pos_of_ne_zero h)).symm

/-- **The chunks of the two senders are the same** at the default chunk size. -/
theorem sdSendChunk_eq {target : Target} (data : Object target) {seq : ℕ}
    (hseq : seq < chunkCount data.bytes.length chunkSize) :
    sdSendChunk target data.bytes seq
      = sdFrameSend kindBinary (be32 seq ++ slice data.bytes chunkSize seq) := by
  have hle := data.length_le
  have hstart := offset_le hseq
  have hbig := target.le_sizeModulus
  have hmod : seq * chunkSize < target.sizeModulus := by
    rw [Target.objectMax] at hle
    omega
  rw [sdSendChunk, Nat.mod_eq_of_lt hmod, slice]
  congr 2
  split_ifs with h₁ h₂ h₃
  · rfl
  · rw [List.take_of_length_le (by rw [List.length_drop]),
      List.take_of_length_le (by rw [List.length_drop]; omega)]
  · omega
  · rw [List.drop_eq_nil_of_le (by omega), List.take_nil, List.take_nil]

lemma sendText_writes (cap : ℕ) (text : Bytes) :
    Writes (sendText cap text) (Frame.bytes ⟨kindJson, text⟩) := by
  rw [sendText]
  split_ifs
  · exact Writes.fail _ _
  · exact sdFrameSend_writes _ _

lemma sendText_ok {cap : ℕ} {text : Bytes} {t t' : Outbound}
    (h : (sendText cap text).run t = (.ok (), t')) :
    text.length < cap ∧ text.length ≤ maxFrameBytes := by
  rw [sendText] at h
  split_ifs at h with hcap
  · simp at h
  · exact ⟨by omega, (sdFrameSend_ok h).2⟩

/-- The frames of `sd_msg_send_image`. -/
def sdImageFrames (imageId data mediaType : Bytes) : List Frame :=
  ⟨kindJson, imageBeginText imageId data.length (chunkCount data.length chunkSize) (sdSha256Hex data)
    mediaType⟩ :: chunkFrames data chunkSize ++ [⟨kindJson, imageEndText imageId⟩]

/-- **An image that was sent** by `sd_msg_send_image` is its frames on the wire. -/
theorem sdMsgSendImage_ok {target : Target} {heap : Bool} {imageId : CStr} {data : Object target}
    {mediaType : CStr} {t t' : Outbound}
    (h : (sdMsgSendImage target heap imageId data mediaType).run t = (.ok (), t')) :
    t'.sent = t.sent ++ wire (sdImageFrames imageId.bytes data.bytes mediaType.bytes) ∧
      ∀ f ∈ sdImageFrames imageId.bytes data.bytes mediaType.bytes, Sendable f := by
  rw [sdMsgSendImage, sdChunkCount_eq] at h
  obtain ⟨_, t₁, hopen, hrest⟩ := Effect.run_bind_eq_ok.mp h
  cases heap with
  | false => simp at hrest
  | true =>
      rw [if_pos rfl] at hrest
      obtain ⟨_, t₂, hchunks, hclose⟩ := Effect.run_bind_eq_ok.mp hrest
      have hpass := Effect.run_forEach_ok hchunks
      have hwrites : ∀ seq ∈ List.range (chunkCount data.bytes.length chunkSize),
          Writes (sdSendChunk target data.bytes seq) (chunkFrame data.bytes chunkSize seq).bytes := by
        intro seq hseq
        rw [sdSendChunk_eq data (List.mem_range.mp hseq)]
        exact sdFrameSend_writes _ _
      constructor
      · rw [sendText_writes _ _ _ _ hclose, Writes.forEach hwrites _ _ hchunks,
          sendText_writes _ _ _ _ hopen, sdImageFrames, wire_append, wire_cons, wire_singleton,
          chunkFrames, wire, List.flatMap_map, List.append_assoc, List.append_assoc, List.append_assoc]
      · intro f hf
        rw [sdImageFrames, List.cons_append, List.mem_cons, List.mem_append, List.mem_singleton] at hf
        rcases hf with rfl | hf | rfl
        · exact ⟨Or.inl rfl, (sendText_ok hopen).2⟩
        · obtain ⟨seq, hseq, rfl⟩ := List.mem_map.mp hf
          obtain ⟨s₁, s₂, hrun⟩ := hpass seq hseq
          rw [sdSendChunk_eq data (List.mem_range.mp hseq)] at hrun
          exact sdFrameSend_ok hrun
        · exact ⟨Or.inl rfl, (sendText_ok hclose).2⟩

lemma sendText_delivers {cap : ℕ} {text : Bytes} (hcap : cap ≤ maxFrameBytes) (hlen : text.length < cap) :
    Delivers (sendText cap text) (Frame.bytes ⟨kindJson, text⟩) := by
  rw [sendText, if_neg (by omega)]
  exact sdFrameSend_delivers ⟨⟨kindJson, text⟩, Or.inl rfl, hlen.le.trans hcap⟩

lemma sdSendChunks_delivers {target : Target} (data : Object target) :
    Delivers (Effect.forEach (sdSendChunk target data.bytes)
      (List.range (chunkCount data.bytes.length chunkSize))) (wire (chunkFrames data.bytes chunkSize)) := by
  rw [chunkFrames, wire, List.flatMap_map]
  refine Delivers.forEach fun seq hseq => ?_
  rw [sdSendChunk_eq data (List.mem_range.mp hseq)]
  exact sdFrameSend_delivers ⟨chunkFrame data.bytes chunkSize seq, Or.inr rfl,
    (length_chunk_le _ _ _).trans (by decide)⟩

/-- **An image is sent** on a steady link if its two messages fit their buffers. -/
theorem sdMsgSendImage_delivers {target : Target} {imageId : CStr} {data : Object target}
    {mediaType : CStr} (hopen : (imageBeginText imageId.bytes data.bytes.length
      (chunkCount data.bytes.length chunkSize) (sdSha256Hex data.bytes) mediaType.bytes).length < 256)
    (hclose : (imageEndText imageId.bytes).length < 128) :
    Delivers (sdMsgSendImage target true imageId data mediaType)
      (wire (sdImageFrames imageId.bytes data.bytes mediaType.bytes)) := by
  rw [sdMsgSendImage, sdChunkCount_eq, if_pos rfl, sdImageFrames, wire_append, wire_cons, wire_singleton,
    List.append_assoc]
  exact (sendText_delivers (by decide) hopen).bind
    ((sdSendChunks_delivers data).bind (sendText_delivers (by decide) hclose))

/-! ## A refused image -/

lemma sdTransportSend_fails (buf : Bytes) : (sdTransportSend buf).FailsWith (· ≠ .invalid) := by
  intro t e t' h
  rw [sdTransportSend] at h
  rcases hwrite : writeFully t buf with ⟨stop | _, t₁⟩
  · simp only [hwrite, Prod.mk.injEq, Except.error.injEq] at h
    rw [← h.1]
    cases stop <;> decide
  · simp [hwrite] at h

/-- A frame the sender lets pass fails with an error of the transport. -/
lemma sdFrameSend_fails {kind : UInt8} {payload : Bytes} (h : Sendable ⟨kind, payload⟩) :
    (sdFrameSend kind payload).FailsWith (· ≠ .invalid) := by
  obtain ⟨hkind, hlen⟩ : (kind = kindJson ∨ kind = kindBinary) ∧ payload.length ≤ maxFrameBytes := h
  rw [sdFrameSend, if_neg (by tauto), if_neg (by omega)]
  refine (sdTransportSend_fails _).bind fun _ => ?_
  split_ifs
  · exact Effect.FailsWith.pure ()
  · exact sdTransportSend_fails payload

lemma sendText_fails {cap : ℕ} {text : Bytes} (hcap : cap ≤ maxFrameBytes) (hlen : text.length < cap) :
    (sendText cap text).FailsWith (· ≠ .invalid) := by
  rw [sendText, if_neg (by omega)]
  exact sdFrameSend_fails ⟨Or.inl rfl, hlen.le.trans hcap⟩

lemma length_sdSha256Hex (data : Bytes) : (sdSha256Hex data).length = 64 := by
  rw [sdSha256Hex, Sha256.length_hex, sdSha256, Sha256.Words.length_octets]

/-- The fixed part of an `image_begin` with its digest has 146 octets. -/
lemma length_imageBeginText (imageId : Bytes) (len chunks : ℕ) (data mediaType : Bytes) :
    (imageBeginText imageId len chunks (sdSha256Hex data) mediaType).length
      = 146 + imageId.length + mediaType.length + (decimal len).length + (decimal chunks).length := by
  have hopen : (ascii "\x7b\"type\":\"image_begin\",\"image_id\":\"").length = 34 := rfl
  have hsize : (ascii "\",\"size\":").length = 9 := rfl
  have hchunks : (ascii ",\"chunks\":").length = 10 := rfl
  have hsha : (ascii ",\"sha256\":\"").length = 11 := rfl
  have hmedia : (ascii "\",\"media_type\":\"").length = 16 := rfl
  have hclose : (ascii "\"\x7d").length = 2 := rfl
  simp only [imageBeginText, List.length_append, length_sdSha256Hex, hopen, hsize, hchunks, hsha, hmedia,
    hclose]
  omega

/-- The fixed part of an `image_end` has 34 octets. -/
lemma length_imageEndText (imageId : Bytes) : (imageEndText imageId).length = 34 + imageId.length := by
  have hopen : (ascii "\x7b\"type\":\"image_end\",\"image_id\":\"").length = 32 := rfl
  have hclose : (ascii "\"\x7d").length = 2 := rfl
  simp only [imageEndText, List.length_append, hopen, hclose]
  omega

/-- The opening message is too long for its 256 octets, or the closing one fits its 128. -/
def ClosingFits (target : Target) (imageId mediaType : Bytes) (len : ℕ) : Prop :=
  109 < imageId.length + mediaType.length + (decimal len).length +
      (decimal (sdChunkCount target len)).length ∨
    imageId.length ≤ 93

instance (target : Target) (imageId mediaType : Bytes) (len : ℕ) :
    Decidable (ClosingFits target imageId mediaType len) := inferInstanceAs (Decidable (_ ∨ _))

/-- With both messages in their buffers only the transport or the memory can fail. -/
lemma sdMsgSendImage_fails {target : Target} {heap : Bool} {imageId : CStr} {data : Object target}
    {mediaType : CStr} (hopen : (imageBeginText imageId.bytes data.bytes.length
      (sdChunkCount target data.bytes.length) (sdSha256Hex data.bytes) mediaType.bytes).length < 256)
    (hclose : (imageEndText imageId.bytes).length < 128) :
    (sdMsgSendImage target heap imageId data mediaType).FailsWith (· ≠ .invalid) := by
  refine (sendText_fails (by decide) hopen).bind fun _ => ?_
  cases heap with
  | false =>
      intro t e t' h
      obtain ⟨he, -⟩ := Prod.mk.inj h
      rw [← Except.error.inj he]
      decide
  | true =>
      refine (Effect.FailsWith.forEach fun seq hseq => ?_).bind fun _ => sendText_fails (by decide) hclose
      rw [sdChunkCount_eq, List.mem_range] at hseq
      rw [sdSendChunk_eq data hseq]
      exact sdFrameSend_fails ⟨Or.inr rfl, (length_chunk_le _ _ _).trans (by decide)⟩

/-- A closing message too long for its buffer is found out behind the chunks. -/
lemma sdMsgSendImage_halfSent {target : Target} (imageId : CStr) (data : Object target) (mediaType : CStr)
    (hopen : (imageBeginText imageId.bytes data.bytes.length (sdChunkCount target data.bytes.length)
      (sdSha256Hex data.bytes) mediaType.bytes).length < 256)
    (hclose : 128 ≤ (imageEndText imageId.bytes).length) {t : Outbound} (ht : t.Steady) :
    ∃ t', (sdMsgSendImage target true imageId data mediaType).run t = (.error .invalid, t') ∧
      t'.sent = t.sent ++ wire (sdImageFrames imageId.bytes data.bytes mediaType.bytes).dropLast := by
  rw [sdChunkCount_eq] at hopen
  obtain ⟨t', hrun, hsent, -⟩ := (((sendText_delivers (by decide) hopen).bind
    (sdSendChunks_delivers data))) t ht
  obtain ⟨_, t₁, hbegin, hchunks⟩ := Effect.run_bind_eq_ok.mp hrun
  refine ⟨t', ?_, ?_⟩
  · rw [sdMsgSendImage, sdChunkCount_eq, Effect.run_bind_ok hbegin, if_pos rfl, Effect.run_bind_ok hchunks,
      sendText, if_pos hclose, Effect.run_fail]
  · rw [hsent, sdImageFrames, List.dropLast_concat, wire_cons]

/-- **When a refusal sends nothing.**  For all arguments, `sd_msg_send_image` has written nothing on any
transport whenever it returns `SD_ERR_INVALID`, exactly if the opening message does not fit its buffer
or the image id has at most 93 octets. -/
theorem refusal_silent_iff (target : Target) (imageId : CStr) (data : Object target) (mediaType : CStr) :
    (∀ heap t t', (sdMsgSendImage target heap imageId data mediaType).run t = (.error .invalid, t') →
      t'.sent = t.sent) ↔ ClosingFits target imageId.bytes mediaType.bytes data.bytes.length := by
  have hopen := length_imageBeginText imageId.bytes data.bytes.length
    (sdChunkCount target data.bytes.length) data.bytes mediaType.bytes
  have hclose := length_imageEndText imageId.bytes
  constructor
  · intro h
    by_contra hlong
    rw [ClosingFits, not_or] at hlong
    obtain ⟨t', hrun, hsent⟩ := sdMsgSendImage_halfSent imageId data mediaType (by omega) (by omega)
      (Outbound.steady_fresh [])
    rw [h _ _ _ hrun] at hsent
    have hlen := congrArg List.length hsent
    rw [sdImageFrames, List.dropLast_concat, wire_cons] at hlen
    simp [Frame.bytes] at hlen
  · rintro h heap t t' hrun
    by_cases hfit : 146 + imageId.bytes.length + mediaType.bytes.length +
        (decimal data.bytes.length).length + (decimal (sdChunkCount target data.bytes.length)).length < 256
    · have hshort : imageId.bytes.length ≤ 93 := h.resolve_left (by omega)
      exact absurd rfl (sdMsgSendImage_fails (by omega) (by omega) t _ t' hrun)
    · rw [sdMsgSendImage, sendText, if_pos (by omega)] at hrun
      rw [← (Prod.mk.inj hrun).2]

/-- An image id of 94 octets. -/
def longId : CStr := ⟨List.replicate 94 (oct 'a'), by decide⟩

/-- Two octets of an image. -/
def smallImage : Object .esp32 := ⟨ascii "ab", by decide⟩

/-- **A refused image is half sent**: the opening message and the chunk stand on the wire, and no closing
message. -/
theorem refused_half_sent : ∃ t', (sdMsgSendImage .esp32 true longId smallImage
      ⟨ascii "image/jpeg", by decide⟩).run (.fresh []) = (.error .invalid, t') ∧
    t'.sent = wire [⟨kindJson, imageBeginText longId.bytes 2 1 (sdSha256Hex (ascii "ab"))
        (ascii "image/jpeg")⟩, ⟨kindBinary, be32 0 ++ ascii "ab"⟩] := by
  have hcount : sdChunkCount .esp32 smallImage.bytes.length = 1 := by decide
  have hlen : smallImage.bytes.length = 2 := rfl
  obtain ⟨t', hrun, hsent⟩ := sdMsgSendImage_halfSent longId smallImage ⟨ascii "image/jpeg", by decide⟩
    (by rw [length_imageBeginText, hcount, hlen]; decide) (by rw [length_imageEndText]; decide)
    (Outbound.steady_fresh [])
  refine ⟨t', hrun, ?_⟩
  have hchunks : chunkFrames smallImage.bytes chunkSize = [⟨kindBinary, be32 0 ++ ascii "ab"⟩] := by
    rw [chunkFrames, ← sdChunkCount_eq, hcount]
    rfl
  rw [hsent, sdImageFrames, ← sdChunkCount_eq, hcount, hchunks]
  rfl

end Sudonit
