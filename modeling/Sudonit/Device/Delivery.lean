import Sudonit.Core.Cuts
import Sudonit.Device.Turn
import Sudonit.Phone.Uplink
import Sudonit.Protocol.RoundTrip

/-!
# The downlink over a link that may fail

The glasses read what the phone sends; the link may cut it short anywhere, deliver it in any pieces, time
out or fail.

* `replyLoop_answer`, `replyLoop_utterance` — what the reply loop reads is what was sent next.
* `shown_answer` — what an answer is shown as.
* `audioFields_announced`, `Plays.utterance` — what is played is the utterance that was sent.
-/

namespace Sudonit

open Octets Stream Frames CText Python Chunks

/-! ## Reading what was sent next -/

/-- A control message received is the next one sent. -/
lemma sdMsgRecv_next {m : PhoneMsg} (hm : m.text.length < 2 ^ 32) {heap : Bool} {typeBuf : Buffer 32}
    {textOut out rest : Bytes} {t t' : Inbound} {type : MsgType}
    (hb : t.bytes <+: Frame.bytes ⟨kindJson, m.text⟩ ++ rest)
    (h : sdMsgRecv heap typeBuf textOut t = some (.ok type, out, t')) :
    ¬ Collides (ascii "type") m.freeText ∧ type = m.msgType ∧
      out = handed (classify m.typeWord) (m.text ++ [0]) (textOut.set 0 0) ∧ t'.bytes <+: rest := by
  obtain ⟨f, word, hrecv, -, hname, rfl, rfl⟩ := sdMsgRecv_ok h
  rw [sdFrameRecv_eq] at hrecv
  obtain ⟨rfl, hrest⟩ := receiveFrame_next hm hb hrecv
  rw [typeName_text] at hname
  split_ifs at hname with hcol
  obtain rfl := Option.some.inj hname
  exact ⟨hcol, classify_typeWord m, rfl, hrest⟩

section Loop

variable {rig : Rig} {cap n : ℕ} {g g' : Glasses} {turnEnd : TurnEnd}

/-- A loop that came to its end went through its first pass. -/
lemma replyLoop_ok (h : replyLoop rig cap n g = (.ok turnEnd, g')) :
    (replyPass rig cap n).run g = (.ok (some turnEnd), g') ∨
      ∃ g₁, (replyPass rig cap n).run g = (.ok none, g₁) ∧ replyLoop rig cap (n + 1) g₁ = (.ok turnEnd, g') := by
  rw [replyLoop] at h
  split at h
  · simp at h
  · rename_i hpass
    obtain ⟨hend, rfl⟩ := Prod.mk.inj h
    exact Or.inl (Except.ok.inj hend ▸ hpass)
  · rename_i hpass
    exact Or.inr ⟨_, hpass, h⟩

/-- At the end of the stream the loop does not come to its end. -/
lemma replyLoop_nothing (hb : g.conn.bytes = []) : replyLoop rig cap n g ≠ (.ok turnEnd, g') := by
  have hfail : ∀ stop g₁, (replyPass rig cap n).run g ≠ (.ok stop, g₁) := by
    intro stop g₁ hpass
    obtain ⟨type, text, hrecv, -⟩ := replyPass_ok hpass
    have hless := sdMsgRecv_consumes hrecv
    simp [hb] at hless
  intro h
  rcases replyLoop_ok h with hpass | ⟨g₁, hpass, -⟩
  · exact hfail _ _ hpass
  · exact hfail _ _ hpass

/-- **The answer is read as what it is**, and handed to the application. -/
theorem replyLoop_answer {text : PyStr} (hlen : (PhoneMsg.aiResponse text).text.length < 2 ^ 32) {rest : Bytes}
    (hb : g.conn.bytes <+: Frame.bytes ⟨kindJson, (PhoneMsg.aiResponse text).text⟩ ++ rest)
    (h : replyLoop rig cap n g = (.ok turnEnd, g')) :
    ∃ s t, cstring (handed (.aiResponse, some (ascii "text")) ((PhoneMsg.aiResponse text).text ++ [0])
        ((rig.textBuf n).bytes.set 0 0)) = some s ∧ t.bytes <+: rest ∧
      replyLoop rig cap (n + 1) { g with
        conn := t
        responseBytes := s.length
        response := if cap = 0 then g.response else s.take (cap - 1) } = (.ok turnEnd, g') := by
  have hnext : ∀ stop g₁, (replyPass rig cap n).run g = (.ok stop, g₁) → stop = none ∧ ∃ s t,
      cstring (handed (.aiResponse, some (ascii "text")) ((PhoneMsg.aiResponse text).text ++ [0])
        ((rig.textBuf n).bytes.set 0 0)) = some s ∧ t.bytes <+: rest ∧
      g₁ = { g with
        conn := t
        responseBytes := s.length
        response := if cap = 0 then g.response else s.take (cap - 1) } := by
    intro stop g₁ hpass
    obtain ⟨type, out, hrecv, -⟩ := replyPass_ok hpass
    obtain ⟨-, rfl, hout, hrest⟩ := sdMsgRecv_next hlen hb hrecv
    have htype : (PhoneMsg.aiResponse text).msgType = .aiResponse := rfl
    have hclass : classify (PhoneMsg.aiResponse text).typeWord = (.aiResponse, some (ascii "text")) := rfl
    rw [hclass] at hout
    simp only [replyPass, Effect.run_bind, recvReply, hrecv, htype, handResponse] at hpass
    cases hs : cstring out with
    | none => simp [hs] at hpass
    | some s =>
        simp only [hs, Effect.run_pure, Prod.mk.injEq, Except.ok.injEq] at hpass
        obtain ⟨rfl, hg₁⟩ := hpass
        exact ⟨rfl, s, g₁.conn, hout ▸ hs, hrest, hg₁.symm⟩
  rcases replyLoop_ok h with hpass | ⟨g₁, hpass, hloop⟩
  · exact absurd (hnext _ _ hpass).1 (by simp)
  · obtain ⟨-, s, t, hs, ht, rfl⟩ := hnext _ _ hpass
    exact ⟨s, t, hs, ht, hloop⟩

/-- **The announcement of an utterance ends the loop.** -/
theorem replyLoop_utterance {audioId : PyStr} {pcm : Bytes} {sampleRate channels : ℤ}
    (hlen : (PhoneMsg.audioBegin audioId pcm sampleRate channels).text.length < 2 ^ 32) {rest : Bytes}
    (hb : g.conn.bytes <+: Frame.bytes ⟨kindJson, (PhoneMsg.audioBegin audioId pcm sampleRate channels).text⟩ ++
      rest) (h : replyLoop rig cap n g = (.ok turnEnd, g')) :
    turnEnd = .audioBegin (handed (.audioBegin, none)
        ((PhoneMsg.audioBegin audioId pcm sampleRate channels).text ++ [0]) ((rig.textBuf n).bytes.set 0 0)) ∧
      g'.conn.bytes <+: rest ∧ g' = { g with conn := g'.conn } := by
  have hnext : ∀ stop g₁, (replyPass rig cap n).run g = (.ok stop, g₁) →
      stop = some (.audioBegin (handed (.audioBegin, none)
        ((PhoneMsg.audioBegin audioId pcm sampleRate channels).text ++ [0])
        ((rig.textBuf n).bytes.set 0 0))) ∧ g₁.conn.bytes <+: rest ∧ g₁ = { g with conn := g₁.conn } := by
    intro stop g₁ hpass
    obtain ⟨type, out, hrecv, -⟩ := replyPass_ok hpass
    obtain ⟨-, rfl, hout, hrest⟩ := sdMsgRecv_next hlen hb hrecv
    have htype : (PhoneMsg.audioBegin audioId pcm sampleRate channels).msgType = .audioBegin := rfl
    have hclass : classify (PhoneMsg.audioBegin audioId pcm sampleRate channels).typeWord
        = (.audioBegin, none) := rfl
    rw [hclass] at hout
    simp only [replyPass, Effect.run_bind, recvReply, hrecv, htype, Effect.run_pure, Prod.mk.injEq,
      Except.ok.injEq] at hpass
    exact ⟨by rw [← hpass.1, hout], hrest, hpass.2.symm⟩
  rcases replyLoop_ok h with hpass | ⟨g₁, hpass, -⟩
  · obtain ⟨hend, hrest, hg'⟩ := hnext _ _ hpass
    exact ⟨Option.some.inj hend, hrest, hg'⟩
  · exact absurd (hnext _ _ hpass).1 (by simp)

end Loop

/-! ## The text shown -/

/-- Only U+0000 has a zero octet in its encoding. -/
lemma zero_notMem_encodeChar {c : Char} (h : c ≠ '\x00') : 0 ∉ String.utf8EncodeChar c := by
  obtain ⟨lead, tail, hc, -, htail, hlen⟩ := Utf8.encodeChar_shape c
  intro hzero
  rw [hc, List.mem_cons] at hzero
  rcases hzero with rfl | hzero
  · have htail : tail = [] := List.length_eq_zero_iff.mp (Nat.succ_injective hlen)
    rw [htail, String.utf8EncodeChar] at hc
    split_ifs at hc with h₁
    · have hval : UInt8.ofNat c.val.toNat = 0 := (List.cons.inj hc).1
      have hnat := congrArg UInt8.toNat hval
      rw [UInt8.toNat_ofNat', Nat.mod_eq_of_lt (by omega)] at hnat
      exact h (Char.ext (UInt32.toNat_inj.mp hnat))
    all_goals simp at hc
  · exact absurd (htail 0 hzero) (by decide)

lemma zero_notMem_encode {s : List Char} (hs : '\x00' ∉ s) : 0 ∉ Utf8.encode s := by
  intro hzero
  obtain ⟨c, hc, hmem⟩ := List.mem_flatMap.mp hzero
  exact zero_notMem_encodeChar (fun h => hs (h ▸ hc)) hmem

/-- An answer of scalar values that fits the text buffer is shown as its UTF-8. -/
lemma shown_answer {s : List Char} (hs : '\x00' ∉ s) (hlen : (Utf8.encode s).length < 1024)
    (textBuf : Buffer 1024) :
    cstring (handed (.aiResponse, some (ascii "text")) ((PhoneMsg.aiResponse (ofChars s)).text ++ [0])
      (textBuf.bytes.set 0 0)) = some (Utf8.encode s) := by
  have hout : textBuf.bytes.set 0 0 ≠ [] := by
    intro hnil
    have := textBuf.length_eq
    rw [List.set_eq_nil_iff] at hnil
    simp [hnil] at this
  have hfirst : ∀ m ∈ ([] : List (PyStr × JsonValue)), Passes (ascii "text") m := by simp
  have hfield := textField_ofChars (show Word (ascii "text") by decide) hfirst hs
    [(str "type", .str (str "ai_response"))] []
  have htext : (PhoneMsg.aiResponse (ofChars s)).text = flatText ([] ++ (ofBytes (ascii "text"),
    .str (ofChars s)) :: [(str "type", .str (str "ai_response"))]) := rfl
  rw [← htext] at hfield
  have hroom : ([] : Bytes).length + ((ofChars s).map fun c => utf8 c.val).flatten.length
      < (textBuf.bytes.set 0 0).length := by
    rw [flatten_utf8_ofChars, List.length_set, textBuf.length_eq, List.length_nil]
    omega
  rw [handed, if_neg hout, if_neg (by simp)]
  simp only [textAfter, hfield, written, if_true]
  rw [foldl_put_fits hroom, flatten_utf8_ofChars, List.nil_append, overlay_terminated,
    cstring_append (zero_notMem_encode hs)]

/-! ## The announcement of an utterance -/

/-- The announcement that the phone makes of an utterance for an image of the glasses. -/
def announcement (imageId : Bytes) (pcm : Pcm) : PhoneMsg :=
  .audioBegin (ofBytes imageId) pcm.data pcm.sampleRate pcm.channels

section Announcement

variable {imageId : Bytes} (hid : AllBare imageId) (pcm : Pcm)

lemma announcement_text {image : ReceivedImage} (himage : image.imageId = .str (ofBytes imageId)) (pcm : Pcm) :
    rendered (.obj (audioOpening image pcm)) = (announcement imageId pcm).text := by
  rw [audioOpening, himage]
  exact (encodeControl_ok (encodeControl_phoneMsg usualInterpreter (announcement imageId pcm))).symm

lemma zero_notMem_announcement (imageId : Bytes) (pcm : Pcm) : 0 ∉ (announcement imageId pcm).text :=
  zero_notMem_of_printable (allPrintable_flatText _)

include hid

/-- A name of the glasses holds a quoted key only by being it. -/
lemma collides_bare (k : Bytes) : Collides k (ofBytes imageId) ↔ imageId = k := by
  constructor
  · rintro (h | h)
    · exact ofBytes_injective h
    · obtain ⟨b, hb, heq⟩ := List.mem_map.mp (h.subset List.mem_cons_self)
      rw [ofByte_eq_cp] at heq
      rw [heq] at hb
      exact absurd (hid _ hb) (by decide)
  · rintro rfl
    exact Or.inl rfl

lemma clear_announcement (hkeys : imageId ∉ audioKeys) : (announcement imageId pcm).Clear := by
  have hchannels : (pcm.channels : ℤ) < 2 ^ 32 := by
    have := pcm.channels_lt
    omega
  refine ⟨?_, pcm.length_lt, ⟨by omega, by exact_mod_cast pcm.sampleRate_lt⟩, by omega, hchannels⟩
  intro k hk
  rw [collides_bare hid]
  rintro rfl
  exact hkeys hk

/-- The announcement fits the text of the reply loop. -/
lemma length_announcement (hlen : imageId.length < 256) : (announcement imageId pcm).text.length < 1024 := by
  have hdecimal : ∀ n : ℕ, n < 2 ^ 32 → (rendered (.int n)).length ≤ 10 := by
    intro n hn
    rw [rendered_natCast, length_decimal_le (by decide)]
    omega
  have hchannels := hdecimal pcm.channels (by have := pcm.channels_lt; omega)
  have hrate := hdecimal pcm.sampleRate pcm.sampleRate_lt
  have hsize := hdecimal pcm.data.length pcm.length_lt
  have hchunks := hdecimal (chunkCount pcm.data.length chunkSize) (by
    have := pcm.length_lt
    rw [chunkCount, chunkSize]
    omega)
  have hsha : (rendered (.str (ofBytes (Sha256.hexdigest pcm.data)))).length = 66 :=
    length_quoted_hexdigest pcm.data
  have hname : (rendered (.str (ofBytes imageId))).length = imageId.length + 2 := length_quoted hid
  have hfixed : (quoted (str "audio_id")).length + (quoted (str "channels")).length +
      (quoted (str "chunks")).length + (quoted (str "format")).length + (rendered (.str defaultFormat)).length +
      (quoted (str "sample_rate")).length + (quoted (str "sha256")).length + (quoted (str "size")).length +
      (quoted (str "type")).length + (rendered (.str (ofBytes (ascii "audio_begin")))).length ≤ 120 := by decide
  have htext : (announcement imageId pcm).text = flatText [(str "audio_id", .str (ofBytes imageId)),
      (str "channels", .int pcm.channels), (str "chunks", .int (chunkCount pcm.data.length chunkSize)),
      (str "format", .str defaultFormat), (str "sample_rate", .int pcm.sampleRate),
      (str "sha256", .str (ofBytes (Sha256.hexdigest pcm.data))), (str "size", .int pcm.data.length),
      (str "type", .str (ofBytes (ascii "audio_begin")))] := rfl
  rw [htext, length_flatText (List.cons_ne_nil _ _)]
  simp only [List.map_cons, List.map_nil, List.sum_cons, List.sum_nil]
  omega

end Announcement

/-! ## The utterance -/

/-- A number that is read is the field. -/
lemma uintField_of_reads {json key : Bytes} {n : ℤ} (h : ReadsUint json key n) (hn : n < 2 ^ 32) :
    ∃ v, uintField json key = .ok v ∧ (v.toNat : ℤ) = n := by
  obtain ⟨v, hread, rfl⟩ := h
  refine ⟨UInt32.ofNat v, by rw [uintField, hread], ?_⟩
  rw [UInt32.toNat_ofNat', Nat.mod_eq_of_lt (by omega)]

lemma shaField_of_reads {json s : Bytes} (h : ReadsText 65 json (ascii "sha256") s) (shaBuf : Buffer 65) :
    ∃ sha, shaField shaBuf json = .ok sha ∧ sha.bytes = s := by
  obtain ⟨out, hread, hout⟩ := h shaBuf
  rw [cstring] at hout
  split_ifs at hout with hzero
  refine ⟨⟨out.takeWhile (· ≠ 0), fun h => by simpa using List.mem_takeWhile_imp h⟩, ?_, Option.some.inj hout⟩
  simp only [shaField, hread, CStr.read, if_pos hzero]

/-- **The fields read off the announcement of an utterance are its own.** -/
theorem audioFields_announced {audioId : PyStr} {pcm : Bytes} {sampleRate channels : ℤ}
    (hclear : (PhoneMsg.audioBegin audioId pcm sampleRate channels).Clear) (shaBuf : Buffer 65)
    (junk : Bytes) : ∃ fields, audioFields shaBuf
        ((PhoneMsg.audioBegin audioId pcm sampleRate channels).text ++ 0 :: junk) = .ok fields ∧
      fields.size.toNat = pcm.length ∧ fields.chunks.toNat = chunkCount pcm.length chunkSize ∧
      (fields.sampleRate.toNat : ℤ) = sampleRate ∧ (fields.channels.toNat : ℤ) = channels ∧
      fields.sha.bytes = Sha256.hexdigest pcm := by
  obtain ⟨hkeys, hlen, hrate, hchannels⟩ := hclear
  have hcount : chunkCount pcm.length chunkSize < 2 ^ 32 := by
    rw [chunkCount, chunkSize]
    omega
  have hread := (fieldsRead_audioBegin_iff audioId pcm sampleRate channels junk).mpr
    ⟨fun k hk => hkeys k (List.mem_of_mem_tail hk), hlen, hrate, hchannels⟩
  obtain ⟨hsize, hchunks, hrateRead, hchannelsRead, hsha⟩ := hread
  obtain ⟨size, hsize, hsizeVal⟩ := uintField_of_reads hsize (by omega)
  obtain ⟨chunks, hchunks, hchunksVal⟩ := uintField_of_reads hchunks (by omega)
  obtain ⟨rate, hrateRead, hrateVal⟩ := uintField_of_reads hrateRead hrate.2
  obtain ⟨chans, hchannelsRead, hchannelsVal⟩ := uintField_of_reads hchannelsRead hchannels.2
  obtain ⟨sha, hsha, hshaVal⟩ := shaField_of_reads hsha shaBuf
  refine ⟨⟨size, chunks, rate, chans, sha⟩, ?_, by exact_mod_cast hsizeVal, by exact_mod_cast hchunksVal,
    hrateVal, hchannelsVal, hshaVal⟩
  rw [audioFields, hsize, hchunks, hrateRead, hchannelsRead, hsha]
  rfl

/-- The fields that the glasses read off the announcement of an utterance for an image of theirs. -/
lemma audioFields_announcement {imageId : Bytes} (hid : AllBare imageId) (hkeys : imageId ∉ audioKeys)
    (pcm : Pcm) (shaBuf : Buffer 65) (junk : Bytes) : ∃ fields,
      audioFields shaBuf ((announcement imageId pcm).text ++ 0 :: junk) = .ok fields ∧
      fields.size.toNat = pcm.data.length ∧ fields.chunks.toNat = chunkCount pcm.data.length chunkSize ∧
      fields.sampleRate.toNat = pcm.sampleRate ∧ fields.channels.toNat = pcm.channels ∧
      (2 * fields.channels).toNat = 2 * pcm.channels ∧ fields.sha.bytes = Sha256.hexdigest pcm.data := by
  obtain ⟨fields, hfields, hsize, hchunks, hrate, hchannels, hsha⟩ :=
    audioFields_announced (clear_announcement hid pcm hkeys) shaBuf junk
  rw [Int.natCast_inj] at hrate hchannels
  have hdouble : (2 * fields.channels).toNat = 2 * fields.channels.toNat % 2 ^ 32 := by
    rw [UInt32.toNat_mul]
    rfl
  have hlt := pcm.channels_lt
  refine ⟨fields, hfields, hsize, hchunks, hrate, hchannels, ?_, hsha⟩
  rw [hdouble, hchannels, Nat.mod_eq_of_lt (by omega)]

/-- A chunk frame of an utterance. -/
lemma chunkFrames_kind {data : Bytes} {cs : ℕ} : ∀ f ∈ chunkFrames data cs, f.payload.length ≤ 4 + cs := by
  intro f hf
  obtain ⟨seq, -, rfl⟩ := List.mem_map.mp hf
  exact length_chunk_le _ _ _

/-- **What is played is the utterance sent**: if the body received stood on the stream behind a true
announcement, the samples are those sent, whatever the link did. -/
theorem Plays.utterance {rig : Rig} {beginJson : Bytes} {g g' : Glasses} {r : Except Halt Unit}
    {fields : AudioFields} {call : PlayCall} (h : Plays rig beginJson g r g' fields call) {pcm : Bytes}
    (hsize : fields.size.toNat = pcm.length) (hchunks : fields.chunks.toNat = chunkCount pcm.length chunkSize)
    {closing : Frame} (hclosing : closing.payload.length < 2 ^ 32) {rest : Bytes}
    (hb : g.conn.bytes <+: wire (chunkFrames pcm chunkSize ++ [closing]) ++ rest) :
    call.pcm = pcm ∧ g'.conn.bytes <+: rest := by
  obtain ⟨buffer, hbuffer, hbody⟩ := h.received
  obtain ⟨-, fs, haudio, hpcm, -⟩ := (recvAudioBody_ok_iff hbuffer).mp hbody
  obtain ⟨t₁, f, hrecv, hlast, -⟩ := haudio.received
  have hchunk : ∀ f ∈ chunkFrames pcm chunkSize, f.payload.length < 2 ^ 32 :=
    fun f hf => lt_of_le_of_lt (chunkFrames_kind f hf) (by decide)
  have hcount : (chunkFrames pcm chunkSize).length = fields.chunks.toNat := by
    rw [chunkFrames, List.length_map, List.length_range, hchunks]
  rw [wire_append, wire_singleton, List.append_assoc] at hb
  rw [sdFrameRecv_eq, ← hcount] at hrecv
  obtain ⟨rfl, hafter⟩ := receive_next hchunk hb hrecv
  rw [sdFrameRecv_eq] at hlast
  obtain ⟨-, hend⟩ := receiveFrame_next hclosing hafter hlast
  have hseq : ∀ seq < chunkCount pcm.length chunkSize, seq < 2 ^ 32 := by
    have := fields.chunks.toNat_lt
    intro seq hseq
    omega
  refine ⟨?_, h.conn ▸ hend⟩
  rw [hpcm, chunksOf_chunkFrames hseq]
  exact writeAll_slices (by decide) (hbuffer.trans hsize) (length_le_chunkCount (by decide) _)
    (fun i hi => offset_le hi) (List.Perm.refl _)

end Sudonit
