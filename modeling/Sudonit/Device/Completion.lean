import Sudonit.Device.Delivery

/-!
# Turns over a link that does not fail

Where the memory suffices and the link does not fail, a turn of the glasses comes to its end.

* `replyLoop_answered` — the loop reads the answer and stops at the announcement of the utterance.
* `recvAudioBody_whole` — the samples arrive.
* `playAudioDownlink_completes` — the backend gets them.
-/

namespace Sudonit

open Octets Stream Frames CText Python Chunks

/-- Every allocation of a turn succeeds. -/
structure Ample (rig : Rig) : Prop where
  sendHeap : rig.sendHeap = true
  recvHeap : ∀ n, rig.recvHeap n = true
  bodyHeap : rig.bodyHeap = true
  sampleHeap : ∀ n, ∃ buffer, rig.sampleHeap n = some buffer

/-! ## The reply loop -/

section Loop

variable {rig : Rig} {cap n : ℕ} {g g' : Glasses}

lemma replyLoop_next (h : (replyPass rig cap n).run g = (.ok none, g')) :
    replyLoop rig cap n g = replyLoop rig cap (n + 1) g' := by
  rw [replyLoop]
  split <;> simp_all

/-- The text handed over with an answer is terminated. -/
lemma handed_answer (text : PyStr) (hclear : ¬ Collides (ascii "type") text) (textBuf : Buffer 1024) :
    ∃ shown, cstring (handed (.aiResponse, some (ascii "text")) ((PhoneMsg.aiResponse text).text ++ [0])
      (textBuf.bytes.set 0 0)) = some shown := by
  have hne : textBuf.bytes ≠ [] := by
    intro h
    have := textBuf.length_eq
    simp [h] at this
  have htype : typeName ((PhoneMsg.aiResponse text).text ++ [0]) = some (ascii "ai_response") := by
    rw [typeName_text, PhoneMsg.freeText, if_neg hclear]
    rfl
  -- The text was read to its end, so it is not cut inside an escape.
  have hwhole : ¬ CutText ((PhoneMsg.aiResponse text).text ++ [0]) textBuf.bytes := by
    rintro ⟨key, c, hkey, hfield, hcut, -⟩
    obtain ⟨c', hc', hcomplete⟩ := textField_answer text []
    rw [textKey, htype, Option.bind_some] at hkey
    obtain rfl : ascii "text" = key := Option.some.inj hkey
    rw [hc', Option.some.injEq] at hfield
    rw [← hfield, hcomplete] at hcut
    simp at hcut
  have hterminated := (handed_terminated_iff hne htype).mpr hwhole
  exact ⟨_, if_pos hterminated⟩

/-- **The loop reads the answer and stops at the announcement**, and what follows is still to be read. -/
theorem replyLoop_answered (hrig : ∀ n, rig.recvHeap n = true) (hs : g.conn.Steady) {text : PyStr}
    (hclear : ¬ Collides (ascii "type") text) (hfit : (PhoneMsg.aiResponse text).text.length ≤ msgRecvCap)
    {audioId : PyStr} {pcm : Bytes} {sampleRate channels : ℤ} (hid : ¬ Collides (ascii "type") audioId)
    (hfits : (PhoneMsg.audioBegin audioId pcm sampleRate channels).text.length ≤ msgRecvCap) {rest : Bytes}
    (hb : g.conn.bytes = Frame.bytes ⟨kindJson, (PhoneMsg.aiResponse text).text⟩ ++
      (Frame.bytes ⟨kindJson, (PhoneMsg.audioBegin audioId pcm sampleRate channels).text⟩ ++ rest)) :
    ∃ g', replyLoop rig cap n g = (.ok (.audioBegin (handed (.audioBegin, none)
        ((PhoneMsg.audioBegin audioId pcm sampleRate channels).text ++ [0])
        ((rig.textBuf (n + 1)).bytes.set 0 0))), g') ∧
      g'.conn.bytes = rest ∧ g'.conn.Steady ∧ g'.audio = g.audio := by
  obtain ⟨t, hrest, ht, hmsg⟩ := sdMsgRecv_phoneMsg (.aiResponse text) hfit (rig.typeBuf n)
    (rig.textBuf n).bytes hs hb
  have hword : classify (PhoneMsg.aiResponse text).typeWord = (.aiResponse, some (ascii "text")) := rfl
  have hkind : (PhoneMsg.aiResponse text).msgType = .aiResponse := rfl
  rw [PhoneMsg.freeText, if_neg hclear, hkind, hword, ← hrig n] at hmsg
  obtain ⟨shown, hshown⟩ := handed_answer text hclear (rig.textBuf n)
  have hpass : (replyPass rig cap n).run g = (.ok none, { g with
      conn := t
      responseBytes := shown.length
      response := if cap = 0 then g.response else shown.take (cap - 1) }) := by
    simp only [replyPass, Effect.run_bind, recvReply, hmsg, handResponse, hshown, Effect.run_pure]
  obtain ⟨t', hrest', ht', hmsg'⟩ := sdMsgRecv_phoneMsg (.audioBegin audioId pcm sampleRate channels) hfits
    (rig.typeBuf (n + 1)) (rig.textBuf (n + 1)).bytes ht hrest
  have hword' : classify (PhoneMsg.audioBegin audioId pcm sampleRate channels).typeWord = (.audioBegin, none) :=
    rfl
  have hkind' : (PhoneMsg.audioBegin audioId pcm sampleRate channels).msgType = .audioBegin := rfl
  rw [PhoneMsg.freeText, if_neg hid, hkind', hword', ← hrig (n + 1)] at hmsg'
  rw [replyLoop_next hpass]
  refine ⟨{ g with
    conn := t'
    responseBytes := shown.length
    response := if cap = 0 then g.response else shown.take (cap - 1) }, replyLoop_stop ?_, hrest', ht', rfl⟩
  simp only [replyPass, Effect.run_bind, recvReply, hmsg', Effect.run_pure]

end Loop

/-! ## The utterance -/

/-- **The samples arrive**: the chunk frames of an utterance and a closing frame, read with what was
announced, fill the buffer with it. -/
theorem recvAudioBody_whole {pcm : Bytes} (hpcm : pcm.length < 2 ^ 32) {chunks size : UInt32}
    (hsize : size.toNat = pcm.length) (hchunks : chunks.toNat = chunkCount pcm.length chunkSize) {sha : CStr}
    (hsha : sha.bytes = Sha256.hexdigest pcm) {closing : Frame} (hkind : closing.kind = kindJson)
    (hclosing : closing.payload.length ≤ frameCap) (target : Target) {buf : Bytes}
    (hbuf : buf.length = size.toNat) {t : Inbound} (ht : t.Steady) {rest : Bytes}
    (hb : t.bytes = wire (chunkFrames pcm chunkSize ++ [closing]) ++ rest) :
    ∃ t', sdMsgRecvAudioBody target true chunks size sha buf t = some (.ok (), pcm, t') ∧ t'.bytes = rest := by
  have hseq : ∀ seq < chunkCount pcm.length chunkSize, seq < 2 ^ 32 := by
    have hlt := chunks.toNat_lt
    intro seq hseq
    omega
  have hslices := chunksOf_chunkFrames hseq
  have hall : pcm.length ≤ chunkCount pcm.length chunkSize * chunkSize := length_le_chunkCount (by decide) _
  have hlast : ∀ i < chunkCount pcm.length chunkSize, i * chunkSize ≤ pcm.length := fun i hi => offset_le hi
  have htiling := tiling_slices hall hlast
  have hfits : ∀ f ∈ chunkFrames pcm chunkSize, ChunkFrame size.toNat f := by
    intro f hf
    have hfit := htiling.fits (chunkOf f.payload) (hslices ▸ List.mem_map_of_mem hf)
    obtain ⟨seq, -, rfl⟩ := List.mem_map.mp hf
    exact ⟨rfl, by rw [chunkFrame, List.length_append, length_be32]; omega, hsize ▸ hfit⟩
  have htotal : carried (chunkFrames pcm chunkSize) % target.sizeModulus = size.toNat := by
    have hmod := target.le_sizeModulus
    rw [carried, hslices, htiling.total, Nat.mod_eq_of_lt (by omega), hsize]
  have hcount : (chunkFrames pcm chunkSize).length = chunks.toNat := by
    rw [chunkFrames, List.length_map, List.length_range, hchunks]
  obtain ⟨t', hbody, hrest, -⟩ := audioBody_wire hcount hfits htotal hkind hclosing ht hb
  have hfill : writeAll chunkSize buf (chunksOf (chunkFrames pcm chunkSize)) = pcm :=
    writeAll_slices (by decide) (hbuf.trans hsize) hall hlast (hslices ▸ List.Perm.refl _)
  refine ⟨t', (recvAudioBody_ok_iff hbuf).mpr ⟨rfl, _, hbody, hfill.symm, ?_⟩, hrest⟩
  rw [sdSha256Hex_eq (by omega), hsha]

/-- The backend takes this utterance. -/
def Takes (rig : Rig) (audio : AudioState) (pcm : Pcm) : Prop :=
  ∃ audio₁ audio₂, (sdAudioInit rig.backend pcm.sampleRate (UInt8.ofNat pcm.channels)).run audio
      = (.ok (), audio₁) ∧
    (sdAudioPlayPcm rig.target rig.backend pcm.data (pcm.data.length / (2 * pcm.channels))).run audio₁
      = (.ok (), audio₂)

/-- **The backend gets the utterance.** -/
theorem playAudioDownlink_completes {rig : Rig} (hrig : Ample rig) {imageId : Bytes} (hid : AllBare imageId)
    (hkeys : imageId ∉ audioKeys) {pcm : Pcm} {junk : Bytes} {g : Glasses} (htakes : Takes rig g.audio pcm)
    {closing : Frame} (hkind : closing.kind = kindJson) (hclosing : closing.payload.length ≤ frameCap)
    (hs : g.conn.Steady) (hb : g.conn.bytes = wire (chunkFrames pcm.data chunkSize ++ [closing])) :
    ∃ g', (playAudioDownlink rig ((announcement imageId pcm).text ++ 0 :: junk)).run g = (.ok (), g') := by
  obtain ⟨audio₁, audio₂, hinit, hplay⟩ := htakes
  obtain ⟨fields, hfields, hsize, hchunks, hrate, hchannels, hdivisor, hsha⟩ :=
    audioFields_announcement hid hkeys pcm rig.shaBuf junk
  have hnarrow : UInt8.ofNat pcm.channels = fields.channels.toUInt8 := by
    rw [← hchannels, ← UInt8.toNat_inj, UInt32.toNat_toUInt8, UInt8.toNat_ofNat']
  rw [hnarrow, ← hrate] at hinit
  have hdiv := divisor_ne_zero (sdAudioInit_ok hinit).2.1
  have hzero : fields.channels ≠ 0 := by
    intro hzero
    exact hdiv (by rw [hzero]; decide)
  rw [← hsize, ← hdivisor] at hplay
  obtain ⟨buffer, hbuffer⟩ := hrig.sampleHeap (sampleBytes fields.size)
  have hlen : (buffer.bytes.take fields.size.toNat).length = fields.size.toNat := by
    rw [List.length_take, buffer.length_eq, min_eq_left (le_sampleBytes _)]
  rw [← List.append_nil (wire _)] at hb
  obtain ⟨t, hbody, -⟩ :=
    recvAudioBody_whole pcm.length_lt hsize hchunks hsha hkind hclosing rig.target hlen hs hb
  have hrecv : (recvBody rig fields (buffer.bytes.take fields.size.toNat)).run g
      = (.ok pcm.data, { g with conn := t }) := by
    simp only [recvBody, hrig.bodyHeap, hbody]
  have hready : (initAudio rig fields).run { g with conn := t } = (.ok (), { g with conn := t, audio := audio₁ }) := by
    rw [initAudio, Effect.run_within, hinit]
  rw [playAudioDownlink, Effect.run_ofExcept_bind, hfields]
  simp only
  rw [if_neg hzero, hbuffer]
  simp only
  rw [Effect.run_bind_ok hrecv, Effect.run_bind_ok hready, if_neg hdiv, playPcm]
  simp only [hplay]
  exact ⟨_, rfl⟩

end Sudonit
