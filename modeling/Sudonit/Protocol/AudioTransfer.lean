import Sudonit.Protocol.Senders

/-!
# The body of an audio downlink on the device

`sd_msg_recv_audio_body` counts frames and bytes and writes each chunk where its number says, where
`AudioReassembler` keeps the chunks by number.

* `audioChunk_eq`, `audioChunks_spec` — the chunk loop: no write leaves the buffer, and a loop that
  finishes has written the chunks it received.
* `recvAudioBody_ok_iff` — when the function returns `SD_OK`.
* `audio_sound_iff` — the two receivers agree on a complete body exactly when no number comes twice in
  it.
* `audio_any_order` — what `send_audio` sends is received, in whatever order its chunks arrive.
-/

namespace Sudonit

open Octets Stream Frames CText Python Chunks

/-! ## The chunk loop -/

/-- A frame the chunk loop takes into a buffer of that size. -/
def ChunkFrame (size : ℕ) (f : Frame) : Prop :=
  f.kind = kindBinary ∧ 4 ≤ f.payload.length ∧ Fits chunkSize size (chunkOf f.payload)

instance (size : ℕ) (f : Frame) : Decidable (ChunkFrame size f) :=
  inferInstanceAs (Decidable (_ ∧ _ ∧ _ ∧ _))

lemma length_chunkOf (payload : Bytes) : (chunkOf payload).data.length = payload.length - 4 :=
  List.length_drop

/-- Where a chunk belongs, in 64 bits. -/
lemma chunk_offset {payload : Bytes} (h : 4 ≤ payload.length) :
    beNat (payload.take 4) * chunkSize % 2 ^ 64 = (chunkOf payload).seq * chunkSize ∧
      (chunkOf payload).seq * chunkSize < 2 ^ 44 := by
  have hseq : beNat (payload.take 4) < 2 ^ 32 := beNat_lt (by rw [List.length_take]; omega)
  change _ = beNat (payload.take 4) * chunkSize ∧ beNat (payload.take 4) * chunkSize < _
  rw [chunkSize]
  omega

lemma store_chunk {pcm : Bytes} {c : Chunk UInt8} (h : Fits chunkSize pcm.length c) :
    store pcm (c.seq * chunkSize) c.data = some (write chunkSize pcm c) := by
  rw [store, if_pos h.2, write]

lemma write_empty {pcm : Bytes} {c : Chunk UInt8} (h : c.data = []) : write chunkSize pcm c = pcm := by
  simp [write, h]

/-- **One pass of the loop**: the frame received is written where it belongs, or the loop ends. -/
theorem audioChunk_eq {target : Target} {pcm : Bytes} (hpcm : pcm.length < target.sizeModulus) {total : ℕ}
    (htotal : total < target.sizeModulus) (t : Inbound) :
    audioChunk target pcm total t = some (match (sdFrameRecv frameCap).run t with
      | (.error e, t') => (.error e, pcm, t')
      | (.ok f, t') =>
          if ChunkFrame pcm.length f then
            (.ok ((total + (chunkOf f.payload).data.length) % target.sizeModulus),
              write chunkSize pcm (chunkOf f.payload), t')
          else (.error .io, pcm, t')) := by
  rcases hrecv : (sdFrameRecv frameCap).run t with ⟨e | f, t'⟩
  · simp only [audioChunk, hrecv]
  have hcap : f.payload.length - 4 ≤ chunkSize := by
    rw [sdFrameRecv_eq] at hrecv
    have := (accepted_sdReject.mp (receiveFrame_ok hrecv).1).2.2
    rw [frameCap] at this
    omega
  have hdata := length_chunkOf f.payload
  simp only [audioChunk, hrecv, ← hdata]
  by_cases hhead : f.kind = kindBinary ∧ 4 ≤ f.payload.length
  · obtain ⟨hoff, hlt⟩ := chunk_offset hhead.2
    have hmod := target.le_sizeModulus
    have hend : ((chunkOf f.payload).seq * chunkSize + (chunkOf f.payload).data.length) % 2 ^ 64
        = (chunkOf f.payload).seq * chunkSize + (chunkOf f.payload).data.length := by
      rw [chunkSize] at hlt hcap ⊢
      omega
    rw [if_neg (by rw [not_or, not_not, not_lt]; exact hhead), hoff, hend]
    by_cases hfit : (chunkOf f.payload).seq * chunkSize + (chunkOf f.payload).data.length ≤ pcm.length
    · have hfits : Fits chunkSize pcm.length (chunkOf f.payload) := ⟨by omega, hfit⟩
      have hchunk : ChunkFrame pcm.length f := ⟨hhead.1, hhead.2, hfits⟩
      rw [if_neg (by omega), if_pos hchunk]
      by_cases hpos : (chunkOf f.payload).data.length > 0
      · have hplace := Nat.mod_eq_of_lt (show (chunkOf f.payload).seq * chunkSize
          < target.sizeModulus by omega)
        rw [if_pos hpos, hplace]
        exact congrArg (Option.map _) (store_chunk hfits)
      · have hnil : (chunkOf f.payload).data = [] := List.length_eq_zero_iff.mp (by omega)
        rw [if_neg hpos, write_empty hnil, hnil, List.length_nil, Nat.add_zero,
          Nat.mod_eq_of_lt htotal]
    · have hno : ¬ ChunkFrame pcm.length f := fun h => hfit h.2.2.2
      rw [if_pos (by omega), if_neg hno]
  · have hno : ¬ ChunkFrame pcm.length f := fun h => hhead ⟨h.1, h.2.1⟩
    rw [if_pos (by rw [← not_lt] at hhead; tauto), if_neg hno]

/-- How many bytes they carry together. -/
def carried (fs : List Frame) : ℕ := ((chunksOf fs).map fun c => c.data.length).sum

lemma carried_cons (f : Frame) (fs : List Frame) :
    carried (f :: fs) = (chunkOf f.payload).data.length + carried fs := by
  rw [carried, chunksOf_cons, List.map_cons, List.sum_cons, ← carried]

/-- What so many passes of the loop come to. -/
def LoopResult (target : Target) (n : ℕ) (pcm : Bytes) (total : ℕ) (t : Inbound)
    (r : Except SdErr ℕ × Bytes × Inbound) : Prop :=
  ∀ total' pcm' t', r = (.ok total', pcm', t') ↔
    ∃ fs, receive (sdFrameRecv frameCap).run n t = (fs, none, t') ∧
      (∀ f ∈ fs, ChunkFrame pcm.length f) ∧ pcm' = writeAll chunkSize pcm (chunksOf fs) ∧
      total' = (total + carried fs) % target.sizeModulus

/-- **The chunk loop** is defined whatever arrives, and finishes when as many chunks as announced
stand at the front of the stream. -/
theorem audioChunks_spec {target : Target} (n : ℕ) {pcm : Bytes} (hpcm : pcm.length < target.sizeModulus) {total : ℕ}
    (htotal : total < target.sizeModulus) (t : Inbound) :
    ∃ r, audioChunks target n pcm total t = some r ∧ LoopResult target n pcm total t r := by
  induction n generalizing pcm total t with
  | zero =>
      refine ⟨_, rfl, ?_⟩
      intro total' pcm' t'
      constructor
      · intro h
        simp only [Prod.mk.injEq, Except.ok.injEq] at h
        obtain ⟨rfl, rfl, rfl⟩ := h
        exact ⟨[], rfl, by simp, rfl, (Nat.mod_eq_of_lt htotal).symm⟩
      · rintro ⟨fs, hrecv, -, rfl, rfl⟩
        simp only [receive, Prod.mk.injEq, true_and] at hrecv
        obtain ⟨rfl, rfl⟩ := hrecv
        rw [carried, chunksOf, List.map_nil, List.map_nil, List.sum_nil, Nat.add_zero,
          Nat.mod_eq_of_lt htotal]
        rfl
  | succ n ih =>
      rw [audioChunks, audioChunk_eq hpcm htotal]
      rcases hrecv : (sdFrameRecv frameCap).run t with ⟨e | f, t₁⟩
      · refine ⟨_, rfl, ?_⟩
        intro total' pcm' t'
        rw [receive_succ_error hrecv]
        simp
      · simp only
        by_cases hf : ChunkFrame pcm.length f
        · have hlen := length_write hf.2.2
          have hpos : 0 < target.sizeModulus := by
            have := target.le_sizeModulus
            omega
          have hpcm' : (write chunkSize pcm (chunkOf f.payload)).length < target.sizeModulus := by omega
          obtain ⟨r, hr, hres⟩ := ih hpcm'
            (Nat.mod_lt (total + (chunkOf f.payload).data.length) hpos) t₁
          rw [if_pos hf]
          refine ⟨r, hr, ?_⟩
          intro total' pcm' t'
          rw [hres, receive_succ_ok hrecv, hlen]
          constructor
          · rintro ⟨fs, hfs, hall, rfl, rfl⟩
            refine ⟨f :: fs, by rw [hfs], List.forall_mem_cons.mpr ⟨hf, hall⟩, rfl, ?_⟩
            rw [carried_cons, Nat.mod_add_mod, Nat.add_assoc]
          · rintro ⟨fs, hfs, hall, rfl, rfl⟩
            obtain ⟨rfl, hrest⟩ := Prod.mk.inj hfs
            refine ⟨_, Prod.ext rfl hrest, fun g hg => hall g (List.mem_cons_of_mem _ hg), rfl, ?_⟩
            rw [carried_cons, Nat.mod_add_mod, Nat.add_assoc]
        · rw [if_neg hf]
          refine ⟨_, rfl, ?_⟩
          intro total' pcm' t'
          rw [receive_succ_ok hrecv]
          refine iff_of_false (by simp) ?_
          rintro ⟨fs, hfs, hall, -⟩
          obtain ⟨rfl, -⟩ := Prod.mk.inj hfs
          exact hf (hall f List.mem_cons_self)

/-! ## The whole body -/

/-- A complete body at the front of a stream: as many chunk frames as announced, as long together as
announced as far as a `size_t` can tell, and a control frame. -/
structure AudioBody (target : Target) (chunks size : UInt32) (t : Inbound) (fs : List Frame)
    (t' : Inbound) : Prop where
  received : ∃ t₁ f, receive (sdFrameRecv frameCap).run chunks.toNat t = (fs, none, t₁) ∧
    (sdFrameRecv frameCap).run t₁ = (.ok f, t') ∧ f.kind = kindJson
  fits : ∀ f ∈ fs, ChunkFrame size.toNat f
  total : carried fs % target.sizeModulus = size.toNat

lemma AudioBody.length_eq {target : Target} {chunks size : UInt32} {t t' : Inbound} {fs : List Frame}
    (h : AudioBody target chunks size t fs t') : (chunksOf fs).length = chunks.toNat := by
  obtain ⟨t₁, f, hrecv, -, -⟩ := h.received
  rw [chunksOf, List.length_map, length_receive hrecv]

lemma audioClose_ok_iff {size total : ℕ} {sha pcm : Bytes} (hpcm : pcm.length = size) {t t' : Inbound} :
    audioClose size sha pcm total t = (.ok (), t') ↔
      ∃ f, (sdFrameRecv frameCap).run t = (.ok f, t') ∧ f.kind = kindJson ∧ total = size ∧
        sdSha256Hex pcm = sha := by
  rw [audioClose, List.take_of_length_le (by omega)]
  rcases (sdFrameRecv frameCap).run t with ⟨e | f, t₁⟩
  · simp
  · simp only [Prod.mk.injEq, Except.ok.injEq]
    split_ifs with hkind htotal hsha
    · exact iff_of_false (by simp) (by rintro ⟨g, ⟨rfl, -⟩, hg, -⟩; exact hkind hg)
    · exact iff_of_false (by simp) (by rintro ⟨g, -, -, hg, -⟩; exact htotal hg)
    · exact iff_of_false (by simp) (by rintro ⟨g, -, -, -, hg⟩; exact hsha hg)
    · constructor
      · intro h
        exact ⟨f, ⟨rfl, (Prod.mk.inj h).2⟩, not_not.mp hkind, not_not.mp htotal, not_not.mp hsha⟩
      · rintro ⟨g, ⟨-, rfl⟩, -⟩
        rfl

/-- **When the body is received**, and what the buffer holds then. -/
theorem recvAudioBody_ok_iff {target : Target} {heap : Bool} {chunks size : UInt32} {sha : CStr}
    {pcm pcm' : Bytes} (hpcm : pcm.length = size.toNat) {t t' : Inbound} :
    sdMsgRecvAudioBody target heap chunks size sha pcm t = some (.ok (), pcm', t') ↔
      heap = true ∧ ∃ fs, AudioBody target chunks size t fs t' ∧
        pcm' = writeAll chunkSize pcm (chunksOf fs) ∧ sdSha256Hex pcm' = sha.bytes := by
  have hsize := size.toNat_lt
  have hmod := target.le_sizeModulus
  rw [sdMsgRecvAudioBody, if_neg (by omega)]
  cases heap with
  | false => simp
  | true =>
      obtain ⟨⟨result, pcm₁, t₁⟩, hloop, hres⟩ := audioChunks_spec chunks.toNat
        (show pcm.length < target.sizeModulus by omega) (show 0 < target.sizeModulus by omega) t
      rw [if_pos rfl, hloop, and_iff_right rfl]
      rcases result with e | total
      · refine iff_of_false (by simp) ?_
        rintro ⟨fs, hbody, rfl, -⟩
        obtain ⟨t₂, f, hrecv, -, -⟩ := hbody.received
        have := (hres _ _ _).mpr ⟨fs, hrecv, hpcm ▸ hbody.fits, rfl, rfl⟩
        simp at this
      · obtain ⟨fs, hrecv, hfits, rfl, rfl⟩ := (hres total pcm₁ t₁).mp rfl
        have hlen : (writeAll chunkSize pcm (chunksOf fs)).length = size.toNat := by
          rw [length_writeAll, hpcm]
          intro c hc
          obtain ⟨f, hf, rfl⟩ := List.mem_map.mp hc
          exact (hfits f hf).2.2
        simp only [Option.some.injEq, Prod.mk.injEq]
        constructor
        · rintro ⟨hok, rfl, rfl⟩
          obtain ⟨f, hclose, hkind, htotal, hsha⟩ := (audioClose_ok_iff hlen).mp (Prod.ext hok rfl)
          rw [Nat.zero_add] at htotal
          exact ⟨fs, ⟨⟨t₁, f, hrecv, hclose, hkind⟩, hpcm ▸ hfits, htotal⟩, rfl, hsha⟩
        · rintro ⟨gs, hbody, rfl, hsha⟩
          obtain ⟨t₂, f, hrecv', hclose, hkind⟩ := hbody.received
          rw [hrecv'] at hrecv
          obtain ⟨rfl, hrest⟩ := Prod.mk.inj hrecv
          obtain ⟨-, rfl⟩ := Prod.mk.inj hrest
          have htotal : (0 + carried gs) % target.sizeModulus = size.toNat := by
            rw [Nat.zero_add, hbody.total]
          have hok := (audioClose_ok_iff hlen).mpr ⟨f, hclose, hkind, htotal, hsha⟩
          exact ⟨congrArg Prod.fst hok, rfl, congrArg Prod.snd hok⟩

/-- **The function is defined for every stream**: no write leaves the buffer. -/
theorem recvAudioBody_defined {target : Target} (heap : Bool) (chunks size : UInt32) (sha : CStr)
    {pcm : Bytes} (hpcm : pcm.length < target.sizeModulus) (t : Inbound) :
    ∃ r, sdMsgRecvAudioBody target heap chunks size sha pcm t = some r := by
  have hmod := target.le_sizeModulus
  rw [sdMsgRecvAudioBody]
  split_ifs
  · exact ⟨_, rfl⟩
  · obtain ⟨⟨result, pcm', t'⟩, hloop, -⟩ := audioChunks_spec chunks.toNat hpcm
      (show 0 < target.sizeModulus by omega) t
    rw [hloop]
    cases result <;> exact ⟨_, rfl⟩
  · exact ⟨_, rfl⟩

/-! ## The two receivers compared -/

/-- The message announces a body of so many chunks and bytes under this digest. -/
def Announces (msg : Dict) (chunks size : UInt32) (sha : CStr) : Prop :=
  requireInt msg (str "size") = .ok size.toNat ∧ requireInt msg (str "chunks") = .ok chunks.toNat ∧
    require msg (str "sha256") = .ok (.str (ofBytes sha.bytes))

lemma AudioReassembler.new_transfer {msg : Dict} {r : AudioReassembler} {chunks size : UInt32} {sha : CStr}
    (hnew : AudioReassembler.new msg = .ok r) (h : Announces msg chunks size sha) :
    r.transfer = ⟨size.toNat, chunks.toNat, .str (ofBytes sha.bytes), ∅⟩ := by
  obtain ⟨hmsg, hempty⟩ := new_ok hnew
  rw [← Except.ok.inj (hmsg.size.symm.trans h.1), ← Except.ok.inj (hmsg.chunks.symm.trans h.2.1),
    ← Except.ok.inj (hmsg.sha256.symm.trans h.2.2), ← hempty]

/-- Some chunk frame carries byte `i` of the buffer. -/
def Covered (fs : List Frame) (i : ℕ) : Prop :=
  ∃ c ∈ chunksOf fs, c.seq * chunkSize ≤ i ∧ i < c.seq * chunkSize + c.data.length

/-- What `SD_OK` is to mean of a stream behind an announcement of so many chunks and bytes, whatever
digest is announced with them and whatever the buffer held: the chunk frames received cover the
buffer, and the other receiver, built from the same announcement and fed the same frames, accepts them
and returns the same bytes. -/
def AudioSound (target : Target) (chunks size : UInt32) (t : Inbound) : Prop :=
  ∀ (heap : Bool) (sha : CStr) (pcm pcm' : Bytes) (t' : Inbound), pcm.length = size.toNat →
    sdMsgRecvAudioBody target heap chunks size sha pcm t = some (.ok (), pcm', t') →
    ∃ fs t₁, receive (sdFrameRecv frameCap).run chunks.toNat t = (fs, none, t₁) ∧
      (∀ i < size.toNat, Covered fs i) ∧
      ∀ msg r, Announces msg chunks size sha → AudioReassembler.new msg = .ok r →
        ∃ r' audio, r.feed (fs.map Frame.payload) = .ok r' ∧ r'.finish = .ok audio ∧ audio.pcm = pcm'

/-- A complete body without a repeated number tiles the buffer. -/
lemma AudioBody.tiling {target : Target} {chunks size : UInt32} {t t' : Inbound} {fs : List Frame}
    (h : AudioBody target chunks size t fs t') (hnd : ((chunksOf fs).map Chunk.seq).Nodup) :
    Tiling chunkSize size.toNat (chunksOf fs) := by
  have hfits : ∀ c ∈ chunksOf fs, Fits chunkSize size.toNat c := by
    intro c hc
    obtain ⟨f, hf, rfl⟩ := List.mem_map.mp hc
    exact (h.fits f hf).2.2
  -- Together the chunks are no longer than the buffer, so the running total has not wrapped.
  have hle : carried fs ≤ size.toNat := sum_length_le hnd hfits
  have hmod := target.le_sizeModulus
  have hsize := size.toNat_lt
  have htotal := h.total
  rw [Nat.mod_eq_of_lt (by omega)] at htotal
  exact ⟨hnd, hfits, htotal⟩

/-- The reassembler that received these frames holds their chunks. -/
lemma AudioReassembler.feed_frames {msg : Dict} {r : AudioReassembler} {chunks size : UInt32} {sha : CStr}
    (hnew : AudioReassembler.new msg = .ok r) (hmsg : Announces msg chunks size sha) {fs : List Frame}
    (hfs : ∀ f ∈ fs, ChunkFrame size.toNat f) :
    ∃ t', r.feed (fs.map Frame.payload) = .ok { r with transfer := t' } ∧ t'.Holds (chunksOf fs) ∧
      t'.expectedSize = size.toNat ∧ t'.expectedChunks = chunks.toNat ∧
      t'.expectedSha256 = .str (ofBytes sha.bytes) := by
  have htransfer := new_transfer hnew hmsg
  have hlong : ∀ p ∈ fs.map Frame.payload, 4 ≤ p.length := by
    intro p hp
    obtain ⟨f, hf, rfl⟩ := List.mem_map.mp hp
    exact (hfs f hf).2.1
  obtain ⟨t', hfeed, hholds, hsize, hchunks, hsha⟩ := Transfer.feed_ok Transfer.Holds.empty hlong
  refine ⟨t', by rw [feed_eq, htransfer, hfeed]; rfl, ?_, hsize, hchunks, hsha⟩
  rwa [List.nil_append, List.map_map] at hholds

/-- An announcement of just a body. -/
def bareAnnouncement (chunks size : UInt32) (sha : CStr) : Dict :=
  [(str "audio_id", .null), (str "size", .int size.toNat), (str "chunks", .int chunks.toNat),
    (str "sha256", .str (ofBytes sha.bytes)), (str "sample_rate", .int 1), (str "channels", .int 1)]

lemma zero_notMem_hexdigest (data : Bytes) : 0 ∉ Sha256.hexdigest data :=
  fun h => absurd (Sha256.hex_of_mem_hexdigest h) (by decide)

lemma zero_notMem_sdSha256Hex {data : Bytes} (hlen : data.length < 2 ^ 61) : 0 ∉ sdSha256Hex data := by
  rw [sdSha256Hex_eq hlen]
  exact zero_notMem_hexdigest data

/-- A complete body with a repeated number is accepted under the digest of what it leaves in the
buffer, and the other receiver finds a chunk missing. -/
lemma not_audioSound_of_repeated {target : Target} {chunks size : UInt32} {t t' : Inbound}
    {fs : List Frame} (h : AudioBody target chunks size t fs t')
    (hrep : ¬ ((chunksOf fs).map Chunk.seq).Nodup) : ¬ AudioSound target chunks size t := by
  intro hsound
  obtain ⟨pcm, hpcm⟩ : ∃ pcm : Bytes, pcm.length = size.toNat :=
    ⟨List.replicate size.toNat 0, List.length_replicate⟩
  have hlen : (writeAll chunkSize pcm (chunksOf fs)).length = size.toNat := by
    rw [length_writeAll, hpcm]
    intro c hc
    obtain ⟨f, hf, rfl⟩ := List.mem_map.mp hc
    exact hpcm ▸ (h.fits f hf).2.2
  have hsize := size.toNat_lt
  let sha : CStr := ⟨sdSha256Hex (writeAll chunkSize pcm (chunksOf fs)),
    zero_notMem_sdSha256Hex (by omega)⟩
  have hok : sdMsgRecvAudioBody target true chunks size sha pcm t
      = some (.ok (), writeAll chunkSize pcm (chunksOf fs), t') :=
    (recvAudioBody_ok_iff hpcm).mpr ⟨rfl, fs, h, rfl, rfl⟩
  obtain ⟨gs, t₁, hrecv, -, hpy⟩ := hsound true sha pcm _ t' hpcm hok
  obtain ⟨t₂, f, hrecv', -, -⟩ := h.received
  obtain rfl : fs = gs := (Prod.mk.inj (hrecv'.symm.trans hrecv)).1
  have hmsg : Announces (bareAnnouncement chunks size sha) chunks size sha := ⟨rfl, rfl, rfl⟩
  obtain ⟨r', audio, hfeed, hfinish, -⟩ := hpy _ _ hmsg rfl
  obtain ⟨t₃, hfeed', hholds, -, hchunks, -⟩ := AudioReassembler.feed_frames rfl hmsg h.fits
  rw [hfeed', Except.ok.injEq] at hfeed
  subst hfeed
  cases hfin : t₃.finish with
  | error e => simp [AudioReassembler.finish, hfin, Except.map] at hfinish
  | ok data => exact Transfer.finish_repeated hholds hrep (by rw [hchunks, h.length_eq]) data hfin

/-- **When `SD_OK` means what it should.**  The device's receiver is sound on a stream, whatever digest
is announced and whatever the buffer held, exactly when no complete body with a repeated number stands
at the front of it. -/
theorem audio_sound_iff (target : Target) (chunks size : UInt32) (t : Inbound) :
    AudioSound target chunks size t ↔
      ∀ fs t', AudioBody target chunks size t fs t' → ((chunksOf fs).map Chunk.seq).Nodup := by
  constructor
  · intro hsound fs t' hbody
    by_contra hrep
    exact not_audioSound_of_repeated hbody hrep hsound
  · intro hnodup heap sha pcm pcm' t' hpcm hok
    obtain ⟨-, fs, hbody, rfl, hsha⟩ := (recvAudioBody_ok_iff hpcm).mp hok
    have htiling := hbody.tiling (hnodup fs t' hbody)
    have hw : 0 < chunkSize := by decide
    obtain ⟨t₁, f, hrecv, -, -⟩ := hbody.received
    refine ⟨fs, t₁, hrecv, fun i hi => htiling.covers hw hi, ?_⟩
    intro msg r hmsg hnew
    obtain ⟨t₂, hfeed, hholds, hsize, hchunks, hexp⟩ :=
      AudioReassembler.feed_frames hnew hmsg hbody.fits
    rw [← hpcm] at htiling hsize
    have hlen := length_writeAll htiling.fits
    have hbig := size.toNat_lt
    have hfinish := Transfer.finish_tiling hholds hw htiling (by rw [hchunks, hbody.length_eq]) hsize
      (by rw [hexp, ← hsha, sdSha256Hex_eq (by omega)])
    exact ⟨_, _, hfeed, by rw [AudioReassembler.finish, hfinish]; rfl, rfl⟩

/-! ## Bodies on a stream -/

lemma ChunkFrame.accepted {size : ℕ} {f : Frame} (h : ChunkFrame size f) :
    Accepted (sdReject frameCap) f := by
  obtain ⟨hkind, hlen, hdata, -⟩ := h
  rw [length_chunkOf] at hdata
  have hcap : frameCap = 4 + chunkSize := rfl
  have hmax : frameCap ≤ maxFrameBytes := by decide
  exact accepted_sdReject.mpr ⟨Or.inr hkind, by omega, by omega⟩

/-- A body written to a steady stream stands at the front of it. -/
theorem audioBody_wire {target : Target} {chunks size : UInt32} {fs : List Frame} {closing : Frame}
    (hcount : fs.length = chunks.toNat) (hfits : ∀ f ∈ fs, ChunkFrame size.toNat f)
    (htotal : carried fs % target.sizeModulus = size.toNat) (hkind : closing.kind = kindJson)
    (hclosing : closing.payload.length ≤ frameCap) {t : Inbound} (ht : t.Steady) {rest : Bytes}
    (hb : t.bytes = wire (fs ++ [closing]) ++ rest) :
    ∃ t', AudioBody target chunks size t fs t' ∧ t'.bytes = rest ∧ t'.Steady := by
  rw [wire_append, wire_singleton, List.append_assoc] at hb
  obtain ⟨t₁, hrecv, hb₁, ht₁⟩ :=
    receive_wire SdErr.ofStop ht (fun f hf => (hfits f hf).accepted) hb
  have hmax : frameCap ≤ maxFrameBytes := by decide
  obtain ⟨t', hlast, hb', ht'⟩ := receiveFrame_steady SdErr.ofStop ht₁
    (accepted_sdReject.mpr ⟨Or.inl hkind, hclosing.trans hmax, hclosing⟩) hb₁
  rw [← sdFrameRecv_eq, hcount] at hrecv
  rw [← sdFrameRecv_eq] at hlast
  exact ⟨t', ⟨⟨t₁, closing, hrecv, hlast, hkind⟩, hfits, htotal⟩, hb', ht'⟩

/-- A body of two chunks of one byte, both with number zero. -/
def repeatedBody : List Frame :=
  [⟨kindBinary, be32 0 ++ ascii "a"⟩, ⟨kindBinary, be32 0 ++ ascii "a"⟩, ⟨kindJson, []⟩]

lemma audioBody_repeatedBody : ∃ t', AudioBody .host 2 2 (.cut (wire repeatedBody) [])
    (repeatedBody.take 2) t' ∧ t'.bytes = [] ∧ t'.Steady :=
  audioBody_wire rfl (by decide) rfl (show (⟨kindJson, []⟩ : Frame).kind = kindJson from rfl)
    (by decide) (Inbound.steady_cut _ _) (List.append_nil _).symm

/-- The body is accepted with the second byte of the buffer never written. -/
theorem audio_unsound :
    (∃ sha t', sdMsgRecvAudioBody .host true 2 2 sha (ascii "xx") (.cut (wire repeatedBody) [])
      = some (.ok (), ascii "ax", t')) ∧
    ¬ AudioSound .host 2 2 (.cut (wire repeatedBody) []) := by
  obtain ⟨t', hbody, -, -⟩ := audioBody_repeatedBody
  refine ⟨⟨⟨sdSha256Hex (ascii "ax"), zero_notMem_sdSha256Hex (by decide)⟩, t', ?_⟩,
    not_audioSound_of_repeated hbody (by decide)⟩
  exact (recvAudioBody_ok_iff rfl).mpr ⟨rfl, _, hbody, rfl, rfl⟩

/-! ## What the phone sends -/

/-- What an `audio_begin` announces. -/
lemma announces_audioBegin {audioId : JsonValue} {pcm : Bytes} {sampleRate channels : ℤ}
    {audioFormat : PyStr} {cs : ℕ} {chunks size : UInt32} {sha : CStr} :
    Announces (audioBegin audioId pcm sampleRate channels audioFormat cs) chunks size sha ↔
      size.toNat = pcm.length ∧ chunks.toNat = chunkCount pcm.length cs ∧
        sha.bytes = Sha256.hexdigest pcm := by
  have hsize : requireInt (audioBegin audioId pcm sampleRate channels audioFormat cs) (str "size")
      = .ok pcm.length := rfl
  have hchunks : requireInt (audioBegin audioId pcm sampleRate channels audioFormat cs) (str "chunks")
      = .ok (chunkCount pcm.length cs) := rfl
  have hsha : require (audioBegin audioId pcm sampleRate channels audioFormat cs) (str "sha256")
      = .ok (.str (ofBytes (Sha256.hexdigest pcm))) := rfl
  rw [Announces, hsize, hchunks, hsha, Except.ok.injEq, Except.ok.injEq, Except.ok.injEq,
    JsonValue.str.injEq, Int.natCast_inj, Int.natCast_inj, ofBytes_injective.eq_iff]
  exact ⟨fun h => ⟨h.1.symm, h.2.1.symm, h.2.2.symm⟩, fun h => ⟨h.1.symm, h.2.1.symm, h.2.2.symm⟩⟩

/-- **An utterance arrives in any order.**  Whatever `send_audio` has sent at the default chunk size,
its chunk frames in any order and then its closing frame, read under any segmentation with what it
announced, fill the buffer with the samples, whatever it held before. -/
theorem audio_any_order {py : Interpreter} {audioId : JsonValue} {pcm : Bytes} {sampleRate channels : ℤ}
    {audioFormat : PyStr} {sock sock' : Outbound}
    (hsend : (sendAudio py audioId pcm sampleRate channels audioFormat chunkSize).run sock = (.ok (), sock'))
    (hpcm : pcm.length < 2 ^ 32) {order : List Frame} (horder : order.Perm (chunkFrames pcm chunkSize))
    (hend : (controlFrame (audioEnd audioId)).payload.length ≤ frameCap) {chunks size : UInt32}
    {sha : CStr} (hmsg : Announces (audioBegin audioId pcm sampleRate channels audioFormat chunkSize)
      chunks size sha)
    (target : Target) {buf : Bytes} (hbuf : buf.length = size.toNat) {t : Inbound} (ht : t.Steady)
    {rest : Bytes} (hb : t.bytes = wire (order ++ [controlFrame (audioEnd audioId)]) ++ rest) :
    sock'.sent = sock.sent ++ wire (controlFrame
        (audioBegin audioId pcm sampleRate channels audioFormat chunkSize) ::
        chunkFrames pcm chunkSize ++ [controlFrame (audioEnd audioId)]) ∧
      ∃ t', sdMsgRecvAudioBody target true chunks size sha buf t = some (.ok (), pcm, t') ∧
        t'.bytes = rest := by
  rw [sendAudio_eq] at hsend
  obtain ⟨hpos, hsent, -, hseq⟩ := sendTransfer_ok hsend
  refine ⟨hsent, ?_⟩
  obtain ⟨hsize, hchunks, hsha⟩ := announces_audioBegin.mp hmsg
  have hslices := chunksOf_chunkFrames hseq
  have hall := length_le_chunkCount hpos pcm.length
  have hlast : ∀ i < chunkCount pcm.length chunkSize, i * chunkSize ≤ pcm.length :=
    fun i hi => offset_le hi
  have htiling := tiling_slices hall hlast
  have hperm : (chunksOf order).Perm (slices chunkSize pcm (chunkCount pcm.length chunkSize)) :=
    hslices ▸ horder.map _
  have hfits : ∀ f ∈ order, ChunkFrame size.toNat f := by
    intro f hf
    have hfit := htiling.fits _ (hperm.mem_iff.mp (List.mem_map_of_mem hf))
    obtain ⟨seq, -, rfl⟩ := List.mem_map.mp (horder.mem_iff.mp hf)
    exact ⟨rfl, by rw [chunkFrame, List.length_append, length_be32]; omega, hsize ▸ hfit⟩
  have htotal : carried order % target.sizeModulus = size.toNat := by
    have hmod := target.le_sizeModulus
    rw [carried, (hperm.map _).sum_eq, htiling.total, Nat.mod_eq_of_lt (by omega), hsize]
  have hcount : order.length = chunks.toNat := by
    rw [horder.length_eq, chunkFrames, List.length_map, List.length_range, hchunks]
  obtain ⟨t', hbody, hrest, -⟩ := audioBody_wire hcount hfits htotal rfl hend ht hb
  have hfill : writeAll chunkSize buf (chunksOf order) = pcm :=
    writeAll_slices hpos (by rw [hbuf, hsize]) hall hlast hperm
  refine ⟨t', (recvAudioBody_ok_iff hbuf).mpr ⟨rfl, order, hbody, hfill.symm, ?_⟩, hrest⟩
  rw [sdSha256Hex_eq (by omega), hsha]

/-- Sound that is cut into three chunks. -/
lemma chunkFrames_three {pcm : Bytes} (hlen : pcm.length = 8194) : chunkFrames pcm chunkSize
    = [chunkFrame pcm chunkSize 0, chunkFrame pcm chunkSize 1, chunkFrame pcm chunkSize 2] := by
  have hcount : chunkCount pcm.length chunkSize = 3 := by rw [hlen]; decide
  rw [chunkFrames, hcount]
  rfl

lemma sendAudio_three {pcm : Bytes} (hlen : pcm.length = 8194) : ∃ sock',
    (sendAudio usualInterpreter (.str (str "a")) pcm 8000 1 defaultFormat chunkSize).run (.fresh []) = (.ok (), sock') := by
  have hopen : (rendered (.obj (audioBegin (.str (str "a")) pcm 8000 1 defaultFormat chunkSize))).length
      ≤ maxFrameBytes := by
    rw [rendered_audioBegin, length_flatText (List.cons_ne_nil _ _)]
    simp only [List.map_cons, List.map_nil, List.sum_cons, List.sum_nil, rendered, length_quoted_hexdigest, hlen]
    decide
  have hid : nesting (.str (str "a")) < usualInterpreter.dumpDepth := by decide
  obtain ⟨sock', hrun, -, -⟩ := sendAudio_delivers (by rw [hlen]; decide) hid hopen (by decide) _
    (Outbound.steady_fresh [])
  exact ⟨sock', hrun⟩

/-- Three chunks of sound, the last of them short. -/
@[irreducible] def hum : Bytes := List.replicate 4096 1 ++ List.replicate 4096 2 ++ ascii "ab"

lemma length_hum : hum.length = 8194 := by
  unfold hum
  simp only [List.length_append, List.length_replicate]
  rfl

/-- The last chunk of three first, in pieces of three octets and of one. -/
theorem audio_any_order_hum : ∃ t', sdMsgRecvAudioBody .esp32 true 3 8194
    ⟨Sha256.hexdigest hum, zero_notMem_hexdigest _⟩ (List.replicate 8194 0xFF)
    (.cut (wire ([chunkFrame hum chunkSize 2, chunkFrame hum chunkSize 0, chunkFrame hum chunkSize 1] ++
      [controlFrame (audioEnd (.str (str "a")))])) [3, 1]) = some (.ok (), hum, t') ∧ t'.bytes = [] := by
  obtain ⟨sock', hsend⟩ := sendAudio_three length_hum
  have hmsg : Announces (audioBegin (.str (str "a")) hum 8000 1 defaultFormat chunkSize) 3 8194
      ⟨Sha256.hexdigest hum, zero_notMem_hexdigest _⟩ :=
    announces_audioBegin.mpr ⟨by rw [length_hum]; rfl, by rw [length_hum]; decide, rfl⟩
  have horder : [chunkFrame hum chunkSize 2, chunkFrame hum chunkSize 0, chunkFrame hum chunkSize 1].Perm
      (chunkFrames hum chunkSize) := by
    rw [chunkFrames_three length_hum]
    exact @List.perm_append_comm _ [chunkFrame hum chunkSize 2] _
  have hbuf : (List.replicate 8194 (0xFF : UInt8)).length = (8194 : UInt32).toNat := by
    rw [List.length_replicate]
    rfl
  exact (audio_any_order hsend (by rw [length_hum]; decide) horder (by decide) hmsg .esp32 hbuf
    (Inbound.steady_cut _ [3, 1]) (List.append_nil _).symm).2

end Sudonit
