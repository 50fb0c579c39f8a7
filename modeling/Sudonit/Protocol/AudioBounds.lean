import Sudonit.Protocol.AudioTransfer

/-!
# What the audio receiver touches

`sd_msg_recv_audio_body` once more, as the list of its accesses to the frame buffer and to `pcm`, with the
offsets as the code computes them: in 64 bits, and narrowed to a `size_t` for the `memcpy`.

* `bodyAccesses` — the accesses of a run, in order.
* `octets_outside_writes` — an octet of `pcm` that no listed write reaches is left alone.
* `audio_body_in_bounds` — every access is inside its object, for every stream and on both targets.
-/

namespace Sudonit

open Octets Stream Frames CText Chunks

/-- An access of `sd_msg_recv_audio_body`, or an offset it computes for one. -/
inductive Access
  /-- a part of the frame buffer handed to `sd_transport_recv` -/
  | frameWrite (start len : ℕ)
  | frameRead (start len : ℕ)
  /-- `off` and `off + dlen` for a chunk of `dlen` octets -/
  | offset (seq dlen off stop : ℕ)
  /-- `memcpy(pcm + (size_t)off, _, len)`, with the pointer that comes of it -/
  | pcmWrite (off place len : ℕ)
  /-- a part of `pcm` read by `sd_sha256` -/
  | pcmRead (start len : ℕ)
  deriving DecidableEq, Repr

/-- The access is inside its object, or the computation exact. -/
def Access.InBounds (pcmCap size : ℕ) : Access → Prop
  | .frameWrite start len => start + len ≤ 4 + chunkSize
  | .frameRead start len => start + len ≤ 4 + chunkSize
  | .offset seq dlen off stop => off = seq * chunkSize ∧ stop = seq * chunkSize + dlen
  | .pcmWrite off place len => place = off ∧ place + len ≤ pcmCap
  | .pcmRead start len => start + len ≤ size

/-! ## The accesses of a run -/

/-- `sd_frame_recv` into a buffer of `cap` octets. -/
def frameAccesses (cap : ℕ) (t : Inbound) : List Access :=
  match (sdTransportRecv 5).run t with
  | (.error _, _) => []
  | (.ok hdr, _) =>
      let kind := hdr.headD 0
      let len := beNat hdr.tail
      if kind ≠ kindJson ∧ kind ≠ kindBinary then []
      else if len > maxFrameBytes then []
      else if len > cap then []
      else if len > 0 then [.frameWrite 0 len]
      else []

/-- What a pass of the chunk loop does with a frame. -/
def chunkAccesses (target : Target) (pcmCap : ℕ) (f : Frame) : List Access :=
  if f.kind ≠ kindBinary ∨ f.payload.length < 4 then []
  else
    let seq := beNat (f.payload.take 4)
    let dlen := f.payload.length - 4
    let off := seq * chunkSize % 2 ^ 64
    let stop := (off + dlen) % 2 ^ 64
    [.frameRead 0 4, .offset seq dlen off stop] ++
      if stop > pcmCap then []
      else if dlen > 0 then [.frameRead 4 dlen, .pcmWrite off (off % target.sizeModulus) dlen]
      else []

/-- One pass of the chunk loop. -/
def passAccesses (target : Target) (pcmCap : ℕ) (t : Inbound) : List Access :=
  frameAccesses frameCap t ++
    match (sdFrameRecv frameCap).run t with
    | (.error _, _) => []
    | (.ok f, _) => chunkAccesses target pcmCap f

/-- The chunk loop. -/
def loopAccesses (target : Target) : ℕ → Bytes → ℕ → Inbound → List Access
  | 0, _, _, _ => []
  | n + 1, pcm, total, t =>
      passAccesses target pcm.length t ++
        match audioChunk target pcm total t with
        | some (.ok total, pcm, t) => loopAccesses target n pcm total t
        | _ => []

/-- `sd_sha256`: the whole blocks, and the remainder. -/
def hashAccesses (len : ℕ) : List Access :=
  let full := len / 64
  ((List.range full).map fun i => .pcmRead (i * 64) 64) ++ [.pcmRead (full * 64) (len - full * 64)]

/-- The closing frame and the checks behind it. -/
def closeAccesses (size total : ℕ) (t : Inbound) : List Access :=
  frameAccesses frameCap t ++
    match (sdFrameRecv frameCap).run t with
    | (.error _, _) => []
    | (.ok f, _) =>
        if f.kind ≠ kindJson then []
        else if total ≠ size then []
        else hashAccesses size

/-- `sd_msg_recv_audio_body`. -/
def bodyAccesses (target : Target) (heap : Bool) (chunks size : UInt32) (pcm : Bytes) (t : Inbound) :
    List Access :=
  if pcm.length < size.toNat then []
  else if heap then
    loopAccesses target chunks.toNat pcm 0 t ++
      match audioChunks target chunks.toNat pcm 0 t with
      | some (.ok total, _, t) => closeAccesses size.toNat total t
      | _ => []
  else []

/-! ## The writes are those of the model -/

/-- The octet is in the region some access writes. -/
def Written (accesses : List Access) (i : ℕ) : Prop :=
  ∃ off place len, Access.pcmWrite off place len ∈ accesses ∧ place ≤ i ∧ i < place + len

lemma Written.append {a b : List Access} {i : ℕ} (h : ¬ Written (a ++ b) i) :
    ¬ Written a i ∧ ¬ Written b i := by
  constructor
  · rintro ⟨off, place, len, hmem, hi⟩
    exact h ⟨off, place, len, List.mem_append_left _ hmem, hi⟩
  · rintro ⟨off, place, len, hmem, hi⟩
    exact h ⟨off, place, len, List.mem_append_right _ hmem, hi⟩

lemma getElem?_store {out out' bs : Bytes} {start i : ℕ} (h : store out start bs = some out')
    (hi : i < start ∨ start + bs.length ≤ i) : out'[i]? = out[i]? := by
  unfold store at h
  split_ifs at h with hle
  rw [← Option.some.inj h, List.append_assoc]
  rcases hi with hi | hi
  · rw [List.getElem?_append_left (by rw [List.length_take]; omega), List.getElem?_take, if_pos hi]
  · rw [List.getElem?_append_right (by rw [List.length_take]; omega),
      List.getElem?_append_right (by rw [List.length_take]; omega), List.getElem?_drop, List.length_take]
    congr 1
    omega

/-- One pass leaves alone what it does not write. -/
lemma audioChunk_outside {target : Target} {pcm pcm' : Bytes} {total i : ℕ} {t t' : Inbound}
    {r : Except SdErr ℕ} (h : audioChunk target pcm total t = some (r, pcm', t'))
    (hi : ¬ Written (passAccesses target pcm.length t) i) : pcm'[i]? = pcm[i]? := by
  have hchunk := (Written.append hi).2
  unfold audioChunk at h
  rcases hrecv : (sdFrameRecv frameCap).run t with ⟨e | f, t₁⟩
  · simp only [hrecv, Option.some.injEq, Prod.mk.injEq] at h
    rw [← h.2.1]
  · simp only [hrecv] at h hchunk
    by_cases hhead : f.kind ≠ kindBinary ∨ f.payload.length < 4
    · simp only [if_pos hhead, Option.some.injEq, Prod.mk.injEq] at h
      rw [← h.2.1]
    · simp only [if_neg hhead, chunkAccesses] at h hchunk
      by_cases hstop : (beNat (f.payload.take 4) * chunkSize % 2 ^ 64 + (f.payload.length - 4)) % 2 ^ 64
          > pcm.length
      · simp only [if_pos hstop, Option.some.injEq, Prod.mk.injEq] at h
        rw [← h.2.1]
      · rw [if_neg hstop] at h hchunk
        by_cases hdlen : f.payload.length - 4 > 0
        · rw [if_pos hdlen] at h hchunk
          obtain ⟨stored, hstore, heq⟩ := Option.map_eq_some_iff.mp h
          rw [← (Prod.mk.inj (Prod.mk.inj heq).2).1]
          apply getElem?_store hstore
          rw [List.length_drop]
          by_contra hin
          refine hchunk ⟨_, _, _, List.mem_append_right _ (List.mem_cons_of_mem _ List.mem_cons_self), ?_, ?_⟩
          · omega
          · omega
        · simp only [if_neg hdlen, Option.some.injEq, Prod.mk.injEq] at h
          rw [← h.2.1]

lemma audioChunks_outside {target : Target} {n : ℕ} {pcm pcm' : Bytes} {total i : ℕ} {t t' : Inbound}
    {r : Except SdErr ℕ} (h : audioChunks target n pcm total t = some (r, pcm', t'))
    (hi : ¬ Written (loopAccesses target n pcm total t) i) : pcm'[i]? = pcm[i]? := by
  induction n generalizing pcm total t with
  | zero =>
      simp only [audioChunks, Option.some.injEq, Prod.mk.injEq] at h
      rw [← h.2.1]
  | succ n ih =>
      rw [audioChunks] at h
      rw [loopAccesses] at hi
      obtain ⟨hpass, hrest⟩ := Written.append hi
      rcases hchunk : audioChunk target pcm total t with _ | ⟨e | total₁, pcm₁, t₁⟩
      · simp [hchunk] at h
      · simp only [hchunk, Option.some.injEq, Prod.mk.injEq] at h
        rw [← h.2.1]
        exact audioChunk_outside hchunk hpass
      · simp only [hchunk] at h hrest
        exact (ih h hrest).trans (audioChunk_outside hchunk hpass)

/-- **An octet outside every listed write is left alone.** -/
theorem octets_outside_writes {target : Target} {heap : Bool} {chunks size : UInt32} {sha : CStr}
    {pcm pcm' : Bytes} {t t' : Inbound} {r : Except SdErr Unit}
    (h : sdMsgRecvAudioBody target heap chunks size sha pcm t = some (r, pcm', t')) {i : ℕ}
    (hi : ¬ Written (bodyAccesses target heap chunks size pcm t) i) : pcm'[i]? = pcm[i]? := by
  rw [sdMsgRecvAudioBody] at h
  rw [bodyAccesses] at hi
  by_cases hcap : pcm.length < size.toNat
  · simp only [if_pos hcap, Option.some.injEq, Prod.mk.injEq] at h
    rw [← h.2.1]
  rw [if_neg hcap] at h hi
  cases heap with
  | false =>
      simp only [Bool.false_eq_true, if_false, Option.some.injEq, Prod.mk.injEq] at h
      rw [← h.2.1]
  | true =>
      rw [if_pos rfl] at h hi
      have hloop := (Written.append hi).1
      rcases hchunks : audioChunks target chunks.toNat pcm 0 t with _ | ⟨e | total, pcm₁, t₁⟩
      · simp [hchunks] at h
      all_goals
        simp only [hchunks, Option.some.injEq, Prod.mk.injEq] at h
        rw [← h.2.1]
        exact audioChunks_outside hchunks hloop

/-! ## Bounds -/

lemma frameAccesses_inBounds (t : Inbound) (pcmCap size : ℕ) :
    ∀ a ∈ frameAccesses frameCap t, a.InBounds pcmCap size := by
  have hcap : frameCap = 4 + chunkSize := rfl
  rw [frameAccesses]
  rcases (sdTransportRecv 5).run t with ⟨e | hdr, t'⟩
  · simp
  · intro a ha
    simp only at ha
    split_ifs at ha with hkind hmax hlen hpos
    all_goals simp only [List.mem_singleton, List.not_mem_nil] at ha
    rw [ha, Access.InBounds]
    omega

/-- The 64-bit offset of a chunk is exact, and a chunk that passes the check is written where the narrowed
offset says. -/
lemma chunkAccesses_inBounds {target : Target} {pcmCap : ℕ} (hpcm : pcmCap < target.sizeModulus)
    {f : Frame} (hf : f.payload.length ≤ frameCap) (size : ℕ) :
    ∀ a ∈ chunkAccesses target pcmCap f, a.InBounds pcmCap size := by
  have hcap : frameCap = 4 + chunkSize := rfl
  rw [chunkAccesses]
  by_cases hhead : f.kind ≠ kindBinary ∨ f.payload.length < 4
  · rw [if_pos hhead]
    simp
  rw [if_neg hhead]
  rw [not_or, not_not, not_lt] at hhead
  obtain ⟨hoff, hlt⟩ := chunk_offset hhead.2
  have hstop : ((chunkOf f.payload).seq * chunkSize + (f.payload.length - 4)) % 2 ^ 64
      = (chunkOf f.payload).seq * chunkSize + (f.payload.length - 4) := by
    rw [chunkSize] at hlt hcap ⊢
    omega
  simp only [hoff, hstop]
  intro a ha
  rw [List.mem_append] at ha
  rcases ha with ha | ha
  · simp only [List.mem_cons, List.not_mem_nil, or_false] at ha
    rcases ha with rfl | rfl
    · rw [Access.InBounds]
      omega
    · exact ⟨rfl, rfl⟩
  · split_ifs at ha with hout hpos
    · simp at ha
    · simp only [List.mem_cons, List.not_mem_nil, or_false] at ha
      rcases ha with rfl | rfl
      · rw [Access.InBounds]
        omega
      · have hplace := Nat.mod_eq_of_lt (show (chunkOf f.payload).seq * chunkSize < target.sizeModulus by
          omega)
        rw [Access.InBounds, hplace]
        omega
    · simp at ha

lemma passAccesses_inBounds {target : Target} {pcmCap : ℕ} (hpcm : pcmCap < target.sizeModulus)
    (size : ℕ) (t : Inbound) : ∀ a ∈ passAccesses target pcmCap t, a.InBounds pcmCap size := by
  intro a ha
  rcases List.mem_append.mp ha with ha | ha
  · exact frameAccesses_inBounds t pcmCap size a ha
  · rcases hrecv : (sdFrameRecv frameCap).run t with ⟨e | f, t'⟩
    · simp [hrecv] at ha
    · simp only [hrecv] at ha
      rw [sdFrameRecv_eq] at hrecv
      exact chunkAccesses_inBounds hpcm (accepted_sdReject.mp (receiveFrame_ok hrecv).1).2.2 size a ha

/-- A pass that goes on has kept the length of the buffer. -/
lemma length_audioChunk {target : Target} {pcm pcm' : Bytes} {total : ℕ} {t t' : Inbound}
    {r : Except SdErr ℕ} (h : audioChunk target pcm total t = some (r, pcm', t')) :
    pcm'.length = pcm.length := by
  unfold audioChunk at h
  rcases hrecv : (sdFrameRecv frameCap).run t with ⟨e | f, t₁⟩
  · simp only [hrecv, Option.some.injEq, Prod.mk.injEq] at h
    rw [← h.2.1]
  · simp only [hrecv] at h
    split_ifs at h with hhead hstop hdlen
    · simp only [Option.some.injEq, Prod.mk.injEq] at h
      rw [← h.2.1]
    · simp only [Option.some.injEq, Prod.mk.injEq] at h
      rw [← h.2.1]
    · obtain ⟨stored, hstore, heq⟩ := Option.map_eq_some_iff.mp h
      rw [← (Prod.mk.inj (Prod.mk.inj heq).2).1]
      exact length_store hstore
    · simp only [Option.some.injEq, Prod.mk.injEq] at h
      rw [← h.2.1]

lemma loopAccesses_inBounds {target : Target} {n : ℕ} {pcm : Bytes}
    (hpcm : pcm.length < target.sizeModulus) (size total : ℕ) (t : Inbound) :
    ∀ a ∈ loopAccesses target n pcm total t, a.InBounds pcm.length size := by
  induction n generalizing pcm total t with
  | zero => simp [loopAccesses]
  | succ n ih =>
      intro a ha
      rcases List.mem_append.mp ha with ha | ha
      · exact passAccesses_inBounds hpcm size t a ha
      · rcases hchunk : audioChunk target pcm total t with _ | ⟨e | total₁, pcm₁, t₁⟩
        · simp [hchunk] at ha
        · simp [hchunk] at ha
        · simp only [hchunk] at ha
          have hlen := length_audioChunk hchunk
          rw [← hlen] at hpcm ⊢
          exact ih hpcm total₁ t₁ a ha

/-- The hash reads what it is told to. -/
lemma hashAccesses_inBounds (pcmCap size : ℕ) : ∀ a ∈ hashAccesses size, a.InBounds pcmCap size := by
  intro a ha
  rcases List.mem_append.mp ha with ha | ha
  · obtain ⟨i, hi, rfl⟩ := List.mem_map.mp ha
    rw [List.mem_range] at hi
    rw [Access.InBounds]
    omega
  · rw [List.mem_singleton.mp ha, Access.InBounds]
    omega

lemma closeAccesses_inBounds (pcmCap size total : ℕ) (t : Inbound) :
    ∀ a ∈ closeAccesses size total t, a.InBounds pcmCap size := by
  intro a ha
  rcases List.mem_append.mp ha with ha | ha
  · exact frameAccesses_inBounds t pcmCap size a ha
  · rcases hrecv : (sdFrameRecv frameCap).run t with ⟨e | f, t'⟩
    · simp [hrecv] at ha
    · simp only [hrecv] at ha
      split_ifs at ha with hkind htotal
      · simp at ha
      · simp at ha
      · exact hashAccesses_inBounds pcmCap size a ha

/-- **The audio receiver stays in bounds.**  For every stream, every announced count and size, every
capacity a `size_t` can state and either word size, every access is inside its object, the offsets are
exact in 64 bits and still exact as a `size_t`, and the hash reads the first `size` octets only. -/
theorem audio_body_in_bounds (target : Target) (heap : Bool) (chunks size : UInt32) (sha : CStr)
    (pcm : Bytes) (hpcm : pcm.length < target.sizeModulus) (t : Inbound) :
    (∃ r, sdMsgRecvAudioBody target heap chunks size sha pcm t = some r) ∧
      ∀ a ∈ bodyAccesses target heap chunks size pcm t, a.InBounds pcm.length size.toNat := by
  refine ⟨recvAudioBody_defined heap chunks size sha hpcm t, ?_⟩
  rw [bodyAccesses]
  intro a ha
  split_ifs at ha with hcap hheap
  · simp at ha
  · rcases List.mem_append.mp ha with ha | ha
    · exact loopAccesses_inBounds hpcm size.toNat 0 t a ha
    · rcases hchunks : audioChunks target chunks.toNat pcm 0 t with _ | ⟨e | total, pcm₁, t₁⟩
      · simp [hchunks] at ha
      · simp [hchunks] at ha
      · simp only [hchunks] at ha
        exact closeAccesses_inBounds pcm.length size.toNat total t₁ a ha
  · simp at ha

/-- The sequence number whose offset is `2 ^ 32`, with a body of two octets, on the target where that
offset would wrap. -/
theorem audio_body_in_bounds_wrap :
    (∃ r, sdMsgRecvAudioBody .esp32 true 1 2 ⟨[], by decide⟩ (ascii "xx")
      (.cut (wire [⟨kindBinary, be32 (2 ^ 20) ++ ascii "ab"⟩, ⟨kindJson, []⟩]) []) = some r) ∧
    ∀ a ∈ bodyAccesses .esp32 true 1 2 (ascii "xx")
      (.cut (wire [⟨kindBinary, be32 (2 ^ 20) ++ ascii "ab"⟩, ⟨kindJson, []⟩]) []), a.InBounds 2 2 :=
  audio_body_in_bounds .esp32 true 1 2 ⟨[], by decide⟩ (ascii "xx") (by decide) _

end Sudonit
