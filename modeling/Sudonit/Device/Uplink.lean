import Sudonit.Device.Playback

/-!
# `device.c`: one turn of the glasses

`sd_device_run_uplink` takes a picture, sends it, and reads control messages until one ends the turn: an
`audio_begin`, whose body it receives and plays, or a `play_audio`.

* `replyPass`, `replyLoop` — the loop; every pass takes a frame off the stream, so it ends.
* `Replies` — the messages read off a stream; `replyLoop_spec` says which the loop has read.
* `plays_verified_audio` — what was played, on every run and every stream: at most one utterance, behind an
  `audio_begin`, complete and with the digest announced.
-/

namespace Sudonit

open Octets Stream Frames CText Chunks

/-! ## The reply loop -/

/-- The messages that end the turn. -/
inductive TurnEnd
  | audioBegin (text : Bytes)
  | playAudio

/-- `sd_msg_recv` in the `n`-th pass. -/
def recvReply (rig : Rig) (n : ℕ) : Effect Glasses Halt (MsgType × Bytes) := ⟨fun g =>
  match sdMsgRecv (rig.recvHeap n) (rig.typeBuf n) (rig.textBuf n).bytes g.conn with
  | none => (.error .undefined, g)
  | some (.error e, _, conn) => (.error (.code e), { g with conn := conn })
  | some (.ok type, text, conn) => (.ok (type, text), { g with conn := conn })⟩

/-- The text of an `ai_response`: logged, counted, and handed to the application in `cap` octets. -/
def handResponse (cap : ℕ) (text : Bytes) : Effect Glasses Halt Unit := ⟨fun g =>
  match cstring text with
  | none => (.error .undefined, g)
  | some s => (.ok (), { g with
      responseBytes := s.length
      response := if cap = 0 then g.response else s.take (cap - 1) })⟩

/-- The text of an `error`: logged. -/
def logError (text : Bytes) : Effect Glasses Halt Unit :=
  match cstring text with
  | none => Effect.fail .undefined
  | some _ => pure ()

/-- One pass of the loop: what ended the turn, if it did. -/
def replyPass (rig : Rig) (cap n : ℕ) : Effect Glasses Halt (Option TurnEnd) := do
  let reply ← recvReply rig n
  match reply.1 with
  | .aiResponse => do
      handResponse cap reply.2
      pure none
  | .audioBegin => pure (some (.audioBegin reply.2))
  | .playAudio => pure (some .playAudio)
  | .error => do
      logError reply.2
      Effect.fail (.code .io)
  | .pong => pure none
  | .deviceInfo => pure none
  | .unknown => pure none

/-- A message received took a frame off the stream. -/
lemma sdMsgRecv_consumes {heap : Bool} {typeBuf : Buffer 32} {textOut out : Bytes} {t t' : Inbound}
    {mtype : MsgType} (h : sdMsgRecv heap typeBuf textOut t = some (.ok mtype, out, t')) :
    t'.bytes.length < t.bytes.length := by
  obtain ⟨f, type, hrecv, -⟩ := sdMsgRecv_ok h
  rw [sdFrameRecv_eq] at hrecv
  exact receiveFrame_consumes SdErr.ofStop t f t' hrecv

/-- **One pass**: a message was received and the pass went on with it, or nothing was. -/
theorem replyPass_ok {rig : Rig} {cap n : ℕ} {g g' : Glasses} {stop : Option TurnEnd}
    (h : (replyPass rig cap n).run g = (.ok stop, g')) :
    ∃ type text, sdMsgRecv (rig.recvHeap n) (rig.typeBuf n) (rig.textBuf n).bytes g.conn
        = some (.ok type, text, g'.conn) ∧
      stop = (match type with
        | .audioBegin => some (.audioBegin text)
        | .playAudio => some .playAudio
        | _ => none) ∧ type ≠ .error := by
  rw [replyPass, Effect.run_bind] at h
  rcases hrecv : sdMsgRecv (rig.recvHeap n) (rig.typeBuf n) (rig.textBuf n).bytes g.conn
    with _ | ⟨e | type, text, conn⟩
  · simp [recvReply, hrecv] at h
  · simp [recvReply, hrecv] at h
  · simp only [recvReply, hrecv] at h
    refine ⟨type, text, ?_⟩
    cases type with
    | aiResponse =>
        simp only [Effect.run_bind, handResponse] at h
        cases hs : cstring text with
        | none => simp [hs] at h
        | some s =>
            simp only [hs, Effect.run_pure, Prod.mk.injEq, Except.ok.injEq] at h
            obtain ⟨rfl, rfl⟩ := h
            exact ⟨rfl, rfl, by simp⟩
    | error =>
        simp only [Effect.run_bind, logError] at h
        cases hs : cstring text <;> simp [hs] at h
    | _ =>
        simp only [Effect.run_pure, Prod.mk.injEq, Except.ok.injEq] at h
        obtain ⟨rfl, rfl⟩ := h
        exact ⟨rfl, rfl, by simp⟩

/-- A pass does not touch the audio backend. -/
lemma replyPass_played (rig : Rig) (cap n : ℕ) (g : Glasses) :
    ((replyPass rig cap n).run g).2.played = g.played := by
  rw [replyPass, Effect.run_bind]
  rcases hrecv : sdMsgRecv (rig.recvHeap n) (rig.typeBuf n) (rig.textBuf n).bytes g.conn
    with _ | ⟨e | type, text, conn⟩
  · simp [recvReply, hrecv]
  · simp [recvReply, hrecv]
  · simp only [recvReply, hrecv]
    cases type with
    | aiResponse =>
        simp only [Effect.run_bind, handResponse]
        cases cstring text <;> rfl
    | error =>
        simp only [Effect.run_bind, logError]
        cases cstring text <;> rfl
    | _ => rfl

/-- The reply loop, from pass `n` on. -/
def replyLoop (rig : Rig) (cap n : ℕ) (g : Glasses) : Except Halt TurnEnd × Glasses :=
  match _hpass : (replyPass rig cap n).run g with
  | (.error e, g') => (.error e, g')
  | (.ok (some turnEnd), g') => (.ok turnEnd, g')
  | (.ok none, g') => replyLoop rig cap (n + 1) g'
termination_by g.conn.bytes.length
decreasing_by
  obtain ⟨type, text, hrecv, -⟩ := replyPass_ok _hpass
  exact sdMsgRecv_consumes hrecv

/-! ## The turn -/

/-- `response_out[0] = '\0'`. -/
def clearResponse (cap : ℕ) : Effect Glasses Halt Unit := ⟨fun g =>
  (.ok (), { g with response := if cap = 0 then g.response else [] })⟩

/-- `sd_camera_capture`. -/
def captureImage (rig : Rig) : Effect Glasses Halt (Capture rig.target) :=
  Effect.ofExcept (match rig.camera with
    | .error e => .error (.code e)
    | .ok image => .ok image)

/-- `sd_msg_send_image`. -/
def uploadImage (rig : Rig) (imageId : CStr) (image : Capture rig.target) : Effect Glasses Halt Unit :=
  ⟨fun g =>
    match (sdMsgSendImage rig.target rig.sendHeap imageId image.data image.mediaType).run g.out with
    | (.error e, out) => (.error (.code e), { g with out := out })
    | (.ok (), out) => (.ok (), { g with out := out })⟩

/-- What the loop does with the message that ended it. -/
def finishTurn (rig : Rig) : TurnEnd → Effect Glasses Halt Unit
  | .audioBegin text => playAudioDownlink rig text
  | .playAudio => pure ()

/-- `sd_device_run_uplink`. -/
def sdDeviceRunUplink (rig : Rig) (imageId : CStr) (cap : ℕ) : Effect Glasses Halt Unit := do
  clearResponse cap
  let image ← captureImage rig
  uploadImage rig imageId image
  let turnEnd ← ⟨replyLoop rig cap 0⟩
  finishTurn rig turnEnd

/-! ## What the loop has read -/

/-- The messages that the `n`-th pass and those after it take off a stream. -/
inductive Replies (rig : Rig) : ℕ → Inbound → List (MsgType × Bytes) → Inbound → Prop
  | nil (n : ℕ) (t : Inbound) : Replies rig n t [] t
  | cons {n : ℕ} {t t₁ t₂ : Inbound} {type : MsgType} {text : Bytes} {msgs : List (MsgType × Bytes)} :
      sdMsgRecv (rig.recvHeap n) (rig.typeBuf n) (rig.textBuf n).bytes t = some (.ok type, text, t₁) →
      Replies rig (n + 1) t₁ msgs t₂ → Replies rig n t ((type, text) :: msgs) t₂

/-- The message that ends the turn. -/
def TurnEnd.EndedBy : TurnEnd → MsgType × Bytes → Prop
  | .audioBegin text, msg => msg = (.audioBegin, text)
  | .playAudio, msg => msg.1 = .playAudio

/-- **What a run of the loop did**: it played nothing, and a loop that came to an end has read messages
that do not end the turn and then one that does. -/
theorem replyLoop_spec (rig : Rig) (cap n : ℕ) (g : Glasses) :
    (replyLoop rig cap n g).2.played = g.played ∧
      ∀ turnEnd g', replyLoop rig cap n g = (.ok turnEnd, g') →
        ∃ msgs last, Replies rig n g.conn (msgs ++ [last]) g'.conn ∧ turnEnd.EndedBy last ∧
          ∀ msg ∈ msgs, msg.1 ≠ .audioBegin ∧ msg.1 ≠ .playAudio := by
  fun_induction replyLoop rig cap n g with
  | case1 n g e g' hpass =>
      have hplayed := replyPass_played rig cap n g
      rw [hpass] at hplayed
      exact ⟨hplayed, by simp⟩
  | case2 n g turnEnd g' hpass =>
      have hplayed := replyPass_played rig cap n g
      rw [hpass] at hplayed
      refine ⟨hplayed, ?_⟩
      intro turnEnd' g'' heq
      simp only [Prod.mk.injEq, Except.ok.injEq] at heq
      obtain ⟨rfl, rfl⟩ := heq
      obtain ⟨type, text, hrecv, hstop, -⟩ := replyPass_ok hpass
      refine ⟨[], (type, text), .cons hrecv (.nil _ _), ?_, by simp⟩
      cases type <;> simp_all [TurnEnd.EndedBy]
  | case3 n g g' hpass ih =>
      obtain ⟨hplayed, hread⟩ := ih
      have hkept := replyPass_played rig cap n g
      rw [hpass] at hkept
      refine ⟨hplayed.trans hkept, ?_⟩
      intro turnEnd g'' heq
      obtain ⟨msgs, last, hreplies, hended, hmsgs⟩ := hread turnEnd g'' heq
      obtain ⟨type, text, hrecv, hstop, -⟩ := replyPass_ok hpass
      refine ⟨(type, text) :: msgs, last, .cons hrecv hreplies, hended, ?_⟩
      refine List.forall_mem_cons.mpr ⟨?_, hmsgs⟩
      constructor <;> rintro rfl <;> simp at hstop

/-- Up to the reply loop nothing is read from the phone and nothing played. -/
lemma sdDeviceRunUplink_prelude (rig : Rig) (imageId : CStr) (cap : ℕ) (g : Glasses) :
    (∃ e g', (sdDeviceRunUplink rig imageId cap).run g = (.error e, g') ∧ g'.played = g.played) ∨
      ∃ g₁, g₁.conn = g.conn ∧ g₁.played = g.played ∧ (sdDeviceRunUplink rig imageId cap).run g
        = (do let turnEnd ← ⟨replyLoop rig cap 0⟩; finishTurn rig turnEnd : Effect Glasses Halt Unit).run g₁ := by
  rw [sdDeviceRunUplink, Effect.run_bind]
  simp only [clearResponse, captureImage]
  rw [Effect.run_ofExcept_bind]
  cases rig.camera with
  | error e => exact Or.inl ⟨_, _, rfl, rfl⟩
  | ok image =>
      simp only
      rw [Effect.run_bind, uploadImage]
      simp only
      rcases (sdMsgSendImage rig.target rig.sendHeap imageId image.data image.mediaType).run g.out
        with ⟨e | _, out⟩
      · exact Or.inl ⟨_, _, rfl, rfl⟩
      · exact Or.inr ⟨{ g with response := if cap = 0 then g.response else [], out := out }, rfl, rfl, rfl⟩

/-! ## What was played -/

lemma carried_le {fs : List Frame} {size : ℕ} (h : ∀ f ∈ fs, ChunkFrame size f) :
    carried fs ≤ fs.length * chunkSize := by
  induction fs with
  | nil => simp [carried, chunksOf]
  | cons f fs ih =>
      rw [List.forall_mem_cons] at h
      have hf : (chunkOf f.payload).data.length ≤ chunkSize := h.1.2.2.1
      have hrest := ih h.2
      rw [carried_cons, List.length_cons, Nat.succ_mul]
      omega

/-- The call is for a body that was announced and received in full: the replies up to an `audio_begin`,
the fields read off its text, as many chunk frames as announced, the closing frame, and the samples under
the digest announced. -/
def Verified (rig : Rig) (conn : Inbound) (call : PlayCall) : Prop :=
  ∃ msgs begun fields t₀ fs t₁ closing,
    Replies rig 0 conn (msgs ++ [(.audioBegin, begun)]) t₀ ∧
    (∀ msg ∈ msgs, msg.1 ≠ .audioBegin ∧ msg.1 ≠ .playAudio) ∧
    audioFields rig.shaBuf begun = .ok fields ∧
    receive (sdFrameRecv frameCap).run fields.chunks.toNat t₀ = (fs, none, t₁) ∧
    (∀ f ∈ fs, ChunkFrame fields.size.toNat f) ∧
    (sdFrameRecv frameCap).run t₁ = (.ok closing, call.ahead) ∧ closing.kind = kindJson ∧
    (rig.target = .host → carried fs = fields.size.toNat) ∧
    call.pcm.length = fields.size.toNat ∧ Sha256.hexdigest call.pcm = fields.sha.bytes

/-- What `play_audio_downlink` played is verified. -/
lemma Plays.verified {rig : Rig} {conn : Inbound} {begun : Bytes} {g g' : Glasses}
    {r : Except Halt Unit} {fields : AudioFields} {call : PlayCall} {msgs : List (MsgType × Bytes)}
    (h : Plays rig begun g r g' fields call)
    (hreplies : Replies rig 0 conn (msgs ++ [(.audioBegin, begun)]) g.conn)
    (hmsgs : ∀ msg ∈ msgs, msg.1 ≠ .audioBegin ∧ msg.1 ≠ .playAudio) : Verified rig conn call := by
  obtain ⟨buffer, hbuffer, hbody⟩ := h.received
  have hlen := length_recvAudioBody hbuffer hbody
  obtain ⟨-, fs, haudio, -, hsha⟩ := (recvAudioBody_ok_iff hbuffer).mp hbody
  obtain ⟨t₁, closing, hrecv, hclosing, hkind⟩ := haudio.received
  refine ⟨msgs, begun, fields, g.conn, fs, t₁, closing, hreplies, hmsgs, h.fields_read, hrecv, haudio.fits,
    hclosing, hkind, ?_, hlen, ?_⟩
  · -- At most `2 ^ 32` chunks of at most `chunkSize` octets: 64 bits hold the sum.
    intro hhost
    have htotal := haudio.total
    have hle := carried_le haudio.fits
    have hchunks := fields.chunks.toNat_lt
    rw [length_receive hrecv, chunkSize] at hle
    rw [hhost, show Target.host.sizeModulus = 2 ^ 64 from rfl] at htotal
    omega
  · have hsize := fields.size.toNat_lt
    rw [← sdSha256Hex_eq (by omega)]
    exact hsha

/-- **The glasses never play unverified audio.**  On every run and every stream the backend is called at
most once, and only for a body that was announced, received in full and has the digest announced; and the
run succeeds only if that call did or a `play_audio` was read. -/
theorem plays_verified_audio (rig : Rig) (imageId : CStr) (cap : ℕ) (g : Glasses) :
    ∃ calls, ((sdDeviceRunUplink rig imageId cap).run g).2.played = g.played ++ calls ∧
      calls.length ≤ 1 ∧ (∀ call ∈ calls, Verified rig g.conn call) ∧
      (((sdDeviceRunUplink rig imageId cap).run g).1 = .ok () →
        (∃ call ∈ calls, call.result = .ok ()) ∨
          ∃ msgs text t, Replies rig 0 g.conn (msgs ++ [(.playAudio, text)]) t) := by
  rcases sdDeviceRunUplink_prelude rig imageId cap g with ⟨e, g', hrun, hplayed⟩ | ⟨g₁, hconn, hplayed, hrun⟩
  · rw [hrun]
    exact ⟨[], by simpa using hplayed, by simp, by simp, by simp⟩
  obtain ⟨hkept, hread⟩ := replyLoop_spec rig cap 0 g₁
  rw [hrun, ← hconn, ← hplayed, Effect.run_bind]
  rcases hloop : replyLoop rig cap 0 g₁ with ⟨e | turnEnd, g₂⟩
  · rw [hloop] at hkept
    simp only [hloop]
    exact ⟨[], by simpa using hkept, by simp, by simp, by simp⟩
  obtain ⟨msgs, last, hreplies, hended, hmsgs⟩ := hread turnEnd g₂ hloop
  rw [hloop] at hkept
  simp only at hkept
  simp only [hloop, ← hkept]
  cases turnEnd with
  | playAudio =>
      obtain ⟨type, text⟩ := last
      obtain rfl : type = .playAudio := hended
      exact ⟨[], by simp [finishTurn], by simp, by simp, fun _ => Or.inr ⟨msgs, text, _, hreplies⟩⟩
  | audioBegin begun =>
      obtain rfl : last = (.audioBegin, begun) := hended
      rw [finishTurn]
      rcases hplay : (playAudioDownlink rig begun).run g₂ with ⟨r, g₃⟩
      rcases playAudioDownlink_spec hplay with ⟨hnone, e, rfl, -⟩ | ⟨fields, call, hplays⟩
      · exact ⟨[], by simpa using hnone, by simp, by simp, by simp⟩
      · refine ⟨[call], hplays.recorded, le_rfl, ?_, ?_⟩
        · intro call' hcall
          rw [List.mem_singleton.mp hcall]
          exact hplays.verified hreplies hmsgs
        · intro hok
          exact Or.inl ⟨call, List.mem_singleton_self _, hplays.result.trans hok⟩

end Sudonit
