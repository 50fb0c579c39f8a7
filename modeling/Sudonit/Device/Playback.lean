import Sudonit.Protocol.AudioTransfer
import Sudonit.Protocol.ControlText

/-!
# `device.c`: playing an audio downlink

`play_audio_downlink` reads five fields off the text of an `audio_begin`, receives the body into a
buffer of the announced size and hands it to the audio backend.

What the device runs in is a `Rig`: the target, what `malloc` finds, what uninitialised arrays held, the
audio backend and the camera.  A function stops with a `Halt`: the error code it returns, or undefined
behaviour.  Every call of `sd_audio_play_pcm` is recorded.

* `sdAudioInit`, `sdAudioPlayPcm` — the three backends.
* `playAudioDownlink_spec` — what a run of the function did.
* `playback_in_bounds` — the divisor is not zero and the backend reads inside the buffer, for every
  announced format.
-/

namespace Sudonit

open Octets Stream Frames CText Chunks

/-! ## Audio backends -/

/-- The state of an audio backend: whether it is up (`s_initialized`, `s_tx`), the format it is
configured for, and the count of the mock. -/
structure AudioState where
  ready : Bool
  sampleRate : ℕ
  channels : UInt8
  framesPlayed : ℕ

/-- The I2S driver below the ESP32 backend, by what its calls do. -/
structure I2s where
  /-- `i2s_new_channel` -/
  newChannel : Bool
  /-- `i2s_channel_init_std_mode` and `i2s_channel_enable` -/
  start : Bool
  /-- `i2s_channel_write`: whether it returns `ESP_OK`, and how much it wrote -/
  write : Bytes → Bool × ℕ

/-- The backends of `audio.h`. -/
inductive Backend
  | mock
  | max98357a (driver : I2s)
  | stub

/-- `sd_audio_init` of `audio_mock.c`. -/
def mockInit (sampleRate : ℕ) (channels : UInt8) : Effect AudioState Halt Unit := ⟨fun s =>
  if sampleRate = 0 ∨ channels = 0 then (.error (.code .invalid), s)
  else (.ok (), ⟨true, sampleRate, channels, 0⟩)⟩

/-- `sd_audio_init` of `audio_esp.c` with the driver. -/
def espInit (driver : I2s) (sampleRate : ℕ) (channels : UInt8) : Effect AudioState Halt Unit := ⟨fun s =>
  if sampleRate = 0 ∨ channels = 0 ∨ 2 < channels then (.error (.code .invalid), s)
  else if s.ready ∧ sampleRate = s.sampleRate ∧ channels = s.channels then (.ok (), s)
  else if driver.newChannel = false then (.error (.code .io), { s with ready := false })
  else if driver.start = false then (.error (.code .io), { s with ready := false })
  else (.ok (), { s with ready := true, sampleRate := sampleRate, channels := channels })⟩

/-- `sd_audio_init` of `audio_esp.c` without the driver. -/
def stubInit (sampleRate : ℕ) (channels : UInt8) : Effect AudioState Halt Unit :=
  if sampleRate = 0 ∨ channels = 0 then Effect.fail (.code .invalid) else pure ()

/-- `sd_audio_init`. -/
def sdAudioInit : Backend → ℕ → UInt8 → Effect AudioState Halt Unit
  | .mock => mockInit
  | .max98357a driver => espInit driver
  | .stub => stubInit

/-- `sd_audio_play_pcm` of `audio_mock.c`, with samples. -/
def mockPlay (frameCount : ℕ) : Effect AudioState Halt Unit := ⟨fun s =>
  if s.ready = false then (.error (.code .again), s)
  else (.ok (), { s with framesPlayed := s.framesPlayed + frameCount })⟩

/-- `sd_audio_play_pcm` of `audio_esp.c` with the driver, with samples.  The driver reads as many octets
as it is told to. -/
def espPlay (target : Target) (driver : I2s) (samples : Bytes) (frameCount : ℕ) :
    Effect AudioState Halt Unit := ⟨fun s =>
  if s.ready = false then (.error (.code .unsupported), s)
  else if frameCount = 0 then (.ok (), s)
  else
    let bytes := frameCount * s.channels.toNat * 2 % target.sizeModulus
    if samples.length < bytes then (.error .undefined, s)
    else if driver.write (samples.take bytes) = (true, bytes) then (.ok (), s)
    else (.error (.code .io), s)⟩

/-- `sd_audio_play_pcm`. -/
def sdAudioPlayPcm (target : Target) (backend : Backend) (samples : Bytes) (frameCount : ℕ) :
    Effect AudioState Halt Unit :=
  match backend with
  | .mock => mockPlay frameCount
  | .max98357a driver => espPlay target driver samples frameCount
  | .stub => Effect.fail (.code .unsupported)

/-! ## The device -/

/-- A call of `sd_audio_play_pcm`: its arguments, the channels the backend was configured for, what was
still to be read from the phone, and the result. -/
structure PlayCall where
  pcm : Bytes
  frameCount : ℕ
  configured : UInt8
  ahead : Inbound
  result : Except Halt Unit

/-- What a run of the device has done so far: the two ends of the connection, the audio backend, the
calls to it, and the text handed to the application. -/
structure Glasses where
  conn : Inbound
  out : Outbound
  audio : AudioState
  played : List PlayCall
  response : Bytes
  responseBytes : ℕ

/-- What `sd_camera_capture` hands over. -/
structure Capture (target : Target) where
  data : Object target
  mediaType : CStr

/-- What a run of the device finds around it. -/
structure Rig where
  target : Target
  backend : Backend
  camera : Except SdErr (Capture target)
  /-- the chunk buffer of `sd_msg_send_image` -/
  sendHeap : Bool
  /-- the frame buffer of the `n`-th `sd_msg_recv` -/
  recvHeap : ℕ → Bool
  /-- the frame buffer of `sd_msg_recv_audio_body` -/
  bodyHeap : Bool
  /-- the sample buffer of `play_audio_downlink` -/
  sampleHeap : (n : ℕ) → Option (Buffer n)
  /-- `type` in the `n`-th `sd_msg_recv` -/
  typeBuf : ℕ → Buffer 32
  /-- `text` in the `n`-th pass of the reply loop -/
  textBuf : ℕ → Buffer 1024
  /-- `sha` in `play_audio_downlink` -/
  shaBuf : Buffer 65

/-! ## `play_audio_downlink` -/

/-- The C string at the front of some memory. -/
def CStr.read (bs : Bytes) : Option CStr :=
  if 0 ∈ bs then some ⟨bs.takeWhile (· ≠ 0), fun h => by simpa using List.mem_takeWhile_imp h⟩ else none

/-- The five fields. -/
structure AudioFields where
  size : UInt32
  chunks : UInt32
  sampleRate : UInt32
  channels : UInt32
  sha : CStr

/-- One numeric field: any failure is `SD_ERR_IO`. -/
def uintField (beginJson key : Bytes) : Except Halt UInt32 :=
  match sdJsonGetUint beginJson key with
  | none => .error .undefined
  | some (.error _) => .error (.code .io)
  | some (.ok v) => .ok (UInt32.ofNat v)

/-- The digest: any failure is `SD_ERR_IO`. -/
def shaField (shaBuf : Buffer 65) (beginJson : Bytes) : Except Halt CStr :=
  match sdJsonGetString beginJson (ascii "sha256") shaBuf.bytes with
  | none => .error .undefined
  | some (.error _, _) => .error (.code .io)
  | some (.ok (), sha) =>
      match CStr.read sha with
      | none => .error .undefined
      | some sha => .ok sha

/-- The five lookups, up to the first that fails. -/
def audioFields (shaBuf : Buffer 65) (beginJson : Bytes) : Except Halt AudioFields := do
  let size ← uintField beginJson (ascii "size")
  let chunks ← uintField beginJson (ascii "chunks")
  let sampleRate ← uintField beginJson (ascii "sample_rate")
  let channels ← uintField beginJson (ascii "channels")
  let sha ← shaField shaBuf beginJson
  return ⟨size, chunks, sampleRate, channels, sha⟩

/-- `sd_msg_recv_audio_body` into the sample buffer. -/
def recvBody (rig : Rig) (fields : AudioFields) (pcm : Bytes) : Effect Glasses Halt Bytes := ⟨fun g =>
  match sdMsgRecvAudioBody rig.target rig.bodyHeap fields.chunks fields.size fields.sha pcm g.conn with
  | none => (.error .undefined, g)
  | some (.error e, _, conn) => (.error (.code e), { g with conn := conn })
  | some (.ok (), pcm, conn) => (.ok pcm, { g with conn := conn })⟩

/-- `sd_audio_init`. -/
def initAudio (rig : Rig) (fields : AudioFields) : Effect Glasses Halt Unit :=
  Effect.within Glasses.audio (fun audio g => { g with audio := audio })
    (sdAudioInit rig.backend fields.sampleRate.toNat fields.channels.toUInt8)

/-- `sd_audio_play_pcm`. -/
def playPcm (rig : Rig) (pcm : Bytes) (frameCount : ℕ) : Effect Glasses Halt Unit := ⟨fun g =>
  let played := (sdAudioPlayPcm rig.target rig.backend pcm frameCount).run g.audio
  (played.1, { g with
    audio := played.2
    played := g.played ++ [⟨pcm, frameCount, g.audio.channels, g.conn, played.1⟩] })⟩

/-- `size ? size : 1`. -/
def sampleBytes (size : UInt32) : ℕ := if size = 0 then 1 else size.toNat

lemma le_sampleBytes (size : UInt32) : size.toNat ≤ sampleBytes size := by
  rw [sampleBytes]
  split_ifs with h
  · rw [h]
    decide
  · exact le_rfl

/-- `play_audio_downlink`. -/
def playAudioDownlink (rig : Rig) (beginJson : Bytes) : Effect Glasses Halt Unit := do
  let fields ← Effect.ofExcept (audioFields rig.shaBuf beginJson)
  if fields.channels = 0 then Effect.fail (.code .io)
  else
    match rig.sampleHeap (sampleBytes fields.size) with
    | none => Effect.fail (.code .noMem)
    | some buffer => do
        let pcm ← recvBody rig fields (buffer.bytes.take fields.size.toNat)
        initAudio rig fields
        if 2 * fields.channels = 0 then Effect.fail .undefined
        else playPcm rig pcm (fields.size.toNat / (2 * fields.channels).toNat)

/-! ## What a run of it did -/

/-- The backend was called: the fields read, the body received into a buffer of the announced size, the
backend configured, and the call recorded. -/
structure Plays (rig : Rig) (beginJson : Bytes) (g : Glasses) (r : Except Halt Unit) (g' : Glasses)
    (fields : AudioFields) (call : PlayCall) : Prop where
  fields_read : audioFields rig.shaBuf beginJson = .ok fields
  received : ∃ buffer : Bytes, buffer.length = fields.size.toNat ∧
    sdMsgRecvAudioBody rig.target rig.bodyHeap fields.chunks fields.size fields.sha buffer g.conn
      = some (.ok (), call.pcm, call.ahead)
  configured : ∃ audio, (sdAudioInit rig.backend fields.sampleRate.toNat fields.channels.toUInt8).run
    g.audio = (.ok (), audio) ∧ call.configured = audio.channels ∧
    (sdAudioPlayPcm rig.target rig.backend call.pcm call.frameCount).run audio = (r, g'.audio)
  divisor : 2 * fields.channels ≠ 0
  frames : call.frameCount = fields.size.toNat / (2 * fields.channels).toNat
  result : call.result = r
  recorded : g'.played = g.played ++ [call]
  conn : g'.conn = call.ahead

/-! ## Bounds of a playback -/

/-- What a backend that is up was configured with. -/
lemma sdAudioInit_ok {backend : Backend} {sampleRate : ℕ} {channels : UInt8} {audio audio' : AudioState}
    (h : (sdAudioInit backend sampleRate channels).run audio = (.ok (), audio')) :
    sampleRate ≠ 0 ∧ channels ≠ 0 ∧
      (backend ≠ .stub → audio'.sampleRate = sampleRate ∧ audio'.channels = channels) := by
  cases backend with
  | mock =>
      simp only [sdAudioInit, mockInit] at h
      split_ifs at h with hzero
      · simp at h
      · rw [not_or] at hzero
        rw [← (Prod.mk.inj h).2]
        exact ⟨hzero.1, hzero.2, fun _ => ⟨rfl, rfl⟩⟩
  | max98357a driver =>
      simp only [sdAudioInit, espInit] at h
      split_ifs at h with hzero hsame hnew hstart
      · simp at h
      · rw [not_or, not_or] at hzero
        rw [← (Prod.mk.inj h).2]
        exact ⟨hzero.1, hzero.2.1, fun _ => ⟨hsame.2.1.symm, hsame.2.2.symm⟩⟩
      · simp at h
      · simp at h
      · rw [not_or, not_or] at hzero
        rw [← (Prod.mk.inj h).2]
        exact ⟨hzero.1, hzero.2.1, fun _ => ⟨rfl, rfl⟩⟩
  | stub =>
      simp only [sdAudioInit, stubInit] at h
      split_ifs at h with hzero
      · simp at h
      · rw [not_or] at hzero
        exact ⟨hzero.1, hzero.2, fun hne => absurd rfl hne⟩

/-- The two truncations of the channel count together: the divisor is at least two octets for each
channel the backend is configured for. -/
lemma configured_le_divisor (channels : UInt32) :
    channels.toUInt8.toNat * 2 ≤ (2 * channels).toNat ∨ channels.toUInt8 = 0 := by
  have hlt := channels.toNat_lt
  have hnarrow : channels.toUInt8.toNat = channels.toNat % 256 := UInt32.toNat_toUInt8 channels
  have hdouble : (2 * channels).toNat = 2 * channels.toNat % 2 ^ 32 := by
    rw [UInt32.toNat_mul]
    rfl
  rw [hdouble, hnarrow]
  rcases Nat.eq_zero_or_pos (channels.toNat % 256) with hzero | hpos
  · right
    rw [← UInt8.toNat_inj, hnarrow, hzero]
    rfl
  · left
    omega

lemma divisor_ne_zero {channels : UInt32} (h : channels.toUInt8 ≠ 0) : 2 * channels ≠ 0 := by
  intro hdiv
  have hle := (configured_le_divisor channels).resolve_right h
  rw [hdiv] at hle
  exact h (UInt8.toNat_inj.mp (Nat.eq_zero_of_le_zero (by simpa using hle)))

/-- The frames handed over are inside the samples, as the backend counts their octets. -/
lemma frames_in_bounds (size channels : UInt32) (hchannels : channels.toUInt8 ≠ 0) :
    size.toNat / (2 * channels).toNat * channels.toUInt8.toNat * 2 ≤ size.toNat := by
  have hle := (configured_le_divisor channels).resolve_right hchannels
  calc size.toNat / (2 * channels).toNat * channels.toUInt8.toNat * 2
      = size.toNat / (2 * channels).toNat * (channels.toUInt8.toNat * 2) := Nat.mul_assoc _ _ _
    _ ≤ size.toNat / (2 * channels).toNat * (2 * channels).toNat := Nat.mul_le_mul_left _ hle
    _ ≤ size.toNat := Nat.div_mul_le_self _ _

lemma uintField_defined {beginJson : Bytes} (h : 0 ∈ beginJson) (key : Bytes) :
    uintField beginJson key ≠ .error .undefined := by
  obtain ⟨r, hr⟩ := sdJsonGetUint_terminated h key
  rw [uintField, hr]
  cases r <;> simp

lemma shaField_defined {beginJson : Bytes} (h : 0 ∈ beginJson) (shaBuf : Buffer 65) :
    shaField shaBuf beginJson ≠ .error .undefined := by
  have hne : shaBuf.bytes ≠ [] := by
    intro hnil
    have := shaBuf.length_eq
    simp [hnil] at this
  rw [shaField, sdJsonGetString_eq h hne]
  cases textField beginJson (ascii "sha256") with
  | none => simp
  | some c =>
      simp only [written]
      split_ifs
      · have hzero : (0 : UInt8) ∈ overlay shaBuf.bytes (c.chars.foldl (put shaBuf.bytes.length) [] ++ [0]) := by
          simp [overlay]
        simp only [CStr.read, if_pos hzero]
        simp
      · simp

/-- Reading the fields leaves nothing undefined on a C string. -/
lemma audioFields_defined {beginJson : Bytes} (h : 0 ∈ beginJson) (shaBuf : Buffer 65) :
    audioFields shaBuf beginJson ≠ .error .undefined := by
  have huint := uintField_defined h
  refine Effect.exceptBind_ne_error (huint _) fun size => ?_
  refine Effect.exceptBind_ne_error (huint _) fun chunks => ?_
  refine Effect.exceptBind_ne_error (huint _) fun rate => ?_
  refine Effect.exceptBind_ne_error (huint _) fun channels => ?_
  refine Effect.exceptBind_ne_error (shaField_defined h shaBuf) fun sha => ?_
  simp [pure, Except.pure]

lemma sdAudioPlayPcm_defined {target : Target} {backend : Backend} {samples : Bytes} {frameCount : ℕ}
    {audio : AudioState} (h : backend ≠ .stub → frameCount * audio.channels.toNat * 2 ≤ samples.length) :
    ((sdAudioPlayPcm target backend samples frameCount).run audio).1 ≠ .error .undefined := by
  cases backend with
  | mock =>
      simp only [sdAudioPlayPcm, mockPlay]
      split_ifs <;> simp
  | max98357a driver =>
      have hread := (Nat.mod_le (frameCount * audio.channels.toNat * 2) target.sizeModulus).trans
        (h (by simp))
      simp only [sdAudioPlayPcm, espPlay]
      rw [if_neg (not_lt.mpr hread)]
      split_ifs <;> simp
  | stub => simp [sdAudioPlayPcm]

lemma length_recvAudioBody {target : Target} {heap : Bool} {chunks size : UInt32} {sha : CStr}
    {pcm pcm' : Bytes} {t t' : Inbound} (hpcm : pcm.length = size.toNat)
    (h : sdMsgRecvAudioBody target heap chunks size sha pcm t = some (.ok (), pcm', t')) :
    pcm'.length = size.toNat := by
  obtain ⟨-, fs, hbody, rfl, -⟩ := (recvAudioBody_ok_iff hpcm).mp h
  rw [length_writeAll, hpcm]
  intro c hc
  obtain ⟨f, hf, rfl⟩ := List.mem_map.mp hc
  exact hpcm ▸ (hbody.fits f hf).2.2

lemma sdAudioInit_defined {backend : Backend} {sampleRate : ℕ} {channels : UInt8}
    {audio audio' : AudioState} {e : Halt}
    (h : (sdAudioInit backend sampleRate channels).run audio = (.error e, audio')) : e ≠ .undefined := by
  rintro rfl
  cases backend with
  | mock =>
      simp only [sdAudioInit, mockInit] at h
      split_ifs at h <;> simp at h
  | max98357a driver =>
      simp only [sdAudioInit, espInit] at h
      split_ifs at h <;> simp at h
  | stub =>
      simp only [sdAudioInit, stubInit] at h
      split_ifs at h <;> simp at h

/-- **What a run of `play_audio_downlink` did**: it failed without a call of the backend, or made one. -/
theorem playAudioDownlink_spec {rig : Rig} {beginJson : Bytes} {g g' : Glasses} {r : Except Halt Unit}
    (h : (playAudioDownlink rig beginJson).run g = (r, g')) :
    (g'.played = g.played ∧ ∃ e, r = .error e ∧ (0 ∈ beginJson → e ≠ .undefined)) ∨
      ∃ fields call, Plays rig beginJson g r g' fields call := by
  have failed : ∀ {e : Halt} {s : Glasses}, (.error e, s) = (r, g') → s.played = g.played →
      (0 ∈ beginJson → e ≠ .undefined) →
      (g'.played = g.played ∧ ∃ e, r = .error e ∧ (0 ∈ beginJson → e ≠ .undefined)) ∨
        ∃ fields call, Plays rig beginJson g r g' fields call := by
    intro e s hrun hs hdefined
    obtain ⟨rfl, rfl⟩ := Prod.mk.inj hrun
    exact Or.inl ⟨hs, e, rfl, hdefined⟩
  rw [playAudioDownlink, Effect.run_ofExcept_bind] at h
  cases hfields : audioFields rig.shaBuf beginJson with
  | error e =>
      have hdefined : 0 ∈ beginJson → e ≠ .undefined := by
        rintro hzero rfl
        exact audioFields_defined hzero rig.shaBuf hfields
      rw [hfields] at h
      exact failed h rfl hdefined
  | ok fields =>
      simp only [hfields] at h
      by_cases hzero : fields.channels = 0
      · rw [if_pos hzero] at h
        exact failed h rfl (by simp)
      rw [if_neg hzero] at h
      cases hbuf : rig.sampleHeap (sampleBytes fields.size) with
      | none =>
          simp only [hbuf] at h
          exact failed h rfl (by simp)
      | some buffer =>
          simp only [hbuf] at h
          have hlen : (buffer.bytes.take fields.size.toNat).length = fields.size.toNat := by
            rw [List.length_take, buffer.length_eq, min_eq_left (le_sampleBytes _)]
          rw [Effect.run_bind] at h
          rcases hbody : sdMsgRecvAudioBody rig.target rig.bodyHeap fields.chunks fields.size fields.sha
              (buffer.bytes.take fields.size.toNat) g.conn with _ | ⟨e | _, pcm, conn⟩
          · obtain ⟨r', hr'⟩ := recvAudioBody_defined rig.bodyHeap fields.chunks fields.size fields.sha
              (show (buffer.bytes.take fields.size.toNat).length < rig.target.sizeModulus by
                have hsize := fields.size.toNat_lt
                have hmod := rig.target.le_sizeModulus
                omega) g.conn
            simp [hr'] at hbody
          · simp only [recvBody, hbody] at h
            exact failed h rfl (by simp)
          · simp only [recvBody, hbody] at h
            rw [Effect.run_bind, initAudio, Effect.run_within] at h
            rcases hinit : (sdAudioInit rig.backend fields.sampleRate.toNat fields.channels.toUInt8).run
                g.audio with ⟨e | _, audio⟩
            · simp only [hinit] at h
              exact failed h rfl fun _ => sdAudioInit_defined hinit
            · simp only [hinit] at h
              have hdiv := divisor_ne_zero (sdAudioInit_ok hinit).2.1
              rw [if_neg hdiv] at h
              obtain ⟨rfl, rfl⟩ := Prod.mk.inj h
              exact Or.inr ⟨fields, _, hfields, ⟨_, hlen, hbody⟩, ⟨audio, hinit, rfl, rfl⟩, hdiv, rfl,
                rfl, rfl, rfl⟩

lemma Plays.in_bounds {rig : Rig} {beginJson : Bytes} {g g' : Glasses} {r : Except Halt Unit}
    {fields : AudioFields} {call : PlayCall} (h : Plays rig beginJson g r g' fields call) :
    call.pcm.length = fields.size.toNat ∧
      call.frameCount * fields.channels.toUInt8.toNat * 2 ≤ fields.size.toNat ∧
      (rig.backend ≠ .stub → call.configured = fields.channels.toUInt8) ∧ r ≠ .error .undefined := by
  obtain ⟨buffer, hbuffer, hbody⟩ := h.received
  obtain ⟨audio, hinit, hconfigured, hplay⟩ := h.configured
  obtain ⟨-, hchannels, hformat⟩ := sdAudioInit_ok hinit
  have hlen := length_recvAudioBody hbuffer hbody
  have hbound := frames_in_bounds fields.size fields.channels hchannels
  rw [← h.frames] at hbound
  refine ⟨hlen, hbound, fun hne => hconfigured.trans (hformat hne).2, ?_⟩
  have hread : rig.backend ≠ .stub → call.frameCount * audio.channels.toNat * 2 ≤ call.pcm.length := by
    intro hne
    rw [(hformat hne).2, hlen]
    exact hbound
  have hdefined := @sdAudioPlayPcm_defined rig.target _ _ _ _ hread
  rwa [hplay] at hdefined

/-- **Playback stays in bounds for every announced format.**  Whenever `play_audio_downlink` calls the
backend, on either target and with either backend, the divisor it used was not zero and the octets the
backend is told to play are among those of the buffer; and on a C string the run does nothing
undefined. -/
theorem playback_in_bounds (rig : Rig) (beginJson : Bytes) (g : Glasses) :
    (∃ calls, ((playAudioDownlink rig beginJson).run g).2.played = g.played ++ calls ∧
      ∀ call ∈ calls, ∃ fields, audioFields rig.shaBuf beginJson = .ok fields ∧
        2 * fields.channels ≠ 0 ∧ call.pcm.length = fields.size.toNat ∧
        call.frameCount = fields.size.toNat / (2 * fields.channels).toNat ∧
        (rig.backend ≠ .stub → call.configured = fields.channels.toUInt8) ∧
        call.frameCount * fields.channels.toUInt8.toNat * 2 ≤ fields.size.toNat) ∧
    (0 ∈ beginJson → ((playAudioDownlink rig beginJson).run g).1 ≠ .error .undefined) := by
  rcases hrun : (playAudioDownlink rig beginJson).run g with ⟨r, g'⟩
  rcases playAudioDownlink_spec hrun with ⟨hplayed, e, rfl, hdefined⟩ | ⟨fields, call, hplays⟩
  · refine ⟨⟨[], by rw [hplayed, List.append_nil], by simp⟩, ?_⟩
    intro hzero he
    exact hdefined hzero (Except.error.inj he)
  · obtain ⟨hlen, hbound, hconfigured, hdefined⟩ := hplays.in_bounds
    refine ⟨⟨[call], hplays.recorded, ?_⟩, fun _ => hdefined⟩
    intro call' hcall'
    obtain rfl := List.mem_singleton.mp hcall'
    exact ⟨fields, hplays.fields_read, hplays.divisor, hlen, hplays.frames, hconfigured, hbound⟩

end Sudonit
