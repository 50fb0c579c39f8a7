import Sudonit.Device.Completion
import Sudonit.Phone.Answer
import Sudonit.Phone.Arrival

/-!
# Turns of the glasses with the phone

The two programs face each other: what `sd_device_run_uplink` sends goes to `handle_connection`, and what
that sends comes back.  The link may cut either stream anywhere, deliver it in any pieces, time out or
fail.

* `Exchange` — one turn of the two programs on a connection of its own.
* `turn_completes` — a turn comes to its end where nothing stands in its way.
* `turn_faithful` — what `SD_OK` means at the end of it.
* `turns_in_order` — what is heard over any number of turns.
-/

namespace Sudonit

open Octets Stream Frames CText Python Chunks

/-! ## What a turn sends -/

section Out

variable {out : Outbound}

lemma replyPass_out (rig : Rig) (cap n : ℕ) : (replyPass rig cap n).Keeps fun g => g.out = out := by
  intro g hg
  rw [replyPass, Effect.run_bind]
  rcases hrecv : sdMsgRecv (rig.recvHeap n) (rig.typeBuf n) (rig.textBuf n).bytes g.conn
    with _ | ⟨e | type, text, conn⟩
  · simpa [recvReply, hrecv] using hg
  · simpa [recvReply, hrecv] using hg
  · simp only [recvReply, hrecv]
    cases type with
    | aiResponse =>
        simp only [Effect.run_bind, handResponse]
        cases cstring text <;> exact hg
    | error =>
        simp only [Effect.run_bind, logError]
        cases cstring text <;> exact hg
    | _ => exact hg

lemma replyLoop_out (rig : Rig) (cap n : ℕ) {g : Glasses} (hg : g.out = out) :
    (replyLoop rig cap n g).2.out = out := by
  fun_induction replyLoop rig cap n g with
  | case1 n g e g' hpass => exact (replyPass_out rig cap n).run hg hpass
  | case2 n g turnEnd g' hpass => exact (replyPass_out rig cap n).run hg hpass
  | case3 n g g' hpass ih => exact ih ((replyPass_out rig cap n).run hg hpass)

lemma replyLoop_out_eq {rig : Rig} {cap n : ℕ} {g g' : Glasses} {r : Except Halt TurnEnd} (hg : g.out = out)
    (h : replyLoop rig cap n g = (r, g')) : g'.out = out := by
  have hout := replyLoop_out rig cap n hg
  rwa [h] at hout

/-- What playing an utterance leaves alone. -/
def beside (g : Glasses) : Outbound × Bytes × ℕ := (g.out, g.response, g.responseBytes)

variable {kept : Outbound × Bytes × ℕ}

lemma recvBody_beside (rig : Rig) (fields : AudioFields) (pcm : Bytes) :
    (recvBody rig fields pcm).Keeps fun g => beside g = kept := by
  intro g hg
  rw [recvBody]
  simp only
  split <;> exact hg

lemma playAudioDownlink_beside (rig : Rig) (beginJson : Bytes) :
    (playAudioDownlink rig beginJson).Keeps fun g => beside g = kept := by
  rw [playAudioDownlink]
  refine Effect.Keeps.bind (fun g hg => hg) fun fields => ?_
  by_cases hzero : fields.channels = 0
  · rw [if_pos hzero]
    exact Effect.Keeps.fail _
  · rw [if_neg hzero]
    cases rig.sampleHeap (sampleBytes fields.size) with
    | none => exact Effect.Keeps.fail _
    | some buffer =>
        refine (recvBody_beside rig fields _).bind fun pcm => Effect.Keeps.bind (fun g hg => hg) fun _ => ?_
        split_ifs
        · exact Effect.Keeps.fail _
        · exact fun g hg => hg

end Out

/-- The image of a turn. -/
def turnShot (rig : Rig) (imageId : CStr) (capture : Capture rig.target) : Shot rig.target :=
  ⟨rig.sendHeap, imageId, capture.data, capture.mediaType⟩

lemma send_turnShot (rig : Rig) (imageId : CStr) (capture : Capture rig.target) :
    (turnShot rig imageId capture).send
      = sdMsgSendImage rig.target rig.sendHeap imageId capture.data capture.mediaType := rfl

/-- What the application finds in its buffer when the loop begins. -/
def cleared (cap : ℕ) (g : Glasses) : Bytes := if cap = 0 then g.response else []

/-- The turn sent its image and read its way to the message that ended it. -/
structure Finished (rig : Rig) (imageId : CStr) (cap : ℕ) (g : Glasses) (r : Except Halt Unit) (g' : Glasses)
    (capture : Capture rig.target) (turnEnd : TurnEnd) (g₁ : Glasses) : Prop where
  camera : rig.camera = .ok capture
  sent : (turnShot rig imageId capture).send.run g.out = (.ok (), g'.out)
  looped : replyLoop rig cap 0 { g with out := g'.out, response := cleared cap g } = (.ok turnEnd, g₁)
  finished : (finishTurn rig turnEnd).run g₁ = (r, g')

/-- What a turn has sent, if anything, of the image it captured. -/
def Uploaded (rig : Rig) (imageId : CStr) (out out' : Outbound) : Prop :=
  out' = out ∨ ∃ capture r, rig.camera = .ok capture ∧
    (turnShot rig imageId capture).send.run out = (r, out')

lemma finishTurn_beside {rig : Rig} {turnEnd : TurnEnd} {g g' : Glasses} {r : Except Halt Unit}
    (h : (finishTurn rig turnEnd).run g = (r, g')) : beside g' = beside g := by
  cases turnEnd with
  | audioBegin text => exact (playAudioDownlink_beside rig text).run rfl h
  | playAudio => exact congrArg beside (Prod.mk.inj h).2.symm

/-- **A turn** failed without a call of the audio backend, or sent its image and read its way to the message
that ended it. -/
theorem sdDeviceRunUplink_run {rig : Rig} {imageId : CStr} {cap : ℕ} {g g' : Glasses} {r : Except Halt Unit}
    (h : (sdDeviceRunUplink rig imageId cap).run g = (r, g')) :
    ((∃ e, r = .error e) ∧ g'.played = g.played ∧ Uploaded rig imageId g.out g'.out) ∨
      ∃ capture turnEnd g₁, Finished rig imageId cap g r g' capture turnEnd g₁ := by
  rw [sdDeviceRunUplink, Effect.run_bind_ok (show (clearResponse cap).run g = _ from rfl), captureImage,
    Effect.run_ofExcept_bind] at h
  cases hcamera : rig.camera with
  | error e =>
      simp only [hcamera] at h
      obtain ⟨rfl, rfl⟩ := Prod.mk.inj h
      exact Or.inl ⟨⟨_, rfl⟩, rfl, Or.inl rfl⟩
  | ok capture =>
      simp only [hcamera] at h
      rw [Effect.run_bind, uploadImage] at h
      simp only at h
      rcases hsend : (sdMsgSendImage rig.target rig.sendHeap imageId capture.data capture.mediaType).run g.out
        with ⟨e | _, out⟩
      · rw [hsend] at h
        simp only at h
        obtain ⟨rfl, rfl⟩ := Prod.mk.inj h
        refine Or.inl ⟨⟨_, rfl⟩, rfl, Or.inr ⟨capture, .error e, hcamera, ?_⟩⟩
        rw [send_turnShot, hsend]
      · rw [hsend] at h
        simp only at h
        rw [← send_turnShot] at hsend
        rw [Effect.run_bind] at h
        rcases hloop : replyLoop rig cap 0 { g with out := out, response := cleared cap g }
          with ⟨e | turnEnd, g₁⟩
        · have hplayed := (replyLoop_spec rig cap 0 { g with out := out, response := cleared cap g }).1
          have hout : g₁.out = out := replyLoop_out_eq rfl hloop
          rw [cleared] at hloop hplayed
          simp only [hloop] at h hplayed
          obtain ⟨rfl, rfl⟩ := Prod.mk.inj h
          exact Or.inl ⟨⟨_, rfl⟩, hplayed, Or.inr ⟨capture, .ok (), hcamera, by rw [hsend, hout]⟩⟩
        · have hout : g₁.out = out := replyLoop_out_eq rfl hloop
          have hfinish : (finishTurn rig turnEnd).run g₁ = (r, g') := by
            rw [cleared] at hloop
            simpa only [hloop] using h
          obtain rfl : g'.out = out := (congrArg Prod.fst (finishTurn_beside hfinish)).trans hout
          exact Or.inr ⟨capture, turnEnd, g₁, hcamera, hsend, hloop, hfinish⟩

/-! ## A turn with the phone -/

/-- One turn on a connection of its own: what the glasses send arrives up to somewhere and is served, and
what the phone sends arrives up to somewhere. -/
structure Exchange (phone : Phone) (rig : Rig) (imageId : CStr) (cap : ℕ) (g : Glasses) (s : Served)
    (r : Except Halt Unit) (g' : Glasses) (s' : Served) : Prop where
  turn : (sdDeviceRunUplink rig imageId cap).run g = (r, g')
  up : ∃ conn lost, g'.out.sent = g.out.sent ++ (conn.bytes ++ lost) ∧ (handleConnection phone conn s).2 = s'
  down : ∃ lost, s'.out.sent = s.out.sent ++ (g.conn.bytes ++ lost)

/-- The names of the turn are plain, and that of the image is none of the keys of an `audio_begin`. -/
structure Named (rig : Rig) (imageId : CStr) : Prop where
  plain : ∀ capture, rig.camera = .ok capture → (turnShot rig imageId capture).Plain
  imageId : imageId.bytes ∉ audioKeys

/-- The call of the pipeline for the image of a turn. -/
def turnCall (rig : Rig) (imageId : CStr) (capture : Capture rig.target) : RunCall :=
  (turnShot rig imageId capture).image.call

lemma concluded_snd {α : Type} (r : Except PyExc α × Served) : (concluded r).2 = r.2 := by
  rcases r with ⟨e | a, s⟩ <;> rfl

/-- What the phone makes of the front of the frames of one image. -/
lemma handleConnection_shot {target : Target} (phone : Phone) {shot : Shot target} (hopens : shot.Opens)
    (hplain : shot.Plain) {conn : Inbound} (hb : conn.bytes <+: wire shot.frames) (s : Served) :
    ((handleConnection phone conn s).2 = s ∨
      (handleConnection phone conn s).2 = ((processAndReply phone shot.image).run s).2) ∧
    (conn.Steady → conn.bytes = wire shot.frames →
      (handleConnection phone conn s).2 = ((processAndReply phone shot.image).run s).2) := by
  have hfront : conn.bytes <+: wire ([shot].flatMap Shot.frames) := by simpa using hb
  obtain ⟨k, hle, hserved, hwhole⟩ := handleConnection_front phone (by simpa using hopens) (by simpa using hplain)
    hfront s
  have hone : ((processImages phone (([shot].take 1).map Shot.image)).run s).2
      = ((processAndReply phone shot.image).run s).2 := by
    rw [List.take_succ_cons, List.take_zero, List.map_singleton, processImages, Effect.forEach_cons,
      Effect.run_bind]
    rcases (processAndReply phone shot.image).run s with ⟨e | _, s'⟩ <;> rfl
  rw [hserved, concluded_snd]
  rw [List.length_singleton] at hle hwhole
  constructor
  · rcases Nat.le_one_iff_eq_zero_or_eq_one.mp hle with rfl | rfl
    · exact Or.inl rfl
    · exact Or.inr hone
  · intro hsteady heq
    rw [hwhole hsteady (by simpa using heq), hone]

section Turn

variable {phone : Phone} {rig : Rig} {imageId : CStr} {cap : ℕ} {g g' : Glasses} {s s' : Served}
  {r : Except Halt Unit}

lemma sdDeviceRunUplink_uploaded (h : (sdDeviceRunUplink rig imageId cap).run g = (r, g')) :
    Uploaded rig imageId g.out g'.out := by
  rcases sdDeviceRunUplink_run h with ⟨-, -, hup⟩ | ⟨capture, turnEnd, g₁, hfinished⟩
  · exact hup
  · exact Or.inr ⟨capture, _, hfinished.camera, hfinished.sent⟩

/-- **What the phone does in a turn**: nothing, or what it does with the image of the turn. -/
theorem Exchange.served (h : Exchange phone rig imageId cap g s r g' s') (hnamed : Named rig imageId) :
    s' = s ∨ ∃ capture, rig.camera = .ok capture ∧ (turnShot rig imageId capture).Opens ∧
      s' = ((processAndReply phone (turnShot rig imageId capture).image).run s).2 := by
  obtain ⟨conn, lost, hsent, rfl⟩ := h.up
  have nothing : conn.bytes = [] → (handleConnection phone conn s).2 = s := by
    intro hb
    have hfront : conn.bytes <+: wire (([] : List (Shot rig.target)).flatMap Shot.frames) := by simp [hb]
    obtain ⟨k, hle, hserved, -⟩ := handleConnection_front phone (by simp) (by simp) hfront s
    rw [hserved, concluded_snd, List.take_nil]
    rfl
  rcases sdDeviceRunUplink_uploaded h.turn with hout | ⟨capture, r', hcamera, hsend⟩
  · rw [hout, List.self_eq_append_right, List.append_eq_nil_iff] at hsent
    exact Or.inl (nothing hsent.1)
  · by_cases hopens : (turnShot rig imageId capture).Opens
    · obtain ⟨done, hdone, hsent', -⟩ := (turnShot rig imageId capture).send_sendsFront g.out
      rw [hsend, hsent, List.append_cancel_left_eq] at hsent'
      have hb : conn.bytes <+: wire (turnShot rig imageId capture).frames :=
        List.IsPrefix.trans ⟨lost, hsent'⟩ hdone
      exact (handleConnection_shot phone hopens (hnamed.plain capture hcamera) hb s).1.imp_right
        fun hs => ⟨capture, hcamera, hopens, hs⟩
    · rw [Shot.send_refused hopens, Prod.mk.injEq] at hsend
      rw [← hsend.2, List.self_eq_append_right, List.append_eq_nil_iff] at hsent
      exact Or.inl (nothing hsent.1)

/-- What a turn did with the pipeline and what the glasses can hear of it: nothing, or the front of the
answer to the image of the turn. -/
inductive Answer (phone : Phone) (rig : Rig) (imageId : CStr) (heard : Bytes) (before : List RunCall) :
    List RunCall → Prop
  | silent : heard = [] → Answer phone rig imageId heard before before
  | called {capture : Capture rig.target} : heard = [] → rig.camera = .ok capture →
      Answer phone rig imageId heard before (before ++ [turnCall rig imageId capture])
  | answered {capture : Capture rig.target} {result : PipelineResult} : rig.camera = .ok capture →
      (turnShot rig imageId capture).Opens →
      phone.pipelineRun before (turnCall rig imageId capture) = .ok result →
      heard <+: wire (answerFrames phone.py (turnShot rig imageId capture).image result) →
      Answer phone rig imageId heard before (before ++ [turnCall rig imageId capture])

theorem Exchange.answer (h : Exchange phone rig imageId cap g s r g' s') (hnamed : Named rig imageId) :
    Answer phone rig imageId g.conn.bytes s.runs s'.runs := by
  obtain ⟨lost, hdown⟩ := h.down
  have nothing : s'.out.sent = s.out.sent → g.conn.bytes = [] := by
    intro hsent
    rw [hsent, List.self_eq_append_right, List.append_eq_nil_iff] at hdown
    exact hdown.1
  rcases h.served hnamed with rfl | ⟨capture, hcamera, hopens, hs'⟩
  · exact .silent (nothing rfl)
  · rcases processAndReply_sendsFront phone (turnShot rig imageId capture).image s with
      hquiet | ⟨result, done, hresult, hruns, hdone, hsent⟩
    · have hruns := processAndReply_runs phone (turnShot rig imageId capture).image s
      rw [← hs'] at hquiet hruns
      cases hprint : phone.print (receivedLine phone (turnShot rig imageId capture).image) with
      | error e =>
          rw [hprint] at hruns
          exact hruns ▸ .silent (nothing hquiet)
      | ok _ =>
          rw [hprint] at hruns
          exact hruns ▸ .called (nothing hquiet) hcamera
    · rw [← hs'] at hruns hsent
      rw [hsent, List.append_cancel_left_eq] at hdown
      exact hruns ▸ .answered hcamera hopens hresult (List.IsPrefix.trans ⟨lost, hdown.symm⟩ hdone)

end Turn

/-! ## What the glasses make of the answer -/

/-- A text of scalar values that fits the text of the reply loop is handed to the application. -/
def Shown (cap : ℕ) (text : PyStr) (g : Glasses) : Prop :=
  ∀ s, text = ofChars s → '\x00' ∉ s → (Utf8.encode s).length < 1024 →
    g.responseBytes = (Utf8.encode s).length ∧ (cap ≠ 0 → g.response = (Utf8.encode s).take (cap - 1))

/-- The call of the audio backend is for this utterance, and all of the answer has been received. -/
structure Speaks (rig : Rig) (pcm : Pcm) (r : Except Halt Unit) (g : Glasses) (call : PlayCall) : Prop where
  samples : call.pcm = pcm.data
  frames : call.frameCount = pcm.data.length / (2 * pcm.channels)
  format : rig.backend ≠ .stub →
    g.audio.sampleRate = pcm.sampleRate ∧ call.configured = UInt8.ofNat pcm.channels
  result : call.result = r
  whole : g.conn.bytes = []

lemma sdAudioPlayPcm_sampleRate (target : Target) (backend : Backend) (samples : Bytes) (frameCount : ℕ)
    (audio : AudioState) :
    ((sdAudioPlayPcm target backend samples frameCount).run audio).2.sampleRate = audio.sampleRate := by
  cases backend with
  | mock =>
      simp only [sdAudioPlayPcm, mockPlay]
      split_ifs <;> rfl
  | max98357a driver =>
      simp only [sdAudioPlayPcm, espPlay]
      split_ifs <;> rfl
  | stub => rfl

/-- **An utterance announced by the phone is played as what it is**, if it is played. -/
theorem playAudioDownlink_speaks {rig : Rig} {imageId : Bytes} (hid : AllBare imageId)
    (hkeys : imageId ∉ audioKeys) {pcm : Pcm} {junk : Bytes} {g g' : Glasses} {r : Except Halt Unit}
    {closing : Frame} (hclosing : closing.payload.length < 2 ^ 32)
    (hb : g.conn.bytes <+: wire (chunkFrames pcm.data chunkSize ++ [closing]))
    (h : (playAudioDownlink rig ((announcement imageId pcm).text ++ 0 :: junk)).run g = (r, g')) :
    ((∃ e, r = .error e) ∧ g'.played = g.played) ∨
      ∃ call, g'.played = g.played ++ [call] ∧ Speaks rig pcm r g' call := by
  rcases playAudioDownlink_spec h with ⟨hplayed, e, rfl, -⟩ | ⟨fields, call, hplays⟩
  · exact Or.inl ⟨⟨e, rfl⟩, hplayed⟩
  · obtain ⟨fields', hfields, hsize, hchunks, hrate, hchannels, hdivisor, -⟩ :=
      audioFields_announcement hid hkeys pcm rig.shaBuf junk
    obtain rfl := Except.ok.inj (hplays.fields_read.symm.trans hfields)
    rw [← List.append_nil (wire _)] at hb
    obtain ⟨hpcm, hrest⟩ := hplays.utterance hsize hchunks hclosing hb
    obtain ⟨audio, hinit, hconfigured, hplay⟩ := hplays.configured
    obtain ⟨-, -, hformat⟩ := sdAudioInit_ok hinit
    refine Or.inr ⟨call, hplays.recorded, hpcm, ?_, ?_, hplays.result, List.prefix_nil.mp hrest⟩
    · rw [hplays.frames, hsize, hdivisor]
    · intro hne
      have hkept := sdAudioPlayPcm_sampleRate rig.target rig.backend call.pcm call.frameCount audio
      rw [hplay] at hkept
      refine ⟨(hkept.trans (hformat hne).1).trans hrate, (hconfigured.trans (hformat hne).2).trans ?_⟩
      rw [← hchannels, ← UInt8.toNat_inj, UInt32.toNat_toUInt8, UInt8.toNat_ofNat']

section Heard

variable {rig : Rig} {imageId : CStr} {cap : ℕ} {g g' g₁ : Glasses} {r : Except Halt Unit}
  {capture : Capture rig.target} {turnEnd : TurnEnd}

/-- The samples behind their announcement. -/
lemma replyLoop_spoken {py : Interpreter} {imageId : Bytes} (hid : AllBare imageId) (hlen : imageId.length < 256)
    {image : ReceivedImage} (himage : image.imageId = .str (ofBytes imageId)) {file : AudioFile} {n : ℕ}
    (hb : g.conn.bytes <+: wire (spokenFrames py image file)) (h : replyLoop rig cap n g = (.ok turnEnd, g₁)) :
    ∃ pcm junk closing, file = .wav (.ok pcm) ∧
      turnEnd = .audioBegin ((announcement imageId pcm).text ++ 0 :: junk) ∧
      closing.payload.length < 2 ^ 32 ∧
      g₁.conn.bytes <+: wire (chunkFrames pcm.data chunkSize ++ [closing]) ∧ g₁ = { g with conn := g₁.conn } := by
  have silent : spokenFrames py image file ≠ [] := by
    intro hnil
    rw [hnil, wire_nil, List.prefix_nil] at hb
    exact replyLoop_nothing hb h
  have hshort : ∀ f ∈ spokenFrames py image file, f.payload.length < 2 ^ 32 :=
    fun f hf => lt_of_le_of_lt (length_spokenFrames f hf) (by decide)
  cases file with
  | other => exact absurd rfl silent
  | wav found =>
      cases found with
      | error e => exact absurd rfl silent
      | ok pcm =>
          rw [spokenFrames] at silent hb hshort
          split_ifs at silent hb hshort
          · rw [transferFrames, List.cons_append] at hb hshort
            rw [List.forall_mem_cons] at hshort
            rw [wire_cons, controlFrame, announcement_text himage] at hb
            rw [controlFrame, announcement_text himage] at hshort
            obtain ⟨hend, hrest, hg₁⟩ := replyLoop_utterance hshort.1 hb h
            have hfits := length_announcement hid pcm hlen
            rw [← announcement, handed_audioBegin (zero_notMem_announcement imageId pcm)
              (by rwa [List.length_set, Buffer.length_eq])] at hend
            exact ⟨pcm, _, _, rfl, hend, hshort.2 _ (by simp), hrest, hg₁⟩
          · exact absurd rfl silent

/-- A turn that came to a message that ended it has read something. -/
lemma Finished.reads (h : Finished rig imageId cap g r g' capture turnEnd g₁) : g.conn.bytes ≠ [] := by
  intro hnil
  have hb : ({ g with out := g'.out, response := cleared cap g } : Glasses).conn.bytes = [] := hnil
  exact replyLoop_nothing hb h.looped

/-- **What a turn makes of the front of an answer** once it has come to the message that ended it: the text
is shown, and the utterance is played, if it is. -/
theorem Finished.heard (h : Finished rig imageId cap g r g' capture turnEnd g₁) {py : Interpreter}
    (hid : AllBare imageId.bytes) (hkeys : imageId.bytes ∉ audioKeys) (hlen : imageId.bytes.length < 256)
    {image : ReceivedImage} (himage : image.imageId = .str (ofBytes imageId.bytes)) {result : PipelineResult}
    (hb : g.conn.bytes <+: wire (answerFrames py image result)) :
    ∃ pcm, result.audioFile = .wav (.ok pcm) ∧ Shown cap result.text g' ∧
      (((∃ e, r = .error e) ∧ g'.played = g.played) ∨
        ∃ call, g'.played = g.played ++ [call] ∧ Speaks rig pcm r g' call) := by
  have hloop := h.looped
  rw [answerFrames] at hb
  split_ifs at hb with hmax
  · have htext : rendered (.obj (aiResponse result.text)) = (PhoneMsg.aiResponse result.text).text :=
      (encodeControl_ok (encodeControl_phoneMsg py (.aiResponse result.text))).symm
    rw [htext] at hmax
    rw [wire_cons, controlFrame, htext] at hb
    have h32 : (PhoneMsg.aiResponse result.text).text.length < 2 ^ 32 := lt_of_le_of_lt hmax (by decide)
    obtain ⟨shown, t, hshown, ht, hloop⟩ :=
      replyLoop_answer (g := { g with out := g'.out, response := cleared cap g }) h32 hb hloop
    obtain ⟨pcm, junk, closing, hfile, rfl, hclosing, hrest, hg₁⟩ := replyLoop_spoken hid hlen himage ht hloop
    have hbeside := finishTurn_beside h.finished
    refine ⟨pcm, hfile, ?_, ?_⟩
    · intro chars htext hzero hfits
      rw [htext, shown_answer hzero hfits] at hshown
      obtain rfl := Option.some.inj hshown
      rw [hg₁] at hbeside
      have hresponse : g'.response = _ := congrArg (fun kept => kept.2.1) hbeside
      have hcount : g'.responseBytes = _ := congrArg (fun kept => kept.2.2) hbeside
      exact ⟨hcount, fun hcap => hresponse.trans (if_neg hcap)⟩
    · have hplayed : g₁.played = g.played := by rw [hg₁]
      rw [← hplayed]
      exact playAudioDownlink_speaks hid hkeys hclosing hrest h.finished
  · rw [wire_nil, List.prefix_nil] at hb
    exact absurd hloop (replyLoop_nothing hb)

end Heard

/-! ## What a turn means -/

/-- The turn was answered: the pipeline was run once, on the image of the turn, its text is shown, and its
utterance was played. -/
structure Answered (phone : Phone) (rig : Rig) (imageId : CStr) (cap : ℕ) (g : Glasses) (s : Served)
    (r : Except Halt Unit) (g' : Glasses) (s' : Served) (capture : Capture rig.target)
    (result : PipelineResult) (pcm : Pcm) (call : PlayCall) : Prop where
  captured : rig.camera = .ok capture
  processed : phone.pipelineRun s.runs (turnCall rig imageId capture) = .ok result
  runs : s'.runs = s.runs ++ [turnCall rig imageId capture]
  spoken : result.audioFile = .wav (.ok pcm)
  shown : Shown cap result.text g'
  played : g'.played = g.played ++ [call]
  speaks : Speaks rig pcm r g' call

section Exchange

variable {phone : Phone} {rig : Rig} {imageId : CStr} {cap : ℕ} {g g' : Glasses} {s s' : Served}
  {r : Except Halt Unit}

/-- The calls of the pipeline are for the image of the turn, if it captured one. -/
lemma Answer.runs {heard : Bytes} {before after : List RunCall} (h : Answer phone rig imageId heard before after) :
    after = before ∨ ∃ capture, rig.camera = .ok capture ∧ after = before ++ [turnCall rig imageId capture] := by
  cases h with
  | silent _ => exact Or.inl rfl
  | called _ hcamera => exact Or.inr ⟨_, hcamera, rfl⟩
  | answered hcamera _ _ _ => exact Or.inr ⟨_, hcamera, rfl⟩

/-- **Every turn** failed without a call of the audio backend, or was answered. -/
theorem Exchange.outcome (h : Exchange phone rig imageId cap g s r g' s') (hnamed : Named rig imageId) :
    ((∃ e, r = .error e) ∧ g'.played = g.played) ∨ ∃ capture result pcm call,
      Answered phone rig imageId cap g s r g' s' capture result pcm call := by
  rcases sdDeviceRunUplink_run h.turn with ⟨hr, hplayed, -⟩ | ⟨capture, turnEnd, g₁, hfinished⟩
  · exact Or.inl ⟨hr, hplayed⟩
  · have hanswer := h.answer hnamed
    have heard := hfinished.reads
    generalize hruns : s'.runs = after at hanswer
    cases hanswer with
    | silent hnil => exact absurd hnil heard
    | called hnil _ => exact absurd hnil heard
    | @answered captured result hcamera hopens hresult hb =>
        have hid := (hnamed.plain captured hcamera).imageId
        obtain ⟨pcm, hfile, hshown, hplay⟩ :=
          hfinished.heard hid hnamed.imageId (Shot.length_imageId hopens) rfl hb
        exact hplay.imp_right fun ⟨call, hplayed, hspeaks⟩ =>
          ⟨captured, result, pcm, call, hcamera, hresult, hruns, hfile, hshown, hplayed, hspeaks⟩

end Exchange

/-! ## Turns that come to their end -/

/-- Nothing stands in the way of a turn: the memory suffices, the messages fit their buffers, the pipeline
answers with a text and an utterance, both can be read for what they are, the backend takes the utterance
and the two links do not fail. -/
structure Smooth (phone : Phone) (rig : Rig) (imageId : CStr) (g : Glasses) (s : Served)
    (capture : Capture rig.target) (result : PipelineResult) (pcm : Pcm) : Prop where
  ample : Ample rig
  named : Named rig imageId
  captured : rig.camera = .ok capture
  opens : (turnShot rig imageId capture).Opens
  closes : (imageEndText imageId.bytes).length < 128
  processed : phone.pipelineRun s.runs (turnCall rig imageId capture) = .ok result
  printed : phone.print (resultLine result) = .ok ()
  clear : ¬ Collides (ascii "type") result.text
  fits : (PhoneMsg.aiResponse result.text).text.length ≤ msgRecvCap
  spoken : result.audioFile = .wav (.ok pcm)
  takes : Takes rig g.audio pcm
  out : g.out.Steady
  sock : s.out.Steady

section Smooth

variable {phone : Phone} {rig : Rig} {imageId : CStr} {g : Glasses} {s : Served} {capture : Capture rig.target}
  {result : PipelineResult} {pcm : Pcm}

/-- The image of such a turn is sent. -/
lemma Smooth.delivers (h : Smooth phone rig imageId g s capture result pcm) :
    Delivers (turnShot rig imageId capture).send (wire (turnShot rig imageId capture).frames) := by
  rw [send_turnShot, h.ample.sendHeap]
  exact sdMsgSendImage_delivers h.opens h.closes

/-- What the phone sends in such a turn. -/
lemma Smooth.turnBytes (h : Smooth phone rig imageId g s capture result pcm) :
    turnBytes phone (turnShot rig imageId capture).image s
      = Frame.bytes ⟨kindJson, (PhoneMsg.aiResponse result.text).text⟩ ++
        (Frame.bytes ⟨kindJson, (announcement imageId.bytes pcm).text⟩ ++
          wire (chunkFrames pcm.data chunkSize ++
            [controlFrame (audioEnd (.str (ofBytes imageId.bytes)))])) := by
  have hplain := h.named.plain capture h.captured
  have hreceived : phone.print (receivedLine phone (turnShot rig imageId capture).image) = .ok () :=
    print_receivedLine phone hplain.imageId _ _
  have hlen := length_announcement hplain.imageId pcm (Shot.length_imageId h.opens)
  have hopening : rendered (.obj (audioOpening (turnShot rig imageId capture).image pcm))
      = (announcement imageId.bytes pcm).text := announcement_text rfl pcm
  have hannounced : Announced phone.py (turnShot rig imageId capture).image pcm := by
    refine ⟨phone.py.dumpDepth_pos, ?_⟩
    rw [hopening]
    exact hlen.le.trans (by decide)
  rw [turnBytes_eq h.sock h.processed h.fits, hreceived, h.printed, if_pos ⟨rfl, rfl⟩, h.spoken, spokenFrames,
    if_pos hannounced, transferFrames, List.cons_append, wire_cons, controlFrame, hopening]
  rfl

/-- The phone answers the image of such a turn. -/
lemma Smooth.served (h : Smooth phone rig imageId g s capture result pcm) {conn : Inbound} (hconn : conn.Steady)
    (hb : conn.bytes = wire (turnShot rig imageId capture).frames) :
    (handleConnection phone conn s).2.out.sent
      = s.out.sent ++ Sudonit.turnBytes phone (turnShot rig imageId capture).image s := by
  have hplain := h.named.plain capture h.captured
  rw [(handleConnection_shot phone h.opens hplain (hb ▸ List.prefix_rfl) s).2 hconn hb]
  rcases processAndReply_sendsFront phone (turnShot rig imageId capture).image s with
    hquiet | ⟨result, done, -, -, -, hsent⟩
  · rw [Sudonit.turnBytes, hquiet, List.drop_length, List.append_nil]
  · rw [Sudonit.turnBytes, hsent, List.drop_left]

/-- The glasses come to the end of such a turn. -/
lemma Smooth.turns (h : Smooth phone rig imageId g s capture result pcm) (cap : ℕ) (hconn : g.conn.Steady)
    (hb : g.conn.bytes = Sudonit.turnBytes phone (turnShot rig imageId capture).image s) :
    ∃ g', (sdDeviceRunUplink rig imageId cap).run g = (.ok (), g') ∧
      g'.out.sent = g.out.sent ++ wire (turnShot rig imageId capture).frames := by
  have hid : AllBare imageId.bytes := (h.named.plain capture h.captured).imageId
  have hkeys := h.named.imageId
  have hshort : imageId.bytes.length < 256 := Shot.length_imageId h.opens
  have hlen := length_announcement hid pcm hshort
  obtain ⟨out, hsend, hsent, -⟩ := h.delivers g.out h.out
  have hupload : (uploadImage rig imageId capture).run { g with response := cleared cap g }
      = (.ok (), { g with out := out, response := cleared cap g }) := by
    rw [send_turnShot] at hsend
    simp only [uploadImage, hsend]
  have hcapture : ∀ g : Glasses, (captureImage rig).run g = (.ok capture, g) := by
    intro g
    rw [captureImage, Effect.run_ofExcept, h.captured]
  -- The loop stops at the announcement.
  have hwire := hb.trans h.turnBytes
  have htype : ¬ Collides (ascii "type") (ofBytes imageId.bytes) := by
    rw [collides_bare hid]
    exact fun heq => hkeys (heq ▸ by decide)
  obtain ⟨g₁, hloop, hrest, hs, haudio⟩ :=
    replyLoop_answered (g := { g with out := out, response := cleared cap g }) h.ample.recvHeap hconn h.clear
      h.fits htype (hlen.le.trans (by decide)) hwire
  rw [← announcement, handed_audioBegin (zero_notMem_announcement _ pcm)
    (by rwa [List.length_set, Buffer.length_eq])] at hloop
  have hclosing : (controlFrame (audioEnd (.str (ofBytes imageId.bytes)))).payload.length ≤ frameCap := by
    have hle := length_audioEnd_le (turnShot rig imageId capture).image pcm
    rw [announcement_text rfl pcm] at hle
    exact (hle.trans hlen.le).trans (by decide)
  obtain ⟨g', hplay⟩ := playAudioDownlink_completes h.ample hid hkeys (haudio ▸ h.takes)
    (show (controlFrame _).kind = kindJson from rfl) hclosing hs hrest
  have hturn : (sdDeviceRunUplink rig imageId cap).run g = (.ok (), g') := by
    rw [sdDeviceRunUplink, Effect.run_bind_ok (show (clearResponse cap).run g = (.ok (),
      { g with response := cleared cap g }) from rfl), Effect.run_bind_ok (hcapture _),
      Effect.run_bind_ok hupload, Effect.run_bind_ok hloop]
    exact hplay
  have hout : g'.out = out :=
    (congrArg Prod.fst ((playAudioDownlink_beside rig _).run rfl hplay)).trans (replyLoop_out_eq rfl hloop)
  exact ⟨g', hturn, by rw [hout, hsent]⟩

/-- The two programs meet in such a turn. -/
lemma Smooth.exchange (h : Smooth phone rig imageId g s capture result pcm) {cap : ℕ} {g' : Glasses}
    (hb : g.conn.bytes = Sudonit.turnBytes phone (turnShot rig imageId capture).image s)
    (hturn : (sdDeviceRunUplink rig imageId cap).run g = (.ok (), g'))
    (hsent : g'.out.sent = g.out.sent ++ wire (turnShot rig imageId capture).frames) {conn : Inbound}
    (hconn : conn.Steady) (hup : g'.out.sent = g.out.sent ++ conn.bytes) :
    Exchange phone rig imageId cap g s (.ok ()) g' (handleConnection phone conn s).2 := by
  refine ⟨hturn, ⟨conn, [], by rw [List.append_nil, hup], rfl⟩, [], ?_⟩
  rw [hsent, List.append_cancel_left_eq] at hup
  rw [List.append_nil, hb, h.served hconn hup.symm]

end Smooth

/-- **A turn comes to its end** where nothing stands in its way: under any segmentation of the two streams,
`sd_device_run_uplink` returns `SD_OK`. -/
theorem turn_completes {phone : Phone} {rig : Rig} {imageId : CStr} {g : Glasses} {s : Served}
    {capture : Capture rig.target} {result : PipelineResult} {pcm : Pcm}
    (h : Smooth phone rig imageId g s capture result pcm) (cap : ℕ) (hconn : g.conn.Steady)
    (hb : g.conn.bytes = turnBytes phone (turnShot rig imageId capture).image s) :
    ∃ g', (sdDeviceRunUplink rig imageId cap).run g = (.ok (), g') ∧
      ∀ conn : Inbound, conn.Steady → g'.out.sent = g.out.sent ++ conn.bytes →
        Exchange phone rig imageId cap g s (.ok ()) g' (handleConnection phone conn s).2 := by
  obtain ⟨g', hturn, hsent⟩ := h.turns cap hconn hb
  exact ⟨g', hturn, fun conn hsteady hup => h.exchange hb hturn hsent hsteady hup⟩

lemma picture_fits : (ascii "cup").length ≤ Target.host.objectMax := by decide

lemma picture_no_nul : 0 ∉ ascii "image/jpeg" := by decide

/-- A picture. -/
def answeredPicture : Capture .host := ⟨⟨ascii "cup", picture_fits⟩, ⟨ascii "image/jpeg", picture_no_nul⟩⟩

/-- Glasses with this picture. -/
def answeredRig : Rig where
  __ := plainRig
  target := .host
  backend := .mock
  camera := .ok answeredPicture

/-- `"capture"`. -/
def captureId : CStr := ⟨ascii "capture", by decide⟩

/-- What they read of the phone's answer. -/
def answeredGlasses : Glasses :=
  glassesOn (turnBytes speakingPhone (turnShot answeredRig captureId answeredPicture).image ⟨.fresh [], []⟩)

lemma captureId_bare : AllBare captureId.bytes := by decide

lemma jpeg_bare : AllBare answeredPicture.mediaType.bytes := by decide

lemma answeredRig_named : Named answeredRig captureId := by
  refine ⟨?_, by decide⟩
  intro capture hcapture
  obtain rfl := Except.ok.inj hcapture
  exact ⟨captureId_bare, jpeg_bare, by decide⟩

lemma cupText_clear : ¬ Collides (ascii "type") cupResult.text := by decide

lemma cupText_fits : (PhoneMsg.aiResponse cupResult.text).text.length ≤ msgRecvCap := by decide

lemma cup_smooth : ∃ capture result pcm,
    Smooth speakingPhone answeredRig captureId answeredGlasses ⟨.fresh [], []⟩ capture result pcm ∧
      answeredGlasses.conn.bytes
        = turnBytes speakingPhone (turnShot answeredRig captureId capture).image ⟨.fresh [], []⟩ := by
  refine ⟨answeredPicture, { cupResult with audioFile := .wav (.ok murmur) }, murmur, ?_, rfl⟩
  exact
    { ample := ⟨rfl, fun _ => rfl, rfl, fun _ => ⟨_, rfl⟩⟩
      named := answeredRig_named
      captured := rfl
      opens := by
        rw [Shot.Opens, Shot.opening, length_imageBeginText]
        decide
      closes := by decide
      processed := rfl
      printed := rfl
      clear := cupText_clear
      fits := cupText_fits
      spoken := rfl
      takes := ⟨_, _, rfl, rfl⟩
      out := Outbound.steady_fresh _
      sock := Outbound.steady_fresh _ }

/-- A picture of a cup. -/
theorem turn_completes_cup : ∃ g', (sdDeviceRunUplink answeredRig captureId 64).run answeredGlasses = (.ok (), g') ∧
    ∀ conn : Inbound, conn.Steady → g'.out.sent = answeredGlasses.out.sent ++ conn.bytes →
      Exchange speakingPhone answeredRig captureId 64 answeredGlasses ⟨.fresh [], []⟩ (.ok ()) g'
        (handleConnection speakingPhone conn ⟨.fresh [], []⟩).2 := by
  obtain ⟨capture, result, pcm, hsmooth, hb⟩ := cup_smooth
  exact turn_completes hsmooth 64 (Inbound.steady_cut _ _) hb

/-- What such a turn leaves: one call of the pipeline, for its image, and one call of the audio backend, for its
utterance. -/
lemma Smooth.leaves {phone : Phone} {rig : Rig} {imageId : CStr} {g g' : Glasses} {s s' : Served}
    {capture : Capture rig.target} {result : PipelineResult} {pcm : Pcm} {cap : ℕ}
    (h : Smooth phone rig imageId g s capture result pcm) (hturn : Exchange phone rig imageId cap g s (.ok ()) g' s') :
    s'.runs = s.runs ++ [turnCall rig imageId capture] ∧
      ∃ call, g'.played = g.played ++ [call] ∧ call.pcm = pcm.data := by
  rcases hturn.outcome h.named with ⟨⟨e, he⟩, -⟩ | ⟨capture', result', pcm', call, hanswered⟩
  · simp at he
  · obtain rfl := Except.ok.inj (hanswered.captured.symm.trans h.captured)
    obtain rfl := Except.ok.inj (hanswered.processed.symm.trans h.processed)
    have hwav := hanswered.spoken.symm.trans h.spoken
    simp only [AudioFile.wav.injEq, Except.ok.injEq] at hwav
    exact ⟨hanswered.runs, call, hanswered.played, hwav ▸ hanswered.speaks.samples⟩

/-- Turns one after the other, each on a connection of its own, with the calls of the pipeline for the
images captured. -/
inductive Turns (phone : Phone) : Glasses → List RunCall → List RunCall → Glasses → List RunCall → Prop
  | nil (g : Glasses) (runs : List RunCall) : Turns phone g runs [] g runs
  | turn {g g₁ g₂ : Glasses} {runs runs₂ images : List RunCall} {rig : Rig} {imageId : CStr} {cap : ℕ}
      {conn : Inbound} {out sock : Outbound} {r : Except Halt Unit} {s₁ : Served} :
      Exchange phone rig imageId cap { g with conn := conn, out := out } ⟨sock, runs⟩ r g₁ s₁ →
      Named rig imageId → Turns phone g₁ s₁.runs images g₂ runs₂ →
      Turns phone g runs ((rig.camera.toOption.map (turnCall rig imageId)).toList ++ images) g₂ runs₂

/-- The samples of the utterances that the pipeline gives to these calls, in order. -/
def utterances (phone : Phone) : List RunCall → List RunCall → List Bytes
  | _, [] => []
  | before, call :: calls =>
      (match phone.pipelineRun before call with
        | .ok result =>
            match result.audioFile with
            | .wav (.ok pcm) => [pcm.data]
            | _ => []
        | .error _ => []) ++ utterances phone (before ++ [call]) calls

lemma utterances_append (phone : Phone) (before calls more : List RunCall) :
    utterances phone before (calls ++ more)
      = utterances phone before calls ++ utterances phone (before ++ calls) more := by
  induction calls generalizing before with
  | nil => simp [utterances]
  | cons call calls ih =>
      rw [List.cons_append, utterances, utterances, ih, List.append_assoc, List.append_assoc,
        List.singleton_append]

/-- What one turn adds: at most one call of the pipeline, for its image, and at most one call of the audio
backend, for the utterance of that call. -/
lemma Exchange.adds {phone : Phone} {rig : Rig} {imageId : CStr} {cap : ℕ} {g g' : Glasses} {s s' : Served}
    {r : Except Halt Unit} (h : Exchange phone rig imageId cap g s r g' s') (hnamed : Named rig imageId) :
    ∃ calls played, s'.runs = s.runs ++ calls ∧ g'.played = g.played ++ played ∧
      calls.Sublist (rig.camera.toOption.map (turnCall rig imageId)).toList ∧
      (played.map PlayCall.pcm).Sublist (utterances phone s.runs calls) := by
  rcases h.outcome hnamed with ⟨-, hplayed⟩ | ⟨capture, result, pcm, call, hanswered⟩
  · rcases (h.answer hnamed).runs with hruns | ⟨capture, hcamera, hruns⟩
    · exact ⟨[], [], by rw [hruns, List.append_nil], by rw [hplayed, List.append_nil], by simp, by simp⟩
    · refine ⟨[turnCall rig imageId capture], [], hruns, by rw [hplayed, List.append_nil], ?_, by simp⟩
      simp [hcamera, Except.toOption]
  · refine ⟨[turnCall rig imageId capture], [call], hanswered.runs, hanswered.played, ?_, ?_⟩
    · simp [hanswered.captured, Except.toOption]
    · simp [utterances, hanswered.processed, hanswered.spoken, hanswered.speaks.samples]

/-- **What is heard over any number of turns** is what the pipeline said, in that order, each utterance at
most once and only for an image that was captured; and the pipeline has run on images that were captured, in
that order, each at most once. -/
theorem turns_in_order {phone : Phone} {g g' : Glasses} {runs images runs' : List RunCall}
    (h : Turns phone g runs images g' runs') :
    ∃ calls played, runs' = runs ++ calls ∧ g'.played = g.played ++ played ∧ calls.Sublist images ∧
      (played.map PlayCall.pcm).Sublist (utterances phone runs calls) := by
  induction h with
  | nil g runs => exact ⟨[], [], by simp, by simp, by simp, by simp⟩
  | turn hexchange hnamed _ ih =>
      obtain ⟨first, heard, hruns, hplayed, hfirst, hheard⟩ := hexchange.adds hnamed
      obtain ⟨calls, played, hruns', hplayed', hcalls, hlater⟩ := ih
      refine ⟨first ++ calls, heard ++ played, ?_, ?_, hfirst.append hcalls, ?_⟩
      · rw [hruns', hruns, List.append_assoc]
      · rw [hplayed', hplayed, List.append_assoc]
      · rw [List.map_append, utterances_append]
        rw [hruns] at hlater
        exact hheard.append hlater

/-- A phone that says what it is shown. -/
def echoPhone : Phone where
  __ := deskPhone
  pipelineRun _ call :=
    .ok { cupResult with
      audioFile :=
        if h : call.imageBytes.length < 2 ^ 32 then .wav (.ok { murmur with data := call.imageBytes, length_lt := h })
        else .other }

/-- Glasses that look at this. -/
def lookingAt (data : Object .host) : Rig where
  __ := plainRig
  target := .host
  backend := .mock
  camera := .ok ⟨data, answeredPicture.mediaType⟩

/-- The image of a turn with such glasses. -/
def glimpse (data : Object .host) : Shot .host :=
  turnShot (lookingAt data) captureId ⟨data, answeredPicture.mediaType⟩

lemma echoPhone_run (runs : List RunCall) {data : Object .host} (h : data.bytes.length < 2 ^ 32) :
    echoPhone.pipelineRun runs (glimpse data).image.call
      = .ok { cupResult with audioFile := .wav (.ok { murmur with data := data.bytes, length_lt := h }) } := by
  have hrun : (glimpse data).image.call.imageBytes.length < 2 ^ 32 := h
  simp only [echoPhone, hrun, dite_true]
  rfl

lemma glimpse_plain {data : Object .host} (hlen : data.bytes.length = 3) : (glimpse data).Plain := by
  refine ⟨captureId_bare, jpeg_bare, ?_⟩
  show chunkCount data.bytes.length chunkSize < _
  rw [hlen]
  decide

lemma glimpse_opens {data : Object .host} (hlen : data.bytes.length = 3) : (glimpse data).Opens := by
  rw [Shot.Opens, Shot.opening, length_imageBeginText]
  show 146 + captureId.bytes.length + answeredPicture.mediaType.bytes.length + (decimal data.bytes.length).length
    + (decimal (chunkCount data.bytes.length chunkSize)).length < 256
  rw [hlen]
  decide

/-- A turn on a new connection, for a picture of three octets. -/
lemma echo_turn (g : Glasses) (runs : List RunCall) (data : Object .host) (hlen : data.bytes.length = 3) :
    ∃ conn g' s', Exchange echoPhone (lookingAt data) captureId 64 { g with conn := conn, out := .fresh [] }
        ⟨.fresh [], runs⟩ (.ok ()) g' s' ∧ Named (lookingAt data) captureId ∧
      s'.runs = runs ++ [(glimpse data).image.call] ∧
      ∃ call, g'.played = g.played ++ [call] ∧ call.pcm = data.bytes := by
  have hfits : data.bytes.length < 2 ^ 32 := by omega
  have hnamed : Named (lookingAt data) captureId := by
    refine ⟨fun capture hcapture => ?_, by decide⟩
    obtain rfl := Except.ok.inj hcapture
    exact glimpse_plain hlen
  obtain ⟨conn, hsteady, hbytes⟩ : ∃ conn : Inbound, conn.Steady ∧
      conn.bytes = turnBytes echoPhone (glimpse data).image ⟨.fresh [], runs⟩ :=
    ⟨.cut _ [3, 1], Inbound.steady_cut _ _, rfl⟩
  have hsmooth : Smooth echoPhone (lookingAt data) captureId { g with conn := conn, out := .fresh [] }
      ⟨.fresh [], runs⟩ ⟨data, answeredPicture.mediaType⟩
      { cupResult with audioFile := .wav (.ok { murmur with data := data.bytes, length_lt := hfits }) }
      { murmur with data := data.bytes, length_lt := hfits } :=
    { ample := ⟨rfl, fun _ => rfl, rfl, fun _ => ⟨_, rfl⟩⟩
      named := hnamed
      captured := rfl
      opens := glimpse_opens hlen
      closes := by decide
      processed := echoPhone_run runs hfits
      printed := rfl
      clear := cupText_clear
      fits := cupText_fits
      spoken := rfl
      takes := ⟨_, _, rfl, rfl⟩
      out := Outbound.steady_fresh _
      sock := Outbound.steady_fresh _ }
  obtain ⟨g', hturn, hsent⟩ := hsmooth.turns 64 hsteady hbytes
  have hexchange := hsmooth.exchange hbytes hturn hsent (Inbound.steady_cut _ []) hsent
  obtain ⟨hruns, call, hplayed, hpcm⟩ := hsmooth.leaves hexchange
  exact ⟨conn, g', _, hexchange, hnamed, hruns, call, hplayed, hpcm⟩

/-- A picture of a cup. -/
def cupData : Object .host := answeredPicture.data

/-- A picture of tea. -/
def teaData : Object .host := ⟨ascii "tea", picture_fits⟩

/-- Two turns on two connections: the cup, then the tea. -/
theorem turns_in_order_two : ∃ (g' : Glasses) (runs' calls : List RunCall) (played : List PlayCall),
    runs' = [] ++ calls ∧ g'.played = (glassesOn []).played ++ played ∧
    calls.Sublist [(glimpse cupData).image.call, (glimpse teaData).image.call] ∧
    (played.map PlayCall.pcm).Sublist (utterances echoPhone [] calls) ∧
    calls = [(glimpse cupData).image.call, (glimpse teaData).image.call] ∧
    played.map PlayCall.pcm = [ascii "cup", ascii "tea"] := by
  obtain ⟨conn₁, g₁, s₁, hfirst, hnamed₁, hruns₁, call₁, hplayed₁, hpcm₁⟩ :=
    echo_turn (glassesOn []) [] cupData rfl
  obtain ⟨conn₂, g₂, s₂, hsecond, hnamed₂, hruns₂, call₂, hplayed₂, hpcm₂⟩ :=
    echo_turn g₁ s₁.runs teaData rfl
  obtain ⟨calls, played, hcalls, hplayed, hsub, hheard⟩ :=
    turns_in_order (.turn hfirst hnamed₁ (.turn hsecond hnamed₂ (.nil g₂ s₂.runs)))
  refine ⟨g₂, s₂.runs, calls, played, hcalls, hplayed, hsub, hheard, ?_, ?_⟩
  · rw [List.nil_append] at hcalls
    rw [← hcalls, hruns₂, hruns₁]
    rfl
  · have hboth : (glassesOn []).played ++ played = (glassesOn []).played ++ [call₁, call₂] := by
      rw [← hplayed, hplayed₂, hplayed₁, List.append_assoc]
      rfl
    rw [List.append_cancel_left_eq] at hboth
    rw [hboth, List.map_cons, List.map_cons, List.map_nil, hpcm₁, hpcm₂]
    rfl

end Sudonit
