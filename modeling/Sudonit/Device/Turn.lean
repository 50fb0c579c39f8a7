import Sudonit.Device.Uplink
import Sudonit.Phone.Server
import Sudonit.Protocol.Classification

/-!
# The end of a turn

The phone answers an image, and the glasses read until something ends their turn.  The bytes
`_process_and_reply` sends on a link that does not fail are known (`turnBytes_eq`): the `ai_response`,
and the audio transfer if there is a WAV file, or nothing where a line cannot be printed.

* `EndsTurn` — fed exactly these bytes, the reply loop of every device leaves its loop through a message
  that ends the turn.
* `turn_ends_iff` — what the phone sends ends the turn exactly if the answer and the announcement of the
  audio are sent and seen for what they are.  Without a WAV file they never are.
-/

namespace Sudonit

open Octets Stream Frames CText Python

/-! ## What the phone sends -/

/-- What `_process_and_reply` sends. -/
def turnBytes (phone : Phone) (image : ReceivedImage) (s : Served) : Bytes :=
  ((processAndReply phone image).run s).2.out.sent.drop s.out.sent.length

/-- The call of the pipeline for an image. -/
def callFor (image : ReceivedImage) : RunCall := ⟨image.data, image.mediaType, image.imageId⟩

/-- The `audio_begin` message for an utterance. -/
def audioOpening (image : ReceivedImage) (pcm : Pcm) : Dict :=
  audioBegin image.imageId pcm.data pcm.sampleRate pcm.channels defaultFormat chunkSize

/-- An utterance is announced: the identifier is not nested too deep to be written, and the announcement fits a
frame. -/
def Announced (py : Interpreter) (image : ReceivedImage) (pcm : Pcm) : Prop :=
  nesting image.imageId < py.dumpDepth ∧ (rendered (.obj (audioOpening image pcm))).length ≤ maxFrameBytes

instance decidableAnnounced (py : Interpreter) (image : ReceivedImage) (pcm : Pcm) :
    Decidable (Announced py image pcm) :=
  inferInstanceAs (Decidable (_ ∧ _))

/-- The frames sent behind the answer. -/
def spokenFrames (py : Interpreter) (image : ReceivedImage) : AudioFile → List Frame
  | .wav (.ok pcm) =>
      if Announced py image pcm then
        transferFrames (audioOpening image pcm) pcm.data chunkSize (audioEnd image.imageId)
      else []
  | _ => []

/-- The closing message of an utterance is shorter than its opening one. -/
lemma length_audioEnd_le (image : ReceivedImage) (pcm : Pcm) :
    (rendered (.obj (audioEnd image.imageId))).length ≤ (rendered (.obj (audioOpening image pcm))).length := by
  have hend : rendered (.obj (audioEnd image.imageId))
      = flatText [(str "audio_id", image.imageId), (str "type", .str (str "audio_end"))] := rfl
  have htype : (rendered (.str (str "audio_end"))).length ≤ (rendered (.str (str "audio_begin"))).length := by decide
  rw [hend, audioOpening, rendered_audioBegin]
  simp only [flatText, membersText_cons, membersText_singleton, List.length_append, List.length_cons]
  omega

/-- An utterance that cannot be announced is not begun. -/
lemma sendAudio_unannounced {py : Interpreter} {image : ReceivedImage} {pcm : Pcm} (h : ¬ Announced py image pcm)
    (sock : Outbound) : ∃ e,
    (sendAudio py image.imageId pcm.data pcm.sampleRate pcm.channels defaultFormat chunkSize).run sock
      = (.error e, sock) := by
  have hopen : ∃ e, (sendControl py (audioOpening image pcm)).run sock = (.error e, sock) := by
    rw [sendControl]
    by_cases hid : nesting image.imageId < py.dumpDepth
    · have henc : encodeControl py (audioOpening image pcm) = .ok (rendered (.obj (audioOpening image pcm))) :=
        (writable_audioBegin hid _ _ _ _ _).encodeControl
      have hlong : ¬ (rendered (.obj (audioOpening image pcm))).length ≤ maxFrameBytes := fun hlen => h ⟨hid, hlen⟩
      rw [henc, Effect.run_bind_ok (Effect.run_ofExcept _ _), sendFrame, if_neg (by decide),
        if_pos (not_le.mp hlong), Effect.run_fail]
      exact ⟨_, rfl⟩
    · have henc : encodeControl py (audioOpening image pcm) = .error .recursionError :=
        encodeControl_audioBegin_nested (not_lt.mp hid) _ _ _ _ _
      rw [henc]
      exact ⟨_, rfl⟩
  obtain ⟨e, he⟩ := hopen
  refine ⟨e, ?_⟩
  rw [sendAudio_eq, sendTransfer, if_neg (by decide), ← audioOpening, Effect.run_bind_error he]

/-- Sending an utterance over a steady link. -/
lemma sendAudio_sent (py : Interpreter) (image : ReceivedImage) (pcm : Pcm) {sock : Outbound} (hs : sock.Steady) :
    ((sendAudio py image.imageId pcm.data pcm.sampleRate pcm.channels defaultFormat chunkSize).run sock).2.sent
      = sock.sent ++ wire (spokenFrames py image (.wav (.ok pcm))) := by
  by_cases h : Announced py image pcm
  · obtain ⟨sock', hrun, hsent, -⟩ := sendAudio_delivers pcm.length_lt h.1 h.2
      ((length_audioEnd_le image pcm).trans h.2) sock hs
    rw [hrun, hsent, spokenFrames, if_pos h]
    rfl
  · obtain ⟨e, hrun⟩ := sendAudio_unannounced h sock
    rw [hrun, spokenFrames, if_neg h]
    exact (List.append_nil _).symm

/-- The answer, over a steady link. -/
lemma sendAnswer_sent (py : Interpreter) {text : PyStr}
    (hfit : (PhoneMsg.aiResponse text).text.length ≤ msgRecvCap) {sock : Outbound} (hs : sock.Steady) :
    ∃ sock', (sendControl py (aiResponse text)).run sock = (.ok (), sock') ∧ sock'.Steady ∧
      sock'.sent = sock.sent ++ Frame.bytes ⟨kindJson, (PhoneMsg.aiResponse text).text⟩ := by
  have henc := encodeControl_phoneMsg py (.aiResponse text)
  have hrendered := encodeControl_ok henc
  have hmax : (rendered (.obj (aiResponse text))).length ≤ maxFrameBytes := by
    rw [show rendered (.obj (aiResponse text)) = (PhoneMsg.aiResponse text).text from hrendered.symm]
    exact le_trans hfit (by decide)
  rw [hrendered] at henc
  obtain ⟨sock', hrun, hsent, hs'⟩ := sendControl_delivers henc hmax sock hs
  exact ⟨sock', hrun, hs', by rw [hsent, controlFrame, ← hrendered]⟩

/-- **The bytes of a turn.** -/
theorem turnBytes_eq {phone : Phone} {image : ReceivedImage} {s : Served} (hs : s.out.Steady)
    {result : PipelineResult} (hresult : phone.pipelineRun s.runs (callFor image) = .ok result)
    (hfit : (PhoneMsg.aiResponse result.text).text.length ≤ msgRecvCap) :
    turnBytes phone image s
      = if (phone.print (receivedLine phone image)).isOk ∧ (phone.print (resultLine result)).isOk then
          Frame.bytes ⟨kindJson, (PhoneMsg.aiResponse result.text).text⟩ ++
            wire (spokenFrames phone.py image result.audioFile)
        else [] := by
  have hdrop : ∀ {s' : Served} {bs : Bytes}, s'.out.sent = s.out.sent ++ bs →
      s'.out.sent.drop s.out.sent.length = bs := by
    intro s' bs h
    rw [h, List.drop_left]
  rw [turnBytes, processAndReply, printLine, Effect.run_ofExcept_bind]
  cases hfirst : phone.print (receivedLine phone image) with
  | error e => simp [Except.isOk, Except.toBool]
  | ok _ =>
      simp only
      have hrun : (runPipeline phone ⟨image.data, image.mediaType, image.imageId⟩).run s
          = (.ok result, { s with runs := s.runs ++ [callFor image] }) := by
        rw [← hresult]
        rfl
      rw [Effect.run_bind_ok hrun, reply, printLine, Effect.run_ofExcept_bind]
      cases hsecond : phone.print (resultLine result) with
      | error e => simp [Except.isOk, Except.toBool]
      | ok _ =>
          simp only [Except.isOk, Except.toBool, and_self, if_true]
          obtain ⟨sock', hsend, hs', hsent⟩ := sendAnswer_sent phone.py hfit hs
          have hanswer : (sending (sendControl phone.py (aiResponse result.text))).run
              { s with runs := s.runs ++ [callFor image] }
              = (.ok (), ⟨sock', s.runs ++ [callFor image]⟩) := by
            rw [sending, Effect.run_within, hsend]
          rw [Effect.run_bind_ok hanswer]
          apply hdrop
          rw [← List.append_assoc, ← hsent]
          cases hfile : result.audioFile with
          | other =>
              simp only [spokenFrames, wire_nil, List.append_nil, printLine, Effect.run_ofExcept]
          | wav found =>
              simp only
              rw [Effect.run_ofExcept_bind]
              cases found with
              | error e => simp only [spokenFrames, wire_nil, List.append_nil]
              | ok pcm =>
                  simp only [sending, Effect.run_within]
                  exact sendAudio_sent phone.py image pcm hs'

/-! ## Passes of the reply loop -/

/-- The device takes the message for one that ends the turn. -/
def SeesEnd (payload : Bytes) : Prop :=
  ∃ type, typeName (payload ++ [0]) = some type ∧
    ((classify type).1 = .audioBegin ∨ (classify type).1 = .playAudio)

/-- The loop leaves through a message that ends the turn. -/
def Ends (rig : Rig) (cap n : ℕ) (g : Glasses) : Prop :=
  ∃ turnEnd g', replyLoop rig cap n g = (.ok turnEnd, g')

section Passes

variable {rig : Rig} {cap n : ℕ} {g g' : Glasses}

lemma not_ends_of_error {e : Halt} (h : (replyPass rig cap n).run g = (.error e, g')) :
    ¬ Ends rig cap n g := by
  rintro ⟨turnEnd, g'', hloop⟩
  rw [replyLoop] at hloop
  split at hloop <;> simp_all

/-- A message that ends the turn is where the loop leaves. -/
lemma replyLoop_stop {turnEnd : TurnEnd} (h : (replyPass rig cap n).run g = (.ok (some turnEnd), g')) :
    replyLoop rig cap n g = (.ok turnEnd, g') := by
  rw [replyLoop]
  split <;> simp_all

lemma ends_of_stop {turnEnd : TurnEnd} (h : (replyPass rig cap n).run g = (.ok (some turnEnd), g')) :
    Ends rig cap n g := ⟨turnEnd, g', replyLoop_stop h⟩

lemma ends_next (h : (replyPass rig cap n).run g = (.ok none, g')) :
    Ends rig cap n g ↔ Ends rig cap (n + 1) g' := by
  rw [Ends, replyLoop]
  split <;> simp_all [Ends]

/-- A pass whose message is not received fails. -/
lemma replyPass_unreceived {e : SdErr} {out : Bytes} {t : Inbound}
    (h : sdMsgRecv (rig.recvHeap n) (rig.typeBuf n) (rig.textBuf n).bytes g.conn = some (.error e, out, t)) :
    (replyPass rig cap n).run g = (.error (.code e), { g with conn := t }) := by
  simp only [replyPass, Effect.run_bind, recvReply, h]

/-- A pass in front of no frame that is accepted fails. -/
lemma not_ends_of_refused (hheap : rig.recvHeap n = true)
    (hno : ∀ f, Accepted (sdReject msgRecvCap) f → ¬ f.bytes <+: g.conn.bytes) : ¬ Ends rig cap n g := by
  obtain ⟨e, t, hrecv⟩ := receiveFrame_refuses SdErr.ofStop hno
  rw [← sdFrameRecv_eq] at hrecv
  have hmsg : sdMsgRecv (rig.recvHeap n) (rig.typeBuf n) (rig.textBuf n).bytes g.conn
      = some (.error e, (rig.textBuf n).bytes.set 0 0, t) := by
    simp only [sdMsgRecv, hheap, if_true, hrecv]
  exact not_ends_of_error (replyPass_unreceived hmsg)

lemma ends_of_ending {type : MsgType} {text : Bytes} {t : Inbound}
    (h : sdMsgRecv (rig.recvHeap n) (rig.typeBuf n) (rig.textBuf n).bytes g.conn = some (.ok type, text, t))
    (hend : type = .audioBegin ∨ type = .playAudio) : Ends rig cap n g := by
  rcases hend with rfl | rfl
  · exact ends_of_stop (by simp only [replyPass, Effect.run_bind, recvReply, h]; rfl)
  · exact ends_of_stop (by simp only [replyPass, Effect.run_bind, recvReply, h]; rfl)

/-- Any other message is an error, or the loop goes on. -/
lemma ends_of_other {type : MsgType} {text : Bytes} {t : Inbound}
    (h : sdMsgRecv (rig.recvHeap n) (rig.typeBuf n) (rig.textBuf n).bytes g.conn = some (.ok type, text, t))
    (hother : ¬ (type = .audioBegin ∨ type = .playAudio)) :
    ¬ Ends rig cap n g ∨ ∃ g' : Glasses, g'.conn = t ∧ (Ends rig cap n g ↔ Ends rig cap (n + 1) g') := by
  have hpass : ∀ {r}, (replyPass rig cap n).run g = r → (∃ e g', r = (.error e, g')) ∨
      (∃ g' : Glasses, r = (.ok none, g') ∧ g'.conn = t) →
      ¬ Ends rig cap n g ∨ ∃ g' : Glasses, g'.conn = t ∧ (Ends rig cap n g ↔ Ends rig cap (n + 1) g') := by
    rintro r hr (⟨e, g', rfl⟩ | ⟨g', rfl, hconn⟩)
    · exact Or.inl (not_ends_of_error hr)
    · exact Or.inr ⟨g', hconn, ends_next hr⟩
  refine hpass (by simp only [replyPass, Effect.run_bind, recvReply, h]; rfl) ?_
  cases type with
  | audioBegin => simp at hother
  | playAudio => simp at hother
  | aiResponse =>
      simp only [Effect.run_bind, handResponse]
      cases cstring text with
      | none => exact Or.inl ⟨_, _, rfl⟩
      | some s => exact Or.inr ⟨_, rfl, rfl⟩
  | error =>
      simp only [Effect.run_bind, logError]
      cases cstring text with
      | none => exact Or.inl ⟨_, _, rfl⟩
      | some s => exact Or.inl ⟨_, _, rfl⟩
  | _ => exact Or.inr ⟨_, rfl, rfl⟩

lemma not_ends_of_nothing (hheap : rig.recvHeap n = true) (hb : g.conn.bytes = []) : ¬ Ends rig cap n g := by
  refine not_ends_of_refused hheap ?_
  rintro f - hpre
  rw [hb, List.prefix_nil] at hpre
  simp [Frame.bytes] at hpre

variable (hheap : rig.recvHeap n = true) (hs : g.conn.Steady) {f : Frame} {rest : Bytes}
  (hb : g.conn.bytes = f.bytes ++ rest)
include hheap hs hb

/-- A binary frame is no reply. -/
lemma not_ends_of_binary (hkind : f.kind = kindBinary) (hlen : f.payload.length ≤ msgRecvCap) :
    ¬ Ends rig cap n g := by
  have hmax : f.payload.length ≤ maxFrameBytes := le_trans hlen (by decide)
  obtain ⟨t, hrecv, -, -⟩ := receiveFrame_steady SdErr.ofStop hs
    (accepted_sdReject.mpr ⟨Or.inr hkind, hmax, hlen⟩) hb
  rw [← sdFrameRecv_eq] at hrecv
  have hmsg : sdMsgRecv (rig.recvHeap n) (rig.typeBuf n) (rig.textBuf n).bytes g.conn
      = some (.error .io, (rig.textBuf n).bytes.set 0 0, t) := by
    simp only [sdMsgRecv, hheap, if_true, hrecv, hkind]
    rfl
  exact not_ends_of_error (replyPass_unreceived hmsg)

/-- A control frame that is seen as the end of the turn ends it; any other is an error, or the loop goes
on behind it. -/
lemma ends_control (hkind : f.kind = kindJson) (hlen : f.payload.length ≤ msgRecvCap) :
    (SeesEnd f.payload → Ends rig cap n g) ∧
    (¬ SeesEnd f.payload → ¬ Ends rig cap n g ∨ ∃ g' : Glasses, g'.conn.bytes = rest ∧ g'.conn.Steady ∧
      (Ends rig cap n g ↔ Ends rig cap (n + 1) g')) := by
  have hmax : f.payload.length ≤ maxFrameBytes := le_trans hlen (by decide)
  obtain ⟨t, hrecv, hrest, ht⟩ := receiveFrame_steady SdErr.ofStop hs
    (accepted_sdReject.mpr ⟨Or.inl hkind, hmax, hlen⟩) hb
  rw [← sdFrameRecv_eq] at hrecv
  have hmsg := sdMsgRecv_frame hrecv hkind (rig.typeBuf n) (rig.textBuf n).bytes
  rw [← hheap] at hmsg
  cases htype : typeName (f.payload ++ [0]) with
  | none =>
      simp only [htype] at hmsg
      refine ⟨?_, fun _ => Or.inl (not_ends_of_error (replyPass_unreceived hmsg))⟩
      rintro ⟨type, heq, -⟩
      rw [htype] at heq
      simp at heq
  | some type =>
      simp only [htype] at hmsg
      have hsees : SeesEnd f.payload ↔ (classify type).1 = .audioBegin ∨ (classify type).1 = .playAudio := by
        rw [SeesEnd, htype]
        simp
      rw [hsees]
      refine ⟨ends_of_ending hmsg, fun hother => ?_⟩
      rcases ends_of_other hmsg hother with hno | ⟨g', hconn, hiff⟩
      · exact Or.inl hno
      · exact Or.inr ⟨g', by rw [hconn, hrest], by rwa [hconn], hiff⟩

end Passes

/-- The text of an answer is read to its end. -/
lemma textField_answer (text : PyStr) (junk : Bytes) :
    ∃ c, textField ((PhoneMsg.aiResponse text).text ++ 0 :: junk) (ascii "text") = some c ∧
      c.complete = true := by
  obtain ⟨c, hc, hcomplete⟩ := contents_escape text
    (tailText [(str "type", .str (str "ai_response"))] ++ 0 :: junk)
  have hfirst : ∀ m ∈ ([] : List (PyStr × JsonValue)), Passes (ascii "text") m := by simp
  have hlocate := locate_flatText (show Word (ascii "text") by decide) hfirst (Or.inl ⟨text, rfl⟩)
    [(str "type", .str (str "ai_response"))] junk
  refine ⟨c, ?_, hcomplete⟩
  have htext : (PhoneMsg.aiResponse text).text
      = flatText ([] ++ (ofBytes (ascii "text"), .str text) :: [(str "type", .str (str "ai_response"))]) := rfl
  have hquoted : rendered (.str text) = quote :: (escape text ++ [quote]) := rfl
  rw [textField, htext, hlocate, hquoted]
  simp only [List.cons_append, List.append_assoc, List.nil_append, if_true, hc]

/-- An answer is an error if its text collides with the name of the type; otherwise the loop goes on
behind it. -/
lemma ends_answer {rig : Rig} {cap n : ℕ} {g : Glasses} (hheap : rig.recvHeap n = true)
    (hs : g.conn.Steady) {text : PyStr} (hfit : (PhoneMsg.aiResponse text).text.length ≤ msgRecvCap)
    {rest : Bytes}
    (hb : g.conn.bytes = Frame.bytes ⟨kindJson, (PhoneMsg.aiResponse text).text⟩ ++ rest) :
    (Collides (ascii "type") text → ¬ Ends rig cap n g) ∧
    (¬ Collides (ascii "type") text → ∃ g' : Glasses, g'.conn.bytes = rest ∧ g'.conn.Steady ∧
      (Ends rig cap n g ↔ Ends rig cap (n + 1) g')) := by
  obtain ⟨t, hrest, ht, hmsg⟩ := sdMsgRecv_phoneMsg (.aiResponse text) hfit (rig.typeBuf n)
    (rig.textBuf n).bytes hs hb
  have hfree : (PhoneMsg.aiResponse text).freeText = text := rfl
  have hword : (PhoneMsg.aiResponse text).typeWord = ascii "ai_response" := rfl
  have hkind : (PhoneMsg.aiResponse text).msgType = .aiResponse := rfl
  rw [← hheap, hfree, hword, hkind] at hmsg
  constructor
  · intro hcol
    rw [if_pos hcol] at hmsg
    exact not_ends_of_error (replyPass_unreceived hmsg)
  · intro hclear
    rw [if_neg hclear] at hmsg
    have hne : (rig.textBuf n).bytes ≠ [] := by
      intro h
      have := (rig.textBuf n).length_eq
      simp [h] at this
    have htype : typeName ((PhoneMsg.aiResponse text).text ++ [0]) = some (ascii "ai_response") := by
      rw [typeName_text, hfree, if_neg hclear, hword]
    -- The text was read to its end, so it is terminated and can be handed on.
    have hwhole : ¬ CutText ((PhoneMsg.aiResponse text).text ++ [0]) (rig.textBuf n).bytes := by
      rintro ⟨key, c, hkey, hfield, hcut, -⟩
      obtain ⟨c', hc', hcomplete⟩ := textField_answer text []
      rw [textKey, htype, Option.bind_some] at hkey
      obtain rfl : ascii "text" = key := Option.some.inj hkey
      rw [hc', Option.some.injEq] at hfield
      rw [← hfield, hcomplete] at hcut
      simp at hcut
    have hterminated := (handed_terminated_iff hne htype).mpr hwhole
    have hpass : ∃ g' : Glasses, (replyPass rig cap n).run g = (.ok none, g') ∧ g'.conn = t := by
      simp only [replyPass, Effect.run_bind, recvReply, hmsg, handResponse, cstring, if_pos hterminated]
      exact ⟨_, rfl, rfl⟩
    obtain ⟨g', hrun, hconn⟩ := hpass
    exact ⟨g', by rw [hconn, hrest], by rwa [hconn], ends_next hrun⟩

/-! ## The turn -/

/-- Fed exactly these bytes, the loop of every device whose memory suffices leaves through a message that
ends the turn. -/
def EndsTurn (bytes : Bytes) : Prop :=
  ∀ (rig : Rig) (cap : ℕ) (g : Glasses), (∀ n, rig.recvHeap n = true) → g.conn.Steady →
    g.conn.bytes = bytes → Ends rig cap 0 g

/-- An utterance is announced to the device: the identifier is not nested too deep to be written, and the
announcement fits the receive buffer and is seen as the end of the turn. -/
structure EndAnnounced (py : Interpreter) (image : ReceivedImage) (pcm : Pcm) : Prop where
  written : nesting image.imageId < py.dumpDepth
  fits : (rendered (.obj (audioOpening image pcm))).length ≤ msgRecvCap
  seen : SeesEnd (rendered (.obj (audioOpening image pcm)))

/-- The answer and an utterance are sent and seen for what they are: both lines can be printed, the
text of the answer does not collide with the name of its type, and there is a WAV file that is announced as the
end of the turn. -/
structure TurnCompletes (phone : Phone) (image : ReceivedImage) (result : PipelineResult) : Prop where
  received : (phone.print (receivedLine phone image)).isOk
  answered : (phone.print (resultLine result)).isOk
  clear : ¬ Collides (ascii "type") result.text
  spoken : ∃ pcm, result.audioFile = .wav (.ok pcm) ∧ EndAnnounced phone.py image pcm

/-- A transfer has a first chunk. -/
lemma chunkFrames_cons (data : Bytes) (chunkSize : ℕ) :
    ∃ fs, chunkFrames data chunkSize = chunkFrame data chunkSize 0 :: fs := by
  have hpos : 1 ≤ chunkCount data.length chunkSize := Nat.le_max_left _ _
  obtain ⟨k, hk⟩ : ∃ k, chunkCount data.length chunkSize = k + 1 := ⟨_, (Nat.sub_add_cancel hpos).symm⟩
  rw [chunkFrames, hk, List.range_succ_eq_map, List.map_cons]
  exact ⟨_, rfl⟩

/-- What is sent behind the answer ends the turn exactly if it is an announcement that is written, fits and is
seen for one. -/
lemma ends_spoken {rig : Rig} {cap n : ℕ} {g : Glasses} (hheap : ∀ n, rig.recvHeap n = true)
    (hs : g.conn.Steady) (py : Interpreter) (image : ReceivedImage) {file : AudioFile}
    (hb : g.conn.bytes = wire (spokenFrames py image file)) :
    Ends rig cap n g ↔ ∃ pcm, file = .wav (.ok pcm) ∧ EndAnnounced py image pcm := by
  have nothing : g.conn.bytes = [] → ¬ Ends rig cap n g := not_ends_of_nothing (hheap n)
  cases file with
  | other => exact iff_of_false (nothing hb) (by simp)
  | wav found =>
      cases found with
      | error e => exact iff_of_false (nothing hb) (by simp)
      | ok pcm =>
          simp only [AudioFile.wav.injEq, Except.ok.injEq, exists_eq_left']
          rw [spokenFrames] at hb
          by_cases hsent : Announced py image pcm
          · rw [if_pos hsent, transferFrames, List.cons_append, wire_cons] at hb
            by_cases hlen : (rendered (.obj (audioOpening image pcm))).length ≤ msgRecvCap
            · obtain ⟨hend, hgo⟩ := @ends_control rig cap n g (hheap n) hs _ _ hb rfl hlen
              by_cases hsees : SeesEnd (rendered (.obj (audioOpening image pcm)))
              · exact iff_of_true (hend hsees) ⟨hsent.1, hlen, hsees⟩
              · refine iff_of_false ?_ fun h => hsees h.seen
                rcases hgo hsees with hno | ⟨g', hb', hs', hiff⟩
                · exact hno
                · obtain ⟨fs, hfs⟩ := chunkFrames_cons pcm.data chunkSize
                  have hlenChunk := length_chunk_le pcm.data chunkSize 0
                  rw [hfs, List.cons_append, wire_cons] at hb'
                  rw [hiff]
                  exact not_ends_of_binary (hheap _) hs' hb' rfl (hlenChunk.trans (by decide))
            · refine iff_of_false (not_ends_of_refused (hheap n) ?_) fun h => hlen h.fits
              rintro f hf ⟨u, hu⟩
              have h32 : (controlFrame (audioOpening image pcm)).payload.length < 2 ^ 32 :=
                Nat.lt_of_le_of_lt hsent.2 (by decide)
              rw [hb] at hu
              obtain ⟨rfl, -⟩ := bytes_append_inj hf.1 h32 hu
              exact hlen (accepted_sdReject.mp hf).2.2
          · rw [if_neg hsent] at hb
            have hcap : msgRecvCap ≤ maxFrameBytes := by decide
            exact iff_of_false (nothing hb) fun h => hsent ⟨h.written, h.fits.trans hcap⟩

/-- The loop of a device on the bytes of a turn. -/
lemma ends_turnBytes_iff {phone : Phone} {image : ReceivedImage} {s : Served} (hs : s.out.Steady)
    {result : PipelineResult} (hresult : phone.pipelineRun s.runs (callFor image) = .ok result)
    (hfit : (PhoneMsg.aiResponse result.text).text.length ≤ msgRecvCap) {rig : Rig} (cap : ℕ) {g : Glasses}
    (hheap : ∀ n, rig.recvHeap n = true) (hg : g.conn.Steady) (hb : g.conn.bytes = turnBytes phone image s) :
    Ends rig cap 0 g ↔ TurnCompletes phone image result := by
  rw [turnBytes_eq hs hresult hfit] at hb
  by_cases hprinted : (phone.print (receivedLine phone image)).isOk ∧
      (phone.print (resultLine result)).isOk
  · rw [if_pos hprinted] at hb
    obtain ⟨hcollides, hgoes⟩ := @ends_answer rig cap 0 g (hheap 0) hg _ hfit _ hb
    by_cases hcol : Collides (ascii "type") result.text
    · exact iff_of_false (hcollides hcol) fun h => h.clear hcol
    · obtain ⟨g', hb', hg', hnext⟩ := hgoes hcol
      rw [hnext, ends_spoken hheap hg' phone.py image hb']
      exact ⟨fun h => ⟨hprinted.1, hprinted.2, hcol, h⟩, fun h => h.spoken⟩
  · rw [if_neg hprinted] at hb
    exact iff_of_false (not_ends_of_nothing (hheap 0) hb) fun h => hprinted ⟨h.received, h.answered⟩

/-- A device whose memory suffices. -/
def plainRig : Rig where
  target := .host
  backend := .stub
  camera := .error .unsupported
  sendHeap := true
  recvHeap _ := true
  bodyHeap := true
  sampleHeap _ := some (Buffer.zeros _)
  typeBuf _ := Buffer.zeros _
  textBuf _ := Buffer.zeros _
  shaBuf := Buffer.zeros _

/-- A device that reads these bytes. -/
def glassesOn (bytes : Bytes) : Glasses := ⟨.cut bytes [], .fresh [], ⟨false, 0, 0, 0⟩, [], [], 0⟩

lemma EndsTurn.plain {bytes : Bytes} (h : EndsTurn bytes) : Ends plainRig 0 0 (glassesOn bytes) :=
  h plainRig 0 (glassesOn bytes) (fun _ => rfl) (Inbound.steady_cut _ _) rfl

/-- **When a turn ends.**  Whatever the image, the result and the device, on a link that does not fail:
what the phone sends for an image ends the turn of the glasses exactly if the answer and an announcement
of the utterance are sent and seen for what they are.  Without a WAV file the glasses wait for a message
that never comes. -/
theorem turn_ends_iff {phone : Phone} {image : ReceivedImage} {s : Served} (hs : s.out.Steady)
    {result : PipelineResult} (hresult : phone.pipelineRun s.runs (callFor image) = .ok result)
    (hfit : (PhoneMsg.aiResponse result.text).text.length ≤ msgRecvCap) :
    EndsTurn (turnBytes phone image s) ↔ TurnCompletes phone image result := by
  constructor
  · intro h
    exact (ends_turnBytes_iff hs hresult hfit 0 (fun _ => rfl) (Inbound.steady_cut _ _) rfl).mp h.plain
  · intro h rig cap g hheap hg hb
    exact (ends_turnBytes_iff hs hresult hfit cap hheap hg hb).mpr h

/-- For an identifier that is a string, the announcement is seen unless the identifier collides with the
name of the type. -/
lemma seesEnd_string_iff {image : ReceivedImage} {id : PyStr} (hid : image.imageId = .str id) (pcm : Pcm) :
    SeesEnd (rendered (.obj (audioOpening image pcm))) ↔ ¬ Collides (ascii "type") id := by
  have htext : rendered (.obj (audioOpening image pcm))
      = (PhoneMsg.audioBegin id pcm.data pcm.sampleRate pcm.channels).text := by
    rw [audioOpening, hid]
    exact (encodeControl_ok (encodeControl_phoneMsg usualInterpreter
      (.audioBegin id pcm.data pcm.sampleRate pcm.channels))).symm
  have hfree : (PhoneMsg.audioBegin id pcm.data pcm.sampleRate pcm.channels).freeText = id := rfl
  rw [SeesEnd, htext, typeName_text, hfree]
  by_cases hcol : Collides (ascii "type") id
  · simp [hcol]
  · rw [if_neg hcol]
    exact iff_of_true ⟨_, rfl, Or.inl rfl⟩ hcol

/-! ## A phone without a speech engine -/

/-- A picture of a cup. -/
def cupImage : ReceivedImage := ⟨.str (str "img-1"), .str (str "image/jpeg"), ascii "cup"⟩

/-- What the pipeline of that phone says. -/
def cupResult : PipelineResult := ⟨str "a cup", str "mock", str "mock", .other, 3⟩

/-- **Without a speech engine the turn does not end**: only the answer is sent, and the device reads on
behind it. -/
theorem turn_never_ends :
    turnBytes deskPhone cupImage ⟨.fresh [], []⟩
        = Frame.bytes ⟨kindJson, ascii "\x7b\"text\":\"a cup\",\"type\":\"ai_response\"\x7d"⟩ ∧
      ¬ EndsTurn (turnBytes deskPhone cupImage ⟨.fresh [], []⟩) := by
  have hs : (Outbound.fresh []).Steady := Outbound.steady_fresh _
  have hfit : (PhoneMsg.aiResponse cupResult.text).text.length ≤ msgRecvCap := by decide
  have hresult : deskPhone.pipelineRun [] (callFor cupImage) = .ok cupResult := rfl
  constructor
  · rw [turnBytes_eq hs hresult hfit, if_pos ⟨rfl, rfl⟩]
    rfl
  · intro h
    have hbytes : (glassesOn (turnBytes deskPhone cupImage ⟨.fresh [], []⟩)).conn.bytes
        = turnBytes deskPhone cupImage ⟨.fresh [], []⟩ := rfl
    have hdone := (ends_turnBytes_iff hs hresult hfit 0 (fun _ => rfl) (Inbound.steady_cut _ _) hbytes).mp h.plain
    obtain ⟨pcm, hwav, -⟩ := hdone.spoken
    exact AudioFile.noConfusion hwav

/-- Two octets of speech. -/
def murmur : Pcm := ⟨ascii "ab", 8000, 1, by decide, by decide, by decide⟩

/-- A phone that speaks. -/
def speakingPhone : Phone :=
  { deskPhone with pipelineRun := fun _ _ => .ok { cupResult with audioFile := .wav (.ok murmur) } }

lemma endAnnounced_murmur : EndAnnounced speakingPhone.py cupImage murmur := by
  refine ⟨by decide, ?_, ?_⟩
  · rw [audioOpening, rendered_audioBegin, length_flatText (List.cons_ne_nil _ _)]
    simp only [List.map_cons, List.map_nil, List.sum_cons, List.sum_nil, rendered, length_quoted_hexdigest]
    decide
  · refine (seesEnd_string_iff (show cupImage.imageId = .str (str "img-1") from rfl) murmur).mpr ?_
    decide

/-- The same picture: the turn ends with the phone that speaks, and not with the other. -/
theorem turn_ends_iff_cup :
    (EndsTurn (turnBytes speakingPhone cupImage ⟨.fresh [], []⟩) ∧
      TurnCompletes speakingPhone cupImage { cupResult with audioFile := .wav (.ok murmur) }) ∧
    ¬ EndsTurn (turnBytes deskPhone cupImage ⟨.fresh [], []⟩) ∧ ¬ TurnCompletes deskPhone cupImage cupResult := by
  have hspeaks : TurnCompletes speakingPhone cupImage { cupResult with audioFile := .wav (.ok murmur) } :=
    ⟨rfl, rfl, by decide, murmur, rfl, endAnnounced_murmur⟩
  have hsilent : ¬ TurnCompletes deskPhone cupImage cupResult := by
    rintro ⟨-, -, -, pcm, hwav, -⟩
    exact AudioFile.noConfusion hwav
  exact ⟨⟨(turn_ends_iff (Outbound.steady_fresh _) rfl (by decide)).mpr hspeaks, hspeaks⟩,
    mt (turn_ends_iff (Outbound.steady_fresh _) rfl (by decide)).mp hsilent, hsilent⟩

end Sudonit
