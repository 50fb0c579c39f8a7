import Sudonit.Core.Cuts
import Sudonit.Device.Turn
import Sudonit.Phone.Session

/-!
# What the phone sends for an image

`_process_and_reply` over a link that may fail at any point.

* `answerFrames` — the frames of the answer and of the utterance.
* `processAndReply_sendsFront` — whatever happens, the front of these frames is sent, and nothing unless the
  pipeline was run on the image and returned.
-/

namespace Sudonit

open Octets Stream Frames Python

/-! ## The senders -/

lemma sendall_sendsFront (data : Bytes) : SendsFront (sendall data) data := by
  intro sock
  obtain ⟨done, hpre, hsent, hall⟩ := writeFully_sent sock data
  rcases hw : writeFully sock data with ⟨e | _, sock'⟩
  · rw [hw] at hsent
    simp only [sendall, hw]
    exact ⟨done, hpre, hsent, by simp⟩
  · rw [hw] at hsent hall
    simp only [sendall, hw]
    exact ⟨done, hpre, hsent, fun _ => hall rfl⟩

lemma sendFrame_sendsFront (kind : UInt8) (payload : Bytes) :
    SendsFront (sendFrame kind payload) (Frame.bytes ⟨kind, payload⟩) := by
  rw [sendFrame]
  split_ifs with hkind hlen
  · exact SendsFront.fail _ _
  · exact SendsFront.fail _ _
  · exact sendall_sendsFront _

/-- A frame that is too long is not begun. -/
lemma sendFrame_tooLong {kind : UInt8} {payload : Bytes} (h : maxFrameBytes < payload.length)
    (sock : Outbound) : ∃ e, (sendFrame kind payload).run sock = (.error e, sock) := by
  rw [sendFrame]
  split_ifs
  · exact ⟨_, rfl⟩
  · exact ⟨_, rfl⟩

lemma sendControl_sendsFront (py : Interpreter) (msg : Dict) :
    SendsFront (sendControl py msg) (controlFrame msg).bytes := by
  rw [sendControl]
  cases henc : encodeControl py msg with
  | error e => exact SendsFront.fail e _
  | ok payload =>
      rw [encodeControl_ok henc]
      exact sendFrame_sendsFront _ _

lemma sendChunk_sendsFront (data : Bytes) (chunkSize seq : ℕ) :
    SendsFront (sendChunk data chunkSize seq) (chunkFrame data chunkSize seq).bytes := by
  rw [sendChunk, packSeq]
  split_ifs
  · exact sendFrame_sendsFront _ _
  · exact SendsFront.fail _ _

lemma sendTransfer_sendsFront (py : Interpreter) (opening : Dict) (data : Bytes) (chunkSize : ℕ) (closing : Dict) :
    SendsFront (sendTransfer py opening data chunkSize closing)
      (wire (transferFrames opening data chunkSize closing)) := by
  rw [sendTransfer, wire_transferFrames]
  split_ifs
  · exact SendsFront.fail _ _
  · exact (sendControl_sendsFront py opening).bind ((SendsFront.forEach fun seq _ =>
      sendChunk_sendsFront data chunkSize seq).bind (sendControl_sendsFront py closing))

/-- A message that is too long is not begun. -/
lemma sendControl_tooLong {py : Interpreter} {msg : Dict} (h : maxFrameBytes < (rendered (.obj msg)).length)
    (sock : Outbound) : ∃ e, (sendControl py msg).run sock = (.error e, sock) := by
  rw [sendControl]
  cases henc : encodeControl py msg with
  | error e => exact ⟨e, rfl⟩
  | ok payload =>
      rw [encodeControl_ok henc]
      exact sendFrame_tooLong h sock

/-! ## The answer and the utterance -/

/-- The frames sent for an image with this result. -/
def answerFrames (py : Interpreter) (image : ReceivedImage) (result : PipelineResult) : List Frame :=
  if (rendered (.obj (aiResponse result.text))).length ≤ maxFrameBytes then
    controlFrame (aiResponse result.text) :: spokenFrames py image result.audioFile
  else []

lemma length_spokenFrames {py : Interpreter} {image : ReceivedImage} {file : AudioFile} :
    ∀ f ∈ spokenFrames py image file, f.payload.length ≤ maxFrameBytes := by
  intro f hf
  unfold spokenFrames at hf
  split at hf
  · rename_i pcm
    split_ifs at hf with h
    · rw [transferFrames, List.cons_append, List.mem_cons, List.mem_append, List.mem_singleton] at hf
      rcases hf with rfl | hf | rfl
      · exact h.2
      · obtain ⟨seq, -, rfl⟩ := List.mem_map.mp hf
        exact (length_chunk_le _ _ _).trans (by decide)
      · exact (length_audioEnd_le image pcm).trans h.2
    · simp at hf
  · simp at hf

/-- The utterance, if there is one: whatever happens, the front of its frames is sent. -/
lemma sendAudio_sendsFront (py : Interpreter) (image : ReceivedImage) (pcm : Pcm) :
    SendsFront (sendAudio py image.imageId pcm.data pcm.sampleRate pcm.channels defaultFormat chunkSize)
      (wire (spokenFrames py image (.wav (.ok pcm)))) := by
  rw [spokenFrames]
  split_ifs with h
  · rw [sendAudio_eq, ← audioOpening]
    exact sendTransfer_sendsFront _ _ _ _ _
  · intro sock
    obtain ⟨e, hrun⟩ := sendAudio_unannounced h sock
    rw [hrun]
    exact ⟨[], List.nil_prefix, (List.append_nil _).symm, by simp⟩

/-- **Whatever happens, the front of the answer is sent**, on the outbound side of the phone. -/
lemma reply_sendsFront (phone : Phone) (image : ReceivedImage) (result : PipelineResult) (s : Served) :
    ∃ done, done <+: wire (answerFrames phone.py image result) ∧
      ((reply phone image result).run s).2.out.sent = s.out.sent ++ done := by
  have nothing : ∃ done, done <+: wire (answerFrames phone.py image result) ∧ s.out.sent = s.out.sent ++ done :=
    ⟨[], List.nil_prefix, (List.append_nil _).symm⟩
  rw [reply, printLine, Effect.run_ofExcept_bind]
  cases phone.print (resultLine result) with
  | error e => exact nothing
  | ok _ =>
      simp only
      by_cases hlen : (rendered (.obj (aiResponse result.text))).length ≤ maxFrameBytes
      · obtain ⟨done, hpre, hsent, hall⟩ := sendControl_sendsFront phone.py (aiResponse result.text) s.out
        have hfront : (controlFrame (aiResponse result.text)).bytes <+: wire (answerFrames phone.py image result) := by
          rw [answerFrames, if_pos hlen, wire_cons]
          exact List.prefix_append _ _
        rcases hrun : (sendControl phone.py (aiResponse result.text)).run s.out with ⟨e | _, out⟩
        · rw [hrun] at hsent
          have hanswer : (sending (sendControl phone.py (aiResponse result.text))).run s = (.error e, ⟨out, s.runs⟩) := by
            rw [sending, Effect.run_within, hrun]
          rw [Effect.run_bind_error hanswer]
          exact ⟨done, hpre.trans hfront, hsent⟩
        · rw [hrun] at hsent hall
          obtain rfl := hall rfl
          have hanswer : (sending (sendControl phone.py (aiResponse result.text))).run s = (.ok (), ⟨out, s.runs⟩) := by
            rw [sending, Effect.run_within, hrun]
          rw [Effect.run_bind_ok hanswer]
          cases hfile : result.audioFile with
          | other => exact ⟨_, hfront, hsent⟩
          | wav found =>
              simp only
              rw [Effect.run_ofExcept_bind]
              cases found with
              | error e => exact ⟨_, hfront, hsent⟩
              | ok pcm =>
                  obtain ⟨more, hmore, hsent', -⟩ := sendAudio_sendsFront phone.py image pcm out
                  refine ⟨(controlFrame (aiResponse result.text)).bytes ++ more, ?_, ?_⟩
                  · rw [answerFrames, if_pos hlen, wire_cons, hfile, List.prefix_append_right_inj]
                    exact hmore
                  · simp only [sending, Effect.run_within]
                    rw [hsent', hsent, List.append_assoc]
      · obtain ⟨e, hopen⟩ := sendControl_tooLong (not_le.mp hlen) s.out
        have hanswer : (sending (sendControl phone.py (aiResponse result.text))).run s = (.error e, s) := by
          rw [sending, Effect.run_within, hopen]
        rw [Effect.run_bind_error hanswer]
        exact nothing

/-- **What is sent for an image**, whatever the link does: nothing, or the front of the frames of the answer
that the pipeline gave to the image. -/
theorem processAndReply_sendsFront (phone : Phone) (image : ReceivedImage) (s : Served) :
    ((processAndReply phone image).run s).2.out.sent = s.out.sent ∨
      ∃ result done, phone.pipelineRun s.runs image.call = .ok result ∧
        ((processAndReply phone image).run s).2.runs = s.runs ++ [image.call] ∧
        done <+: wire (answerFrames phone.py image result) ∧
        ((processAndReply phone image).run s).2.out.sent = s.out.sent ++ done := by
  rw [processAndReply, printLine, Effect.run_ofExcept_bind]
  cases phone.print (receivedLine phone image) with
  | error e => exact Or.inl rfl
  | ok _ =>
      simp only
      rw [Effect.run_bind, runPipeline]
      cases hresult : phone.pipelineRun s.runs ⟨image.data, image.mediaType, image.imageId⟩ with
      | error e => exact Or.inl (by simp only [hresult])
      | ok result =>
          obtain ⟨done, hpre, hsent⟩ := reply_sendsFront phone image result { s with runs := s.runs ++ [image.call] }
          refine Or.inr ⟨result, done, hresult, ?_, hpre, ?_⟩
          · simp only [hresult]
            exact keepsRuns_reply phone image result _
          · simp only [hresult]
            exact hsent

end Sudonit
