import Sudonit.Protocol.Senders

/-!
# `server.py`: one connection of the phone

`handle_connection` takes frame after frame off the socket until something it catches is raised.  A
`ProtocolError` and an `OSError` end the connection; anything else leaves the function.

What lies around the handler is a `Phone`: the interpreter, `str()` of a JSON value, `print` and the
pipeline.  The calls of the pipeline are recorded.

* `handleFrame` — one pass of the loop, behind `recv_frame`.
* `connectionLoop_eq` — the loop on a stream is `serve` on the frames `recv_frame` makes of it.
-/

namespace Sudonit

open Octets Stream Frames Python

/-! ## Around the handler -/

/-- The arguments of one call of `pipeline.run`. -/
structure RunCall where
  imageBytes : Bytes
  mediaType : JsonValue
  imageId : JsonValue

/-- `Pcm`, as a WAV file can hold it. -/
structure Pcm where
  data : Bytes
  sampleRate : ℕ
  channels : ℕ
  length_lt : data.length < 2 ^ 32
  sampleRate_lt : sampleRate < 2 ^ 32
  channels_lt : channels < 2 ^ 16

/-- The file at `audio_path`, by its suffix. -/
inductive AudioFile
  /-- `.wav`, with what `pcm_from_wav` makes of it -/
  | wav (pcm : Except PyExc Pcm)
  /-- any other, such as the `.txt` written when there is no speech engine -/
  | other

/-- `PipelineResult`, as far as the server reads it. -/
structure PipelineResult where
  text : PyStr
  provider : PyStr
  model : PyStr
  audioFile : AudioFile
  latencyMs : ℤ

/-- What the handler runs in. -/
structure Phone where
  /-- the interpreter -/
  py : Interpreter
  /-- `str(value)` -/
  format : JsonValue → PyStr
  format_str : ∀ s, format (.str s) = s
  /-- `print(line)`, to a standard output that takes printable ASCII at least -/
  print : PyStr → Except PyExc Unit
  print_ascii : ∀ bs, AllPrintable bs → print (ofBytes bs) = .ok ()
  /-- `pipeline.run`, after the calls it has had -/
  pipelineRun : List RunCall → RunCall → Except PyExc PipelineResult

/-- A phone with no speech engine. -/
def deskPhone : Phone where
  py := usualInterpreter
  format
    | .str s => s
    | v => ofBytes (rendered v)
  format_str _ := rfl
  print _ := .ok ()
  print_ascii _ _ := rfl
  pipelineRun _ _ := .ok ⟨str "a cup", str "mock", str "mock", .other, 3⟩

/-- What a connection has left behind so far: the bytes sent and the calls of the pipeline. -/
structure Served where
  out : Outbound
  runs : List RunCall

/-- Send something over the connection. -/
def sending (x : Effect Outbound PyExc Unit) : Effect Served PyExc Unit :=
  Effect.within Served.out (fun out s => { s with out := out }) x

/-- `print`. -/
def printLine (phone : Phone) (line : PyStr) : Effect Served PyExc Unit := Effect.ofExcept (phone.print line)

/-- `pipeline.run`. -/
def runPipeline (phone : Phone) (call : RunCall) : Effect Served PyExc PipelineResult :=
  ⟨fun s => (phone.pipelineRun s.runs call, { s with runs := s.runs ++ [call] })⟩

/-! ## Handling a frame -/

/-- The line printed for an image. -/
def receivedLine (phone : Phone) (image : ReceivedImage) : PyStr :=
  str "[server] received image '" ++ phone.format image.imageId ++ str "' (" ++
    ofBytes (decimal image.data.length) ++ str " bytes)"

/-- The line printed for a result. -/
def resultLine (result : PipelineResult) : PyStr :=
  str "[server] " ++ result.provider ++ str "/" ++ result.model ++ str " in " ++
    ofBytes (intRepr result.latencyMs) ++ str " ms: " ++ result.text

/-- The line printed when there is nothing to play. -/
def skippingLine : PyStr := str "[server] no WAV produced (no TTS engine); skipping audio downlink"

/-- The `ai_response` message. -/
def aiResponse (text : PyStr) : Dict := [(str "type", .str (str "ai_response")), (str "text", .str text)]

/-- `_process_and_reply` from the result on. -/
def reply (phone : Phone) (image : ReceivedImage) (result : PipelineResult) : Effect Served PyExc Unit := do
  printLine phone (resultLine result)
  sending (sendControl phone.py (aiResponse result.text))
  match result.audioFile with
  | .wav found => do
      let pcm ← Effect.ofExcept found
      sending (sendAudio phone.py image.imageId pcm.data pcm.sampleRate pcm.channels defaultFormat chunkSize)
  | .other => printLine phone skippingLine

/-- `_process_and_reply`. -/
def processAndReply (phone : Phone) (image : ReceivedImage) : Effect Served PyExc Unit := do
  printLine phone (receivedLine phone image)
  let result ← runPipeline phone ⟨image.data, image.mediaType, image.imageId⟩
  reply phone image result

/-- An `error` message. -/
def errorMessage (code : ℤ) (message : PyStr) : Dict :=
  [(str "type", .str (str "error")), (str "code", .int code), (str "message", .str message)]

/-- The `device_info` message. -/
def deviceInfo : Dict :=
  [(str "type", .str (str "device_info")), (str "device", .str (str "Sudonit Phone Brain")),
    (str "firmware", .str (str "sim"))]

/-- The `pong` message. -/
def pong : Dict := [(str "type", .str (str "pong"))]

lemma writable_errorMessage (py : Interpreter) (code : ℤ) (message : PyStr) : Writable py (errorMessage code message) :=
  .of_plain py rfl (by decide) (by simp [errorMessage, nesting])

lemma writable_deviceInfo (py : Interpreter) : Writable py deviceInfo :=
  .of_plain py rfl (by decide) (by simp [deviceInfo, nesting])

lemma writable_pong (py : Interpreter) : Writable py pong := .of_plain py rfl (by decide) (by simp [pong, nesting])

/-- `msg["type"]`, which `decode_control` has made sure of. -/
def messageType (msg : Dict) : JsonValue := (dictGet msg (str "type")).getD .null

/-- The pass of the loop for a control message. -/
def handleControl (phone : Phone) (reassembler : Option ImageReassembler) (msg : Dict) :
    Effect Served PyExc (Option ImageReassembler) :=
  if isStr (messageType msg) (str "ping") then do
    sending (sendControl phone.py pong)
    return reassembler
  else if isStr (messageType msg) (str "device_info") then do
    sending (sendControl phone.py deviceInfo)
    return reassembler
  else if isStr (messageType msg) (str "image_begin") then do
    let opened ← Effect.ofExcept (ImageReassembler.new msg)
    return some opened
  else if isStr (messageType msg) (str "image_end") then
    match reassembler with
    | none => return none
    | some current => do
        let image ← Effect.ofExcept (current.finish.mapError .protocolError)
        processAndReply phone image
        return none
  else do
    sending (sendControl phone.py (errorMessage 1001 (str "unhandled type " ++ phone.format (messageType msg))))
    return reassembler

/-- One pass of the loop of `handle_connection`, behind `recv_frame`. -/
def handleFrame (phone : Phone) (reassembler : Option ImageReassembler) (f : Frame) :
    Effect Served PyExc (Option ImageReassembler) :=
  if f.kind = kindBinary then
    match reassembler with
    | none => do
        sending (sendControl phone.py (errorMessage 1002 (str "chunk before image_begin")))
        return none
    | some current => do
        let fed ← Effect.ofExcept ((current.addChunk f.payload).mapError .protocolError)
        return some fed
  else do
    let msg ← Effect.ofExcept (decodeControl phone.py f.payload)
    handleControl phone reassembler msg

/-! ## The loop -/

/-- How `handle_connection` comes to its end. -/
inductive Ending
  | returned
  | raised (e : PyExc)

/-- `except (framing.ProtocolError, OSError)`. -/
def PyExc.caught : PyExc → Bool
  | .protocolError _ => true
  | .osError => true
  | _ => false

/-- The `except` clause. -/
def ending (e : PyExc) : Ending := if e.caught then .returned else .raised e

lemma recvFrame_consumes : Consumes recvFrame.run := by
  rw [recvFrame_eq]
  exact receiveFrame_consumes PyExc.ofStop

/-- The loop of `handle_connection`. -/
def connectionLoop (phone : Phone) (reassembler : Option ImageReassembler) (conn : Inbound) (s : Served) :
    Ending × Served :=
  match _h : recvFrame.run conn with
  | (.error e, _) => (ending e, s)
  | (.ok f, conn') =>
      match (handleFrame phone reassembler f).run s with
      | (.error e, s') => (ending e, s')
      | (.ok reassembler', s') => connectionLoop phone reassembler' conn' s'
termination_by conn.bytes.length
decreasing_by exact recvFrame_consumes _ _ _ _h

/-- `handle_connection`. -/
def handleConnection (phone : Phone) (conn : Inbound) (s : Served) : Ending × Served :=
  connectionLoop phone none conn s

/-- The passes of the loop, given the frames. -/
def serve (phone : Phone) (reassembler : Option ImageReassembler) :
    List Frame → Effect Served PyExc (Option ImageReassembler)
  | [] => pure reassembler
  | f :: fs => do
      let reassembler ← handleFrame phone reassembler f
      serve phone reassembler fs

lemma connectionLoop_error {phone : Phone} {conn conn' : Inbound} {e : PyExc}
    (h : recvFrame.run conn = (.error e, conn')) (reassembler : Option ImageReassembler) (s : Served) :
    connectionLoop phone reassembler conn s = (ending e, s) := by
  rw [connectionLoop]
  split
  · rename_i e' _ h'
    rw [h] at h'
    rw [Except.error.inj (Prod.mk.inj h').1]
  · rename_i f conn'' h'
    rw [h] at h'
    simp at h'

lemma connectionLoop_ok {phone : Phone} {conn conn' : Inbound} {f : Frame}
    (h : recvFrame.run conn = (.ok f, conn')) (reassembler : Option ImageReassembler) (s : Served) :
    connectionLoop phone reassembler conn s = match (handleFrame phone reassembler f).run s with
      | (.error e, s') => (ending e, s')
      | (.ok reassembler', s') => connectionLoop phone reassembler' conn' s' := by
  rw [connectionLoop]
  split
  · rename_i e _ h'
    rw [h] at h'
    simp at h'
  · rename_i f' conn'' h'
    rw [h] at h'
    obtain ⟨hf, rfl⟩ := Prod.mk.inj h'
    rw [Except.ok.inj hf]

/-- Whatever `recv_frame` raises is caught. -/
lemma caught_of_recvFrame {conn conn' : Inbound} {e : PyExc} (h : recvFrame.run conn = (.error e, conn')) :
    e.caught = true := by
  have hstop : ∀ stop, (PyExc.ofStop stop).caught = true := by
    intro stop
    cases stop <;> rfl
  rw [recvFrame_eq, receiveFrame] at h
  simp only at h
  split at h
  · rw [← Except.error.inj (Prod.mk.inj h).1]
    exact hstop _
  · split at h
    · rename_i hrej
      rw [pyReject] at hrej
      split_ifs at hrej
      rw [← Except.error.inj (Prod.mk.inj h).1, ← Option.some.inj hrej]
      rfl
    · split at h
      · rw [← Except.error.inj (Prod.mk.inj h).1]
        exact hstop _
      · simp at h

/-- **The loop handles the frames `recv_frame` makes of the stream**, until handling one fails. -/
theorem connectionLoop_eq (phone : Phone) (reassembler : Option ImageReassembler) (conn : Inbound)
    (s : Served) : connectionLoop phone reassembler conn s
      = match (serve phone reassembler (drain recvFrame.run conn).1).run s with
        | (.error e, s') => (ending e, s')
        | (.ok _, s') => (.returned, s') := by
  induction hn : conn.bytes.length using Nat.strongRecOn generalizing reassembler conn s with
  | ind n ih =>
      rcases hrecv : recvFrame.run conn with ⟨e | f, conn'⟩
      · rw [connectionLoop_error hrecv, drain_error hrecv, ending, if_pos (caught_of_recvFrame hrecv)]
        rfl
      · have hless := recvFrame_consumes _ _ _ hrecv
        rw [connectionLoop_ok hrecv, drain_ok recvFrame_consumes hrecv, serve, Effect.run_bind]
        rcases (handleFrame phone reassembler f).run s with ⟨e | reassembler', s'⟩
        · rfl
        · exact ih _ (hn ▸ hless) reassembler' conn' s' rfl

/-- The frames of a steady stream are those written to it. -/
lemma drain_recvFrame {conn : Inbound} (hconn : conn.Steady) {fs : List Frame}
    (hfs : ∀ f ∈ fs, f.payload.length ≤ maxFrameBytes) (hb : conn.bytes = wire fs) :
    (drain recvFrame.run conn).1 = fs := by
  rw [recvFrame_eq]
  exact drain_wire_eq PyExc.ofStop hconn (fun f hf => accepted_pyReject.mpr (hfs f hf)) hb

/-- A flat message is decoded to its members. -/
lemma decodeControl_flatText (py : Interpreter) {ms : Dict} (hms : FlatMembers ms)
    (hkeys : (ms.map Prod.fst).Nodup) (htype : (dictGet ms (str "type")).isSome) :
    decodeControl py (flatText ms) = .ok ms := by
  have hne : ms ≠ [] := by
    rintro rfl
    simp [dictGet] at htype
  have hascii : ∀ b ∈ flatText ms, b < 0x80 := by
    intro b hb
    exact UInt8.lt_of_le_of_lt (allPrintable_flatText ms b hb).2 (by decide)
  obtain ⟨depth, hdepth⟩ : ∃ depth, py.depth = depth + 1 := ⟨py.depth - 1, by have := py.depth_pos; omega⟩
  rw [decodeControl, utf8Decode_ascii hascii]
  simp only [hdepth, loads_flatText hne hms hkeys, if_pos htype]

lemma serve_append_ok {phone : Phone} {reassembler reassembler' : Option ImageReassembler}
    {fs : List Frame} {s s' : Served} (h : (serve phone reassembler fs).run s = (.ok reassembler', s'))
    (gs : List Frame) :
    (serve phone reassembler (fs ++ gs)).run s = (serve phone reassembler' gs).run s' := by
  induction fs generalizing reassembler s with
  | nil =>
      obtain ⟨hr, rfl⟩ := Prod.mk.inj h
      rw [Except.ok.inj hr]
      rfl
  | cons f fs ih =>
      obtain ⟨r, s₁, hf, hfs⟩ := Effect.run_bind_eq_ok.mp h
      rw [List.cons_append, serve, Effect.run_bind_ok hf]
      exact ih hfs

end Sudonit
