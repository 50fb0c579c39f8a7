import Mathlib.Data.List.AList
import Sudonit.Core.Sha256
import Sudonit.Protocol.Framing
import Sudonit.Python.Json

/-!
# `messages.py`: control messages and chunked transfers

Control messages are dictionaries, sent as canonical JSON.  An image or an utterance is announced,
sent in numbered chunks and closed; the receiving side keeps the chunks by number and checks count,
size and digest before it hands the bytes on.

The two reassemblers of the source share everything but the fields they carry along: that part is
`Transfer`.
-/

namespace Sudonit

open Octets Stream Frames Python

/-! ## Control messages -/

/-- `KNOWN_TYPES`. -/
def knownTypes : List PyStr :=
  ["ping", "pong", "device_info", "battery_status", "capture_request", "image_begin", "image_end",
    "analyze_image", "ai_response", "audio_begin", "audio_end", "play_audio", "stop_audio",
    "notification", "error"].map str

/-- An interpreter, by how many JSON containers deep it recurses where the program reads a message and where it
writes one.  The two are called from different depths of the program's own calls. -/
structure Interpreter where
  depth : ℕ
  depth_pos : 0 < depth
  dumpDepth : ℕ
  dumpDepth_pos : 0 < dumpDepth

/-- An interpreter at its usual recursion limit. -/
def usualInterpreter : Interpreter := ⟨993, by decide, 990, by decide⟩

/-- `encode_control`.  A type that cannot be hashed makes the membership test raise; the `RecursionError` of
`json.dumps` passes. -/
def encodeControl (py : Interpreter) (msg : Dict) : Except PyExc Bytes :=
  match dictGet msg (str "type") with
  | some (.str t) =>
      if t ∈ knownTypes then (dumps py.dumpDepth (.obj msg)).mapError fun _ => .recursionError
      else .error (.protocolError (.unknownType (some (.str t))))
  | some (.arr _) => .error .typeError
  | some (.obj _) => .error .typeError
  | other => .error (.protocolError (.unknownType other))

/-- What is encoded is the text of the message. -/
lemma encodeControl_ok {py : Interpreter} {msg : Dict} {payload : Bytes} (h : encodeControl py msg = .ok payload) :
    payload = rendered (.obj msg) := by
  unfold encodeControl at h
  split at h
  · split_ifs at h
    cases hdumps : dumps py.dumpDepth (.obj msg) with
    | error e => simp [hdumps, Except.mapError] at h
    | ok text =>
        simp only [hdumps, Except.mapError, Except.ok.injEq] at h
        rw [← h, (dumps_ok_iff.mp hdumps).2]
  all_goals simp at h

/-- The members of a message of a known type, none of them nested beyond what the interpreter writes. -/
structure Writable (py : Interpreter) (msg : Dict) : Prop where
  known : ∃ t, dictGet msg (str "type") = some (.str t) ∧ t ∈ knownTypes
  nesting : ∀ m ∈ msg, nesting m.2 < py.dumpDepth

/-- Such a message is encoded. -/
lemma Writable.encodeControl {py : Interpreter} {msg : Dict} (h : Writable py msg) :
    encodeControl py msg = .ok (rendered (.obj msg)) := by
  obtain ⟨t, htype, hmem⟩ := h.known
  have hdumps : dumps py.dumpDepth (.obj msg) = .ok (rendered (.obj msg)) := by
    have hmembers : nestingMembers msg ≤ py.dumpDepth - 1 :=
      nestingMembers_le_iff.mpr fun m hm => Nat.le_pred_of_lt (h.nesting m hm)
    have := py.dumpDepth_pos
    exact dumps_ok_iff.mpr ⟨by rw [Python.nesting]; omega, rfl⟩
  simp only [Sudonit.encodeControl, htype, if_pos hmem, hdumps, Except.mapError]

/-- A message of a known type whose members are no containers is encoded by every interpreter. -/
lemma Writable.of_plain (py : Interpreter) {msg : Dict} {t : PyStr} (htype : dictGet msg (str "type") = some (.str t))
    (hknown : t ∈ knownTypes) (hplain : ∀ m ∈ msg, Python.nesting m.2 = 0) : Writable py msg :=
  ⟨⟨t, htype, hknown⟩, fun m hm => by rw [hplain m hm]; exact py.dumpDepth_pos⟩

/-- `decode_control`.  Only `UnicodeDecodeError` and `JSONDecodeError` are turned into a
`ProtocolError`; the other exceptions of `json.loads` pass. -/
def decodeControl (py : Interpreter) (payload : Bytes) : Except PyExc Dict :=
  match utf8Decode payload with
  | none => .error (.protocolError .malformedJson)
  | some s =>
      match loads py.depth s with
      | .error .decode => .error (.protocolError .malformedJson)
      | .error .value => .error .valueError
      | .error .recursion => .error .recursionError
      | .error .fuel => .error .recursionError
      | .ok (.obj msg) =>
          if (dictGet msg (str "type")).isSome then .ok msg
          else .error (.protocolError .missingType)
      | .ok _ => .error (.protocolError .missingType)

/-- `_require`. -/
def require (msg : Dict) (key : PyStr) : Except PyExc JsonValue :=
  match dictGet msg key with
  | none => .error (.protocolError (.missingField key))
  | some v => .ok v

/-- `_require_int`: a `TypeError` or `ValueError` of `int()` becomes a `ProtocolError`, an
`OverflowError` passes. -/
def requireInt (msg : Dict) (key : PyStr) : Except PyExc ℤ := do
  let value ← require msg key
  match pyInt value with
  | .ok n => .ok n
  | .error .type => .error (.protocolError (.notInteger key value))
  | .error .value => .error (.protocolError (.notInteger key value))
  | .error .overflow => .error .overflowError

/-- `send_control`. -/
def sendControl (py : Interpreter) (msg : Dict) : Effect Outbound PyExc Unit := do
  let payload ← Effect.ofExcept (encodeControl py msg)
  sendFrame kindJson payload

/-! ## Sending -/

/-- `_SEQ.pack`. -/
def packSeq (seq : ℕ) : Except PyExc Bytes := if seq < 2 ^ 32 then .ok (be32 seq) else .error .structError

/-- The number of chunks a transfer is cut into: at least one, possibly empty. -/
def chunkCount (len chunkSize : ℕ) : ℕ := max 1 ((len + chunkSize - 1) / chunkSize)

/-- Chunk `seq` of a transfer. -/
def slice (data : Bytes) (chunkSize seq : ℕ) : Bytes := (data.drop (seq * chunkSize)).take chunkSize

/-- One binary frame of a transfer. -/
def sendChunk (data : Bytes) (chunkSize seq : ℕ) : Effect Outbound PyExc Unit := do
  let header ← Effect.ofExcept (packSeq seq)
  sendFrame kindBinary (header ++ slice data chunkSize seq)

/-- The `image_begin` of `send_image`. -/
def imageBegin (imageId : PyStr) (data : Bytes) (mediaType : PyStr) (chunkSize : ℕ) : Dict :=
  [(str "type", .str (str "image_begin")),
    (str "image_id", .str imageId),
    (str "size", .int data.length),
    (str "chunks", .int (chunkCount data.length chunkSize)),
    (str "sha256", .str (ofBytes (Sha256.hexdigest data))),
    (str "media_type", .str mediaType)]

/-- The `image_end` of `send_image`. -/
def imageEnd (imageId : PyStr) : Dict :=
  [(str "type", .str (str "image_end")), (str "image_id", .str imageId)]

/-- `send_image`. -/
def sendImage (py : Interpreter) (imageId : PyStr) (data : Bytes) (mediaType : PyStr) (chunkSize : ℕ) :
    Effect Outbound PyExc Unit :=
  if chunkSize = 0 then Effect.fail .zeroDivisionError
  else do
    sendControl py (imageBegin imageId data mediaType chunkSize)
    Effect.forEach (sendChunk data chunkSize) (List.range (chunkCount data.length chunkSize))
    sendControl py (imageEnd imageId)

/-- The `audio_begin` of `send_audio`. -/
def audioBegin (audioId : JsonValue) (pcm : Bytes) (sampleRate channels : ℤ) (audioFormat : PyStr)
    (chunkSize : ℕ) : Dict :=
  [(str "type", .str (str "audio_begin")),
    (str "audio_id", audioId),
    (str "size", .int pcm.length),
    (str "chunks", .int (chunkCount pcm.length chunkSize)),
    (str "sha256", .str (ofBytes (Sha256.hexdigest pcm))),
    (str "format", .str audioFormat),
    (str "sample_rate", .int sampleRate),
    (str "channels", .int channels)]

/-- The `audio_end` of `send_audio`. -/
def audioEnd (audioId : JsonValue) : Dict :=
  [(str "type", .str (str "audio_end")), (str "audio_id", audioId)]

/-- The default of `audio_format`. -/
def defaultFormat : PyStr := str "pcm_s16le"

/-- `send_audio`. -/
def sendAudio (py : Interpreter) (audioId : JsonValue) (pcm : Bytes) (sampleRate channels : ℤ)
    (audioFormat : PyStr) (chunkSize : ℕ) : Effect Outbound PyExc Unit :=
  if chunkSize = 0 then Effect.fail .zeroDivisionError
  else do
    sendControl py (audioBegin audioId pcm sampleRate channels audioFormat chunkSize)
    Effect.forEach (sendChunk pcm chunkSize) (List.range (chunkCount pcm.length chunkSize))
    sendControl py (audioEnd audioId)

/-! ## Reassembling -/

/-- What either reassembler expects and has received so far. -/
structure Transfer where
  expectedSize : ℤ
  expectedChunks : ℤ
  expectedSha256 : JsonValue
  chunks : AList fun _ : ℕ => Bytes

/-- `add_chunk`: a chunk replaces an earlier one of its number. -/
def Transfer.addChunk (t : Transfer) (payload : Bytes) : Except ProtocolFault Transfer :=
  if payload.length < 4 then .error .shortChunk
  else .ok { t with chunks := t.chunks.insert (beNat (payload.take 4)) (payload.drop 4) }

/-- `b"".join(self._chunks[i] for i in range(n))`, from chunk `i` on. -/
def joinChunks (chunks : AList fun _ : ℕ => Bytes) : ℕ → ℕ → Except ProtocolFault Bytes
  | _, 0 => .ok []
  | i, n + 1 =>
      match chunks.lookup i with
      | none => .error (.missingChunk i)
      | some data =>
          match joinChunks chunks (i + 1) n with
          | .error e => .error e
          | .ok rest => .ok (data ++ rest)

/-- Is the value this string? -/
def isStr (v : JsonValue) (s : PyStr) : Bool :=
  match v with
  | .str t => t = s
  | _ => false

/-- `finish`, up to what it wraps the bytes in. -/
def Transfer.finish (t : Transfer) : Except ProtocolFault Bytes :=
  if (t.chunks.keys.length : ℤ) ≠ t.expectedChunks then
    .error (.chunkCount t.chunks.keys.length t.expectedChunks)
  else
    match joinChunks t.chunks 0 t.expectedChunks.toNat with
    | .error e => .error e
    | .ok data =>
        if (data.length : ℤ) ≠ t.expectedSize then .error (.sizeMismatch data.length t.expectedSize)
        else if isStr t.expectedSha256 (ofBytes (Sha256.hexdigest data)) then .ok data
        else .error .shaMismatch

/-- `ImageReassembler`. -/
structure ImageReassembler where
  imageId : JsonValue
  mediaType : JsonValue
  transfer : Transfer

/-- `ReceivedImage`. -/
structure ReceivedImage where
  imageId : JsonValue
  mediaType : JsonValue
  data : Bytes

/-- `ImageReassembler.__init__`. -/
def ImageReassembler.new (msg : Dict) : Except PyExc ImageReassembler := do
  let imageId ← require msg (str "image_id")
  let mediaType := (dictGet msg (str "media_type")).getD (.str (str "image/png"))
  let expectedSize ← requireInt msg (str "size")
  let expectedChunks ← requireInt msg (str "chunks")
  let expectedSha256 ← require msg (str "sha256")
  return ⟨imageId, mediaType, expectedSize, expectedChunks, expectedSha256, ∅⟩

/-- `ImageReassembler.add_chunk`. -/
def ImageReassembler.addChunk (r : ImageReassembler) (payload : Bytes) :
    Except ProtocolFault ImageReassembler :=
  (r.transfer.addChunk payload).map fun t => { r with transfer := t }

/-- `ImageReassembler.finish`. -/
def ImageReassembler.finish (r : ImageReassembler) : Except ProtocolFault ReceivedImage :=
  r.transfer.finish.map fun data => ⟨r.imageId, r.mediaType, data⟩

/-- `AudioReassembler`. -/
structure AudioReassembler where
  audioId : JsonValue
  audioFormat : JsonValue
  sampleRate : ℤ
  channels : ℤ
  transfer : Transfer

/-- `ReceivedAudio`. -/
structure ReceivedAudio where
  audioId : JsonValue
  audioFormat : JsonValue
  sampleRate : ℤ
  channels : ℤ
  pcm : Bytes

/-- `AudioReassembler.__init__`. -/
def AudioReassembler.new (msg : Dict) : Except PyExc AudioReassembler := do
  let audioId ← require msg (str "audio_id")
  let audioFormat := (dictGet msg (str "format")).getD (.str defaultFormat)
  let sampleRate ← requireInt msg (str "sample_rate")
  let channels ← requireInt msg (str "channels")
  let expectedSize ← requireInt msg (str "size")
  let expectedChunks ← requireInt msg (str "chunks")
  let expectedSha256 ← require msg (str "sha256")
  return ⟨audioId, audioFormat, sampleRate, channels, expectedSize, expectedChunks, expectedSha256, ∅⟩

/-- `AudioReassembler.add_chunk`. -/
def AudioReassembler.addChunk (r : AudioReassembler) (payload : Bytes) :
    Except ProtocolFault AudioReassembler :=
  (r.transfer.addChunk payload).map fun t => { r with transfer := t }

/-- `AudioReassembler.finish`. -/
def AudioReassembler.finish (r : AudioReassembler) : Except ProtocolFault ReceivedAudio :=
  r.transfer.finish.map fun pcm => ⟨r.audioId, r.audioFormat, r.sampleRate, r.channels, pcm⟩

end Sudonit
