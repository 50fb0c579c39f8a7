import Sudonit.Protocol.Framing
import Sudonit.Protocol.JsonC
import Sudonit.Protocol.Sha256C

/-!
# `messages.c`: control messages and chunked transfers

The device's half of the protocol over the C framing: an image is announced with `snprintf`, cut into
chunks and closed; an inbound control frame is classified by its `type`; the body of an audio downlink
is written chunk by chunk into the caller's buffer.

`heap` says whether `malloc` finds the memory.  `none` is undefined behaviour: an access outside an
object.  Arithmetic on `size_t` is modulo the word size of the `Target`.
-/

namespace Sudonit

open Octets Stream Frames CText

/-! ## Targets -/

/-- The two targets the code is built for. -/
inductive Target
  | host
  | esp32
  deriving DecidableEq, Repr

/-- One more than `SIZE_MAX`. -/
def Target.sizeModulus : Target → ℕ
  | .host => 2 ^ 64
  | .esp32 => 2 ^ 32

lemma Target.le_sizeModulus (target : Target) : 2 ^ 32 ≤ target.sizeModulus := by
  cases target <;> decide

/-- `PTRDIFF_MAX`: no object is larger. -/
def Target.objectMax (target : Target) : ℕ := target.sizeModulus / 2 - 1

/-- The octets of an object in memory. -/
structure Object (target : Target) where
  bytes : Bytes
  length_le : bytes.length ≤ target.objectMax

/-- A C string of memory: the octets before its terminator. -/
structure CStr where
  bytes : Bytes
  no_nul : 0 ∉ bytes

/-- A local array, with whatever it held before. -/
structure Buffer (n : ℕ) where
  bytes : Bytes
  length_eq : bytes.length = n

/-- An array of zeros. -/
def Buffer.zeros (n : ℕ) : Buffer n := ⟨List.replicate n 0, List.length_replicate⟩

/-! ## Sending -/

/-- `sd_msg_send_ping`. -/
def sdMsgSendPing : Effect Outbound SdErr Unit := sdFrameSend kindJson (ascii "\x7b\"type\":\"ping\"\x7d")

/-- The `image_begin` text. -/
def imageBeginText (imageId : Bytes) (len chunks : ℕ) (sha mediaType : Bytes) : Bytes :=
  ascii "\x7b\"type\":\"image_begin\",\"image_id\":\"" ++ imageId ++ ascii "\",\"size\":" ++
    decimal len ++ ascii ",\"chunks\":" ++ decimal chunks ++ ascii ",\"sha256\":\"" ++ sha ++
    ascii "\",\"media_type\":\"" ++ mediaType ++ ascii "\"\x7d"

/-- The `image_end` text. -/
def imageEndText (imageId : Bytes) : Bytes :=
  ascii "\x7b\"type\":\"image_end\",\"image_id\":\"" ++ imageId ++ ascii "\"\x7d"

/-- `snprintf` into `cap` octets and the check of its result, then the frame. -/
def sendText (cap : ℕ) (text : Bytes) : Effect Outbound SdErr Unit :=
  if cap ≤ text.length then Effect.fail .invalid else sdFrameSend kindJson text

/-- The number of chunks, in `size_t` arithmetic. -/
def sdChunkCount (target : Target) (len : ℕ) : ℕ :=
  let chunks := (len + chunkSize - 1) % target.sizeModulus / chunkSize
  if chunks = 0 then 1 else chunks

/-- One pass of the chunk loop of `sd_msg_send_image`. -/
def sdSendChunk (target : Target) (data : Bytes) (seq : ℕ) : Effect Outbound SdErr Unit :=
  let start := seq * chunkSize % target.sizeModulus
  let clen := if start < data.length then data.length - start else 0
  let clen := if clen > chunkSize then chunkSize else clen
  sdFrameSend kindBinary (be32 seq ++ (data.drop start).take clen)

/-- `sd_msg_send_image`. -/
def sdMsgSendImage (target : Target) (heap : Bool) (imageId : CStr) (data : Object target)
    (mediaType : CStr) : Effect Outbound SdErr Unit :=
  let len := data.bytes.length
  let chunks := sdChunkCount target len
  do
    sendText 256 (imageBeginText imageId.bytes len chunks (sdSha256Hex data.bytes) mediaType.bytes)
    if heap then do
      Effect.forEach (sdSendChunk target data.bytes) (List.range chunks)
      sendText 128 (imageEndText imageId.bytes)
    else Effect.fail .noMem

/-! ## Receiving control messages -/

/-- `sd_msg_type_t`. -/
inductive MsgType
  | unknown
  | pong
  | deviceInfo
  | aiResponse
  | playAudio
  | audioBegin
  | error
  deriving DecidableEq, Repr

/-- The chain of `strcmp`: the type, and the key of the text handed back with it. -/
def classify (type : Bytes) : MsgType × Option Bytes :=
  if type = ascii "pong" then (.pong, none)
  else if type = ascii "device_info" then (.deviceInfo, none)
  else if type = ascii "ai_response" then (.aiResponse, some (ascii "text"))
  else if type = ascii "play_audio" then (.playAudio, some (ascii "content"))
  else if type = ascii "error" then (.error, some (ascii "message"))
  else if type = ascii "audio_begin" then (.audioBegin, none)
  else (.unknown, none)

/-- What `sd_msg_recv` hands back in `text_out` for a classified message: the raw text of an
`audio_begin`, or the text member as far as `sd_json_get_string` gets, its result ignored. -/
def handText (kindOf : MsgType × Option Bytes) (json textOut : Bytes) : Option Bytes :=
  if textOut.length = 0 then some textOut
  else if kindOf.1 = .audioBegin then snprintfString textOut json
  else
    match kindOf.2 with
    | none => some textOut
    | some key => (sdJsonGetString json key textOut).map Prod.snd

/-- `sd_msg_recv` from the terminated text of a control frame on. -/
def readControl (typeBuf : Buffer 32) (json textOut : Bytes) :
    Option (Except SdErr MsgType × Bytes) :=
  match sdJsonGetString json (ascii "type") typeBuf.bytes with
  | none => none
  | some (.error _, _) => some (.error .io, textOut)
  | some (.ok (), type) =>
      match cstring type with
      | none => none
      | some type => (handText (classify type) json textOut).map fun out => (.ok (classify type).1, out)

/-- The capacity `sd_msg_recv` receives a frame with. -/
def msgRecvCap : ℕ := 8192 - 1

/-- `sd_msg_recv`, with the whole of `textOut` for its text: the result and the type, the text buffer,
and the stream afterwards. -/
def sdMsgRecv (heap : Bool) (typeBuf : Buffer 32) (textOut : Bytes) (t : Inbound) :
    Option (Except SdErr MsgType × Bytes × Inbound) :=
  let textOut := textOut.set 0 0
  if heap then
    match (sdFrameRecv msgRecvCap).run t with
    | (.error e, t) => some (.error e, textOut, t)
    | (.ok f, t) =>
        if f.kind ≠ kindJson then some (.error .io, textOut, t)
        else (readControl typeBuf (f.payload ++ [0]) textOut).map fun r => (r.1, r.2, t)
  else some (.error .noMem, textOut, t)

/-! ## Receiving an audio body -/

/-- The capacity of the chunk buffer. -/
def frameCap : ℕ := 4 + chunkSize

/-- One pass of the chunk loop of `sd_msg_recv_audio_body`: the running total or the error to return
with, the buffer and the stream.  `none` is a write outside `pcm`. -/
def audioChunk (target : Target) (pcm : Bytes) (total : ℕ) (t : Inbound) :
    Option (Except SdErr ℕ × Bytes × Inbound) :=
  match (sdFrameRecv frameCap).run t with
  | (.error e, t) => some (.error e, pcm, t)
  | (.ok f, t) =>
      if f.kind ≠ kindBinary ∨ f.payload.length < 4 then some (.error .io, pcm, t)
      else
        let seq := beNat (f.payload.take 4)
        let dlen := f.payload.length - 4
        let off := seq * chunkSize % 2 ^ 64
        if (off + dlen) % 2 ^ 64 > pcm.length then some (.error .io, pcm, t)
        else if dlen > 0 then
          (store pcm (off % target.sizeModulus) (f.payload.drop 4)).map fun pcm =>
            (.ok ((total + dlen) % target.sizeModulus), pcm, t)
        else some (.ok total, pcm, t)

/-- The chunk loop of `sd_msg_recv_audio_body`: so many chunks still to come. -/
def audioChunks (target : Target) : ℕ → Bytes → ℕ → Inbound →
    Option (Except SdErr ℕ × Bytes × Inbound)
  | 0, pcm, total, t => some (.ok total, pcm, t)
  | n + 1, pcm, total, t =>
      match audioChunk target pcm total t with
      | none => none
      | some (.error e, pcm, t) => some (.error e, pcm, t)
      | some (.ok total, pcm, t) => audioChunks target n pcm total t

/-- The closing control frame and the two checks of `sd_msg_recv_audio_body`. -/
def audioClose (size : ℕ) (shaHex : Bytes) (pcm : Bytes) (total : ℕ) (t : Inbound) :
    Except SdErr Unit × Inbound :=
  match (sdFrameRecv frameCap).run t with
  | (.error e, t) => (.error e, t)
  | (.ok f, t) =>
      if f.kind ≠ kindJson then (.error .io, t)
      else if total ≠ size then (.error .io, t)
      else if sdSha256Hex (pcm.take size) ≠ shaHex then (.error .io, t)
      else (.ok (), t)

/-- `sd_msg_recv_audio_body` into the whole of `pcm`: the result, the buffer and the stream. -/
def sdMsgRecvAudioBody (target : Target) (heap : Bool) (chunks size : UInt32) (shaHex : CStr)
    (pcm : Bytes) (t : Inbound) : Option (Except SdErr Unit × Bytes × Inbound) :=
  if pcm.length < size.toNat then some (.error .invalid, pcm, t)
  else if heap then
    match audioChunks target chunks.toNat pcm 0 t with
    | none => none
    | some (.error e, pcm, t) => some (.error e, pcm, t)
    | some (.ok total, pcm, t) =>
        let (result, t) := audioClose size.toNat shaHex.bytes pcm total t
        some (result, pcm, t)
  else some (.error .noMem, pcm, t)

end Sudonit
