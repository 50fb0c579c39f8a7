import Sudonit.Python.Value

/-!
# Errors and limits of the protocol

`SdErr` is `sd_err_t` without `SD_OK`: a C function that can fail returns `Except SdErr`, or `Except Halt`
where it could also do something undefined.  `PyExc` is
what the Python side raises, `ProtocolFault` the reason a `ProtocolError` carries, with the data its
message is formatted from.
-/

namespace Sudonit

open Octets Python

/-- `sd_err_t`, failures only. -/
inductive SdErr
  | invalid
  | io
  | noMem
  | timeout
  | again
  | unsupported
  deriving DecidableEq, Repr

/-- Why a function of the firmware stopped: the code it returns, or an access outside an object. -/
inductive Halt
  | code (e : SdErr)
  | undefined

/-- Why a `ProtocolError` was raised. -/
inductive ProtocolFault
  /-- connection closed mid-frame -/
  | closedMidFrame
  /-- declared frame too large -/
  | declaredTooLarge (length : ℕ)
  /-- unknown frame kind -/
  | unknownKind (kind : UInt8)
  /-- frame too large -/
  | frameTooLarge (length : ℕ)
  /-- unknown control message type -/
  | unknownType (msgType : Option JsonValue)
  /-- malformed control JSON -/
  | malformedJson
  /-- control message missing 'type' -/
  | missingType
  /-- control message missing required field -/
  | missingField (key : PyStr)
  /-- field must be an integer -/
  | notInteger (key : PyStr) (value : JsonValue)
  /-- binary chunk shorter than its header -/
  | shortChunk
  /-- chunk count mismatch -/
  | chunkCount (got : ℕ) (expected : ℤ)
  /-- missing chunk seq -/
  | missingChunk (seq : ℤ)
  /-- size mismatch -/
  | sizeMismatch (got : ℕ) (expected : ℤ)
  /-- sha256 mismatch -/
  | shaMismatch

/-- An exception the Python side can raise. -/
inductive PyExc
  | protocolError (why : ProtocolFault)
  | osError
  | overflowError
  | valueError
  | recursionError
  | structError
  | typeError
  | zeroDivisionError

/-- `SD_MAX_FRAME_BYTES`, `MAX_FRAME_BYTES`. -/
def maxFrameBytes : ℕ := 8 * 1024 * 1024

/-- `SD_CHUNK_SIZE`, `DEFAULT_CHUNK_SIZE`. -/
def chunkSize : ℕ := 4096

end Sudonit
