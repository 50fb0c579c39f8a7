import Sudonit.Core.Frames
import Sudonit.Core.Writing
import Sudonit.Protocol.Errors

/-!
# The two framing codecs

`sd_frame_send` and `sd_frame_recv` over the transport HAL, `send_frame` and `recv_frame` over a
socket.  Both receivers are instances of `receiveFrame`; they differ in the headers they turn away.

* `sdFrameRecv_eq`, `recvFrame_eq` — the receivers as instances, with `sdReject` and `pyReject`.
* `sdFrameSend_delivers`, `sendFrame_delivers` — on a link that does not fail, the two senders put the
  same bytes on the wire; `sdFrameSend_writes`, `sendFrame_writes` — on any link, if they return.
* `framing_self_delimiting` — what either sender writes, either receiver reads back, under any
  segmentation.
* `decoders_agree_iff` — the two receivers make the same frames of a stream unless a frame of a
  foreign kind stands behind a run of well-formed ones: only the C receiver looks at the kind.
-/

namespace Sudonit

open Octets Stream Frames Python

/-- `SD_KIND_JSON`, `KIND_JSON`. -/
def kindJson : UInt8 := oct 'J'

/-- `SD_KIND_BINARY`, `KIND_BINARY`. -/
def kindBinary : UInt8 := oct 'B'

/-- A frame either sender takes. -/
structure WireFrame extends Frame where
  kind_ok : kind = kindJson ∨ kind = kindBinary
  length_le : payload.length ≤ maxFrameBytes

/-! ## The C side -/

/-- What a transport call returns when it stops short. -/
def SdErr.ofStop : Stop → SdErr
  | .timeout => .timeout
  | .closed => .io
  | .failure => .io

/-- `sd_transport_send`. -/
def sdTransportSend (buf : Bytes) : Effect Outbound SdErr Unit := ⟨fun t =>
  match writeFully t buf with
  | (.error e, t') => (.error (.ofStop e), t')
  | (.ok (), t') => (.ok (), t')⟩

/-- `sd_transport_recv`. -/
def sdTransportRecv (len : ℕ) : Effect Inbound SdErr Bytes := ⟨fun t =>
  match readFully t len with
  | (.error e, t') => (.error (.ofStop e), t')
  | (.ok buf, t') => (.ok buf, t')⟩

/-- `sd_frame_send`. -/
def sdFrameSend (kind : UInt8) (payload : Bytes) : Effect Outbound SdErr Unit :=
  if kind ≠ kindJson ∧ kind ≠ kindBinary then Effect.fail .invalid
  else if payload.length > maxFrameBytes then Effect.fail .invalid
  else do
    sdTransportSend (kind :: be32 payload.length)
    if payload.length = 0 then pure () else sdTransportSend payload

/-- `sd_frame_recv` into a buffer of `cap` bytes. -/
def sdFrameRecv (cap : ℕ) : Effect Inbound SdErr Frame := do
  let hdr ← sdTransportRecv 5
  let kind := hdr.headD 0
  let len := beNat hdr.tail
  if kind ≠ kindJson ∧ kind ≠ kindBinary then Effect.fail .io
  else if len > maxFrameBytes then Effect.fail .io
  else if len > cap then Effect.fail .noMem
  else if len > 0 then do
    let buf ← sdTransportRecv len
    pure ⟨kind, buf⟩
  else pure ⟨kind, []⟩

/-! ## The Python side -/

/-- What `sock.recv` running dry or raising becomes in `_recv_exactly`. -/
def PyExc.ofStop : Stop → PyExc
  | .closed => .protocolError .closedMidFrame
  | .timeout => .osError
  | .failure => .osError

/-- `sock.sendall`. -/
def sendall (data : Bytes) : Effect Outbound PyExc Unit := ⟨fun sock =>
  match writeFully sock data with
  | (.error _, sock') => (.error .osError, sock')
  | (.ok (), sock') => (.ok (), sock')⟩

/-- `_recv_exactly`. -/
def recvExactly (n : ℕ) : Effect Inbound PyExc Bytes := ⟨fun sock =>
  match readFully sock n with
  | (.error e, sock') => (.error (.ofStop e), sock')
  | (.ok data, sock') => (.ok data, sock')⟩

/-- `send_frame`. -/
def sendFrame (kind : UInt8) (payload : Bytes) : Effect Outbound PyExc Unit :=
  if kind ≠ kindJson ∧ kind ≠ kindBinary then Effect.fail (.protocolError (.unknownKind kind))
  else if payload.length > maxFrameBytes then
    Effect.fail (.protocolError (.frameTooLarge payload.length))
  else sendall ((kind :: be32 payload.length) ++ payload)

/-- `recv_frame`. -/
def recvFrame : Effect Inbound PyExc Frame := do
  let header ← recvExactly 5
  let kind := header.headD 0
  let length := beNat header.tail
  if length > maxFrameBytes then Effect.fail (.protocolError (.declaredTooLarge length))
  else if length ≠ 0 then do
    let payload ← recvExactly length
    pure ⟨kind, payload⟩
  else pure ⟨kind, []⟩

/-! ## The receivers as instances -/

/-- The headers `sd_frame_recv` turns away. -/
def sdReject (cap : ℕ) (kind : UInt8) (len : ℕ) : Option SdErr :=
  if kind ≠ kindJson ∧ kind ≠ kindBinary then some .io
  else if len > maxFrameBytes then some .io
  else if len > cap then some .noMem
  else none

/-- The headers `recv_frame` turns away: it does not look at the kind. -/
def pyReject (_kind : UInt8) (length : ℕ) : Option PyExc :=
  if length > maxFrameBytes then some (.protocolError (.declaredTooLarge length)) else none

theorem sdFrameRecv_eq (cap : ℕ) :
    (sdFrameRecv cap).run = (receiveFrame SdErr.ofStop (sdReject cap)).run := by
  funext t
  simp only [sdFrameRecv, receiveFrame, Effect.run_bind, sdTransportRecv]
  rcases readFully t 5 with ⟨e | hdr, t'⟩
  · rfl
  · simp only [sdReject]
    split_ifs
    · rfl
    · rfl
    · rfl
    · simp only [Effect.run_bind]
      rcases readFully t' (beNat hdr.tail) with ⟨e | buf, t''⟩ <;> rfl
    · have hlen : beNat hdr.tail = 0 := by omega
      simp only [hlen, readFully_zero, Effect.run_pure]

theorem recvFrame_eq : recvFrame.run = (receiveFrame PyExc.ofStop pyReject).run := by
  funext t
  simp only [recvFrame, receiveFrame, Effect.run_bind, recvExactly]
  rcases readFully t 5 with ⟨e | hdr, t'⟩
  · rfl
  · simp only [pyReject]
    split_ifs with hmax hlen
    · rfl
    · simp only [Effect.run_bind]
      rcases readFully t' (beNat hdr.tail) with ⟨e | buf, t''⟩ <;> rfl
    · simp only [not_not.mp hlen, readFully_zero, Effect.run_pure]

/-- The frames `sd_frame_recv` returns into a buffer of `cap` bytes. -/
lemma accepted_sdReject {cap : ℕ} {f : Frame} :
    Accepted (sdReject cap) f ↔ (f.kind = kindJson ∨ f.kind = kindBinary) ∧
      f.payload.length ≤ maxFrameBytes ∧ f.payload.length ≤ cap := by
  have h32 : maxFrameBytes < 2 ^ 32 := by decide
  simp only [Accepted, sdReject]
  constructor
  · rintro ⟨-, h⟩
    split_ifs at h with hkind hmax hcap
    exact ⟨by tauto, by omega, by omega⟩
  · rintro ⟨hkind, hmax, hcap⟩
    rw [if_neg (by tauto), if_neg (by omega), if_neg (by omega)]
    exact ⟨by omega, rfl⟩

/-- The frames `recv_frame` returns. -/
lemma accepted_pyReject {f : Frame} : Accepted pyReject f ↔ f.payload.length ≤ maxFrameBytes := by
  have h32 : maxFrameBytes < 2 ^ 32 := by decide
  simp only [Accepted, pyReject]
  constructor
  · rintro ⟨-, h⟩
    split_ifs at h with hmax
    omega
  · intro hmax
    rw [if_neg (by omega)]
    exact ⟨by omega, rfl⟩

/-! ## The senders -/

lemma sdTransportSend_writes (buf : Bytes) : Writes (sdTransportSend buf) buf := by
  intro t t' h
  obtain ⟨done, -, hsent, hall⟩ := writeFully_sent t buf
  rcases hw : writeFully t buf with ⟨e | _, t₁⟩
  · simp [sdTransportSend, hw] at h
  · simp only [sdTransportSend, hw, Prod.mk.injEq, true_and] at h
    rw [hw] at hsent hall
    rw [← h, hsent, hall rfl]

lemma sdTransportSend_delivers (buf : Bytes) : Delivers (sdTransportSend buf) buf := by
  intro t ht
  obtain ⟨t', hw, hsent, ht'⟩ := writeFully_steady ht buf
  exact ⟨t', by simp only [sdTransportSend, hw], hsent, ht'⟩

lemma frame_bytes_eq (kind : UInt8) (payload : Bytes) :
    Frame.bytes ⟨kind, payload⟩ = kind :: be32 payload.length ++ payload := rfl

theorem sdFrameSend_writes (kind : UInt8) (payload : Bytes) :
    Writes (sdFrameSend kind payload) (Frame.bytes ⟨kind, payload⟩) := by
  rw [sdFrameSend, frame_bytes_eq]
  split_ifs with hkind hlen h0
  · exact Writes.fail _ _
  · exact Writes.fail _ _
  · refine (sdTransportSend_writes _).bind ?_
    rw [List.length_eq_zero_iff.mp h0]
    exact Writes.pure
  · exact (sdTransportSend_writes _).bind (sdTransportSend_writes payload)

/-- **`sd_frame_send` writes the frame**, in two calls, on a link that does not fail. -/
theorem sdFrameSend_delivers (f : WireFrame) : Delivers (sdFrameSend f.kind f.payload) f.bytes := by
  have hkind := f.kind_ok
  have hlen := f.length_le
  rw [sdFrameSend, if_neg (by tauto), if_neg (by omega), Frame.bytes]
  split_ifs with h0
  · refine (sdTransportSend_delivers _).bind ?_
    rw [List.length_eq_zero_iff.mp h0]
    exact Delivers.pure
  · exact (sdTransportSend_delivers _).bind (sdTransportSend_delivers f.payload)

lemma sendall_writes (data : Bytes) : Writes (sendall data) data := by
  intro sock sock' h
  obtain ⟨done, -, hsent, hall⟩ := writeFully_sent sock data
  rcases hw : writeFully sock data with ⟨e | _, sock₁⟩
  · simp [sendall, hw] at h
  · simp only [sendall, hw, Prod.mk.injEq, true_and] at h
    rw [hw] at hsent hall
    rw [← h, hsent, hall rfl]

theorem sendFrame_writes (kind : UInt8) (payload : Bytes) :
    Writes (sendFrame kind payload) (Frame.bytes ⟨kind, payload⟩) := by
  rw [sendFrame]
  split_ifs with hkind hlen
  · exact Writes.fail _ _
  · exact Writes.fail _ _
  · exact sendall_writes _

/-- **`send_frame` writes the frame**, in one call, on a link that does not fail. -/
theorem sendFrame_delivers (f : WireFrame) : Delivers (sendFrame f.kind f.payload) f.bytes := by
  have hkind := f.kind_ok
  have hlen := f.length_le
  intro sock hs
  obtain ⟨sock', hw, hsent, hs'⟩ :=
    writeFully_steady hs ((f.kind :: be32 f.payload.length) ++ f.payload)
  rw [sendFrame, if_neg (by tauto), if_neg (by omega)]
  exact ⟨sock', by simp only [sendall, hw], hsent, hs'⟩

/-- What the senders check. -/
lemma sendFrame_ok {kind : UInt8} {payload : Bytes} {sock sock' : Outbound}
    (h : (sendFrame kind payload).run sock = (.ok (), sock')) :
    (kind = kindJson ∨ kind = kindBinary) ∧ payload.length ≤ maxFrameBytes := by
  rw [sendFrame] at h
  split_ifs at h with hkind hlen
  · simp at h
  · simp at h
  · exact ⟨by tauto, by omega⟩

lemma sdFrameSend_ok {kind : UInt8} {payload : Bytes} {t t' : Outbound}
    (h : (sdFrameSend kind payload).run t = (.ok (), t')) :
    (kind = kindJson ∨ kind = kindBinary) ∧ payload.length ≤ maxFrameBytes := by
  rw [sdFrameSend] at h
  by_cases hkind : kind ≠ kindJson ∧ kind ≠ kindBinary
  · simp [if_pos hkind] at h
  · rw [if_neg hkind] at h
    by_cases hlen : payload.length > maxFrameBytes
    · simp [if_pos hlen] at h
    · exact ⟨by tauto, by omega⟩

/-! ## Round trip -/

/-- **Framing delimits itself**: whatever the segmentation of the writes and of the reads, both
senders put `wire fs` on the stream, and both receivers take exactly `fs` and exactly those bytes off
it, report the end, and turn a frame that is cut short into an error. -/
theorem framing_self_delimiting (fs : List WireFrame) (cap : ℕ)
    (hcap : ∀ f ∈ fs, f.payload.length ≤ cap) (writes reads : List ℕ) :
    (∃ t, (Effect.forEach (fun f : WireFrame => sdFrameSend f.kind f.payload) fs).run
        (.fresh writes) = (.ok (), t) ∧ t.sent = wire (fs.map WireFrame.toFrame)) ∧
    (∃ t, (Effect.forEach (fun f : WireFrame => sendFrame f.kind f.payload) fs).run
        (.fresh writes) = (.ok (), t) ∧ t.sent = wire (fs.map WireFrame.toFrame)) ∧
    ReadsBack (sdFrameRecv cap).run .io (fs.map WireFrame.toFrame) reads ∧
    ReadsBack recvFrame.run (.protocolError .closedMidFrame) (fs.map WireFrame.toFrame) reads := by
  have hfresh := Outbound.steady_fresh writes
  have hwire : wire (fs.map WireFrame.toFrame) = fs.flatMap fun f => f.bytes := by
    rw [wire, List.flatMap_map]
  refine ⟨?_, ?_, ?_, ?_⟩
  · obtain ⟨t, hrun, hsent, -⟩ := Delivers.forEach (fun f _ => sdFrameSend_delivers f) _ hfresh
    exact ⟨t, hrun, by rw [hsent, hwire, Outbound.sent_fresh, List.nil_append]⟩
  · obtain ⟨t, hrun, hsent, -⟩ := Delivers.forEach (fun f _ => sendFrame_delivers f) _ hfresh
    exact ⟨t, hrun, by rw [hsent, hwire, Outbound.sent_fresh, List.nil_append]⟩
  · rw [sdFrameRecv_eq]
    refine readsBack SdErr.ofStop ?_ reads
    intro f hf
    obtain ⟨w, hw, rfl⟩ := List.mem_map.mp hf
    exact accepted_sdReject.mpr ⟨w.kind_ok, w.length_le, hcap w hw⟩
  · rw [recvFrame_eq]
    refine readsBack PyExc.ofStop ?_ reads
    intro f hf
    obtain ⟨w, hw, rfl⟩ := List.mem_map.mp hf
    exact accepted_pyReject.mpr w.length_le

/-- A control frame. -/
def greeting : WireFrame := ⟨⟨kindJson, ascii "hello"⟩, Or.inl rfl, by decide⟩

/-- A binary frame. -/
def piece : WireFrame := ⟨⟨kindBinary, [0, 0, 0, 1, 7, 8, 9]⟩, Or.inr rfl, by decide⟩

/-- A control frame without a payload. -/
def silence : WireFrame := ⟨⟨kindJson, []⟩, Or.inl rfl, by decide⟩

/-- Three frames of both kinds in small pieces; and the second of them cut inside its payload. -/
theorem framing_self_delimiting_pieces :
    (∃ t, (Effect.forEach (fun f : WireFrame => sdFrameSend f.kind f.payload) [greeting, piece, silence]).run
        (.fresh [2, 1, 7]) = (.ok (), t) ∧
      t.sent = wire [greeting.toFrame, piece.toFrame, silence.toFrame]) ∧
    (∃ t, (Effect.forEach (fun f : WireFrame => sendFrame f.kind f.payload) [greeting, piece, silence]).run
        (.fresh [2, 1, 7]) = (.ok (), t) ∧
      t.sent = wire [greeting.toFrame, piece.toFrame, silence.toFrame]) ∧
    (∃ t, drain (sdFrameRecv 16).run (.cut (wire [greeting.toFrame, piece.toFrame, silence.toFrame]) [1, 4, 2])
      = ([greeting.toFrame, piece.toFrame, silence.toFrame], some .io, t) ∧ t.bytes = []) ∧
    (∃ t, drain recvFrame.run (.cut (wire [greeting.toFrame, piece.toFrame, silence.toFrame]) [1, 4, 2])
      = ([greeting.toFrame, piece.toFrame, silence.toFrame], some (.protocolError .closedMidFrame), t) ∧ t.bytes = []) ∧
    (∃ t, drain (sdFrameRecv 16).run (.cut (wire [greeting.toFrame] ++ piece.bytes.take 9) [1, 4, 2])
      = ([greeting.toFrame], some .io, t) ∧ t.bytes = []) ∧
    ∃ t, drain recvFrame.run (.cut (wire [greeting.toFrame] ++ piece.bytes.take 9) [1, 4, 2])
      = ([greeting.toFrame], some (.protocolError .closedMidFrame), t) ∧ t.bytes = [] := by
  obtain ⟨hsd, hpy, hreads, hreads'⟩ :=
    framing_self_delimiting [greeting, piece, silence] 16 (by decide) [2, 1, 7] [1, 4, 2]
  have hinside : 9 < piece.bytes.length := by decide
  exact ⟨hsd, hpy, hreads.ended, hreads'.ended,
    hreads.cut [greeting.toFrame] piece.toFrame [silence.toFrame] 9 rfl (by decide) hinside,
    hreads'.cut [greeting.toFrame] piece.toFrame [silence.toFrame] 9 rfl (by decide) hinside⟩

/-! ## The two decoders compared -/

/-- The decoders make the same frames of two deliveries and then each turns away what follows. -/
def DecodersAgree (cap : ℕ) (t : Inbound) (sock : Inbound) : Prop :=
  (drain (sdFrameRecv cap).run t).1 = (drain recvFrame.run sock).1 ∧
    (drain (sdFrameRecv cap).run t).2.1.isSome ∧ (drain recvFrame.run sock).2.1.isSome

/-- Neither `J` nor `B`. -/
def Foreign (f : Frame) : Prop := f.kind ≠ kindJson ∧ f.kind ≠ kindBinary

instance (f : Frame) : Decidable (Foreign f) := inferInstanceAs (Decidable (_ ∧ _))

/-- The first frame of a kind other than `J` and `B`, complete and of a permitted length, stands
right behind frames either receiver takes. -/
def ForeignFrame (bs : Bytes) : Prop :=
  ∃ before f rest, (∀ g ∈ before, ¬ Foreign g ∧ g.payload.length ≤ maxFrameBytes) ∧
    Foreign f ∧ f.payload.length ≤ maxFrameBytes ∧ bs = wire before ++ (f.bytes ++ rest)

lemma accepted_of_not_foreign {cap : ℕ} (hcap : maxFrameBytes ≤ cap) {f : Frame} :
    Accepted (sdReject cap) f ↔ ¬ Foreign f ∧ Accepted pyReject f := by
  rw [accepted_sdReject, accepted_pyReject, Foreign]
  constructor
  · rintro ⟨hkind, hmax, -⟩
    exact ⟨by tauto, hmax⟩
  · rintro ⟨hkind, hmax⟩
    exact ⟨by tauto, hmax, by omega⟩

/-- A run of frames with a foreign one among them has a first one. -/
lemma first_foreign {fs : List Frame} (h : ∃ f ∈ fs, Foreign f) :
    ∃ before f after, fs = before ++ f :: after ∧ (∀ g ∈ before, ¬ Foreign g) ∧ Foreign f := by
  obtain ⟨f, hfind⟩ : ∃ f, fs.find? (fun f => decide (Foreign f)) = some f := by
    rw [← Option.isSome_iff_exists, List.find?_isSome]
    simpa using h
  obtain ⟨hf, before, after, hsplit, hbefore⟩ := List.find?_eq_some_iff_append.mp hfind
  exact ⟨before, f, after, hsplit, fun g hg => by simpa using hbefore g hg, by simpa using hf⟩

/-- The frames of a stream, as each receiver decodes them, are the same when no foreign frame comes
behind well-formed ones. -/
lemma decodes_of_not_foreignFrame {cap : ℕ} (hcap : maxFrameBytes ≤ cap) {bs : Bytes}
    (hbs : ¬ ForeignFrame bs) {fs : List Frame} (h : Decodes pyReject bs fs) :
    Decodes (sdReject cap) bs fs := by
  obtain ⟨hfs, rest, rfl, hstop⟩ := h
  have hkinds : ∀ f ∈ fs, ¬ Foreign f := by
    intro f hf hforeign
    obtain ⟨before, g, after, rfl, hbefore, hg⟩ := first_foreign ⟨f, hf, hforeign⟩
    refine hbs ⟨before, g, wire after ++ rest, ?_, hg, ?_, by simp⟩
    · exact fun x hx => ⟨hbefore x hx, accepted_pyReject.mp (hfs x (List.mem_append_left _ hx))⟩
    · exact accepted_pyReject.mp (hfs g (List.mem_append_right _ List.mem_cons_self))
  refine ⟨fun f hf => (accepted_of_not_foreign hcap).mpr ⟨hkinds f hf, hfs f hf⟩, rest, rfl, ?_⟩
  exact fun f hf => hstop f ((accepted_of_not_foreign hcap).mp hf).2

/-- A foreign frame behind well-formed ones is returned by one receiver and turned away by the
other. -/
lemma not_decodersAgree_of_foreignFrame {cap : ℕ} (hcap : maxFrameBytes ≤ cap) {t sock : Inbound}
    (ht : t.Steady) (hsock : sock.Steady) (hsame : t.bytes = sock.bytes)
    (hforeign : ForeignFrame sock.bytes) : ¬ DecodersAgree cap t sock := by
  obtain ⟨before, f, rest, hbefore, hf, hlen, hbs⟩ := hforeign
  rintro ⟨hframes, -, -⟩
  have hfpy : Accepted pyReject f := accepted_pyReject.mpr hlen
  have hsd : Decodes (sdReject cap) t.bytes before := by
    refine ⟨?_, f.bytes ++ rest, by rw [hsame, hbs], ?_⟩
    · exact fun g hg => (accepted_of_not_foreign hcap).mpr
        ⟨(hbefore g hg).1, accepted_pyReject.mpr (hbefore g hg).2⟩
    · rintro g hg ⟨more, hmore⟩
      obtain ⟨rfl, -⟩ := bytes_append_inj hg.1 hfpy.1 hmore
      exact ((accepted_of_not_foreign hcap).mp hg).1 hf
  have hsdrain := (drain_eq_iff SdErr.ofStop ht before).mpr hsd
  rw [← sdFrameRecv_eq, hframes, recvFrame_eq, drain_eq_iff _ hsock] at hsdrain
  obtain ⟨-, rest', hrest', hstop⟩ := hsdrain
  rw [hbs, List.append_cancel_left_eq] at hrest'
  exact hstop f hfpy ⟨rest, hrest'⟩

/-- **The two decoders accept the same streams, up to foreign kinds.**  Whatever the segmentation,
they make the same frames and turn away the same frame unless a complete frame of a foreign kind
stands behind well-formed ones: `recv_frame` returns that frame, `sd_frame_recv` does not. -/
theorem decoders_agree_iff {cap : ℕ} (hcap : maxFrameBytes ≤ cap) {t sock : Inbound}
    (ht : t.Steady) (hsock : sock.Steady) (hsame : t.bytes = sock.bytes) :
    DecodersAgree cap t sock ↔ ¬ ForeignFrame sock.bytes := by
  constructor
  · exact fun hagree hforeign =>
      not_decodersAgree_of_foreignFrame hcap ht hsock hsame hforeign hagree
  · intro hnone
    have hpy : Decodes pyReject sock.bytes _ := (drain_eq_iff PyExc.ofStop hsock _).mp rfl
    have hsd := decodes_of_not_foreignFrame hcap hnone hpy
    rw [← hsame, ← drain_eq_iff SdErr.ofStop ht] at hsd
    rw [DecodersAgree, sdFrameRecv_eq, recvFrame_eq]
    exact ⟨hsd, drain_stops (receiveFrame_consumes _) t, drain_stops (receiveFrame_consumes _) sock⟩

/-- An empty frame of kind `X`. -/
def strange : Frame := ⟨oct 'X', []⟩

/-- A frame of kind `X` behind a frame that either receiver takes; and the front of its header alone. -/
theorem decoders_agree_iff_strange :
    ¬ DecodersAgree maxFrameBytes (.cut (wire [greeting.toFrame, strange]) [1, 3])
        (.cut (wire [greeting.toFrame, strange]) [7]) ∧
      DecodersAgree maxFrameBytes (.cut [oct 'X', 0, 0, 0] [1, 3]) (.cut [oct 'X', 0, 0, 0] [7]) := by
  have hforeign : ForeignFrame (wire [greeting.toFrame, strange]) := by
    refine ⟨[greeting.toFrame], strange, [], ?_, by decide, by decide, rfl⟩
    simp only [List.mem_singleton, forall_eq]
    decide
  have hnone : ¬ ForeignFrame [oct 'X', 0, 0, 0] := by
    rintro ⟨before, f, rest, -, -, -, hb⟩
    have hlen := congrArg List.length hb
    simp only [Frame.bytes, List.length_append, List.length_cons, List.length_nil, length_be32] at hlen
    omega
  have hiff : ∀ bs, DecodersAgree maxFrameBytes (.cut bs [1, 3]) (.cut bs [7]) ↔ ¬ ForeignFrame bs := fun bs =>
    decoders_agree_iff le_rfl (Inbound.steady_cut bs [1, 3]) (Inbound.steady_cut bs [7]) rfl
  exact ⟨fun h => (hiff _).mp h hforeign, (hiff _).mpr hnone⟩

/-- An empty frame of kind `X`: `recv_frame` returns it. -/
theorem decoders_disagree : ¬ DecodersAgree maxFrameBytes (.cut [oct 'X', 0, 0, 0, 0] [])
    (.cut [oct 'X', 0, 0, 0, 0] []) :=
  not_decodersAgree_of_foreignFrame le_rfl (Inbound.steady_cut _ _) (Inbound.steady_cut _ _) rfl
    ⟨[], ⟨oct 'X', []⟩, [], by simp, by decide, Nat.zero_le _, rfl⟩

end Sudonit
