import Mathlib.Data.List.TakeWhile
import Sudonit.Core.Cuts
import Sudonit.Phone.Uplink

/-!
# Images over a link that may fail

The glasses send images one after the other over one connection; the link may cut the stream anywhere,
deliver it in any pieces, time out or fail.

* `sdMsgSendImage_sendsFront` — whatever happens, the front of the frames of the image is sent.
* `serve_partial` — a transfer that breaks off does nothing.
* `serve_prefix` — frames that break off anywhere are served like the images that are complete in them.
* `images_in_order` — the phone does what it would do if it were handed the first of the images, one
  after the other.
-/

namespace Sudonit

open Octets Stream Frames Python Chunks

/-! ## Sending -/

lemma sdTransportSend_sendsFront (buf : Bytes) : SendsFront (sdTransportSend buf) buf := by
  intro t
  obtain ⟨done, hpre, hsent, hall⟩ := writeFully_sent t buf
  rcases hw : writeFully t buf with ⟨e | _, t'⟩
  · rw [hw] at hsent
    simp only [sdTransportSend, hw]
    exact ⟨done, hpre, hsent, by simp⟩
  · rw [hw] at hsent hall
    simp only [sdTransportSend, hw]
    exact ⟨done, hpre, hsent, fun _ => hall rfl⟩

lemma sdFrameSend_sendsFront (kind : UInt8) (payload : Bytes) :
    SendsFront (sdFrameSend kind payload) (Frame.bytes ⟨kind, payload⟩) := by
  rw [sdFrameSend, frame_bytes_eq]
  split_ifs with hkind hlen h0
  · exact SendsFront.fail _ _
  · exact SendsFront.fail _ _
  · refine (sdTransportSend_sendsFront _).bind ?_
    rw [List.length_eq_zero_iff.mp h0]
    exact SendsFront.pure
  · exact (sdTransportSend_sendsFront _).bind (sdTransportSend_sendsFront payload)

lemma sendText_sendsFront (cap : ℕ) (text : Bytes) : SendsFront (sendText cap text) (Frame.bytes ⟨kindJson, text⟩) := by
  rw [sendText]
  split_ifs
  · exact SendsFront.fail _ _
  · exact sdFrameSend_sendsFront _ _

/-- **Whatever the link does, `sd_msg_send_image` sends the front of the frames of the image**, and all of
them when it returns `SD_OK`. -/
theorem sdMsgSendImage_sendsFront {target : Target} (heap : Bool) (imageId : CStr) (data : Object target)
    (mediaType : CStr) : SendsFront (sdMsgSendImage target heap imageId data mediaType)
      (wire (sdImageFrames imageId.bytes data.bytes mediaType.bytes)) := by
  rw [sdMsgSendImage, sdChunkCount_eq, sdImageFrames, wire_append, wire_cons, wire_singleton,
    List.append_assoc]
  refine (sendText_sendsFront _ _).bind ?_
  split_ifs
  · refine SendsFront.bind ?_ (sendText_sendsFront _ _)
    rw [chunkFrames, wire, List.flatMap_map]
    refine SendsFront.forEach fun seq hseq => ?_
    rw [sdSendChunk_eq data (List.mem_range.mp hseq)]
    exact sdFrameSend_sendsFront _ _
  · exact SendsFront.fail _ _

/-- The arguments of a call of `sd_msg_send_image`, and whether it finds its chunk buffer. -/
structure Shot (target : Target) where
  heap : Bool
  imageId : CStr
  data : Object target
  mediaType : CStr

namespace Shot

variable {target : Target}

/-- `sd_msg_send_image`. -/
def send (shot : Shot target) : Effect Outbound SdErr Unit :=
  sdMsgSendImage target shot.heap shot.imageId shot.data shot.mediaType

/-- The frames of the image. -/
def frames (shot : Shot target) : List Frame :=
  sdImageFrames shot.imageId.bytes shot.data.bytes shot.mediaType.bytes

lemma send_sendsFront (shot : Shot target) : SendsFront shot.send (wire shot.frames) :=
  sdMsgSendImage_sendsFront shot.heap shot.imageId shot.data shot.mediaType

/-- What the phone is to make of it. -/
def image (shot : Shot target) : ReceivedImage :=
  ⟨.str (ofBytes shot.imageId.bytes), .str (ofBytes shot.mediaType.bytes), shot.data.bytes⟩

/-- The `image_begin` of the image. -/
def opening (shot : Shot target) : Bytes :=
  imageBeginText shot.imageId.bytes shot.data.bytes.length (chunkCount shot.data.bytes.length chunkSize)
    (sdSha256Hex shot.data.bytes) shot.mediaType.bytes

/-- The `image_begin` fits its 256 octets. -/
def Opens (shot : Shot target) : Prop := shot.opening.length < 256

instance (shot : Shot target) : Decidable shot.Opens := inferInstanceAs (Decidable (_ < _))

/-- The names are printable and need no escape, and 32 bits number the chunks. -/
structure Plain (shot : Shot target) : Prop where
  imageId : AllBare shot.imageId.bytes
  mediaType : AllBare shot.mediaType.bytes
  chunks : chunkCount shot.data.bytes.length chunkSize < 2 ^ 32

/-- Without room for its `image_begin` an image is not begun. -/
lemma send_refused {shot : Shot target} (h : ¬ shot.Opens) (t : Outbound) :
    shot.send.run t = (.error .invalid, t) := by
  have hlong : 256 ≤ shot.opening.length := not_lt.mp h
  rw [opening] at hlong
  have hopen : (sendText 256 (imageBeginText shot.imageId.bytes shot.data.bytes.length
      (chunkCount shot.data.bytes.length chunkSize) (sdSha256Hex shot.data.bytes)
      shot.mediaType.bytes)).run t = (.error .invalid, t) := by
    rw [sendText, if_pos hlong, Effect.run_fail]
  rw [send, sdMsgSendImage, sdChunkCount_eq, Effect.run_bind_error hopen]

/-- An image that can be begun has a short name. -/
lemma length_imageId {shot : Shot target} (h : shot.Opens) : shot.imageId.bytes.length < 256 := by
  have hopen : shot.opening.length < 256 := h
  have hlen := length_imageBeginText shot.imageId.bytes shot.data.bytes.length
    (chunkCount shot.data.bytes.length chunkSize) shot.data.bytes shot.mediaType.bytes
  rw [opening, hlen] at hopen
  omega

/-- The frames of an image that can be begun are short. -/
lemma length_frames {shot : Shot target} (h : shot.Opens) :
    ∀ f ∈ shot.frames, f.payload.length ≤ maxFrameBytes := by
  have hopen : shot.opening.length < 256 := h
  have hid := length_imageId h
  have hbig : 300 ≤ maxFrameBytes := by decide
  intro f hf
  rw [frames, sdImageFrames, List.cons_append, List.mem_cons, List.mem_append, List.mem_singleton] at hf
  rcases hf with rfl | hf | rfl
  · exact hopen.le.trans (by decide)
  · obtain ⟨seq, -, rfl⟩ := List.mem_map.mp hf
    exact (length_chunk_le _ _ _).trans (by decide)
  · simp only [length_imageEndText]
    omega

/-- The frames of an image are a complete transfer of it. -/
lemma validTransfer {shot : Shot target} (h : shot.Plain) (phone : Phone) :
    ValidTransfer phone shot.frames shot.image := by
  have hchunks := h.chunks
  have hlen : shot.data.bytes.length ≤ chunkCount shot.data.bytes.length chunkSize * 4096 :=
    length_le_chunkCount (by decide) shot.data.bytes.length
  have hcount : chunkCount shot.data.bytes.length chunkSize < 2 ^ 64 := by omega
  have hbegin := opensImage_text phone h.imageId h.mediaType (by omega) hcount
  exact validTransfer_image hbegin (by decide) (fun seq hseq => by omega) (closes_text phone h.imageId)

end Shot

/-- One image after the other, up to the first that is not sent. -/
def sendShots {target : Target} (shots : List (Shot target)) : Effect Outbound SdErr Unit :=
  Effect.forEach Shot.send shots

/-- The images up to the first that cannot be begun. -/
def begun {target : Target} (shots : List (Shot target)) : List (Shot target) :=
  shots.takeWhile fun shot => shot.Opens

/-- **The front of the frames of the images is sent**, and all of them when every image was. -/
theorem sendShots_sendsFront {target : Target} (shots : List (Shot target)) :
    SendsFront (sendShots shots) (wire ((begun shots).flatMap Shot.frames)) := by
  induction shots with
  | nil => exact SendsFront.pure
  | cons shot shots ih =>
      rw [sendShots, Effect.forEach_cons, begun]
      by_cases h : shot.Opens
      · rw [List.takeWhile_cons_of_pos (by simpa using h), List.flatMap_cons, wire_append]
        exact shot.send_sendsFront.bind ih
      · rw [List.takeWhile_cons_of_neg (by simpa using h)]
        exact SendsFront.bind_error (Shot.send_refused h)

/-- An image that was sent had been begun. -/
lemma begun_eq {target : Target} {shots : List (Shot target)} {t t' : Outbound}
    (h : (sendShots shots).run t = (.ok (), t')) : begun shots = shots := by
  rw [begun, List.takeWhile_eq_self_iff]
  intro shot hshot
  obtain ⟨t₁, t₂, hsend⟩ := Effect.run_forEach_ok h shot hshot
  by_contra hno
  rw [Shot.send_refused (by simpa using hno)] at hsend
  simp at hsend

/-! ## Serving what arrives -/

lemma serve_append_error {phone : Phone} {reassembler : Option ImageReassembler} {fs : List Frame}
    {s s' : Served} {e : PyExc} (h : (serve phone reassembler fs).run s = (.error e, s')) (gs : List Frame) :
    (serve phone reassembler (fs ++ gs)).run s = (.error e, s') := by
  induction fs generalizing reassembler s with
  | nil => simp [serve] at h
  | cons f fs ih =>
      rw [serve, Effect.run_bind] at h
      rw [List.cons_append, serve, Effect.run_bind]
      rcases hf : (handleFrame phone reassembler f).run s with ⟨e' | r, s₁⟩
      · rwa [hf] at h
      · rw [hf] at h
        exact ih h

/-- What is fed to a reassembler up to some point can be fed to it. -/
lemma ImageReassembler.feed_prefix {r fed : ImageReassembler} {ps qs : List Bytes} (hqs : qs <+: ps)
    (h : r.feed ps = .ok fed) : ∃ part, r.feed qs = .ok part := by
  induction qs generalizing r ps with
  | nil => exact ⟨r, rfl⟩
  | cons q qs ih =>
      obtain ⟨more, rfl⟩ := hqs
      rw [List.cons_append, feed] at h
      rw [feed]
      cases hadd : r.addChunk q with
      | error e => simp [hadd] at h
      | ok r' =>
          simp only [hadd] at h ⊢
          exact ih (List.prefix_append qs more) h

/-- **A transfer that breaks off does nothing** but leave a reassembler behind. -/
theorem serve_partial {phone : Phone} {fs : List Frame} {image : ReceivedImage}
    (h : ValidTransfer phone fs image) {part : List Frame} (hpart : part <+: fs) (hne : part ≠ fs)
    (current : Option ImageReassembler) (s : Served) :
    ∃ next, (serve phone current part).run s = (.ok next, s) := by
  obtain ⟨b, chunks, e, msg, fresh, fed, rfl, hb, hnew, hkinds, hfeed, -, -⟩ := h
  have hfront : part <+: b :: chunks := by
    rcases List.prefix_concat_iff.mp hpart with heq | hfront
    · exact absurd heq hne
    · exact hfront
  cases part with
  | nil => exact ⟨current, rfl⟩
  | cons f part =>
      obtain ⟨rfl, hchunks⟩ := List.cons_prefix_cons.mp hfront
      obtain ⟨held, hheld⟩ := ImageReassembler.feed_prefix (hchunks.map Frame.payload) hfeed
      have hkind : ∀ g ∈ part, g.kind = kindBinary := fun g hg => hkinds g (hchunks.subset hg)
      refine ⟨some held, ?_⟩
      rw [serve, Effect.run_bind_ok (handleFrame_opens hb hnew current s)]
      exact serve_chunks hkind hheld s

/-- Image after image, up to the first that fails. -/
def processImages (phone : Phone) (images : List ReceivedImage) : Effect Served PyExc Unit :=
  Effect.forEach (processAndReply phone) images

/-- **Frames that break off anywhere are served like the images complete in them**, handed over one after
the other. -/
theorem serve_prefix {phone : Phone} {transfers : List (List Frame × ReceivedImage)}
    (h : ∀ x ∈ transfers, ValidTransfer phone x.1 x.2) {fs : List Frame}
    (hfs : fs <+: transfers.flatMap Prod.fst) (current : Option ImageReassembler) (s : Served) :
    ∃ k, (fs = transfers.flatMap Prod.fst → k = transfers.length) ∧ k ≤ transfers.length ∧
      (((serve phone current fs).run s).1.map fun _ => (), ((serve phone current fs).run s).2)
        = (processImages phone ((transfers.take k).map Prod.snd)).run s := by
  induction transfers generalizing fs current s with
  | nil =>
      rw [List.flatMap_nil, List.prefix_nil] at hfs
      subst hfs
      exact ⟨0, fun _ => rfl, le_rfl, rfl⟩
  | cons x transfers ih =>
      rw [List.forall_mem_cons] at h
      rw [List.flatMap_cons] at hfs ⊢
      by_cases hwhole : x.1 <+: fs
      · obtain ⟨rest, rfl⟩ := hwhole
        rw [List.prefix_append_right_inj] at hfs
        have hfirst := serve_transfer h.1 current s
        rcases hreply : (processAndReply phone x.2).run s with ⟨e | _, s₁⟩
        · -- The image is not answered: the connection ends with it.
          rw [hreply] at hfirst
          refine ⟨transfers.length + 1, fun _ => rfl, le_rfl, ?_⟩
          rw [List.take_of_length_le (by simp), List.map_cons, processImages, Effect.forEach_cons,
            Effect.run_bind_error hreply, serve_append_error hfirst]
          rfl
        · rw [hreply] at hfirst
          obtain ⟨k, hall, hle, hrest⟩ := ih h.2 hfs none s₁
          refine ⟨k + 1, fun heq => ?_, Nat.succ_le_succ hle, ?_⟩
          · rw [hall (List.append_cancel_left heq), List.length_cons]
          · rw [List.take_succ_cons, List.map_cons, processImages, Effect.forEach_cons,
              Effect.run_bind_ok hreply, serve_append_ok hfirst]
            exact hrest
      · have hpart : fs <+: x.1 := (List.prefix_or_prefix_of_prefix hfs (List.prefix_append _ _)).resolve_right
          hwhole
        obtain ⟨next, hnext⟩ := serve_partial h.1 hpart (fun heq => hwhole (heq ▸ List.prefix_rfl)) current s
        refine ⟨0, fun heq => absurd ⟨_, heq.symm⟩ hwhole, Nat.zero_le _, ?_⟩
        rw [hnext]
        rfl

/-- How the handler comes to its end behind what it has done. -/
def concluded {α : Type} : Except PyExc α × Served → Ending × Served
  | (.error e, s) => (ending e, s)
  | (.ok _, s) => (.returned, s)

lemma concluded_map {α β : Type} (f : α → β) (r : Except PyExc α × Served) :
    concluded (r.1.map f, r.2) = concluded r := by
  rcases r with ⟨e | a, s⟩ <;> rfl

/-- A connection ends as serving its frames does. -/
lemma handleConnection_eq (phone : Phone) (conn : Inbound) (s : Served) :
    handleConnection phone conn s = concluded ((serve phone none (drain recvFrame.run conn).1).run s) := by
  rw [handleConnection, connectionLoop_eq]
  rcases (serve phone none (drain recvFrame.run conn).1).run s with ⟨e | _, s'⟩ <;> rfl

/-- What is served of the front of the frames of images is the first so many of the images. -/
theorem handleConnection_front {target : Target} (phone : Phone) {shots : List (Shot target)}
    (hopens : ∀ shot ∈ shots, shot.Opens) (hplain : ∀ shot ∈ shots, shot.Plain) {conn : Inbound}
    (hb : conn.bytes <+: wire (shots.flatMap Shot.frames)) (s : Served) :
    ∃ k ≤ shots.length,
      handleConnection phone conn s
        = concluded ((processImages phone ((shots.take k).map Shot.image)).run s) ∧
      (conn.Steady → conn.bytes = wire (shots.flatMap Shot.frames) → k = shots.length) := by
  have hshort : ∀ f ∈ shots.flatMap Shot.frames, f.payload.length ≤ maxFrameBytes := by
    intro f hf
    obtain ⟨shot, hshot, hf⟩ := List.mem_flatMap.mp hf
    exact Shot.length_frames (hopens shot hshot) f hf
  have h32 : maxFrameBytes < 2 ^ 32 := by decide
  have harrived : (drain recvFrame.run conn).1 <+: shots.flatMap Shot.frames := by
    rw [recvFrame_eq]
    exact drain_prefix (fun f hf => lt_of_le_of_lt (hshort f hf) h32) hb
  have htransfers : ∀ x ∈ shots.map fun shot => (shot.frames, shot.image), ValidTransfer phone x.1 x.2 := by
    intro x hx
    obtain ⟨shot, hshot, rfl⟩ := List.mem_map.mp hx
    exact Shot.validTransfer (hplain shot hshot) phone
  have hframes : (shots.map fun shot => (shot.frames, shot.image)).flatMap Prod.fst
      = shots.flatMap Shot.frames := List.flatMap_map _ _ _
  rw [← hframes] at harrived
  obtain ⟨k, hwhole, hle, hserved⟩ := serve_prefix htransfers harrived none s
  rw [List.length_map] at hwhole hle
  have himages : ((shots.map fun shot => (shot.frames, shot.image)).take k).map Prod.snd
      = (shots.take k).map Shot.image := by
    rw [← List.map_take, List.map_map]
    rfl
  refine ⟨k, hle, ?_, ?_⟩
  · rw [handleConnection_eq, ← himages, ← hserved, concluded_map]
  · intro hsteady heq
    refine hwhole ?_
    rw [hframes, drain_recvFrame hsteady hshort heq]

/-- **Images arrive in order, each once, or not at all.**  Whatever the link does to the bytes on their way
out and on their way in, `handle_connection` ends as it would have, and has sent and run the pipeline on what
it would have, if it had been handed the first so many of the images one after the other; and that is all
of them when every image was sent and nothing was lost. -/
theorem images_in_order {target : Target} (phone : Phone) {shots : List (Shot target)}
    (hplain : ∀ shot ∈ shots, shot.Plain) (t : Outbound) (conn : Inbound) (lost : Bytes)
    (hb : ((sendShots shots).run t).2.sent = t.sent ++ (conn.bytes ++ lost)) (s : Served) :
    ∃ k ≤ shots.length,
      handleConnection phone conn s
        = concluded ((processImages phone ((shots.take k).map Shot.image)).run s) ∧
      (((sendShots shots).run t).1 = .ok () → lost = [] → conn.Steady → k = shots.length) := by
  obtain ⟨done, hdone, hsent, hall⟩ := sendShots_sendsFront shots t
  rw [hsent, List.append_cancel_left_eq] at hb
  have hbytes : conn.bytes <+: wire ((begun shots).flatMap Shot.frames) :=
    List.IsPrefix.trans ⟨lost, hb.symm⟩ hdone
  have hbegun : begun shots <+: shots := List.takeWhile_prefix _
  have hopens : ∀ shot ∈ begun shots, shot.Opens :=
    fun shot hshot => by simpa using List.mem_takeWhile_imp hshot
  obtain ⟨k, hle, hserved, hwhole⟩ := handleConnection_front phone hopens
    (fun shot hshot => hplain shot (hbegun.subset hshot)) hbytes s
  have htake : (begun shots).take k = shots.take k := by
    obtain ⟨rest, hrest⟩ := hbegun
    conv_rhs => rw [← hrest]
    rw [List.take_append_of_le_length hle]
  refine ⟨k, hle.trans hbegun.length_le, by rw [hserved, htake], ?_⟩
  intro hok hlost hsteady
  rw [hlost, List.append_nil, hall hok] at hb
  rw [hwhole hsteady hb.symm, begun_eq (Prod.ext hok rfl)]

/-- A picture of two bytes. -/
def abShot : Shot .esp32 where
  heap := true
  imageId := shortId
  data := smallImage
  mediaType := pngType

lemma abShot_plain : abShot.Plain := ⟨by decide, by decide, by decide⟩

/-- What is sent of the same picture twice. -/
def abTwice : Bytes := ((sendShots [abShot, abShot]).run (.fresh [])).2.sent

lemma abTwice_sent : ((sendShots [abShot, abShot]).run (.fresh [])).1 = .ok () := by
  have hone : Delivers abShot.send (wire abShot.frames) := by
    refine sdMsgSendImage_delivers ?_ (by decide)
    rw [length_imageBeginText]
    decide
  have hboth : ∀ shot ∈ [abShot, abShot], Delivers shot.send (wire shot.frames) := by simp [hone]
  obtain ⟨t', hrun, -⟩ := Delivers.forEach hboth _ (Outbound.steady_fresh [])
  rw [sendShots, hrun]

/-- The same picture twice: both arrive, and the phone has done what it does with two images. -/
theorem images_in_order_twice :
    handleConnection deskPhone (.cut abTwice [3, 1]) ⟨.fresh [], []⟩
      = concluded ((processImages deskPhone [abShot.image, abShot.image]).run ⟨.fresh [], []⟩) := by
  have hb : abTwice = (Outbound.fresh []).sent ++ ((Inbound.cut abTwice [3, 1]).bytes ++ []) := by
    simp only [Outbound.sent_fresh, Inbound.cut, List.nil_append, List.append_nil]
  have hplain : ∀ shot ∈ [abShot, abShot], shot.Plain := by simp [abShot_plain]
  obtain ⟨k, -, hserved, hwhole⟩ := images_in_order deskPhone hplain (.fresh []) _ _ hb ⟨.fresh [], []⟩
  obtain rfl := hwhole abTwice_sent rfl (Inbound.steady_cut _ _)
  exact hserved

end Sudonit
