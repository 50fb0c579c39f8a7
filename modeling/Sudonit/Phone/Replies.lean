import Sudonit.Core.Writing
import Sudonit.Phone.Uplink

/-!
# Requests among the frames of an image

Between the frames of an upload a client may send anything else it is to have an answer to: a `ping`, a
`device_info`, a type the phone does not know.

* `asideReply` — the answer to such a request.
* `handleFrame_blind` — what a pass of the loop does, on a link that takes what it is given, depends on the
  frame, the reassembler and the earlier calls of the pipeline alone.
* `requests_answered_aside` — each of these requests gets its own answer at its place in the order, and but for
  these answers the connection is the one it would be without the requests.
-/

namespace Sudonit

open Octets Stream Frames Python

/-! ## Sending does not see the link -/

lemma sendall_blind (data : Bytes) : Blind id (fun _ => ()) (sendall data) := by
  intro _
  refine ⟨.ok (), data, (), ?_⟩
  intro sock _ hs
  obtain ⟨sock', hrun, hsent, hs'⟩ := writeFully_steady (s := sock) hs data
  exact ⟨sock', by simp only [sendall, hrun], hsent, hs', rfl⟩

lemma sendFrame_blind (kind : UInt8) (payload : Bytes) : Blind id (fun _ => ()) (sendFrame kind payload) := by
  rw [sendFrame]
  split_ifs
  · exact Blind.fail _
  · exact Blind.fail _
  · exact sendall_blind _

lemma sendControl_blind (py : Interpreter) (msg : Dict) : Blind id (fun _ => ()) (sendControl py msg) :=
  (Blind.ofExcept _).bind fun payload => sendFrame_blind kindJson payload

lemma sendChunk_blind (data : Bytes) (chunkSize seq : ℕ) :
    Blind id (fun _ => ()) (sendChunk data chunkSize seq) :=
  (Blind.ofExcept _).bind fun _ => sendFrame_blind kindBinary _

lemma sendTransfer_blind (py : Interpreter) (opening : Dict) (data : Bytes) (chunkSize : ℕ) (closing : Dict) :
    Blind id (fun _ => ()) (sendTransfer py opening data chunkSize closing) := by
  rw [sendTransfer]
  split_ifs
  · exact Blind.fail _
  · exact (sendControl_blind py opening).bind fun _ =>
      (Blind.forEach (sendChunk_blind data chunkSize) _).bind fun _ => sendControl_blind py closing

/-! ## A pass does not see the link -/

section Passes

variable (phone : Phone)

lemma sending_blind {x : Effect Outbound PyExc Unit} (h : Blind id (fun _ => ()) x) :
    Blind Served.out Served.runs (sending x) := by
  apply Blind.within
  · simp
  · simp
  · exact h

lemma printLine_blind (line : PyStr) : Blind Served.out Served.runs (printLine phone line) := Blind.ofExcept _

lemma runPipeline_blind (call : RunCall) : Blind Served.out Served.runs (runPipeline phone call) := by
  intro runs
  refine ⟨phone.pipelineRun runs call, [], runs ++ [call], ?_⟩
  rintro s rfl hs
  exact ⟨{ s with runs := s.runs ++ [call] }, rfl, (List.append_nil _).symm, hs, rfl⟩

lemma reply_blind (image : ReceivedImage) (result : PipelineResult) :
    Blind Served.out Served.runs (reply phone image result) := by
  refine (printLine_blind phone _).bind fun _ => (sending_blind (sendControl_blind _ _)).bind fun _ => ?_
  cases result.audioFile with
  | wav found =>
      refine (Blind.ofExcept found).bind fun pcm => sending_blind ?_
      rw [sendAudio_eq]
      exact sendTransfer_blind _ _ _ _ _
  | other => exact printLine_blind phone _

lemma processAndReply_blind (image : ReceivedImage) :
    Blind Served.out Served.runs (processAndReply phone image) :=
  (printLine_blind phone _).bind fun _ => (runPipeline_blind phone _).bind fun result =>
    reply_blind phone image result

lemma handleControl_blind (current : Option ImageReassembler) (msg : Dict) :
    Blind Served.out Served.runs (handleControl phone current msg) := by
  unfold handleControl
  split_ifs
  · exact (sending_blind (sendControl_blind _ _)).bind fun _ => Blind.pure _
  · exact (sending_blind (sendControl_blind _ _)).bind fun _ => Blind.pure _
  · exact (Blind.ofExcept _).bind fun _ => Blind.pure _
  · cases current with
    | none => exact Blind.pure _
    | some current =>
        exact (Blind.ofExcept _).bind fun image =>
          (processAndReply_blind phone image).bind fun _ => Blind.pure _
  · exact (sending_blind (sendControl_blind _ _)).bind fun _ => Blind.pure _

/-- **A pass does not see the link**: on one that takes what it is given, its result, what it sends and the
calls it makes depend on the frame, the reassembler and the earlier calls. -/
theorem handleFrame_blind (current : Option ImageReassembler) (f : Frame) :
    Blind Served.out Served.runs (handleFrame phone current f) := by
  unfold handleFrame
  split_ifs
  · cases current with
    | none => exact (sending_blind (sendControl_blind _ _)).bind fun _ => Blind.pure _
    | some current => exact (Blind.ofExcept _).bind fun _ => Blind.pure _
  · exact (Blind.ofExcept _).bind fun msg => handleControl_blind phone current msg

/-! ## Requests aside -/

/-- The answer to a control message that has nothing to do with an image. -/
def controlReply (msg : Dict) : Option Dict :=
  if isStr (messageType msg) (str "ping") then some pong
  else if isStr (messageType msg) (str "device_info") then some deviceInfo
  else if isStr (messageType msg) (str "image_begin") ∨ isStr (messageType msg) (str "image_end") then none
  else some (errorMessage 1001 (str "unhandled type " ++ phone.format (messageType msg)))

/-- The frame that answers this one, when this one has nothing to do with an image and its answer fits a
frame. -/
def asideReply (f : Frame) : Option Frame :=
  if f.kind = kindBinary then none
  else
    match decodeControl phone.py f.payload with
    | .error _ => none
    | .ok msg => ((controlReply phone msg).map controlFrame).filter fun reply =>
        reply.payload.length ≤ maxFrameBytes

variable {phone}

lemma sending_yields {msg : Dict} (henc : encodeControl phone.py msg = .ok (rendered (.obj msg)))
    (hlen : (rendered (.obj msg)).length ≤ maxFrameBytes) (current : Option ImageReassembler)
    (runs : List RunCall) :
    Yields Served.out Served.runs (sending (sendControl phone.py msg) >>= fun _ => pure current) runs (.ok current)
      (controlFrame msg).bytes runs := by
  have hsend : Yields Served.out Served.runs (sending (sendControl phone.py msg)) runs (.ok ())
      (controlFrame msg).bytes runs := by
    apply Yields.within
    · simp
    · simp
    · exact (sendControl_delivers henc hlen).yields
  rw [← List.append_nil (controlFrame msg).bytes]
  exact hsend.bind_ok (Yields.ofExcept (.ok current) runs)

/-- What a request aside is answered, and that its answer can be encoded. -/
lemma handleControl_reply {msg reply : Dict} (h : controlReply phone msg = some reply)
    (current : Option ImageReassembler) :
    handleControl phone current msg = (sending (sendControl phone.py reply) >>= fun _ => pure current) ∧
      encodeControl phone.py reply = .ok (rendered (.obj reply)) := by
  rw [controlReply] at h
  unfold handleControl
  split_ifs at h with hping hinfo himage
  · obtain rfl := Option.some.inj h
    exact ⟨if_pos hping, (writable_pong _).encodeControl⟩
  · obtain rfl := Option.some.inj h
    rw [if_neg hping, if_pos hinfo]
    exact ⟨rfl, (writable_deviceInfo _).encodeControl⟩
  · obtain rfl := Option.some.inj h
    rw [not_or] at himage
    rw [if_neg hping, if_neg hinfo, if_neg himage.1, if_neg himage.2]
    exact ⟨rfl, (writable_errorMessage _ _ _).encodeControl⟩

/-- The message in a request aside. -/
lemma asideReply_eq_some {f reply : Frame} (h : asideReply phone f = some reply) :
    ∃ msg answer, f.kind ≠ kindBinary ∧ decodeControl phone.py f.payload = .ok msg ∧
      controlReply phone msg = some answer ∧ reply = controlFrame answer ∧
      reply.payload.length ≤ maxFrameBytes := by
  rw [asideReply] at h
  split_ifs at h with hkind
  cases hmsg : decodeControl phone.py f.payload with
  | error e => simp [hmsg] at h
  | ok msg =>
      simp only [hmsg] at h
      obtain ⟨hreply, hlen⟩ := Option.filter_eq_some_iff.mp h
      obtain ⟨answer, hanswer, rfl⟩ := Option.map_eq_some_iff.mp hreply
      exact ⟨msg, answer, hkind, rfl, hanswer, rfl, of_decide_eq_true hlen⟩

/-- A pass for a request aside. -/
lemma handleFrame_reply {f reply : Frame} (h : asideReply phone f = some reply)
    (current : Option ImageReassembler) :
    ∃ answer, reply = controlFrame answer ∧ encodeControl phone.py answer = .ok (rendered (.obj answer)) ∧
      reply.payload.length ≤ maxFrameBytes ∧ ∀ s, (handleFrame phone current f).run s
        = (sending (sendControl phone.py answer) >>= fun _ => pure current).run s := by
  obtain ⟨msg, answer, hkind, hmsg, hanswer, rfl, hlen⟩ := asideReply_eq_some h
  obtain ⟨hrun, henc⟩ := handleControl_reply hanswer current
  refine ⟨answer, rfl, henc, hlen, ?_⟩
  intro s
  unfold handleFrame
  rw [if_neg hkind, Effect.run_ofExcept_bind, hmsg]
  simp only [hrun]

/-- A request aside gets its answer, and the reassembler stays as it is. -/
lemma handleFrame_aside {f reply : Frame} (h : asideReply phone f = some reply)
    (current : Option ImageReassembler) (runs : List RunCall) :
    Yields Served.out Served.runs (handleFrame phone current f) runs (.ok current) reply.bytes runs := by
  obtain ⟨answer, rfl, henc, hlen, hrun⟩ := handleFrame_reply h current
  intro s hruns hs
  rw [hrun]
  exact sending_yields henc hlen current runs s hruns hs

/-- The device's `ping`. -/
def pingFrame : Frame := ⟨kindJson, ascii "\x7b\"type\":\"ping\"\x7d"⟩

/-- The phone's `pong`. -/
def pongFrame : Frame := controlFrame pong

/-- A `ping` of the device is a request aside. -/
lemma asideReply_ping (phone : Phone) : asideReply phone pingFrame = some pongFrame := by
  have hflat : FlatMembers [(str "type", .str (str "ping"))] := by
    refine flatMembers_of_flat ?_
    intro m hm
    rw [List.mem_singleton] at hm
    rw [hm]
    exact ⟨⟨ascii "type", rfl⟩, flat_ofBytes (ascii "ping")⟩
  have hkeys : (["type"].map str).Nodup := by decide
  have htext : pingFrame.payload = flatText [(str "type", .str (str "ping"))] := by decide
  have hdecode := decodeControl_flatText phone.py hflat hkeys rfl
  have hkind : pingFrame.kind ≠ kindBinary := by decide
  have hlen : pongFrame.payload.length ≤ maxFrameBytes := by decide
  rw [asideReply, if_neg hkind, htext, hdecode]
  exact Option.filter_eq_some_iff.mpr ⟨rfl, decide_eq_true hlen⟩

/-! ## Runs -/

/-- Frames and what was sent for each: the requests aside got their answers. -/
def Answers (phone : Phone) (said : List (Frame × Bytes)) : Prop :=
  ∀ p ∈ said, ∀ reply, asideReply phone p.1 = some reply → p.2 = reply.bytes

/-- The frames that are no requests aside. -/
def isOwn (phone : Phone) (f : Frame) : Bool := (asideReply phone f).isNone

/-- What is sent, frame after frame. -/
def spoken (said : List (Frame × Bytes)) : Bytes := (said.map Prod.snd).flatten

/-- **The passes of the loop**, with the requests aside and without them: the same result and the same calls,
and what is sent is the same but for the answers to these requests. -/
theorem serve_aside (current : Option ImageReassembler) (fs : List Frame) (runs : List RunCall) :
    ∃ said r runs', said.map Prod.fst <+: fs ∧ Answers phone said ∧
      (said.map Prod.fst = fs ∨ ∃ p, said.getLast? = some p ∧ isOwn phone p.1) ∧
      Yields Served.out Served.runs (serve phone current fs) runs r (spoken said) runs' ∧
      Yields Served.out Served.runs (serve phone current (fs.filter (isOwn phone))) runs r
        (spoken (said.filter fun p => isOwn phone p.1)) runs' := by
  induction fs generalizing current runs with
  | nil =>
      refine ⟨[], .ok current, runs, List.nil_prefix, by simp [Answers], Or.inl rfl, ?_, ?_⟩
      · exact Yields.ofExcept (.ok current) runs
      · exact Yields.ofExcept (.ok current) runs
  | cons f fs ih =>
      cases haside : asideReply phone f with
      | some reply =>
          have hown : isOwn phone f = false := by simp [isOwn, haside]
          obtain ⟨said, r, runs', hprefix, hanswers, hall, hwith, hwithout⟩ := ih current runs
          refine ⟨(f, reply.bytes) :: said, r, runs', ?_, ?_, ?_, ?_, ?_⟩
          · rw [List.map_cons, List.cons_prefix_cons]
            exact ⟨rfl, hprefix⟩
          · refine List.forall_mem_cons.mpr ⟨?_, hanswers⟩
            intro reply' hreply
            rw [haside] at hreply
            rw [Option.some.inj hreply]
          · rcases hall with hall | ⟨p, hlast, hp⟩
            · exact Or.inl (congrArg (f :: ·) hall)
            · exact Or.inr ⟨p, by rw [List.getLast?_cons, hlast, Option.getD_some], hp⟩
          · exact (handleFrame_aside haside current runs).bind_ok hwith
          · rwa [List.filter_cons_of_neg (by simp [hown]), List.filter_cons_of_neg (by simp [hown])]
      | none =>
          have hown : isOwn phone f = true := by simp [isOwn, haside]
          obtain ⟨r, bs, runs₁, hyields⟩ := handleFrame_blind phone current f runs
          rw [List.filter_cons_of_pos hown]
          cases r with
          | error e =>
              refine ⟨[(f, bs)], .error e, runs₁, ?_, ?_, Or.inr ⟨(f, bs), rfl, hown⟩, ?_, ?_⟩
              · exact List.cons_prefix_cons.mpr ⟨rfl, List.nil_prefix⟩
              · simp [Answers, haside]
              · rw [spoken, List.map_singleton, List.flatten_singleton]
                exact hyields.bind_error
              · simp only [List.filter_cons, hown, if_true, List.filter_nil, spoken, List.map_singleton,
                  List.flatten_singleton]
                exact hyields.bind_error
          | ok next =>
              obtain ⟨said, r, runs', hprefix, hanswers, hall, hwith, hwithout⟩ := ih next runs₁
              refine ⟨(f, bs) :: said, r, runs', ?_, ?_, ?_, ?_, ?_⟩
              · rw [List.map_cons, List.cons_prefix_cons]
                exact ⟨rfl, hprefix⟩
              · exact List.forall_mem_cons.mpr ⟨by simp [haside], hanswers⟩
              · rcases hall with hall | ⟨p, hlast, hp⟩
                · exact Or.inl (congrArg (f :: ·) hall)
                · exact Or.inr ⟨p, by rw [List.getLast?_cons, hlast, Option.getD_some], hp⟩
              · exact hyields.bind_ok hwith
              · simp only [List.filter_cons, hown, if_true]
                exact hyields.bind_ok hwithout

end Passes

/-- How a connection ends behind its frames. -/
def endingBehind : Except PyExc (Option ImageReassembler) → Ending
  | .error e => ending e
  | .ok _ => .returned

/-- Seen from the link, a connection is what serving its frames yields. -/
lemma handleConnection_yields {phone : Phone} {conn : Inbound} {fs : List Frame}
    (hfs : (drain recvFrame.run conn).1 = fs) {s : Served} (hs : s.out.Steady)
    {r : Except PyExc (Option ImageReassembler)} {bs : Bytes} {runs : List RunCall}
    (h : Yields Served.out Served.runs (serve phone none fs) s.runs r bs runs) :
    (handleConnection phone conn s).1 = endingBehind r ∧
      (handleConnection phone conn s).2.runs = runs ∧
      (handleConnection phone conn s).2.out.sent = s.out.sent ++ bs := by
  obtain ⟨s', hrun, hsent, -, hruns⟩ := h s rfl hs
  rw [handleConnection, connectionLoop_eq, hfs, hrun]
  cases r <;> exact ⟨rfl, hruns, hsent⟩

/-- **Requests aside are answered in their place and touch nothing else.**

Two connections that do not fail carry the same frames, but for requests aside that only the first one has, anywhere between the
others.  They end alike and run the pipeline on the same images.  What the second one is sent is, frame for
frame, what the first one is sent for the same frames, and between these stands, for each request the first
connection comes to, its answer.  No such request ends the connection. -/
theorem requests_answered_aside (phone : Phone) {conn conn' : Inbound} (hconn : conn.Steady)
    (hconn' : conn'.Steady) {fs : List Frame} (hfs : ∀ f ∈ fs, f.payload.length ≤ maxFrameBytes)
    (hb : conn.bytes = wire fs) (hb' : conn'.bytes = wire (fs.filter (isOwn phone))) {s s' : Served}
    (hs : s.out.Steady) (hs' : s'.out.Steady) (hruns : s.runs = s'.runs) :
    (handleConnection phone conn s).1 = (handleConnection phone conn' s').1 ∧
      (handleConnection phone conn s).2.runs = (handleConnection phone conn' s').2.runs ∧
      ∃ said, said.map Prod.fst <+: fs ∧ Answers phone said ∧
        (said.map Prod.fst = fs ∨ ∃ p, said.getLast? = some p ∧ isOwn phone p.1) ∧
        (handleConnection phone conn s).2.out.sent = s.out.sent ++ spoken said ∧
        (handleConnection phone conn' s').2.out.sent
          = s'.out.sent ++ spoken (said.filter fun p => isOwn phone p.1) := by
  have hframes := drain_recvFrame hconn hfs hb
  have hframes' := drain_recvFrame hconn' (fun f hf => hfs f (List.mem_filter.mp hf).1) hb'
  obtain ⟨said, r, runs, hprefix, hanswers, hall, hwith, hwithout⟩ :=
    @serve_aside phone none fs s.runs
  rw [hruns] at hwithout
  obtain ⟨hend, hcalls, hsent⟩ := handleConnection_yields hframes hs hwith
  obtain ⟨hend', hcalls', hsent'⟩ := handleConnection_yields hframes' hs' hwithout
  exact ⟨hend.trans hend'.symm, hcalls.trans hcalls'.symm, said, hprefix, hanswers, hall, hsent, hsent'⟩

/-- An upload that is not begun, between two pings. -/
def chatter : List Frame := [pingFrame, ⟨kindBinary, [0, 0, 0, 0, 7]⟩, pingFrame]

/-- A connection with the pings and one without them. -/
theorem requests_answered_aside_ping : ∃ said, said.map Prod.fst <+: chatter ∧ Answers deskPhone said ∧
    (said.map Prod.fst = chatter ∨ ∃ p, said.getLast? = some p ∧ isOwn deskPhone p.1) ∧
    (handleConnection deskPhone (.cut (wire chatter) [3, 1]) ⟨.fresh [2], []⟩).2.out.sent = spoken said ∧
    (handleConnection deskPhone (.cut (wire (chatter.filter (isOwn deskPhone))) []) ⟨.fresh [], []⟩).2.out.sent
      = spoken (said.filter fun p => isOwn deskPhone p.1) := by
  have hshort : ∀ f ∈ chatter, f.payload.length ≤ maxFrameBytes := by decide
  have hb : (Inbound.cut (wire chatter) [3, 1]).bytes = wire chatter := by simp only [Inbound.cut]
  have hb' : (Inbound.cut (wire (chatter.filter (isOwn deskPhone))) []).bytes
      = wire (chatter.filter (isOwn deskPhone)) := by simp only [Inbound.cut]
  have hs : (⟨.fresh [2], []⟩ : Served).out.Steady := Outbound.steady_fresh _
  have hs' : (⟨.fresh [], []⟩ : Served).out.Steady := Outbound.steady_fresh _
  have hall := requests_answered_aside deskPhone (Inbound.steady_cut _ _) (Inbound.steady_cut _ _) hshort hb hb'
    hs hs' rfl
  simpa only [Outbound.sent_fresh, List.nil_append] using hall.2.2

end Sudonit
