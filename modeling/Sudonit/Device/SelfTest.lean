import Sudonit.Device.Boot

/-!
# The self-test

`app_main` in the build that only exchanges a ping and a pong, with the phone at the other end.

* `pongText_name` — the device reads the phone's `pong` for what it is.
* `handleConnection_ping` — what the phone does on a connection that carries the front of a ping.
* `self_test_alive` — the self-test reports the data plane alive exactly if the ping and the pong came through.
-/

namespace Sudonit

open Octets Stream Frames CText Python

/-! ## The pong on the device -/

lemma pongText_name : typeName (pongFrame.payload ++ [0]) = some (ascii "pong") := by
  have hahead : Ahead (ascii "type") [] := by simp [Ahead]
  have hword : ∀ b ∈ ascii "pong", isWordChar b := by decide
  have htype := typeName_flatText hahead hword (by decide) [] []
  have htext : pongFrame.payload = flatText [(str "type", .str (ofBytes (ascii "pong")))] := by decide
  rw [htext]
  exact htype.trans (if_pos (by simp [AllPass]))

/-! ## The self-test on the device -/

section Device

variable {w : Wake} {g g' : Glasses}

/-- The self-test finds the phone if the ping is sent and a `pong` is received. -/
lemma selfTest_alive_iff : (selfTest w).run g = (.ok .alive, g') ↔ ∃ out text conn,
    sdMsgSendPing.run g.out = (.ok (), out) ∧ sdMsgRecv w.heap w.typeBuf [] g.conn = some (.ok .pong, text, conn) ∧
      g' = { g with conn := conn, out := out } := by
  have hreport : ∀ {answer : Except SdErr MsgType} {g₁ : Glasses},
      ((pure (if answer = .ok .pong then .alive else .noPong) : Effect Glasses Halt Report).run g₁
        = (.ok .alive, g')) ↔ answer = .ok .pong ∧ g₁ = g' := by
    intro answer g₁
    split_ifs with hpong <;> simp [hpong]
  rw [selfTest, Effect.run_bind_eq_ok]
  constructor
  · rintro ⟨answer, g₁, hcalled, hrest⟩
    obtain ⟨rfl, rfl⟩ := hreport.mp hrest
    obtain ⟨_, g₂, hping, hrecv⟩ := Effect.run_bind_eq_ok.mp (checked_eq_ok.mp hcalled)
    rcases hsend : sdMsgSendPing.run g.out with ⟨e | _, out⟩
    · simp [sendPing, hsend] at hping
    · simp only [sendPing, hsend, Prod.mk.injEq, true_and] at hping
      subst hping
      rcases hmsg : sdMsgRecv w.heap w.typeBuf [] g.conn with _ | ⟨e | type, text, conn⟩
      · simp [recvType, hmsg] at hrecv
      · simp [recvType, hmsg] at hrecv
      · simp only [recvType, hmsg, Prod.mk.injEq, Except.ok.injEq] at hrecv
        obtain ⟨rfl, rfl⟩ := hrecv
        exact ⟨out, text, conn, rfl, rfl, rfl⟩
  · rintro ⟨out, text, conn, hsend, hmsg, rfl⟩
    have hping : sendPing.run g = (.ok (), { g with out := out }) := by
      simp only [sendPing, hsend]
    have hrecv : (recvType w).run { g with out := out } = (.ok .pong, { g with conn := conn, out := out }) := by
      simp only [recvType, hmsg]
    have hboth : (sendPing >>= fun _ => recvType w).run g = (.ok .pong, { g with conn := conn, out := out }) := by
      rw [Effect.run_bind_ok hping, hrecv]
    exact ⟨.ok .pong, _, checked_eq_ok.mpr hboth, hreport.mpr ⟨rfl, rfl⟩⟩

/-- Reading a message is never undefined. -/
lemma sdMsgRecv_defined (heap : Bool) (typeBuf : Buffer 32) (textOut : Bytes) (t : Inbound) :
    sdMsgRecv heap typeBuf textOut t ≠ none := by
  cases heap with
  | false => simp [sdMsgRecv]
  | true =>
      rcases hrecv : (sdFrameRecv msgRecvCap).run t with ⟨e | f, t'⟩
      · simp [sdMsgRecv, hrecv]
      · by_cases hkind : f.kind = kindJson
        · simp [sdMsgRecv_frame hrecv hkind]
        · simp [sdMsgRecv, hrecv, hkind]

/-- The self-test comes back. -/
lemma selfTest_returns : ∃ report, ((selfTest w).run g).1 = .ok report := by
  simp only [selfTest, checked, Effect.run_bind]
  rcases hsend : sdMsgSendPing.run g.out with ⟨e | _, out⟩
  · simp [sendPing, hsend]
  · rcases hmsg : sdMsgRecv w.heap w.typeBuf [] g.conn with _ | ⟨e | type, text, conn⟩
    · exact absurd hmsg (sdMsgRecv_defined _ _ _ _)
    · simp [sendPing, hsend, recvType, hmsg]
    · simp [sendPing, hsend, recvType, hmsg]

/-- Receiving does not write. -/
lemma selfTest_out : ((selfTest w).run g).2.out = (sdMsgSendPing.run g.out).2 := by
  simp only [selfTest, checked, Effect.run_bind]
  rcases hsend : sdMsgSendPing.run g.out with ⟨e | _, out⟩
  · simp [sendPing, hsend]
  · rcases hmsg : sdMsgRecv w.heap w.typeBuf [] g.conn with _ | ⟨e | type, text, conn⟩ <;>
      simp [sendPing, hsend, recvType, hmsg]

end Device

/-! ## The ping on the phone -/

lemma length_pingFrame : pingFrame.payload.length ≤ maxFrameBytes := by decide

lemma length_pongFrame : pongFrame.payload.length < 2 ^ 32 := by decide

/-- **A connection that carries the front of a ping** is answered with the front of a pong, and only if all of
the ping has come; the pipeline is left alone. -/
lemma handleConnection_ping (phone : Phone) {conn : Inbound} (hb : conn.bytes <+: pingFrame.bytes) (s : Served) :
    (handleConnection phone conn s).2.runs = s.runs ∧
      ((handleConnection phone conn s).2.out.sent = s.out.sent ∨
        conn.bytes = pingFrame.bytes ∧ ∃ done, done <+: pongFrame.bytes ∧
          (handleConnection phone conn s).2.out.sent = s.out.sent ++ done) := by
  rw [handleConnection]
  rcases hrecv : recvFrame.run conn with ⟨e | f, conn'⟩
  · rw [connectionLoop_error hrecv]
    exact ⟨rfl, Or.inl rfl⟩
  · have hnext := hrecv
    rw [recvFrame_eq] at hnext
    have hshort : pingFrame.payload.length < 2 ^ 32 := lt_of_le_of_lt length_pingFrame (by decide)
    obtain ⟨rfl, hrest⟩ := receiveFrame_next hshort (by rwa [List.append_nil]) hnext
    obtain ⟨-, hbytes⟩ := receiveFrame_ok hnext
    rw [List.prefix_nil.mp hrest, List.append_nil] at hbytes
    obtain ⟨answer, hpong, -, -, hpass⟩ := handleFrame_reply (asideReply_ping phone) none
    obtain ⟨done, hdone, hsent, -⟩ := sendControl_sendsFront phone.py answer s.out
    rw [← hpong] at hdone
    have hend : ∀ s₁, connectionLoop phone none conn' s₁ = (.returned, s₁) := by
      intro s₁
      rcases hlast : recvFrame.run conn' with ⟨e | g, conn''⟩
      · rw [connectionLoop_error hlast, ending, if_pos (caught_of_recvFrame hlast)]
      · rw [recvFrame_eq] at hlast
        exact absurd hlast (receiveFrame_nothing (List.prefix_nil.mp hrest))
    rw [connectionLoop_ok hrecv, hpass, Effect.run_bind, sending, Effect.run_within]
    rcases hrun : (sendControl phone.py answer).run s.out with ⟨e | _, out⟩
    · rw [hrun] at hsent
      exact ⟨rfl, Or.inr ⟨hbytes, done, hdone, hsent⟩⟩
    · rw [hrun] at hsent
      simp only [Effect.run_pure, hend, true_and]
      exact Or.inr ⟨hbytes, done, hdone, hsent⟩

/-- The phone answers a ping that has come on links that do not fail. -/
lemma handleConnection_pong (phone : Phone) {conn : Inbound} (hconn : conn.Steady)
    (hb : conn.bytes = pingFrame.bytes) {s : Served} (hs : s.out.Steady) :
    (handleConnection phone conn s).2.out.sent = s.out.sent ++ pongFrame.bytes := by
  have hwire : conn.bytes = wire [pingFrame] := by rw [hb, wire_cons, wire, List.flatMap_nil, List.append_nil]
  have hframes := drain_recvFrame hconn (by simp [length_pingFrame]) hwire
  have hpass := handleFrame_aside (asideReply_ping phone) none s.runs
  have hserved : Yields Served.out Served.runs (serve phone none [pingFrame]) s.runs (.ok none)
      (pongFrame.bytes ++ []) s.runs := hpass.bind_ok (Yields.ofExcept (.ok none) s.runs)
  rw [List.append_nil] at hserved
  exact (handleConnection_yields hframes hs hserved).2.2

/-! ## Both ends -/

/-- What the self-test sends, whatever the link does: the front of a ping. -/
lemma sdMsgSendPing_sendsFront : SendsFront sdMsgSendPing pingFrame.bytes := sdFrameSend_sendsFront _ _

/-- On a link that does not fail it sends all of it. -/
lemma sdMsgSendPing_delivers : Delivers sdMsgSendPing pingFrame.bytes :=
  sdFrameSend_delivers ⟨pingFrame, Or.inl rfl, length_pingFrame⟩

section BothEnds

variable {w : Wake} {phone : Phone} {g g' : Glasses} {conn : Inbound} {lost lost' : Bytes}
  {s : Served}

/-- A self-test that finds the phone was answered. -/
lemma selfTest_truthful (htest : (selfTest w).run g = (.ok .alive, g'))
    (hup : g'.out.sent = g.out.sent ++ (conn.bytes ++ lost))
    (hdown : (handleConnection phone conn s).2.out.sent = s.out.sent ++ (g.conn.bytes ++ lost')) :
    conn.bytes = pingFrame.bytes ∧ g.conn.bytes = pongFrame.bytes ∧
      (handleConnection phone conn s).2.runs = s.runs := by
  obtain ⟨out, text, conn', hsend, hmsg, rfl⟩ := selfTest_alive_iff.mp htest
  obtain ⟨done, hdone, hsent, -⟩ := sdMsgSendPing_sendsFront g.out
  rw [hsend, hup, List.append_cancel_left_eq] at hsent
  have hfront : conn.bytes <+: pingFrame.bytes := (List.prefix_append _ _).trans (hsent ▸ hdone)
  obtain ⟨hruns, hanswer⟩ := handleConnection_ping phone hfront s
  obtain ⟨f, type, hrecv, -⟩ := sdMsgRecv_ok hmsg
  rw [sdFrameRecv_eq] at hrecv
  rcases hanswer with hnothing | ⟨hping, pong, hpong, hanswer⟩
  · rw [hnothing, List.self_eq_append_right, List.append_eq_nil_iff] at hdown
    exact absurd hrecv (receiveFrame_nothing hdown.1)
  · rw [hanswer, List.append_cancel_left_eq] at hdown
    have hback : g.conn.bytes <+: pongFrame.bytes ++ [] := by
      rw [List.append_nil]
      exact (List.prefix_append _ _).trans (hdown ▸ hpong)
    obtain ⟨rfl, hrest⟩ := receiveFrame_next length_pongFrame hback hrecv
    obtain ⟨-, hbytes⟩ := receiveFrame_ok hrecv
    rw [List.prefix_nil.mp hrest, List.append_nil] at hbytes
    exact ⟨hping, hbytes, hruns⟩

/-- A self-test whose ping and pong come through finds the phone. -/
lemma selfTest_answered (hheap : w.heap = true) (hout : g.out.Steady) (hline : g.conn.Steady) (hconn : conn.Steady)
    (hs : s.out.Steady) (hup : ((selfTest w).run g).2.out.sent = g.out.sent ++ conn.bytes)
    (hdown : (handleConnection phone conn s).2.out.sent = s.out.sent ++ g.conn.bytes) :
    ((selfTest w).run g).1 = .ok .alive := by
  obtain ⟨out, hsend, hsent, -⟩ := sdMsgSendPing_delivers g.out hout
  have hping : conn.bytes = pingFrame.bytes := by
    rw [selfTest_out, hsend, hsent, List.append_cancel_left_eq] at hup
    exact hup.symm
  have hpong : g.conn.bytes = pongFrame.bytes := by
    rw [handleConnection_pong phone hconn hping hs, List.append_cancel_left_eq] at hdown
    exact hdown.symm
  have haccepted : Accepted (sdReject msgRecvCap) pongFrame := accepted_sdReject.mpr (by decide)
  obtain ⟨conn', hrecv, -⟩ := @receiveFrame_steady _ SdErr.ofStop _ _ hline _ haccepted []
    (by rw [hpong, List.append_nil])
  rw [← sdFrameRecv_eq] at hrecv
  have hmsg := sdMsgRecv_frame hrecv rfl w.typeBuf []
  rw [pongText_name, ← hheap] at hmsg
  rw [selfTest_alive_iff.mpr ⟨out, _, conn', hsend, hmsg, rfl⟩]

end BothEnds

section Booted

variable {hw : Hardware} {p : Platform} {w : Wake} {b b' : Board w.rig.target}

/-- A boot that finds the phone has done so in its self-test. -/
lemma appMain_alive (hroom : b.held.Roomy p) (hc : b.headset.camera.current = none)
    (hrun : (appMain hw p w .selfTest).run b = (.ok .alive, b')) :
    ∃ h : Headset w.rig.target, (selfTest w).run (w.link.on h).glasses = (.ok .alive, b'.headset.glasses) := by
  obtain ⟨h, -, -, -, hmain⟩ := appMain_run hw p w .selfTest hc
  have hcourse := dataPlane_run hw p w .selfTest (w.config b) (b := { b with flash := w.flash b, headset := h }) hroom
  rw [hmain, onward] at hrun
  rw [hrun] at hcourse
  cases hcourse with
  | met met exchanged =>
      rw [converse, inGlasses, Effect.run_within, Prod.mk.injEq] at exchanged
      obtain ⟨hreport, rfl⟩ := exchanged
      exact ⟨h, Prod.ext hreport rfl⟩

/-- A boot that reaches its server ends as its self-test does. -/
lemma FindsPhone.tested (hfinds : FindsPhone w b) (hw : Hardware) (hroom : b.held.Roomy p)
    (hc : b.headset.camera.current = none) : ∃ h : Headset w.rig.target, ∃ b',
      (appMain hw p w .selfTest).run b = (((selfTest w).run (w.link.on h).glasses).1, b') ∧
        b'.headset.glasses = ((selfTest w).run (w.link.on h).glasses).2 := by
  obtain ⟨h, -, -, -, hmain⟩ := hfinds.appMain_run hw (show .selfTest ≠ DataPlane.absent by simp) hroom hc
  obtain ⟨report, hreport⟩ := @selfTest_returns w (w.link.on h).glasses
  obtain ⟨b', hrun, hheadset⟩ := hmain report _ (Prod.ext hreport rfl)
  exact ⟨h, b', hreport ▸ hrun, congrArg Headset.glasses hheadset⟩

end Booted

/-- **The self-test tells the truth.**  However the connection cuts, delays or breaks off the two streams: if a boot
reports its data plane alive, the phone has had the whole ping and the device the whole pong, and the pipeline was
left alone.  And a boot that reaches its server and has memory reports the data plane alive if neither stream is
cut or fails. -/
theorem self_test_alive {hw : Hardware} {p : Platform} {w : Wake} {phone : Phone} {b b' : Board w.rig.target}
    (hroom : b.held.Roomy p) (hc : b.headset.camera.current = none) {r : Except Halt Report}
    (hrun : (appMain hw p w .selfTest).run b = (r, b')) {conn : Inbound} {lost lost' : Bytes} {s : Served}
    (hup : b'.headset.glasses.out.sent = w.link.out.sent ++ (conn.bytes ++ lost))
    (hdown : (handleConnection phone conn s).2.out.sent = s.out.sent ++ (w.link.conn.bytes ++ lost')) :
    (r = .ok .alive → conn.bytes = pingFrame.bytes ∧ w.link.conn.bytes = pongFrame.bytes ∧
      (handleConnection phone conn s).2.runs = s.runs) ∧
    (FindsPhone w b → w.heap = true → w.link.out.Steady → w.link.conn.Steady → conn.Steady → s.out.Steady →
      lost = [] → lost' = [] → r = .ok .alive) := by
  constructor
  · rintro rfl
    obtain ⟨h, htest⟩ := appMain_alive hroom hc hrun
    exact selfTest_truthful htest hup hdown
  · intro hfinds hheap hout hline hconn hs hlost hlost'
    obtain ⟨h, b₁, hrun₁, hglasses⟩ := hfinds.tested hw hroom hc
    rw [hrun, Prod.mk.injEq] at hrun₁
    obtain ⟨rfl, rfl⟩ := hrun₁
    rw [hglasses, hlost, List.append_nil] at hup
    rw [hlost', List.append_nil] at hdown
    exact selfTest_answered hheap hout hline hconn hs hup hdown

/-- The same boot, over another connection. -/
def Wake.over (w : Wake) (link : Link) : Wake := { w with link := link }

lemma FindsPhone.over {w : Wake} {b : Board w.rig.target} (h : FindsPhone w b) (link : Link) : FindsPhone (w.over link) b :=
  ⟨h.up, h.named, h.served⟩

/-- A pong on its way, in front of a link that takes three bytes at a time. -/
def pongLink : Link := ⟨⟨pongFrame.bytes, []⟩, .fresh [3]⟩

/-- A boot whose ping is answered. -/
theorem self_test_alive_pong : ∃ b',
    (appMain ⟨.ov5640, .stub⟩ hostPlatform (cupWake.over pongLink) .selfTest).run cupBoard = (.ok .alive, b') ∧
      b'.headset.glasses.out.sent = pingFrame.bytes := by
  have hfinds := cup_finds.over pongLink
  have hline : pongLink.conn.Steady := by simp [pongLink, Inbound.Steady]
  have hsock : (⟨.fresh [], []⟩ : Served).out.Steady := Outbound.steady_fresh _
  obtain ⟨conn, hconn, hping⟩ : ∃ conn : Inbound, conn.Steady ∧ conn.bytes = pingFrame.bytes :=
    ⟨⟨_, []⟩, by simp [Inbound.Steady], rfl⟩
  obtain ⟨h, b', hrun, hglasses⟩ := hfinds.tested ⟨.ov5640, .stub⟩ cupBoard_roomy rfl
  obtain ⟨out, hsend, hsent, -⟩ := sdMsgSendPing_delivers pongLink.out (Outbound.steady_fresh _)
  have hup : b'.headset.glasses.out.sent = pongLink.out.sent ++ (conn.bytes ++ []) := by
    rw [hglasses, selfTest_out, List.append_nil, hping]
    exact (congrArg (·.2.sent) hsend).trans hsent
  have hdown : (handleConnection deskPhone conn ⟨.fresh [], []⟩).2.out.sent
      = (Outbound.fresh []).sent ++ ((cupWake.over pongLink).link.conn.bytes ++ []) := by
    rw [List.append_nil]
    exact handleConnection_pong deskPhone hconn hping hsock
  have htruth := self_test_alive (w := cupWake.over pongLink) cupBoard_roomy rfl hrun hup hdown
  have halive := htruth.2 hfinds rfl (Outbound.steady_fresh _) hline hconn hsock rfl rfl
  rw [halive] at hrun
  rw [List.append_nil, hping] at hup
  exact ⟨b', hrun, hup⟩

end Sudonit
