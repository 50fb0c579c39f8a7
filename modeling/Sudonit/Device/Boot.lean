import Sudonit.Device.Camera
import Sudonit.Device.ConfigRuns
import Sudonit.Device.Conversation
import Sudonit.Device.Network
import Sudonit.Device.Transport
import Sudonit.Phone.Replies

/-!
# `app_main.c`: from power-on to the first turn

The entry point of the target calls everything else: the store, the camera, Wi-Fi, the transport and, in the
builds that have a data plane, a ping or a whole turn.  A `Wake` says what all of these find.

* `appMain` — the code, with what it logs last as its result.
* `connectRetrying_run` — up to five connections are tried, with growing delays.
* `boot_leaves_nothing` — what a boot holds, and how long it waits.

A build with `SUDONIT_PROVISION_CONSOLE` goes on into the console instead of returning; that build is left out
here.
-/

namespace Sudonit

open Octets Stream Frames CText Slots

/-! ## The device and its surroundings -/

/-- What a boot does once it is up, by the flags of the build. -/
inductive DataPlane
  | absent
  /-- `SUDONIT_NET_SELFTEST` -/
  | selfTest
  /-- `SUDONIT_RUN_UPLINK` -/
  | uplink

/-- The device: the blob in its flash, its modules, what it holds, and how many milliseconds it was delayed,
which is no variable of the code. -/
structure Board (target : Target) where
  flash : Option Bytes
  headset : Headset target
  net : Net
  held : Held
  delayed : ℕ

/-- The two ends of a connection. -/
structure Link where
  conn : Inbound
  out : Outbound

/-- What a boot finds. -/
structure Wake where
  /-- `nvs_flash_init` returns one of the two errors that have the flash erased -/
  erase : Bool
  store : NvsIo
  /-- `esp_camera_init` -/
  camera : Bool
  rig : Rig
  /-- the capture of the cycle, and that of the turn -/
  cycle : Shutter rig.target
  shutter : Shutter rig.target
  bringup : Bringup
  /-- the network, attempt by attempt -/
  dials : ℕ → Dial
  link : Link
  /-- the frame buffer and `type` in the `sd_msg_recv` of the self-test -/
  heap : Bool
  typeBuf : Buffer 32

/-- What a boot logs last. -/
inductive Report
  | booted
  | netFailed
  | noHost
  | unreachable
  | alive
  | noPong
  | turnComplete
  | turnFailed
  deriving DecidableEq

/-! ## The code -/

/-- Run a call and look at its result. -/
def checked {σ α : Type} (x : Effect σ Halt α) : Effect σ Halt (Except SdErr α) := ⟨fun s =>
  match x.run s with
  | (.ok a, s') => (.ok (.ok a), s')
  | (.error (.code e), s') => (.ok (.error e), s')
  | (.error .undefined, s') => (.error .undefined, s')⟩

section Parts

variable {target : Target} {α : Type}

def onHeadset (x : Effect (Headset target) Halt α) : Effect (Board target) Halt α :=
  Effect.within Board.headset (fun h b => { b with headset := h }) x

def onNet (x : Effect Net Halt α) : Effect (Board target) Halt α :=
  Effect.within Board.net (fun n b => { b with net := n }) x

def onHeld (x : Effect Held Halt α) : Effect (Board target) Halt α :=
  Effect.within Board.held (fun k b => { b with held := k }) x

/-- `nvs_flash_init`, and `nvs_flash_erase` if it is called. -/
def initFlash (w : Wake) : Effect (Board target) Halt Unit := ⟨fun b =>
  (.ok (), if w.erase then { b with flash := none } else b)⟩

/-- `sd_config_load`, its result ignored. -/
def bootConfig (w : Wake) : Effect (Board target) Halt SdConfig := ⟨fun b =>
  (.ok (sdConfigLoad (storeRead (.nvs w.store) b.flash blobBytes)).2, b)⟩

/-- `vTaskDelay(pdMS_TO_TICKS(ms))`. -/
def taskDelay (ms : ℕ) : Effect (Board target) Halt Unit := ⟨fun b => (.ok (), { b with delayed := b.delayed + ms })⟩

/-- The loop over the attempts: so many are left, and this is the next one. -/
def connectRetrying (p : Platform) (dials : ℕ → Dial) (host : CStr) (port : UInt16) :
    ℕ → ℕ → Effect (Board target) Halt (Option Transport)
  | 0, _ => pure none
  | left + 1, attempt => do
      let made ← checked (onHeld (sdTransportConnect p (dials attempt) host port))
      match made with
      | .ok t => return some t
      | .error _ => do
          taskDelay (1000 * attempt)
          connectRetrying p dials host port left (attempt + 1)

/-- The connection is there. -/
def plugIn (link : Link) : Effect (Board target) Halt Unit := ⟨fun b =>
  (.ok (), { b with headset := { b.headset with
    glasses := { b.headset.glasses with conn := link.conn, out := link.out } } })⟩

end Parts

/-- `sd_msg_send_ping`. -/
def sendPing : Effect Glasses Halt Unit := ⟨fun g =>
  match sdMsgSendPing.run g.out with
  | (.ok (), out) => (.ok (), { g with out := out })
  | (.error e, out) => (.error (.code e), { g with out := out })⟩

/-- `sd_msg_recv` without a buffer for the text. -/
def recvType (w : Wake) : Effect Glasses Halt MsgType := ⟨fun g =>
  match sdMsgRecv w.heap w.typeBuf [] g.conn with
  | none => (.error .undefined, g)
  | some (.ok type, _, conn) => (.ok type, { g with conn := conn })
  | some (.error e, _, conn) => (.error (.code e), { g with conn := conn })⟩

/-- The self-test, over a connection. -/
def selfTest (w : Wake) : Effect Glasses Halt Report := do
  let answer ← checked (sendPing >>= fun _ => recvType w)
  return if answer = .ok .pong then .alive else .noPong

/-- The capacity of `response`. -/
def responseCap : ℕ := 512

/-- `sd_device_run_uplink`. -/
def runTurn (hw : Hardware) (w : Wake) : Effect (Headset w.rig.target) Halt Unit :=
  sdDeviceRunUplinkOn hw w.rig w.shutter captureId responseCap

/-- What is done over a connection. -/
def converse (hw : Hardware) (w : Wake) : DataPlane → Effect (Headset w.rig.target) Halt Report
  | .absent => pure .booted
  | .selfTest => inGlasses (selfTest w)
  | .uplink => do
      let turn ← checked (runTurn hw w)
      return match turn with
        | .ok () => .turnComplete
        | .error _ => .turnFailed

/-- The attempts of a boot. -/
def connectAttempts : ℕ := 5

/-- The data plane, up to the connection. -/
def dataPlane (hw : Hardware) (p : Platform) (w : Wake) (plane : DataPlane) (cfg : SdConfig) :
    Effect (Board w.rig.target) Halt Report := do
  let up ← checked (onNet (sdNetStart cfg w.bringup))
  match up with
  | .error _ => return .netFailed
  | .ok _ =>
      if cfg.serverHost.bytes.headD 0 = 0 then return .noHost
      else
        match CStr.read cfg.atServerHost with
        | none => Effect.fail .undefined
        | some host => do
            let connected ← connectRetrying p w.dials host cfg.serverPort connectAttempts 1
            match connected with
            | none => return .unreachable
            | some t => do
                plugIn w.link
                let report ← onHeadset (converse hw w plane)
                onHeld (sdTransportClose t)
                return report

/-- What follows the boot, by the flags of the build. -/
def onward (hw : Hardware) (p : Platform) (w : Wake) (cfg : SdConfig) :
    DataPlane → Effect (Board w.rig.target) Halt Report
  | .absent => pure .booted
  | .selfTest => dataPlane hw p w .selfTest cfg
  | .uplink => dataPlane hw p w .uplink cfg

/-- `app_main`, where `SUDONIT_PROVISION_CONSOLE` is not defined. -/
def appMain (hw : Hardware) (p : Platform) (w : Wake) (plane : DataPlane) :
    Effect (Board w.rig.target) Halt Report := do
  initFlash w
  let cfg ← bootConfig w
  let _ ← checked (onHeadset (sdDeviceInit hw w.camera none))
  let _ ← checked (onHeadset (sdDeviceCaptureCycle hw w.cycle))
  onward hw p w cfg plane

/-! ## Calls on a part of the device -/

section Checked

variable {σ α : Type} {x : Effect σ Halt α} {s s' : σ}

/-- A checked call that came back. -/
lemma checked_eq_ok {r : Except SdErr α} :
    (checked x).run s = (.ok r, s') ↔ x.run s = (r.mapError .code, s') := by
  rcases hx : x.run s with ⟨(e | _) | a, s₁⟩ <;> cases r <;> simp [checked, hx, Except.mapError]

/-- A checked call fails only where something undefined happens. -/
lemma checked_error {e : Halt} (h : (checked x).run s = (.error e, s')) : e = .undefined := by
  rcases hx : x.run s with ⟨(e' | _) | a, s₁⟩ <;> simp only [checked, hx] at h <;> simp_all

end Checked

/-! ## Attempts -/

/-- A connection would come of the dial. -/
def Dial.serves (d : Dial) (host : CStr) (port : UInt16) : Prop :=
  d.calloc = true ∧ ∃ c ∈ d.addresses host port, c.reached = true

section Attempts

variable {target : Target} (p : Platform) (dials : ℕ → Dial) (host : CStr) (port : UInt16)

/-- What these attempts wait for connections, in milliseconds, and what the delays behind them come to. -/
def dialled (ns : List ℕ) : ℕ := (ns.map fun n => waitsFor ((dials n).addresses host port)).sum

def backoff (ns : List ℕ) : ℕ := (ns.map fun n => 1000 * n).sum

/-- **The attempts** end with the first dial that serves, or with the last one; each of those before it is
followed by its delay, and leaves nothing else. -/
theorem connectRetrying_run {b : Board target} (hb : b.held.Roomy p) (left attempt : ℕ) :
    ((connectRetrying p dials host port left attempt).run b = (.ok none, { b with
        held := b.held.after (dialled dials host port (List.range' attempt left))
        delayed := b.delayed + backoff (List.range' attempt left) }) ∧
      ∀ n ∈ List.range' attempt left, ¬ (dials n).serves host port) ∨
    ∃ before n after t k, List.range' attempt left = before ++ n :: after ∧
      (∀ m ∈ before, ¬ (dials m).serves host port) ∧ (dials n).serves host port ∧
      Connected p (dials n) host port b.held t k ∧
      k.waited = b.held.waited + dialled dials host port (before ++ [n]) ∧
      (connectRetrying p dials host port left attempt).run b = (.ok (some t), { b with
        held := k
        delayed := b.delayed + backoff before }) := by
  induction left generalizing b attempt with
  | zero => exact Or.inl ⟨rfl, by simp⟩
  | succ left ih =>
      rw [connectRetrying, List.range'_succ]
      rcases sdTransportConnect_cases p (dials attempt) host port hb with
        ⟨e, hrun, hwhy⟩ | ⟨t, k, hrun, hconnected, hcalloc, hwaited⟩
      · have hserves : ¬ (dials attempt).serves host port := by
          rintro ⟨hcalloc, c, hc, hreached⟩
          rcases hwhy with ⟨-, hnone⟩ | ⟨-, hnomem, -⟩
          · rw [hnone c hc] at hreached
            simp at hreached
          · rw [hcalloc] at hnomem
            simp at hnomem
        have hheld : (onHeld (sdTransportConnect p (dials attempt) host port)).run b
            = (.error (.code e), { b with
              held := b.held.after (waitsFor ((dials attempt).addresses host port)) }) := by
          rw [onHeld, Effect.run_within, hrun]
        rw [Effect.run_bind_ok (checked_eq_ok (r := .error e).mpr hheld)]
        simp only
        rw [Effect.run_bind_ok (show (taskDelay (1000 * attempt)).run _ = (.ok (), _) from rfl)]
        have hroom : (b.held.after (waitsFor ((dials attempt).addresses host port))).Roomy p := hb
        rcases ih (b := { b with
            held := b.held.after (waitsFor ((dials attempt).addresses host port))
            delayed := b.delayed + 1000 * attempt }) hroom (attempt + 1) with
          ⟨hrest, hnone⟩ | ⟨before, n, after, t, k, hrange, hbefore, hserves', hconnected, hwaited, hrest⟩
        · refine Or.inl ⟨?_, List.forall_mem_cons.mpr ⟨hserves, hnone⟩⟩
          rw [hrest]
          simp only [dialled, backoff, Held.after, List.map_cons, List.sum_cons, Nat.add_assoc]
        · refine Or.inr ⟨attempt :: before, n, after, t, k, ?_, List.forall_mem_cons.mpr ⟨hserves, hbefore⟩, hserves',
            ⟨hconnected.reached, hconnected.fresh, hconnected.lists, hconnected.transports⟩, ?_, ?_⟩
          · rw [hrange, List.cons_append]
          · rw [hwaited]
            simp only [dialled, Held.after, List.cons_append, List.map_cons, List.sum_cons, Nat.add_assoc]
          · rw [hrest]
            simp only [backoff, List.map_cons, List.sum_cons, Nat.add_assoc]
      · have hheld : (onHeld (sdTransportConnect p (dials attempt) host port)).run b
            = (.ok t, { b with held := k }) := by
          rw [onHeld, Effect.run_within, hrun]
        have hserves : (dials attempt).serves host port := by
          obtain ⟨before, c, after, haddrs, hreached, -, -⟩ := hconnected.reached
          exact ⟨hcalloc, c, haddrs ▸ by simp, hreached⟩
        refine Or.inr ⟨[], attempt, _, t, k, rfl, by simp, hserves, hconnected, ?_, ?_⟩
        · rw [hwaited]
          simp [dialled]
        · rw [Effect.run_bind_ok (checked_eq_ok (r := .ok t).mpr hheld)]
          rfl

end Attempts

/-! ## The course of a boot -/

/-- The glasses with the connection. -/
def Link.on {target : Target} (link : Link) (h : Headset target) : Headset target :=
  { h with glasses := { h.glasses with conn := link.conn, out := link.out } }

/-- A connection was made, by the first attempt that could, to the host and the port of the configuration. -/
structure Met (p : Platform) (w : Wake) (cfg : SdConfig) (b : Board w.rig.target) (net : Net) (host : CStr)
    (before : List ℕ) (n : ℕ) (t : Transport) (k : Held) : Prop where
  up : (sdNetStart cfg w.bringup).run b.net = (.ok (), net)
  named : cfg.serverHost.bytes.headD 0 ≠ 0
  read : CStr.read cfg.atServerHost = some host
  attempts : ∃ after, List.range' 1 connectAttempts = before ++ n :: after
  unserved : ∀ m ∈ before, ¬ (w.dials m).serves host cfg.serverPort
  serves : (w.dials n).serves host cfg.serverPort
  connected : Connected p (w.dials n) host cfg.serverPort b.held t k
  waited : k.waited = b.held.waited + dialled w.dials host cfg.serverPort (before ++ [n])

/-- Where something undefined can happen: in the start of Wi-Fi, in the host, and over the connection. -/
inductive Fault (hw : Hardware) (p : Platform) (w : Wake) (plane : DataPlane) (cfg : SdConfig)
    (b : Board w.rig.target) : Prop
  | start (start : ((sdNetStart cfg w.bringup).run b.net).1 = .error .undefined)
  | host (read : CStr.read cfg.atServerHost = none)
  | talk {net : Net} {host : CStr} {before : List ℕ} {n : ℕ} {t : Transport} {k : Held}
      (met : Met p w cfg b net host before n t k)
      (exchanged : ((converse hw w plane).run (w.link.on b.headset)).1 = .error .undefined)

/-- What the data plane can do. -/
inductive Course (hw : Hardware) (p : Platform) (w : Wake) (plane : DataPlane) (cfg : SdConfig)
    (b : Board w.rig.target) : Except Halt Report → Board w.rig.target → Prop
  | undefined (fault : Fault hw p w plane cfg b) (b' : Board w.rig.target) :
      Course hw p w plane cfg b (.error .undefined) b'
  | netFailed {net : Net} {e : SdErr} (down : (sdNetStart cfg w.bringup).run b.net = (.error (.code e), net)) :
      Course hw p w plane cfg b (.ok .netFailed) { b with net := net }
  | noHost {net : Net} (up : (sdNetStart cfg w.bringup).run b.net = (.ok (), net))
      (unnamed : cfg.serverHost.bytes.headD 0 = 0) :
      Course hw p w plane cfg b (.ok .noHost) { b with net := net }
  | unreachable {net : Net} {host : CStr} (up : (sdNetStart cfg w.bringup).run b.net = (.ok (), net))
      (named : cfg.serverHost.bytes.headD 0 ≠ 0) (read : CStr.read cfg.atServerHost = some host)
      (none : ∀ n ∈ List.range' 1 connectAttempts, ¬ (w.dials n).serves host cfg.serverPort) :
      Course hw p w plane cfg b (.ok .unreachable) { b with
        net := net
        held := b.held.after (dialled w.dials host cfg.serverPort (List.range' 1 connectAttempts))
        delayed := b.delayed + backoff (List.range' 1 connectAttempts) }
  | met {net : Net} {host : CStr} {before : List ℕ} {n : ℕ} {t : Transport} {k : Held} {report : Report}
      {h : Headset w.rig.target} (met : Met p w cfg b net host before n t k)
      (exchanged : (converse hw w plane).run (w.link.on b.headset) = (.ok report, h)) :
      Course hw p w plane cfg b (.ok report) { b with
        net := net
        held := { b.held with waited := k.waited }
        headset := h
        delayed := b.delayed + backoff before }

lemma converse_error {hw : Hardware} {w : Wake} {plane : DataPlane} {h h' : Headset w.rig.target} {e : Halt}
    (hrun : (converse hw w plane).run h = (.error e, h')) : e = .undefined := by
  cases plane with
  | absent => simp [converse] at hrun
  | selfTest =>
      rw [converse, inGlasses, Effect.run_within, Prod.mk.injEq, selfTest, Effect.run_bind] at hrun
      rcases hanswer : (checked (sendPing >>= fun _ => recvType w)).run h.glasses with ⟨e' | answer, g⟩
      · rw [hanswer] at hrun
        exact Except.error.inj hrun.1 ▸ checked_error hanswer
      · rw [hanswer] at hrun
        simp at hrun
  | uplink =>
      rw [converse, Effect.run_bind] at hrun
      rcases hturn : (checked (runTurn hw w)).run h with ⟨e' | turn, h₁⟩
      · rw [hturn] at hrun
        exact Except.error.inj (Prod.mk.inj hrun).1 ▸ checked_error hturn
      · rw [hturn] at hrun
        simp at hrun

/-- **The data plane** takes one of these courses. -/
theorem dataPlane_run (hw : Hardware) (p : Platform) (w : Wake) (plane : DataPlane) (cfg : SdConfig)
    {b : Board w.rig.target} (hb : b.held.Roomy p) : Course hw p w plane cfg b ((dataPlane hw p w plane cfg).run b).1
      ((dataPlane hw p w plane cfg).run b).2 := by
  rw [dataPlane, Effect.run_bind]
  rcases hup : (checked (onNet (sdNetStart cfg w.bringup))).run b with ⟨e | up, b₁⟩
  · obtain rfl := checked_error hup
    refine .undefined (.start ?_) b₁
    rcases hstart : (sdNetStart cfg w.bringup).run b.net with ⟨(e | _) | _, net⟩ <;>
      simp [checked, onNet, hstart] at hup
    rfl
  · have hnet := checked_eq_ok.mp hup
    rw [onNet, Effect.run_within, Prod.mk.injEq] at hnet
    obtain ⟨hresult, rfl⟩ := hnet
    cases up with
    | error e => exact .netFailed (Prod.ext hresult rfl)
    | ok _ =>
        simp only
        have hstart : (sdNetStart cfg w.bringup).run b.net
            = (.ok (), ((sdNetStart cfg w.bringup).run b.net).2) := Prod.ext hresult rfl
        split_ifs with hname
        · exact .noHost hstart hname
        · cases hhost : CStr.read cfg.atServerHost with
          | none => exact .undefined (.host hhost) _
          | some host =>
              simp only
              rcases connectRetrying_run p w.dials host cfg.serverPort
                  (b := { b with net := ((sdNetStart cfg w.bringup).run b.net).2 }) hb connectAttempts 1 with
                ⟨hrun, hnone⟩ | ⟨before, n, after, t, k, hrange, hbefore, hserves, hconnected, hwaited, hrun⟩
              · rw [Effect.run_bind_ok hrun]
                exact .unreachable hstart hname hhost hnone
              · rw [Effect.run_bind_ok hrun]
                simp only
                rw [Effect.run_bind_ok (show (plugIn w.link).run _ = (.ok (), _) from rfl), Effect.run_bind,
                  onHeadset, Effect.run_within]
                simp only
                have hmet : Met p w cfg b ((sdNetStart cfg w.bringup).run b.net).2 host before n t k :=
                  ⟨hstart, hname, hhost, ⟨after, hrange⟩, hbefore, hserves, hconnected, hwaited⟩
                rcases hexchange : (converse hw w plane).run (w.link.on b.headset) with ⟨e | report, h⟩
                · have hrun := hexchange
                  rw [Link.on] at hrun
                  rw [hrun]
                  obtain rfl := converse_error hexchange
                  exact .undefined (.talk hmet (by rw [hexchange])) _
                · have hclose : (onHeld (sdTransportClose t)).run { b with
                      net := ((sdNetStart cfg w.bringup).run b.net).2
                      held := k
                      headset := h
                      delayed := b.delayed + backoff before } = (.ok (), { b with
                      net := ((sdNetStart cfg w.bringup).run b.net).2
                      held := { b.held with waited := k.waited }
                      headset := h
                      delayed := b.delayed + backoff before }) := by
                    rw [onHeld, Effect.run_within, hconnected.close]
                  have hrun := hexchange
                  rw [Link.on] at hrun
                  rw [hrun]
                  simp only
                  rw [Effect.run_bind_ok hclose]
                  exact .met hmet hexchange

/-! ## What a boot leaves behind -/

/-- The flash behind `nvs_flash_init`, and the configuration that is loaded from it. -/
def Wake.flash {target : Target} (w : Wake) (b : Board target) : Option Bytes := if w.erase then none else b.flash

def Wake.config {target : Target} (w : Wake) (b : Board target) : SdConfig :=
  (sdConfigLoad (storeRead (.nvs w.store) (w.flash b) blobBytes)).2

/-- A call on the headset whose result is only logged. -/
lemma run_logged {target : Target} {α β : Type} {x : Effect (Headset target) Halt α}
    {y : Effect (Board target) Halt β} {b : Board target} (h : (x.run b.headset).1 ≠ .error .undefined) :
    (checked (onHeadset x) >>= fun _ => y).run b = y.run { b with headset := (x.run b.headset).2 } := by
  rcases hx : x.run b.headset with ⟨(e | _) | a, h'⟩
  · have hlogged : (onHeadset x).run b = (.error (.code e), { b with headset := h' }) := by
      rw [onHeadset, Effect.run_within, hx]
    rw [Effect.run_bind_ok (checked_eq_ok (r := .error e).mpr hlogged)]
  · rw [hx] at h
    exact absurd rfl h
  · have hlogged : (onHeadset x).run b = (.ok a, { b with headset := h' }) := by
      rw [onHeadset, Effect.run_within, hx]
    rw [Effect.run_bind_ok (checked_eq_ok (r := .ok a).mpr hlogged)]

/-- Whether the camera is ready behind `sd_device_init`. -/
def Wake.ready {target : Target} (hw : Hardware) (w : Wake) (b : Board target) : Bool :=
  ((sdCameraInit hw.camera w.camera).run b.headset.camera).2.ready

/-- The data plane, where there is one. -/
lemma onward_eq_dataPlane (hw : Hardware) (p : Platform) (w : Wake) (cfg : SdConfig) {plane : DataPlane}
    (h : plane ≠ .absent) : onward hw p w cfg plane = dataPlane hw p w plane cfg := by
  cases plane with
  | absent => simp at h
  | selfTest => rfl
  | uplink => rfl

/-- **Up to its data plane** a boot loads the configuration and returns every frame it takes. -/
theorem appMain_run (hw : Hardware) (p : Platform) (w : Wake) (plane : DataPlane) {b : Board w.rig.target}
    (hc : b.headset.camera.current = none) : ∃ h, Settled b.headset h ∧ h.glasses = b.headset.glasses ∧
      h.camera.ready = w.ready hw b ∧
      (appMain hw p w plane).run b
        = (onward hw p w (w.config b) plane).run { b with flash := w.flash b, headset := h } := by
  have hflash : (initFlash w).run b = (.ok (), { b with flash := w.flash b }) := by
    simp only [initFlash, Wake.flash]
    split_ifs <;> rfl
  have hload : (bootConfig w).run { b with flash := w.flash b }
      = (.ok (w.config b), { b with flash := w.flash b }) := rfl
  obtain ⟨hinit, hglasses, hdefined⟩ := @sdDeviceInit_settled w.rig.target hw b.headset hc w.camera none
  have hcycle := @captureCycle_settled w.rig.target hw ((sdDeviceInit hw w.camera none).run b.headset).2
    hinit.current w.cycle
  refine ⟨_, Idle.trans hinit hcycle.1, ?_, ?_, ?_⟩
  · exact (keepsGlasses_captureCycle _ hw w.cycle _ rfl).trans hglasses
  · refine keepsReady_captureCycle hw w.cycle _ ?_
    rw [sdDeviceInit, onCamera, Effect.run_bind, Effect.run_within, Wake.ready]
    rcases (sdCameraInit hw.camera w.camera).run b.headset.camera with ⟨e | _, c⟩ <;> rfl
  · rw [appMain, Effect.run_bind_ok hflash, Effect.run_bind_ok hload,
      run_logged (b := { b with flash := w.flash b }) hdefined, run_logged hcycle.2]

/-- The same surroundings, with what the camera does. -/
def Rig.seeing (rig : Rig) (camera : Except SdErr (Capture rig.target)) : Rig := { rig with camera := camera }

/-- The surroundings of the turn, with the picture that the camera takes. -/
def turnRig (hw : Hardware) (w : Wake) (h : Headset w.rig.target) : Rig :=
  w.rig.seeing (exposure hw.camera w.shutter h.camera.ready)

lemma runTurn_run (hw : Hardware) (w : Wake) {h : Headset w.rig.target} (hc : h.camera.current = none) :
    ∃ c', (runTurn hw w).run h
        = (((sdDeviceRunUplink (turnRig hw w h) captureId responseCap).run h.glasses).1, { h with
          camera := c'
          glasses := ((sdDeviceRunUplink (turnRig hw w h) captureId responseCap).run h.glasses).2 }) ∧
      Idle h.camera c' := by
  unfold runTurn turnRig Rig.seeing
  exact uplinkOn_refines hw w.rig w.shutter captureId responseCap hc

lemma keeps_checked {σ α : Type} {P : σ → Prop} {x : Effect σ Halt α} (hx : x.Keeps P) : (checked x).Keeps P := by
  intro s hs
  have hkept := hx s hs
  rcases hrun : x.run s with ⟨(e | _) | a, s'⟩ <;> rw [hrun] at hkept <;> simpa only [checked, hrun] using hkept

/-- The frames are where they were after what is done over a connection. -/
lemma converse_settled (hw : Hardware) (w : Wake) (plane : DataPlane) {h : Headset w.rig.target}
    (hc : h.camera.current = none) : Settled h ((converse hw w plane).run h).2 := by
  cases plane with
  | absent => exact Idle.refl hc
  | selfTest => exact Idle.refl hc
  | uplink =>
      have hturn : (runTurn hw w).Keeps (Settled h) := by
        intro h₁ h₁settled
        obtain ⟨c', hrun, hidle⟩ := runTurn_run hw w h₁settled.current
        rw [hrun]
        exact Idle.trans h₁settled hidle
      exact ((keeps_checked hturn).bind fun _ => Effect.Keeps.pure _) h (Idle.refl hc)

/-- The host of a configuration that was loaded is a string. -/
lemma config_host {target : Target} (w : Wake) (b : Board target) :
    ∃ host, CStr.read (w.config b).atServerHost = some host := by
  have hsealed : (w.config b).serverHost.Sealed := (sealed_load _).serverHost
  have hzero : 0 ∈ (w.config b).atServerHost := List.mem_append_left _ (List.mem_of_getElem? hsealed)
  exact ⟨_, by rw [CStr.read, if_pos hzero]⟩

/-- What the attempts may wait for connections, in milliseconds: a timeout for each address. -/
def budget (w : Wake) (cfg : SdConfig) : ℕ :=
  match CStr.read cfg.atServerHost with
  | none => 0
  | some host => ((List.range' 1 connectAttempts).map fun n =>
      ((w.dials n).addresses host cfg.serverPort).length * sdConnectTimeoutMs).sum

lemma dialled_append (dials : ℕ → Dial) (host : CStr) (port : UInt16) (ns ms : List ℕ) :
    dialled dials host port (ns ++ ms) = dialled dials host port ns + dialled dials host port ms := by
  simp only [dialled, List.map_append, List.sum_append]

lemma backoff_append (ns ms : List ℕ) : backoff (ns ++ ms) = backoff ns + backoff ms := by
  simp only [backoff, List.map_append, List.sum_append]

lemma dialled_le {w : Wake} {cfg : SdConfig} {host : CStr} (hhost : CStr.read cfg.atServerHost = some host) :
    dialled w.dials host cfg.serverPort (List.range' 1 connectAttempts) ≤ budget w cfg := by
  rw [dialled, budget, hhost]
  exact List.sum_le_sum fun n _ => waitsFor_le _

/-- What is the same after a boot as before it, and how much time it may take. -/
structure Restored (w : Wake) (b : Board w.rig.target) (b' : Board w.rig.target) : Prop where
  flash : b'.flash = w.flash b
  camera : Settled b.headset b'.headset
  held : b'.held = { b.held with waited := b'.held.waited }
  waited : b'.held.waited ≤ b.held.waited + budget w (w.config b)
  delayed : b'.delayed ≤ b.delayed + backoff (List.range' 1 connectAttempts)

section Course

variable {hw : Hardware} {p : Platform} {w : Wake} {plane : DataPlane} {b b' : Board w.rig.target}
  {h : Headset w.rig.target} {report : Report}

/-- Whatever course the data plane takes. -/
lemma Course.restored (hsettled : Settled b.headset h)
    (hcourse : Course hw p w plane (w.config b) { b with flash := w.flash b, headset := h } (.ok report) b') :
    Restored w b b' := by
  cases hcourse with
  | netFailed down => exact ⟨rfl, hsettled, rfl, Nat.le_add_right _ _, Nat.le_add_right _ _⟩
  | noHost up unnamed => exact ⟨rfl, hsettled, rfl, Nat.le_add_right _ _, Nat.le_add_right _ _⟩
  | unreachable up named read none =>
      exact ⟨rfl, hsettled, rfl, Nat.add_le_add_left (dialled_le read) _, le_rfl⟩
  | @met net host before n t k _ h' met exchanged =>
      obtain ⟨after, hrange⟩ := met.attempts
      have hall : (before ++ [n]) ++ after = List.range' 1 connectAttempts := by
        rw [hrange, List.append_assoc, List.singleton_append]
      have hbudget := dialled_le (w := w) met.read
      have hexchange := converse_settled hw w plane (h := w.link.on h) hsettled.current
      rw [exchanged] at hexchange
      refine ⟨rfl, Idle.trans hsettled hexchange, rfl, ?_, ?_⟩
      · rw [← hall, dialled_append] at hbudget
        have hwaited := met.waited
        simp only at hwaited ⊢
        omega
      · rw [← hall, backoff_append, backoff_append]
        simp only
        omega

/-- With a configuration that was loaded, and Wi-Fi up, there is no fault but in the exchange. -/
lemma Fault.exchanged {b₁ : Board w.rig.target} (hfault : Fault hw p w plane (w.config b) b₁)
    (hup : ((sdNetStart (w.config b) w.bringup).run b₁.net).1 = .ok ()) :
    ((converse hw w plane).run (w.link.on b₁.headset)).1 = .error .undefined ∧
      ∃ net host before n t k, Met p w (w.config b) b₁ net host before n t k := by
  cases hfault with
  | start hstart =>
      rw [hup] at hstart
      simp at hstart
  | host hread =>
      obtain ⟨host, hhost⟩ := config_host w b
      rw [hhost] at hread
      simp at hread
  | talk met hexchanged => exact ⟨hexchanged, _, _, _, _, _, _, met⟩

/-- A connection that was made was made by an attempt that serves. -/
lemma Met.served {cfg : SdConfig} {net : Net} {host : CStr} {before : List ℕ} {n : ℕ} {t : Transport} {k : Held}
    (met : Met p w cfg b net host before n t k) :
    ∃ n ∈ List.range' 1 connectAttempts, (w.dials n).serves host cfg.serverPort := by
  obtain ⟨after, hrange⟩ := met.attempts
  exact ⟨n, hrange ▸ by simp, met.serves⟩

/-- Wi-Fi comes up, and some attempt reaches the server of the configuration. -/
structure FindsPhone (w : Wake) (b : Board w.rig.target) : Prop where
  up : ((sdNetStart (w.config b) w.bringup).run b.net).1 = .ok ()
  named : (w.config b).serverHost.bytes.headD 0 ≠ 0
  served : ∀ host, CStr.read (w.config b).atServerHost = some host →
    ∃ n ∈ List.range' 1 connectAttempts, (w.dials n).serves host (w.config b).serverPort

/-- A boot that reaches its server ends as the exchange with it does. -/
lemma FindsPhone.appMain_run {w : Wake} {b : Board w.rig.target} (hfinds : FindsPhone w b) (hw : Hardware)
    {plane : DataPlane} (hplane : plane ≠ .absent) {p : Platform} (hroom : b.held.Roomy p)
    (hc : b.headset.camera.current = none) : ∃ h, Settled b.headset h ∧ h.glasses = b.headset.glasses ∧
      h.camera.ready = w.ready hw b ∧ ∀ report h', (converse hw w plane).run (w.link.on h) = (.ok report, h') →
        ∃ b', (appMain hw p w plane).run b = (.ok report, b') ∧ b'.headset = h' := by
  obtain ⟨h, hsettled, hglasses, hready, hmain⟩ := Sudonit.appMain_run hw p w plane hc
  refine ⟨h, hsettled, hglasses, hready, ?_⟩
  intro report h' hconverse
  have hcourse := dataPlane_run hw p w plane (w.config b) (b := { b with flash := w.flash b, headset := h }) hroom
  rw [hmain, onward_eq_dataPlane hw p w _ hplane]
  rcases hresult : (dataPlane hw p w plane (w.config b)).run { b with flash := w.flash b, headset := h }
    with ⟨r, b'⟩
  rw [hresult] at hcourse
  have hup := hfinds.up
  cases hcourse with
  | undefined fault =>
      have hexchanged := (fault.exchanged hup).1
      rw [hconverse] at hexchanged
      simp at hexchanged
  | netFailed down =>
      rw [down] at hup
      simp at hup
  | noHost up unnamed => exact absurd unnamed hfinds.named
  | unreachable up named read none =>
      obtain ⟨n, hn, hserves⟩ := hfinds.served _ read
      exact absurd hserves (none n hn)
  | met met exchanged =>
      rw [hconverse] at exchanged
      obtain ⟨hreport, rfl⟩ := Prod.mk.inj exchanged
      exact ⟨_, by rw [Except.ok.inj hreport], rfl⟩

/-- The data plane looks for the server and no attempt could reach it. -/
def OutOfReach (w : Wake) (b : Board w.rig.target) : Prop :=
  ((sdNetStart (w.config b) w.bringup).run b.net).1 = .ok () ∧ (w.config b).serverHost.bytes.headD 0 ≠ 0 ∧
    ∀ host, CStr.read (w.config b).atServerHost = some host →
      ∀ n ∈ List.range' 1 connectAttempts, ¬ (w.dials n).serves host (w.config b).serverPort

/-- A boot that cannot reach its server says so, after all its delays. -/
lemma OutOfReach.appMain_run {w : Wake} {b : Board w.rig.target} (hout : OutOfReach w b) (hw : Hardware)
    {plane : DataPlane} (hplane : plane ≠ .absent) {p : Platform} (hroom : b.held.Roomy p)
    (hc : b.headset.camera.current = none) : ∃ b', (appMain hw p w plane).run b = (.ok .unreachable, b') ∧
      b'.delayed = b.delayed + backoff (List.range' 1 connectAttempts) := by
  obtain ⟨hup, hnamed, hnone⟩ := hout
  obtain ⟨h, -, -, -, hmain⟩ := Sudonit.appMain_run hw p w plane hc
  have hcourse := dataPlane_run hw p w plane (w.config b) (b := { b with flash := w.flash b, headset := h }) hroom
  rw [hmain, onward_eq_dataPlane hw p w _ hplane]
  rcases hresult : (dataPlane hw p w plane (w.config b)).run { b with flash := w.flash b, headset := h }
    with ⟨r, b'⟩
  rw [hresult] at hcourse
  cases hcourse with
  | undefined fault =>
      obtain ⟨net, host, before, n, t, k, met⟩ := (fault.exchanged hup).2
      obtain ⟨m, hm, hserves⟩ := met.served
      exact absurd hserves (hnone _ met.read m hm)
  | netFailed down =>
      rw [down] at hup
      simp at hup
  | noHost up unnamed => exact absurd unnamed hnamed
  | unreachable up named read none => exact ⟨_, rfl, rfl⟩
  | met met exchanged =>
      obtain ⟨m, hm, hserves⟩ := met.served
      exact absurd hserves (hnone _ met.read m hm)

lemma converse_ne_unreachable {h h' : Headset w.rig.target} :
    (converse hw w plane).run h ≠ (.ok .unreachable, h') := by
  intro hrun
  cases plane with
  | absent => simp [converse] at hrun
  | selfTest =>
      rw [converse, inGlasses, Effect.run_within, Prod.mk.injEq, selfTest, Effect.run_bind] at hrun
      rcases hanswer : (checked (sendPing >>= fun _ => recvType w)).run h.glasses with ⟨e' | answer, g⟩
      · simp [hanswer] at hrun
      · rw [hanswer] at hrun
        simp only [Effect.run_pure, Except.ok.injEq] at hrun
        split_ifs at hrun <;> simp at hrun
  | uplink =>
      rw [converse, Effect.run_bind] at hrun
      rcases hturn : (checked (runTurn hw w)).run h with ⟨e' | turn, h₁⟩
      · simp [hturn] at hrun
      · rw [hturn] at hrun
        cases turn <;> simp at hrun

lemma Course.unreachable_iff
    (hcourse : Course hw p w plane (w.config b) { b with flash := w.flash b, headset := h } (.ok report) b') :
    report = .unreachable ↔ OutOfReach w b := by
  cases hcourse with
  | netFailed down =>
      refine iff_of_false (by simp) ?_
      rintro ⟨hup, -⟩
      rw [down] at hup
      simp at hup
  | noHost up unnamed => exact iff_of_false (by simp) fun h => h.2.1 unnamed
  | unreachable up named read none =>
      refine iff_of_true rfl ⟨congrArg Prod.fst up, named, ?_⟩
      intro host hhost
      rw [read] at hhost
      exact Option.some.inj hhost ▸ none
  | met met exchanged =>
      refine iff_of_false ?_ ?_
      · rintro rfl
        exact converse_ne_unreachable exchanged
      · rintro ⟨-, -, hnone⟩
        obtain ⟨m, hm, hserves⟩ := met.served
        exact hnone _ met.read m hm hserves

/-- The start of Wi-Fi or what is done over the connection is undefined. -/
def Derailed (hw : Hardware) (w : Wake) (plane : DataPlane) (b : Board w.rig.target) : Prop :=
  ((sdNetStart (w.config b) w.bringup).run b.net).1 = .error .undefined ∨
    ∃ h, Settled b.headset h ∧ h.glasses = b.headset.glasses ∧
      ((converse hw w plane).run (w.link.on h)).1 = .error .undefined

/-- With a configuration that was loaded there is no other fault. -/
lemma Fault.derailed (hfault : Fault hw p w plane (w.config b) { b with flash := w.flash b, headset := h })
    (hsettled : Settled b.headset h) (hglasses : h.glasses = b.headset.glasses) : Derailed hw w plane b := by
  cases hfault with
  | start hstart => exact Or.inl hstart
  | host hread =>
      obtain ⟨host, hhost⟩ := config_host w b
      rw [hhost] at hread
      simp at hread
  | talk met hexchanged => exact Or.inr ⟨h, hsettled, hglasses, hexchanged⟩

end Course

/-- **A boot leaves nothing behind.**  Whatever the store, the camera, Wi-Fi, the network and the phone do, with
either data plane or none, a boot comes to an end, unless the start of Wi-Fi or the exchange with the phone does
something undefined.  Then every frame was returned, every socket, address list and handle that it opened is closed or
freed, it has waited at most five seconds for each address in each of at most five attempts, and it has slept at
most fifteen seconds behind them.  It calls the server unreachable exactly if it looked for it and no attempt
could reach it. -/
theorem boot_leaves_nothing (hw : Hardware) (p : Platform) (w : Wake) (plane : DataPlane)
    {b : Board w.rig.target} (hroom : b.held.Roomy p) (hc : b.headset.camera.current = none) :
    ∃ r b', (appMain hw p w plane).run b = (r, b') ∧
      ((r = .error .undefined ∧ Derailed hw w plane b) ∨
        ∃ report, r = .ok report ∧ Restored w b b' ∧
          (report = .unreachable ↔ plane ≠ .absent ∧ OutOfReach w b)) := by
  obtain ⟨h, hsettled, hglasses, -, hrun⟩ := Sudonit.appMain_run hw p w plane hc
  have hended : ∀ plane, plane ≠ .absent → ∃ r b',
      (dataPlane hw p w plane (w.config b)).run { b with flash := w.flash b, headset := h } = (r, b') ∧
      ((r = .error .undefined ∧ Derailed hw w plane b) ∨
        ∃ report, r = .ok report ∧ Restored w b b' ∧
          (report = .unreachable ↔ plane ≠ .absent ∧ OutOfReach w b)) := by
    intro plane hpresent
    have hcourse := dataPlane_run hw p w plane (w.config b)
      (b := { b with flash := w.flash b, headset := h }) hroom
    rcases hresult : (dataPlane hw p w plane (w.config b)).run { b with flash := w.flash b, headset := h }
      with ⟨r, b'⟩
    rw [hresult] at hcourse
    refine ⟨r, b', rfl, ?_⟩
    rcases r with (e | _) | report
    · cases hcourse
    · cases hcourse with
      | undefined hfault => exact Or.inl ⟨rfl, hfault.derailed hsettled hglasses⟩
    · refine Or.inr ⟨report, rfl, hcourse.restored hsettled, ?_⟩
      rw [hcourse.unreachable_iff, and_iff_right hpresent]
  rw [hrun]
  cases plane with
  | absent =>
      refine ⟨_, _, rfl, Or.inr ⟨.booted, rfl, ?_, by simp⟩⟩
      exact ⟨rfl, hsettled, rfl, Nat.le_add_right _ _, Nat.le_add_right _ _⟩
  | selfTest => exact hended .selfTest (by simp)
  | uplink => exact hended .uplink (by simp)

/-- A network name and a host. -/
def phoneConfig : SdConfig :=
  { namedConfig with serverHost := (Buffer.zeros _).put (ascii "phone" ++ [0]) (by decide) }

/-- The sensor's picture. -/
def cupGrab : Grab .esp32 := ⟨true, ⟨ascii "cup", by decide⟩, 800, 600⟩

/-- A target with its driver of the camera. -/
def bootRig : Rig where
  __ := plainRig
  target := .esp32
  backend := .mock
  camera := .error .unsupported

def cupPicture : Capture bootRig.target := ⟨⟨ascii "cup", by decide⟩, jpegMediaType⟩

/-- A boot that finds its phone at the second address. -/
def cupWake : Wake where
  erase := false
  store := ⟨.found, .found, true⟩
  camera := true
  rig := bootRig
  cycle := ⟨true, none⟩
  shutter := ⟨true, some cupGrab⟩
  bringup := { silent with waiting := [.gotIp] }
  dials _ := secondAnswers
  link := ⟨.cut (turnBytes speakingPhone (turnShot (bootRig.seeing (.ok cupPicture)) captureId cupPicture).image
    ⟨.fresh [], []⟩) [], .fresh []⟩
  heap := true
  typeBuf := Buffer.zeros _

/-- A device that was provisioned. -/
def cupBoard : Board cupWake.rig.target :=
  ⟨some (configBlob phoneConfig), ⟨⟨false, none, [], []⟩, 87, glassesOn []⟩, .initial, threeHeld, 0⟩

lemma config_cup : cupWake.config cupBoard = phoneConfig := by
  have hsealed : phoneConfig.Sealed := ⟨by rfl, by rfl, by rfl, by rfl⟩
  have hread : storeRead (.nvs cupWake.store) (cupWake.flash cupBoard) blobBytes
      = sdConfigStoreRead (configBlob phoneConfig) blobBytes := by
    have hlen : ¬ blobBytes < (configBlob phoneConfig).length := by
      rw [configBlob, (read_blob (length_octets phoneConfig)).2.1]
      exact lt_irrefl _
    simp only [Wake.flash, cupWake, cupBoard, Bool.false_eq_true, if_false, storeRead, nvsStoreRead, if_neg hlen,
      if_true, sdConfigStoreRead]
  rw [Wake.config, hread, load_saved hsealed]

/-- It reaches its phone. -/
lemma cup_finds : FindsPhone cupWake cupBoard := by
  have hhost : ∀ host, secondAnswers.serves host phoneConfig.serverPort := by
    intro host
    exact ⟨rfl, ⟨[2], ⟨true, true, true, .inProgress (.ready 3) true, true⟩⟩, by simp [secondAnswers, Dial.addresses],
      by decide⟩
  exact
    { up := by
        rw [config_cup]
        rfl
      named := by
        rw [config_cup]
        decide
      served := by
        rw [config_cup]
        exact fun host _ => ⟨1, by decide, hhost host⟩ }

lemma cupBoard_roomy : cupBoard.held.Roomy hostPlatform := by
  rw [Held.Roomy]
  decide

/-- A name whose addresses do not answer. -/
def noneAnswers : Dial := { secondAnswers with
  resolve := fun _ _ => some (List.replicate 2 ⟨[1], ⟨true, true, true, .inProgress .never true, true⟩⟩) }

/-- The same boot, with another capture in its cycle and on other networks. -/
def Wake.elsewhere (w : Wake) (cycle : Shutter w.rig.target) (dials : ℕ → Dial) : Wake :=
  { w with cycle := cycle, dials := dials }

lemma FindsPhone.outOfReach {w : Wake} {b : Board w.rig.target} (h : FindsPhone w b) (cycle : Shutter w.rig.target)
    {dials : ℕ → Dial} (hnone : ∀ n host port, ¬ (dials n).serves host port) :
    OutOfReach (w.elsewhere cycle dials) b :=
  ⟨h.up, h.named, fun _ _ n _ => hnone n _ _⟩

/-- A boot that takes a picture and does not find its phone. -/
def aloneWake : Wake := cupWake.elsewhere ⟨true, some cupGrab⟩ fun _ => noneAnswers

lemma alone_outOfReach : OutOfReach aloneWake cupBoard := by
  refine cup_finds.outOfReach _ ?_
  rintro n host port ⟨-, c, hc, hreached⟩
  obtain rfl := List.eq_of_mem_replicate (show c ∈ List.replicate 2 _ from hc)
  simp [Candidate.reached, Connecting.connects] at hreached

/-- It has given the frame back, closed every socket, and slept for fifteen seconds. -/
theorem boot_leaves_nothing_alone : ∃ b',
    (appMain ⟨.ov5640, .stub⟩ hostPlatform aloneWake .uplink).run cupBoard = (.ok .unreachable, b') ∧
      Restored aloneWake cupBoard b' ∧ OutOfReach aloneWake cupBoard ∧ b'.delayed = 15000 := by
  obtain ⟨r, b', hrun, hend⟩ :=
    boot_leaves_nothing ⟨.ov5640, .stub⟩ hostPlatform aloneWake .uplink cupBoard_roomy rfl
  obtain ⟨b'', hrun', hdelayed⟩ :=
    alone_outOfReach.appMain_run ⟨.ov5640, .stub⟩ (show .uplink ≠ DataPlane.absent by simp) cupBoard_roomy rfl
  obtain ⟨rfl, rfl⟩ := Prod.mk.inj (hrun.symm.trans hrun')
  rcases hend with ⟨hundefined, -⟩ | ⟨report, -, hrestored, -⟩
  · simp at hundefined
  · exact ⟨b', hrun, hrestored, alone_outOfReach, hdelayed⟩

end Sudonit
