import Mathlib.Data.List.Basic
import Sudonit.Device.Config

/-!
# `net_esp.c`: bringing up Wi-Fi

Three pieces of module state (the event group, the retry counter, the flag of a station that was started)
are written by `sd_net_start`, `sd_net_stop` and an event handler.  ESP-IDF is the environment: a `Bringup`
says what each of its calls returns and which events the handler gets before it does, so that quantifying
over bring-ups is quantifying over every interleaving.

* `netEventHandler`, `sdNetStart`, `sdNetStop` — the code.
* `Net.Counted` — what the retry counter counts, after any run: the disconnects since the last IP event.
* `bringUp_awaitIp_run` — what a bring-up reports and leaves, by the events it hears.
* `sdNetStart_truthful_iff` — when a start that returns `SD_OK` tells the truth.
* `net_truthful_iff` — over whole runs.
-/

namespace Sudonit

open Octets CText

/-! ## Module state and events -/

/-- The events the handler is registered for. -/
inductive NetEvent
  | staStart
  | disconnected
  | gotIp
  | other
  deriving DecidableEq, Repr

/-- `NET_CONNECTED_BIT` and `NET_FAILED_BIT` of an event group. -/
structure EventBits where
  connected : Bool
  failed : Bool

/-- The `sta` part of `wifi_config_t`. -/
structure StationConfig where
  ssid : Buffer 32
  password : Buffer 64

/-- What happened to the station: it was started, and what the handler did at each IP event and at each
disconnect. -/
inductive NetMark
  | stationStarted
  | gotIp
  | retried
  | exhausted
  deriving DecidableEq, Repr

/-- The module: `s_net_events`, `s_retries`, `s_started`, how often the handler is registered for either
kind of event, what the driver was configured with, call by call; and the history, which is no variable of the
code. -/
structure Net where
  events : Option EventBits
  retries : ℕ
  started : Bool
  wifiHandlers : ℕ
  ipHandlers : ℕ
  handed : List StationConfig
  log : List NetMark

/-- At boot. -/
def Net.initial : Net := ⟨none, 0, false, 0, 0, [], []⟩

/-- `NET_MAX_RETRY`. -/
def netMaxRetry : ℕ := 5

/-- `xEventGroupSetBits(s_net_events, _)`. -/
def setBits (f : EventBits → EventBits) : Effect Net Halt Unit := ⟨fun s =>
  match s.events with
  | none => (.error .undefined, s)
  | some bits => (.ok (), { s with events := some (f bits) })⟩

/-- `net_event_handler`.  `esp_wifi_connect` is not waited for. -/
def netEventHandler : NetEvent → Effect Net Halt Unit
  | .staStart => pure ()
  | .disconnected => ⟨fun s =>
      if s.retries < netMaxRetry then
        (.ok (), { s with retries := s.retries + 1, log := s.log ++ [.retried] })
      else (setBits fun bits => { bits with failed := true }).run { s with log := s.log ++ [.exhausted] }⟩
  | .gotIp => ⟨fun s =>
      (setBits fun bits => { bits with connected := true }).run
        { s with retries := 0, log := s.log ++ [.gotIp] }⟩
  | .other => pure ()

/-- How often the handler is registered for the event. -/
def Net.handlers (s : Net) : NetEvent → ℕ
  | .gotIp => s.ipHandlers
  | _ => s.wifiHandlers

/-- An event of the default loop. -/
def deliver (e : NetEvent) : Effect Net Halt Unit := ⟨fun s =>
  (Effect.forEach (fun _ => netEventHandler e) (List.range (s.handlers e))).run s⟩

def deliverAll (es : List NetEvent) : Effect Net Halt Unit := Effect.forEach deliver es

/-! ## Starting and stopping -/

/-- A call of ESP-IDF: the events delivered before it returns, and whether it returns `ESP_OK`. -/
structure IdfCall where
  before : List NetEvent
  ok : Bool

/-- What ESP-IDF does during one `sd_net_start`: its calls; the events from the start of the station to
the wait, during it, and from its end to the return. -/
structure Bringup where
  group : Bool
  netifInit : IdfCall
  eventLoop : IdfCall
  wifiInit : IdfCall
  wifiHandler : IdfCall
  ipHandler : IdfCall
  setMode : IdfCall
  setConfig : IdfCall
  wifiStart : IdfCall
  starting : List NetEvent
  waiting : List NetEvent
  returning : List NetEvent

/-- `xEventGroupCreate`. -/
def createGroup (ok : Bool) : Effect Net Halt Unit := ⟨fun s =>
  if ok then (.ok (), { s with events := some ⟨false, false⟩ })
  else (.error (.code .noMem), { s with events := none })⟩

/-- A call whose result is checked. -/
def callIdf (c : IdfCall) (done : Net → Net) : Effect Net Halt Unit := do
  deliverAll c.before
  if c.ok then ⟨fun s => (.ok (), done s)⟩ else Effect.fail (.code .io)

/-- `esp_event_handler_instance_register`, its result ignored. -/
def registerHandler (c : IdfCall) (done : Net → Net) : Effect Net Halt Unit := do
  deliverAll c.before
  if c.ok then ⟨fun s => (.ok (), done s)⟩ else pure ()

/-- `strncpy` into an array of zeros. -/
def strncpyZeros (size n : ℕ) (src : Bytes) : Buffer size :=
  Buffer.front size ((src.takeWhile (· ≠ 0)).take n)

/-- The configuration of the station. -/
def stationConfig (cfg : SdConfig) : StationConfig where
  ssid := strncpyZeros 32 31 cfg.wifiSsid.bytes
  password := strncpyZeros 64 63 cfg.wifiPassword.bytes

/-- `sd_net_start` up to `s_started = 1`. -/
def bringUp (cfg : SdConfig) (b : Bringup) : Effect Net Halt Unit := do
  createGroup b.group
  callIdf b.netifInit id
  callIdf b.eventLoop id
  callIdf b.wifiInit id
  registerHandler b.wifiHandler fun s => { s with wifiHandlers := s.wifiHandlers + 1 }
  registerHandler b.ipHandler fun s => { s with ipHandlers := s.ipHandlers + 1 }
  callIdf b.setMode id
  callIdf b.setConfig fun s => { s with handed := s.handed ++ [stationConfig cfg] }
  callIdf b.wifiStart fun s => { s with started := true, log := s.log ++ [.stationStarted] }

/-- `xEventGroupWaitBits`: the bits as soon as one of them is set, or when the time is over, and the events
not delivered by then. -/
def waitBits : List NetEvent → Effect Net Halt (EventBits × List NetEvent)
  | [] => ⟨fun s =>
      match s.events with
      | none => (.error .undefined, s)
      | some bits => (.ok (bits, []), s)⟩
  | e :: es => ⟨fun s =>
      match s.events with
      | none => (.error .undefined, s)
      | some bits =>
          if bits.connected ∨ bits.failed then (.ok (bits, e :: es), s)
          else (do
            deliver e
            waitBits es).run s⟩

/-- The wait and the result. -/
def awaitIp (b : Bringup) : Effect Net Halt Unit := do
  deliverAll b.starting
  let woken ← waitBits b.waiting
  deliverAll (woken.2 ++ b.returning)
  if woken.1.connected then pure () else Effect.fail (.code .io)

/-- `sd_net_start`. -/
def sdNetStart (cfg : SdConfig) (b : Bringup) : Effect Net Halt Unit := ⟨fun s =>
  if cfg.wifiSsid.bytes.headD 0 = 0 then (.error (.code .invalid), s)
  else if s.started then (.ok (), s)
  else (do
    bringUp cfg b
    awaitIp b).run s⟩

/-- `sd_net_stop`. -/
def sdNetStop : Effect Net Halt Unit := ⟨fun s => (.ok (), { s with started := false })⟩

/-! ## Runs -/

/-- What happens to the module: calls of the application, and events between them. -/
inductive NetOp
  | start (cfg : SdConfig) (b : Bringup)
  | stop
  | events (es : List NetEvent)

def NetOp.effect : NetOp → Effect Net Halt Unit
  | .start cfg b => sdNetStart cfg b
  | .stop => sdNetStop
  | .events es => deliverAll es

/-- The state after some operations, if nothing undefined happened. -/
def reached : List NetOp → Net → Option Net
  | [], s => some s
  | op :: ops, s =>
      match op.effect.run s with
      | (.error .undefined, _) => none
      | (_, s') => reached ops s'

/-- The link is usable: an IP event came since the station was last started, and no disconnect behind it has
exhausted the retries. -/
def Usable (log : List NetMark) : Prop :=
  ∃ pre post, log = pre ++ .gotIp :: post ∧ .stationStarted ∈ pre ∧ .stationStarted ∉ post ∧
    .exhausted ∉ post

/-- In the run every start that returned `SD_OK` left a usable link. -/
def Truthful (ops : List NetOp) : Prop :=
  ∀ pre cfg b post, ops = pre ++ .start cfg b :: post → ∀ s, reached pre Net.initial = some s →
    ∀ s', (sdNetStart cfg b).run s = (.ok (), s') → Usable s'.log

/-! ## What the retry counter counts -/

/-- How many disconnects the handler got. -/
def disconnects (marks : List NetMark) : ℕ := marks.countP fun m => m = .retried ∨ m = .exhausted

/-- An IP event came since the station was last started, and few enough disconnects behind it. -/
def Live (log : List NetMark) : Prop :=
  ∃ pre post, log = pre ++ .gotIp :: post ∧ .stationStarted ∈ pre ∧ .stationStarted ∉ post ∧
    disconnects post ≤ netMaxRetry

/-- The counter stays within its limit; and behind the last IP event it counts disconnects up to that, and the
handler has given up when there were more. -/
structure Net.Counted (s : Net) : Prop where
  limit : s.retries ≤ netMaxRetry
  count : ∀ pre post, s.log = pre ++ .gotIp :: post → .gotIp ∉ post →
    s.retries = min (disconnects post) netMaxRetry ∧ (.exhausted ∈ post ↔ netMaxRetry < disconnects post)

lemma counted_initial : Net.initial.Counted where
  limit := Nat.zero_le _
  count pre post h := by simp [Net.initial] at h

lemma disconnects_concat (marks : List NetMark) (m : NetMark) :
    disconnects (marks ++ [m]) = disconnects marks + if m = .retried ∨ m = .exhausted then 1 else 0 := by
  rw [disconnects, List.countP_append, ← disconnects, List.countP_singleton]
  simp

/-- A mark behind the log is behind its last IP event. -/
lemma concat_split {log pre post : List NetMark} {m : NetMark} (hm : m ≠ .gotIp)
    (h : log ++ [m] = pre ++ .gotIp :: post) : ∃ post', post = post' ++ [m] ∧ log = pre ++ .gotIp :: post' := by
  rcases List.eq_nil_or_concat post with rfl | ⟨post', x, rfl⟩
  · exact absurd (List.append_inj' h rfl).2 (by simpa using hm)
  · rw [List.concat_eq_append, ← List.cons_append, ← List.append_assoc] at h
    obtain ⟨hlog, hx⟩ := List.append_inj' h rfl
    exact ⟨post', by rw [List.concat_eq_append, hx], hlog⟩

/-- A disconnect, counted. -/
lemma Net.Counted.disconnected {s s' : Net} {m : NetMark} (h : s.Counted) (hm : m = .retried ∨ m = .exhausted)
    (hlog : s'.log = s.log ++ [m])
    (hcount : s.retries < netMaxRetry ∧ m = .retried ∧ s'.retries = s.retries + 1 ∨
      netMaxRetry ≤ s.retries ∧ m = .exhausted ∧ s'.retries = s.retries) : s'.Counted := by
  have hlimit := h.limit
  refine ⟨by omega, fun pre post hsplit hpost => ?_⟩
  rw [hlog] at hsplit
  obtain ⟨post', rfl, hold⟩ := concat_split (by rcases hm with rfl | rfl <;> decide) hsplit
  obtain ⟨hretries, hexhausted⟩ := h.count pre post' hold fun hin => hpost (List.mem_append_left _ hin)
  rw [disconnects_concat, if_pos hm, List.mem_append, List.mem_singleton, hexhausted]
  rcases hcount with ⟨hlt, rfl, hnext⟩ | ⟨hge, rfl, hnext⟩
  · have hno : ¬ NetMark.exhausted = .retried := by decide
    simp only [hno, or_false]
    omega
  · simp only [or_true, true_iff]
    omega

/-- An IP event starts the count again. -/
lemma Net.Counted.gotIp {s' : Net} {log : List NetMark} (hlog : s'.log = log ++ [.gotIp])
    (hretries : s'.retries = 0) : s'.Counted := by
  refine ⟨by omega, fun pre post hsplit hpost => ?_⟩
  rw [hlog] at hsplit
  rcases List.eq_nil_or_concat post with rfl | ⟨post', x, rfl⟩
  · simp [disconnects, hretries]
  · rw [List.concat_eq_append, ← List.cons_append, ← List.append_assoc] at hsplit
    obtain ⟨-, hx⟩ := List.append_inj' hsplit rfl
    rw [List.singleton_inj] at hx
    exact absurd (by simp [hx]) hpost

/-- A mark that is no disconnect. -/
lemma Net.Counted.other {s s' : Net} (h : s.Counted) (hlog : s'.log = s.log ++ [.stationStarted])
    (hretries : s'.retries = s.retries) : s'.Counted := by
  refine ⟨hretries ▸ h.limit, fun pre post hsplit hpost => ?_⟩
  rw [hlog] at hsplit
  obtain ⟨post', rfl, hold⟩ := concat_split (by decide) hsplit
  obtain ⟨hcount, hexhausted⟩ := h.count pre post' hold fun hin => hpost (List.mem_append_left _ hin)
  rw [disconnects_concat, List.mem_append, hexhausted, hretries, hcount]
  simp

lemma Net.Counted.same {s s' : Net} (h : s.Counted) (hlog : s'.log = s.log) (hretries : s'.retries = s.retries) :
    s'.Counted := by
  refine ⟨hretries ▸ h.limit, fun pre post hsplit hpost => ?_⟩
  rw [hretries]
  exact h.count pre post (hlog ▸ hsplit) hpost

/-- **The two conditions agree on every state reached.** -/
theorem usable_iff_live {s : Net} (h : s.Counted) : Usable s.log ↔ Live s.log := by
  -- Both may be taken at the last IP event.
  have last : ∀ pre post, s.log = pre ++ .gotIp :: post → ∃ pre' post', s.log = pre' ++ .gotIp :: post' ∧
      .gotIp ∉ post' ∧ pre <+: pre' ∧ post' <:+ post := by
    intro pre post hlog
    by_cases hin : NetMark.gotIp ∈ post
    · obtain ⟨x, y, hxy, hx⟩ := List.eq_append_cons_of_mem (List.mem_reverse.mpr hin)
      have hpost : post = y.reverse ++ .gotIp :: x.reverse := by
        rw [← List.reverse_reverse post, hxy]
        simp
      refine ⟨pre ++ .gotIp :: y.reverse, x.reverse, ?_, by simpa using hx, List.prefix_append _ _, ?_⟩
      · rw [hlog, hpost]
        simp
      · exact ⟨y.reverse ++ [.gotIp], by rw [hpost]; simp⟩
    · exact ⟨pre, post, hlog, hin, List.prefix_rfl, List.suffix_rfl⟩
  constructor
  · rintro ⟨pre, post, hlog, hstarted, hnone, hexhausted⟩
    obtain ⟨pre', post', hlog', hlast, hpre, hpost⟩ := last pre post hlog
    refine ⟨pre', post', hlog', hpre.subset hstarted, fun hin => hnone (hpost.subset hin), ?_⟩
    have := (h.count pre' post' hlog' hlast).2
    by_contra hmany
    exact hexhausted (hpost.subset (this.mpr (by omega)))
  · rintro ⟨pre, post, hlog, hstarted, hnone, hfew⟩
    obtain ⟨pre', post', hlog', hlast, hpre, hpost⟩ := last pre post hlog
    refine ⟨pre', post', hlog', hpre.subset hstarted, fun hin => hnone (hpost.subset hin), ?_⟩
    rw [(h.count pre' post' hlog' hlast).2]
    have hle : disconnects post' ≤ disconnects post := hpost.sublist.countP_le
    omega

/-! ## Every run counts -/

lemma keeps_setBits {P : Net → Prop} (f : EventBits → EventBits)
    (h : ∀ s bits, s.events = some bits → P s → P { s with events := some (f bits) }) :
    Effect.Keeps P (setBits f) := by
  intro s hs
  rw [setBits]
  cases hbits : s.events with
  | none => simpa [hbits] using hs
  | some bits => simpa [hbits] using h s bits hbits hs

lemma counted_setBits (f : EventBits → EventBits) : Effect.Keeps Net.Counted (setBits f) :=
  keeps_setBits f fun _ _ _ h => h.same rfl rfl

lemma counted_netEventHandler (e : NetEvent) : Effect.Keeps Net.Counted (netEventHandler e) := by
  cases e with
  | staStart => exact Effect.Keeps.pure ()
  | other => exact Effect.Keeps.pure ()
  | gotIp => exact fun s _ => counted_setBits _ _ (@Net.Counted.gotIp _ s.log rfl rfl)
  | disconnected =>
      intro s h
      rw [netEventHandler]
      simp only
      split_ifs with hlt
      · exact h.disconnected (m := .retried) (by decide) rfl (Or.inl ⟨hlt, rfl, rfl⟩)
      · exact counted_setBits _ _
          (h.disconnected (m := .exhausted) (by decide) rfl (Or.inr ⟨by omega, rfl, rfl⟩))

/-- What the handler keeps is kept by every delivery. -/
lemma keeps_deliver {P : Net → Prop} (h : ∀ e, Effect.Keeps P (netEventHandler e)) (e : NetEvent) :
    Effect.Keeps P (deliver e) :=
  fun s hs => Effect.Keeps.forEach (fun _ => h e) (List.range (s.handlers e)) s hs

lemma keeps_deliverAll {P : Net → Prop} (h : ∀ e, Effect.Keeps P (netEventHandler e)) (es : List NetEvent) :
    Effect.Keeps P (deliverAll es) :=
  Effect.Keeps.forEach (keeps_deliver h) es

lemma keeps_callIdf {P : Net → Prop} (h : ∀ e, Effect.Keeps P (netEventHandler e)) (c : IdfCall)
    {done : Net → Net} (hdone : ∀ s, P s → P (done s)) : Effect.Keeps P (callIdf c done) := by
  refine (keeps_deliverAll h c.before).bind fun _ => ?_
  split_ifs
  · exact hdone
  · exact Effect.Keeps.fail _

lemma keeps_registerHandler {P : Net → Prop} (h : ∀ e, Effect.Keeps P (netEventHandler e)) (c : IdfCall)
    {done : Net → Net} (hdone : ∀ s, P s → P (done s)) : Effect.Keeps P (registerHandler c done) := by
  refine (keeps_deliverAll h c.before).bind fun _ => ?_
  split_ifs
  · exact hdone
  · exact Effect.Keeps.pure ()

lemma keeps_waitBits {P : Net → Prop} (h : ∀ e, Effect.Keeps P (netEventHandler e)) (es : List NetEvent) :
    Effect.Keeps P (waitBits es) := by
  induction es with
  | nil =>
      intro s hs
      rw [waitBits]
      cases hbits : s.events <;> simpa [hbits] using hs
  | cons e es ih =>
      intro s hs
      rw [waitBits]
      cases hbits : s.events with
      | none => simpa [hbits] using hs
      | some bits =>
          simp only [hbits]
          split_ifs
          · exact hs
          · exact ((keeps_deliver h e).bind fun _ => ih) s hs

lemma keeps_awaitIp {P : Net → Prop} (h : ∀ e, Effect.Keeps P (netEventHandler e)) (b : Bringup) :
    Effect.Keeps P (awaitIp b) := by
  refine (keeps_deliverAll h _).bind fun _ => (keeps_waitBits h _).bind fun woken =>
    (keeps_deliverAll h _).bind fun _ => ?_
  split_ifs
  · exact Effect.Keeps.pure ()
  · exact Effect.Keeps.fail _

/-- What the handler keeps is kept by the setup behind the creation of the group, if the setup's own
changes keep it. -/
structure KeptBySetup (P : Net → Prop) (cfg : SdConfig) : Prop where
  handler : ∀ e, Effect.Keeps P (netEventHandler e)
  wifiHandlers : ∀ s n, P s → P { s with wifiHandlers := n }
  ipHandlers : ∀ s n, P s → P { s with ipHandlers := n }
  handed : ∀ s, P s → P { s with handed := s.handed ++ [stationConfig cfg] }
  started : ∀ s, P s → P { s with started := true, log := s.log ++ [.stationStarted] }

/-- `bringUp` behind `xEventGroupCreate`. -/
lemma keeps_setup {P : Net → Prop} {cfg : SdConfig} (h : KeptBySetup P cfg) (b : Bringup)
    {x : Effect Net Halt Unit} (hx : Effect.Keeps P x) : Effect.Keeps P (do
      x
      callIdf b.netifInit id
      callIdf b.eventLoop id
      callIdf b.wifiInit id
      registerHandler b.wifiHandler fun s => { s with wifiHandlers := s.wifiHandlers + 1 }
      registerHandler b.ipHandler fun s => { s with ipHandlers := s.ipHandlers + 1 }
      callIdf b.setMode id
      callIdf b.setConfig fun s => { s with handed := s.handed ++ [stationConfig cfg] }
      callIdf b.wifiStart fun s => { s with started := true, log := s.log ++ [.stationStarted] }) :=
  hx.bind fun _ => (keeps_callIdf h.handler _ fun _ => id).bind fun _ =>
    (keeps_callIdf h.handler _ fun _ => id).bind fun _ =>
    (keeps_callIdf h.handler _ fun _ => id).bind fun _ =>
    (keeps_registerHandler h.handler _ fun s => h.wifiHandlers s _).bind fun _ =>
    (keeps_registerHandler h.handler _ fun s => h.ipHandlers s _).bind fun _ =>
    (keeps_callIdf h.handler _ fun _ => id).bind fun _ =>
    (keeps_callIdf h.handler _ h.handed).bind fun _ => keeps_callIdf h.handler _ h.started

lemma counted_setup (cfg : SdConfig) : KeptBySetup Net.Counted cfg where
  handler := counted_netEventHandler
  wifiHandlers _ _ h := h.same rfl rfl
  ipHandlers _ _ h := h.same rfl rfl
  handed _ h := h.same rfl rfl
  started _ h := h.other rfl rfl

lemma counted_bringUp (cfg : SdConfig) (b : Bringup) : Effect.Keeps Net.Counted (bringUp cfg b) := by
  refine keeps_setup (counted_setup cfg) b ?_
  intro s h
  rw [createGroup]
  cases b.group <;> exact h.same rfl rfl

/-- **Every operation keeps the count.** -/
theorem counted_step (op : NetOp) : Effect.Keeps Net.Counted op.effect := by
  cases op with
  | stop => exact fun s h => h.same rfl rfl
  | events es => exact keeps_deliverAll counted_netEventHandler es
  | start cfg b =>
      intro s h
      simp only [NetOp.effect, sdNetStart]
      split_ifs
      · exact h
      · exact h
      · exact ((counted_bringUp cfg b).bind fun _ => keeps_awaitIp counted_netEventHandler b) s h

/-- **Every state reached is counted.** -/
theorem counted_reached {ops : List NetOp} {s s' : Net} (h : s.Counted) (hrun : reached ops s = some s') :
    s'.Counted := by
  induction ops generalizing s with
  | nil => exact Option.some.inj hrun ▸ h
  | cons op ops ih =>
      have hstep := counted_step op s h
      rw [reached] at hrun
      rcases hop : op.effect.run s with ⟨(e | _) | _, s₁⟩
      · rw [hop] at hrun hstep
        exact ih hstep hrun
      · rw [hop] at hrun
        simp at hrun
      · rw [hop] at hrun hstep
        exact ih hstep hrun

/-! ## What a bring-up hears -/

/-- What the handler hears of these events, with so many registrations for Wi-Fi and for IP events. -/
def heardOf (wifi ip : ℕ) (es : List NetEvent) : List NetEvent :=
  es.flatMap fun
    | .disconnected => List.replicate wifi .disconnected
    | .gotIp => List.replicate ip .gotIp
    | _ => []

/-- Behind what was heard an IP event comes while there are retries left. -/
def InTime (retries : ℕ) (heard es : List NetEvent) : Prop :=
  ∃ pre post, es = pre ++ .gotIp :: post ∧ retries + (heard ++ pre).count .disconnected ≤ netMaxRetry

namespace Bringup

/-- How often the handler is registered once the station is started. -/
def wifi (b : Bringup) (s : Net) : ℕ := s.wifiHandlers + if b.wifiHandler.ok then 1 else 0

def ip (b : Bringup) (s : Net) : ℕ := s.ipHandlers + if b.ipHandler.ok then 1 else 0

/-- What it hears from the creation of the event group to the start of the station. -/
def early (b : Bringup) (s : Net) : List NetEvent :=
  heardOf s.wifiHandlers s.ipHandlers
      (b.netifInit.before ++ b.eventLoop.before ++ b.wifiInit.before ++ b.wifiHandler.before) ++
    heardOf (b.wifi s) s.ipHandlers b.ipHandler.before ++
    heardOf (b.wifi s) (b.ip s) (b.setMode.before ++ b.setConfig.before ++ b.wifiStart.before)

/-- What it hears of events behind the start of the station. -/
def late (b : Bringup) (s : Net) (es : List NetEvent) : List NetEvent := heardOf (b.wifi s) (b.ip s) es

/-- Every call whose result is checked succeeds. -/
structure Succeeds (b : Bringup) : Prop where
  group : b.group = true
  netifInit : b.netifInit.ok = true
  eventLoop : b.eventLoop.ok = true
  wifiInit : b.wifiInit.ok = true
  setMode : b.setMode.ok = true
  setConfig : b.setConfig.ok = true
  wifiStart : b.wifiStart.ok = true

/-- An IP event is heard between the creation of the event group and the end of the wait: before the wait, or
during it while there are retries left. -/
def Connects (b : Bringup) (s : Net) : Prop :=
  .gotIp ∈ b.early s ++ b.late s b.starting ∨
    InTime s.retries (b.early s ++ b.late s b.starting) (b.late s b.waiting)

/-- Of what is heard between the start of the station and the return, few enough disconnects are behind an IP
event. -/
def Lasts (b : Bringup) (s : Net) : Prop :=
  ∃ pre post, b.late s (b.starting ++ b.waiting ++ b.returning) = pre ++ .gotIp :: post ∧
    post.count .disconnected ≤ netMaxRetry

end Bringup

/-- A start of a station already started finds it live; and where every call of a bring-up succeeds, an IP event
that ends its wait is not undone by its return. -/
def MayReport (cfg : SdConfig) (b : Bringup) (s : Net) : Prop :=
  cfg.wifiSsid.bytes.headD 0 ≠ 0 →
    (s.started = true → Live s.log) ∧ (s.started = false → b.Succeeds → b.Connects s → b.Lasts s)

@[simp] lemma heardOf_nil (wifi ip : ℕ) : heardOf wifi ip [] = [] := rfl

lemma heardOf_append (wifi ip : ℕ) (es es' : List NetEvent) :
    heardOf wifi ip (es ++ es') = heardOf wifi ip es ++ heardOf wifi ip es' :=
  List.flatMap_append

lemma heardOf_cons (wifi ip : ℕ) (e : NetEvent) (es : List NetEvent) :
    heardOf wifi ip (e :: es) = heardOf wifi ip [e] ++ heardOf wifi ip es :=
  heardOf_append wifi ip [e] es

lemma mem_heardOf {wifi ip : ℕ} {es : List NetEvent} {e : NetEvent} (h : e ∈ heardOf wifi ip es) :
    e = .disconnected ∨ e = .gotIp := by
  obtain ⟨e', -, he⟩ := List.mem_flatMap.mp h
  cases e' with
  | staStart | other => simp at he
  | disconnected => exact Or.inl (List.eq_of_mem_replicate he)
  | gotIp => exact Or.inr (List.eq_of_mem_replicate he)

/-- The handler, where there is an event group. -/
def Net.hear (s : Net) : NetEvent → Net
  | .disconnected =>
      if s.retries < netMaxRetry then { s with retries := s.retries + 1, log := s.log ++ [.retried] }
      else { s with
        events := s.events.map fun bits => { bits with failed := true }
        log := s.log ++ [.exhausted] }
  | .gotIp => { s with
      events := s.events.map fun bits => { bits with connected := true }
      retries := 0
      log := s.log ++ [.gotIp] }
  | _ => s

lemma Net.hear_handlers (s : Net) (e : NetEvent) :
    (s.hear e).wifiHandlers = s.wifiHandlers ∧ (s.hear e).ipHandlers = s.ipHandlers ∧
      (s.hear e).events.isSome = s.events.isSome := by
  cases e with
  | disconnected =>
      simp only [Net.hear]
      split_ifs <;> simp
  | gotIp => simp [Net.hear]
  | _ => simp [Net.hear]

lemma run_netEventHandler {s : Net} (h : s.events.isSome = true) (e : NetEvent) :
    (netEventHandler e).run s = (.ok (), s.hear e) := by
  obtain ⟨bits, hbits⟩ := Option.isSome_iff_exists.mp h
  cases e with
  | disconnected =>
      simp only [netEventHandler, Net.hear, setBits, hbits, Option.map_some]
      split_ifs <;> rfl
  | gotIp => simp only [netEventHandler, Net.hear, setBits, hbits, Option.map_some]
  | _ => rfl

lemma run_deliver {s : Net} (h : s.events.isSome = true) (e : NetEvent) :
    (deliver e).run s = (.ok (), (heardOf s.wifiHandlers s.ipHandlers [e]).foldl Net.hear s) := by
  have handled : ∀ (ns : List ℕ) (s : Net), s.events.isSome = true →
      (Effect.forEach (fun _ => netEventHandler e) ns).run s
        = (.ok (), (List.replicate ns.length e).foldl Net.hear s) := by
    intro ns
    induction ns with
    | nil => exact fun _ _ => rfl
    | cons n ns ih =>
        intro s hs
        rw [Effect.forEach_cons, Effect.run_bind_ok (run_netEventHandler hs e),
          ih _ ((s.hear_handlers e).2.2.trans hs)]
        rfl
  have idle : ∀ n, s.hear e = s → (List.replicate n e).foldl Net.hear s = s := by
    intro n hidle
    induction n with
    | zero => rfl
    | succ n ih => rw [List.replicate_succ, List.foldl_cons, hidle, ih]
  rw [deliver, handled _ _ h, List.length_range]
  cases e with
  | staStart | other => exact congrArg (Prod.mk _) (idle _ rfl)
  | disconnected | gotIp => simp [heardOf, Net.handlers]

lemma foldl_hear_handlers (s : Net) (es : List NetEvent) :
    (es.foldl Net.hear s).wifiHandlers = s.wifiHandlers ∧ (es.foldl Net.hear s).ipHandlers = s.ipHandlers ∧
      (es.foldl Net.hear s).events.isSome = s.events.isSome := by
  induction es generalizing s with
  | nil => exact ⟨rfl, rfl, rfl⟩
  | cons e es ih =>
      obtain ⟨hwifi, hip, hevents⟩ := s.hear_handlers e
      rw [List.foldl_cons, (ih _).1, (ih _).2.1, (ih _).2.2]
      exact ⟨hwifi, hip, hevents⟩

/-- **Deliveries** change the state by what the handler hears of them. -/
lemma run_deliverAll {s : Net} (h : s.events.isSome = true) (es : List NetEvent) :
    (deliverAll es).run s = (.ok (), (heardOf s.wifiHandlers s.ipHandlers es).foldl Net.hear s) := by
  rw [deliverAll]
  induction es generalizing s with
  | nil => rfl
  | cons e es ih =>
      obtain ⟨hwifi, hip, hevents⟩ := foldl_hear_handlers s (heardOf s.wifiHandlers s.ipHandlers [e])
      rw [Effect.forEach_cons, Effect.run_bind_ok (run_deliver h e), ih (hevents.trans h), hwifi, hip,
        heardOf_cons _ _ e es, List.foldl_append]

/-- Since the event group was created, with so many retries, the handler has heard this. -/
structure Net.Told (retries wifi ip : ℕ) (heard : List NetEvent) (s : Net) : Prop where
  group : ∃ bits, s.events = some bits ∧ (bits.connected = true ↔ .gotIp ∈ heard) ∧
    (.gotIp ∉ heard → (bits.failed = true ↔ netMaxRetry < retries + heard.count .disconnected))
  retries : .gotIp ∉ heard → s.retries = min (retries + heard.count .disconnected) netMaxRetry
  wifi : s.wifiHandlers = wifi
  ip : s.ipHandlers = ip

section Told

variable {r wifi ip : ℕ} {heard : List NetEvent} {s : Net}

lemma Net.Told.hear (h : s.Told r wifi ip heard) (e : NetEvent) : (s.hear e).Told r wifi ip (heard ++ [e]) := by
  obtain ⟨bits, hbits, hconnected, hfailed⟩ := h.group
  have hretries := h.retries
  cases e with
  | gotIp => exact ⟨⟨_, by rw [Net.hear, hbits]; rfl, by simp, by simp⟩, by simp, h.wifi, h.ip⟩
  | staStart | other =>
      simp only [Net.hear]
      exact ⟨⟨bits, hbits, by simpa using hconnected, by simpa using hfailed⟩, by simpa using hretries, h.wifi, h.ip⟩
  | disconnected =>
      have hmem : NetEvent.gotIp ∈ heard ++ [.disconnected] ↔ .gotIp ∈ heard := by simp
      have hcount : (heard ++ [NetEvent.disconnected]).count .disconnected = heard.count .disconnected + 1 := by
        simp
      simp only [Net.hear]
      split_ifs with hlt
      · refine ⟨⟨bits, hbits, by rw [hmem, hconnected], fun hno => ?_⟩, fun hno => ?_, h.wifi, h.ip⟩
        all_goals
          rw [hmem] at hno
          have := hretries hno
        · rw [hfailed hno, hcount]
          omega
        · rw [hcount]
          simp only
          omega
      · refine ⟨⟨_, by rw [hbits]; rfl, by rw [hmem]; exact hconnected, fun hno => ?_⟩, fun hno => ?_, h.wifi, h.ip⟩
        all_goals
          rw [hmem] at hno
          have := hretries hno
        · rw [hcount]
          simp only [true_iff]
          omega
        · rw [hcount]
          simp only
          omega

lemma Net.Told.foldl (h : s.Told r wifi ip heard) (es : List NetEvent) :
    (es.foldl Net.hear s).Told r wifi ip (heard ++ es) := by
  induction es generalizing heard s with
  | nil => simpa using h
  | cons e es ih => simpa using ih (h.hear e)

lemma Net.Told.isSome (h : s.Told r wifi ip heard) : s.events.isSome = true := by
  obtain ⟨bits, hbits, -⟩ := h.group
  rw [hbits]
  rfl

/-- Deliveries, told. -/
lemma Net.Told.run_deliverAll (h : s.Told r wifi ip heard) (es : List NetEvent) :
    (deliverAll es).run s = (.ok (), (heardOf wifi ip es).foldl Net.hear s) := by
  rw [Sudonit.run_deliverAll h.isSome, h.wifi, h.ip]

/-- A call that succeeds, told. -/
lemma Net.Told.run_callIdf (h : s.Told r wifi ip heard) {c : IdfCall} (hok : c.ok = true) (done : Net → Net) :
    (callIdf c done).run s = (.ok (), done ((heardOf wifi ip c.before).foldl Net.hear s)) := by
  rw [callIdf, Effect.run_bind_ok (h.run_deliverAll _), if_pos hok]

lemma Net.Told.run_registerHandler (h : s.Told r wifi ip heard) (c : IdfCall) (done : Net → Net) :
    (registerHandler c done).run s = (.ok (), (if c.ok then done else id)
      ((heardOf wifi ip c.before).foldl Net.hear s)) := by
  rw [registerHandler, Effect.run_bind_ok (h.run_deliverAll _)]
  split_ifs <;> rfl

/-- A call that succeeds and changes nothing that is told of. -/
lemma Net.Told.callIdf (h : s.Told r wifi ip heard) {c : IdfCall} (hok : c.ok = true) (handed : Net → Net)
    (hsame : ∀ s, handed s = { s with handed := (handed s).handed }) :
    ∃ s', (callIdf c handed).run s = (.ok (), s') ∧ s'.Told r wifi ip (heard ++ heardOf wifi ip c.before) := by
  have htold := h.foldl (heardOf wifi ip c.before)
  refine ⟨_, h.run_callIdf hok handed, ?_⟩
  rw [hsame]
  exact ⟨htold.group, htold.retries, htold.wifi, htold.ip⟩

/-- **A setup whose calls succeed** has told the handler what it hears of it, and the start of the station comes
last. -/
lemma bringUp_run (cfg : SdConfig) {b : Bringup} (hb : b.Succeeds) (hlimit : s.retries ≤ netMaxRetry) :
    ∃ s' log, (bringUp cfg b).run s = (.ok (), s') ∧ s'.Told s.retries (b.wifi s) (b.ip s) (b.early s) ∧
      s'.log = log ++ [.stationStarted] := by
  have hgroup : (createGroup b.group).run s = (.ok (), { s with events := some ⟨false, false⟩ }) := by
    rw [createGroup, hb.group]
    rfl
  have h₀ : Net.Told s.retries s.wifiHandlers s.ipHandlers [] { s with events := some ⟨false, false⟩ } :=
    ⟨⟨_, rfl, by simp, by simpa using hlimit⟩, by simpa using hlimit, rfl, rfl⟩
  obtain ⟨s₁, hnetif, h₁⟩ := h₀.callIdf hb.netifInit id fun _ => rfl
  obtain ⟨s₂, hloop, h₂⟩ := h₁.callIdf hb.eventLoop id fun _ => rfl
  obtain ⟨s₃, hinit, h₃⟩ := h₂.callIdf hb.wifiInit id fun _ => rfl
  obtain ⟨s₄, hwifi, h₄⟩ : ∃ s', (registerHandler b.wifiHandler fun s => { s with
      wifiHandlers := s.wifiHandlers + 1 }).run s₃ = (.ok (), s') ∧ s'.Told s.retries (b.wifi s) s.ipHandlers _ := by
    have htold := h₃.foldl (heardOf s.wifiHandlers s.ipHandlers b.wifiHandler.before)
    refine ⟨_, h₃.run_registerHandler _ _, ?_⟩
    rw [Bringup.wifi]
    cases b.wifiHandler.ok
    · exact htold
    · exact ⟨htold.group, htold.retries, congrArg (· + 1) htold.wifi, htold.ip⟩
  obtain ⟨s₅, hip, h₅⟩ : ∃ s', (registerHandler b.ipHandler fun s => { s with
      ipHandlers := s.ipHandlers + 1 }).run s₄ = (.ok (), s') ∧ s'.Told s.retries (b.wifi s) (b.ip s) _ := by
    have htold := h₄.foldl (heardOf (b.wifi s) s.ipHandlers b.ipHandler.before)
    refine ⟨_, h₄.run_registerHandler _ _, ?_⟩
    rw [Bringup.ip]
    cases b.ipHandler.ok
    · exact htold
    · exact ⟨htold.group, htold.retries, htold.wifi, congrArg (· + 1) htold.ip⟩
  obtain ⟨s₆, hmode, h₆⟩ := h₅.callIdf hb.setMode id fun _ => rfl
  obtain ⟨s₇, hconfig, h₇⟩ := h₆.callIdf hb.setConfig
    (fun s => { s with handed := s.handed ++ [stationConfig cfg] }) fun _ => rfl
  obtain ⟨s₈, log, hstart, h₈, hlog⟩ : ∃ s' log, (callIdf b.wifiStart fun s => { s with
      started := true, log := s.log ++ [.stationStarted] }).run s₇ = (.ok (), s') ∧
      s'.Told s.retries (b.wifi s) (b.ip s) _ ∧ s'.log = log ++ [.stationStarted] := by
    have htold := h₇.foldl (heardOf (b.wifi s) (b.ip s) b.wifiStart.before)
    exact ⟨_, _, h₇.run_callIdf hb.wifiStart _, ⟨htold.group, htold.retries, htold.wifi, htold.ip⟩, rfl⟩
  refine ⟨s₈, log, ?_, by simpa [Bringup.early, heardOf_append] using h₈, hlog⟩
  rw [bringUp, Effect.run_bind_ok hgroup, Effect.run_bind_ok hnetif, Effect.run_bind_ok hloop,
    Effect.run_bind_ok hinit, Effect.run_bind_ok hwifi, Effect.run_bind_ok hip, Effect.run_bind_ok hmode,
    Effect.run_bind_ok hconfig, hstart]

/-- A setup that came to its end had its calls succeed. -/
lemma bringUp_succeeds {cfg : SdConfig} {b : Bringup} {s' : Net} (h : (bringUp cfg b).run s = (.ok (), s')) :
    b.Succeeds := by
  have called : ∀ {c : IdfCall} {done : Net → Net} {s s' : Net}, (callIdf c done).run s = (.ok (), s') →
      c.ok = true := by
    intro c done s s' hrun
    obtain ⟨_, s₁, -, hrest⟩ := Effect.run_bind_eq_ok.mp hrun
    split_ifs at hrest with hok
    · exact hok
    · simp at hrest
  obtain ⟨_, _, hgroup, h⟩ := Effect.run_bind_eq_ok.mp h
  obtain ⟨_, _, hnetif, h⟩ := Effect.run_bind_eq_ok.mp h
  obtain ⟨_, _, hloop, h⟩ := Effect.run_bind_eq_ok.mp h
  obtain ⟨_, _, hinit, h⟩ := Effect.run_bind_eq_ok.mp h
  obtain ⟨_, _, -, h⟩ := Effect.run_bind_eq_ok.mp h
  obtain ⟨_, _, -, h⟩ := Effect.run_bind_eq_ok.mp h
  obtain ⟨_, _, hmode, h⟩ := Effect.run_bind_eq_ok.mp h
  obtain ⟨_, _, hconfig, hstart⟩ := Effect.run_bind_eq_ok.mp h
  refine ⟨?_, called hnetif, called hloop, called hinit, called hmode, called hconfig, called hstart⟩
  rw [createGroup] at hgroup
  cases hok : b.group
  · simp [hok] at hgroup
  · rfl

lemma inTime_nil {heard : List NetEvent} : ¬ InTime r heard [] := by
  rintro ⟨pre, post, hsplit, -⟩
  simp at hsplit

/-- Too late is too late. -/
lemma InTime.left {es : List NetEvent} (h : InTime r heard es) : r + heard.count .disconnected ≤ netMaxRetry := by
  obtain ⟨pre, post, -, hfew⟩ := h
  rw [List.count_append] at hfew
  omega

lemma inTime_append {es es' : List NetEvent} :
    InTime r heard (es ++ es') ↔ InTime r heard es ∨ InTime r (heard ++ es) es' := by
  constructor
  · rintro ⟨pre, post, hsplit, hfew⟩
    rcases List.append_eq_append_iff.mp hsplit with ⟨mid, rfl, hrest⟩ | ⟨mid, rfl, hrest⟩
    · exact Or.inr ⟨mid, post, hrest, by rwa [List.append_assoc]⟩
    · cases mid with
      | nil => exact Or.inr ⟨[], post, hrest.symm, by simpa using hfew⟩
      | cons e mid =>
          obtain ⟨rfl, -⟩ := List.cons.inj hrest
          exact Or.inl ⟨pre, mid, rfl, hfew⟩
  · rintro (⟨pre, post, rfl, hfew⟩ | ⟨pre, post, rfl, hfew⟩)
    · exact ⟨pre, post ++ es', by rw [List.append_assoc, List.cons_append], hfew⟩
    · exact ⟨es ++ pre, post, by rw [List.append_assoc], by rwa [List.append_assoc] at hfew⟩

/-- While there are retries left an IP event is in time. -/
lemma inTime_one (h : r + heard.count .disconnected ≤ netMaxRetry) (e : NetEvent) :
    InTime r heard (heardOf wifi ip [e]) ↔ .gotIp ∈ heardOf wifi ip [e] := by
  constructor
  · rintro ⟨pre, post, hsplit, -⟩
    rw [hsplit]
    simp
  · intro hgot
    obtain ⟨e', he', hmem⟩ := List.mem_flatMap.mp hgot
    obtain rfl := List.mem_singleton.mp he'
    obtain rfl : e' = .gotIp := by cases e' <;> simp at hmem ⊢
    obtain ⟨n, rfl⟩ := Nat.exists_eq_succ_of_ne_zero (List.mem_replicate.mp hmem).1
    exact ⟨[], List.replicate n .gotIp, by simp [heardOf, List.replicate_succ], by simpa using h⟩

/-- **The wait** ends with an address exactly if one is heard of before the retries are exhausted. -/
lemma waitBits_run (h : s.Told r wifi ip heard) (es : List NetEvent) : ∃ bits taken left, es = taken ++ left ∧
    (waitBits es).run s = (.ok (bits, left), (heardOf wifi ip taken).foldl Net.hear s) ∧
    (bits.connected = true ↔ .gotIp ∈ heard ∨ InTime r heard (heardOf wifi ip es)) := by
  induction es generalizing heard s with
  | nil =>
      obtain ⟨bits, hbits, hconnected, -⟩ := h.group
      refine ⟨bits, [], [], rfl, by simp [waitBits, hbits], ?_⟩
      rw [heardOf_nil, or_iff_left inTime_nil, hconnected]
  | cons e es ih =>
      obtain ⟨bits, hbits, hconnected, hfailed⟩ := h.group
      by_cases hset : bits.connected = true ∨ bits.failed = true
      · -- A bit is set: nothing that comes now counts.
        refine ⟨bits, [], e :: es, rfl, by simp [waitBits, hbits, hset], ?_⟩
        rw [hconnected]
        refine (or_iff_left_of_imp fun hin => ?_).symm
        by_contra hno
        have hmany := (hfailed hno).mp (hset.resolve_left fun hyes => hno (hconnected.mp hyes))
        exact absurd hin.left (by omega)
      · obtain ⟨hunset, hrunning⟩ := not_or.mp hset
        have hno : NetEvent.gotIp ∉ heard := fun hyes => hunset (hconnected.mpr hyes)
        rw [hfailed hno, not_lt] at hrunning
        have hdeliver : (deliver e).run s = (.ok (), (heardOf wifi ip [e]).foldl Net.hear s) := by
          rw [run_deliver h.isSome, h.wifi, h.ip]
        obtain ⟨bits', taken, left, hes, hrun, hiff⟩ := ih (h.foldl (heardOf wifi ip [e]))
        refine ⟨bits', e :: taken, left, by rw [hes, List.cons_append], ?_, ?_⟩
        · rw [waitBits]
          simp only [hbits]
          rw [if_neg (by simpa using hset), Effect.run_bind_ok hdeliver, hrun, heardOf_cons wifi ip e taken,
            List.foldl_append]
        · rw [hiff, List.mem_append, or_iff_right hno, or_iff_right hno, heardOf_cons wifi ip e es, inTime_append,
            inTime_one hrunning]

/-- **The wait and the result.** -/
lemma awaitIp_run (h : s.Told r wifi ip heard) (b : Bringup) : ∃ result, (awaitIp b).run s
      = (result, (heardOf wifi ip (b.starting ++ b.waiting ++ b.returning)).foldl Net.hear s) ∧
    (result = .ok () ↔ .gotIp ∈ heard ++ heardOf wifi ip b.starting ∨
      InTime r (heard ++ heardOf wifi ip b.starting) (heardOf wifi ip b.waiting)) := by
  have hstarting := h.foldl (heardOf wifi ip b.starting)
  obtain ⟨bits, taken, left, hwaiting, hwait, hiff⟩ := waitBits_run hstarting b.waiting
  have hreturn := (hstarting.foldl (heardOf wifi ip taken)).run_deliverAll (left ++ b.returning)
  rw [← hiff, awaitIp, Effect.run_bind_ok (h.run_deliverAll _), Effect.run_bind_ok hwait,
    Effect.run_bind_ok hreturn, hwaiting]
  simp only [heardOf_append, List.foldl_append]
  split_ifs with hconnected
  · exact ⟨_, rfl, iff_of_true rfl hconnected⟩
  · exact ⟨_, rfl, iff_of_false (by simp) hconnected⟩

end Told

/-- What is behind a mark. -/
def NetMark.event : NetMark → NetEvent
  | .stationStarted => .staStart
  | .gotIp => .gotIp
  | .retried => .disconnected
  | .exhausted => .disconnected

lemma disconnects_eq_count (marks : List NetMark) :
    disconnects marks = (marks.map NetMark.event).count .disconnected := by
  rw [disconnects, List.count, List.countP_map]
  congr 1
  funext m
  cases m <;> rfl

/-- The marks of what is heard. -/
lemma log_foldl_hear (s : Net) {es : List NetEvent} (h : ∀ e ∈ es, e = .disconnected ∨ e = .gotIp) :
    ∃ marks, (es.foldl Net.hear s).log = s.log ++ marks ∧ marks.map NetMark.event = es := by
  induction es generalizing s with
  | nil => exact ⟨[], by simp, rfl⟩
  | cons e es ih =>
      obtain ⟨he, hes⟩ := List.forall_mem_cons.mp h
      obtain ⟨m, hm, hevent⟩ : ∃ m, (s.hear e).log = s.log ++ [m] ∧ m.event = e := by
        rcases he with rfl | rfl
        · simp only [Net.hear]
          split_ifs
          · exact ⟨.retried, rfl, rfl⟩
          · exact ⟨.exhausted, rfl, rfl⟩
        · exact ⟨.gotIp, rfl, rfl⟩
      obtain ⟨marks, hlog, hmarks⟩ := ih (s.hear e) hes
      exact ⟨m :: marks, by rw [List.foldl_cons, hlog, hm, List.append_assoc]; rfl, by
        rw [List.map_cons, hevent, hmarks]⟩

/-- Marks behind the start of the station. -/
lemma live_iff {log marks : List NetMark} (h : .stationStarted ∉ marks) :
    Live (log ++ [.stationStarted] ++ marks) ↔ ∃ pre post, marks.map NetMark.event = pre ++ .gotIp :: post ∧
      post.count .disconnected ≤ netMaxRetry := by
  constructor
  · rintro ⟨pre, post, hlog, -, hnone, hfew⟩
    obtain ⟨mid, hmarks⟩ : ∃ mid, marks = mid ++ .gotIp :: post := by
      rcases List.append_eq_append_iff.mp hlog with ⟨mid, -, hmarks⟩ | ⟨mid, hstarted, hmarks⟩
      · exact ⟨mid, hmarks⟩
      · -- The start is in front of the IP event.
        rcases List.eq_nil_or_concat mid with rfl | ⟨mid, m, rfl⟩
        · exact ⟨[], by simpa using hmarks.symm⟩
        · rw [List.concat_eq_append, ← List.append_assoc] at hstarted
          obtain rfl : NetMark.stationStarted = m := by simpa using (List.append_inj' hstarted rfl).2
          have hmem : NetMark.stationStarted ∈ .gotIp :: post := hmarks ▸ by simp
          exact absurd hmem (by simpa using hnone)
    refine ⟨mid.map NetMark.event, post.map NetMark.event, ?_, disconnects_eq_count post ▸ hfew⟩
    rw [hmarks, List.map_append, List.map_cons, NetMark.event]
  · rintro ⟨pre, post, hsplit, hfew⟩
    obtain ⟨before, rest, rfl, -, hrest⟩ := List.map_eq_append_iff.mp hsplit
    obtain ⟨m, after, rfl, hm, rfl⟩ := List.map_eq_cons_iff.mp hrest
    obtain rfl : m = .gotIp := by cases m <;> simp [NetMark.event] at hm ⊢
    refine ⟨log ++ [.stationStarted] ++ before, after, (List.append_assoc _ _ _).symm, by simp, ?_, ?_⟩
    · exact fun hmem => h (List.mem_append_right _ (List.mem_cons_of_mem _ hmem))
    · rwa [disconnects_eq_count]

/-! ## When a start tells the truth -/

/-- **A bring-up whose calls succeed** reports the link exactly if it connects, and leaves it live exactly if
that lasts. -/
theorem bringUp_awaitIp_run (cfg : SdConfig) {b : Bringup} (hb : b.Succeeds) {s : Net}
    (hlimit : s.retries ≤ netMaxRetry) : ∃ result s',
    (do bringUp cfg b; awaitIp b : Effect Net Halt Unit).run s = (result, s') ∧
      (result = .ok () ↔ b.Connects s) ∧ (Live s'.log ↔ b.Lasts s) := by
  obtain ⟨s₁, log, hup, htold, hlog⟩ := bringUp_run cfg hb hlimit
  obtain ⟨result, hawait, hconnects⟩ := awaitIp_run htold b
  obtain ⟨marks, hmarks, hevents⟩ := log_foldl_hear s₁ fun e he =>
    @mem_heardOf (b.wifi s) (b.ip s) (b.starting ++ b.waiting ++ b.returning) e he
  have hnone : NetMark.stationStarted ∉ marks := by
    intro hmem
    have hheard := mem_heardOf (hevents ▸ List.mem_map_of_mem hmem : NetMark.stationStarted.event ∈ _)
    simp [NetMark.event] at hheard
  refine ⟨result, _, by rw [Effect.run_bind_ok hup, hawait], hconnects, ?_⟩
  rw [hmarks, hlog, live_iff hnone, hevents]
  rfl

/-- **When a start tells the truth.** -/
theorem sdNetStart_truthful_iff {cfg : SdConfig} {b : Bringup} {s : Net} (h : s.Counted) :
    (∀ s', (sdNetStart cfg b).run s = (.ok (), s') → Usable s'.log) ↔ MayReport cfg b s := by
  simp only [sdNetStart, MayReport]
  by_cases hssid : cfg.wifiSsid.bytes.headD 0 = 0
  · rw [if_pos hssid]
    exact iff_of_true (by simp) fun hne => absurd hssid hne
  rw [if_neg hssid]
  cases hstarted : s.started with
  | true =>
      rw [if_pos rfl]
      constructor
      · intro htruth _
        exact ⟨fun _ => (usable_iff_live h).mp (htruth s rfl), fun hno => absurd hno (by decide)⟩
      · rintro hmay s' hrun
        rw [← (Prod.mk.inj hrun).2]
        exact (usable_iff_live h).mpr ((hmay hssid).1 rfl)
  | false =>
      have hcounted : ∀ s', (do bringUp cfg b; awaitIp b : Effect Net Halt Unit).run s = (.ok (), s') →
          s'.Counted := fun s' hrun =>
        ((counted_bringUp cfg b).bind fun _ => keeps_awaitIp counted_netEventHandler b).run h hrun
      rw [if_neg (by decide)]
      constructor
      · intro htruth _
        refine ⟨fun hno => absurd hno (by decide), fun _ hb hconnects => ?_⟩
        obtain ⟨result, s', hrun, hok, hlive⟩ := bringUp_awaitIp_run cfg hb h.limit
        rw [hok.mpr hconnects] at hrun
        exact hlive.mp ((usable_iff_live (hcounted s' hrun)).mp (htruth s' hrun))
      · intro hmay s' hrun
        obtain ⟨_, s₁, hup, -⟩ := Effect.run_bind_eq_ok.mp hrun
        have hb := bringUp_succeeds hup
        obtain ⟨result, s'', hrun', hok, hlive⟩ := bringUp_awaitIp_run cfg hb h.limit
        obtain ⟨rfl, rfl⟩ := Prod.mk.inj (hrun.symm.trans hrun')
        exact (usable_iff_live (hcounted s' hrun)).mpr (hlive.mpr ((hmay hssid).2 rfl hb (hok.mp rfl)))

/-- **Network bring-up over whole runs.**  The starts of a run tell the truth exactly when every one of them
may report. -/
theorem net_truthful_iff (ops : List NetOp) : Truthful ops ↔
    ∀ pre cfg b post, ops = pre ++ .start cfg b :: post → ∀ s, reached pre Net.initial = some s →
      MayReport cfg b s := by
  constructor
  · intro htruth pre cfg b post hops s hreach
    exact (sdNetStart_truthful_iff (counted_reached counted_initial hreach)).mp
      (htruth pre cfg b post hops s hreach)
  · intro hmay pre cfg b post hops s hreach
    exact (sdNetStart_truthful_iff (counted_reached counted_initial hreach)).mpr
      (hmay pre cfg b post hops s hreach)

/-- A bring-up on which every call succeeds and no event comes: the wait times out. -/
def silent : Bringup :=
  let call : IdfCall := ⟨[], true⟩
  ⟨true, call, call, call, call, call, call, call, call, [], [], []⟩

/-- A configuration with a network name. -/
def namedConfig : SdConfig :=
  { sdConfigDefaults with wifiSsid := (Buffer.zeros _).put (ascii "lan" ++ [0]) (by decide) }

/-- The second start of a station that never got an address reports one. -/
theorem net_untruthful : ¬ Truthful [.start namedConfig silent, .start namedConfig silent] := by
  intro htruth
  obtain ⟨pre, post, hlog, -⟩ := htruth [.start namedConfig silent] namedConfig silent [] rfl _ rfl _ rfl
  have hlog : [NetMark.stationStarted] = pre ++ .gotIp :: post := hlog
  have hno : NetMark.gotIp ∉ [NetMark.stationStarted] := by decide
  exact hno (hlog ▸ by simp)

end Sudonit
