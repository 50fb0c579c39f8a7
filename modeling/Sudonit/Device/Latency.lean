import Sudonit.Device.Turn
import Sudonit.Phone.Uplink

/-!
# `device.c`: the latency of a turn

`sd_device_run_uplink` once more, with its four readings of the clock and the figures it makes of them.  A
reading becomes a count of milliseconds in 32 bits, and a stage is the difference of two counts.

* `nowMs`, `finalizeMetrics` — the instrumentation; `uplinkTimed_refines` says that it changes nothing else.
* `uplinkTimed_figures` — the figures of a turn, as differences of 32-bit counts.
* `toNat_sub_stamp` — such a difference is the time that has passed if that is less than `2 ^ 32` ms.
* `latency_exact_iff` — the figures of every turn that reaches its end, wherever the counter wraps.
-/

namespace Sudonit

open Octets Stream Frames CText Python

/-! ## The clock -/

/-- What `clock_gettime` returns. -/
structure Timespec where
  sec : UInt64
  nsec : ℕ
  nsec_lt : nsec < 10 ^ 9

/-- The time in nanoseconds. -/
def Timespec.ns (t : Timespec) : ℕ := t.sec.toNat * 10 ^ 9 + t.nsec

/-- The time in milliseconds, truncated. -/
def Timespec.ms (t : Timespec) : ℕ := t.ns / 10 ^ 6

/-- The value of `now_ms` at that time. -/
def Timespec.stamp (t : Timespec) : UInt32 := t.sec.toUInt32 * 1000 + UInt32.ofNat (t.nsec / 1000000)

lemma Timespec.ms_eq (t : Timespec) : t.ms = t.sec.toNat * 1000 + t.nsec / 1000000 := by
  rw [Timespec.ms, Timespec.ns]
  omega

lemma Timespec.ms_mono {a b : Timespec} (h : a.ns ≤ b.ns) : a.ms ≤ b.ms := Nat.div_le_div_right h

/-- A count is the time modulo `2 ^ 32`. -/
lemma toNat_stamp (t : Timespec) : t.stamp.toNat = t.ms % 2 ^ 32 := by
  have hthousand : (1000 : UInt32).toNat = 1000 := rfl
  rw [Timespec.stamp, UInt32.toNat_add, UInt32.toNat_mul, UInt64.toNat_toUInt32, UInt32.toNat_ofNat', hthousand,
    t.ms_eq]
  omega

/-- **The difference of two counts is the time that has passed**, also across the wrap. -/
theorem toNat_sub_stamp {a b : Timespec} (h : a.ns ≤ b.ns) (hspan : b.ms - a.ms < 2 ^ 32) :
    (b.stamp - a.stamp).toNat = b.ms - a.ms := by
  have hle := Timespec.ms_mono h
  rw [UInt32.toNat_sub, toNat_stamp, toNat_stamp]
  omega

/-! ## The instrumented turn -/

/-- The times and the size of the image of `sd_uplink_metrics_t`; `response_bytes` is with the glasses. -/
structure UplinkMetrics where
  captureMs : UInt32
  uploadMs : UInt32
  responseMs : UInt32
  totalMs : UInt32
  imageBytes : ℕ
  deriving DecidableEq

/-- A run of the device, the object `metrics` points to, and the readings of the clock so far. -/
structure Timed where
  glasses : Glasses
  metrics : Option UplinkMetrics
  readings : List Timespec

/-- A computation of the device. -/
def onGlasses {α : Type} (x : Effect Glasses Halt α) : Effect Timed Halt α :=
  Effect.within Timed.glasses (fun g s => { s with glasses := g }) x

/-- `now_ms`, on a clock that shows these times one after the other. -/
def nowMs (clock : ℕ → Timespec) : Effect Timed Halt UInt32 := ⟨fun s =>
  (.ok (clock s.readings.length).stamp, { s with readings := s.readings ++ [clock s.readings.length] })⟩

/-- `*metrics = (sd_uplink_metrics_t){0}`. -/
def clearMetrics : Effect Timed Halt Unit := ⟨fun s =>
  (.ok (), match s.metrics with
    | none => s
    | some _ => { s with metrics := some ⟨0, 0, 0, 0, 0⟩, glasses := { s.glasses with responseBytes := 0 } })⟩

/-- Assignments to `*metrics`. -/
def measure (f : UplinkMetrics → UplinkMetrics) : Effect Timed Halt Unit := ⟨fun s =>
  (.ok (), { s with metrics := s.metrics.map f })⟩

/-- `finalize_metrics`. -/
def finalizeMetrics (clock : ℕ → Timespec) (tStart tUploadDone : UInt32) : Effect Timed Halt Unit := ⟨fun s =>
  match s.metrics with
  | none => (.ok (), s)
  | some _ => (do
      let now ← nowMs clock
      measure fun m => { m with responseMs := now - tUploadDone, totalMs := now - tStart }).run s⟩

/-- `err = x; y; return err;`, where `y` does not fail. -/
def afterwards (x y : Effect Timed Halt Unit) : Effect Timed Halt Unit := ⟨fun s =>
  match x.run s with
  | (.error .undefined, s') => (.error .undefined, s')
  | (r, s') => (r, (y.run s').2)⟩

/-- What the loop does with the message that ended it. -/
def finishTimed (rig : Rig) (clock : ℕ → Timespec) (tStart tUploadDone : UInt32) :
    TurnEnd → Effect Timed Halt Unit
  | .audioBegin text =>
      afterwards (onGlasses (playAudioDownlink rig text)) (finalizeMetrics clock tStart tUploadDone)
  | .playAudio => finalizeMetrics clock tStart tUploadDone

/-- `sd_device_run_uplink` from its first reading on. -/
def turnTimed (rig : Rig) (clock : ℕ → Timespec) (imageId : CStr) (cap : ℕ) : Effect Timed Halt Unit := do
  let tStart ← nowMs clock
  let image ← onGlasses (captureImage rig)
  let tCaptureDone ← nowMs clock
  measure fun m => { m with captureMs := tCaptureDone - tStart, imageBytes := image.data.bytes.length }
  onGlasses (uploadImage rig imageId image)
  let tUploadDone ← nowMs clock
  measure fun m => { m with uploadMs := tUploadDone - tCaptureDone }
  let turnEnd ← onGlasses ⟨replyLoop rig cap 0⟩
  finishTimed rig clock tStart tUploadDone turnEnd

/-- `sd_device_run_uplink`. -/
def uplinkTimed (rig : Rig) (clock : ℕ → Timespec) (imageId : CStr) (cap : ℕ) : Effect Timed Halt Unit := do
  onGlasses (clearResponse cap)
  clearMetrics
  turnTimed rig clock imageId cap

/-! ## The turn below the instruments -/

/-- The state with `response_out` and `*metrics` cleared. -/
def Timed.cleared (cap : ℕ) (s : Timed) : Timed := (clearMetrics.run ((onGlasses (clearResponse cap)).run s).2).2

lemma run_uplinkTimed (rig : Rig) (clock : ℕ → Timespec) (imageId : CStr) (cap : ℕ) (s : Timed) :
    (uplinkTimed rig clock imageId cap).run s = (turnTimed rig clock imageId cap).run (s.cleared cap) := by
  have hresponse : (onGlasses (clearResponse cap)).run s = (.ok (), ((onGlasses (clearResponse cap)).run s).2) := rfl
  have hmetrics : clearMetrics.run ((onGlasses (clearResponse cap)).run s).2 = (.ok (), s.cleared cap) := rfl
  rw [uplinkTimed, Effect.run_bind_ok hresponse, Effect.run_bind_ok hmetrics]

lemma onGlasses_refines {α : Type} (x : Effect Glasses Halt α) : Effect.Refines Timed.glasses (onGlasses x) x :=
  Effect.Refines.within (fun _ _ => rfl) x

lemma nowMs_unseen (clock : ℕ → Timespec) (s : Timed) :
    ∃ a s', (nowMs clock).run s = (.ok a, s') ∧ s'.glasses = s.glasses := ⟨_, _, rfl, rfl⟩

lemma measure_unseen (f : UplinkMetrics → UplinkMetrics) (s : Timed) :
    ∃ a s', (measure f).run s = (.ok a, s') ∧ s'.glasses = s.glasses := ⟨_, _, rfl, rfl⟩

/-- `finalize_metrics` reads the clock only to fill in figures. -/
lemma run_finalizeMetrics (clock : ℕ → Timespec) (tStart tUploadDone : UInt32) (s : Timed) :
    (finalizeMetrics clock tStart tUploadDone).run s = (.ok (), match s.metrics with
      | none => s
      | some m => { s with
          metrics := some { m with
            responseMs := (clock s.readings.length).stamp - tUploadDone
            totalMs := (clock s.readings.length).stamp - tStart }
          readings := s.readings ++ [clock s.readings.length] }) := by
  obtain ⟨g, m, readings⟩ := s
  cases m <;> rfl

/-- Either end of a turn: what the message asks for, then `finalize_metrics`. -/
lemma run_finishTimed (rig : Rig) (clock : ℕ → Timespec) (tStart tUploadDone : UInt32) (turnEnd : TurnEnd)
    (s : Timed) :
    (finishTimed rig clock tStart tUploadDone turnEnd).run s
      = match (finishTurn rig turnEnd).run s.glasses with
        | (.error .undefined, g) => (.error .undefined, { s with glasses := g })
        | (r, g) => (r, ((finalizeMetrics clock tStart tUploadDone).run { s with glasses := g }).2) := by
  cases turnEnd with
  | audioBegin text =>
      rw [finishTimed, afterwards, finishTurn]
      rcases hplay : (playAudioDownlink rig text).run s.glasses with ⟨r, g⟩
      have hrun : (onGlasses (playAudioDownlink rig text)).run s = (r, { s with glasses := g }) := by
        rw [onGlasses, Effect.run_within, hplay]
      simp only [hrun]
      rcases r with (_ | _) | _ <;> rfl
  | playAudio =>
      rw [finishTimed, finishTurn, Effect.run_pure]
      simp only
      rw [run_finalizeMetrics]

lemma finishTimed_refines (rig : Rig) (clock : ℕ → Timespec) (tStart tUploadDone : UInt32) (turnEnd : TurnEnd) :
    Effect.Refines Timed.glasses (finishTimed rig clock tStart tUploadDone turnEnd) (finishTurn rig turnEnd) := by
  intro s
  have hkept : ∀ s', ((finalizeMetrics clock tStart tUploadDone).run s').2.glasses = s'.glasses := by
    intro s'
    rw [run_finalizeMetrics]
    cases s'.metrics <;> rfl
  rw [run_finishTimed]
  rcases (finishTurn rig turnEnd).run s.glasses with ⟨(_ | _) | _, g⟩
  · simp only [hkept]
  · rfl
  · simp only [hkept]

/-- The turn without its first assignment. -/
def turnPlain (rig : Rig) (imageId : CStr) (cap : ℕ) : Effect Glasses Halt Unit := do
  let image ← captureImage rig
  uploadImage rig imageId image
  let turnEnd ← ⟨replyLoop rig cap 0⟩
  finishTurn rig turnEnd

lemma turnTimed_refines (rig : Rig) (clock : ℕ → Timespec) (imageId : CStr) (cap : ℕ) :
    Effect.Refines Timed.glasses (turnTimed rig clock imageId cap) (turnPlain rig imageId cap) := by
  refine Effect.Refines.skip (nowMs_unseen clock) fun tStart => ?_
  refine (onGlasses_refines _).bind fun image => ?_
  refine Effect.Refines.skip (nowMs_unseen clock) fun tCaptureDone => ?_
  refine Effect.Refines.skip (measure_unseen _) fun _ => ?_
  refine (onGlasses_refines _).bind fun _ => ?_
  refine Effect.Refines.skip (nowMs_unseen clock) fun tUploadDone => ?_
  refine Effect.Refines.skip (measure_unseen _) fun _ => ?_
  exact (onGlasses_refines _).bind fun turnEnd => finishTimed_refines rig clock tStart tUploadDone turnEnd

/-- **The instruments change nothing else**: what the device does and returns is what it does without them. -/
theorem uplinkTimed_refines (rig : Rig) (clock : ℕ → Timespec) (imageId : CStr) (cap : ℕ) (s : Timed) :
    (((uplinkTimed rig clock imageId cap).run s).1, ((uplinkTimed rig clock imageId cap).run s).2.glasses)
      = (sdDeviceRunUplink rig imageId cap).run (clearMetrics.run s).2.glasses := by
  have hclear : (s.cleared cap).glasses = ((clearResponse cap).run (clearMetrics.run s).2.glasses).2 := by
    obtain ⟨g, m, readings⟩ := s
    cases m <;> rfl
  rw [run_uplinkTimed, turnTimed_refines rig clock imageId cap (s.cleared cap), hclear]
  rfl

/-! ## The figures -/

/-- The turn reaches its end: a message ends the loop, and what it asks for returns. -/
def ReachesEnd (rig : Rig) (imageId : CStr) (cap : ℕ) (g : Glasses) : Prop :=
  ∃ image g₁ turnEnd g₂, rig.camera = .ok image ∧ (uploadImage rig imageId image).run g = (.ok (), g₁) ∧
    replyLoop rig cap 0 g₁ = (.ok turnEnd, g₂) ∧ ((finishTurn rig turnEnd).run g₂).1 ≠ .error .undefined

/-- The figures made of four readings of the clock. -/
structure UplinkMetrics.MadeOf (m : UplinkMetrics) (t₀ t₁ t₂ t₃ : Timespec) : Prop where
  capture : m.captureMs = t₁.stamp - t₀.stamp
  upload : m.uploadMs = t₂.stamp - t₁.stamp
  response : m.responseMs = t₃.stamp - t₂.stamp
  total : m.totalMs = t₃.stamp - t₀.stamp

/-- The glasses with `response_out` and `response_bytes` cleared. -/
def Glasses.cleared (cap : ℕ) (g : Glasses) : Glasses :=
  { g with response := if cap = 0 then g.response else [], responseBytes := 0 }

lemma cleared_metrics (cap : ℕ) (g : Glasses) (m : UplinkMetrics) (readings : List Timespec) :
    Timed.cleared cap ⟨g, some m, readings⟩ = ⟨g.cleared cap, some ⟨0, 0, 0, 0, 0⟩, readings⟩ := rfl

lemma run_onGlasses {α : Type} (x : Effect Glasses Halt α) (s : Timed) :
    (onGlasses x).run s = ((x.run s.glasses).1, { s with glasses := (x.run s.glasses).2 }) := rfl

section Figures

variable {rig : Rig} {clock : ℕ → Timespec} {imageId : CStr} {cap : ℕ}

/-- A turn up to its end, and what `finalize_metrics` makes of it. -/
lemma turnTimed_end {g : Glasses} {m : UplinkMetrics} (h : ReachesEnd rig imageId cap g) :
    ((turnTimed rig clock imageId cap).run ⟨g, some m, []⟩).2.readings = [clock 0, clock 1, clock 2, clock 3] ∧
      ∃ m', ((turnTimed rig clock imageId cap).run ⟨g, some m, []⟩).2.metrics = some m' ∧
        m'.MadeOf (clock 0) (clock 1) (clock 2) (clock 3) := by
  obtain ⟨image, g₁, turnEnd, g₂, hcamera, hupload, hloop, hfinish⟩ := h
  have hcapture : (captureImage rig).run g = (.ok image, g) := by rw [captureImage, hcamera, Effect.run_ofExcept]
  simp only [turnTimed, Effect.run_bind, nowMs, measure, run_onGlasses, hcapture, hupload, hloop, run_finishTimed,
    run_finalizeMetrics]
  rcases hrun : (finishTurn rig turnEnd).run g₂ with ⟨(_ | _) | _, g₃⟩
  · exact ⟨rfl, _, rfl, rfl, rfl, rfl, rfl⟩
  · rw [hrun] at hfinish
    exact absurd rfl hfinish
  · exact ⟨rfl, _, rfl, rfl, rfl, rfl, rfl⟩

/-- A turn that stops before its end takes no fourth reading. -/
lemma turnTimed_stopped {g : Glasses} {metrics : Option UplinkMetrics} (h : ¬ ReachesEnd rig imageId cap g) :
    ((turnTimed rig clock imageId cap).run ⟨g, metrics, []⟩).2.readings.length < 4 := by
  cases hcamera : rig.camera with
  | error e =>
      simp [turnTimed, Effect.run_bind, nowMs, run_onGlasses, captureImage, hcamera]
  | ok image =>
      rcases hupload : (uploadImage rig imageId image).run g with ⟨e | _, g₁⟩
      · simp [turnTimed, Effect.run_bind, nowMs, measure, run_onGlasses, captureImage, hcamera, hupload]
      · rcases hloop : replyLoop rig cap 0 g₁ with ⟨e | turnEnd, g₂⟩
        · simp [turnTimed, Effect.run_bind, nowMs, measure, run_onGlasses, captureImage, hcamera, hupload, hloop]
        · have hundefined : ((finishTurn rig turnEnd).run g₂).1 = .error .undefined := by
            by_contra hne
            exact h ⟨image, g₁, turnEnd, g₂, hcamera, hupload, hloop, hne⟩
          rcases hrun : (finishTurn rig turnEnd).run g₂ with ⟨r, g₃⟩
          rw [hrun] at hundefined
          simp only at hundefined
          subst hundefined
          simp [turnTimed, Effect.run_bind, nowMs, measure, run_onGlasses, captureImage, hcamera, hupload, hloop,
            run_finishTimed, hrun]

/-- **The figures of a turn.**  Exactly the turns that reach their end take a fourth reading, and their figures
are made of the four. -/
theorem uplinkTimed_figures (rig : Rig) (clock : ℕ → Timespec) (imageId : CStr) (cap : ℕ) (g : Glasses)
    (m : UplinkMetrics) :
    (ReachesEnd rig imageId cap (g.cleared cap) ∧
      ((uplinkTimed rig clock imageId cap).run ⟨g, some m, []⟩).2.readings = [clock 0, clock 1, clock 2, clock 3] ∧
      ∃ m', ((uplinkTimed rig clock imageId cap).run ⟨g, some m, []⟩).2.metrics = some m' ∧
        m'.MadeOf (clock 0) (clock 1) (clock 2) (clock 3)) ∨
    (¬ ReachesEnd rig imageId cap (g.cleared cap) ∧
      ((uplinkTimed rig clock imageId cap).run ⟨g, some m, []⟩).2.readings.length < 4) := by
  rw [run_uplinkTimed, cleared_metrics]
  by_cases hend : ReachesEnd rig imageId cap (g.cleared cap)
  · exact Or.inl ⟨hend, turnTimed_end hend⟩
  · exact Or.inr ⟨hend, turnTimed_stopped hend⟩

end Figures

/-! ## The latency -/

/-- The figures of the stages are the differences of the truncated times, and add up to the total. -/
structure UplinkMetrics.Exact (m : UplinkMetrics) (t₀ t₁ t₂ t₃ : Timespec) : Prop where
  capture : m.captureMs.toNat = t₁.ms - t₀.ms
  upload : m.uploadMs.toNat = t₂.ms - t₁.ms
  response : m.responseMs.toNat = t₃.ms - t₂.ms
  sum : m.captureMs.toNat + m.uploadMs.toNat + m.responseMs.toNat = m.totalMs.toNat

/-- Figures made of readings in order are exact as long as 32 bits hold the whole turn. -/
lemma UplinkMetrics.MadeOf.exact_iff {m : UplinkMetrics} {t₀ t₁ t₂ t₃ : Timespec} (h : m.MadeOf t₀ t₁ t₂ t₃)
    (h₀₁ : t₀.ns ≤ t₁.ns) (h₁₂ : t₁.ns ≤ t₂.ns) (h₂₃ : t₂.ns ≤ t₃.ns) :
    m.Exact t₀ t₁ t₂ t₃ ↔ t₃.ms - t₀.ms < 2 ^ 32 := by
  have hms₀₁ := Timespec.ms_mono h₀₁
  have hms₁₂ := Timespec.ms_mono h₁₂
  have hms₂₃ := Timespec.ms_mono h₂₃
  constructor
  · intro hexact
    have htotal := m.totalMs.toNat_lt
    rw [← hexact.sum, hexact.capture, hexact.upload, hexact.response] at htotal
    omega
  · intro hspan
    have hcapture : m.captureMs.toNat = t₁.ms - t₀.ms := by
      rw [h.capture, toNat_sub_stamp h₀₁ (by omega)]
    have hupload : m.uploadMs.toNat = t₂.ms - t₁.ms := by
      rw [h.upload, toNat_sub_stamp h₁₂ (by omega)]
    have hresponse : m.responseMs.toNat = t₃.ms - t₂.ms := by
      rw [h.response, toNat_sub_stamp h₂₃ (by omega)]
    refine ⟨hcapture, hupload, hresponse, ?_⟩
    rw [hcapture, hupload, hresponse, h.total, toNat_sub_stamp (h₀₁.trans (h₁₂.trans h₂₃)) hspan]
    omega

/-- A clock that shows these four times. -/
def clockOf (t₀ t₁ t₂ t₃ : Timespec) : ℕ → Timespec
  | 0 => t₀
  | 1 => t₁
  | 2 => t₂
  | _ => t₃

/-- **The latency of a turn**, for every turn that reaches its end and every four readings in order: the figures
are exact if and only if the truncated times of the first and the last are less than `2 ^ 32` ms apart. -/
theorem latency_exact_iff {rig : Rig} {imageId : CStr} {cap : ℕ} {g : Glasses}
    (hend : ReachesEnd rig imageId cap (g.cleared cap)) (m : UplinkMetrics) {t₀ t₁ t₂ t₃ : Timespec}
    (h₀₁ : t₀.ns ≤ t₁.ns) (h₁₂ : t₁.ns ≤ t₂.ns) (h₂₃ : t₂.ns ≤ t₃.ns) :
    let s := ((uplinkTimed rig (clockOf t₀ t₁ t₂ t₃) imageId cap).run ⟨g, some m, []⟩).2
    s.readings = [t₀, t₁, t₂, t₃] ∧
      ∃ m', s.metrics = some m' ∧ (m'.Exact t₀ t₁ t₂ t₃ ↔ t₃.ms - t₀.ms < 2 ^ 32) := by
  rcases uplinkTimed_figures rig (clockOf t₀ t₁ t₂ t₃) imageId cap g m
    with ⟨-, hreadings, m', hm', hmade⟩ | ⟨hstopped, -⟩
  · exact ⟨hreadings, m', hm', hmade.exact_iff h₀₁ h₁₂ h₂₃⟩
  · exact absurd hend hstopped

/-! ## A turn -/

/-- A picture. -/
def cupCapture : Capture .host := ⟨⟨ascii "cup", by decide⟩, ⟨ascii "image/jpeg", by decide⟩⟩

/-- A device with a camera. -/
def cupRig : Rig := { plainRig with camera := .ok cupCapture }

/-- The identifier of the picture. -/
def cupId : CStr := ⟨ascii "img-1", by decide⟩

/-- A device that will read the end of its turn. -/
def cupGlasses : Glasses := glassesOn (Frame.bytes ⟨kindJson, (PhoneMsg.playAudio []).text⟩)

lemma reachesEnd_cup : ReachesEnd cupRig cupId 0 (cupGlasses.cleared 0) := by
  have hheap : cupRig.sendHeap = true := rfl
  have hout : (cupGlasses.cleared 0).out = .fresh [] := rfl
  obtain ⟨out, hsend⟩ : ∃ out, (sdMsgSendImage cupRig.target true cupId cupCapture.data
      cupCapture.mediaType).run (.fresh []) = (.ok (), out) := sdMsgSendImage_short (by decide) (by decide)
  have hupload : (uploadImage cupRig cupId cupCapture).run (cupGlasses.cleared 0)
      = (.ok (), { cupGlasses.cleared 0 with out := out }) := by
    simp only [uploadImage, hheap, hout, hsend]
  have hfit : (PhoneMsg.playAudio []).text.length ≤ msgRecvCap := by decide
  obtain ⟨t, -, -, hrecv⟩ := sdMsgRecv_phoneMsg (.playAudio []) hfit (cupRig.typeBuf 0)
    (cupRig.textBuf 0).bytes (Inbound.steady_cut _ []) (List.append_nil _).symm
  rw [if_neg (by decide)] at hrecv
  have hconn : sdMsgRecv (cupRig.recvHeap 0) (cupRig.typeBuf 0) (cupRig.textBuf 0).bytes
      (cupGlasses.cleared 0).conn = _ := hrecv
  have hpass : (replyPass cupRig 0 0).run { cupGlasses.cleared 0 with out := out }
      = (.ok (some .playAudio), { cupGlasses.cleared 0 with out := out, conn := t }) := by
    simp only [replyPass, Effect.run_bind, recvReply, hconn]
    rfl
  exact ⟨cupCapture, _, .playAudio, _, rfl, hupload, replyLoop_stop hpass, by simp [finishTurn]⟩

/-- The last millisecond before the count wraps. -/
def lastMs : Timespec := ⟨4294967, 295000000, by decide⟩

/-- The millisecond in which the count is zero again. -/
def wrapMs : Timespec := ⟨4294967, 296000000, by decide⟩

/-- Later. -/
def laterMs : Timespec := ⟨4294968, 0, by decide⟩

/-- The count wraps while the picture is taken, and the figures are exact. -/
theorem latency_exact_wrap :
    ∃ m', ((uplinkTimed cupRig (clockOf lastMs wrapMs wrapMs laterMs) cupId 0).run
        ⟨cupGlasses, some ⟨0, 0, 0, 0, 0⟩, []⟩).2.metrics = some m' ∧
      m'.Exact lastMs wrapMs wrapMs laterMs := by
  obtain ⟨-, m', hm', hiff⟩ := latency_exact_iff reachesEnd_cup ⟨0, 0, 0, 0, 0⟩
    (show lastMs.ns ≤ wrapMs.ns by decide) (le_refl wrapMs.ns) (show wrapMs.ns ≤ laterMs.ns by decide)
  exact ⟨m', hm', hiff.mpr (by decide)⟩

/-- Just before the end of the first millisecond. -/
def firstMs : Timespec := ⟨0, 999999, by decide⟩

/-- **Less than `2 ^ 32` milliseconds, reported as none**: the turn ends when the count has just come round. -/
theorem latency_lost :
    ReachesEnd cupRig cupId 0 (cupGlasses.cleared 0) ∧ firstMs.ns ≤ wrapMs.ns ∧
      wrapMs.ns - firstMs.ns < 2 ^ 32 * 10 ^ 6 ∧
      ∃ m', ((uplinkTimed cupRig (clockOf firstMs firstMs firstMs wrapMs) cupId 0).run
          ⟨cupGlasses, some ⟨0, 0, 0, 0, 0⟩, []⟩).2.metrics = some m' ∧
        m'.responseMs = 0 ∧ m'.totalMs = 0 ∧ wrapMs.ms - firstMs.ms = 2 ^ 32 := by
  refine ⟨reachesEnd_cup, by decide, by decide, ?_⟩
  rcases uplinkTimed_figures cupRig (clockOf firstMs firstMs firstMs wrapMs) cupId 0 cupGlasses ⟨0, 0, 0, 0, 0⟩
    with ⟨-, -, m', hm', hmade⟩ | ⟨hstopped, -⟩
  · exact ⟨m', hm', hmade.response, hmade.total, by decide⟩
  · exact absurd reachesEnd_cup hstopped

end Sudonit
