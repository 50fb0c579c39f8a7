import Sudonit.Core.Slots
import Sudonit.Device.Config
import Sudonit.Device.Turn

/-!
# Frames of the camera

A frame is a buffer that `sd_camera_capture` hands out and `sd_camera_release` takes back: a block of the
heap in `camera_mock.c`, the frame buffer of the driver in `camera_esp.c`.  The application of `device.c`
captures in `sd_device_capture_cycle` and in `sd_device_run_uplink`.

* `sdCameraInit`, `sdCameraCapture`, `sdCameraRelease` — the three backends.
* `sdDeviceInit`, `sdDeviceCaptureCycle`, `sdDeviceRunUplinkOn` — the application.
* `uplinkOn_refines` — a turn with the camera is a turn with the picture it takes.
* `frames_returned` — over any number of calls, every frame is returned before the next is taken.
-/

namespace Sudonit

open Octets CText Slots

/-! ## Backends -/

/-- What `esp_camera_fb_get` hands out. -/
structure Grab (target : Target) where
  jpeg : Bool
  buf : Object target
  width : ℕ
  height : ℕ

/-- What one capture finds: memory for the mock, and a frame of the driver. -/
structure Shutter (target : Target) where
  heap : Bool
  grab : Option (Grab target)

/-- The backends of `camera.h`. -/
inductive CameraBackend
  | mock
  | ov5640
  | stub

/-- A frame was handed out or taken back. -/
inductive FrameMark
  | taken (n : ℕ)
  | returned (n : ℕ)
  deriving DecidableEq

/-- The state of a backend: `s_initialized` or `s_inited`, `s_fb`, the frames that are handed out; and the
history, which is no variable of the code. -/
structure CameraState (target : Target) where
  ready : Bool
  current : Option ℕ
  out : List (ℕ × Object target)
  log : List FrameMark

/-- `sd_image_t`; `data` is the number of a frame. -/
structure SdImage where
  mediaType : CStr
  data : Option ℕ
  len : ℕ
  width : UInt16
  height : UInt16

section Backends

variable {target : Target}

/-- `malloc` and `esp_camera_fb_get`. -/
def takeFrame (buf : Object target) : Effect (CameraState target) Halt ℕ := ⟨fun c =>
  (.ok (lowest 0 (taken c.out)), { c with
    out := add 0 buf c.out
    log := c.log ++ [.taken (lowest 0 (taken c.out))] })⟩

/-- `free` and `esp_camera_fb_return`. -/
def returnFrame (n : ℕ) : Effect (CameraState target) Halt Unit := ⟨fun c =>
  if n ∈ taken c.out then (.ok (), { c with out := remove n c.out, log := c.log ++ [.returned n] })
  else (.error .undefined, c)⟩

/-- `s_fb` -/
def holdFrame (n : ℕ) : Effect (CameraState target) Halt Unit := ⟨fun c => (.ok (), { c with current := some n })⟩

/-- `MOCK_W` and `MOCK_H` -/
def mockW : ℕ := 64

def mockH : ℕ := 48

/-- The gradient of the mock. -/
def mockGradient : Bytes :=
  (List.range mockH).flatMap fun y => (List.range mockW).flatMap fun x =>
    [UInt8.ofNat (x * 255 / mockW), UInt8.ofNat (y * 255 / mockH), 128]

lemma length_mockGradient : mockGradient.length = mockW * mockH * 3 := by
  simp [mockGradient, List.length_flatMap, mockW, mockH]

/-- The gradient in memory. -/
def mockFrame (target : Target) : Object target where
  bytes := mockGradient
  length_le := by
    rw [length_mockGradient]
    cases target <;> decide

/-- `"image/x-mock-rgb"` -/
def mockMediaType : CStr := ⟨ascii "image/x-mock-rgb", by decide⟩

lemma jpeg_no_nul : 0 ∉ ascii "image/jpeg" := by decide

/-- `"image/jpeg"` -/
def jpegMediaType : CStr := ⟨ascii "image/jpeg", jpeg_no_nul⟩

/-- The image of the mock. -/
def mockImage (n : ℕ) : SdImage where
  mediaType := mockMediaType
  data := some n
  len := mockW * mockH * 3
  width := UInt16.ofNat mockW
  height := UInt16.ofNat mockH

/-- The image of the driver. -/
def espImage (n : ℕ) (g : Grab target) : SdImage where
  mediaType := jpegMediaType
  data := some n
  len := g.buf.bytes.length
  width := UInt16.ofNat g.width
  height := UInt16.ofNat g.height

/-- `sd_camera_init`; `ok` is what `esp_camera_init` returns. -/
def sdCameraInit (backend : CameraBackend) (ok : Bool) : Effect (CameraState target) Halt Unit :=
  match backend with
  | .mock => ⟨fun c => (.ok (), { c with ready := true })⟩
  | .ov5640 => ⟨fun c =>
      if c.ready then (.ok (), c)
      else if ok = false then (.error (.code .io), c)
      else (.ok (), { c with ready := true })⟩
  | .stub => pure ()

/-- `sd_camera_capture` of `camera_mock.c`. -/
def mockCapture (heap : Bool) : Effect (CameraState target) Halt SdImage := ⟨fun c =>
  if c.ready = false then (.error (.code .again), c)
  else if heap = false then (.error (.code .noMem), c)
  else (do
    let n ← takeFrame (mockFrame target)
    return mockImage n : Effect (CameraState target) Halt SdImage).run c⟩

/-- `sd_camera_capture` of `camera_esp.c` with the driver. -/
def espCapture (grab : Option (Grab target)) : Effect (CameraState target) Halt SdImage := ⟨fun c =>
  if c.ready = false then (.error (.code .unsupported), c)
  else if c.current.isSome then (.error (.code .invalid), c)
  else
    match grab with
    | none => (.error (.code .io), c)
    | some g => (do
        let n ← takeFrame g.buf
        if g.jpeg = false then do
          returnFrame n
          Effect.fail (.code .io)
        else holdFrame n
        return espImage n g : Effect (CameraState target) Halt SdImage).run c⟩

/-- `sd_camera_capture`. -/
def sdCameraCapture (backend : CameraBackend) (shutter : Shutter target) :
    Effect (CameraState target) Halt SdImage :=
  match backend with
  | .mock => mockCapture shutter.heap
  | .ov5640 => espCapture shutter.grab
  | .stub => Effect.fail (.code .unsupported)

/-- `sd_camera_release`. -/
def sdCameraRelease (backend : CameraBackend) (img : SdImage) : Effect (CameraState target) Halt SdImage :=
  match backend with
  | .mock =>
      match img.data with
      | none => pure img
      | some n => do
          returnFrame n
          return { img with data := none, len := 0 }
  | .ov5640 => ⟨fun c =>
      match c.current with
      | none => (.ok { img with data := none, len := 0 }, c)
      | some n => (do
          returnFrame n
          return { img with data := none, len := 0 }).run { c with current := none }⟩
  | .stub => pure img

end Backends

/-! ## Battery -/

/-- The backends of `battery.h`. -/
inductive BatteryBackend
  | mock
  | stub

/-- `atoi` of the host: the `long` that `strtol` finds, as an `int`. -/
def atoi (s : Bytes) : ℤ := (strtol Target.host.longMax s).1.bmod (2 ^ 32)

/-- `sd_battery_init`: what `s_percent` is after it, given `SUDONIT_MOCK_BATTERY`. -/
def sdBatteryInit (backend : BatteryBackend) (override : Option CStr) (percent : UInt8) : UInt8 :=
  match backend, override with
  | .mock, some text => UInt8.ofNat (max 0 (min (atoi text.bytes) 100)).toNat
  | _, _ => percent

/-- `sd_battery_read`. -/
def sdBatteryRead (backend : BatteryBackend) (percent : UInt8) : Except SdErr UInt8 :=
  match backend with
  | .mock => .ok percent
  | .stub => .error .unsupported

/-! ## The application -/

/-- The camera and the battery of a device. -/
structure Hardware where
  camera : CameraBackend
  battery : BatteryBackend

/-- The state of the device: the camera, `s_percent`, and the rest of a run. -/
structure Headset (target : Target) where
  camera : CameraState target
  percent : UInt8
  glasses : Glasses

/-- `sd_device_status_t` -/
structure DeviceStatus where
  imageBytes : ℕ
  imageWidth : UInt16
  imageHeight : UInt16
  batteryPercent : UInt8
  deriving DecidableEq

section Application

variable {target : Target} {α : Type}

def onCamera (x : Effect (CameraState target) Halt α) : Effect (Headset target) Halt α :=
  Effect.within Headset.camera (fun c h => { h with camera := c }) x

def inGlasses (x : Effect Glasses Halt α) : Effect (Headset target) Halt α :=
  Effect.within Headset.glasses (fun g h => { h with glasses := g }) x

/-- `sd_device_init`. -/
def sdDeviceInit (hw : Hardware) (ok : Bool) (override : Option CStr) : Effect (Headset target) Halt Unit := do
  onCamera (sdCameraInit hw.camera ok)
  ⟨fun h => (.ok (), { h with percent := sdBatteryInit hw.battery override h.percent })⟩

/-- `sd_battery_read`. -/
def readBattery (hw : Hardware) : Effect (Headset target) Halt UInt8 := ⟨fun h =>
  match sdBatteryRead hw.battery h.percent with
  | .error e => (.error (.code e), h)
  | .ok percent => (.ok percent, h)⟩

/-- `sd_device_capture_cycle`. -/
def sdDeviceCaptureCycle (hw : Hardware) (shutter : Shutter target) : Effect (Headset target) Halt DeviceStatus := do
  let percent ← readBattery hw
  let img ← onCamera (sdCameraCapture hw.camera shutter)
  let _ ← onCamera (sdCameraRelease hw.camera img)
  return ⟨img.len, img.width, img.height, percent⟩

/-- The `img.len` octets at `img.data`. -/
def imageData (img : SdImage) : Effect (CameraState target) Halt (Object target) := ⟨fun c =>
  match img.data.bind fun n => c.out.lookup n with
  | none => (.error .undefined, c)
  | some obj =>
      if obj.bytes.length < img.len then (.error .undefined, c)
      else (.ok ⟨obj.bytes.take img.len, (List.length_take_le' _ _).trans obj.length_le⟩, c)⟩

/-- `sd_device_run_uplink`, with the camera. -/
def sdDeviceRunUplinkOn (hw : Hardware) (rig : Rig) (shutter : Shutter rig.target) (imageId : CStr) (cap : ℕ) :
    Effect (Headset rig.target) Halt Unit := do
  inGlasses (clearResponse cap)
  let img ← onCamera (sdCameraCapture hw.camera shutter)
  let data ← onCamera (imageData img)
  let sent ← Effect.attempt (inGlasses (uploadImage rig imageId ⟨data, img.mediaType⟩))
  let _ ← onCamera (sdCameraRelease hw.camera img)
  Effect.ofExcept sent
  let turnEnd ← inGlasses ⟨replyLoop rig cap 0⟩
  inGlasses (finishTurn rig turnEnd)

/-! ## One frame -/

/-- The picture that a capture takes, from a camera that is ready or not. -/
def exposure (backend : CameraBackend) (shutter : Shutter target) (ready : Bool) : Except SdErr (Capture target) :=
  match backend with
  | .mock =>
      if ready = false then .error .again
      else if shutter.heap = false then .error .noMem
      else .ok ⟨mockFrame target, mockMediaType⟩
  | .ov5640 =>
      if ready = false then .error .unsupported
      else
        match shutter.grab with
        | none => .error .io
        | some g => if g.jpeg = false then .error .io else .ok ⟨g.buf, jpegMediaType⟩
  | .stub => .error .unsupported

/-- Every frame that was handed out from here to there was taken back before the next. -/
def Paired (before after : List FrameMark) : Prop :=
  ∃ ns : List ℕ, after = before ++ ns.flatMap fun n => [.taken n, .returned n]

lemma Paired.refl (log : List FrameMark) : Paired log log := ⟨[], by simp⟩

lemma Paired.trans {a b c : List FrameMark} (hab : Paired a b) (hbc : Paired b c) : Paired a c := by
  obtain ⟨ns, rfl⟩ := hab
  obtain ⟨ms, rfl⟩ := hbc
  exact ⟨ns ++ ms, by rw [List.flatMap_append, List.append_assoc]⟩

/-- The camera holds what it held, and nothing is with the application. -/
structure Idle (c c' : CameraState target) : Prop where
  current : c'.current = none
  out : c'.out = c.out
  paired : Paired c.log c'.log

lemma Idle.refl {c : CameraState target} (h : c.current = none) : Idle c c := ⟨h, rfl, Paired.refl _⟩

lemma Idle.trans {a b c : CameraState target} (hab : Idle a b) (hbc : Idle b c) : Idle a c :=
  ⟨hbc.current, hbc.out.trans hab.out, hab.paired.trans hbc.paired⟩

/-- A frame is with the application, as this image. -/
structure Lent (backend : CameraBackend) (c : CameraState target) (img : SdImage) (picture : Capture target)
    (c' : CameraState target) : Prop where
  frame : ∃ n ∉ taken c.out, img.data = some n ∧ c'.out = (n, picture.data) :: c.out ∧
    c'.log = c.log ++ [.taken n] ∧ (backend = .ov5640 → c'.current = some n)
  len : img.len = picture.data.bytes.length
  mediaType : img.mediaType = picture.mediaType
  mock : backend = .mock → c'.current = none
  enabled : backend ≠ .stub

/-- The frame handed out last is taken back. -/
lemma returnFrame_front {n : ℕ} {buf : Object target} {rest : List (ℕ × Object target)} {c : CameraState target}
    (hn : n ∉ taken rest) (hout : c.out = (n, buf) :: rest) :
    (returnFrame n).run c = (.ok (), { c with out := rest, log := c.log ++ [.returned n] }) := by
  simp only [returnFrame, hout, taken_cons, List.mem_cons_self, if_true, remove_cons_self hn]

/-- **A capture** takes the picture, or fails and holds no frame. -/
theorem sdCameraCapture_run {c : CameraState target} (hc : c.current = none) (backend : CameraBackend)
    (shutter : Shutter target) :
    (∃ e c', exposure backend shutter c.ready = .error e ∧
        (sdCameraCapture backend shutter).run c = (.error (.code e), c') ∧ Idle c c' ∧ c'.ready = c.ready) ∨
      ∃ picture img c', exposure backend shutter c.ready = .ok picture ∧
        (sdCameraCapture backend shutter).run c = (.ok img, c') ∧ Lent backend c img picture c' := by
  have hfree := lowest_notMem 0 (taken c.out)
  have hidle := Idle.refl hc
  cases backend with
  | stub => exact Or.inl ⟨_, c, rfl, rfl, hidle, rfl⟩
  | mock =>
      simp only [exposure, sdCameraCapture, mockCapture]
      split_ifs with hready hheap
      · exact Or.inl ⟨_, c, rfl, rfl, hidle, rfl⟩
      · exact Or.inl ⟨_, c, rfl, rfl, hidle, rfl⟩
      · refine Or.inr ⟨_, _, _, rfl, rfl, ⟨_, hfree, rfl, rfl, rfl, by simp⟩, ?_, rfl, fun _ => hc, by simp⟩
        exact length_mockGradient.symm
  | ov5640 =>
      simp only [exposure, sdCameraCapture, espCapture, hc, Option.isSome_none, Bool.false_eq_true, if_false]
      split_ifs with hready
      · exact Or.inl ⟨_, c, rfl, rfl, hidle, rfl⟩
      · cases shutter.grab with
        | none => exact Or.inl ⟨_, c, rfl, rfl, hidle, rfl⟩
        | some g =>
            simp only
            have htake : (takeFrame g.buf).run c = (.ok (lowest 0 (taken c.out)), { c with
                out := add 0 g.buf c.out
                log := c.log ++ [.taken (lowest 0 (taken c.out))] }) := rfl
            split_ifs with hjpeg
            · refine Or.inl ⟨_, { c with
                log := c.log ++ [.taken (lowest 0 (taken c.out))] ++ [.returned (lowest 0 (taken c.out))] },
                rfl, ?_, ⟨hc, rfl, [lowest 0 (taken c.out)], by simp⟩, rfl⟩
              rw [Effect.run_bind_ok htake, Effect.run_bind_ok (returnFrame_front hfree rfl)]
              rfl
            · refine Or.inr ⟨_, espImage (lowest 0 (taken c.out)) g, { c with
                out := add 0 g.buf c.out
                log := c.log ++ [.taken (lowest 0 (taken c.out))]
                current := some (lowest 0 (taken c.out)) }, rfl, ?_,
                ⟨_, hfree, rfl, rfl, rfl, fun _ => rfl⟩, rfl, rfl, by simp, by simp⟩
              rw [Effect.run_bind_ok htake]
              rfl

/-- **A release** takes the frame back. -/
theorem sdCameraRelease_run {backend : CameraBackend} {c c' : CameraState target} {img : SdImage}
    {picture : Capture target} (h : Lent backend c img picture c') :
    ∃ img' c'', (sdCameraRelease backend img).run c' = (.ok img', c'') ∧ Idle c c'' ∧ c''.ready = c'.ready := by
  obtain ⟨n, hn, hdata, hout, hlog, hcurrent⟩ := h.frame
  have hpaired : Paired c.log (c'.log ++ [.returned n]) := ⟨[n], by simp [hlog]⟩
  cases backend with
  | mock =>
      simp only [sdCameraRelease, hdata]
      rw [Effect.run_bind_ok (returnFrame_front hn hout)]
      exact ⟨_, _, rfl, ⟨h.mock rfl, rfl, hpaired⟩, rfl⟩
  | ov5640 =>
      simp only [sdCameraRelease, hcurrent rfl]
      have hfront : ({ c' with current := none } : CameraState target).out = (n, picture.data) :: c.out := hout
      rw [Effect.run_bind_ok (returnFrame_front hn hfront)]
      exact ⟨_, _, rfl, ⟨rfl, rfl, hpaired⟩, rfl⟩
  | stub => exact absurd rfl h.enabled

/-- The octets that are sent are the picture. -/
lemma imageData_run {backend : CameraBackend} {c c' : CameraState target} {img : SdImage}
    {picture : Capture target} (h : Lent backend c img picture c') :
    (imageData img).run c' = (.ok picture.data, c') := by
  obtain ⟨n, -, hdata, hout, -, -⟩ := h.frame
  have htake : picture.data.bytes.take picture.data.bytes.length = picture.data.bytes := List.take_length
  simp only [imageData, hdata, hout, Option.bind_some, List.lookup_cons_self, h.len, lt_irrefl, if_false, htake]

/-! ## The application, call by call -/

/-- What the device leaves of a call that took a frame and gave it back, or took none. -/
def Settled (h h' : Headset target) : Prop := Idle h.camera h'.camera

variable {hw : Hardware} {h : Headset target}

/-- **A capture cycle** returns the frame it took. -/
theorem captureCycle_settled (hc : h.camera.current = none) (shutter : Shutter target) :
    Settled h ((sdDeviceCaptureCycle hw shutter).run h).2 ∧
      ((sdDeviceCaptureCycle hw shutter).run h).1 ≠ .error .undefined := by
  have idle := Idle.refl hc
  rw [sdDeviceCaptureCycle, Effect.run_bind]
  simp only [readBattery]
  cases sdBatteryRead hw.battery h.percent with
  | error e => exact ⟨idle, by simp⟩
  | ok percent =>
      simp only
      rw [Effect.run_bind, onCamera, Effect.run_within]
      rcases sdCameraCapture_run hc hw.camera shutter with
        ⟨e, c', -, hrun, hidle, -⟩ | ⟨picture, img, c', -, hrun, hlent⟩
      · rw [hrun]
        exact ⟨hidle, by simp⟩
      · obtain ⟨img', c'', hrelease, hidle, -⟩ := sdCameraRelease_run hlent
        rw [hrun]
        simp only [Effect.run_bind, onCamera, Effect.run_within, hrelease, Effect.run_pure]
        exact ⟨hidle, by simp⟩

end Application

lemma inGlasses_bind {target : Target} {α β : Type} (x : Effect Glasses Halt α) (f : α → Effect Glasses Halt β)
    (h : Headset target) :
    (inGlasses x >>= fun a => inGlasses (f a)).run h = (inGlasses (x >>= f)).run h := by
  simp only [inGlasses]
  refine Effect.within_bind ?_ ?_ x f h
  · exact fun _ _ => rfl
  · exact fun _ _ _ => rfl

/-- The reply loop does not look at the camera. -/
lemma replyLoop_camera (rig : Rig) (camera : Except SdErr (Capture rig.target)) (cap n : ℕ) (g : Glasses) :
    replyLoop { rig with camera := camera } cap n g = replyLoop rig cap n g := by
  have hpass : ∀ n, replyPass { rig with camera := camera } cap n = replyPass rig cap n := fun _ => rfl
  fun_induction replyLoop rig cap n g with
  | case1 n g e g' h =>
      rw [replyLoop]
      split <;> simp_all
  | case2 n g turnEnd g' h =>
      rw [replyLoop]
      split <;> simp_all
  | case3 n g g' h ih =>
      rw [replyLoop]
      split <;> simp_all

lemma uploadImage_camera (rig : Rig) (camera : Except SdErr (Capture rig.target)) (imageId : CStr)
    (picture : Capture rig.target) :
    uploadImage { rig with camera := camera } imageId picture = uploadImage rig imageId picture := by
  simp only [uploadImage]

lemma replies_camera (rig : Rig) (camera : Except SdErr (Capture rig.target)) (cap : ℕ) (g : Glasses) :
    (do let turnEnd ← ⟨replyLoop { rig with camera := camera } cap 0⟩
        finishTurn { rig with camera := camera } turnEnd : Effect Glasses Halt Unit).run g
      = (do let turnEnd ← ⟨replyLoop rig cap 0⟩
            finishTurn rig turnEnd : Effect Glasses Halt Unit).run g := by
  have hfinish : finishTurn { rig with camera := camera } = finishTurn rig := by
    funext turnEnd
    cases turnEnd <;> rfl
  have hloop : replyLoop { rig with camera := camera } cap 0 = replyLoop rig cap 0 :=
    funext (replyLoop_camera rig camera cap 0)
  rw [hloop, hfinish]

/-- **A turn with the camera is a turn with the picture it takes**, and it returns the frame before it reads
the first reply. -/
theorem uplinkOn_refines (hw : Hardware) (rig : Rig) (shutter : Shutter rig.target) (imageId : CStr) (cap : ℕ)
    {h : Headset rig.target} (hc : h.camera.current = none) :
    ∃ c', (sdDeviceRunUplinkOn hw rig shutter imageId cap).run h
        = (((sdDeviceRunUplink { rig with camera := exposure hw.camera shutter h.camera.ready } imageId cap).run
            h.glasses).1, { h with
          camera := c'
          glasses := ((sdDeviceRunUplink
            { rig with camera := exposure hw.camera shutter h.camera.ready } imageId cap).run h.glasses).2 }) ∧
      Idle h.camera c' := by
  obtain ⟨g, hclear⟩ : ∃ g, (clearResponse cap).run h.glasses = (.ok (), g) := ⟨_, rfl⟩
  have hcleared : (inGlasses (clearResponse cap)).run h = (.ok (), { h with glasses := g }) := by
    rw [inGlasses, Effect.run_within, hclear]
  rw [sdDeviceRunUplinkOn, sdDeviceRunUplink, Effect.run_bind_ok hclear, captureImage, Effect.run_ofExcept_bind,
    Effect.run_bind_ok hcleared, Effect.run_bind, onCamera, Effect.run_within]
  rcases sdCameraCapture_run hc hw.camera shutter with
    ⟨e, c', hexposure, hrun, hidle, -⟩ | ⟨picture, img, c', hexposure, hrun, hlent⟩
  · rw [hrun, hexposure]
    exact ⟨c', rfl, hidle⟩
  · obtain ⟨img', c'', hrelease, hidle, -⟩ := sdCameraRelease_run hlent
    have hdata := imageData_run hlent
    refine ⟨c'', ?_, hidle⟩
    rw [hrun, hexposure]
    simp only
    rw [Effect.run_bind, onCamera, Effect.run_within, hdata]
    simp only
    rw [Effect.run_bind, Effect.run_attempt, hlent.mediaType, inGlasses, Effect.run_within]
    simp only
    rw [Effect.run_bind, onCamera, Effect.run_within, hrelease]
    simp only
    rw [Effect.run_ofExcept_bind, Effect.run_bind]
    obtain ⟨r, g', hup⟩ : ∃ r g', (uploadImage rig imageId picture).run g = (r, g') :=
      ⟨_, _, Prod.mk.eta.symm⟩
    rw [hup, uploadImage_camera, Effect.run_bind (uploadImage rig imageId picture), hup]
    cases r with
    | error e => rfl
    | ok _ =>
        simp only
        rw [replies_camera rig (.ok picture) cap g']
        exact inGlasses_bind ⟨replyLoop rig cap 0⟩ (finishTurn rig) _

/-! ## Over any number of calls -/

/-- The same surroundings, on a target. -/
def Rig.on (rig : Rig) (target : Target) : Rig := { rig with target := target, camera := .error .unsupported }

/-- A call of the application, with what it finds. -/
inductive DeviceCall (target : Target)
  | init (ok : Bool) (override : Option CStr)
  | captureCycle (shutter : Shutter target)
  | runUplink (rig : Rig) (shutter : Shutter target) (imageId : CStr) (cap : ℕ)

variable {target : Target}

def DeviceCall.effect (hw : Hardware) : DeviceCall target → Effect (Headset target) Halt Unit
  | .init ok override => sdDeviceInit hw ok override
  | .captureCycle shutter => do
      let _ ← sdDeviceCaptureCycle hw shutter
  | .runUplink rig shutter imageId cap => sdDeviceRunUplinkOn hw (rig.on target) shutter imageId cap

/-- Call after call, whatever each returns. -/
def runCalls (hw : Hardware) (calls : List (DeviceCall target)) : Effect (Headset target) Halt Unit :=
  Effect.forEach (fun call => do let _ ← Effect.attempt (call.effect hw)) calls

/-- One call. -/
lemma DeviceCall.settled (hw : Hardware) (call : DeviceCall target) {h : Headset target}
    (hc : h.camera.current = none) : Settled h ((call.effect hw).run h).2 := by
  cases call with
  | init ok override =>
      have idle := Idle.refl hc
      simp only [effect, sdDeviceInit, onCamera, Effect.run_bind, Effect.run_within, sdCameraInit]
      cases hw.camera with
      | mock => exact ⟨hc, rfl, Paired.refl _⟩
      | stub => exact idle
      | ov5640 =>
          simp only
          split_ifs
          · exact idle
          · exact idle
          · exact ⟨hc, rfl, Paired.refl _⟩
  | captureCycle shutter =>
      have hsettled := (@captureCycle_settled target hw h hc shutter).1
      rw [effect, Effect.run_bind]
      rcases hrun : (sdDeviceCaptureCycle hw shutter).run h with ⟨e | status, h'⟩ <;>
        rwa [hrun] at hsettled
  | runUplink rig shutter imageId cap =>
      obtain ⟨c', hrun, hidle⟩ := uplinkOn_refines hw (rig.on target) shutter imageId cap hc
      rw [effect, hrun]
      exact hidle

/-- **Every frame is returned before the next is taken.**  Whatever the camera, its driver, the link and
the phone do, over any number of calls of the application that do nothing undefined, in any order and whether
they succeed or not: the frames handed out are taken back one by one, each once, and none is kept. -/
theorem frames_returned (hw : Hardware) (calls : List (DeviceCall target)) {h : Headset target}
    (hc : h.camera.current = none) : ∃ h', (runCalls hw calls).run h = (.ok (), h') ∧
      h'.camera.current = none ∧ h'.camera.out = h.camera.out ∧ Paired h.camera.log h'.camera.log := by
  have run : ∀ (calls : List (DeviceCall target)) (h : Headset target), h.camera.current = none →
      ∃ h', (runCalls hw calls).run h = (.ok (), h') ∧ Settled h h' := by
    intro calls
    induction calls with
    | nil => exact fun h hc => ⟨h, rfl, Idle.refl hc⟩
    | cons call calls ih =>
        intro h hc
        have hfirst := call.settled hw hc
        obtain ⟨h', hrest, hlater⟩ := ih ((call.effect hw).run h).2 hfirst.current
        refine ⟨h', ?_, hfirst.trans hlater⟩
        rw [runCalls, Effect.forEach_cons, Effect.run_bind, Effect.run_bind, Effect.run_attempt]
        exact hrest
  obtain ⟨h', hrun, hsettled⟩ := run calls h hc
  exact ⟨h', hrun, hsettled.current, hsettled.out, hsettled.paired⟩

/-- A device with the driver, before its camera is up. -/
def darkHeadset : Headset .esp32 := ⟨⟨false, none, [], []⟩, 87, glassesOn []⟩

/-- The camera comes up, and the sensor gives one frame that is no JPEG and then one that is. -/
theorem frames_returned_twice : ∃ h', (runCalls ⟨.ov5640, .mock⟩ [.init true none,
      .captureCycle ⟨true, some ⟨false, ⟨[1], by decide⟩, 800, 600⟩⟩,
      .captureCycle ⟨true, some ⟨true, ⟨[2], by decide⟩, 800, 600⟩⟩]).run darkHeadset = (.ok (), h') ∧
    h'.camera.current = none ∧ h'.camera.out = darkHeadset.camera.out ∧
    Paired darkHeadset.camera.log h'.camera.log :=
  frames_returned ⟨.ov5640, .mock⟩ _ rfl

/-! ## What a call leaves alone -/

section Headset

variable {target : Target} {hw : Hardware} {h : Headset target}

lemma keepsGlasses_onCamera {α : Type} (g : Glasses) (x : Effect (CameraState target) Halt α) :
    (onCamera x).Keeps fun h : Headset target => h.glasses = g := fun _ hg => hg

lemma keepsGlasses_captureCycle (g : Glasses) (hw : Hardware) (shutter : Shutter target) :
    (sdDeviceCaptureCycle hw shutter).Keeps fun h => h.glasses = g := by
  refine Effect.Keeps.bind ?_ fun percent => (keepsGlasses_onCamera g _).bind fun img =>
    (keepsGlasses_onCamera g _).bind fun _ => Effect.Keeps.pure _
  intro h hg
  simp only [readBattery]
  cases sdBatteryRead hw.battery h.percent <;> exact hg

section Ready

variable {ready : Bool}

lemma keepsReady_takeFrame (buf : Object target) : (takeFrame buf).Keeps fun c => c.ready = ready := fun _ hc => hc

lemma keepsReady_returnFrame (n : ℕ) :
    (returnFrame n : Effect (CameraState target) Halt Unit).Keeps fun c => c.ready = ready := by
  intro c hc
  rw [returnFrame]
  simp only
  split_ifs <;> exact hc

/-- A capture leaves a camera as ready as it was, and so does a release. -/
lemma keepsReady_capture (backend : CameraBackend) (shutter : Shutter target) :
    (sdCameraCapture backend shutter).Keeps fun c => c.ready = ready := by
  intro c hc
  cases backend with
  | stub => exact hc
  | mock =>
      simp only [sdCameraCapture, mockCapture]
      split_ifs
      · exact hc
      · exact hc
      · exact ((keepsReady_takeFrame _).bind fun _ => Effect.Keeps.pure _) c hc
  | ov5640 =>
      simp only [sdCameraCapture, espCapture]
      split_ifs
      · exact hc
      · exact hc
      · cases shutter.grab with
        | none => exact hc
        | some g =>
            refine ((keepsReady_takeFrame g.buf).bind fun n => ?_) c hc
            split_ifs
            · exact (keepsReady_returnFrame n).bind fun _ => Effect.Keeps.fail _
            · exact Effect.Keeps.bind (fun _ h => h) fun _ => Effect.Keeps.pure _

lemma keepsReady_release (backend : CameraBackend) (img : SdImage) :
    (sdCameraRelease backend img : Effect (CameraState target) Halt SdImage).Keeps fun c => c.ready = ready := by
  intro c hc
  cases backend with
  | stub => exact hc
  | mock =>
      simp only [sdCameraRelease]
      cases img.data with
      | none => exact hc
      | some n => exact ((keepsReady_returnFrame n).bind fun _ => Effect.Keeps.pure _) c hc
  | ov5640 =>
      simp only [sdCameraRelease]
      cases c.current with
      | none => exact hc
      | some n => exact ((keepsReady_returnFrame n).bind fun _ => Effect.Keeps.pure _) _ hc

lemma keepsReady_captureCycle (hw : Hardware) (shutter : Shutter target) :
    (sdDeviceCaptureCycle hw shutter).Keeps fun h => h.camera.ready = ready := by
  refine Effect.Keeps.bind ?_ fun percent => ?_
  · intro h hh
    simp only [readBattery]
    cases sdBatteryRead hw.battery h.percent <;> exact hh
  · refine Effect.Keeps.bind (fun h hh => keepsReady_capture hw.camera shutter h.camera hh) fun img => ?_
    exact Effect.Keeps.bind (fun h hh => keepsReady_release hw.camera img h.camera hh) fun _ => Effect.Keeps.pure _

end Ready

/-- `sd_device_init` leaves the glasses and the frames alone. -/
lemma sdDeviceInit_settled (hc : h.camera.current = none) (ok : Bool) (override : Option CStr) :
    Settled h ((sdDeviceInit hw ok override).run h).2 ∧
      ((sdDeviceInit hw ok override).run h).2.glasses = h.glasses ∧
      ((sdDeviceInit hw ok override).run h).1 ≠ .error .undefined := by
  refine ⟨DeviceCall.settled hw (.init ok override) hc, ?_, ?_⟩
  · refine Effect.Keeps.bind (keepsGlasses_onCamera h.glasses _) (fun _ => ?_) h rfl
    exact fun _ hg => hg
  · simp only [sdDeviceInit, onCamera, Effect.run_bind, Effect.run_within, sdCameraInit]
    cases hw.camera with
    | mock => simp
    | stub => simp
    | ov5640 =>
        simp only
        split_ifs <;> simp

end Headset

end Sudonit
