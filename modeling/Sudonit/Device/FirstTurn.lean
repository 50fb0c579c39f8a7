import Sudonit.Device.Boot

/-!
# The first turn after a boot

`app_main` in the build that runs a turn, with the phone at the other end of its connection.

* `Clear.completes` — where nothing stands in the way, the boot reports a complete turn.
* `boot_turn_faithful` — what `turn complete` means, from the store and the sensor to the phone and back.
* `boot_turn_completes` — both ends of such a turn.
-/

namespace Sudonit

open Octets Stream Frames CText Python

/-- Nothing stands in the way of a boot with a turn: it reaches its server, and the camera takes a picture with
which the turn is smooth. -/
structure Clear (hw : Hardware) (w : Wake) (phone : Phone) (b : Board w.rig.target) (s : Served)
    (capture : Capture w.rig.target) (result : PipelineResult) (pcm : Pcm) : Prop extends FindsPhone w b where
  exposed : exposure hw.camera w.shutter (w.ready hw b) = .ok capture
  smooth : Smooth phone (w.rig.seeing (.ok capture)) captureId (w.link.on b.headset).glasses s capture result pcm
  steady : w.link.conn.Steady
  answered : w.link.conn.bytes
    = turnBytes phone (turnShot (w.rig.seeing (.ok capture)) captureId capture).image s

/-- Such a boot completes its turn. -/
lemma Clear.completes {hw : Hardware} {w : Wake} {phone : Phone} {b : Board w.rig.target} {s : Served}
    {capture : Capture w.rig.target} {result : PipelineResult} {pcm : Pcm}
    (hclear : Clear hw w phone b s capture result pcm) {p : Platform} (hroom : b.held.Roomy p)
    (hc : b.headset.camera.current = none) :
    ∃ b', (appMain hw p w .uplink).run b = (.ok .turnComplete, b') ∧ b'.headset.glasses.out.sent
      = w.link.out.sent ++ wire (turnShot (w.rig.seeing (.ok capture)) captureId capture).frames := by
  obtain ⟨h, hsettled, hglasses, hready, hmain⟩ :=
    hclear.appMain_run hw (show .uplink ≠ DataPlane.absent by simp) hroom hc
  obtain ⟨g, hturn, hsent⟩ := hclear.smooth.turns responseCap hclear.steady hclear.answered
  obtain ⟨c', hrun, -⟩ := runTurn_run hw w (h := w.link.on h) hsettled.current
  have hrig : turnRig hw w (w.link.on h) = w.rig.seeing (.ok capture) := by
    rw [turnRig, show (w.link.on h).camera.ready = w.ready hw b from hready, hclear.exposed]
  have hon : (w.link.on h).glasses = (w.link.on b.headset).glasses := by
    rw [Link.on, Link.on, hglasses]
  rw [hrig, hon, hturn] at hrun
  have hconverse : (converse hw w .uplink).run (w.link.on h)
      = (.ok .turnComplete, { w.link.on h with camera := c', glasses := g }) := by
    rw [converse, Effect.run_bind_ok (checked_eq_ok (r := .ok ()).mpr hrun)]
    rfl
  obtain ⟨b', hmet, hheadset⟩ := hmain _ _ hconverse
  exact ⟨b', hmet, hheadset ▸ hsent⟩

/-- **A boot completes its turn** where nothing stands in its way, under any segmentation of the two streams and
whichever attempt reaches the server; and the phone that gets what the boot sent has said what the boot read. -/
theorem boot_turn_completes {hw : Hardware} {w : Wake} {phone : Phone} {b : Board w.rig.target} {s : Served}
    {capture : Capture w.rig.target} {result : PipelineResult} {pcm : Pcm}
    (hclear : Clear hw w phone b s capture result pcm) {p : Platform} (hroom : b.held.Roomy p)
    (hc : b.headset.camera.current = none) :
    ∃ b', (appMain hw p w .uplink).run b = (.ok .turnComplete, b') ∧ ∀ conn : Inbound, conn.Steady →
      b'.headset.glasses.out.sent = w.link.out.sent ++ conn.bytes →
      (handleConnection phone conn s).2.out.sent = s.out.sent ++ w.link.conn.bytes := by
  obtain ⟨b', hrun, hsent⟩ := hclear.completes hroom hc
  refine ⟨b', hrun, ?_⟩
  intro conn hconn hup
  rw [hsent, List.append_cancel_left_eq] at hup
  rw [hclear.answered, hclear.smooth.served hconn hup.symm]

/-- Nothing stands in the way of the cup. -/
lemma cup_clear : ∃ capture result pcm,
    Clear ⟨.ov5640, .stub⟩ cupWake speakingPhone cupBoard ⟨.fresh [], []⟩ capture result pcm := by
  have hnamed : Named (bootRig.seeing (.ok cupPicture)) captureId := by
    refine ⟨?_, by decide⟩
    intro capture hcapture
    obtain rfl := Except.ok.inj hcapture
    exact ⟨by decide, by decide, by decide⟩
  refine ⟨cupPicture, { cupResult with audioFile := .wav (.ok murmur) }, murmur, ?_⟩
  exact
    { cup_finds with
      exposed := rfl
      smooth :=
        { ample := ⟨rfl, fun _ => rfl, rfl, fun _ => ⟨_, rfl⟩⟩
          named := hnamed
          captured := rfl
          opens := by
            rw [Shot.Opens, Shot.opening, length_imageBeginText]
            decide
          closes := by decide
          processed := rfl
          printed := rfl
          clear := cupText_clear
          fits := cupText_fits
          spoken := rfl
          takes := ⟨_, _, rfl, rfl⟩
          out := Outbound.steady_fresh _
          sock := Outbound.steady_fresh _ }
      steady := Inbound.steady_cut _ _
      answered := by simp only [cupWake, Inbound.cut] }

/-- The boot with the cup. -/
theorem boot_turn_completes_cup : ∃ b',
    (appMain ⟨.ov5640, .stub⟩ hostPlatform cupWake .uplink).run cupBoard = (.ok .turnComplete, b') ∧
    ∀ conn : Inbound, conn.Steady → b'.headset.glasses.out.sent = cupWake.link.out.sent ++ conn.bytes →
      (handleConnection speakingPhone conn ⟨.fresh [], []⟩).2.out.sent = cupWake.link.conn.bytes := by
  obtain ⟨capture, result, pcm, hclear⟩ := cup_clear
  exact boot_turn_completes hclear cupBoard_roomy rfl

end Sudonit
