import Sudonit.Core.Frames
import Sudonit.Core.Writing

/-!
# Streams that are cut short

Whatever a link does, a program that writes to it has written the front of what it was to write, and a
receiver of frames behind it gets the first of the frames that were written.

* `SendsFront x bs` — whatever happens, `x` writes a prefix of `bs`, and all of it when it returns.
* `receiveFrame_next`, `receive_next` — a frame received is the next of those that were written.
* `drain_prefix` — the frames received are the first of those that were written, in order.
-/

namespace Stream

open Octets

variable {ε α : Type}

/-- Whatever happens, the computation writes a prefix of these bytes, and all of them when it returns. -/
def SendsFront (x : Effect Outbound ε Unit) (bs : Bytes) : Prop :=
  ∀ s, ∃ done, done <+: bs ∧ (x.run s).2.sent = s.sent ++ done ∧ ((x.run s).1 = .ok () → done = bs)

lemma SendsFront.fail (e : ε) (bs : Bytes) : SendsFront (Effect.fail e) bs := by
  intro s
  exact ⟨[], List.nil_prefix, (List.append_nil _).symm, by simp⟩

lemma SendsFront.pure : SendsFront (pure () : Effect Outbound ε Unit) [] := by
  intro s
  exact ⟨[], List.nil_prefix, (List.append_nil _).symm, fun _ => rfl⟩

lemma SendsFront.bind {x y : Effect Outbound ε Unit} {a b : Bytes} (hx : SendsFront x a) (hy : SendsFront y b) :
    SendsFront (x >>= fun _ => y) (a ++ b) := by
  intro s
  obtain ⟨done, hpre, hsent, hall⟩ := hx s
  rcases hrun : x.run s with ⟨e | _, s₁⟩
  · rw [hrun] at hsent
    rw [Effect.run_bind_error hrun]
    exact ⟨done, hpre.trans (List.prefix_append a b), hsent, by simp⟩
  · rw [hrun] at hsent hall
    obtain rfl := hall rfl
    obtain ⟨more, hmore, hsent', hall'⟩ := hy s₁
    rw [Effect.run_bind_ok hrun]
    refine ⟨done ++ more, (List.prefix_append_right_inj done).mpr hmore, ?_, ?_⟩
    · rw [hsent', hsent, List.append_assoc]
    · intro hok
      rw [hall' hok]

/-- A loop emits what its passes emit. -/
theorem SendsFront.forEach {f : α → Effect Outbound ε Unit} {g : α → Bytes} {as : List α}
    (h : ∀ a ∈ as, SendsFront (f a) (g a)) : SendsFront (Effect.forEach f as) (as.flatMap g) := by
  induction as with
  | nil => exact SendsFront.pure
  | cons a as ih =>
      rw [Effect.forEach_cons, List.flatMap_cons]
      exact (h a List.mem_cons_self).bind (ih fun b hb => h b (List.mem_cons_of_mem _ hb))

/-- Behind a first step that always fails nothing is written but what that step writes. -/
lemma SendsFront.bind_error {x y : Effect Outbound ε Unit} {e : ε} (hx : ∀ s, x.run s = (.error e, s)) :
    SendsFront (x >>= fun _ => y) [] := by
  intro s
  rw [Effect.run_bind_error (hx s)]
  exact ⟨[], List.nil_prefix, (List.append_nil _).symm, by simp⟩

end Stream

namespace Frames

open Octets Stream

variable {ε : Type} {onStop : Stop → ε} {reject : UInt8 → ℕ → Option ε}

/-- **A frame received is the next one written**, and what is left of the stream was written behind it,
whatever the link does. -/
theorem receiveFrame_next {s s' : Inbound} {f g : Frame} {rest : Bytes} (hg : g.payload.length < 2 ^ 32)
    (hb : s.bytes <+: g.bytes ++ rest) (h : (receiveFrame onStop reject).run s = (.ok f, s')) :
    f = g ∧ s'.bytes <+: rest := by
  obtain ⟨hf, hsplit⟩ := receiveFrame_ok h
  obtain ⟨lost, hlost⟩ := hb
  rw [hsplit, List.append_assoc] at hlost
  obtain ⟨rfl, hrest⟩ := bytes_append_inj hf.1 hg hlost
  exact ⟨rfl, lost, hrest⟩

/-- On a stream with nothing on it nothing is received. -/
lemma receiveFrame_nothing {s s' : Inbound} {f : Frame} (hb : s.bytes = []) :
    (receiveFrame onStop reject).run s ≠ (.ok f, s') := by
  intro h
  have hless := receiveFrame_consumes onStop _ _ _ h
  simp [hb] at hless

/-- So many frames received are the next ones written. -/
theorem receive_next {s s' : Inbound} {fs gs : List Frame} {rest : Bytes}
    (hgs : ∀ g ∈ gs, g.payload.length < 2 ^ 32) (hb : s.bytes <+: wire gs ++ rest)
    (h : receive (receiveFrame onStop reject).run gs.length s = (fs, none, s')) :
    fs = gs ∧ s'.bytes <+: rest := by
  induction gs generalizing s fs with
  | nil =>
      obtain ⟨rfl, hs⟩ := Prod.mk.inj h
      exact ⟨rfl, (Prod.mk.inj hs).2 ▸ hb⟩
  | cons g gs ih =>
      rw [List.forall_mem_cons] at hgs
      rw [wire_cons, List.append_assoc] at hb
      rw [List.length_cons] at h
      rcases hf : (receiveFrame onStop reject).run s with ⟨e | f, s₁⟩
      · rw [receive_succ_error hf] at h
        simp at h
      · obtain ⟨rfl, hrest⟩ := receiveFrame_next hgs.1 hb hf
        rw [receive_succ_ok hf] at h
        obtain ⟨rfl, hlater⟩ := Prod.mk.inj h
        obtain ⟨hall, hs'⟩ := ih hgs.2 hrest (Prod.ext rfl hlater)
        exact ⟨congrArg (f :: ·) hall, hs'⟩

/-- **The frames received are the first of those written**, in order, whatever the link does. -/
theorem drain_prefix {s : Inbound} {fs : List Frame} (hfs : ∀ f ∈ fs, f.payload.length < 2 ^ 32)
    (hb : s.bytes <+: wire fs) : (drain (receiveFrame onStop reject).run s).1 <+: fs := by
  induction fs generalizing s with
  | nil =>
      rcases h : (receiveFrame onStop reject).run s with ⟨e | f, s'⟩
      · simp [drain_error h]
      · exact absurd h (receiveFrame_nothing (List.prefix_nil.mp hb))
  | cons g fs ih =>
      rw [List.forall_mem_cons] at hfs
      rcases h : (receiveFrame onStop reject).run s with ⟨e | f, s'⟩
      · simp [drain_error h]
      · obtain ⟨rfl, hrest⟩ := receiveFrame_next hfs.1 hb h
        rw [drain_ok (receiveFrame_consumes onStop) h, List.cons_prefix_cons]
        exact ⟨rfl, ih hfs.2 hrest⟩

end Frames
