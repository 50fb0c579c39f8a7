import Sudonit.Core.Effect

/-!
# Two runs side by side

`Related R x y` says that from states related by `R` the computations `x` and `y` both return, return the
same value, and leave states related by `R` again.  With `R` the equality of what an observer sees, it is
noninterference.

* `Related.bind`, `Related.forEach` — related steps make related sequences.
* `Related.of_state` — a computation that first reads the state.
-/

namespace Effect

variable {σ ε α β ι : Type} {R : σ → σ → Prop}

/-- From related states both return, with the same value, and leave related states. -/
def Related (R : σ → σ → Prop) (x y : Effect σ ε α) : Prop :=
  ∀ s t, R s t → ∃ a s' t', x.run s = (.ok a, s') ∧ y.run t = (.ok a, t') ∧ R s' t'

lemma Related.pure (a : α) : Related R (Pure.pure a : Effect σ ε α) (Pure.pure a) := by
  intro s t h
  exact ⟨a, s, t, rfl, rfl, h⟩

/-- **Sequences of related steps are related.** -/
theorem Related.bind {x y : Effect σ ε α} {f g : α → Effect σ ε β} (hxy : Related R x y)
    (hfg : ∀ a, Related R (f a) (g a)) : Related R (x >>= f) (y >>= g) := by
  intro s t h
  obtain ⟨a, s₁, t₁, hx, hy, h₁⟩ := hxy s t h
  obtain ⟨b, s₂, t₂, hf, hg, h₂⟩ := hfg a s₁ t₁ h₁
  exact ⟨b, s₂, t₂, by rw [run_bind_ok hx, hf], by rw [run_bind_ok hy, hg], h₂⟩

/-- **Loops of related passes are related.** -/
theorem Related.forEach {f g : ι → Effect σ ε Unit} {is : List ι}
    (h : ∀ i ∈ is, Related R (f i) (g i)) : Related R (Effect.forEach f is) (Effect.forEach g is) := by
  induction is with
  | nil => exact Related.pure ()
  | cons i is ih =>
      rw [List.forall_mem_cons] at h
      exact h.1.bind fun _ => ih h.2

/-- Computations that go on with what they find in the state. -/
lemma Related.of_state {f g : σ → Effect σ ε α} (h : ∀ s t, R s t → Related R (f s) (g t)) :
    Related R ⟨fun s => (f s).run s⟩ ⟨fun t => (g t).run t⟩ :=
  fun s t hst => h s t hst s t hst

end Effect
