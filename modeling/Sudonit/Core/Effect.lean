import Mathlib.Tactic.Lemma

/-!
# Computations on a state that may fail

`Effect σ ε α` reads and changes a state `σ` and either returns an `α` or stops with an `ε`.  A
failure does not undo anything: the state is the one reached when the computation stopped.

* `run_bind_ok`, `run_bind_error` — running a sequence, given how its first step ran.
* `run_bind_eq_ok` — what a sequence that returned must have done.
* `within` — a computation on one part of a larger state, and nothing else of it.
* `attempt` — go on with the result of a computation, whatever it is.
* `Refines` — a computation on a larger state does, on the part that is seen, what another one does.
* `Keeps` — whatever a computation returns, a property of the state survives it.
* `FailsWith` — whatever a computation fails with has a property.
* `forEach` — one computation for each element of a list, in order, up to the first failure.
-/

/-- A computation on a state `σ` that returns an `α` or fails with an `ε`. -/
structure Effect (σ ε α : Type) where
  run : σ → Except ε α × σ

namespace Effect

variable {σ τ ε α β : Type}

/-- Fail. -/
def fail (e : ε) : Effect σ ε α := ⟨fun s => (.error e, s)⟩

/-- A computation that leaves the state alone. -/
def ofExcept (x : Except ε α) : Effect σ ε α := ⟨fun s => (x, s)⟩

instance : Monad (Effect σ ε) where
  pure a := ⟨fun s => (.ok a, s)⟩
  bind x f := ⟨fun s =>
    match x.run s with
    | (.ok a, s') => (f a).run s'
    | (.error e, s') => (.error e, s')⟩

@[simp] lemma run_pure (a : α) (s : σ) : (pure a : Effect σ ε α).run s = (.ok a, s) := rfl

@[simp] lemma run_fail (e : ε) (s : σ) : (fail e : Effect σ ε α).run s = (.error e, s) := rfl

@[simp] lemma run_ofExcept (x : Except ε α) (s : σ) : (ofExcept x).run s = (x, s) := rfl

lemma run_bind (x : Effect σ ε α) (f : α → Effect σ ε β) (s : σ) :
    (x >>= f).run s = match x.run s with
      | (.ok a, s') => (f a).run s'
      | (.error e, s') => (.error e, s') := rfl

lemma run_bind_ok {x : Effect σ ε α} {f : α → Effect σ ε β} {s s' : σ} {a : α}
    (h : x.run s = (.ok a, s')) : (x >>= f).run s = (f a).run s' := by
  rw [run_bind, h]

lemma run_bind_error {x : Effect σ ε α} {f : α → Effect σ ε β} {s s' : σ} {e : ε}
    (h : x.run s = (.error e, s')) : (x >>= f).run s = (.error e, s') := by
  rw [run_bind, h]

lemma run_ofExcept_bind (x : Except ε α) (f : α → Effect σ ε β) (s : σ) :
    (ofExcept x >>= f).run s = match x with
      | .ok a => (f a).run s
      | .error e => (.error e, s) := by
  cases x <;> rfl

/-- A sequence that returned ran its first step to the end and then the rest. -/
theorem run_bind_eq_ok {x : Effect σ ε α} {f : α → Effect σ ε β} {s s'' : σ} {b : β} :
    (x >>= f).run s = (.ok b, s'') ↔
      ∃ a s', x.run s = (.ok a, s') ∧ (f a).run s' = (.ok b, s'') := by
  constructor
  · intro h
    rcases hx : x.run s with ⟨e | a, s'⟩
    · rw [run_bind_error hx] at h
      simp at h
    · exact ⟨a, s', rfl, by rw [← h, run_bind_ok hx]⟩
  · rintro ⟨a, s', hx, hf⟩
    rw [run_bind_ok hx, hf]

/-- A sequence without a state that returned. -/
lemma exceptBind_ok_iff {x : Except ε α} {f : α → Except ε β} {b : β} :
    (x >>= f) = .ok b ↔ ∃ a, x = .ok a ∧ f a = .ok b := by
  cases x with
  | error e => exact iff_of_false (by simp [bind, Except.bind]) (by simp)
  | ok a => exact ⟨fun h => ⟨a, rfl, h⟩, fun ⟨_, ha, h⟩ => Except.ok.inj ha ▸ h⟩

lemma exceptMap_ok_iff {x : Except ε α} {f : α → β} {b : β} :
    x.map f = .ok b ↔ ∃ a, x = .ok a ∧ f a = b := by
  cases x <;> simp [Except.map]

lemma exceptMap_error_iff {x : Except ε α} {f : α → β} {e : ε} : x.map f = .error e ↔ x = .error e := by
  cases x <;> simp [Except.map]

/-- A sequence without a state whose steps do not fail with this. -/
lemma exceptBind_ne_error {x : Except ε α} {f : α → Except ε β} {e : ε} (hx : x ≠ .error e)
    (hf : ∀ a, f a ≠ .error e) : (x >>= f) ≠ .error e := by
  cases x with
  | error e' => exact fun h => hx (congrArg Except.error (Except.error.inj h))
  | ok a => exact hf a

/-! ## One part of a larger state -/

/-- Run a computation on the part of the state that `get` reads and `set` replaces. -/
def within (get : τ → σ) (set : σ → τ → τ) (x : Effect σ ε α) : Effect τ ε α :=
  ⟨fun t => ((x.run (get t)).1, set (x.run (get t)).2 t)⟩

@[simp] lemma run_within (get : τ → σ) (set : σ → τ → τ) (x : Effect σ ε α) (t : τ) :
    (within get set x).run t = ((x.run (get t)).1, set (x.run (get t)).2 t) := rfl

/-- Two computations on the part, one after the other. -/
lemma within_bind {get : τ → σ} {set : σ → τ → τ} (hget : ∀ s t, get (set s t) = s)
    (hset : ∀ s s' t, set s (set s' t) = set s t) (x : Effect σ ε α) (f : α → Effect σ ε β) (t : τ) :
    (within get set x >>= fun a => within get set (f a)).run t = (within get set (x >>= f)).run t := by
  rw [run_bind, run_within, run_within, run_bind]
  rcases x.run (get t) with ⟨e | a, s⟩
  · rfl
  · simp only [run_within, hget, hset]

/-! ## Results as values -/

/-- Run a computation and go on with its result, whatever it is. -/
def attempt (x : Effect σ ε α) : Effect σ ε (Except ε α) := ⟨fun s => (.ok (x.run s).1, (x.run s).2)⟩

@[simp] lemma run_attempt (x : Effect σ ε α) (s : σ) : (attempt x).run s = (.ok (x.run s).1, (x.run s).2) := rfl

/-! ## Views -/

/-- Seen through `view`, the computation does what `y` does. -/
def Refines (view : τ → σ) (x : Effect τ ε α) (y : Effect σ ε α) : Prop :=
  ∀ t, ((x.run t).1, view (x.run t).2) = y.run (view t)

lemma Refines.within {get : τ → σ} {set : σ → τ → τ} (h : ∀ s t, get (set s t) = s) (x : Effect σ ε α) :
    Refines get (within get set x) x := by
  intro t
  rw [run_within, h]

lemma Refines.bind {view : τ → σ} {x : Effect τ ε α} {y : Effect σ ε α} {f : α → Effect τ ε β}
    {g : α → Effect σ ε β} (hx : Refines view x y) (hf : ∀ a, Refines view (f a) (g a)) :
    Refines view (x >>= f) (y >>= g) := by
  intro t
  have hfirst := hx t
  rcases hrun : x.run t with ⟨e | a, t'⟩
  · rw [hrun] at hfirst
    rw [run_bind_error hrun, run_bind_error hfirst.symm]
  · rw [hrun] at hfirst
    rw [run_bind_ok hrun, run_bind_ok hfirst.symm]
    exact hf a t'

/-- A step that cannot be seen, in front of the rest. -/
lemma Refines.skip {view : τ → σ} {x : Effect τ ε α} {f : α → Effect τ ε β} {y : Effect σ ε β}
    (hx : ∀ t, ∃ a t', x.run t = (.ok a, t') ∧ view t' = view t) (hf : ∀ a, Refines view (f a) y) :
    Refines view (x >>= f) y := by
  intro t
  obtain ⟨a, t', hrun, hview⟩ := hx t
  rw [run_bind_ok hrun, ← hview]
  exact hf a t'

/-! ## Invariants -/

/-- The property holds after the computation, returned or failed, if it did before. -/
def Keeps (P : σ → Prop) (x : Effect σ ε α) : Prop := ∀ s, P s → P (x.run s).2

lemma Keeps.fail {P : σ → Prop} (e : ε) : Keeps P (fail e : Effect σ ε α) := fun _ h => h

lemma Keeps.pure {P : σ → Prop} (a : α) : Keeps P (Pure.pure a : Effect σ ε α) := fun _ h => h

lemma Keeps.bind {P : σ → Prop} {x : Effect σ ε α} {f : α → Effect σ ε β} (hx : Keeps P x)
    (hf : ∀ a, Keeps P (f a)) : Keeps P (x >>= f) := by
  intro s h
  have h₁ := hx s h
  rcases hrun : x.run s with ⟨e | a, s'⟩
  · rw [run_bind_error hrun]
    rwa [hrun] at h₁
  · rw [run_bind_ok hrun]
    rw [hrun] at h₁
    exact hf a s' h₁

lemma Keeps.run {P : σ → Prop} {x : Effect σ ε α} (hx : Keeps P x) {s s' : σ} {r : Except ε α} (h : P s)
    (hrun : x.run s = (r, s')) : P s' := by
  have := hx s h
  rwa [hrun] at this

/-! ## Failures -/

/-- The computation fails with such errors only. -/
def FailsWith (P : ε → Prop) (x : Effect σ ε α) : Prop := ∀ s e s', x.run s = (.error e, s') → P e

lemma FailsWith.pure {P : ε → Prop} (a : α) : FailsWith P (Pure.pure a : Effect σ ε α) := by
  intro s e s' h
  simp at h

lemma FailsWith.bind {P : ε → Prop} {x : Effect σ ε α} {f : α → Effect σ ε β} (hx : FailsWith P x)
    (hf : ∀ a, FailsWith P (f a)) : FailsWith P (x >>= f) := by
  intro s e s' h
  rcases hrun : x.run s with ⟨e' | a, s₁⟩
  · rw [run_bind_error hrun, Prod.mk.injEq] at h
    exact Except.error.inj h.1 ▸ hx s e' s₁ hrun
  · rw [run_bind_ok hrun] at h
    exact hf a s₁ e s' h

/-! ## Repetition -/

/-- One computation for each element, in order. -/
def forEach (f : α → Effect σ ε Unit) : List α → Effect σ ε Unit
  | [] => pure ()
  | a :: as => do
      f a
      forEach f as

lemma forEach_cons (f : α → Effect σ ε Unit) (a : α) (as : List α) :
    forEach f (a :: as) = f a >>= fun _ => forEach f as := rfl

lemma forEach_map {ι : Type} (f : α → Effect σ ε Unit) (g : ι → α) (is : List ι) :
    forEach f (is.map g) = forEach (fun i => f (g i)) is := by
  induction is with
  | nil => rfl
  | cons i is ih => rw [List.map_cons, forEach_cons, forEach_cons, ih]

/-- Behind elements that went through, the rest goes on. -/
lemma run_forEach_append {f : α → Effect σ ε Unit} {as bs : List α} {s s' : σ}
    (h : (forEach f as).run s = (.ok (), s')) : (forEach f (as ++ bs)).run s = (forEach f bs).run s' := by
  induction as generalizing s with
  | nil =>
      obtain rfl : s = s' := (Prod.mk.inj h).2
      rfl
  | cons a as ih =>
      obtain ⟨_, s₁, hfirst, hrest⟩ := run_bind_eq_ok.mp h
      rw [List.cons_append, forEach_cons, run_bind_ok hfirst]
      exact ih hrest

lemma Keeps.forEach {P : σ → Prop} {f : α → Effect σ ε Unit} (h : ∀ a, Keeps P (f a)) (as : List α) :
    Keeps P (Effect.forEach f as) := by
  induction as with
  | nil => exact Keeps.pure ()
  | cons a as ih => exact (h a).bind fun _ => ih

lemma FailsWith.forEach {P : ε → Prop} {f : α → Effect σ ε Unit} {as : List α}
    (h : ∀ a ∈ as, FailsWith P (f a)) : FailsWith P (Effect.forEach f as) := by
  induction as with
  | nil => exact FailsWith.pure ()
  | cons a as ih =>
      exact (h a List.mem_cons_self).bind fun _ => ih fun b hb => h b (List.mem_cons_of_mem _ hb)

/-- Every pass of a loop that returned has returned. -/
lemma run_forEach_ok {f : α → Effect σ ε Unit} {as : List α} {s s' : σ}
    (h : (forEach f as).run s = (.ok (), s')) : ∀ a ∈ as, ∃ s₁ s₂, (f a).run s₁ = (.ok (), s₂) := by
  induction as generalizing s with
  | nil => simp
  | cons a as ih =>
      obtain ⟨_, s₁, hrun, hrest⟩ := run_bind_eq_ok.mp h
      exact List.forall_mem_cons.mpr ⟨⟨s, s₁, hrun⟩, ih hrest⟩

end Effect
