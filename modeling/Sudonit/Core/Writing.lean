import Sudonit.Core.Effect
import Sudonit.Core.Stream

/-!
# Programs that write to a stream

Specifications of a computation on a writing end, and the rules that put them together.

* `Writes x bs` — whenever `x` returns, it has written `bs` and nothing else.
* `Delivers x bs` — on a link that does not fail `x` returns, and has written `bs`.
* `Yields`, `Blind` — what a computation does on links that do not fail, where it cannot tell them apart.
* `bind`, `forEach` — a sequence writes what its steps write, one after the other.
-/

namespace Stream

open Octets

variable {ε α β : Type}

/-- Whenever the computation returns, it has written these bytes. -/
def Writes (x : Effect Outbound ε Unit) (bs : Bytes) : Prop :=
  ∀ s s', x.run s = (.ok (), s') → s'.sent = s.sent ++ bs

/-- On a steady link the computation returns, having written these bytes. -/
def Delivers (x : Effect Outbound ε Unit) (bs : Bytes) : Prop :=
  ∀ s : Outbound, s.Steady → ∃ s', x.run s = (.ok (), s') ∧ s'.sent = s.sent ++ bs ∧ s'.Steady

lemma Writes.fail (e : ε) (bs : Bytes) : Writes (Effect.fail e) bs := by
  intro s s' h
  simp at h

lemma Writes.pure : Writes (pure () : Effect Outbound ε Unit) [] := by
  intro s s' h
  rw [Effect.run_pure, Prod.mk.injEq] at h
  rw [← h.2, List.append_nil]

lemma Writes.bind {x y : Effect Outbound ε Unit} {a b : Bytes} (hx : Writes x a) (hy : Writes y b) :
    Writes (x >>= fun _ => y) (a ++ b) := by
  intro s s' h
  obtain ⟨_, s₁, hrun, hrest⟩ := Effect.run_bind_eq_ok.mp h
  rw [hy s₁ s' hrest, hx s s₁ hrun, List.append_assoc]

/-- A loop writes what its passes write. -/
theorem Writes.forEach {f : α → Effect Outbound ε Unit} {g : α → Bytes} {as : List α}
    (h : ∀ a ∈ as, Writes (f a) (g a)) : Writes (Effect.forEach f as) (as.flatMap g) := by
  induction as with
  | nil => exact Writes.pure
  | cons a as ih =>
      rw [Effect.forEach_cons, List.flatMap_cons]
      exact (h a List.mem_cons_self).bind (ih fun b hb => h b (List.mem_cons_of_mem _ hb))

lemma Delivers.pure : Delivers (pure () : Effect Outbound ε Unit) [] :=
  fun s hs => ⟨s, rfl, (List.append_nil _).symm, hs⟩

lemma Delivers.bind {x y : Effect Outbound ε Unit} {a b : Bytes} (hx : Delivers x a)
    (hy : Delivers y b) : Delivers (x >>= fun _ => y) (a ++ b) := by
  intro s hs
  obtain ⟨s₁, hrun, hsent₁, hs₁⟩ := hx s hs
  obtain ⟨s', hrest, hsent', hs'⟩ := hy s₁ hs₁
  refine ⟨s', by rw [Effect.run_bind_ok hrun, hrest], ?_, hs'⟩
  rw [hsent', hsent₁, List.append_assoc]

/-- A loop delivers what its passes deliver. -/
theorem Delivers.forEach {f : α → Effect Outbound ε Unit} {g : α → Bytes} {as : List α}
    (h : ∀ a ∈ as, Delivers (f a) (g a)) : Delivers (Effect.forEach f as) (as.flatMap g) := by
  induction as with
  | nil => exact Delivers.pure
  | cons a as ih =>
      rw [Effect.forEach_cons, List.flatMap_cons]
      exact (h a List.mem_cons_self).bind (ih fun b hb => h b (List.mem_cons_of_mem _ hb))

/-! ## Programs that do not see their link

The state has a writing end, `out`, and a rest.
-/

section Blind

variable {τ ρ : Type} {out : τ → Outbound} {rest : τ → ρ}

/-- On every steady link, from this rest of the state: the result, the bytes written and the rest that is left. -/
def Yields (out : τ → Outbound) (rest : τ → ρ) (x : Effect τ ε α) (k : ρ) (r : Except ε α) (bs : Bytes)
    (k' : ρ) : Prop :=
  ∀ t, rest t = k → (out t).Steady →
    ∃ t', x.run t = (r, t') ∧ (out t').sent = (out t).sent ++ bs ∧ (out t').Steady ∧ rest t' = k'

/-- What the computation does on steady links depends on the rest of the state alone. -/
def Blind (out : τ → Outbound) (rest : τ → ρ) (x : Effect τ ε α) : Prop :=
  ∀ k, ∃ r bs k', Yields out rest x k r bs k'

lemma Yields.ofExcept (x : Except ε α) (k : ρ) : Yields out rest (Effect.ofExcept x) k x [] k := by
  intro t hk ht
  exact ⟨t, rfl, (List.append_nil _).symm, ht, hk⟩

lemma Yields.bind_ok {x : Effect τ ε α} {f : α → Effect τ ε β} {k k' k'' : ρ} {a : α} {r : Except ε β}
    {bs bs' : Bytes} (hx : Yields out rest x k (.ok a) bs k') (hf : Yields out rest (f a) k' r bs' k'') :
    Yields out rest (x >>= f) k r (bs ++ bs') k'' := by
  intro t hk ht
  obtain ⟨t', hrun, hsent, ht', hk'⟩ := hx t hk ht
  obtain ⟨t'', hrun', hsent', ht'', hk''⟩ := hf t' hk' ht'
  refine ⟨t'', by rw [Effect.run_bind_ok hrun, hrun'], ?_, ht'', hk''⟩
  rw [hsent', hsent, List.append_assoc]

lemma Yields.bind_error {x : Effect τ ε α} {f : α → Effect τ ε β} {k k' : ρ} {e : ε} {bs : Bytes}
    (hx : Yields out rest x k (.error e) bs k') : Yields out rest (x >>= f) k (.error e) bs k' := by
  intro t hk ht
  obtain ⟨t', hrun, hdid⟩ := hx t hk ht
  exact ⟨t', Effect.run_bind_error hrun, hdid⟩

lemma Delivers.yields {x : Effect Outbound ε Unit} {bs : Bytes} (h : Delivers x bs) :
    Yields id (fun _ => ()) x () (.ok ()) bs () := by
  intro s _ hs
  obtain ⟨s', hrun, hsent, hs'⟩ := h s hs
  exact ⟨s', hrun, hsent, hs', rfl⟩

lemma Yields.within {set : Outbound → τ → τ} (hout : ∀ s t, out (set s t) = s)
    (hrest : ∀ s t, rest (set s t) = rest t) {x : Effect Outbound ε α} {r : Except ε α} {bs : Bytes}
    (h : Yields id (fun _ => ()) x () r bs ()) (k : ρ) :
    Yields out rest (Effect.within out set x) k r bs k := by
  intro t hk ht
  obtain ⟨s, hrun, hsent, hs, -⟩ := h (out t) rfl ht
  refine ⟨set s t, by rw [Effect.run_within, hrun], ?_, ?_, ?_⟩
  · rw [hout]
    exact hsent
  · rw [hout]
    exact hs
  · rw [hrest, hk]

lemma Blind.ofExcept (x : Except ε α) : Blind out rest (Effect.ofExcept x) :=
  fun k => ⟨x, [], k, Yields.ofExcept x k⟩

lemma Blind.fail (e : ε) : Blind out rest (Effect.fail e : Effect τ ε α) := Blind.ofExcept (.error e)

lemma Blind.pure (a : α) : Blind out rest (Pure.pure a : Effect τ ε α) := Blind.ofExcept (.ok a)

lemma Blind.bind {x : Effect τ ε α} {f : α → Effect τ ε β} (hx : Blind out rest x)
    (hf : ∀ a, Blind out rest (f a)) : Blind out rest (x >>= f) := by
  intro k
  obtain ⟨r, bs, k', hyields⟩ := hx k
  cases r with
  | error e => exact ⟨.error e, bs, k', hyields.bind_error⟩
  | ok a =>
      obtain ⟨r, bs', k'', hrest⟩ := hf a k'
      exact ⟨r, bs ++ bs', k'', hyields.bind_ok hrest⟩

lemma Blind.forEach {ι : Type} {f : ι → Effect τ ε Unit} (h : ∀ i, Blind out rest (f i)) (is : List ι) :
    Blind out rest (Effect.forEach f is) := by
  induction is with
  | nil => exact Blind.pure ()
  | cons i is ih => exact (h i).bind fun _ => ih

lemma Blind.within {set : Outbound → τ → τ} (hout : ∀ s t, out (set s t) = s)
    (hrest : ∀ s t, rest (set s t) = rest t) {x : Effect Outbound ε α} (h : Blind id (fun _ => ()) x) :
    Blind out rest (Effect.within out set x) := by
  intro k
  obtain ⟨r, bs, k', hyields⟩ := h ()
  exact ⟨r, bs, k, hyields.within hout hrest k⟩

end Blind

end Stream
