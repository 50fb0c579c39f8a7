import Sudonit.Core.Octets

/-!
# Byte streams with partial reads and writes

A reliable, ordered byte stream as a program meets it: one call moves some of the bytes asked for,
never none while there are any, and may instead time out or fail.  What successive calls do is a
script, so quantifying over scripts is quantifying over every segmentation and every failure.

* `Inbound.recv`, `Outbound.send` — one call.
* `readFully`, `writeFully` — the loops that move an exact number of bytes or give up.
* `readFully_steady`, `readFully_short`, `writeFully_steady` — on a link that does not fail, the
  loops do not see the segmentation: they move the bytes, or find the end of the stream.
* `drain` — message after message until the receiver fails.
* `readFully_ok`, `writeFully_sent` — what holds on any link: a finished read took exactly the next
  bytes, and whatever a write does, it sends a prefix of what it was given.
-/

namespace Stream

open Octets

/-- Why a loop stopped short of its count. -/
inductive Stop
  | closed
  | timeout
  | failure
  deriving DecidableEq, Repr

/-! ## Reading -/

/-- What one read call does: hand over up to so many bytes, time out, or fail. -/
inductive ReadEvent
  | deliver (n : ℕ)
  | timeout
  | failure
  deriving DecidableEq, Repr

/-- The reading end: the bytes that will arrive before the peer closes, and what the calls do.  When
the script is used up, every call hands over all it can. -/
structure Inbound where
  bytes : Bytes
  reads : List ReadEvent
  deriving DecidableEq, Repr

/-- Every call hands over something. -/
def Inbound.Steady (s : Inbound) : Prop := ∀ e ∈ s.reads, ∃ n, e = ReadEvent.deliver n

/-- The reading end of a link that delivers `bs` in pieces of the given sizes. -/
def Inbound.cut (bs : Bytes) (sizes : List ℕ) : Inbound := ⟨bs, sizes.map ReadEvent.deliver⟩

lemma Inbound.steady_cut (bs : Bytes) (sizes : List ℕ) : (Inbound.cut bs sizes).Steady := by
  intro e he
  obtain ⟨n, -, rfl⟩ := List.mem_map.mp he
  exact ⟨n, rfl⟩

/-- One read call for up to `n` bytes.  An empty piece means the peer has closed. -/
def Inbound.recv (s : Inbound) (n : ℕ) : Except Stop Bytes × Inbound :=
  match s.reads with
  | [] => (.ok (s.bytes.take n), ⟨s.bytes.drop n, []⟩)
  | .deliver k :: rs =>
      (.ok (s.bytes.take (max 1 (min k n))), ⟨s.bytes.drop (max 1 (min k n)), rs⟩)
  | .timeout :: rs => (.error .timeout, ⟨s.bytes, rs⟩)
  | .failure :: rs => (.error .failure, ⟨s.bytes, rs⟩)

/-- Read exactly `n` bytes, call after call, or give up. -/
def readFully (s : Inbound) (n : ℕ) : Except Stop Bytes × Inbound :=
  if n = 0 then (.ok [], s)
  else
    match s.recv n with
    | (.error e, s') => (.error e, s')
    | (.ok [], s') => (.error .closed, s')
    | (.ok (b :: piece), s') =>
        match readFully s' (n - (b :: piece).length) with
        | (.error e, s'') => (.error e, s'')
        | (.ok rest, s'') => (.ok (b :: piece ++ rest), s'')
termination_by n
decreasing_by simp only [List.length_cons]; omega

/-- A call takes its piece off the front of what is to come, and no more than was asked. -/
lemma Inbound.recv_ok {s s' : Inbound} {n : ℕ} {piece : Bytes} (hn : n ≠ 0)
    (h : s.recv n = (.ok piece, s')) : s.bytes = piece ++ s'.bytes ∧ piece.length ≤ n := by
  unfold Inbound.recv at h
  split at h
  · simp only [Prod.mk.injEq, Except.ok.injEq] at h
    obtain ⟨rfl, rfl⟩ := h
    exact ⟨(List.take_append_drop n s.bytes).symm, List.length_take_le _ _⟩
  · simp only [Prod.mk.injEq, Except.ok.injEq] at h
    obtain ⟨rfl, rfl⟩ := h
    refine ⟨(List.take_append_drop _ s.bytes).symm, ?_⟩
    rw [List.length_take]
    omega
  · simp at h
  · simp at h

/-- On a steady link a call hands over a piece, empty only at the end of the stream. -/
lemma Inbound.recv_steady {s : Inbound} (hs : s.Steady) {n : ℕ} (hn : n ≠ 0) :
    ∃ piece s', s.recv n = (.ok piece, s') ∧ s'.Steady ∧ (piece = [] → s.bytes = []) := by
  have nonempty : ∀ m : ℕ, m ≠ 0 → s.bytes.take m = [] → s.bytes = [] := by
    intro m hm h
    simpa [hm] using h
  unfold Inbound.recv
  cases hr : s.reads with
  | nil => exact ⟨_, _, rfl, by simp [Inbound.Steady], nonempty n hn⟩
  | cons e rs =>
      obtain ⟨k, rfl⟩ := hs e (by rw [hr]; exact List.mem_cons_self)
      refine ⟨_, _, rfl, ?_, nonempty _ (by omega)⟩
      intro e he
      exact hs e (by rw [hr]; exact List.mem_cons_of_mem _ he)

@[simp] lemma readFully_zero (s : Inbound) : readFully s 0 = (.ok [], s) := by
  rw [readFully, if_pos rfl]

/-- **A finished read took exactly the next `n` bytes**, whatever the link did. -/
theorem readFully_ok {s s' : Inbound} {n : ℕ} {bs : Bytes} (h : readFully s n = (.ok bs, s')) :
    bs.length = n ∧ s.bytes = bs ++ s'.bytes := by
  fun_induction readFully s n generalizing bs s' with
  | case1 s => simp_all
  | case2 | case3 | case4 => simp_all
  | case5 s n hn b piece s₁ hrecv rest s₂ hrest ih =>
      simp only [Prod.mk.injEq, Except.ok.injEq] at h
      obtain ⟨rfl, rfl⟩ := h
      obtain ⟨hbytes, hle⟩ := Inbound.recv_ok hn hrecv
      obtain ⟨hlen, hrest⟩ := ih hrest
      refine ⟨?_, by rw [hbytes, hrest, List.append_assoc]⟩
      rw [List.length_append, hlen]
      omega

/-- **On a steady link the segmentation is invisible**: enough bytes to come means a finished read
of exactly those. -/
theorem readFully_steady {s : Inbound} (hs : s.Steady) {n : ℕ} (hn : n ≤ s.bytes.length) :
    ∃ s', readFully s n = (.ok (s.bytes.take n), s') ∧ s'.bytes = s.bytes.drop n ∧ s'.Steady := by
  induction n using Nat.strongRecOn generalizing s with
  | ind n ih =>
      by_cases h0 : n = 0
      · subst h0
        exact ⟨s, by simp, by simp, hs⟩
      · obtain ⟨piece, s₁, hrecv, hs₁, hne⟩ := Inbound.recv_steady hs h0
        obtain ⟨hbytes, hle⟩ := Inbound.recv_ok h0 hrecv
        cases piece with
        | nil =>
            rw [hne rfl, List.length_nil] at hn
            omega
        | cons b piece =>
            have hlen : s.bytes.length = (b :: piece).length + s₁.bytes.length := by
              rw [hbytes, List.length_append]
            obtain ⟨s₂, hread, hdrop, hs₂⟩ :=
              ih (n - (b :: piece).length) (by simp only [List.length_cons]; omega) hs₁ (by omega)
            refine ⟨s₂, ?_, ?_, hs₂⟩
            · rw [readFully, if_neg h0, hrecv]
              simp only [hread, hbytes, List.take_append, List.take_of_length_le hle]
            · rw [hdrop, hbytes, List.drop_append, List.drop_eq_nil_of_le hle, List.nil_append]

/-- **A stream that ends early is noticed**: on a steady link the read finds the end. -/
theorem readFully_short {s : Inbound} (hs : s.Steady) {n : ℕ} (hn : s.bytes.length < n) :
    ∃ s', readFully s n = (.error .closed, s') ∧ s'.bytes = [] ∧ s'.Steady := by
  induction n using Nat.strongRecOn generalizing s with
  | ind n ih =>
      have h0 : n ≠ 0 := by omega
      obtain ⟨piece, s₁, hrecv, hs₁, hne⟩ := Inbound.recv_steady hs h0
      obtain ⟨hbytes, hle⟩ := Inbound.recv_ok h0 hrecv
      rw [readFully, if_neg h0, hrecv]
      cases piece with
      | nil =>
          have : s₁.bytes = [] := by simpa [hne rfl] using hbytes.symm
          exact ⟨s₁, rfl, this, hs₁⟩
      | cons b piece =>
          have hlen : s.bytes.length = (b :: piece).length + s₁.bytes.length := by
            rw [hbytes, List.length_append]
          obtain ⟨s₂, hread, hend, hs₂⟩ :=
            ih (n - (b :: piece).length) (by simp only [List.length_cons]; omega) hs₁ (by omega)
          exact ⟨s₂, by simp only [hread], hend, hs₂⟩

/-! ## Receiving message after message

A receiver takes one message off the stream or gives up.  `receive` calls it a number of times and
stops at the first failure; `drain` calls it until it fails, which it must, when every message takes
up some of the stream.
-/

section Receivers

variable {α ε : Type} (recv : Inbound → Except ε α × Inbound)

/-- Up to so many messages: those received, the failure that stopped them, what is left. -/
def receive : ℕ → Inbound → List α × Option ε × Inbound
  | 0, s => ([], none, s)
  | n + 1, s =>
      match recv s with
      | (.error e, s') => ([], some e, s')
      | (.ok a, s') => (a :: (receive n s').1, (receive n s').2)

/-- Message after message until the receiver fails. -/
def drain (s : Inbound) : List α × Option ε × Inbound := receive recv (s.bytes.length + 1) s

/-- Every message takes up some of the stream. -/
def Consumes : Prop := ∀ s a s', recv s = (.ok a, s') → s'.bytes.length < s.bytes.length

variable {recv}

lemma receive_succ_ok {n : ℕ} {s s' : Inbound} {a : α} (h : recv s = (.ok a, s')) :
    receive recv (n + 1) s = (a :: (receive recv n s').1, (receive recv n s').2) := by
  simp only [receive, h]

lemma receive_succ_error {n : ℕ} {s s' : Inbound} {e : ε} (h : recv s = (.error e, s')) :
    receive recv (n + 1) s = ([], some e, s') := by
  simp only [receive, h]

lemma length_receive {n : ℕ} {s s' : Inbound} {as : List α} (h : receive recv n s = (as, none, s')) :
    as.length = n := by
  induction n generalizing s as with
  | zero => rw [← (Prod.mk.inj h).1, List.length_nil]
  | succ n ih =>
      rcases hr : recv s with ⟨e | a, s₁⟩
      · rw [receive_succ_error hr] at h
        simp at h
      · rw [receive_succ_ok hr] at h
        obtain ⟨rfl, hrest⟩ := Prod.mk.inj h
        rw [List.length_cons, ih (Prod.ext rfl hrest)]

/-- With more attempts than bytes, attempts do not run out. -/
lemma receive_enough (hc : Consumes recv) {n m : ℕ} {s : Inbound} (hn : s.bytes.length < n)
    (hm : s.bytes.length < m) : receive recv n s = receive recv m s := by
  induction n generalizing m s with
  | zero => omega
  | succ n ih =>
      obtain ⟨m, rfl⟩ : ∃ k, m = k + 1 := ⟨m - 1, by omega⟩
      rcases hr : recv s with ⟨e | a, s'⟩
      · rw [receive_succ_error hr, receive_succ_error hr]
      · have := hc s a s' hr
        rw [receive_succ_ok hr, receive_succ_ok hr, ih (m := m) (by omega) (by omega)]

/-- A message received is the first of those drained. -/
theorem drain_ok (hc : Consumes recv) {s s' : Inbound} {a : α} (h : recv s = (.ok a, s')) :
    drain recv s = (a :: (drain recv s').1, (drain recv s').2) := by
  have := hc s a s' h
  rw [drain, receive_succ_ok h, drain, receive_enough hc (m := s'.bytes.length + 1) this (by omega)]

theorem drain_error {s s' : Inbound} {e : ε} (h : recv s = (.error e, s')) :
    drain recv s = ([], some e, s') := receive_succ_error h

/-- Draining ends with a failure. -/
theorem drain_stops (hc : Consumes recv) (s : Inbound) : (drain recv s).2.1.isSome := by
  induction hn : s.bytes.length using Nat.strongRecOn generalizing s with
  | ind n ih =>
      rcases hr : recv s with ⟨e | a, s'⟩
      · simp [drain_error hr]
      · rw [drain_ok hc hr]
        exact ih _ (hn ▸ hc s a s' hr) s' rfl

end Receivers

/-! ## Writing -/

/-- What one write call does: take up to so many bytes, time out, or fail. -/
inductive WriteEvent
  | accept (n : ℕ)
  | timeout
  | failure
  deriving DecidableEq, Repr

/-- The writing end: the bytes the peer will see, and what the calls do. -/
structure Outbound where
  sent : Bytes
  writes : List WriteEvent
  deriving DecidableEq, Repr

/-- Every call takes something. -/
def Outbound.Steady (s : Outbound) : Prop := ∀ e ∈ s.writes, ∃ n, e = WriteEvent.accept n

/-- A writing end on which nothing has been sent yet, taking pieces of the given sizes. -/
def Outbound.fresh (sizes : List ℕ) : Outbound := ⟨[], sizes.map WriteEvent.accept⟩

@[simp] lemma Outbound.sent_fresh (sizes : List ℕ) : (Outbound.fresh sizes).sent = [] := rfl

lemma Outbound.steady_fresh (sizes : List ℕ) : (Outbound.fresh sizes).Steady := by
  intro e he
  obtain ⟨n, -, rfl⟩ := List.mem_map.mp he
  exact ⟨n, rfl⟩

/-- One write call with `bs`: how many bytes it took. -/
def Outbound.send (s : Outbound) (bs : Bytes) : Except Stop ℕ × Outbound :=
  match s.writes with
  | [] => (.ok bs.length, ⟨s.sent ++ bs, []⟩)
  | .accept k :: ws =>
      (.ok (max 1 (min k bs.length)), ⟨s.sent ++ bs.take (max 1 (min k bs.length)), ws⟩)
  | .timeout :: ws => (.error .timeout, ⟨s.sent, ws⟩)
  | .failure :: ws => (.error .failure, ⟨s.sent, ws⟩)

/-- Write all of `bs`, call after call, or give up. -/
def writeFully (s : Outbound) (bs : Bytes) : Except Stop Unit × Outbound :=
  if bs = [] then (.ok (), s)
  else
    match s.send bs with
    | (.error e, s') => (.error e, s')
    | (.ok 0, s') => (.error .failure, s')
    | (.ok (k + 1), s') => writeFully s' (bs.drop (k + 1))
termination_by bs.length
decreasing_by
  have := List.length_pos_iff.mpr ‹bs ≠ []›
  simp only [List.length_drop]; omega

/-- A call sends the bytes it counts. -/
lemma Outbound.send_ok {s s' : Outbound} {bs : Bytes} {k : ℕ} (h : s.send bs = (.ok k, s')) :
    s'.sent = s.sent ++ bs.take k := by
  unfold Outbound.send at h
  split at h <;> simp only [Prod.mk.injEq, Except.ok.injEq, reduceCtorEq, false_and] at h
  · obtain ⟨rfl, rfl⟩ := h
    rw [List.take_length]
  · obtain ⟨rfl, rfl⟩ := h
    rfl

lemma Outbound.send_error {s s' : Outbound} {bs : Bytes} {e : Stop}
    (h : s.send bs = (.error e, s')) : s'.sent = s.sent := by
  unfold Outbound.send at h
  split at h <;> simp only [Prod.mk.injEq, reduceCtorEq, false_and] at h
  all_goals rw [← h.2]

/-- On a steady link a call with bytes takes at least one. -/
lemma Outbound.send_steady {s : Outbound} (hs : s.Steady) {bs : Bytes} (hb : bs ≠ []) :
    ∃ k s', s.send bs = (.ok (k + 1), s') ∧ s'.Steady := by
  have hpos := List.length_pos_iff.mpr hb
  unfold Outbound.send
  cases hw : s.writes with
  | nil =>
      refine ⟨bs.length - 1, ⟨s.sent ++ bs, []⟩, ?_, by simp [Outbound.Steady]⟩
      rw [Nat.sub_add_cancel hpos]
  | cons e ws =>
      obtain ⟨m, rfl⟩ := hs e (by rw [hw]; exact List.mem_cons_self)
      refine ⟨max 1 (min m bs.length) - 1, ⟨s.sent ++ bs.take (max 1 (min m bs.length)), ws⟩,
        ?_, ?_⟩
      · rw [Nat.sub_add_cancel (by omega)]
      · intro e he
        exact hs e (by rw [hw]; exact List.mem_cons_of_mem _ he)

@[simp] lemma writeFully_nil (s : Outbound) : writeFully s [] = (.ok (), s) := by
  rw [writeFully, if_pos rfl]

/-- **Whatever the link does, a write sends a prefix of what it was given**, and all of it when it
finishes. -/
theorem writeFully_sent (s : Outbound) (bs : Bytes) :
    ∃ done, done <+: bs ∧ (writeFully s bs).2.sent = s.sent ++ done ∧
      ((writeFully s bs).1 = .ok () → done = bs) := by
  fun_induction writeFully s bs with
  | case1 s => exact ⟨[], List.nil_prefix, by simp, fun _ => rfl⟩
  | case2 s bs hb e s' hsend =>
      exact ⟨[], List.nil_prefix, by simp [Outbound.send_error hsend], by simp⟩
  | case3 s bs hb s' hsend =>
      exact ⟨[], List.nil_prefix, by simpa using Outbound.send_ok hsend, by simp⟩
  | case4 s bs hb k s' hsend ih =>
      obtain ⟨done, hpre, hsent, hall⟩ := ih
      refine ⟨bs.take (k + 1) ++ done, ?_, ?_, ?_⟩
      · conv => rhs; rw [← List.take_append_drop (k + 1) bs]
        exact List.prefix_append_right_inj _ |>.mpr hpre
      · rw [hsent, Outbound.send_ok hsend, List.append_assoc]
      · intro hok
        rw [hall hok, List.take_append_drop]

/-- **On a steady link a write finishes**, whatever the segmentation. -/
theorem writeFully_steady {s : Outbound} (hs : s.Steady) (bs : Bytes) :
    ∃ s', writeFully s bs = (.ok (), s') ∧ s'.sent = s.sent ++ bs ∧ s'.Steady := by
  induction hn : bs.length using Nat.strongRecOn generalizing s bs with
  | ind n ih =>
      by_cases hb : bs = []
      · subst hb
        exact ⟨s, by simp, by simp, hs⟩
      · obtain ⟨k, s₁, hsend, hs₁⟩ := Outbound.send_steady hs hb
        have hpos := List.length_pos_iff.mpr hb
        obtain ⟨s₂, hw, hsent, hs₂⟩ :=
          ih (bs.drop (k + 1)).length (by rw [List.length_drop]; omega) hs₁ (bs.drop (k + 1)) rfl
        refine ⟨s₂, ?_, ?_, hs₂⟩
        · rw [writeFully, if_neg hb, hsend]
          exact hw
        · rw [hsent, Outbound.send_ok hsend, List.append_assoc, List.take_append_drop]

end Stream
