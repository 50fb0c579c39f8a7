import Sudonit.Core.Effect
import Sudonit.Core.Stream

/-!
# Length-prefixed frames on a byte stream

A frame is a kind octet, the length of the payload as a 32-bit big-endian number, and the payload.
`receiveFrame` takes one off a stream; which headers it turns away is a parameter, so that several
receivers of one wire format are instances of it.

* `bytes_append_inj` — frames are self-delimiting: a stream starts with at most one of them.
* `receiveFrame_ok`, `receiveFrame_steady` — a receiver returns a frame exactly when the stream
  starts with one it accepts, whatever the segmentation, and then takes those bytes and no others.
* `receiveFrame_cut` — a frame cut short is noticed, never returned in part.
* `drain_wire`, `receive_wire`, `readsBack` — frame after frame, a stream reads back as what was
  written to it.
* `drain_eq_iff` — the frames a receiver makes of any stream: the longest run of accepted ones.
-/

namespace Frames

open Octets Stream

/-- One frame. -/
structure Frame where
  kind : UInt8
  payload : Bytes
  deriving DecidableEq, Repr

/-- A frame on the wire. -/
def Frame.bytes (f : Frame) : Bytes := f.kind :: be32 f.payload.length ++ f.payload

/-- Frames on the wire, one after the other. -/
def wire (fs : List Frame) : Bytes := fs.flatMap Frame.bytes

@[simp] lemma wire_nil : wire [] = [] := rfl

@[simp] lemma wire_cons (f : Frame) (fs : List Frame) : wire (f :: fs) = f.bytes ++ wire fs := rfl

@[simp] lemma wire_append (fs gs : List Frame) : wire (fs ++ gs) = wire fs ++ wire gs := by
  simp [wire]

lemma wire_singleton (f : Frame) : wire [f] = f.bytes := by simp

lemma Frame.length_bytes (f : Frame) : f.bytes.length = 5 + f.payload.length := by
  simp only [bytes, List.length_append, List.length_cons, length_be32]

/-- The header of a frame and its payload. -/
lemma Frame.take_bytes (f : Frame) : f.bytes.take 5 = f.kind :: be32 f.payload.length :=
  List.take_left' rfl

lemma Frame.drop_bytes (f : Frame) : f.bytes.drop 5 = f.payload :=
  show (f.kind :: be32 f.payload.length ++ f.payload).drop 5 = _ from List.drop_left' rfl

/-- A header of five octets and as many more as it says are a frame. -/
lemma bytes_of_header {hdr payload : Bytes} (hlen : hdr.length = 5)
    (hpay : payload.length = beNat hdr.tail) :
    hdr ++ payload = Frame.bytes ⟨hdr.headD 0, payload⟩ := by
  match hdr, hlen with
  | k :: lenBytes, hlen =>
      have h4 : lenBytes.length = 4 := by simpa using hlen
      rw [List.tail_cons] at hpay
      rw [Frame.bytes, hpay, be32_beNat h4]
      rfl

/-- **Frames delimit themselves**: a stream starts with one frame at most. -/
theorem bytes_append_inj {f g : Frame} {a b : Bytes} (hf : f.payload.length < 2 ^ 32)
    (hg : g.payload.length < 2 ^ 32) (h : f.bytes ++ a = g.bytes ++ b) : f = g ∧ a = b := by
  have hhead := congrArg (List.take 5) h
  rw [List.take_append_of_le_length (by rw [Frame.length_bytes]; omega),
    List.take_append_of_le_length (by rw [Frame.length_bytes]; omega), Frame.take_bytes,
    Frame.take_bytes] at hhead
  obtain ⟨hkind, hwords⟩ := List.cons.inj hhead
  have hlen : f.payload.length = g.payload.length := by
    rw [← beNat_be32 hf, hwords, beNat_be32 hg]
  have hsame := List.append_inj h (by rw [Frame.length_bytes, Frame.length_bytes, hlen])
  have hpay := congrArg (List.drop 5) hsame.1
  rw [Frame.drop_bytes, Frame.drop_bytes] at hpay
  refine ⟨?_, hsame.2⟩
  cases f
  cases g
  simp_all

/-! ## Receivers -/

section Receiver

variable {ε : Type} (onStop : Stop → ε) (reject : UInt8 → ℕ → Option ε)

/-- Take one frame off the stream.  `reject` looks at the kind and the declared length before any of
the payload is read. -/
def receiveFrame : Effect Inbound ε Frame := ⟨fun s =>
  match readFully s 5 with
  | (.error e, s') => (.error (onStop e), s')
  | (.ok hdr, s') =>
      match reject (hdr.headD 0) (beNat hdr.tail) with
      | some e => (.error e, s')
      | none =>
          match readFully s' (beNat hdr.tail) with
          | (.error e, s'') => (.error (onStop e), s'')
          | (.ok payload, s'') => (.ok ⟨hdr.headD 0, payload⟩, s'')⟩

/-- A frame the receiver does not turn away, of a length its header can say. -/
def Accepted (f : Frame) : Prop :=
  f.payload.length < 2 ^ 32 ∧ reject f.kind f.payload.length = none

variable {onStop reject}

/-- **What a receiver returns stood at the front of the stream**, whatever the link did. -/
theorem receiveFrame_ok {s s' : Inbound} {f : Frame}
    (h : (receiveFrame onStop reject).run s = (.ok f, s')) :
    Accepted reject f ∧ s.bytes = f.bytes ++ s'.bytes := by
  simp only [receiveFrame] at h
  split at h
  · simp at h
  rename_i hdr s₁ hhdr
  split at h
  · simp at h
  rename_i hrej
  split at h
  · simp at h
  rename_i payload s₂ hpay
  simp only [Prod.mk.injEq, Except.ok.injEq] at h
  obtain ⟨rfl, rfl⟩ := h
  obtain ⟨hlen, hbytes⟩ := readFully_ok hhdr
  obtain ⟨hplen, hpbytes⟩ := readFully_ok hpay
  have h32 : beNat hdr.tail < 2 ^ 32 := beNat_lt (by rw [List.length_tail, hlen])
  refine ⟨⟨by rw [hplen]; exact h32, by rw [hplen]; exact hrej⟩, ?_⟩
  rw [hbytes, hpbytes, ← bytes_of_header hlen hplen, List.append_assoc]

/-- Reading the header of a frame that stands at the front of a steady stream. -/
lemma readFully_header {s : Inbound} (hs : s.Steady) {f : Frame} {rest : Bytes}
    (hb : s.bytes = f.kind :: be32 f.payload.length ++ rest) :
    ∃ s', readFully s 5 = (.ok (f.kind :: be32 f.payload.length), s') ∧ s'.bytes = rest ∧
      s'.Steady := by
  have h5 : (f.kind :: be32 f.payload.length).length = 5 := rfl
  obtain ⟨s', hread, hdrop, hs'⟩ := readFully_steady hs (n := 5)
    (by rw [hb, List.length_append, h5]; omega)
  rw [hb, List.take_left' h5] at hread
  rw [hb, List.drop_left' h5] at hdrop
  exact ⟨s', hread, hdrop, hs'⟩

variable (onStop)

/-- **An accepted frame at the front of a steady stream is returned**, and nothing more is taken. -/
theorem receiveFrame_steady {s : Inbound} (hs : s.Steady) {f : Frame} (hf : Accepted reject f)
    {rest : Bytes} (hb : s.bytes = f.bytes ++ rest) :
    ∃ s', (receiveFrame onStop reject).run s = (.ok f, s') ∧ s'.bytes = rest ∧ s'.Steady := by
  rw [Frame.bytes, List.append_assoc] at hb
  obtain ⟨s₁, hhdr, hb₁, hs₁⟩ := readFully_header hs hb
  obtain ⟨s₂, hpay, hb₂, hs₂⟩ := readFully_steady hs₁ (n := f.payload.length)
    (by rw [hb₁, List.length_append]; omega)
  rw [hb₁, List.take_left] at hpay
  rw [hb₁, List.drop_left] at hb₂
  refine ⟨s₂, ?_, hb₂, hs₂⟩
  simp only [receiveFrame, hhdr, List.headD_cons, List.tail_cons, beNat_be32 hf.1, hf.2, hpay]

/-- A stream that does not start with an accepted frame makes the receiver fail. -/
lemma receiveFrame_refuses {s : Inbound}
    (hno : ∀ f, Accepted reject f → ¬ f.bytes <+: s.bytes) :
    ∃ e s', (receiveFrame onStop reject).run s = (.error e, s') := by
  rcases h : (receiveFrame onStop reject).run s with ⟨e | f, s'⟩
  · exact ⟨e, s', rfl⟩
  · obtain ⟨hf, hb⟩ := receiveFrame_ok h
    exact absurd ⟨s'.bytes, hb.symm⟩ (hno f hf)

/-- **A frame cut short is noticed** when the stream ends, and no part of it is returned. -/
theorem receiveFrame_cut {s : Inbound} (hs : s.Steady) {f : Frame} (hf : Accepted reject f) {k : ℕ}
    (hk : k < f.bytes.length) (hb : s.bytes = f.bytes.take k) :
    ∃ s', (receiveFrame onStop reject).run s = (.error (onStop .closed), s') ∧ s'.bytes = [] ∧
      s'.Steady := by
  rw [Frame.length_bytes] at hk
  by_cases hshort : k < 5
  · have hlen : s.bytes.length < 5 := by
      rw [hb, List.length_take]
      omega
    obtain ⟨s', hread, hend, hs'⟩ := readFully_short hs hlen
    exact ⟨s', by simp only [receiveFrame, hread], hend, hs'⟩
  · have h5 : (f.kind :: be32 f.payload.length).length = 5 := rfl
    have hsplit : s.bytes = f.kind :: be32 f.payload.length ++ f.payload.take (k - 5) := by
      rw [hb, Frame.bytes, List.take_append, List.take_of_length_le (by rw [h5]; omega), h5]
    obtain ⟨s₁, hhdr, hb₁, hs₁⟩ := readFully_header hs hsplit
    have hlen : s₁.bytes.length < f.payload.length := by
      rw [hb₁, List.length_take]
      omega
    obtain ⟨s₂, hread, hend, hs₂⟩ := readFully_short hs₁ hlen
    refine ⟨s₂, ?_, hend, hs₂⟩
    simp only [receiveFrame, hhdr, List.headD_cons, List.tail_cons, beNat_be32 hf.1, hf.2, hread]

/-- The end of the stream. -/
lemma receiveFrame_end {s : Inbound} (hs : s.Steady) (hb : s.bytes = []) :
    ∃ s', (receiveFrame onStop reject).run s = (.error (onStop .closed), s') ∧ s'.bytes = [] := by
  obtain ⟨s', hread, hend, -⟩ := readFully_short hs (n := 5) (by rw [hb]; decide)
  exact ⟨s', by simp only [receiveFrame, hread], hend⟩

/-- A received frame takes up some of the stream. -/
lemma receiveFrame_consumes : Consumes (receiveFrame onStop reject).run := by
  intro s f s' h
  obtain ⟨-, hb⟩ := receiveFrame_ok h
  rw [hb, List.length_append, Frame.length_bytes]
  omega

/-! ## Frame after frame -/

/-- **Frames written one after the other are received in order**, and nothing beyond them is
taken. -/
theorem receive_wire {s : Inbound} (hs : s.Steady) {fs : List Frame}
    (hfs : ∀ f ∈ fs, Accepted reject f) {rest : Bytes} (hb : s.bytes = wire fs ++ rest) :
    ∃ s', receive (receiveFrame onStop reject).run fs.length s = (fs, none, s') ∧
      s'.bytes = rest ∧ s'.Steady := by
  induction fs generalizing s with
  | nil => exact ⟨s, rfl, hb, hs⟩
  | cons f fs ih =>
      rw [wire_cons, List.append_assoc] at hb
      obtain ⟨s₁, hrecv, hb₁, hs₁⟩ :=
        receiveFrame_steady onStop hs (hfs f List.mem_cons_self) hb
      obtain ⟨s', hrest, hb', hs'⟩ := ih hs₁ (fun g hg => hfs g (List.mem_cons_of_mem _ hg)) hb₁
      refine ⟨s', ?_, hb', hs'⟩
      rw [List.length_cons, receive_succ_ok hrecv, hrest]

/-- Draining a stream that starts with accepted frames returns those first. -/
theorem drain_wire {s : Inbound} (hs : s.Steady) {fs : List Frame}
    (hfs : ∀ f ∈ fs, Accepted reject f) {rest : Bytes} (hb : s.bytes = wire fs ++ rest) :
    ∃ s', s'.bytes = rest ∧ s'.Steady ∧ drain (receiveFrame onStop reject).run s
      = (fs ++ (drain (receiveFrame onStop reject).run s').1,
          (drain (receiveFrame onStop reject).run s').2) := by
  induction fs generalizing s with
  | nil => exact ⟨s, hb, hs, rfl⟩
  | cons f fs ih =>
      rw [wire_cons, List.append_assoc] at hb
      obtain ⟨s₁, hrecv, hb₁, hs₁⟩ :=
        receiveFrame_steady onStop hs (hfs f List.mem_cons_self) hb
      obtain ⟨s', hb', hs', hrest⟩ := ih hs₁ (fun g hg => hfs g (List.mem_cons_of_mem _ hg)) hb₁
      refine ⟨s', hb', hs', ?_⟩
      rw [drain_ok (receiveFrame_consumes onStop) hrecv, hrest, List.cons_append]

/-- The accepted frames at the front of some bytes, as many as there are. -/
def Decodes (reject : UInt8 → ℕ → Option ε) (bs : Bytes) (fs : List Frame) : Prop :=
  (∀ f ∈ fs, Accepted reject f) ∧
    ∃ rest, bs = wire fs ++ rest ∧ ∀ f, Accepted reject f → ¬ f.bytes <+: rest

/-- What is drained is accepted and stood at the front of the stream, with no accepted frame after
it. -/
lemma drain_decodes {s : Inbound} (hs : s.Steady) :
    Decodes reject s.bytes (drain (receiveFrame onStop reject).run s).1 := by
  induction hn : s.bytes.length using Nat.strongRecOn generalizing s with
  | ind n ih =>
      by_cases hno : ∀ f, Accepted reject f → ¬ f.bytes <+: s.bytes
      · obtain ⟨e, s', herr⟩ := receiveFrame_refuses onStop hno
        rw [drain_error herr]
        exact ⟨by simp, s.bytes, rfl, hno⟩
      · simp only [Classical.not_forall, Classical.not_not, exists_prop] at hno
        obtain ⟨f, hf, rest, hb⟩ := hno
        obtain ⟨s', hrecv, hb', hs'⟩ := receiveFrame_steady onStop hs hf hb.symm
        have hless := receiveFrame_consumes onStop _ _ _ hrecv
        obtain ⟨hall, rest', hrest', hstop⟩ := ih _ (hn ▸ hless) hs' rfl
        rw [drain_ok (receiveFrame_consumes onStop) hrecv]
        refine ⟨?_, rest', ?_, hstop⟩
        · intro g hg
          rcases List.mem_cons.mp hg with rfl | hg
          · exact hf
          · exact hall g hg
        · rw [← hb, wire_cons, List.append_assoc, ← hrest', hb']

/-- The decoding of some bytes is unique. -/
lemma Decodes.unique {bs : Bytes} {fs gs : List Frame} (hf : Decodes reject bs fs)
    (hg : Decodes reject bs gs) : fs = gs := by
  obtain ⟨hfs, a, ha, hfstop⟩ := hf
  obtain ⟨hgs, b, hb, hgstop⟩ := hg
  rw [ha] at hb
  clear ha
  induction fs generalizing gs with
  | nil =>
      cases gs with
      | nil => rfl
      | cons g gs =>
          rw [wire_cons, List.append_assoc] at hb
          exact absurd ⟨wire gs ++ b, hb.symm⟩ (hfstop g (hgs g List.mem_cons_self))
  | cons f fs ih =>
      cases gs with
      | nil =>
          rw [wire_cons, List.append_assoc] at hb
          exact absurd ⟨wire fs ++ a, hb⟩ (hgstop f (hfs f List.mem_cons_self))
      | cons g gs =>
          rw [wire_cons, wire_cons, List.append_assoc, List.append_assoc] at hb
          obtain ⟨rfl, hrest⟩ := bytes_append_inj (hfs f List.mem_cons_self).1
            (hgs g List.mem_cons_self).1 hb
          rw [ih (fun x hx => hfs x (List.mem_cons_of_mem _ hx))
            (fun x hx => hgs x (List.mem_cons_of_mem _ hx)) hrest]

/-- **The frames a receiver makes of a stream** depend on its bytes only: they are its longest run
of accepted frames. -/
theorem drain_eq_iff {s : Inbound} (hs : s.Steady) (fs : List Frame) :
    (drain (receiveFrame onStop reject).run s).1 = fs ↔ Decodes reject s.bytes fs :=
  ⟨fun h => h ▸ drain_decodes onStop hs, fun h => (drain_decodes onStop hs).unique h⟩

/-- A stream of accepted frames drains to them. -/
lemma drain_wire_eq {s : Inbound} (hs : s.Steady) {fs : List Frame} (hfs : ∀ f ∈ fs, Accepted reject f)
    (hb : s.bytes = wire fs) : (drain (receiveFrame onStop reject).run s).1 = fs := by
  refine (drain_eq_iff onStop hs fs).mpr ⟨hfs, [], by rw [hb, List.append_nil], ?_⟩
  intro f _ hprefix
  have := hprefix.length_le
  rw [Frame.length_bytes] at this
  simp at this

/-- A stream of `fs` reads back: exactly those frames and exactly their bytes are taken from in front
of anything else, then the end is reported with `eos`, and a cut inside a frame leaves the frames
before it. -/
structure ReadsBack (recv : Inbound → Except ε Frame × Inbound) (eos : ε) (fs : List Frame)
    (sizes : List ℕ) : Prop where
  exact : ∀ rest, ∃ s', receive recv fs.length (.cut (wire fs ++ rest) sizes) = (fs, none, s') ∧
    s'.bytes = rest
  ended : ∃ s', drain recv (.cut (wire fs) sizes) = (fs, some eos, s') ∧ s'.bytes = []
  cut : ∀ before f after k, fs = before ++ f :: after → 0 < k → k < f.bytes.length →
    ∃ s', drain recv (.cut (wire before ++ f.bytes.take k) sizes) = (before, some eos, s') ∧
      s'.bytes = []

/-- **Accepted frames read back under any segmentation.** -/
theorem readsBack {fs : List Frame} (hfs : ∀ f ∈ fs, Accepted reject f) (sizes : List ℕ) :
    ReadsBack (receiveFrame onStop reject).run (onStop .closed) fs sizes where
  exact rest := by
    obtain ⟨s', hrecv, hrest, -⟩ :=
      receive_wire onStop (Inbound.steady_cut (wire fs ++ rest) sizes) hfs rfl
    exact ⟨s', hrecv, hrest⟩
  ended := by
    obtain ⟨s₁, hb₁, hs₁, hdrain⟩ :=
      drain_wire onStop (Inbound.steady_cut (wire fs) sizes) hfs (List.append_nil _).symm
    obtain ⟨s', herr, hend⟩ := receiveFrame_end onStop hs₁ hb₁
    exact ⟨s', by rw [hdrain, drain_error herr, List.append_nil], hend⟩
  cut before f after k hsplit _ hk := by
    subst hsplit
    obtain ⟨s₁, hb₁, hs₁, hdrain⟩ :=
      drain_wire onStop (Inbound.steady_cut (wire before ++ f.bytes.take k) sizes)
        (fun g hg => hfs g (List.mem_append_left _ hg)) rfl
    obtain ⟨s', herr, hend, -⟩ := receiveFrame_cut onStop hs₁
      (hfs f (List.mem_append_right _ List.mem_cons_self)) hk hb₁
    exact ⟨s', by rw [hdrain, drain_error herr, List.append_nil], hend⟩

end Receiver

end Frames
