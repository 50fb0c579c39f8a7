import Sudonit.Phone.Server

/-!
# What a connection makes of its frames

The reassembler of `handle_connection` against the whole history of the connection.

* `handleFrame_ok`, `handleFrame_error` — what one pass can do.
* `Collects` — the invariant: an open reassembler holds the chunks that came since the `image_begin` it
  was made from, with nothing opened or closed in between.
* `runs_are_images` — every call of the pipeline is for the image an `image_end` completes, and a
  transfer on an open connection is processed whatever came before it.
-/

namespace Sudonit

open Octets Stream Frames Python Chunks

/-! ## Events -/

/-- What a frame is to the reassembler. -/
inductive Event
  | chunk (payload : Bytes)
  | opens (msg : Dict)
  | closes
  | other

/-- What a control message is to the reassembler. -/
def controlEvent (msg : Dict) : Event :=
  if isStr (messageType msg) (str "image_begin") then .opens msg
  else if isStr (messageType msg) (str "image_end") then .closes
  else .other

/-- What a frame is to the reassembler. -/
def event (phone : Phone) (f : Frame) : Event :=
  if f.kind = kindBinary then .chunk f.payload
  else
    match decodeControl phone.py f.payload with
    | .error _ => .other
    | .ok msg => controlEvent msg

/-! ## One pass -/

lemma run_sending {x : Effect Outbound PyExc Unit} {s s' : Served} {r : Except PyExc Unit}
    (h : (sending x).run s = (r, s')) : s'.runs = s.runs := by
  rw [sending, Effect.run_within, Prod.mk.injEq] at h
  rw [← h.2]

/-- Sending something and going on with the same reassembler. -/
lemma run_sending_return {x : Effect Outbound PyExc Unit} {kept : Option ImageReassembler} {s s' : Served}
    {r : Except PyExc (Option ImageReassembler)}
    (h : (sending x >>= fun _ => pure kept).run s = (r, s')) :
    s'.runs = s.runs ∧ ∀ next, r = .ok next → next = kept := by
  rw [Effect.run_bind] at h
  rcases hx : (sending x).run s with ⟨e | _, s₁⟩
  · simp only [hx, Prod.mk.injEq] at h
    obtain ⟨rfl, rfl⟩ := h
    exact ⟨run_sending hx, by simp⟩
  · simp only [hx, Effect.run_pure, Prod.mk.injEq] at h
    obtain ⟨rfl, rfl⟩ := h
    refine ⟨run_sending hx, ?_⟩
    intro next hnext
    exact (Except.ok.inj hnext).symm

/-- What a pass of the loop can do: the result, and the state it leaves. -/
inductive Pass (phone : Phone) (s : Served) :
    Option ImageReassembler → Event → Except PyExc (Option ImageReassembler) → Served → Prop
  /-- nothing that concerns the reassembler, or a failure -/
  | aside {current : Option ImageReassembler} {ev : Event} {r : Except PyExc (Option ImageReassembler)}
      {s' : Served} (hruns : s'.runs = s.runs)
      (hkept : ∀ next, r = .ok next → next = current ∧ (∀ msg, ev ≠ .opens msg) ∧
        (ev = .closes → current = none) ∧ ∀ payload, ev = .chunk payload → current = none) :
      Pass phone s current ev r s'
  /-- a chunk for the open reassembler -/
  | added {current fed : ImageReassembler} {payload : Bytes} (hadd : current.addChunk payload = .ok fed) :
      Pass phone s (some current) (.chunk payload) (.ok (some fed)) s
  /-- a new reassembler -/
  | opened {current : Option ImageReassembler} {msg : Dict} {fresh : ImageReassembler}
      (hnew : ImageReassembler.new msg = .ok fresh) : Pass phone s current (.opens msg) (.ok (some fresh)) s
  /-- a completed image -/
  | completed {current : ImageReassembler} {image : ReceivedImage} (hfinish : current.finish = .ok image)
      {r : Except PyExc Unit} {s' : Served} (hreply : (processAndReply phone image).run s = (r, s')) :
      Pass phone s (some current) .closes (r.map fun _ => none) s'

/-- A failure before anything was run. -/
lemma Pass.failed {phone : Phone} {s : Served} {current : Option ImageReassembler} {ev : Event} {e : PyExc} :
    Pass phone s current ev (.error e) s :=
  .aside rfl (by simp)

lemma isStr_unique {v : JsonValue} {s t : PyStr} (hs : isStr v s = true) (hne : s ≠ t) : isStr v t = false := by
  rw [isStr_iff] at hs
  rw [hs, isStr]
  exact decide_eq_false hne

lemma handleControl_pass {phone : Phone} {current : Option ImageReassembler} {msg : Dict} {s s' : Served}
    {r : Except PyExc (Option ImageReassembler)}
    (h : (handleControl phone current msg).run s = (r, s')) :
    Pass phone s current (controlEvent msg) r s' := by
  have hother : ∀ {x : Effect Outbound PyExc Unit}, controlEvent msg = .other →
      (sending x >>= fun _ => pure current).run s = (r, s') →
      Pass phone s current (controlEvent msg) r s' := by
    intro x hev hrun
    obtain ⟨hruns, hkept⟩ := run_sending_return hrun
    rw [hev]
    exact .aside hruns fun next hnext => ⟨hkept next hnext, by simp, by simp, by simp⟩
  unfold handleControl at h
  rw [controlEvent] at hother ⊢
  split_ifs at h with hping hinfo hbegin hend
  · rw [if_neg (by simp [isStr_unique hping (t := str "image_begin") (by decide)]),
      if_neg (by simp [isStr_unique hping (t := str "image_end") (by decide)])] at hother ⊢
    exact hother rfl h
  · rw [if_neg (by simp [isStr_unique hinfo (t := str "image_begin") (by decide)]),
      if_neg (by simp [isStr_unique hinfo (t := str "image_end") (by decide)])] at hother ⊢
    exact hother rfl h
  · rw [if_pos hbegin]
    rw [Effect.run_ofExcept_bind] at h
    cases hnew : ImageReassembler.new msg with
    | error e =>
        simp only [hnew] at h
        obtain ⟨rfl, rfl⟩ := Prod.mk.inj h
        exact .failed
    | ok fresh =>
        simp only [hnew] at h
        obtain ⟨rfl, rfl⟩ := Prod.mk.inj h
        exact .opened hnew
  · rw [if_neg hbegin, if_pos hend]
    cases current with
    | none =>
        obtain ⟨rfl, rfl⟩ := Prod.mk.inj h
        exact .aside rfl fun next hnext => ⟨(Except.ok.inj hnext).symm, by simp, by simp, by simp⟩
    | some current =>
        simp only at h
        rw [Effect.run_ofExcept_bind] at h
        cases hfinish : current.finish with
        | error e =>
            simp only [hfinish, Except.mapError] at h
            obtain ⟨rfl, rfl⟩ := Prod.mk.inj h
            exact .failed
        | ok image =>
            simp only [hfinish, Except.mapError, Effect.run_bind] at h
            rcases hreply : (processAndReply phone image).run s with ⟨e | _, s₁⟩
            · simp only [hreply] at h
              obtain ⟨rfl, rfl⟩ := Prod.mk.inj h
              exact .completed hfinish hreply
            · simp only [hreply] at h
              obtain ⟨rfl, rfl⟩ := Prod.mk.inj h
              exact .completed hfinish hreply
  · rw [if_neg hbegin, if_neg hend] at hother ⊢
    exact hother rfl h

/-- **What a pass of the loop does** is one of these. -/
theorem handleFrame_pass {phone : Phone} {current : Option ImageReassembler} {f : Frame} {s s' : Served}
    {r : Except PyExc (Option ImageReassembler)} (h : (handleFrame phone current f).run s = (r, s')) :
    Pass phone s current (event phone f) r s' := by
  unfold handleFrame at h
  rw [event]
  split_ifs at h ⊢ with hkind
  · cases current with
    | none =>
        obtain ⟨hruns, hkept⟩ := run_sending_return h
        exact .aside hruns fun next hnext => ⟨hkept next hnext, by simp, by simp, by simp⟩
    | some current =>
        simp only at h
        rw [Effect.run_ofExcept_bind] at h
        cases hadd : current.addChunk f.payload with
        | error e =>
            simp only [hadd, Except.mapError] at h
            obtain ⟨rfl, rfl⟩ := Prod.mk.inj h
            exact .failed
        | ok fed =>
            simp only [hadd, Except.mapError] at h
            obtain ⟨rfl, rfl⟩ := Prod.mk.inj h
            exact .added hadd
  · rw [Effect.run_ofExcept_bind] at h
    cases hmsg : decodeControl phone.py f.payload with
    | error e =>
        simp only [hmsg] at h
        obtain ⟨rfl, rfl⟩ := Prod.mk.inj h
        exact .failed
    | ok msg =>
        simp only [hmsg] at h
        exact handleControl_pass h

/-! ## Calls of the pipeline -/

/-- The computation calls nothing. -/
def KeepsRuns {α : Type} (x : Effect Served PyExc α) : Prop := ∀ s, (x.run s).2.runs = s.runs

lemma KeepsRuns.bind {α β : Type} {x : Effect Served PyExc α} {f : α → Effect Served PyExc β}
    (hx : KeepsRuns x) (hf : ∀ a, KeepsRuns (f a)) : KeepsRuns (x >>= f) := by
  intro s
  have hfirst := hx s
  rw [Effect.run_bind]
  rcases hrun : x.run s with ⟨e | a, s'⟩
  · rw [← hfirst, hrun]
  · rw [← hfirst, hrun]
    exact hf a s'

lemma keepsRuns_sending (x : Effect Outbound PyExc Unit) : KeepsRuns (sending x) := fun _ => rfl

lemma keepsRuns_printLine (phone : Phone) (line : PyStr) : KeepsRuns (printLine phone line) := fun _ => rfl

lemma keepsRuns_reply (phone : Phone) (image : ReceivedImage) (result : PipelineResult) :
    KeepsRuns (reply phone image result) := by
  unfold reply
  refine (keepsRuns_printLine _ _).bind fun _ => (keepsRuns_sending _).bind fun _ => ?_
  cases result.audioFile with
  | wav found => exact KeepsRuns.bind (fun _ => rfl) fun _ => keepsRuns_sending _
  | other => exact keepsRuns_printLine _ _

/-- The call made for an image. -/
def ReceivedImage.call (image : ReceivedImage) : RunCall := ⟨image.data, image.mediaType, image.imageId⟩

/-- An image is processed with one call, unless its line cannot be printed. -/
lemma processAndReply_runs (phone : Phone) (image : ReceivedImage) (s : Served) :
    ((processAndReply phone image).run s).2.runs = match phone.print (receivedLine phone image) with
      | .ok () => s.runs ++ [image.call]
      | .error _ => s.runs := by
  rw [processAndReply, printLine, Effect.run_ofExcept_bind]
  cases phone.print (receivedLine phone image) with
  | error e => rfl
  | ok _ =>
      simp only [runPipeline, Effect.run_bind]
      cases phone.pipelineRun s.runs ⟨image.data, image.mediaType, image.imageId⟩ with
      | error e => rfl
      | ok result => exact keepsRuns_reply phone image result _

/-! ## The open transfer -/

/-- The chunks of the binary frames among some frames. -/
def received (fs : List Frame) : List (Chunk UInt8) :=
  (fs.filter fun f => f.kind = kindBinary).map fun f => chunkOf f.payload

lemma received_append (fs gs : List Frame) : received (fs ++ gs) = received fs ++ received gs := by
  rw [received, List.filter_append, List.map_append, received, received]

/-- Frames that neither open nor close a transfer. -/
def Within (phone : Phone) (fs : List Frame) : Prop :=
  ∀ f ∈ fs, event phone f ≠ .closes ∧ ∀ msg, event phone f ≠ .opens msg

/-- The reassembler holds the chunks that came since the `image_begin` it was made from, and nothing was
opened or closed in between. -/
def Collects (phone : Phone) (past : List Frame) (current : ImageReassembler) : Prop :=
  ∃ old b recent msg, past = old ++ b :: recent ∧ event phone b = .opens msg ∧ Within phone recent ∧
    ImageAnnounced msg current ∧ current.transfer.Holds (received recent)

/-- The invariant of the loop. -/
def Follows (phone : Phone) (past : List Frame) (reassembler : Option ImageReassembler) : Prop :=
  ∀ current, reassembler = some current → Collects phone past current

lemma collects_opened {phone : Phone} {msg : Dict} {fresh : ImageReassembler} {f : Frame}
    (hf : event phone f = .opens msg) (hnew : ImageReassembler.new msg = .ok fresh) (past : List Frame) :
    Collects phone (past ++ [f]) fresh := by
  obtain ⟨hmsg, hempty⟩ := ImageReassembler.new_ok hnew
  refine ⟨past, f, [], msg, rfl, hf, by simp [Within], hmsg, ?_⟩
  intro i
  rw [hempty]
  rfl

lemma Collects.aside {phone : Phone} {past : List Frame} {current : ImageReassembler} {f : Frame}
    (h : Collects phone past current) (hclose : event phone f ≠ .closes)
    (hopen : ∀ msg, event phone f ≠ .opens msg) (hkind : f.kind ≠ kindBinary) :
    Collects phone (past ++ [f]) current := by
  obtain ⟨old, b, recent, msg, rfl, hb, hwithin, hmsg, hholds⟩ := h
  refine ⟨old, b, recent ++ [f], msg, by simp, hb, ?_, hmsg, ?_⟩
  · intro g hg
    rcases List.mem_append.mp hg with hg | hg
    · exact hwithin g hg
    · rw [List.mem_singleton.mp hg]
      exact ⟨hclose, hopen⟩
  · have hnone : received [f] = [] := by simp [received, hkind]
    rwa [received_append, hnone, List.append_nil]

lemma ImageReassembler.addChunk_ok {current fed : ImageReassembler} {payload : Bytes}
    (h : current.addChunk payload = .ok fed) :
    ∃ t, current.transfer.addChunk payload = .ok t ∧ fed = { current with transfer := t } := by
  rw [addChunk] at h
  cases ht : current.transfer.addChunk payload with
  | error e => simp [ht, Except.map] at h
  | ok t =>
      rw [ht] at h
      exact ⟨t, rfl, (Except.ok.inj h).symm⟩

lemma Collects.added {phone : Phone} {past : List Frame} {current fed : ImageReassembler} {f : Frame}
    (h : Collects phone past current) (hkind : f.kind = kindBinary)
    (hadd : current.addChunk f.payload = .ok fed) : Collects phone (past ++ [f]) fed := by
  obtain ⟨old, b, recent, msg, rfl, hb, hwithin, hmsg, hholds⟩ := h
  obtain ⟨t, ht, rfl⟩ := ImageReassembler.addChunk_ok hadd
  obtain ⟨hholds', hsize, hchunks, hsha⟩ := hholds.addChunk ht
  have hev : event phone f = .chunk f.payload := by rw [event, if_pos hkind]
  refine ⟨old, b, recent ++ [f], msg, by simp, hb, ?_, ?_, ?_⟩
  · intro g hg
    rcases List.mem_append.mp hg with hg | hg
    · exact hwithin g hg
    · rw [List.mem_singleton.mp hg, hev]
      simp
  · exact ⟨hmsg.imageId, hmsg.mediaType, hsize ▸ hmsg.size, hchunks ▸ hmsg.chunks, hsha ▸ hmsg.sha256⟩
  · have hone : received [f] = [chunkOf f.payload] := by simp [received, hkind]
    rw [received_append, hone]
    exact hholds'

/-- **One pass keeps the invariant.** -/
theorem Follows.step {phone : Phone} {past : List Frame} {reassembler next : Option ImageReassembler}
    (h : Follows phone past reassembler) {f : Frame} {s s' : Served}
    (hpass : Pass phone s reassembler (event phone f) (.ok next) s') :
    Follows phone (past ++ [f]) next := by
  intro current hnext
  generalize hev : event phone f = ev at hpass
  generalize hr : (Except.ok next : Except PyExc (Option ImageReassembler)) = r at hpass
  cases hpass with
  | aside hruns hkept =>
      obtain ⟨rfl, hopen, hclose, hchunk⟩ := hkept next hr.symm
      subst hnext
      refine (h current rfl).aside ?_ (hev ▸ hopen) ?_
      · rw [hev]
        exact fun hcl => absurd (hclose hcl) (by simp)
      · intro hkind
        rw [event, if_pos hkind] at hev
        exact absurd (hchunk _ hev.symm) (by simp)
  | added hadd =>
      rename_i old fed payload
      obtain rfl := Except.ok.inj hr
      obtain rfl := Option.some.inj hnext
      have hkind : f.kind = kindBinary ∧ f.payload = payload := by
        rw [event] at hev
        split_ifs at hev with hkind
        · exact ⟨hkind, Event.chunk.inj hev⟩
        · split at hev
          · simp at hev
          · rw [controlEvent] at hev
            split_ifs at hev
      exact (h old rfl).added hkind.1 (hkind.2 ▸ hadd)
  | opened hnew =>
      obtain rfl := Except.ok.inj hr
      obtain rfl := Option.some.inj hnext
      exact collects_opened hev hnew past
  | completed hfinish hreply =>
      rename_i result
      subst hnext
      cases result <;> simp [Except.map] at hr

/-! ## Whole runs -/

/-- The call is for the image this frame closes: the chunks that came last under each number since the
most recent `image_begin`, as many, as long and with the digest it announced.  Nothing was closed since
that `image_begin`. -/
def Completes (phone : Phone) (past : List Frame) (f : Frame) (call : RunCall) : Prop :=
  event phone f = .closes ∧ ∃ old b recent msg size chunks,
    past = old ++ b :: recent ∧ event phone b = .opens msg ∧ Within phone recent ∧
    require msg (str "image_id") = .ok call.imageId ∧
    call.mediaType = (dictGet msg (str "media_type")).getD (.str (str "image/png")) ∧
    requireInt msg (str "size") = .ok size ∧ requireInt msg (str "chunks") = .ok chunks ∧
    joined (last (received recent)) 0 chunks.toNat = some call.imageBytes ∧
    (call.imageBytes.length : ℤ) = size ∧
    require msg (str "sha256") = .ok (.str (ofBytes (Sha256.hexdigest call.imageBytes)))

lemma ImageReassembler.finish_ok {current : ImageReassembler} {image : ReceivedImage}
    (h : current.finish = .ok image) : current.transfer.finish = .ok image.data ∧
      image.imageId = current.imageId ∧ image.mediaType = current.mediaType := by
  rw [finish] at h
  cases hdata : current.transfer.finish with
  | error e => simp [hdata, Except.map] at h
  | ok data =>
      rw [hdata] at h
      rw [← Except.ok.inj h]
      exact ⟨rfl, rfl, rfl⟩

lemma Collects.completes {phone : Phone} {past : List Frame} {current : ImageReassembler}
    (h : Collects phone past current) {f : Frame} (hclose : event phone f = .closes) {image : ReceivedImage}
    (hfinish : current.finish = .ok image) : Completes phone past f image.call := by
  obtain ⟨old, b, recent, msg, hpast, hb, hwithin, hmsg, hholds⟩ := h
  obtain ⟨hdata, himage, hmedia⟩ := ImageReassembler.finish_ok hfinish
  obtain ⟨-, hjoin, hlen, hsha⟩ := (Transfer.finish_eq_ok_iff hholds).mp hdata
  have hid : require msg (str "image_id") = .ok image.call.imageId := by
    rw [hmsg.imageId, ReceivedImage.call, himage]
  exact ⟨hclose, old, b, recent, msg, _, _, hpast, hb, hwithin, hid, hmedia.trans hmsg.mediaType,
    hmsg.size, hmsg.chunks, hjoin, hlen, hsha ▸ hmsg.sha256⟩

/-- A pass calls the pipeline only for the image it completes, and only once. -/
lemma Pass.runs {phone : Phone} {past : List Frame} {current : Option ImageReassembler}
    (h : Follows phone past current) {f : Frame} {s s' : Served}
    {r : Except PyExc (Option ImageReassembler)} (hpass : Pass phone s current (event phone f) r s') :
    s'.runs = s.runs ∨ ∃ call, s'.runs = s.runs ++ [call] ∧ Completes phone past f call := by
  generalize hev : event phone f = ev at hpass
  cases hpass with
  | aside hruns _ => exact Or.inl hruns
  | added _ => exact Or.inl rfl
  | opened _ => exact Or.inl rfl
  | completed hfinish hreply =>
      rename_i image result
      have hruns := processAndReply_runs phone image s
      rw [hreply] at hruns
      cases hprint : phone.print (receivedLine phone image) with
      | error e =>
          rw [hprint] at hruns
          exact Or.inl hruns
      | ok _ =>
          rw [hprint] at hruns
          exact Or.inr ⟨image.call, hruns, (h _ rfl).completes hev hfinish⟩

/-- The call stands for the frame at that place. -/
def CalledAt (phone : Phone) (fs : List Frame) (i : ℕ) (call : RunCall) : Prop :=
  ∃ f, fs[i]? = some f ∧ Completes phone (fs.take i) f call

/-- **The passes of the loop** keep the invariant, and their calls stand for the frames that complete an
image, in order. -/
theorem serve_runs {phone : Phone} {past : List Frame} {current : Option ImageReassembler}
    (h : Follows phone past current) {fs : List Frame} {s s' : Served}
    {r : Except PyExc (Option ImageReassembler)} (hrun : (serve phone current fs).run s = (r, s')) :
    (∃ calls positions, s'.runs = s.runs ++ calls ∧ positions.Pairwise (· < ·) ∧
      (∀ i ∈ positions, past.length ≤ i) ∧
      List.Forall₂ (CalledAt phone (past ++ fs)) positions calls) ∧
    ∀ next, r = .ok next → Follows phone (past ++ fs) next := by
  induction fs generalizing past current s with
  | nil =>
      obtain ⟨rfl, rfl⟩ := Prod.mk.inj hrun
      refine ⟨⟨[], [], by simp, by simp, by simp, by simp⟩, ?_⟩
      intro next hnext
      rw [← Except.ok.inj hnext, List.append_nil]
      exact h
  | cons f fs ih =>
      have hsplit : past ++ f :: fs = past ++ [f] ++ fs := by simp
      have hhere : ∀ call, Completes phone past f call →
          CalledAt phone (past ++ f :: fs) past.length call := by
        intro call hcall
        refine ⟨f, by simp, ?_⟩
        rwa [List.take_left]
      rw [serve, Effect.run_bind] at hrun
      rcases hframe : (handleFrame phone current f).run s with ⟨e | current', s₁⟩
      · simp only [hframe] at hrun
        obtain ⟨rfl, rfl⟩ := Prod.mk.inj hrun
        refine ⟨?_, by simp⟩
        rcases (handleFrame_pass hframe).runs h with hruns | ⟨call, hruns, hcall⟩
        · exact ⟨[], [], by rw [hruns, List.append_nil], by simp, by simp, by simp⟩
        · exact ⟨[call], [past.length], hruns, by simp, by simp, by simpa using hhere call hcall⟩
      · simp only [hframe] at hrun
        have hpass := handleFrame_pass hframe
        obtain ⟨⟨calls, positions, hruns, hsorted, hfrom, hcalled⟩, hnext⟩ := ih (h.step hpass) hrun
        rw [← hsplit] at hcalled hnext
        rw [List.length_append, List.length_singleton] at hfrom
        refine ⟨?_, hnext⟩
        rcases hpass.runs h with hsame | ⟨call, hone, hcall⟩
        · rw [hsame] at hruns
          exact ⟨calls, positions, hruns, hsorted, fun i hi => by have := hfrom i hi; omega, hcalled⟩
        · rw [hone, List.append_assoc, List.singleton_append] at hruns
          refine ⟨call :: calls, past.length :: positions, hruns, ?_, ?_,
            List.Forall₂.cons (hhere call hcall) hcalled⟩
          · exact List.pairwise_cons.mpr ⟨fun i hi => by have := hfrom i hi; omega, hsorted⟩
          · exact List.forall_mem_cons.mpr ⟨le_rfl, fun i hi => by have := hfrom i hi; omega⟩

/-- Behind an `image_end` with no `image_begin` after it there is no reassembler. -/
lemma Follows.closed {phone : Phone} {past : List Frame} {current : Option ImageReassembler}
    (h : Follows phone past current) {old recent : List Frame} {e : Frame} (hpast : past = old ++ e :: recent)
    (he : event phone e = .closes) (hrecent : ∀ g ∈ recent, ∀ msg, event phone g ≠ .opens msg) :
    current = none := by
  rcases current with _ | current
  · rfl
  obtain ⟨old', b, recent', msg, hpast', hb, hwithin, -, -⟩ := h current rfl
  have hend : e :: recent <:+ past := ⟨old, hpast.symm⟩
  have hbegin : b :: recent' <:+ past := ⟨old', hpast'.symm⟩
  rcases List.suffix_or_suffix_of_suffix hend hbegin with hsuffix | hsuffix
  · -- The end stands at the beginning or behind it.
    rcases List.mem_cons.mp (hsuffix.subset List.mem_cons_self) with rfl | hmem
    · rw [he] at hb
      simp at hb
    · exact absurd he (hwithin e hmem).1
  · rcases List.mem_cons.mp (hsuffix.subset List.mem_cons_self) with rfl | hmem
    · rw [he] at hb
      simp at hb
    · exact absurd hb (hrecent b hmem msg)

/-! ## A transfer -/

/-- The frames are a complete transfer of this image: an `image_begin`, chunks that finish the reassembler
made from it, an `image_end`. -/
def ValidTransfer (phone : Phone) (fs : List Frame) (image : ReceivedImage) : Prop :=
  ∃ b chunks e msg fresh fed, fs = b :: chunks ++ [e] ∧ event phone b = .opens msg ∧
    ImageReassembler.new msg = .ok fresh ∧ (∀ f ∈ chunks, f.kind = kindBinary) ∧
    fresh.feed (chunks.map Frame.payload) = .ok fed ∧ fed.finish = .ok image ∧ event phone e = .closes

lemma handleFrame_opens {phone : Phone} {f : Frame} {msg : Dict} (hf : event phone f = .opens msg)
    {fresh : ImageReassembler} (hnew : ImageReassembler.new msg = .ok fresh)
    (current : Option ImageReassembler) (s : Served) :
    (handleFrame phone current f).run s = (.ok (some fresh), s) := by
  unfold handleFrame
  rw [event] at hf
  split_ifs at hf with hkind
  rw [if_neg hkind, Effect.run_ofExcept_bind]
  cases hmsg : decodeControl phone.py f.payload with
  | error e => simp [hmsg] at hf
  | ok msg' =>
      simp only [hmsg, controlEvent] at hf
      split_ifs at hf with hbegin
      obtain rfl := Event.opens.inj hf
      have hother : ∀ t ∈ ["ping", "device_info"], isStr (messageType msg') (str t) = false := by
        have hne : ∀ t ∈ ["ping", "device_info"], str "image_begin" ≠ str t := by decide
        exact fun t ht => isStr_unique hbegin (hne t ht)
      simp only [handleControl, hother "ping" (by simp), hother "device_info" (by simp), hbegin, if_true,
        Bool.false_eq_true, if_false, Effect.run_ofExcept_bind, hnew]
      rfl

lemma handleFrame_closes {phone : Phone} {f : Frame} (hf : event phone f = .closes)
    (current : Option ImageReassembler) (s : Served) :
    (handleFrame phone current f).run s = match current with
      | none => (.ok none, s)
      | some r =>
          match r.finish with
          | .error e => (.error (.protocolError e), s)
          | .ok image =>
              (((processAndReply phone image).run s).1.map fun _ => none,
                ((processAndReply phone image).run s).2) := by
  unfold handleFrame
  rw [event] at hf
  split_ifs at hf with hkind
  rw [if_neg hkind, Effect.run_ofExcept_bind]
  cases hmsg : decodeControl phone.py f.payload with
  | error e => simp [hmsg] at hf
  | ok msg =>
      simp only [hmsg, controlEvent] at hf
      split_ifs at hf with hbegin hend
      have hother : ∀ t ∈ ["ping", "device_info"], isStr (messageType msg) (str t) = false := by
        have hne : ∀ t ∈ ["ping", "device_info"], str "image_end" ≠ str t := by decide
        exact fun t ht => isStr_unique hend (hne t ht)
      simp only [handleControl, hother "ping" (by simp), hother "device_info" (by simp), hbegin, hend,
        if_true, Bool.false_eq_true, if_false]
      cases current with
      | none => rfl
      | some r =>
          simp only [Effect.run_ofExcept_bind]
          cases r.finish with
          | error e => rfl
          | ok image =>
              simp only [Except.mapError, Effect.run_bind]
              rcases (processAndReply phone image).run s with ⟨e | _, s'⟩ <;> rfl

lemma serve_chunks {phone : Phone} {fs : List Frame} (hfs : ∀ f ∈ fs, f.kind = kindBinary)
    {r fed : ImageReassembler} (hfeed : r.feed (fs.map Frame.payload) = .ok fed) (s : Served) :
    (serve phone (some r) fs).run s = (.ok (some fed), s) := by
  induction fs generalizing r with
  | nil =>
      rw [← Except.ok.inj hfeed]
      rfl
  | cons f fs ih =>
      rw [List.map_cons, ImageReassembler.feed] at hfeed
      cases hadd : r.addChunk f.payload with
      | error e => simp [hadd] at hfeed
      | ok r' =>
          simp only [hadd] at hfeed
          have hframe : (handleFrame phone (some r) f).run s = (.ok (some r'), s) := by
            simp only [handleFrame, hfs f List.mem_cons_self, if_true, Effect.run_ofExcept_bind, hadd,
              Except.mapError]
            rfl
          rw [serve, Effect.run_bind_ok hframe]
          exact ih (fun g hg => hfs g (List.mem_cons_of_mem _ hg)) hfeed

/-- **A complete transfer is processed**, whatever the reassembler held before. -/
theorem serve_transfer {phone : Phone} {fs : List Frame} {image : ReceivedImage}
    (h : ValidTransfer phone fs image) (current : Option ImageReassembler) (s : Served) :
    (serve phone current fs).run s = (((processAndReply phone image).run s).1.map fun _ => none,
      ((processAndReply phone image).run s).2) := by
  obtain ⟨b, chunks, e, msg, fresh, fed, rfl, hb, hnew, hkinds, hfeed, hfinish, he⟩ := h
  rw [List.cons_append, serve, Effect.run_bind_ok (handleFrame_opens hb hnew current s),
    serve_append_ok (serve_chunks hkinds hfeed s), serve, Effect.run_bind, handleFrame_closes he]
  simp only [hfinish]
  rcases (processAndReply phone image).run s with ⟨e | _, s'⟩ <;> rfl

lemma follows_start (phone : Phone) : Follows phone [] none := by
  intro current h
  simp at h

/-- The calls made on a connection stand for the frames that complete an image, in order. -/
lemma handleConnection_runs (phone : Phone) (conn : Inbound) (s : Served) :
    ∃ calls positions, (handleConnection phone conn s).2.runs = s.runs ++ calls ∧
      positions.Pairwise (· < ·) ∧
      List.Forall₂ (CalledAt phone (drain recvFrame.run conn).1) positions calls := by
  rw [handleConnection, connectionLoop_eq]
  rcases hrun : (serve phone none (drain recvFrame.run conn).1).run s with ⟨e | next, s'⟩
  · obtain ⟨⟨calls, positions, hruns, hsorted, -, hcalled⟩, -⟩ := serve_runs (follows_start phone) hrun
    exact ⟨calls, positions, hruns, hsorted, hcalled⟩
  · obtain ⟨⟨calls, positions, hruns, hsorted, -, hcalled⟩, -⟩ := serve_runs (follows_start phone) hrun
    exact ⟨calls, positions, hruns, hsorted, hcalled⟩

/-- **The connection runs the pipeline on whole images and on nothing else.**

Every call stands for an `image_end` and is for the image it completes: what came last under each number
since the most recent `image_begin`, which is later than any earlier `image_end`.  Behind an `image_end`
with no `image_begin` since, another one does nothing.  And on a connection that is still open, whatever
came before, a complete transfer is processed with one call, on its own image. -/
theorem runs_are_images (phone : Phone) (conn : Inbound) (s : Served) :
    (∃ calls positions, (handleConnection phone conn s).2.runs = s.runs ++ calls ∧
      positions.Pairwise (· < ·) ∧
      List.Forall₂ (CalledAt phone (drain recvFrame.run conn).1) positions calls) ∧
    ∀ past current s₁, (serve phone none past).run s = (.ok current, s₁) →
      (∀ old e recent f, past = old ++ e :: recent → event phone e = .closes →
        (∀ g ∈ recent, ∀ msg, event phone g ≠ .opens msg) → event phone f = .closes →
        (handleFrame phone current f).run s₁ = (.ok none, s₁)) ∧
      ∀ fs image s₂, ValidTransfer phone fs image →
        (processAndReply phone image).run s₁ = (.ok (), s₂) →
        (serve phone none (past ++ fs)).run s = (.ok none, s₂) ∧ s₂.runs = s₁.runs ++ [image.call] := by
  constructor
  · exact handleConnection_runs phone conn s
  · intro past current s₁ hpast
    have hfollows := (serve_runs (follows_start phone) hpast).2 current rfl
    constructor
    · intro old e recent f hsplit he hrecent hf
      rw [handleFrame_closes hf, hfollows.closed hsplit he hrecent]
    · intro fs image s₂ htransfer hreply
      constructor
      · rw [serve_append_ok hpast, serve_transfer htransfer, hreply]
        rfl
      · have hruns := processAndReply_runs phone image s₁
        rw [hreply] at hruns
        cases hprint : phone.print (receivedLine phone image) with
        | error e => simp [processAndReply, printLine, hprint, Effect.run_ofExcept_bind] at hreply
        | ok _ => rwa [hprint] at hruns

end Sudonit
