import Sudonit.Core.Chunks
import Sudonit.Protocol.MessagesPy

/-!
# What a reassembler has received

A transfer holds, for each number, the payload that came last under it (`Transfer.Holds`).  So whether
it can be finished, and with which bytes, depends on the chunks alone (`Transfer.finish_eq_ok_iff`), and
a tiling of the announced size can be finished with the buffer it fills (`Transfer.finish_tiling`).
`reassembly_by_content` says so of the two reassemblers, in terms of the numbers received.
-/

namespace Sudonit

open Octets Frames Python Chunks

/-- The chunk in the payload of a binary frame. -/
def chunkOf (payload : Bytes) : Chunk UInt8 := ⟨beNat (payload.take 4), payload.drop 4⟩

/-- The chunks of some frames. -/
def chunksOf (fs : List Frame) : List (Chunk UInt8) := fs.map fun f => chunkOf f.payload

@[simp] lemma chunksOf_cons (f : Frame) (fs : List Frame) :
    chunksOf (f :: fs) = chunkOf f.payload :: chunksOf fs := rfl

/-- The transfer holds what these chunks left. -/
def Transfer.Holds (t : Transfer) (cs : List (Chunk UInt8)) : Prop :=
  ∀ i, t.chunks.lookup i = last cs i

lemma Transfer.Holds.empty {size chunks : ℤ} {sha : JsonValue} :
    (⟨size, chunks, sha, ∅⟩ : Transfer).Holds [] := by
  intro i
  simp

/-- A chunk is short or it is kept. -/
lemma Transfer.addChunk_eq (t : Transfer) (payload : Bytes) :
    t.addChunk payload = if payload.length < 4 then .error .shortChunk
      else .ok { t with chunks := t.chunks.insert (chunkOf payload).seq (chunkOf payload).data } := rfl

lemma Transfer.Holds.addChunk {t t' : Transfer} {cs : List (Chunk UInt8)} {payload : Bytes}
    (h : t.Holds cs) (hadd : t.addChunk payload = .ok t') :
    t'.Holds (cs ++ [chunkOf payload]) ∧ t'.expectedSize = t.expectedSize ∧
      t'.expectedChunks = t.expectedChunks ∧ t'.expectedSha256 = t.expectedSha256 := by
  rw [Transfer.addChunk_eq] at hadd
  split_ifs at hadd
  obtain rfl := Except.ok.inj hadd
  refine ⟨?_, rfl, rfl, rfl⟩
  intro i
  rw [last_concat]
  by_cases hi : (chunkOf payload).seq = i
  · subst hi
    rw [if_pos rfl]
    exact AList.lookup_insert _
  · rw [if_neg hi, ← h i]
    exact AList.lookup_insert_ne (Ne.symm hi)

/-- As many entries as there are different numbers. -/
lemma Transfer.Holds.length_keys {t : Transfer} {cs : List (Chunk UInt8)} (h : t.Holds cs) :
    t.chunks.keys.length = (cs.map Chunk.seq).toFinset.card := by
  have hkeys : t.chunks.keys.toFinset = (cs.map Chunk.seq).toFinset := by
    ext i
    rw [List.mem_toFinset, List.mem_toFinset, ← AList.mem_keys, ← AList.lookup_isSome, h i,
      last_isSome]
  rw [← hkeys, List.toFinset_card_of_nodup t.chunks.keys_nodup]

lemma joinChunks_eq_ok {chunks : AList fun _ : ℕ => Bytes} {i n : ℕ} {data : Bytes} :
    joinChunks chunks i n = .ok data ↔ joined (fun i => chunks.lookup i) i n = some data := by
  induction n generalizing i data with
  | zero => simp [joinChunks, joined]
  | succ n ih =>
      rw [joinChunks, joined]
      cases hlook : chunks.lookup i with
      | none => simp
      | some part =>
          simp only
          cases hrest : joinChunks chunks (i + 1) n with
          | error e =>
              have hnone : joined (fun i => chunks.lookup i) (i + 1) n = none := by
                rcases hj : joined (fun i => chunks.lookup i) (i + 1) n with _ | rest
                · rfl
                · rw [ih.mpr hj] at hrest
                  simp at hrest
              simp [hnone]
          | ok rest =>
              rw [ih.mp hrest]
              simp

lemma isStr_iff {v : JsonValue} {s : PyStr} : isStr v s = true ↔ v = .str s := by
  cases v <;> simp [isStr]

/-- **When a transfer can be finished, and with what**, in terms of the chunks received. -/
theorem Transfer.finish_eq_ok_iff {t : Transfer} {cs : List (Chunk UInt8)} (h : t.Holds cs)
    {data : Bytes} :
    t.finish = .ok data ↔ ((cs.map Chunk.seq).toFinset.card : ℤ) = t.expectedChunks ∧
      joined (last cs) 0 t.expectedChunks.toNat = some data ∧ (data.length : ℤ) = t.expectedSize ∧
      t.expectedSha256 = .str (ofBytes (Sha256.hexdigest data)) := by
  have hjoin : joined (fun i => t.chunks.lookup i) = joined (last cs) :=
    congrArg joined (funext h)
  rw [Transfer.finish, h.length_keys]
  split_ifs with hcount
  · exact iff_of_false (by simp) fun hok => hcount hok.1
  · rw [not_not] at hcount
    cases hj : joinChunks t.chunks 0 t.expectedChunks.toNat with
    | error e =>
        refine iff_of_false (by simp) fun hok => ?_
        rw [← hjoin, ← joinChunks_eq_ok, hj] at hok
        exact absurd hok.2.1 (by simp)
    | ok found =>
        have hfound := hj
        rw [joinChunks_eq_ok, hjoin] at hfound
        simp only [hfound, Option.some.injEq]
        split_ifs with hsize hsha
        · refine iff_of_false (by simp) ?_
          rintro ⟨-, rfl, hlen, -⟩
          exact hsize hlen
        · rw [isStr_iff] at hsha
          constructor
          · intro hok
            obtain rfl := Except.ok.inj hok
            exact ⟨hcount, rfl, not_not.mp hsize, hsha⟩
          · rintro ⟨-, rfl, -, -⟩
            rfl
        · refine iff_of_false (by simp) ?_
          rintro ⟨-, rfl, -, hok⟩
          exact hsha (isStr_iff.mpr hok)

/-! ## Feeding chunk after chunk -/

/-- Feed the payloads of some binary frames. -/
def Transfer.feed (t : Transfer) : List Bytes → Except ProtocolFault Transfer
  | [] => .ok t
  | p :: ps =>
      match t.addChunk p with
      | .error e => .error e
      | .ok t => t.feed ps

lemma Transfer.feed_ok {t : Transfer} {cs : List (Chunk UInt8)} (h : t.Holds cs) {ps : List Bytes}
    (hps : ∀ p ∈ ps, 4 ≤ p.length) :
    ∃ t', t.feed ps = .ok t' ∧ t'.Holds (cs ++ ps.map chunkOf) ∧ t'.expectedSize = t.expectedSize ∧
      t'.expectedChunks = t.expectedChunks ∧ t'.expectedSha256 = t.expectedSha256 := by
  induction ps generalizing t cs with
  | nil => exact ⟨t, rfl, by simpa using h, rfl, rfl, rfl⟩
  | cons p ps ih =>
      have hp := hps p List.mem_cons_self
      obtain ⟨t₁, hadd⟩ : ∃ t₁, t.addChunk p = .ok t₁ := by
        rw [Transfer.addChunk_eq, if_neg (by omega)]
        exact ⟨_, rfl⟩
      obtain ⟨h₁, hsize, hchunks, hsha⟩ := h.addChunk hadd
      obtain ⟨t', hfeed, h', hsize', hchunks', hsha'⟩ :=
        ih h₁ fun q hq => hps q (List.mem_cons_of_mem _ hq)
      refine ⟨t', by rw [Transfer.feed, hadd]; exact hfeed, ?_, hsize'.trans hsize,
        hchunks'.trans hchunks, hsha'.trans hsha⟩
      rwa [List.append_assoc, List.singleton_append] at h'

/-- Feed the payloads of some binary frames. -/
def ImageReassembler.feed (r : ImageReassembler) : List Bytes → Except ProtocolFault ImageReassembler
  | [] => .ok r
  | p :: ps =>
      match r.addChunk p with
      | .error e => .error e
      | .ok r => r.feed ps

lemma ImageReassembler.feed_eq (r : ImageReassembler) (ps : List Bytes) :
    r.feed ps = (r.transfer.feed ps).map fun t => { r with transfer := t } := by
  induction ps generalizing r with
  | nil => rfl
  | cons p ps ih =>
      rw [feed, Transfer.feed, addChunk]
      cases r.transfer.addChunk p with
      | error e => rfl
      | ok t => exact ih _

/-- Feed the payloads of some binary frames. -/
def AudioReassembler.feed (r : AudioReassembler) :
    List Bytes → Except ProtocolFault AudioReassembler
  | [] => .ok r
  | p :: ps =>
      match r.addChunk p with
      | .error e => .error e
      | .ok r => r.feed ps

lemma AudioReassembler.feed_eq (r : AudioReassembler) (ps : List Bytes) :
    r.feed ps = (r.transfer.feed ps).map fun t => { r with transfer := t } := by
  induction ps generalizing r with
  | nil => rfl
  | cons p ps ih =>
      rw [feed, Transfer.feed, addChunk]
      cases r.transfer.addChunk p with
      | error e => rfl
      | ok t => exact ih _

/-- **A tiling of the announced size finishes with the buffer it fills**, if the digest is right. -/
theorem Transfer.finish_tiling {t : Transfer} {cs : List (Chunk UInt8)} (h : t.Holds cs)
    {buf : Bytes} {w : ℕ} (hw : 0 < w) (htiling : Tiling w buf.length cs)
    (hchunks : t.expectedChunks = cs.length) (hsize : t.expectedSize = buf.length)
    (hsha : t.expectedSha256 = .str (ofBytes (Sha256.hexdigest (writeAll w buf cs)))) :
    t.finish = .ok (writeAll w buf cs) := by
  rw [Transfer.finish_eq_ok_iff h, hchunks, hsize, hsha, Int.toNat_natCast, htiling.joined_last hw,
    length_writeAll htiling.fits, List.toFinset_card_of_nodup htiling.nodup, List.length_map]
  exact ⟨rfl, rfl, rfl, rfl⟩

/-- A repeated number leaves a transfer short of chunks. -/
theorem Transfer.finish_repeated {t : Transfer} {cs : List (Chunk UInt8)} (h : t.Holds cs)
    (hrep : ¬ (cs.map Chunk.seq).Nodup) (hchunks : t.expectedChunks = cs.length) (data : Bytes) :
    t.finish ≠ .ok data := by
  intro hok
  have hcard := ((Transfer.finish_eq_ok_iff h).mp hok).1
  rw [hchunks, Int.natCast_inj, ← List.length_map Chunk.seq, List.card_toFinset] at hcard
  exact hrep (List.dedup_eq_self.mp ((List.dedup_sublist _).eq_of_length hcard))

/-! ## What a begin message announces -/

/-- What an `image_begin` announces is what the reassembler expects. -/
structure ImageAnnounced (msg : Dict) (r : ImageReassembler) : Prop where
  imageId : require msg (str "image_id") = .ok r.imageId
  mediaType : r.mediaType = (dictGet msg (str "media_type")).getD (.str (str "image/png"))
  size : requireInt msg (str "size") = .ok r.transfer.expectedSize
  chunks : requireInt msg (str "chunks") = .ok r.transfer.expectedChunks
  sha256 : require msg (str "sha256") = .ok r.transfer.expectedSha256

lemma ImageReassembler.new_ok {msg : Dict} {r : ImageReassembler} (h : ImageReassembler.new msg = .ok r) :
    ImageAnnounced msg r ∧ r.transfer.chunks = ∅ := by
  obtain ⟨imageId, hid, h⟩ := Effect.exceptBind_ok_iff.mp h
  obtain ⟨size, hsize, h⟩ := Effect.exceptBind_ok_iff.mp h
  obtain ⟨chunks, hchunks, h⟩ := Effect.exceptBind_ok_iff.mp h
  obtain ⟨sha, hsha, h⟩ := Effect.exceptBind_ok_iff.mp h
  obtain rfl := Except.ok.inj h
  exact ⟨⟨hid, rfl, hsize, hchunks, hsha⟩, rfl⟩

/-- What an `audio_begin` announces is what the reassembler expects. -/
structure AudioAnnounced (msg : Dict) (r : AudioReassembler) : Prop where
  audioId : require msg (str "audio_id") = .ok r.audioId
  audioFormat : r.audioFormat = (dictGet msg (str "format")).getD (.str defaultFormat)
  sampleRate : requireInt msg (str "sample_rate") = .ok r.sampleRate
  channels : requireInt msg (str "channels") = .ok r.channels
  size : requireInt msg (str "size") = .ok r.transfer.expectedSize
  chunks : requireInt msg (str "chunks") = .ok r.transfer.expectedChunks
  sha256 : require msg (str "sha256") = .ok r.transfer.expectedSha256

lemma AudioReassembler.new_ok {msg : Dict} {r : AudioReassembler} (h : AudioReassembler.new msg = .ok r) :
    AudioAnnounced msg r ∧ r.transfer.chunks = ∅ := by
  obtain ⟨audioId, hid, h⟩ := Effect.exceptBind_ok_iff.mp h
  obtain ⟨sampleRate, hrate, h⟩ := Effect.exceptBind_ok_iff.mp h
  obtain ⟨channels, hchannels, h⟩ := Effect.exceptBind_ok_iff.mp h
  obtain ⟨size, hsize, h⟩ := Effect.exceptBind_ok_iff.mp h
  obtain ⟨chunks, hchunks, h⟩ := Effect.exceptBind_ok_iff.mp h
  obtain ⟨sha, hsha, h⟩ := Effect.exceptBind_ok_iff.mp h
  obtain rfl := Except.ok.inj h
  exact ⟨⟨hid, rfl, hrate, hchannels, hsize, hchunks, hsha⟩, rfl⟩

/-! ## By content -/

/-- The numbers of some chunks. -/
def numbers (cs : List (Chunk UInt8)) : Set ℤ := {s | ∃ c ∈ cs, (c.seq : ℤ) = s}

/-- The numbers below a count, which may be negative. -/
def numbersBelow (count : ℤ) : Set ℤ := {s | 0 ≤ s ∧ s < count}

/-- The bytes of the chunks, as far as the begin message announces them. -/
def Transfer.content (t : Transfer) (cs : List (Chunk UInt8)) : Bytes :=
  Chunks.content cs t.expectedChunks.toNat

/-- The chunks are the announced ones: their numbers, and the size and the digest of what came last
under them. -/
structure Transfer.Arrived (t : Transfer) (cs : List (Chunk UInt8)) : Prop where
  numbers : numbers cs = numbersBelow t.expectedChunks
  size : ((t.content cs).length : ℤ) = t.expectedSize
  sha : t.expectedSha256 = .str (ofBytes (Sha256.hexdigest (t.content cs)))

/-- What is wrong with the chunks, by the fault that says so. -/
inductive Transfer.Unfinished (t : Transfer) (cs : List (Chunk UInt8)) : ProtocolFault → Prop
  | chunkCount (h : ((cs.map Chunk.seq).toFinset.card : ℤ) ≠ t.expectedChunks) :
      Unfinished t cs (.chunkCount (cs.map Chunk.seq).toFinset.card t.expectedChunks)
  | missingChunk {s : ℤ} (h : s ∈ numbersBelow t.expectedChunks ∧ s ∉ Sudonit.numbers cs) :
      Unfinished t cs (.missingChunk s)
  | sizeMismatch (h : ((t.content cs).length : ℤ) ≠ t.expectedSize) :
      Unfinished t cs (.sizeMismatch (t.content cs).length t.expectedSize)
  | shaMismatch (h : t.expectedSha256 ≠ .str (ofBytes (Sha256.hexdigest (t.content cs)))) :
      Unfinished t cs .shaMismatch

lemma mem_numbers {cs : List (Chunk UInt8)} {i : ℕ} : (i : ℤ) ∈ numbers cs ↔ i ∈ cs.map Chunk.seq := by
  simp only [numbers, Set.mem_ofPred_eq, Int.natCast_inj, List.mem_map]

/-- The numbers are those below a count, as a set of integers. -/
lemma numbers_eq_iff {cs : List (Chunk UInt8)} {n : ℕ} :
    numbers cs = numbersBelow n ↔ (cs.map Chunk.seq).toFinset = Finset.range n := by
  constructor
  · intro h
    ext i
    rw [List.mem_toFinset, ← mem_numbers, h, Finset.mem_range, numbersBelow, Set.mem_ofPred_eq]
    omega
  · intro h
    ext s
    have hmem : ∀ i : ℕ, (i : ℤ) ∈ numbers cs ↔ i < n := by
      intro i
      rw [mem_numbers, ← List.mem_toFinset, h, Finset.mem_range]
    constructor
    · rintro ⟨c, hc, rfl⟩
      have hlt := (hmem c.seq).mp ⟨c, hc, rfl⟩
      exact ⟨by omega, by omega⟩
    · rintro ⟨hnonneg, hlt⟩
      obtain ⟨i, rfl⟩ := Int.eq_ofNat_of_zero_le hnonneg
      exact (hmem i).mpr (by omega)

/-- **A transfer is finished exactly with what arrived.** -/
theorem Transfer.finish_ok_iff_arrived {t : Transfer} {cs : List (Chunk UInt8)} (h : t.Holds cs)
    {data : Bytes} :
    t.finish = .ok data ↔ 0 ≤ t.expectedChunks ∧ t.Arrived cs ∧ data = t.content cs := by
  rw [Transfer.finish_eq_ok_iff h]
  constructor
  · rintro ⟨hcount, hjoined, hsize, hsha⟩
    have hnat : ((cs.map Chunk.seq).toFinset.card) = t.expectedChunks.toNat := by omega
    obtain ⟨hrange, rfl⟩ := count_and_joined_iff.mp ⟨hnat, hjoined⟩
    have hchunks : (t.expectedChunks.toNat : ℤ) = t.expectedChunks := by omega
    exact ⟨by omega, ⟨hchunks ▸ numbers_eq_iff.mpr hrange, hsize, hsha⟩, rfl⟩
  · rintro ⟨hnonneg, ⟨hnumbers, hsize, hsha⟩, rfl⟩
    have hchunks : (t.expectedChunks.toNat : ℤ) = t.expectedChunks := Int.toNat_of_nonneg hnonneg
    rw [← hchunks] at hnumbers
    obtain ⟨hcard, hjoined⟩ := count_and_joined_iff.mpr ⟨numbers_eq_iff.mp hnumbers, rfl⟩
    exact ⟨by omega, hjoined, hsize, hsha⟩

/-- A chunk that is not found is one of the announced. -/
lemma joinChunks_eq_error {chunks : AList fun _ : ℕ => Bytes} {i n : ℕ} {why : ProtocolFault}
    (h : joinChunks chunks i n = .error why) :
    ∃ j, i ≤ j ∧ j < i + n ∧ chunks.lookup j = none ∧ why = .missingChunk j := by
  induction n generalizing i with
  | zero => simp [joinChunks] at h
  | succ n ih =>
      rw [joinChunks] at h
      cases hlook : chunks.lookup i with
      | none =>
          simp only [hlook, Except.error.injEq] at h
          exact ⟨i, le_rfl, by omega, hlook, h.symm⟩
      | some part =>
          simp only [hlook] at h
          cases hrest : joinChunks chunks (i + 1) n with
          | ok rest => simp [hrest] at h
          | error e =>
              simp only [hrest, Except.error.injEq] at h
              subst h
              obtain ⟨j, hle, hlt, hnone, rfl⟩ := ih hrest
              exact ⟨j, by omega, by omega, hnone, rfl⟩

/-- A transfer that cannot be finished says what is wrong. -/
theorem Transfer.finish_error {t : Transfer} {cs : List (Chunk UInt8)} (h : t.Holds cs)
    {why : ProtocolFault} (hfinish : t.finish = .error why) : t.Unfinished cs why := by
  have hjoin : joined (fun i => t.chunks.lookup i) = joined (last cs) := congrArg joined (funext h)
  rw [Transfer.finish, h.length_keys] at hfinish
  split_ifs at hfinish with hcount
  · obtain rfl := Except.error.inj hfinish
    exact .chunkCount hcount
  rw [not_not] at hcount
  cases hj : joinChunks t.chunks 0 t.expectedChunks.toNat with
  | error e =>
      simp only [hj, Except.error.injEq] at hfinish
      obtain ⟨j, -, hlt, hnone, rfl⟩ := joinChunks_eq_error hj
      subst hfinish
      refine .missingChunk ⟨⟨by omega, by omega⟩, fun hmem => ?_⟩
      rw [mem_numbers, ← last_isSome, ← h j, hnone] at hmem
      simp at hmem
  | ok data =>
      have hfound := joinChunks_eq_ok.mp hj
      rw [hjoin] at hfound
      obtain ⟨-, rfl⟩ := count_and_joined_iff.mp ⟨by omega, hfound⟩
      simp only [hj] at hfinish
      split_ifs at hfinish with hsize hsha
      · obtain rfl := Except.error.inj hfinish
        exact .sizeMismatch hsize
      · obtain rfl := Except.error.inj hfinish
        exact .shaMismatch fun heq => hsha (isStr_iff.mpr heq)

/-- Two transfers that hold the same under each number finish alike. -/
lemma Transfer.finish_congr {t t' : Transfer} {cs ds : List (Chunk UInt8)} (h : t.Holds cs)
    (h' : t'.Holds ds) (hlast : last cs = last ds) (hsize : t'.expectedSize = t.expectedSize)
    (hchunks : t'.expectedChunks = t.expectedChunks) (hsha : t'.expectedSha256 = t.expectedSha256) :
    t'.finish = t.finish := by
  have hseqs : (cs.map Chunk.seq).toFinset = (ds.map Chunk.seq).toFinset := by
    ext i
    rw [List.mem_toFinset, List.mem_toFinset, ← last_isSome, ← last_isSome, hlast]
  have hlook : ∀ i, t'.chunks.lookup i = t.chunks.lookup i := by
    intro i
    rw [h i, h' i, hlast]
  have hjoin : ∀ n i, joinChunks t'.chunks i n = joinChunks t.chunks i n := by
    intro n
    induction n with
    | zero => intro i; rfl
    | succ n ih =>
        intro i
        rw [joinChunks, joinChunks, hlook, ih]
  rw [Transfer.finish, Transfer.finish, h.length_keys, h'.length_keys, hseqs, hsize, hchunks, hsha, hjoin]

/-- A fresh transfer takes chunks of at least four bytes, and finishes by their content. -/
lemma Transfer.feed_finish {t : Transfer} (hempty : t.chunks = ∅) {ps : List Bytes}
    (hps : ∀ p ∈ ps, 4 ≤ p.length) :
    ∃ t', t.feed ps = .ok t' ∧
      (∀ data, t'.finish = .ok data ↔
        0 ≤ t.expectedChunks ∧ t.Arrived (ps.map chunkOf) ∧ data = t.content (ps.map chunkOf)) ∧
      (∀ why, t'.finish = .error why → t.Unfinished (ps.map chunkOf) why) ∧
      ∀ qs, (∀ q ∈ qs, 4 ≤ q.length) → last (qs.map chunkOf) = last (ps.map chunkOf) →
        ∃ t'', t.feed qs = .ok t'' ∧ t''.finish = t'.finish := by
  obtain ⟨size, chunks, sha, kept⟩ := t
  obtain rfl : kept = ∅ := hempty
  obtain ⟨⟨size', chunks', sha', kept'⟩, hfeed, hholds, hsize, hchunks, hsha⟩ :=
    Transfer.feed_ok (show (⟨size, chunks, sha, ∅⟩ : Transfer).Holds [] from Transfer.Holds.empty) hps
  obtain ⟨rfl, rfl, rfl⟩ : size' = size ∧ chunks' = chunks ∧ sha' = sha := ⟨hsize, hchunks, hsha⟩
  rw [List.nil_append] at hholds
  refine ⟨_, hfeed, fun data => ?_, fun why hwhy => ?_, fun qs hqs hlast => ?_⟩
  · -- What is expected does not depend on what is kept.
    have hkept : (⟨size', chunks', sha', kept'⟩ : Transfer).Arrived (ps.map chunkOf) ↔
        (⟨size', chunks', sha', ∅⟩ : Transfer).Arrived (ps.map chunkOf) :=
      ⟨fun h => ⟨h.numbers, h.size, h.sha⟩, fun h => ⟨h.numbers, h.size, h.sha⟩⟩
    rw [Transfer.finish_ok_iff_arrived hholds, hkept]
    rfl
  · cases Transfer.finish_error hholds hwhy with
    | chunkCount h => exact .chunkCount h
    | missingChunk h => exact .missingChunk h
    | sizeMismatch h => exact .sizeMismatch h
    | shaMismatch h => exact .shaMismatch h
  · obtain ⟨t'', hfeed', hholds', hsize', hchunks', hsha'⟩ := Transfer.feed_ok Transfer.Holds.empty hqs
    rw [List.nil_append] at hholds'
    exact ⟨t'', hfeed', Transfer.finish_congr hholds hholds' hlast.symm hsize' hchunks' hsha'⟩

/-- The same of a reassembler, by what it wraps the transfer and the bytes in. -/
lemma reassembler_finish {ρ α : Type} {t : Transfer} (hempty : t.chunks = ∅) {wrap : Transfer → ρ}
    {feed : List Bytes → Except ProtocolFault ρ} (hfeed : ∀ ps, feed ps = (t.feed ps).map wrap)
    {finish : ρ → Except ProtocolFault α} {result : Bytes → α}
    (hfinish : ∀ t', finish (wrap t') = t'.finish.map result) {ps : List Bytes}
    (hps : ∀ p ∈ ps, 4 ≤ p.length) :
    ∃ r, feed ps = .ok r ∧
      (∀ a, finish r = .ok a ↔ 0 ≤ t.expectedChunks ∧ t.Arrived (ps.map chunkOf) ∧
        a = result (t.content (ps.map chunkOf))) ∧
      (∀ why, finish r = .error why → t.Unfinished (ps.map chunkOf) why) ∧
      ∀ qs : List Bytes, (∀ q ∈ qs, 4 ≤ q.length) → last (qs.map chunkOf) = last (ps.map chunkOf) →
        ∃ r', feed qs = .ok r' ∧ finish r' = finish r := by
  obtain ⟨t', ht', hok, herror, hcongr⟩ := Transfer.feed_finish hempty hps
  refine ⟨wrap t', by rw [hfeed, ht']; rfl, fun a => ?_, fun why hwhy => ?_, fun qs hqs hlast => ?_⟩
  · rw [hfinish, Effect.exceptMap_ok_iff]
    simp only [hok]
    constructor
    · rintro ⟨data, ⟨hnonneg, harrived, rfl⟩, rfl⟩
      exact ⟨hnonneg, harrived, rfl⟩
    · rintro ⟨hnonneg, harrived, rfl⟩
      exact ⟨_, ⟨hnonneg, harrived, rfl⟩, rfl⟩
  · rw [hfinish, Effect.exceptMap_error_iff] at hwhy
    exact herror why hwhy
  · obtain ⟨t'', ht'', heq⟩ := hcongr qs hqs hlast
    exact ⟨wrap t'', by rw [hfeed, ht'']; rfl, by rw [hfinish, hfinish, heq]⟩

/-- **Reassembly is by content, not by arrival.**  For every accepted begin message and all chunks of at
least four bytes, the reassembler takes them, and `finish` returns exactly if the announced count is
not negative, the numbers received are those below it, and the last payloads under them, joined in
their order, have the announced size and digest; it returns that concatenation.  What it raises
otherwise is a `ProtocolError`, and is right.  Chunks with the same last payload under each number
finish alike. -/
theorem reassembly_by_content :
    (∀ msg r₀, ImageReassembler.new msg = .ok r₀ → ImageAnnounced msg r₀ ∧
      ∀ ps : List Bytes, (∀ p ∈ ps, 4 ≤ p.length) → ∃ r, r₀.feed ps = .ok r ∧
        (∀ image, r.finish = .ok image ↔
          0 ≤ r₀.transfer.expectedChunks ∧ r₀.transfer.Arrived (ps.map chunkOf) ∧
            image = ⟨r₀.imageId, r₀.mediaType, r₀.transfer.content (ps.map chunkOf)⟩) ∧
        (∀ why, r.finish = .error why → r₀.transfer.Unfinished (ps.map chunkOf) why) ∧
        ∀ qs : List Bytes, (∀ q ∈ qs, 4 ≤ q.length) → last (qs.map chunkOf) = last (ps.map chunkOf) →
          ∃ r', r₀.feed qs = .ok r' ∧ r'.finish = r.finish) ∧
    (∀ msg r₀, AudioReassembler.new msg = .ok r₀ → AudioAnnounced msg r₀ ∧
      ∀ ps : List Bytes, (∀ p ∈ ps, 4 ≤ p.length) → ∃ r, r₀.feed ps = .ok r ∧
        (∀ audio, r.finish = .ok audio ↔
          0 ≤ r₀.transfer.expectedChunks ∧ r₀.transfer.Arrived (ps.map chunkOf) ∧
            audio = ⟨r₀.audioId, r₀.audioFormat, r₀.sampleRate, r₀.channels,
              r₀.transfer.content (ps.map chunkOf)⟩) ∧
        (∀ why, r.finish = .error why → r₀.transfer.Unfinished (ps.map chunkOf) why) ∧
        ∀ qs : List Bytes, (∀ q ∈ qs, 4 ≤ q.length) → last (qs.map chunkOf) = last (ps.map chunkOf) →
          ∃ r', r₀.feed qs = .ok r' ∧ r'.finish = r.finish) := by
  constructor
  · intro msg r₀ hnew
    obtain ⟨hmsg, hempty⟩ := ImageReassembler.new_ok hnew
    exact ⟨hmsg, fun ps hps => reassembler_finish hempty r₀.feed_eq (fun _ => rfl) hps⟩
  · intro msg r₀ hnew
    obtain ⟨hmsg, hempty⟩ := AudioReassembler.new_ok hnew
    exact ⟨hmsg, fun ps hps => reassembler_finish hempty r₀.feed_eq (fun _ => rfl) hps⟩

/-- An `image_begin` that announces `-1` chunks of no bytes. -/
def negativeBegin : Dict :=
  [(str "type", .str (str "image_begin")), (str "image_id", .str (str "x")), (str "size", .int 0),
    (str "chunks", .int (-1)), (str "sha256", .str (ofBytes (Sha256.hexdigest [])))]

/-- **A negative count is never reached**, though no number is below it. -/
theorem negative_count_unfinished : ∃ r₀, ImageReassembler.new negativeBegin = .ok r₀ ∧
    r₀.transfer.expectedChunks = -1 ∧ r₀.transfer.Arrived [] ∧ r₀.feed [] = .ok r₀ ∧
      r₀.finish = .error (.chunkCount 0 (-1)) := by
  refine ⟨_, rfl, rfl, ⟨?_, rfl, rfl⟩, rfl, rfl⟩
  ext s
  refine iff_of_false (by simp [numbers]) ?_
  rintro ⟨hnonneg, hlt⟩
  exact absurd (hnonneg.trans_lt hlt) (by decide)

end Sudonit
