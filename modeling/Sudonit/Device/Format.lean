import Sudonit.Device.Playback
import Sudonit.Protocol.Numbers

/-!
# The announced audio format

What the mock backend is configured for and how many frames it is handed, against what the
`audio_begin` says.  The channel count goes through three narrowings: `sd_json_get_uint` wraps at
`2 ^ 32`, `sd_audio_init` takes a `uint8_t`, and the divisor `2u * channels` wraps again.

* `AudioBegin` — a flat object that maps the numeric fields to integers.
* `playAudioDownlink_mock` — the format and the frame count of a run that returned `SD_OK`.
* `format_honoured_iff` — when they are the announced ones.
-/

namespace Sudonit

open Octets Stream Frames CText Chunks

/-! ## Integers in an `audio_begin` -/

/-- The integer in front of the fraction and the exponent. -/
def NumberToken.integer (t : NumberToken) : ℤ :=
  if t.negative then -(decimalValue t.int.val : ℤ) else decimalValue t.int.val

/-- A member that maps the key to an integer literal. -/
structure IntegerField (o : FlatObject) (key : Bytes) where
  pre : List Member
  member : Member
  token : NumberToken
  maps : o.Maps key pre member token
  no_fraction : token.fraction = none
  no_exponent : token.exponent = none

variable {o : FlatObject} {key : Bytes}

/-- The announced integer. -/
def IntegerField.value (f : IntegerField o key) : ℤ := f.token.integer

/-- The lookup comes to the member. -/
def IntegerField.Found (f : IntegerField o key) : Prop := o.Finds key f.pre f.member

/-- An `audio_begin` whose numeric fields are integers. -/
structure AudioBegin where
  object : FlatObject
  size : IntegerField object (ascii "size")
  chunks : IntegerField object (ascii "chunks")
  sampleRate : IntegerField object (ascii "sample_rate")
  channels : IntegerField object (ascii "channels")

/-- The backend was configured for the announced format and was handed the whole frames of the
announced layout. -/
structure AudioBegin.Honoured (b : AudioBegin) (g g' : Glasses) : Prop where
  sampleRate : (g'.audio.sampleRate : ℤ) = b.sampleRate.value
  channels : (g'.audio.channels.toNat : ℤ) = b.channels.value
  frames : ∃ call, g'.played = g.played ++ [call] ∧
    (call.frameCount : ℤ) = b.size.value / (2 * b.channels.value)

/-- The lookups come to the members. -/
def AudioBegin.Found (b : AudioBegin) : Prop := b.size.Found ∧ b.sampleRate.Found ∧ b.channels.Found

/-- The announced numbers fit the integers of the code. -/
def AudioBegin.Fits (b : AudioBegin) : Prop :=
  b.size.value < 2 ^ 32 ∧ b.sampleRate.value < 2 ^ 32 ∧ b.channels.value < 2 ^ 8

/-- The digits that the lookups come to agree with the announced numbers, as far as the code keeps
them. -/
def AudioBegin.Agrees (b : AudioBegin) : Prop :=
  ∃ size rate channels, Reaches b.object.text (ascii "size") size ∧
    Reaches b.object.text (ascii "sample_rate") rate ∧
    Reaches b.object.text (ascii "channels") channels ∧
    (decimalValue rate % 2 ^ 32 : ℕ) = b.sampleRate.value ∧
    (decimalValue channels % 2 ^ 8 : ℕ) = b.channels.value ∧
    (decimalValue size % 2 ^ 32 / (2 * decimalValue channels % 2 ^ 32) : ℕ)
      = b.size.value / (2 * b.channels.value)

/-! ## What the fields are read as -/

lemma uintField_eq_ok {text key junk : Bytes} (htext : 0 ∉ text) {v : UInt32}
    (h : uintField (text ++ 0 :: junk) key = .ok v) :
    ∃ ds, Reaches text key ds ∧ v.toNat = decimalValue ds % 2 ^ 32 := by
  by_cases hreach : ∃ ds, Reaches text key ds
  · obtain ⟨ds, hds⟩ := hreach
    rw [uintField, sdJsonGetUint_reaches htext hds] at h
    simp only [Except.ok.injEq] at h
    refine ⟨ds, hds, ?_⟩
    rw [← h, UInt32.toNat_ofNat']
    exact Nat.mod_mod _ _
  · rw [uintField, sdJsonGetUint_misses htext (not_exists.mp hreach)] at h
    simp at h

/-- The digits the lookup comes to are those of one place. -/
lemma uintField_reaches {text key junk ds : Bytes} (htext : 0 ∉ text) {v : UInt32}
    (h : uintField (text ++ 0 :: junk) key = .ok v) (hds : Reaches text key ds) :
    v.toNat = decimalValue ds % 2 ^ 32 := by
  rw [uintField, sdJsonGetUint_reaches htext hds] at h
  simp only [Except.ok.injEq] at h
  rw [← h, UInt32.toNat_ofNat']
  exact Nat.mod_mod _ _

/-- Where the lookup comes to the member, it is no negative number and is read modulo `2 ^ 32`. -/
lemma IntegerField.read_of_found (f : IntegerField o key) (hf : f.Found) {junk : Bytes} {v : UInt32}
    (h : uintField (o.text ++ 0 :: junk) key = .ok v) :
    ∃ n : ℕ, f.value = n ∧ v.toNat = n % 2 ^ 32 := by
  rw [uintField, sdJsonGetUint_finds f.maps hf] at h
  cases hneg : f.token.negative with
  | true => simp [hneg] at h
  | false =>
      simp only [hneg, Bool.false_eq_true, if_false, Except.ok.injEq] at h
      refine ⟨decimalValue f.token.int.val, by simp [IntegerField.value, NumberToken.integer, hneg], ?_⟩
      rw [← h, UInt32.toNat_ofNat']
      exact Nat.mod_mod _ _

lemma audioFields_ok {shaBuf : Buffer 65} {beginJson : Bytes} {fields : AudioFields}
    (h : audioFields shaBuf beginJson = .ok fields) :
    uintField beginJson (ascii "size") = .ok fields.size ∧
      uintField beginJson (ascii "sample_rate") = .ok fields.sampleRate ∧
      uintField beginJson (ascii "channels") = .ok fields.channels := by
  obtain ⟨size, hsize, h⟩ := Effect.exceptBind_ok_iff.mp h
  obtain ⟨chunks, -, h⟩ := Effect.exceptBind_ok_iff.mp h
  obtain ⟨rate, hrate, h⟩ := Effect.exceptBind_ok_iff.mp h
  obtain ⟨channels, hchannels, h⟩ := Effect.exceptBind_ok_iff.mp h
  obtain ⟨sha, -, h⟩ := Effect.exceptBind_ok_iff.mp h
  obtain rfl := Except.ok.inj h
  exact ⟨hsize, hrate, hchannels⟩

/-! ## The run -/

/-- A run on the mock backend that returned `SD_OK`: the fields it read are the format the backend is
configured for, and the frames handed over are by them. -/
lemma playAudioDownlink_mock {rig : Rig} (hmock : rig.backend = .mock) {beginJson : Bytes} {g g' : Glasses}
    (h : (playAudioDownlink rig beginJson).run g = (.ok (), g')) :
    ∃ fields, audioFields rig.shaBuf beginJson = .ok fields ∧ fields.channels.toUInt8 ≠ 0 ∧
      g'.audio.sampleRate = fields.sampleRate.toNat ∧ g'.audio.channels = fields.channels.toUInt8 ∧
      ∃ call, g'.played = g.played ++ [call] ∧
        call.frameCount = fields.size.toNat / (2 * fields.channels).toNat := by
  rcases playAudioDownlink_spec h with ⟨-, e, he, -⟩ | ⟨fields, call, hplays⟩
  · simp at he
  obtain ⟨audio, hinit, -, hplay⟩ := hplays.configured
  rw [hmock] at hinit hplay
  obtain ⟨-, hchannels, hformat⟩ := sdAudioInit_ok hinit
  obtain ⟨hrate, hconfigured⟩ := hformat (by simp)
  -- The mock only counts the frames.
  have hkeep : g'.audio.sampleRate = audio.sampleRate ∧ g'.audio.channels = audio.channels := by
    simp only [sdAudioPlayPcm, mockPlay] at hplay
    split_ifs at hplay
    · simp at hplay
    · rw [← (Prod.mk.inj hplay).2]
      exact ⟨rfl, rfl⟩
  exact ⟨fields, hplays.fields_read, hchannels, hkeep.1.trans hrate, hkeep.2.trans hconfigured,
    call, hplays.recorded, hplays.frames⟩

/-- The three narrowings keep the numbers exactly if the numbers fit. -/
lemma narrowed_iff {size rate channels : ℕ} (h : channels % 2 ^ 8 ≠ 0) :
    (rate % 2 ^ 32 = rate ∧ channels % 2 ^ 8 = channels ∧
      size % 2 ^ 32 / (2 * channels % 2 ^ 32) = size / (2 * channels)) ↔
    size < 2 ^ 32 ∧ rate < 2 ^ 32 ∧ channels < 2 ^ 8 := by
  constructor
  · rintro ⟨hrate, hchannels, hframes⟩
    have hlt : channels < 2 ^ 8 := hchannels ▸ Nat.mod_lt _ (by decide)
    refine ⟨?_, hrate ▸ Nat.mod_lt _ (by decide), hlt⟩
    rw [Nat.mod_eq_of_lt (show 2 * channels < 2 ^ 32 by omega)] at hframes
    by_contra hbig
    -- One wrap of the size is at least one frame.
    have hpos : 0 < 2 * channels := by omega
    have hless : size % 2 ^ 32 + 2 * channels ≤ size := by omega
    have hdiv := Nat.div_le_div_right (c := 2 * channels) hless
    rw [Nat.add_div_right _ hpos, hframes] at hdiv
    omega
  · rintro ⟨hsize, hrate, hchannels⟩
    rw [Nat.mod_eq_of_lt hsize, Nat.mod_eq_of_lt hrate, Nat.mod_eq_of_lt hchannels,
      Nat.mod_eq_of_lt (show 2 * channels < 2 ^ 32 by omega)]
    exact ⟨rfl, rfl, rfl⟩

lemma toNat_toUInt8_of_mod {v : UInt32} {n : ℕ} (h : v.toNat = n % 2 ^ 32) :
    v.toUInt8.toNat = n % 2 ^ 8 := by
  rw [UInt32.toNat_toUInt8, h]
  exact Nat.mod_mod_of_dvd n (by decide)

lemma toNat_double_of_mod {v : UInt32} {n : ℕ} (h : v.toNat = n % 2 ^ 32) :
    (2 * v).toNat = 2 * n % 2 ^ 32 := by
  rw [UInt32.toNat_mul, h]
  exact Nat.mul_mod_mod 2 n (2 ^ 32)

/-- Whether the run honoured the announced format, by numbers its fields are congruent to. -/
lemma AudioBegin.honoured_iff {b : AudioBegin} {rig : Rig} (hmock : rig.backend = .mock) {junk : Bytes}
    {g g' : Glasses}
    (hok : (playAudioDownlink rig (b.object.text ++ 0 :: junk)).run g = (.ok (), g'))
    {fields : AudioFields} (hfields : audioFields rig.shaBuf (b.object.text ++ 0 :: junk) = .ok fields)
    {size rate channels : ℕ} (hsize : fields.size.toNat = size % 2 ^ 32)
    (hrate : fields.sampleRate.toNat = rate % 2 ^ 32)
    (hchannels : fields.channels.toNat = channels % 2 ^ 32) :
    channels % 2 ^ 8 ≠ 0 ∧ (b.Honoured g g' ↔
      (rate % 2 ^ 32 : ℕ) = b.sampleRate.value ∧ (channels % 2 ^ 8 : ℕ) = b.channels.value ∧
      (size % 2 ^ 32 / (2 * channels % 2 ^ 32) : ℕ) = b.size.value / (2 * b.channels.value)) := by
  obtain ⟨fields', hfields', hne, hrate', hconfigured, call, hplayed, hframes⟩ :=
    playAudioDownlink_mock hmock hok
  obtain rfl := Except.ok.inj (hfields.symm.trans hfields')
  have hnarrow : fields.channels.toUInt8.toNat = channels % 2 ^ 8 := toNat_toUInt8_of_mod hchannels
  rw [hsize, toNat_double_of_mod hchannels] at hframes
  refine ⟨fun hzero => hne (UInt8.toNat_inj.mp (hnarrow.trans hzero)), ?_⟩
  rw [← hrate, ← hnarrow, ← hrate', ← hconfigured, ← hframes]
  constructor
  · rintro ⟨hr, hc, call', hplayed', hcount⟩
    obtain rfl := List.singleton_inj.mp (List.append_cancel_left (hplayed.symm.trans hplayed'))
    exact ⟨hr, hc, hcount⟩
  · rintro ⟨hr, hc, hcount⟩
    exact ⟨hr, hc, call, hplayed, hcount⟩

/-- **When the announced audio format is honoured.**  For every `audio_begin` with integer fields and
every run of `play_audio_downlink` on the mock backend that returned `SD_OK`: where the lookups come to
the members themselves, exactly if the size and the sample rate are below `2 ^ 32` and the channels
below `2 ^ 8`; elsewhere, exactly if what they come to agrees with what is announced. -/
theorem format_honoured_iff (b : AudioBegin) (junk : Bytes) {rig : Rig} (hmock : rig.backend = .mock)
    {g g' : Glasses}
    (hok : (playAudioDownlink rig (b.object.text ++ 0 :: junk)).run g = (.ok (), g')) :
    b.Honoured g g' ↔ (b.Found → b.Fits) ∧ (¬ b.Found → b.Agrees) := by
  obtain ⟨fields, hfields, -⟩ := playAudioDownlink_mock hmock hok
  obtain ⟨hsize, hrate, hchannels⟩ := audioFields_ok hfields
  by_cases hfound : b.Found
  · rw [imp_iff_right hfound, and_iff_left fun h => absurd hfound h]
    obtain ⟨size, hsizeValue, hsizeRead⟩ := b.size.read_of_found hfound.1 hsize
    obtain ⟨rate, hrateValue, hrateRead⟩ := b.sampleRate.read_of_found hfound.2.1 hrate
    obtain ⟨channels, hchannelsValue, hchannelsRead⟩ := b.channels.read_of_found hfound.2.2 hchannels
    obtain ⟨hne, hiff⟩ := AudioBegin.honoured_iff hmock hok hfields hsizeRead hrateRead hchannelsRead
    rw [hiff, AudioBegin.Fits, hsizeValue, hrateValue, hchannelsValue]
    exact_mod_cast narrowed_iff hne
  · rw [imp_iff_right hfound, and_iff_right fun h => absurd h hfound]
    obtain ⟨size, hsizeReach, hsizeRead⟩ := uintField_eq_ok b.object.no_nul hsize
    obtain ⟨rate, hrateReach, hrateRead⟩ := uintField_eq_ok b.object.no_nul hrate
    obtain ⟨channels, hchannelsReach, hchannelsRead⟩ := uintField_eq_ok b.object.no_nul hchannels
    obtain ⟨-, hiff⟩ := AudioBegin.honoured_iff hmock hok hfields hsizeRead hrateRead hchannelsRead
    rw [hiff]
    constructor
    · rintro ⟨hr, hc, hcount⟩
      exact ⟨size, rate, channels, hsizeReach, hrateReach, hchannelsReach, hr, hc, hcount⟩
    · rintro ⟨size', rate', channels', hs, hr, hc, hagree⟩
      obtain ⟨-, hiff'⟩ := AudioBegin.honoured_iff hmock hok hfields
        (uintField_reaches b.object.no_nul hsize hs) (uintField_reaches b.object.no_nul hrate hr)
        (uintField_reaches b.object.no_nul hchannels hc)
      exact hiff.mp (hiff'.mpr hagree)

/-! ## An utterance with 257 channels -/

/-- A member without white space whose name is a word. -/
def wordMember (name : Bytes) (h : ∀ b ∈ name, isWordChar b) (value : FlatValue) : Member :=
  ⟨noWhite, ⟨name, name, spells_word h⟩, noWhite, noWhite, value, noWhite⟩

/-- A string that needs no escapes. -/
def wordValue (s : Bytes) (h : ∀ b ∈ s, isWordChar b) : FlatValue := .string ⟨s, s, spells_word h⟩

/-- An integer without a sign. -/
def wholeToken (int : Digits) (h : int.val.length = 1 ∨ int.val.head? ≠ some (oct '0')) : NumberToken :=
  unsignedToken int none h

lemma digits_one : ascii "1" ≠ [] ∧ ∀ b ∈ ascii "1", isDigit b := by decide

def crowdedSize : NumberToken := wholeToken ⟨ascii "4", by decide⟩ (by decide)
def crowdedChunks : NumberToken := wholeToken ⟨ascii "1", digits_one⟩ (by decide)
def crowdedRate : NumberToken := wholeToken ⟨ascii "16000", by decide⟩ (by decide)
def crowdedChannels : NumberToken := wholeToken ⟨ascii "257", by decide⟩ (by decide)

/-- Four octets of sound in 257 channels. -/
def crowdedObject : FlatObject := ⟨noWhite,
  [wordMember (ascii "audio_id") (by decide) (wordValue (ascii "a") (by decide)),
    wordMember (ascii "channels") (by decide) (.number crowdedChannels),
    wordMember (ascii "chunks") (by decide) (.number crowdedChunks),
    wordMember (ascii "format") (by decide) (wordValue (ascii "pcm_s16le") (by decide)),
    wordMember (ascii "sample_rate") (by decide) (.number crowdedRate),
    wordMember (ascii "sha256") (by decide) (wordValue
      (ascii "88d4266fd4e6338d13b845fcf289579d209c897823b9217da3e161936f031589") (by decide)),
    wordMember (ascii "size") (by decide) (.number crowdedSize),
    wordMember (ascii "type") (by decide) (wordValue (ascii "audio_begin") (by decide))], noWhite⟩

def crowdedBegin : AudioBegin where
  object := crowdedObject
  size := ⟨crowdedObject.members.take 6, _, crowdedSize, ⟨⟨_, rfl⟩, spells_word (by decide), rfl⟩, rfl, rfl⟩
  chunks := ⟨crowdedObject.members.take 2, _, crowdedChunks, ⟨⟨_, rfl⟩, spells_word (by decide), rfl⟩, rfl, rfl⟩
  sampleRate := ⟨crowdedObject.members.take 4, _, crowdedRate, ⟨⟨_, rfl⟩, spells_word (by decide), rfl⟩,
    rfl, rfl⟩
  channels := ⟨crowdedObject.members.take 1, _, crowdedChannels, ⟨⟨_, rfl⟩, spells_word (by decide), rfl⟩,
    rfl, rfl⟩

/-- The host build, with memory for everything. -/
def deskRig : Rig where
  target := .host
  backend := .mock
  camera := .error .unsupported
  sendHeap := true
  recvHeap := fun _ => true
  bodyHeap := true
  sampleHeap := fun n => some (Buffer.zeros n)
  typeBuf := fun _ => Buffer.zeros 32
  textBuf := fun _ => Buffer.zeros 1024
  shaBuf := Buffer.zeros 65

/-- The four octets and the closing message are still to be read. -/
def deskGlasses : Glasses :=
  ⟨.cut (wire [⟨kindBinary, be32 0 ++ ascii "abcd"⟩, ⟨kindJson, ascii "\x7b\x7d"⟩]) [], .fresh [],
    ⟨false, 0, 0, 0⟩, [], [], 0⟩

lemma crowded_ok : ∃ g', (playAudioDownlink deskRig (crowdedBegin.object.text ++ 0 :: [])).run deskGlasses
    = (.ok (), g') := by
  have hok : ((playAudioDownlink deskRig (crowdedBegin.object.text ++ 0 :: [])).run deskGlasses).1.isOk
      = true := by decide +kernel
  rcases hrun : (playAudioDownlink deskRig (crowdedBegin.object.text ++ 0 :: [])).run deskGlasses
    with ⟨e | _, g'⟩
  · rw [hrun] at hok
    exact absurd hok (by simp [Except.isOk, Except.toBool])
  · exact ⟨g', rfl⟩

lemma crowded_channels {g' : Glasses}
    (hrun : (playAudioDownlink deskRig (crowdedBegin.object.text ++ 0 :: [])).run deskGlasses = (.ok (), g')) :
    g'.audio.channels = 1 := by
  obtain ⟨fields, hfields, -, -, hconfigured, -⟩ := playAudioDownlink_mock rfl hrun
  obtain ⟨-, -, hchannels⟩ := audioFields_ok hfields
  have hread : sdJsonGetUint (crowdedBegin.object.text ++ 0 :: []) (ascii "channels") = some (.ok 257) := by
    decide
  rw [uintField, hread] at hchannels
  rw [hconfigured, ← Except.ok.inj hchannels]
  rfl

lemma crowded_dishonoured {g' : Glasses}
    (hrun : (playAudioDownlink deskRig (crowdedBegin.object.text ++ 0 :: [])).run deskGlasses = (.ok (), g')) :
    ¬ crowdedBegin.Honoured deskGlasses g' := by
  intro h
  have hvalue := h.channels
  rw [crowded_channels hrun] at hvalue
  exact absurd hvalue (by decide)

/-- **The mock plays them as one channel**, and reports success. -/
theorem format_not_honoured : ∃ g',
    (playAudioDownlink deskRig (crowdedBegin.object.text ++ [0])).run deskGlasses = (.ok (), g') ∧
      crowdedBegin.channels.value = 257 ∧ g'.audio.channels = 1 ∧ ¬ crowdedBegin.Honoured deskGlasses g' := by
  obtain ⟨g', hrun⟩ := crowded_ok
  exact ⟨g', hrun, rfl, crowded_channels hrun, crowded_dishonoured hrun⟩

/-- The same run, which meets neither side. -/
theorem format_honoured_iff_crowded : ∃ g',
    (playAudioDownlink deskRig (crowdedBegin.object.text ++ 0 :: [])).run deskGlasses = (.ok (), g') ∧
      (crowdedBegin.Honoured deskGlasses g' ↔
        (crowdedBegin.Found → crowdedBegin.Fits) ∧ (¬ crowdedBegin.Found → crowdedBegin.Agrees)) ∧
      ¬ crowdedBegin.Honoured deskGlasses g' := by
  obtain ⟨g', hrun⟩ := crowded_ok
  exact ⟨g', hrun, format_honoured_iff crowdedBegin [] rfl hrun, crowded_dishonoured hrun⟩

end Sudonit
