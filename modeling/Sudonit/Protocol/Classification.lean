import Sudonit.Protocol.ControlText
import Sudonit.Protocol.Lookup
import Sudonit.Protocol.MessagesPy

/-!
# Classifying what the phone sends

The control messages of the phone as `encode_control` writes them, and what `sd_msg_recv` and the
lookups of `play_audio_downlink` make of them on the device.

* `typeName_flatText`, `readsUint_iff`, `readsText_iff` — the three kinds of lookup on a flat message,
  exactly.
* `PhoneMsg` — the messages; `encodeControl_phoneMsg` is their canonical text.
* `classified_iff` — a message is classified by its `type` member, and an `audio_begin` read back
  member by member, exactly when its free text collides with none of the names looked up and its
  numbers fit 32 bits.
-/

namespace Sudonit

open Octets Stream Frames CText Python

/-! ## Lookups on flat messages -/

lemma find_rendered_str {k : Bytes} (hk : Word k) (s : PyStr) :
    find (needle k) (rendered (.str s)) = none ↔ ¬ Collides k s := by
  rw [rendered, find_quoted hk]
  split_ifs with h <;> simp [h]

/-- A word holds the quoted key only by being it. -/
lemma collides_word {k w : Bytes} (hw : ∀ b ∈ w, isWordChar b) : Collides k (ofBytes w) ↔ w = k := by
  constructor
  · rintro (h | h)
    · exact ofBytes_injective h
    · have hquote := h.subset List.mem_cons_self
      obtain ⟨b, hb, heq⟩ := List.mem_map.mp hquote
      rw [ofByte_eq_cp] at heq
      rw [heq] at hb
      exact absurd (hw _ hb) (by decide)
  · rintro rfl
    exact Or.inl rfl

/-- The members in front of a lookup's own: tokens whose names are other words. -/
def Ahead (k : Bytes) (pre : List (PyStr × JsonValue)) : Prop :=
  ∀ m ∈ pre, Token m.2 ∧ ∃ name, m.1 = ofBytes name ∧ (∀ b ∈ name, isWordChar b) ∧ name ≠ k

/-- None of their values holds the quoted key. -/
def AllPass (k : Bytes) (pre : List (PyStr × JsonValue)) : Prop :=
  ∀ m ∈ pre, find (needle k) (rendered m.2) = none

instance (k : Bytes) (pre : List (PyStr × JsonValue)) : Decidable (AllPass k pre) :=
  inferInstanceAs (Decidable (∀ m ∈ pre, _))

lemma Ahead.keys {k : Bytes} {pre : List (PyStr × JsonValue)} (h : Ahead k pre) :
    ∀ m ∈ pre, ¬ Collides k m.1 := by
  intro m hm
  obtain ⟨-, name, hname, hword, hne⟩ := h m hm
  rw [hname, collides_word hword]
  exact hne

lemma Ahead.passes {k : Bytes} {pre : List (PyStr × JsonValue)} (h : Ahead k pre)
    (hpass : AllPass k pre) : ∀ m ∈ pre, Passes k m :=
  fun m hm => ⟨h.keys m hm, hpass m hm⟩

lemma exists_of_not_allPass {k : Bytes} {pre : List (PyStr × JsonValue)} (h : ¬ AllPass k pre) :
    ∃ m ∈ pre, find (needle k) (rendered m.2) ≠ none := by
  simpa [AllPass] using h

/-- The type of a flat message is what its `type` member says, unless a string value in front of it
stops the lookup. -/
theorem typeName_flatText {pre : List (PyStr × JsonValue)} (hpre : Ahead (ascii "type") pre) {w : Bytes}
    (hw : ∀ b ∈ w, isWordChar b) (hlen : w.length < 32) (post : List (PyStr × JsonValue))
    (junk : Bytes) :
    typeName (flatText (pre ++ (str "type", .str (ofBytes w)) :: post) ++ 0 :: junk)
      = if AllPass (ascii "type") pre then some w else none := by
  have hk : Word (ascii "type") := by decide
  split_ifs with hpass
  · exact typeName_of_field (fun b hb => plain_of_wordChar (hw b hb)) hlen
      (textField_word hk hw (hpre.passes hpass) post junk)
  · have hnone := textField_collision hk hpre.keys (fun m hm => (hpre m hm).1)
      (exists_of_not_allPass hpass) (.str (ofBytes w)) post junk
    rw [typeName, show str "type" = ofBytes (ascii "type") from rfl, hnone]

/-- `sd_json_get_uint` returns this number. -/
def ReadsUint (json key : Bytes) (n : ℤ) : Prop := ∃ v : ℕ, sdJsonGetUint json key = some (.ok v) ∧ v = n

theorem readsUint_iff {k : Bytes} (hk : Word k) {pre : List (PyStr × JsonValue)} (hpre : Ahead k pre)
    (n : ℤ) (post : List (PyStr × JsonValue)) (junk : Bytes) :
    ReadsUint (flatText (pre ++ (ofBytes k, .int n) :: post) ++ 0 :: junk) k n
      ↔ AllPass k pre ∧ 0 ≤ n ∧ n < 2 ^ 32 := by
  constructor
  · rintro ⟨v, hv, hvn⟩
    by_cases hpass : AllPass k pre
    · rw [sdJsonGetUint_flatText hk (hpre.passes hpass)] at hv
      split_ifs at hv with hneg
      · simp at hv
      · simp only [Option.some.injEq, Except.ok.injEq] at hv
        have := Nat.mod_lt n.natAbs (show 0 < 2 ^ 32 by decide)
        exact ⟨hpass, by omega, by omega⟩
    · rw [sdJsonGetUint_collision hk hpre.keys (fun m hm => (hpre m hm).1)
        (exists_of_not_allPass hpass)] at hv
      simp at hv
  · rintro ⟨hpass, h0, hlt⟩
    refine ⟨n.natAbs % 2 ^ 32, ?_, by omega⟩
    rw [sdJsonGetUint_flatText hk (hpre.passes hpass), if_neg (by omega)]

/-- `sd_json_get_string` into an array of `cap` leaves this C string. -/
def ReadsText (cap : ℕ) (json key s : Bytes) : Prop :=
  ∀ out : Buffer cap, ∃ out', sdJsonGetString json key out.bytes = some (.ok (), out') ∧
    cstring out' = some s

theorem readsText_iff {cap : ℕ} {k w : Bytes} (hk : Word k) (hw : ∀ b ∈ w, isWordChar b)
    (hlen : w.length < cap) {pre : List (PyStr × JsonValue)} (hpre : Ahead k pre)
    (post : List (PyStr × JsonValue)) (junk : Bytes) :
    ReadsText cap (flatText (pre ++ (ofBytes k, .str (ofBytes w)) :: post) ++ 0 :: junk) k w
      ↔ AllPass k pre := by
  have hjson : (0 : UInt8) ∈ flatText (pre ++ (ofBytes k, .str (ofBytes w)) :: post) ++ 0 :: junk := by
    simp
  have hne : ∀ out : Buffer cap, out.bytes ≠ [] := by
    intro out h
    have := out.length_eq
    simp only [h, List.length_nil] at this
    omega
  constructor
  · intro hread
    by_contra hpass
    obtain ⟨out', hout, -⟩ := hread ⟨List.replicate cap 0, List.length_replicate⟩
    rw [sdJsonGetString_eq hjson (hne _), textField_collision hk hpre.keys (fun m hm => (hpre m hm).1)
      (exists_of_not_allPass hpass)] at hout
    simp at hout
  · intro hpass out
    refine ⟨overlay out.bytes (w ++ [0]), ?_, ?_⟩
    · rw [sdJsonGetString_eq hjson (hne out), textField_word hk hw (hpre.passes hpass)]
      simp only [written, if_true, out.length_eq]
      rw [foldl_put_singletons (by simpa using hlen), List.nil_append]
    · rw [overlay_terminated, cstring_append]
      exact fun h => (plain_of_wordChar (hw 0 h)).1 rfl

/-! ## The messages of the phone -/

/-- A control message the phone sends whose content is free. -/
inductive PhoneMsg
  | aiResponse (text : PyStr)
  | playAudio (content : PyStr)
  | error (code : ℤ) (message : PyStr)
  | audioBegin (audioId : PyStr) (pcm : Bytes) (sampleRate channels : ℤ)

/-- The message as a dictionary. -/
def PhoneMsg.dict : PhoneMsg → Dict
  | .aiResponse text => [(str "type", .str (str "ai_response")), (str "text", .str text)]
  | .playAudio content => [(str "type", .str (str "play_audio")), (str "content", .str content)]
  | .error code message =>
      [(str "type", .str (str "error")), (str "code", .int code), (str "message", .str message)]
  | .audioBegin audioId pcm sampleRate channels =>
      Sudonit.audioBegin (.str audioId) pcm sampleRate channels defaultFormat chunkSize

/-- The type the message names. -/
def PhoneMsg.typeWord : PhoneMsg → Bytes
  | .aiResponse _ => ascii "ai_response"
  | .playAudio _ => ascii "play_audio"
  | .error _ _ => ascii "error"
  | .audioBegin _ _ _ _ => ascii "audio_begin"

/-- Its members in front of `type`, in order. -/
def PhoneMsg.ahead : PhoneMsg → List (PyStr × JsonValue)
  | .aiResponse text => [(str "text", .str text)]
  | .playAudio content => [(str "content", .str content)]
  | .error code message => [(str "code", .int code), (str "message", .str message)]
  | .audioBegin audioId pcm sampleRate channels =>
      [(str "audio_id", .str audioId), (str "channels", .int channels),
        (str "chunks", .int (chunkCount pcm.length chunkSize)), (str "format", .str defaultFormat),
        (str "sample_rate", .int sampleRate),
        (str "sha256", .str (ofBytes (Sha256.hexdigest pcm))), (str "size", .int pcm.length)]

/-- Its free text. -/
def PhoneMsg.freeText : PhoneMsg → PyStr
  | .aiResponse text => text
  | .playAudio content => content
  | .error _ message => message
  | .audioBegin audioId _ _ _ => audioId

/-- The message on the wire. -/
def PhoneMsg.text (m : PhoneMsg) : Bytes := flatText (m.ahead ++ [(str "type", .str (ofBytes m.typeWord))])

lemma encodeControl_phoneMsg (py : Interpreter) (m : PhoneMsg) : encodeControl py m.dict = .ok m.text := by
  have hknown : ∀ w ∈ ["ai_response", "play_audio", "error", "audio_begin"], str w ∈ knownTypes := by
    decide
  have hrendered : rendered (.obj m.dict) = m.text := by cases m <;> rfl
  have htype : dictGet m.dict (str "type") = some (.str (ofBytes m.typeWord)) := by cases m <;> rfl
  have hmem : ofBytes m.typeWord ∈ knownTypes := by
    cases m with
    | aiResponse text => exact hknown "ai_response" (by simp)
    | playAudio content => exact hknown "play_audio" (by simp)
    | error code message => exact hknown "error" (by simp)
    | audioBegin audioId pcm sampleRate channels => exact hknown "audio_begin" (by simp)
  have hwritable : Writable py m.dict := by
    refine .of_plain py htype hmem ?_
    cases m <;> simp [PhoneMsg.dict, audioBegin, nesting]
  rw [hwritable.encodeControl, hrendered]

lemma typeWord_word (m : PhoneMsg) : (∀ b ∈ m.typeWord, isWordChar b) ∧ m.typeWord.length < 32 := by
  have words : ∀ w ∈ ["ai_response", "play_audio", "error", "audio_begin"].map ascii,
      (∀ b ∈ w, isWordChar b) ∧ w.length < 32 := by decide
  cases m <;> exact words _ (by simp [PhoneMsg.typeWord])

/-- The names looked up in an `audio_begin`. -/
def audioKeys : List Bytes :=
  ["type", "size", "chunks", "sample_rate", "channels", "sha256"].map ascii

lemma audioKeys_word {k : Bytes} (hk : k ∈ audioKeys) : Word k ∧ k ≠ ascii "pcm_s16le" ∧
    k.length ≠ 64 := by
  have : ∀ k ∈ audioKeys, Word k ∧ k ≠ ascii "pcm_s16le" ∧ k.length ≠ 64 := by decide
  exact this k hk

/-- Of the members of an `audio_begin` only the identifier can stop a lookup. -/
lemma allPass_audioBegin {k : Bytes} (hk : k ∈ audioKeys) (audioId : PyStr) (pcm : Bytes)
    (sampleRate channels : ℤ) (n : ℕ) :
    AllPass k ((PhoneMsg.audioBegin audioId pcm sampleRate channels).ahead.take (n + 1))
      ↔ ¬ Collides k audioId := by
  obtain ⟨hword, hformat, hsha⟩ := audioKeys_word hk
  have hne : Sha256.hexdigest pcm ≠ k := by
    rintro rfl
    exact hsha (Sha256.length_hexdigest pcm)
  have hfmt : ¬ Collides k defaultFormat :=
    fun h => hformat ((collides_word (k := k) (w := ascii "pcm_s16le") (by decide)).mp h).symm
  have hhex : ¬ Collides k (ofBytes (Sha256.hexdigest pcm)) :=
    fun h => hne ((collides_word (hexdigest_word pcm)).mp h)
  rw [AllPass, PhoneMsg.ahead, List.take_succ_cons, List.forall_mem_cons, find_rendered_str hword,
    and_iff_left_iff_imp]
  intro _ m hm
  have hmem := List.mem_of_mem_take hm
  simp only [List.mem_cons, List.not_mem_nil, or_false] at hmem
  rcases hmem with rfl | rfl | rfl | rfl | rfl | rfl
  · exact find_rendered_int _
  · exact find_rendered_int _
  · exact (find_rendered_str hword _).mpr hfmt
  · exact find_rendered_int _
  · exact (find_rendered_str hword _).mpr hhex
  · exact find_rendered_int _

/-! ## Classification -/

/-- The type on the device. -/
def PhoneMsg.msgType : PhoneMsg → MsgType
  | .aiResponse _ => .aiResponse
  | .playAudio _ => .playAudio
  | .error _ _ => .error
  | .audioBegin _ _ _ _ => .audioBegin

/-- The chain of `strcmp` comes to it. -/
lemma classify_typeWord (m : PhoneMsg) : (classify m.typeWord).1 = m.msgType := by
  cases m <;> rfl

/-- The text handed back reads back member by member, where the device looks at its members. -/
def PhoneMsg.FieldsRead (m : PhoneMsg) (text : Bytes) : Prop :=
  match m with
  | .audioBegin _ pcm sampleRate channels =>
      ReadsUint text (ascii "size") pcm.length ∧
      ReadsUint text (ascii "chunks") (chunkCount pcm.length chunkSize) ∧
      ReadsUint text (ascii "sample_rate") sampleRate ∧
      ReadsUint text (ascii "channels") channels ∧
      ReadsText 65 text (ascii "sha256") (Sha256.hexdigest pcm)
  | _ => True

/-- The message is received for what it is. -/
def Classified (m : PhoneMsg) (typeBuf : Buffer 32) (textOut : Bytes) (t : Inbound) : Prop :=
  ∃ out t', sdMsgRecv true typeBuf textOut t = some (.ok m.msgType, out, t') ∧ m.FieldsRead out

/-- The free text of the message collides with none of the names looked up in it, and the numbers looked
up fit 32 bits. -/
def PhoneMsg.Clear : PhoneMsg → Prop
  | .aiResponse text => ¬ Collides (ascii "type") text
  | .playAudio content => ¬ Collides (ascii "type") content
  | .error _ message => ¬ Collides (ascii "type") message
  | .audioBegin audioId pcm sampleRate channels =>
      (∀ k ∈ audioKeys, ¬ Collides k audioId) ∧ pcm.length < 2 ^ 32 ∧
        (0 ≤ sampleRate ∧ sampleRate < 2 ^ 32) ∧ (0 ≤ channels ∧ channels < 2 ^ 32)

lemma PhoneMsg.Clear.type {m : PhoneMsg} (h : m.Clear) : ¬ Collides (ascii "type") m.freeText := by
  cases m with
  | audioBegin audioId pcm sampleRate channels => exact h.1 _ (by decide)
  | _ => exact h

/-- The names in front of `type` in an `audio_begin`. -/
def audioNames : List Bytes :=
  ["audio_id", "channels", "chunks", "format", "sample_rate", "sha256", "size"].map ascii

/-- The names of the members in front of `type`. -/
def PhoneMsg.aheadNames : PhoneMsg → List Bytes
  | .aiResponse _ => [ascii "text"]
  | .playAudio _ => [ascii "content"]
  | .error _ _ => [ascii "code", ascii "message"]
  | .audioBegin _ _ _ _ => audioNames

lemma aheadNames_words (m : PhoneMsg) :
    (∀ w ∈ m.aheadNames, ∀ b ∈ w, isWordChar b) ∧ ascii "type" ∉ m.aheadNames := by
  have names : ∀ names ∈ [[ascii "text"], [ascii "content"], [ascii "code", ascii "message"], audioNames],
      (∀ w ∈ names, ∀ b ∈ w, isWordChar b) ∧ ascii "type" ∉ names := by decide
  cases m <;> exact names _ (by simp [PhoneMsg.aheadNames])

lemma ahead_take (m : PhoneMsg) {k : Bytes} {n : ℕ} (hk : k ∉ m.aheadNames.take n) :
    Ahead k (m.ahead.take n) := by
  have hnames : m.ahead.map Prod.fst = m.aheadNames.map ofBytes := by cases m <;> rfl
  have htok : ∀ x ∈ m.ahead, Token x.2 := by cases m <;> simp [PhoneMsg.ahead, Token]
  intro x hx
  have hfst : x.1 ∈ (m.aheadNames.take n).map ofBytes := by
    rw [List.map_take, ← hnames, ← List.map_take]
    exact List.mem_map_of_mem hx
  obtain ⟨name, hmem, heq⟩ := List.mem_map.mp hfst
  refine ⟨htok x (List.mem_of_mem_take hx), name, heq.symm,
    (aheadNames_words m).1 name (List.mem_of_mem_take hmem), ?_⟩
  rintro rfl
  exact hk hmem

/-- Only the free text can stop the lookup of the type. -/
lemma allPass_type (m : PhoneMsg) :
    AllPass (ascii "type") m.ahead ↔ ¬ Collides (ascii "type") m.freeText := by
  have hk : Word (ascii "type") := by decide
  cases m with
  | aiResponse text => simp [AllPass, PhoneMsg.ahead, PhoneMsg.freeText, find_rendered_str hk]
  | playAudio content => simp [AllPass, PhoneMsg.ahead, PhoneMsg.freeText, find_rendered_str hk]
  | error code message =>
      simp [AllPass, PhoneMsg.ahead, PhoneMsg.freeText, find_rendered_str hk, find_rendered_int]
  | audioBegin audioId pcm sampleRate channels =>
      exact allPass_audioBegin (by decide) audioId pcm sampleRate channels 6

/-- The type read off a message of the phone. -/
lemma typeName_text (m : PhoneMsg) (junk : Bytes) :
    typeName (m.text ++ 0 :: junk)
      = if Collides (ascii "type") m.freeText then none else some m.typeWord := by
  have hnot : ascii "type" ∉ m.aheadNames.take m.ahead.length :=
    fun h => (aheadNames_words m).2 (List.mem_of_mem_take h)
  have hahead := ahead_take m hnot
  rw [List.take_length] at hahead
  have htype := typeName_flatText hahead (typeWord_word m).1 (typeWord_word m).2 [] junk
  rw [if_congr (allPass_type m) rfl rfl, ite_not] at htype
  exact htype

/-- The members of an `audio_begin` read back on the device. -/
lemma fieldsRead_audioBegin_iff (audioId : PyStr) (pcm : Bytes) (sampleRate channels : ℤ)
    (junk : Bytes) :
    (PhoneMsg.audioBegin audioId pcm sampleRate channels).FieldsRead
        ((PhoneMsg.audioBegin audioId pcm sampleRate channels).text ++ 0 :: junk)
      ↔ (∀ k ∈ audioKeys.tail, ¬ Collides k audioId) ∧ pcm.length < 2 ^ 32 ∧
        (0 ≤ sampleRate ∧ sampleRate < 2 ^ 32) ∧ (0 ≤ channels ∧ channels < 2 ^ 32) := by
  -- Each member stands behind those before it in the order of the keys.
  have hahead : ∀ {k n}, k ∉ audioNames.take n →
      Ahead k ((PhoneMsg.audioBegin audioId pcm sampleRate channels).ahead.take n) :=
    fun h => ahead_take (.audioBegin audioId pcm sampleRate channels) h
  have hpass : ∀ {k}, k ∈ audioKeys → ∀ n,
      AllPass k ((PhoneMsg.audioBegin audioId pcm sampleRate channels).ahead.take (n + 1))
        ↔ ¬ Collides k audioId :=
    fun hk n => allPass_audioBegin hk audioId pcm sampleRate channels n
  have hchannels := readsUint_iff (by decide) (hahead (k := ascii "channels") (n := 1) (by decide))
    channels ((PhoneMsg.audioBegin audioId pcm sampleRate channels).ahead.drop 2 ++
      [(str "type", .str (str "audio_begin"))]) junk
  have hchunks := readsUint_iff (by decide) (hahead (k := ascii "chunks") (n := 2) (by decide))
    (chunkCount pcm.length chunkSize)
    ((PhoneMsg.audioBegin audioId pcm sampleRate channels).ahead.drop 3 ++
      [(str "type", .str (str "audio_begin"))]) junk
  have hrate := readsUint_iff (by decide) (hahead (k := ascii "sample_rate") (n := 4) (by decide))
    sampleRate ((PhoneMsg.audioBegin audioId pcm sampleRate channels).ahead.drop 5 ++
      [(str "type", .str (str "audio_begin"))]) junk
  have hsha := readsText_iff (show Word (ascii "sha256") by decide) (hexdigest_word pcm)
    (show (Sha256.hexdigest pcm).length < 65 by rw [Sha256.length_hexdigest]; decide)
    (hahead (n := 5) (by decide))
    ((PhoneMsg.audioBegin audioId pcm sampleRate channels).ahead.drop 6 ++
      [(str "type", .str (str "audio_begin"))]) junk
  have hsize := readsUint_iff (by decide) (hahead (k := ascii "size") (n := 6) (by decide)) pcm.length
    [(str "type", .str (str "audio_begin"))] junk
  rw [hpass (by decide)] at hsize hchunks hrate hchannels hsha
  have hcount : pcm.length < 2 ^ 32 → chunkCount pcm.length chunkSize < 2 ^ 32 := by
    rw [chunkCount, chunkSize]
    omega
  have hkeys : (∀ k ∈ audioKeys.tail, ¬ Collides k audioId) ↔ ¬ Collides (ascii "size") audioId ∧
      ¬ Collides (ascii "chunks") audioId ∧ ¬ Collides (ascii "sample_rate") audioId ∧
      ¬ Collides (ascii "channels") audioId ∧ ¬ Collides (ascii "sha256") audioId := by
    simp [audioKeys]
  refine (and_congr hsize (and_congr hchunks (and_congr hrate (and_congr hchannels hsha)))).trans ?_
  rw [hkeys]
  constructor
  · rintro ⟨⟨hs, -, hlen⟩, ⟨hc, -⟩, ⟨hr, hrate⟩, ⟨hch, hchan⟩, hsh⟩
    exact ⟨⟨hs, hc, hr, hch, hsh⟩, by omega, hrate, hchan⟩
  · rintro ⟨⟨hs, hc, hr, hch, hsh⟩, hlen, hrate, hchan⟩
    have := hcount hlen
    exact ⟨⟨hs, by omega, by omega⟩, ⟨hc, by omega, by omega⟩, ⟨hr, hrate⟩, ⟨hch, hchan⟩, hsh⟩

/-- The text handed back with an `audio_begin` is the message, if it fits. -/
lemma handed_audioBegin {text textOut : Bytes} (htext : 0 ∉ text) (hcap : text.length < textOut.length) :
    handed (.audioBegin, none) (text ++ [0]) textOut = text ++ 0 :: textOut.drop (text.length + 1) := by
  have hne : textOut ≠ [] := by
    rintro rfl
    simp at hcap
  rw [handed, if_neg hne, if_pos rfl, cstring_append htext, Option.getD_some,
    List.take_of_length_le (by omega), overlay_terminated]

/-- What `sd_msg_recv` returns for a message of the phone at the front of a stream. -/
lemma sdMsgRecv_phoneMsg (m : PhoneMsg) (hfit : m.text.length ≤ msgRecvCap) (typeBuf : Buffer 32)
    (textOut : Bytes) {t : Inbound} (ht : t.Steady) {rest : Bytes}
    (hb : t.bytes = Frame.bytes ⟨kindJson, m.text⟩ ++ rest) :
    ∃ t', t'.bytes = rest ∧ t'.Steady ∧ sdMsgRecv true typeBuf textOut t =
      some (if Collides (ascii "type") m.freeText then (.error .io, textOut.set 0 0, t')
        else (.ok m.msgType, handed (classify m.typeWord) (m.text ++ [0]) (textOut.set 0 0), t')) := by
  have hmax : m.text.length ≤ maxFrameBytes := le_trans hfit (by decide)
  obtain ⟨t', hrecv, hrest, ht'⟩ := receiveFrame_steady SdErr.ofStop ht
    (accepted_sdReject.mpr ⟨Or.inl rfl, hmax, hfit⟩) hb
  rw [← sdFrameRecv_eq] at hrecv
  refine ⟨t', hrest, ht', ?_⟩
  rw [sdMsgRecv_frame hrecv rfl, show (⟨kindJson, m.text⟩ : Frame).payload = m.text from rfl,
    typeName_text, ← classify_typeWord]
  split_ifs <;> rfl

/-- A message whose free text collides with `type` is turned away. -/
lemma not_classified_of_collision (m : PhoneMsg) (hfit : m.text.length ≤ msgRecvCap)
    (hcol : Collides (ascii "type") m.freeText) (typeBuf : Buffer 32) (textOut : Bytes) {t : Inbound}
    (ht : t.Steady) {rest : Bytes} (hb : t.bytes = Frame.bytes ⟨kindJson, m.text⟩ ++ rest) :
    ¬ Classified m typeBuf textOut t := by
  obtain ⟨t', -, -, hresult⟩ := sdMsgRecv_phoneMsg m hfit typeBuf textOut ht hb
  rw [if_pos hcol] at hresult
  rintro ⟨out, t'', heq, -⟩
  rw [hresult] at heq
  simp at heq

/-- **Classification, exactly.**  The canonical text of a message the phone sends is classified by its
`type` member, and the fields of an `audio_begin` read back, if and only if the message is clear. -/
theorem classified_iff {py : Interpreter} (m : PhoneMsg) {payload : Bytes} (henc : encodeControl py m.dict = .ok payload)
    (hfit : payload.length ≤ msgRecvCap) (typeBuf : Buffer 32) {textOut : Bytes}
    (hcap : m.msgType = .audioBegin → payload.length < textOut.length) {t : Inbound} (ht : t.Steady)
    {rest : Bytes} (hb : t.bytes = Frame.bytes ⟨kindJson, payload⟩ ++ rest) :
    Classified m typeBuf textOut t ↔ m.Clear := by
  rw [encodeControl_phoneMsg, Except.ok.injEq] at henc
  subst henc
  obtain ⟨t', -, -, hresult⟩ := sdMsgRecv_phoneMsg m hfit typeBuf textOut ht hb
  have hzero : 0 ∉ m.text := zero_notMem_of_printable (allPrintable_flatText _)
  by_cases htype : Collides (ascii "type") m.freeText
  · exact iff_of_false (not_classified_of_collision m hfit htype typeBuf textOut ht hb)
      fun hclear => hclear.type htype
  · rw [if_neg htype] at hresult
    have hiff : Classified m typeBuf textOut t ↔
        m.FieldsRead (handed (classify m.typeWord) (m.text ++ [0]) (textOut.set 0 0)) := by
      rw [Classified, hresult]
      constructor
      · rintro ⟨out, t'', heq, hfields⟩
        simp only [Option.some.injEq, Prod.mk.injEq] at heq
        rwa [← heq.2.1] at hfields
      · exact fun hfields => ⟨_, _, rfl, hfields⟩
    rw [hiff]
    cases m with
    | aiResponse text => exact iff_of_true trivial htype
    | playAudio content => exact iff_of_true trivial htype
    | error code message => exact iff_of_true trivial htype
    | audioBegin audioId pcm sampleRate channels =>
        have hfits : (PhoneMsg.audioBegin audioId pcm sampleRate channels).text.length
            < (textOut.set 0 0).length := by
          rw [List.length_set]
          exact hcap rfl
        have hkeys : (∀ k ∈ audioKeys, ¬ Collides k audioId) ↔
            ∀ k ∈ audioKeys.tail, ¬ Collides k audioId := by
          have hid : ¬ Collides (ascii "type") audioId := htype
          rw [audioKeys, List.map_cons, List.forall_mem_cons, and_iff_right hid, List.tail_cons]
        have hclass : classify (PhoneMsg.audioBegin audioId pcm sampleRate channels).typeWord
            = (.audioBegin, none) := rfl
        rw [hclass, handed_audioBegin hzero hfits, fieldsRead_audioBegin_iff, PhoneMsg.Clear, hkeys]

/-- A short answer, which is clear. -/
theorem classified_iff_hello :
    (Classified (.aiResponse (str "hello")) ⟨List.replicate 32 0, rfl⟩ [0]
      (.cut (Frame.bytes ⟨kindJson, (PhoneMsg.aiResponse (str "hello")).text⟩) [2, 7]) ↔
    (PhoneMsg.aiResponse (str "hello")).Clear) ∧ (PhoneMsg.aiResponse (str "hello")).Clear :=
  ⟨classified_iff (.aiResponse (str "hello")) (encodeControl_phoneMsg usualInterpreter _) (by decide) _ (by decide)
    (Inbound.steady_cut _ _) (List.append_nil _).symm, show ¬ Collides (ascii "type") (str "hello") by decide⟩

/-- The answer `type`. -/
theorem not_classified_type :
    encodeControl usualInterpreter (PhoneMsg.aiResponse (str "type")).dict
        = .ok (ascii "\x7b\"text\":\"type\",\"type\":\"ai_response\"\x7d") ∧
      ¬ Classified (.aiResponse (str "type")) ⟨List.replicate 32 0, rfl⟩ [0]
        (.cut (Frame.bytes ⟨kindJson,
          ascii "\x7b\"text\":\"type\",\"type\":\"ai_response\"\x7d"⟩) []) :=
  ⟨rfl, not_classified_of_collision (.aiResponse (str "type")) (by decide) (Or.inl rfl) _ _
    (Inbound.steady_cut _ _) (List.append_nil _).symm⟩

end Sudonit
