import Mathlib.Data.List.TakeWhile
import Sudonit.Protocol.MessagesC

/-!
# The text of a received control message

What `sd_msg_recv` hands back in its text buffer, as a function of the frame and of what the buffer
held.

* `readControl_eq` — classification and text from the terminated frame, with no access outside it.
* `sdMsgRecv_frame` — the function on a stream, given the frame it receives.
* `text_terminated_iff` — after `SD_OK` the buffer is a C string unless the text member was cut by a
  malformed escape: then the early terminator is overwritten and no other one is written.
-/

namespace Sudonit

open Octets Stream Frames CText

/-! ## C strings in written buffers -/

lemma cstring_stop (a b : Bytes) : cstring (a ++ 0 :: b) = some (a.takeWhile (· ≠ 0)) := by
  rw [cstring, if_pos (by simp)]
  congr 1
  induction a with
  | nil => rfl
  | cons x a ih =>
      rw [List.cons_append, List.takeWhile_cons, List.takeWhile_cons, ih]

lemma overlay_terminated (out a : Bytes) :
    overlay out (a ++ [0]) = a ++ 0 :: out.drop (a.length + 1) := by
  rw [overlay, List.append_assoc, List.length_append]
  rfl

/-- The name a `type` member spells in the local array. -/
def typeName (json : Bytes) : Option Bytes :=
  match textField json (ascii "type") with
  | none => none
  | some c => if c.complete then some ((fitting 32 c.chars).takeWhile (· ≠ 0)) else none

/-- The text buffer after the member of that key was copied, whatever `sd_json_get_string` returned. -/
def textAfter (json key textOut : Bytes) : Bytes :=
  match textField json key with
  | none => textOut
  | some c => (written textOut c []).2

/-- The text buffer after a classified message. -/
def handed (kindOf : MsgType × Option Bytes) (json textOut : Bytes) : Bytes :=
  if textOut = [] then textOut
  else if kindOf.1 = .audioBegin then
    overlay textOut (((cstring json).getD []).take (textOut.length - 1) ++ [0])
  else
    match kindOf.2 with
    | none => textOut
    | some key => textAfter json key textOut

lemma handText_eq {json : Bytes} (hjson : 0 ∈ json) (kindOf : MsgType × Option Bytes)
    (textOut : Bytes) : handText kindOf json textOut = some (handed kindOf json textOut) := by
  rw [handText, handed]
  by_cases hout : textOut = []
  · rw [if_pos (by rw [hout]; rfl), if_pos hout]
  have hpos : textOut.length ≠ 0 := fun h => hout (List.length_eq_zero_iff.mp h)
  rw [if_neg hpos, if_neg hout]
  split_ifs with haudio
  · obtain ⟨t, junk, ht, rfl⟩ := exists_cstring hjson
    rw [snprintfString, cstring_append ht]
    have hfit : ([] : Bytes).length + (t.take (textOut.length - 1) ++ [0]).length
        ≤ textOut.length := by
      simp only [List.length_nil, List.length_append, List.length_take, List.length_singleton]
      omega
    exact store_overlay hfit
  · cases hkey : kindOf.2 with
    | none => rfl
    | some key =>
        simp only [sdJsonGetString_eq hjson hout, Option.map_some, textAfter]
        cases textField json key <;> rfl

/-- **A terminated frame is read without an access outside it**: the result, and the buffer. -/
theorem readControl_eq {json : Bytes} (hjson : 0 ∈ json) (typeBuf : Buffer 32) (textOut : Bytes) :
    readControl typeBuf json textOut = some (match typeName json with
      | none => (.error .io, textOut)
      | some type => (.ok (classify type).1, handed (classify type) json textOut)) := by
  have hbuf : typeBuf.bytes ≠ [] := by
    intro h
    have := typeBuf.length_eq
    simp [h] at this
  rw [readControl, sdJsonGetString_eq hjson hbuf, typeName]
  cases textField json (ascii "type") with
  | none => rfl
  | some c =>
      simp only [written, typeBuf.length_eq]
      by_cases hc : c.complete
      · rw [if_pos hc, if_pos hc]
        simp only [overlay_terminated, cstring_stop, handText_eq hjson, Option.map_some, fitting]
      · rw [if_neg hc, if_neg hc]

/-! ## The function on a stream -/

lemma sdMsgRecv_frame {t t' : Inbound} {f : Frame} (hrecv : (sdFrameRecv msgRecvCap).run t = (.ok f, t'))
    (hkind : f.kind = kindJson) (typeBuf : Buffer 32) (textOut : Bytes) :
    sdMsgRecv true typeBuf textOut t = some (match typeName (f.payload ++ [0]) with
      | none => (.error .io, textOut.set 0 0, t')
      | some type =>
          (.ok (classify type).1, handed (classify type) (f.payload ++ [0]) (textOut.set 0 0), t')) := by
  simp only [sdMsgRecv, if_true, hrecv, hkind, ne_eq, not_true_eq_false, if_false,
    readControl_eq (show (0 : UInt8) ∈ f.payload ++ [0] by simp), Option.map_some]
  split <;> rfl

/-- What a call that returned `SD_OK` received. -/
lemma sdMsgRecv_ok {heap : Bool} {typeBuf : Buffer 32} {textOut out : Bytes} {t t' : Inbound}
    {mtype : MsgType} (h : sdMsgRecv heap typeBuf textOut t = some (.ok mtype, out, t')) :
    ∃ f type, (sdFrameRecv msgRecvCap).run t = (.ok f, t') ∧ f.kind = kindJson ∧
      typeName (f.payload ++ [0]) = some type ∧ mtype = (classify type).1 ∧
      out = handed (classify type) (f.payload ++ [0]) (textOut.set 0 0) := by
  rw [sdMsgRecv] at h
  cases heap with
  | false => simp at h
  | true =>
      rcases hrecv : (sdFrameRecv msgRecvCap).run t with ⟨e | f, t₁⟩
      · simp [hrecv] at h
      · by_cases hkind : f.kind = kindJson
        · have hspec := sdMsgRecv_frame hrecv hkind typeBuf textOut
          rw [sdMsgRecv, h, Option.some.injEq] at hspec
          cases htype : typeName (f.payload ++ [0]) with
          | none => simp [htype] at hspec
          | some type =>
              simp only [htype, Prod.mk.injEq, Except.ok.injEq] at hspec
              obtain ⟨rfl, rfl, rfl⟩ := hspec
              exact ⟨f, type, rfl, hkind, htype, rfl, rfl⟩
        · simp [hrecv, hkind] at h

/-! ## Termination of the text -/

/-- The key of the text member that a message of this type hands back. -/
def textKey (json : Bytes) : Option Bytes := (typeName json).bind fun type => (classify type).2

/-- The text member of a frame is cut by a malformed escape after characters were copied, with no zero
octet among those, nor in the buffer behind them. -/
def CutText (json textOut : Bytes) : Prop :=
  ∃ key c, textKey json = some key ∧ textField json key = some c ∧ c.complete = false ∧
    fitting textOut.length c.chars ≠ [] ∧ 0 ∉ fitting textOut.length c.chars ∧
    0 ∉ textOut.drop (fitting textOut.length c.chars).length

/-- Types that hand a member back are not `audio_begin`. -/
lemma classify_key {type key : Bytes} (h : (classify type).2 = some key) :
    (classify type).1 ≠ .audioBegin := by
  unfold classify at h ⊢
  split_ifs at h ⊢ <;> simp_all

/-- The early terminator is there until a character is written over it. -/
lemma mem_overlay_set {textOut copied : Bytes} (hout : textOut ≠ []) :
    0 ∈ overlay (textOut.set 0 0) copied ↔
      copied = [] ∨ 0 ∈ copied ∨ 0 ∈ textOut.drop copied.length := by
  obtain ⟨x, rest, rfl⟩ := List.exists_cons_of_ne_nil hout
  cases copied with
  | nil => simp [overlay]
  | cons y copied => simp [overlay, or_assoc]

lemma handed_terminated_iff {json textOut type : Bytes} (hout : textOut ≠ [])
    (htype : typeName json = some type) :
    0 ∈ handed (classify type) json (textOut.set 0 0) ↔ ¬ CutText json textOut := by
  have hset : textOut.set 0 0 ≠ [] := by simpa using hout
  have hkeep : 0 ∈ textOut.set 0 0 := by
    obtain ⟨x, rest, rfl⟩ := List.exists_cons_of_ne_nil hout
    simp
  have hkey : textKey json = (classify type).2 := by rw [textKey, htype, Option.bind_some]
  rw [handed, if_neg hset]
  cases hclass : (classify type).2 with
  | none =>
      have hno : ¬ CutText json textOut := by
        rintro ⟨key, c, hk, -⟩
        rw [hkey, hclass] at hk
        simp at hk
      split_ifs
      · simp [overlay, hno]
      · exact iff_of_true hkeep hno
  | some key =>
      rw [if_neg (classify_key hclass)]
      have hiff : CutText json textOut ↔ ∃ c, textField json key = some c ∧ c.complete = false ∧
          fitting textOut.length c.chars ≠ [] ∧ 0 ∉ fitting textOut.length c.chars ∧
          0 ∉ textOut.drop (fitting textOut.length c.chars).length := by
        rw [CutText, hkey, hclass]
        constructor
        · rintro ⟨k, c, hk, hrest⟩
          rw [← Option.some.inj hk] at hrest
          exact ⟨c, hrest⟩
        · rintro ⟨c, hrest⟩
          exact ⟨key, c, rfl, hrest⟩
      rw [hiff]
      simp only [textAfter]
      cases hfield : textField json key with
      | none => exact iff_of_true hkeep (by simp)
      | some c =>
          simp only [written, List.length_set, Option.some.injEq, exists_eq_left']
          by_cases hc : c.complete
          · simp [hc, overlay]
          · rw [if_neg hc, mem_overlay_set hout, fitting]
            simp only [Bool.not_eq_true] at hc
            tauto

/-- **When the received text is a C string.**  After `SD_OK` the text buffer holds a terminator for
every frame and everything the buffer held before, unless the text member is cut by a malformed escape
and what was copied of it left no zero octet behind. -/
theorem text_terminated_iff {heap : Bool} {typeBuf : Buffer 32} {textOut out : Bytes} {t t' : Inbound}
    {f : Frame} {mtype : MsgType} (hcap : textOut ≠ [])
    (hframe : (sdFrameRecv msgRecvCap).run t = (.ok f, t'))
    (hok : sdMsgRecv heap typeBuf textOut t = some (.ok mtype, out, t')) :
    0 ∈ out ↔ ¬ CutText (f.payload ++ [0]) textOut := by
  obtain ⟨g, type, hrecv, -, htype, -, rfl⟩ := sdMsgRecv_ok hok
  rw [hframe] at hrecv
  obtain rfl : f = g := by simpa using hrecv
  exact handed_terminated_iff hcap htype

/-! ## A frame that leaves its text unterminated -/

lemma textField_quoted {json key s rest : Bytes} (hs : ∀ b ∈ s, Plain b)
    (h : locate json key = some (some (quote :: (s ++ quote :: rest)))) :
    textField json key = some ⟨s.map fun b => [b], true⟩ := by
  simp only [textField, h, if_true, contents_quoted hs]

lemma typeName_of_field {json s : Bytes} (hs : ∀ b ∈ s, Plain b) (hlen : s.length < 32)
    (h : textField json (ascii "type") = some ⟨s.map fun b => [b], true⟩) :
    typeName json = some s := by
  simp only [typeName, h, if_true, fitting_singletons hlen]
  rw [List.takeWhile_eq_self_iff.mpr]
  intro b hb
  simpa using (hs b hb).1

/-- An `ai_response` whose text breaks off at an escape JSON does not have. -/
def brokenText : Bytes := ascii "\x7b\"type\":\"ai_response\",\"text\":\"abc\\q\"\x7d"

lemma typeName_brokenText : typeName (brokenText ++ [0]) = some (ascii "ai_response") := by
  have hloc : locate (brokenText ++ [0]) (ascii "type") = some (some (quote ::
      (ascii "ai_response" ++ quote :: (ascii ",\"text\":\"abc\\q\"\x7d" ++ [0])))) := by decide
  exact typeName_of_field (by decide) (by decide) (textField_quoted (by decide) hloc)

lemma textField_brokenText :
    textField (brokenText ++ [0]) (ascii "text") = some ⟨[[97], [98], [99]], false⟩ := by
  have hloc : locate (brokenText ++ [0]) (ascii "text")
      = some (some (quote :: (ascii "abc" ++ (ascii "\\q\"\x7d" ++ [0])))) := by decide
  have hbad : readItem (ascii "\\q\"\x7d" ++ [0]) = some .malformed := rfl
  simp only [textField, hloc, if_true]
  rw [contents_plain (by decide), contents_malformed hbad]
  rfl

lemma sdMsgRecv_brokenText {textOut : Bytes} (hout : textOut ≠ []) (typeBuf : Buffer 32) :
    ∃ t', (sdFrameRecv msgRecvCap).run (.cut (Frame.bytes ⟨kindJson, brokenText⟩) [])
        = (.ok ⟨kindJson, brokenText⟩, t') ∧
      sdMsgRecv true typeBuf textOut (.cut (Frame.bytes ⟨kindJson, brokenText⟩) [])
        = some (.ok .aiResponse, textAfter (brokenText ++ [0]) (ascii "text") (textOut.set 0 0), t') := by
  obtain ⟨t', hrecv, -, -⟩ := receiveFrame_steady SdErr.ofStop
    (Inbound.steady_cut (Frame.bytes ⟨kindJson, brokenText⟩) [])
    (accepted_sdReject.mpr (⟨Or.inl rfl, by decide, by decide⟩ : _ ∧ _ ∧ brokenText.length ≤ msgRecvCap))
    (List.append_nil _).symm
  rw [← sdFrameRecv_eq] at hrecv
  refine ⟨t', hrecv, ?_⟩
  obtain ⟨x, rest, rfl⟩ := List.exists_cons_of_ne_nil hout
  rw [sdMsgRecv_frame hrecv rfl, typeName_brokenText]
  rfl

/-- Eight octets without a zero still have none after the broken message. -/
theorem text_unterminated : ∃ t',
    sdMsgRecv true ⟨List.replicate 32 0, rfl⟩ (ascii "xxxxxxxx")
      (.cut (Frame.bytes ⟨kindJson, brokenText⟩) []) = some (.ok .aiResponse, ascii "abcxxxxx", t') ∧
    0 ∉ ascii "abcxxxxx" := by
  obtain ⟨t', -, hok⟩ := sdMsgRecv_brokenText (show ascii "xxxxxxxx" ≠ [] by decide)
    ⟨List.replicate 32 0, rfl⟩
  refine ⟨t', ?_, by decide⟩
  rw [hok, textAfter, textField_brokenText]
  rfl

/-- The same message into a buffer of zeros is terminated. -/
theorem text_terminated_iff_zeros :
    0 ∈ ascii "abc" ++ [0, 0, 0, 0, 0] ↔ ¬ CutText (brokenText ++ [0]) [0, 0, 0, 0, 0, 0, 0, 0] := by
  obtain ⟨t', hrecv, hok⟩ := sdMsgRecv_brokenText (show [0, 0, 0, 0, 0, 0, 0, 0] ≠ [] by decide)
    ⟨List.replicate 32 0, rfl⟩
  rw [textAfter, textField_brokenText] at hok
  exact text_terminated_iff (by decide) hrecv hok

end Sudonit
