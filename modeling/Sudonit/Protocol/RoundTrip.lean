import Sudonit.Core.Utf8
import Sudonit.Protocol.Classification

/-!
# Text across the two languages

What `json.dumps` makes of a string of Unicode scalar values, `sd_json_get_string` turns into the UTF-8
encoding of that string.

* `utf8_char` — `append_utf8` writes a scalar value as UTF-8 has it.
* `readItem_escapeChar` — one character, whichever way it is escaped, is read back as a whole, with
  nothing of what follows it.
* `contents_escape_scalar` — a literal holds its characters, by induction over the string.
* `string_round_trip` — the text members of the control messages.
-/

namespace Sudonit

open Octets CText Python

/-! ## One character -/

/-- A scalar value as a code point of a Python string. -/
def ofChar (c : Char) : CodePoint := ⟨c.val.toNat, Utf8.val_lt c⟩

/-- A string of scalar values as a Python string. -/
def ofChars (s : List Char) : PyStr := s.map ofChar

lemma isScalar_ofChar (c : Char) : IsScalar (ofChar c) := by
  rcases c.valid with h | h
  · exact Or.inl h
  · exact Or.inr h.1

lemma ofChar_ne_zero {c : Char} (h : c ≠ '\x00') : (ofChar c).val ≠ 0 := by
  intro h0
  exact h (Char.ext (UInt32.toNat_inj.mp h0))

/-- The bits of two numbers side by side. -/
lemma or_eq_add {a x : ℕ} (k : ℕ) (ha : a % 2 ^ k = 0) (hx : x < 2 ^ k) : a ||| x = x + a := by
  obtain ⟨m, rfl⟩ := Nat.dvd_of_mod_eq_zero ha
  rw [Nat.mul_comm, ← Nat.shiftLeft_eq, ← Nat.shiftLeft_add_eq_or_of_lt hx, Nat.add_comm]

/-- Six bits of a code point in a continuation octet. -/
lemma tailBits_eq (m : ℕ) : 0x80 ||| m &&& 0x3F = m % 64 + 0x80 := by
  rw [show (0x3F : ℕ) = 2 ^ 6 - 1 from rfl, Nat.and_two_pow_sub_one_eq_mod]
  exact or_eq_add 6 rfl (Nat.mod_lt _ (by decide))

/-- **`append_utf8` writes UTF-8.** -/
theorem utf8_char (c : Char) : utf8 c.val.toNat = String.utf8EncodeChar c := by
  have hmax := Utf8.val_lt c
  rw [utf8, String.utf8EncodeChar]
  generalize c.val.toNat = v at hmax
  simp only [tailBits_eq, Nat.shiftRight_eq_div_pow, Nat.reducePow]
  by_cases h₁ : v < 0x80
  · rw [if_pos h₁, if_pos (show v ≤ 0x7F by omega)]
  rw [if_neg h₁, if_neg (show ¬ v ≤ 0x7F by omega)]
  by_cases h₂ : v < 0x800
  · rw [if_pos h₂, if_pos (show v ≤ 0x7FF by omega), or_eq_add 6 rfl (show v / 64 < 2 ^ 6 by omega),
      Nat.mod_eq_of_lt (show v / 64 < 0x20 by omega)]
  rw [if_neg h₂, if_neg (show ¬ v ≤ 0x7FF by omega)]
  by_cases h₃ : v < 0x10000
  · rw [if_pos h₃, if_pos (show v ≤ 0xFFFF by omega), or_eq_add 4 rfl (show v / 4096 < 2 ^ 4 by omega),
      Nat.mod_eq_of_lt (show v / 4096 < 0x10 by omega)]
  · rw [if_neg h₃, if_neg (show ¬ v ≤ 0xFFFF by omega), or_eq_add 3 rfl (show v / 262144 < 2 ^ 3 by omega),
      Nat.mod_eq_of_lt (show v / 262144 < 0x08 by omega)]

lemma utf8_ascii {v : ℕ} (h : v < 0x80) : utf8 v = [UInt8.ofNat v] := by rw [utf8, if_pos h]

/-- The escape of a low surrogate right behind that of a high one. -/
lemma joinLow_pair {hi lo : ℕ} (hhi : 0xD800 ≤ hi ∧ hi ≤ 0xDBFF) (hlo : 0xDC00 ≤ lo ∧ lo ≤ 0xDFFF)
    (rest : Bytes) : joinLow hi (unicodeEscape lo ++ rest)
      = some (0x10000 + ((hi - 0xD800) <<< 10) + (lo - 0xDC00), rest) := by
  rw [joinLow_unicode hhi, Nat.mod_eq_of_lt (by omega), if_pos hlo]

/-- **A character is read back as a whole**, however it is escaped, and nothing of what follows it. -/
theorem readItem_escapeChar {c : CodePoint} (hc : IsScalar c) (h0 : c.val ≠ 0) (rest : Bytes) :
    readItem (escapeChar c ++ rest) = some (.char (utf8 c.val) rest) := by
  have hmax := c.isLt
  have hesc := escaped_escapeChar c
  generalize escapeChar c = w at hesc ⊢
  cases hesc with
  | @short x e h =>
      have hshort : ∀ p ∈ shortEscapes, unescape p.2 = some p.1 ∧ p.1.toNat < 0x80 := by decide
      obtain ⟨he, hx⟩ := hshort _ h
      rw [val_ofByte, utf8_ascii hx, UInt8.ofNat_toNat]
      exact readItem_short he rest
  | @bare b hb =>
      have hlow : b.toNat < 0x80 := lt_of_le_of_lt (UInt8.le_iff_toNat_le.mp hb.1.2) (by decide)
      rw [val_ofByte, utf8_ascii hlow, UInt8.ofNat_toNat]
      exact readItem_plain (plain_of_bare hb) rest
  | unit h =>
      have hlone : ¬ (0xD800 ≤ c.val ∧ c.val ≤ 0xDBFF) := by
        rcases hc with h | h <;> omega
      rw [readItem_unicode, Nat.mod_eq_of_lt h, joinLow_other hlone, Option.map_some]
  | pair h =>
      -- A surrogate pair: the code point comes back from its two halves.
      have hhi : 0xD800 ≤ 0xD800 + (c.val - 0x10000) / 0x400 ∧
          0xD800 + (c.val - 0x10000) / 0x400 ≤ 0xDBFF := by omega
      have hlo : 0xDC00 ≤ 0xDC00 + (c.val - 0x10000) % 0x400 ∧
          0xDC00 + (c.val - 0x10000) % 0x400 ≤ 0xDFFF := by omega
      have hjoined : 0x10000 + ((0xD800 + (c.val - 0x10000) / 0x400 - 0xD800) <<< 10) +
          (0xDC00 + (c.val - 0x10000) % 0x400 - 0xDC00) = c.val := by
        rw [Nat.shiftLeft_eq]
        omega
      rw [List.append_assoc, readItem_unicode, Nat.mod_eq_of_lt (by omega), joinLow_pair hhi hlo,
        Option.map_some, hjoined]

/-! ## Strings -/

/-- **A literal holds its characters**, each as its UTF-8. -/
theorem contents_escape_scalar {s : PyStr} (hs : ∀ c ∈ s, IsScalar c ∧ c.val ≠ 0) (rest : Bytes) :
    contents (escape s ++ quote :: rest) = some ⟨s.map fun c => utf8 c.val, true⟩ := by
  induction s with
  | nil => exact contents_done rfl
  | cons c s ih =>
      obtain ⟨hc, h0⟩ := hs c List.mem_cons_self
      rw [escape_cons, List.append_assoc, contents_char (readItem_escapeChar hc h0 _),
        ih fun x hx => hs x (List.mem_cons_of_mem _ hx), Option.map_some, List.map_cons]

lemma flatten_utf8_ofChars (s : List Char) : ((ofChars s).map fun c => utf8 c.val).flatten = Utf8.encode s := by
  induction s with
  | nil => rfl
  | cons c s ih =>
      rw [ofChars, List.map_cons, List.map_cons, List.flatten_cons, Utf8.encode_cons, ← utf8_char, ← ih]
      rfl

/-- A string member of a flat object holds its characters. -/
lemma textField_ofChars {k : Bytes} (hk : Word k) {pre : List (PyStr × JsonValue)}
    (hpre : ∀ m ∈ pre, Passes k m) {s : List Char} (hs : '\x00' ∉ s) (post : List (PyStr × JsonValue))
    (junk : Bytes) : textField (flatText (pre ++ (ofBytes k, .str (ofChars s)) :: post) ++ 0 :: junk) k
      = some ⟨(ofChars s).map fun c => utf8 c.val, true⟩ := by
  have hscalar : ∀ c ∈ ofChars s, IsScalar c ∧ c.val ≠ 0 := by
    intro c hc
    obtain ⟨d, hd, rfl⟩ := List.mem_map.mp hc
    exact ⟨isScalar_ofChar d, ofChar_ne_zero fun h => hs (h ▸ hd)⟩
  have hquoted : rendered (.str (ofChars s)) = quote :: (escape (ofChars s) ++ [quote]) := rfl
  rw [textField, locate_flatText hk hpre (Or.inl ⟨_, rfl⟩), hquoted]
  simp only [List.cons_append, List.append_assoc, List.nil_append, if_true,
    contents_escape_scalar hscalar]

/-- **A string member of a flat object is read as the UTF-8 encoding of the string.** -/
theorem sdJsonGetString_ofChars {k : Bytes} (hk : Word k) {pre : List (PyStr × JsonValue)}
    (hpre : ∀ m ∈ pre, Passes k m) {s : List Char} (hs : '\x00' ∉ s) (post : List (PyStr × JsonValue))
    (junk : Bytes) {out : Bytes} (hcap : (Utf8.encode s).length < out.length) :
    sdJsonGetString (flatText (pre ++ (ofBytes k, .str (ofChars s)) :: post) ++ 0 :: junk) k out
      = some (.ok (), overlay out (Utf8.encode s ++ [0])) := by
  have hout : out ≠ [] := by
    rintro rfl
    simp at hcap
  rw [sdJsonGetString_eq (by simp) hout, textField_ofChars hk hpre hs]
  simp only [written, if_true]
  rw [foldl_put_fits (by rw [flatten_utf8_ofChars]; simpa using hcap), flatten_utf8_ofChars,
    List.nil_append]

/-- The control messages whose content is a text, and the member it stands in. -/
def textMembers : List (String × String) :=
  [("ai_response", "text"), ("play_audio", "content"), ("error", "message")]

/-- The message of this type that says `s`. -/
def textMessage (type key : String) (s : PyStr) : Dict :=
  [(str "type", .str (str type)), (str key, .str s)]

lemma encodeControl_textMessage (py : Interpreter) {type key : String} (h : (type, key) ∈ textMembers) (s : PyStr) :
    encodeControl py (textMessage type key s)
      = .ok (flatText [(str key, .str s), (str "type", .str (str type))]) := by
  have hknown : ∀ m ∈ textMembers, str m.1 ∈ knownTypes := by decide
  have hrendered : rendered (.obj (textMessage type key s))
      = flatText [(str key, .str s), (str "type", .str (str type))] := by
    simp only [textMembers, List.mem_cons, Prod.mk.injEq, List.not_mem_nil, or_false] at h
    rcases h with ⟨rfl, rfl⟩ | ⟨rfl, rfl⟩ | ⟨rfl, rfl⟩ <;> rfl
  have hwritable : Writable py (textMessage type key s) :=
    .of_plain py rfl (hknown _ h) (by simp [textMessage, nesting])
  rw [hwritable.encodeControl, hrendered]

/-- **Text is read back across the two languages.**  For every string of Unicode scalar values without
U+0000, whatever the buffer held and whatever stands behind the message in memory, the member of a
message with a text is written as its UTF-8 encoding and a terminator, if the buffer has room. -/
theorem string_round_trip (py : Interpreter) (s : List Char) (hs : '\x00' ∉ s) (out : Bytes)
    (hcap : (Utf8.encode s).length < out.length) {type key : String} (hkey : (type, key) ∈ textMembers) :
    ∃ payload, encodeControl py (textMessage type key (ofChars s)) = .ok payload ∧
      ∀ junk, sdJsonGetString (payload ++ 0 :: junk) (ascii key) out
        = some (.ok (), overlay out (Utf8.encode s ++ [0])) := by
  have hword : ∀ m ∈ textMembers, Word (ascii m.2) := by decide
  have hfirst : ∀ m ∈ ([] : List (PyStr × JsonValue)), Passes (ascii key) m := by simp
  refine ⟨_, encodeControl_textMessage py hkey _, fun junk => ?_⟩
  exact sdJsonGetString_ofChars (hword _ hkey) hfirst hs _ junk hcap

/-- An accented letter, an escape and a character above U+FFFF into sixteen octets. -/
theorem string_round_trip_emoji :
    ∃ payload, encodeControl usualInterpreter (textMessage "ai_response" "text" (ofChars ['é', '\n', '😀'])) = .ok payload ∧
      ∀ junk, sdJsonGetString (payload ++ 0 :: junk) (ascii "text") (List.replicate 16 0xFF)
        = some (.ok (), overlay (List.replicate 16 0xFF) (Utf8.encode ['é', '\n', '😀'] ++ [0])) :=
  string_round_trip usualInterpreter ['é', '\n', '😀'] (by decide) (List.replicate 16 0xFF) (by decide) (by decide)

/-- An `error` with its code, as the phone sends it, is read back as well. -/
theorem error_round_trip (code : ℤ) {s : List Char} (hs : '\x00' ∉ s) {out : Bytes}
    (hcap : (Utf8.encode s).length < out.length) (junk : Bytes) :
    sdJsonGetString ((PhoneMsg.error code (ofChars s)).text ++ 0 :: junk) (ascii "message") out
      = some (.ok (), overlay out (Utf8.encode s ++ [0])) := by
  have hk : Word (ascii "message") := by decide
  have hpass : ∀ m ∈ [((str "code", .int code) : PyStr × JsonValue)], Passes (ascii "message") m := by
    refine List.forall_mem_singleton.mpr ⟨fun h => ?_, find_rendered_int code⟩
    exact absurd ((collides_word (w := ascii "code") (by decide)).mp h) (by decide)
  exact sdJsonGetString_ofChars hk hpass hs [(str "type", .str (str "error"))] junk hcap

end Sudonit
