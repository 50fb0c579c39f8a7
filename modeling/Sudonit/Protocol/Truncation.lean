import Sudonit.Protocol.RoundTrip

/-!
# Values that do not fit

`sd_json_get_string` writes character by character and passes over each that does not fit, while later
and shorter ones may still fit; and a character that stands in the text unescaped is copied octet by
octet, so it may be cut.

* `Writes` — what the function writes into a buffer of this size; `writes_iff` is the fold of `JsonC`.
* `CutsCleanly` — nothing that comes behind the first character that does not fit is written, and that
  one is not the inside of a character.
* `truncates_cleanly_iff` — what is written is the longest part of the whole value that fits, cut
  between two characters, exactly then.
-/

namespace Sudonit

open Octets CText Python Utf8

/-! ## What is written -/

/-- Whatever a buffer of this size held, the function returns `SD_OK` and writes these octets and a
terminator over its front. -/
def Writes (json key : Bytes) (cap : ℕ) (w : Bytes) : Prop :=
  ∀ out : Bytes, out.length = cap → sdJsonGetString json key out = some (.ok (), overlay out (w ++ [0]))

/-- The octets in front of the last zero are determined. -/
lemma append_zero_ones {a b : Bytes} {m n : ℕ}
    (h : a ++ 0 :: List.replicate m 1 = b ++ 0 :: List.replicate n 1) : a = b := by
  have same : ∀ {m n : ℕ} {t : Bytes}, 0 :: List.replicate m (1 : UInt8) = t ++ 0 :: List.replicate n 1 →
      t = [] := by
    intro m n t ht
    cases t with
    | nil => rfl
    | cons x t =>
        rw [List.cons_append, List.cons.injEq] at ht
        have hmem : (0 : UInt8) ∈ List.replicate m (1 : UInt8) := by rw [ht.2]; simp
        exact absurd (List.eq_of_mem_replicate hmem) (by decide)
  rcases List.append_eq_append_iff.mp h with ⟨t, rfl, ht⟩ | ⟨t, rfl, ht⟩
  · rw [same ht, List.append_nil]
  · rw [same ht, List.append_nil]

/-- **What is written are the characters that fitted.** -/
theorem writes_iff {json : Bytes} (hjson : 0 ∈ json) (key : Bytes) {cap : ℕ} (hcap : 0 < cap) (w : Bytes) :
    Writes json key cap w ↔
      ∃ c, textField json key = some c ∧ c.complete = true ∧ w = fitting cap c.chars := by
  have hne : ∀ {out : Bytes}, out.length = cap → out ≠ [] := by
    rintro out hout rfl
    simp at hout
    omega
  constructor
  · intro h
    have hlen : (List.replicate cap (1 : UInt8)).length = cap := List.length_replicate
    have hones := h _ hlen
    rw [sdJsonGetString_eq hjson (hne hlen)] at hones
    cases hfield : textField json key with
    | none => simp [hfield] at hones
    | some c =>
        rw [hfield] at hones
        cases hc : c.complete with
        | false => simp [written, hc] at hones
        | true =>
            refine ⟨c, rfl, hc, ?_⟩
            simp only [written, hc, if_true, hlen, Option.some.injEq, Prod.mk.injEq, true_and,
              overlay_terminated, List.drop_replicate] at hones
            exact (append_zero_ones hones).symm
  · rintro ⟨c, hfield, hc, rfl⟩ out hout
    rw [sdJsonGetString_eq hjson (hne hout), hfield]
    simp only [written, hc, if_true, hout, fitting]

/-! ## The characters -/

/-- `append_utf8` starts with a lead octet and goes on with continuation octets. -/
lemma led_utf8 (n : ℕ) : Led (utf8 n) := by
  have lead : ∀ a m, a % 256 = a → 0xC0 ≤ a → isContinuation (UInt8.ofNat (a ||| m)) = false := by
    intro a m ha hle
    have hbits : (a ||| m) % 2 ^ 8 = a ||| m % 2 ^ 8 := by
      rw [Nat.or_mod_two_pow, show a % 2 ^ 8 = a from ha]
    have := Nat.left_le_or (n := a) (m := m % 2 ^ 8)
    rw [Bool.eq_false_iff, ne_eq, isContinuation_iff, UInt8.toNat_ofNat', hbits]
    omega
  have tail : ∀ m, isContinuation (UInt8.ofNat (0x80 ||| m &&& 0x3F)) := by
    intro m
    rw [isContinuation_iff, tailBits_eq, UInt8.toNat_ofNat']
    omega
  rw [utf8]
  split_ifs with h₁ h₂ h₃
  · refine ⟨_, _, rfl, ?_, by simp⟩
    rw [Bool.eq_false_iff, ne_eq, isContinuation_iff, UInt8.toNat_ofNat']
    omega
  · exact ⟨_, _, rfl, lead _ _ rfl (by decide), List.forall_mem_singleton.mpr (tail _)⟩
  · exact ⟨_, _, rfl, lead _ _ rfl (by decide), List.forall_mem_cons.mpr ⟨tail _, List.forall_mem_singleton.mpr (tail _)⟩⟩
  · exact ⟨_, _, rfl, lead _ _ rfl (by decide), List.forall_mem_cons.mpr ⟨tail _, List.forall_mem_cons.mpr
      ⟨tail _, List.forall_mem_singleton.mpr (tail _)⟩⟩⟩

/-- A character of a value: an octet of the text, or what `append_utf8` writes. -/
def Character (d : Bytes) : Prop := (∃ b, d = [b]) ∨ Led d

lemma readItem_character {p octets rest : Bytes} (h : readItem p = some (.char octets rest)) : Character octets := by
  match p with
  | [] => simp [readItem] at h
  | c :: p =>
      rw [readItem.eq_def] at h
      simp only at h
      split_ifs at h
      · simp at h
      · split at h
        · simp at h
        · split at h
          · simp only [Option.some.injEq, Item.char.injEq] at h
            exact Or.inl ⟨_, h.1.symm⟩
          · split_ifs at h
            · split at h
              · simp at h
              · simp at h
              · obtain ⟨⟨u, p'⟩, -, heq⟩ := Option.map_eq_some_iff.mp h
                simp only [Item.char.injEq] at heq
                rw [← heq.1]
                exact Or.inr (led_utf8 u)
            · simp at h
      · simp only [Option.some.injEq, Item.char.injEq] at h
        exact Or.inl ⟨_, h.1.symm⟩

lemma contents_characters {p : Bytes} {c : Contents} (h : contents p = some c) : ∀ d ∈ c.chars, Character d := by
  induction hn : p.length using Nat.strongRecOn generalizing p c with
  | ind n ih =>
      cases hitem : readItem p with
      | none =>
          rw [contents] at h
          split at h <;> simp_all
      | some item =>
          cases item with
          | done =>
              rw [contents_done hitem, Option.some.injEq] at h
              rw [← h]
              simp
          | malformed =>
              rw [contents_malformed hitem, Option.some.injEq] at h
              rw [← h]
              simp
          | char octets rest =>
              rw [contents_char hitem, Option.map_eq_some_iff] at h
              obtain ⟨c', hc', rfl⟩ := h
              exact List.forall_mem_cons.mpr
                ⟨readItem_character hitem, ih _ (hn ▸ readItem_length hitem) hc' rfl⟩

lemma textField_characters {json key : Bytes} {c : Contents} (h : textField json key = some c) :
    ∀ d ∈ c.chars, Character d := by
  rw [textField] at h
  split at h
  · split_ifs at h
    exact contents_characters h
  · simp at h

/-! ## Where the value is cut -/

/-- The first character that does not fit does not start with a continuation octet, and none of those
behind it fits in its place. -/
def CutsCleanly (cap : ℕ) (chars : List Bytes) : Prop :=
  ∀ pre d post, chars = pre ++ d :: post → pre.flatten.length < cap → cap ≤ pre.flatten.length + d.length →
    isContinuation (d.headD 0) = false ∧ ∀ e ∈ post, cap ≤ pre.flatten.length + e.length

lemma Character.length_pos {d : Bytes} (h : Character d) : 0 < d.length := by
  rcases h with ⟨b, rfl⟩ | ⟨lead, tail, rfl, -⟩ <;> simp

/-- A value that does not fit has a first character that does not fit. -/
lemma exists_first {cap : ℕ} (chars : List Bytes) (n : ℕ) (hn : n < cap)
    (hlong : cap ≤ n + chars.flatten.length) : ∃ pre d post, chars = pre ++ d :: post ∧
      n + pre.flatten.length < cap ∧ cap ≤ n + pre.flatten.length + d.length := by
  induction chars generalizing n with
  | nil =>
      simp at hlong
      omega
  | cons d chars ih =>
      rcases Nat.lt_or_ge (n + d.length) cap with hfits | hover
      · rw [List.flatten_cons, List.length_append] at hlong
        obtain ⟨pre, e, post, rfl, hpre, hover⟩ := ih (n + d.length) hfits (by omega)
        refine ⟨d :: pre, e, post, rfl, ?_, ?_⟩ <;>
          rw [List.flatten_cons, List.length_append] <;> omega
      · exact ⟨[], d, chars, rfl, by simpa using hn, by simpa using hover⟩

/-- The characters in front of it are written, and it is passed over. -/
lemma fitting_first {cap : ℕ} {pre post : List Bytes} {d : Bytes} (hpre : pre.flatten.length < cap)
    (hover : cap ≤ pre.flatten.length + d.length) :
    fitting cap (pre ++ d :: post) = post.foldl (put cap) pre.flatten := by
  have hfits : ([] : Bytes).length + pre.flatten.length < cap := by rwa [List.length_nil, Nat.zero_add]
  rw [fitting, List.foldl_append, foldl_put_fits hfits, List.nil_append, List.foldl_cons, put,
    if_neg (by omega)]

lemma foldl_put_none {cap : ℕ} {acc : Bytes} {chars : List Bytes}
    (h : ∀ e ∈ chars, cap ≤ acc.length + e.length) : chars.foldl (put cap) acc = acc := by
  induction chars with
  | nil => rfl
  | cons e chars ih =>
      rw [List.foldl_cons, put, if_neg (Nat.not_lt.mpr (h e List.mem_cons_self))]
      exact ih fun x hx => h x (List.mem_cons_of_mem _ hx)

lemma length_le_foldl_put (cap : ℕ) (chars : List Bytes) (acc : Bytes) :
    acc.length ≤ (chars.foldl (put cap) acc).length := by
  induction chars generalizing acc with
  | nil => rfl
  | cons e chars ih =>
      refine le_trans ?_ (ih (put cap acc e))
      rw [put]
      split_ifs <;> simp

/-- A character that still fits is written, or one in front of it. -/
lemma length_lt_foldl_put {cap : ℕ} {acc e : Bytes} {chars : List Bytes}
    (hchars : ∀ d ∈ chars, Character d) (he : e ∈ chars) (hfits : acc.length + e.length < cap) :
    acc.length < (chars.foldl (put cap) acc).length := by
  induction chars with
  | nil => simp at he
  | cons d chars ih =>
      obtain ⟨hd, hrest⟩ := List.forall_mem_cons.mp hchars
      rw [List.foldl_cons, put]
      by_cases hput : acc.length + d.length < cap
      · rw [if_pos hput]
        have := length_le_foldl_put cap chars (acc ++ d)
        have := hd.length_pos
        rw [List.length_append] at *
        omega
      · rw [if_neg hput]
        rcases List.mem_cons.mp he with rfl | he
        · exact absurd hfits hput
        · exact ih hrest he

/-- Whole characters that fit end in front of the first character that does not. -/
lemma whole_before_first {pre post : List Bytes} {d v : Bytes} {cap : ℕ} (hd : Character d)
    (hvalid : Valid (pre ++ d :: post).flatten) (hover : cap ≤ pre.flatten.length + d.length)
    (hfront : v <+: (pre ++ d :: post).flatten) (hwhole : Valid v) (hfits : v.length < cap) :
    v.length ≤ pre.flatten.length := by
  obtain ⟨s, hs⟩ := hvalid
  by_contra hlong
  rcases hd with ⟨b, rfl⟩ | hled
  · rw [List.length_singleton] at hover
    omega
  · have hsplit : encode s = pre.flatten ++ d ++ post.flatten := by
      rw [← hs, List.flatten_append, List.flatten_cons, List.append_assoc]
    exact not_valid_inside hsplit hled (hs ▸ hfront) (by omega) (by omega) hwhole

/-- In front of a character there are whole ones exactly if it does not start with a continuation
octet. -/
lemma valid_before_iff {pre post : List Bytes} {d : Bytes} (hd : Character d)
    (hvalid : Valid (pre ++ d :: post).flatten) :
    Valid pre.flatten ↔ isContinuation (d.headD 0) = false := by
  obtain ⟨s, hs⟩ := hvalid
  obtain ⟨x, r, rfl⟩ := List.exists_cons_of_length_pos hd.length_pos
  have hsplit : encode s = pre.flatten ++ (x :: (r ++ post.flatten)) := by
    rw [← hs, List.flatten_append, List.flatten_cons, List.cons_append]
  rw [valid_prefix_iff hsplit, List.headD_cons]
  constructor
  · exact fun h => h x _ rfl
  · rintro hx y t heq
    rw [← (List.cons.inj heq).1]
    exact hx

/-- What fitted of a value is its longest part of whole characters exactly if the cut is clean. -/
theorem isTruncation_fitting_iff {chars : List Bytes} (hchars : ∀ d ∈ chars, Character d)
    (hvalid : Valid chars.flatten) {cap : ℕ} (hcap : 1 ≤ cap) :
    IsTruncation (cap - 1) chars.flatten (fitting cap chars) ↔ CutsCleanly cap chars := by
  constructor
  · rintro h pre d post rfl hpre hover
    have hd : Character d := hchars d (by simp)
    have hpost : ∀ e ∈ post, Character e := fun e he => hchars e (by simp [he])
    rw [fitting_first hpre hover] at h
    have hshort := whole_before_first hd hvalid hover h.front h.whole (by have := h.fits; omega)
    have hnone : ∀ e ∈ post, cap ≤ pre.flatten.length + e.length := by
      intro e he
      by_contra hfits
      have := length_lt_foldl_put hpost he (Nat.not_le.mp hfits)
      omega
    rw [foldl_put_none hnone] at h
    exact ⟨(valid_before_iff hd hvalid).mp h.whole, hnone⟩
  · intro h
    rcases Nat.lt_or_ge chars.flatten.length cap with hfits | hlong
    · rw [fitting, foldl_put_fits (by rwa [List.length_nil, Nat.zero_add]), List.nil_append]
      exact isTruncation_self hvalid (by omega)
    · obtain ⟨pre, d, post, rfl, hpre, hover⟩ := exists_first chars 0 (show 0 < cap by omega) (by omega)
      rw [Nat.zero_add] at hpre hover
      have hd : Character d := hchars d (by simp)
      obtain ⟨hhead, hnone⟩ := h pre d post rfl hpre hover
      rw [fitting_first hpre hover, foldl_put_none hnone]
      refine ⟨?_, (valid_before_iff hd hvalid).mpr hhead, by omega, ?_⟩
      · rw [List.flatten_append]
        exact List.prefix_append _ _
      · exact fun v hfront hwhole hfits => whole_before_first hd hvalid hover hfront hwhole (by omega)

/-- **When a value is truncated cleanly.**  Whenever the function returns `SD_OK` there is a whole value,
which it writes into every buffer that is large enough.  If that is UTF-8, what it writes into a buffer
of any size is the longest part of the value that fits, cut between two characters, exactly if of the
characters from the first that does not fit on none fits in its place and that one is not the inside of
a character. -/
theorem truncates_cleanly_iff {json key out out' : Bytes} (hjson : 0 ∈ json) (hcap : 1 ≤ out.length)
    (hok : sdJsonGetString json key out = some (.ok (), out')) :
    ∃ full, (∀ cap, full.length < cap → Writes json key cap full) ∧
      (Valid full → ((∃ w, Writes json key out.length w ∧ IsTruncation (out.length - 1) full w) ↔
        ∀ value, textField json key = some value → CutsCleanly out.length value.chars)) := by
  have hout : out ≠ [] := by
    rintro rfl
    simp at hcap
  rw [sdJsonGetString_eq hjson hout] at hok
  cases hfield : textField json key with
  | none => simp [hfield] at hok
  | some value =>
      have hcomplete : value.complete = true := by
        by_contra hcut
        simp [hfield, written, hcut] at hok
      have hwrites : ∀ {cap}, 0 < cap → ∀ w, Writes json key cap w ↔ w = fitting cap value.chars := by
        intro cap hpos w
        rw [writes_iff hjson key hpos, hfield]
        constructor
        · rintro ⟨c, hc, -, hw⟩
          rwa [Option.some.inj hc]
        · exact fun hw => ⟨value, rfl, hcomplete, hw⟩
      refine ⟨value.chars.flatten, fun cap hlarge => ?_, fun hvalid => ?_⟩
      · rw [hwrites (by omega), fitting, foldl_put_fits (by rwa [List.length_nil, Nat.zero_add]),
          List.nil_append]
      · simp only [hwrites hcap, exists_eq_left, Option.some.injEq, forall_eq']
        exact isTruncation_fitting_iff (textField_characters hfield) hvalid hcap

/-- What is written is determined. -/
lemma Writes.unique {json key : Bytes} {cap : ℕ} {w w' : Bytes} (hjson : 0 ∈ json) (hpos : 0 < cap)
    (h : Writes json key cap w) (h' : Writes json key cap w') : w = w' := by
  obtain ⟨value, hfield, -, rfl⟩ := (writes_iff hjson key hpos w).mp h
  obtain ⟨value', hfield', -, rfl⟩ := (writes_iff hjson key hpos w').mp h'
  rw [Option.some.inj (hfield.symm.trans hfield')]

/-- An answer whose second character takes two octets. -/
def heyText : Bytes := (PhoneMsg.aiResponse (ofChars ['h', 'é', 'y'])).text ++ [0]

lemma textField_heyText : textField heyText (ascii "text") = some ⟨[[0x68], [0xC3, 0xA9], [0x79]], true⟩ := by
  have hfirst : ∀ m ∈ ([] : List (PyStr × JsonValue)), Passes (ascii "text") m := by simp
  exact textField_ofChars (by decide) hfirst (by decide) _ []

lemma sdJsonGetString_heyText {out : Bytes} (hout : out ≠ []) :
    ∃ w, sdJsonGetString heyText (ascii "text") out = some (.ok (), w) := by
  rw [sdJsonGetString_eq (by simp [heyText]) hout, textField_heyText]
  exact ⟨_, rfl⟩

/-- The value of that answer. -/
lemma writes_heyText {full : Bytes} (h : ∀ cap, full.length < cap → Writes heyText (ascii "text") cap full) :
    full = encode ['h', 'é', 'y'] := by
  have hfirst : ∀ m ∈ ([] : List (PyStr × JsonValue)), Passes (ascii "text") m := by simp
  have hwhole : Writes heyText (ascii "text") (full.length + 5) (encode ['h', 'é', 'y']) := by
    intro out hout
    have hfits : (encode ['h', 'é', 'y']).length < out.length := by
      have hfour : (encode ['h', 'é', 'y']).length = 4 := by decide
      omega
    exact sdJsonGetString_ofChars (by decide) hfirst (by decide) _ [] hfits
  exact (h _ (by omega)).unique (by simp [heyText]) (by omega) hwhole

lemma cutsCleanly_heyText : CutsCleanly 4 [[0x68], [0xC3, 0xA9], [0x79]] := by
  intro pre d post hsplit hpre hover
  match pre, hsplit with
  | [], hsplit =>
      obtain ⟨rfl, -⟩ := List.cons.inj hsplit
      simp at hover
  | [a], hsplit =>
      simp only [List.cons_append, List.nil_append, List.cons.injEq] at hsplit
      obtain ⟨rfl, rfl, -⟩ := hsplit
      simp at hover
  | [a, b], hsplit =>
      simp only [List.cons_append, List.nil_append, List.cons.injEq] at hsplit
      obtain ⟨-, -, rfl, rfl⟩ := hsplit
      exact ⟨by decide, by simp⟩
  | a :: b :: c :: more, hsplit => simp at hsplit

lemma not_cutsCleanly_heyText : ¬ CutsCleanly 3 [[0x68], [0xC3, 0xA9], [0x79]] := by
  intro h
  have hlast := (h [[0x68]] [0xC3, 0xA9] [[0x79]] rfl (by decide) (by decide)).2 [0x79] (by simp)
  simp at hlast

/-- Into four octets it is cut behind its second character; into three the second is left out and the third is
not. -/
theorem truncates_cleanly_iff_hey :
    (∃ w, Writes heyText (ascii "text") 4 w ∧ IsTruncation 3 (encode ['h', 'é', 'y']) w) ∧
      ¬ ∃ w, Writes heyText (ascii "text") 3 w ∧ IsTruncation 2 (encode ['h', 'é', 'y']) w := by
  have hjson : 0 ∈ heyText := by simp [heyText]
  have hvalid : Valid (encode ['h', 'é', 'y']) := ⟨_, rfl⟩
  constructor
  · obtain ⟨out, hok⟩ := sdJsonGetString_heyText (show [1, 1, 1, 1] ≠ [] by simp)
    obtain ⟨full, hfull, hiff⟩ := truncates_cleanly_iff hjson (by simp) hok
    obtain rfl := writes_heyText hfull
    refine (hiff hvalid).mpr fun value hvalue => ?_
    rw [← Option.some.inj (textField_heyText.symm.trans hvalue)]
    exact cutsCleanly_heyText
  · obtain ⟨out, hok⟩ := sdJsonGetString_heyText (show [1, 1, 1] ≠ [] by simp)
    obtain ⟨full, hfull, hiff⟩ := truncates_cleanly_iff hjson (by simp) hok
    obtain rfl := writes_heyText hfull
    exact fun h => not_cutsCleanly_heyText ((hiff hvalid).mp h _ textField_heyText)

/-- An answer whose first character that does not fit the device's buffer takes two octets, with a
shorter one behind it. -/
def droppedAnswer : List Char := List.replicate 1022 'a' ++ ['é', 'b']

lemma encode_letters (n : ℕ) : encode (List.replicate n 'a') = List.replicate n 97 := by
  induction n with
  | zero => rfl
  | succ n ih =>
      rw [List.replicate_succ, encode_cons, ih]
      rfl

/-- **The device drops a character from the middle of an answer**: the accent goes, and the letter
behind it stays. -/
theorem truncation_drops_middle :
    (∀ cap, (encode droppedAnswer).length < cap →
      Writes ((PhoneMsg.aiResponse (ofChars droppedAnswer)).text ++ [0]) (ascii "text") cap
        (encode droppedAnswer)) ∧
      Writes ((PhoneMsg.aiResponse (ofChars droppedAnswer)).text ++ [0]) (ascii "text") 1024
        (encode (List.replicate 1022 'a' ++ ['b'])) ∧
      ¬ IsTruncation 1023 (encode droppedAnswer) (encode (List.replicate 1022 'a' ++ ['b'])) := by
  have hk : Word (ascii "text") := by decide
  have hnul : '\x00' ∉ droppedAnswer := by
    rw [droppedAnswer, List.mem_append, List.mem_replicate]
    decide
  have hfirst : ∀ m ∈ ([] : List (PyStr × JsonValue)), Passes (ascii "text") m := by simp
  refine ⟨fun cap hlarge out hout => ?_, ?_, ?_⟩
  · exact sdJsonGetString_ofChars hk hfirst hnul _ [] (hout ▸ hlarge)
  · rw [writes_iff (by simp) _ (by decide)]
    refine ⟨_, textField_ofChars hk hfirst hnul _ [], rfl, ?_⟩
    have hchars : ((ofChars droppedAnswer).map fun c => utf8 c.val)
        = ((ofChars (List.replicate 1022 'a')).map fun c => utf8 c.val) ++ [0xC3, 0xA9] :: [[98]] := by
      rw [droppedAnswer, ofChars, List.map_append, List.map_append]
      rfl
    have hletters : ((ofChars (List.replicate 1022 'a')).map fun c => utf8 c.val).flatten
        = List.replicate 1022 97 := by rw [flatten_utf8_ofChars, encode_letters]
    rw [hchars, fitting_first (by rw [hletters, List.length_replicate]; decide)
      (by rw [hletters, List.length_replicate]; decide), hletters, encode_append, encode_letters,
      List.foldl_cons, List.foldl_nil, put, List.length_replicate, if_pos (by decide)]
    rfl
  · intro h
    have hfront := h.front
    rw [droppedAnswer, encode_append, encode_append, List.prefix_append_right_inj] at hfront
    exact absurd hfront (by decide)

end Sudonit
