import Sudonit.Core.CText
import Sudonit.Protocol.Errors

/-!
# `json.c`: reading one field of a control message

`sd_json_get_string` and `sd_json_get_uint` as they walk the memory of a message, with `none` for an
access outside an object.  What a string value says is kept apart from what is written: `readItem`
reads one character of the value, `append` writes it if it fits, and `copyString` is the loop.

* `readItem_terminated`, `locate_terminated` — on terminated memory no read runs past the terminator.
* `Contents` — a string value as the sequence of its characters, each the octets it is written as, and
  whether the value ended or was cut by a malformed escape.
* `copyString_eq` — the loop is a fold of `put` over these characters, so the buffer holds the
  characters that fitted, then a terminator, unless the value was cut: then there is none.
* `sdJsonGetString_eq` — the function as a whole.
-/

namespace Sudonit

open Octets CText

/-! ## Reading -/

/-- `'"'`. -/
def quote : UInt8 := oct '"'

/-- `'\\'`. -/
def backslash : UInt8 := oct '\\'

/-- The digit `hex4` accepts, either case. -/
def hexValue (c : UInt8) : Option ℕ :=
  if oct '0' ≤ c ∧ c ≤ oct '9' then some (c.toNat - 48)
  else if oct 'a' ≤ c ∧ c ≤ oct 'f' then some (c.toNat - 97 + 10)
  else if oct 'A' ≤ c ∧ c ≤ oct 'F' then some (c.toNat - 65 + 10)
  else none

/-- The loop of `hex4`: so many digits still to read, `v` so far.  `some none` is the return of
`-1`. -/
def hexRun : ℕ → ℕ → Bytes → Option (Option ℕ)
  | 0, v, _ => some (some v)
  | _ + 1, _, [] => none
  | n + 1, v, c :: p =>
      match hexValue c with
      | none => some none
      | some d => hexRun n (v <<< 4 ||| d) p

/-- `hex4`. -/
def hex4 (p : Bytes) : Option (Option ℕ) := hexRun 4 0 p

/-- The character a one-letter escape stands for. -/
def unescape (c : UInt8) : Option UInt8 :=
  if c = quote then some quote
  else if c = backslash then some backslash
  else if c = oct '/' then some (oct '/')
  else if c = oct 'b' then some 8
  else if c = oct 'f' then some 12
  else if c = oct 'n' then some 10
  else if c = oct 'r' then some 13
  else if c = oct 't' then some 9
  else none

/-- A code point in UTF-8, as `append_utf8` writes it.  Surrogates are not refused. -/
def utf8 (c : ℕ) : Bytes :=
  if c < 0x80 then [UInt8.ofNat c]
  else if c < 0x800 then [UInt8.ofNat (0xC0 ||| c >>> 6), UInt8.ofNat (0x80 ||| c &&& 0x3F)]
  else if c < 0x10000 then
    [UInt8.ofNat (0xE0 ||| c >>> 12), UInt8.ofNat (0x80 ||| c >>> 6 &&& 0x3F),
      UInt8.ofNat (0x80 ||| c &&& 0x3F)]
  else
    [UInt8.ofNat (0xF0 ||| c >>> 18), UInt8.ofNat (0x80 ||| c >>> 12 &&& 0x3F),
      UInt8.ofNat (0x80 ||| c >>> 6 &&& 0x3F), UInt8.ofNat (0x80 ||| c &&& 0x3F)]

/-- After `\uXXXX` with code unit `c`: if it is a high surrogate and a low one is escaped right after
it, the two together.  `p` points behind the digits. -/
def joinLow (c : ℕ) (p : Bytes) : Option (ℕ × Bytes) :=
  if 0xD800 ≤ c ∧ c ≤ 0xDBFF then
    match p with
    | [] => none
    | b :: p' =>
        if b = backslash then
          match p' with
          | [] => none
          | u :: digits =>
              if u = oct 'u' then
                match hex4 digits with
                | none => none
                | some none => some (c, p)
                | some (some lo) =>
                    if 0xDC00 ≤ lo ∧ lo ≤ 0xDFFF then
                      some (0x10000 + ((c - 0xD800) <<< 10) + (lo - 0xDC00), digits.drop 4)
                    else some (c, p)
              else some (c, p)
        else some (c, p)
  else some (c, p)

/-- What the loop of `sd_json_get_string` finds at its pointer. -/
inductive Item
  /-- the closing quote, or the end of the text -/
  | done
  /-- an escape it does not know, or `\u` without four digits -/
  | malformed
  /-- a character, the octets it is written as, and the pointer behind it -/
  | char (octets : Bytes) (rest : Bytes)

/-- Read one character of a string value. -/
def readItem : Bytes → Option Item
  | [] => none
  | c :: p =>
      if c = 0 ∨ c = quote then some .done
      else if c = backslash then
        match p with
        | [] => none
        | e :: p =>
            match unescape e with
            | some x => some (.char [x] p)
            | none =>
                if e = oct 'u' then
                  match hex4 p with
                  | none => none
                  | some none => some .malformed
                  | some (some u) => (joinLow u (p.drop 4)).map fun (u, p) => .char (utf8 u) p
                else some .malformed
      else some (.char [c] p)

lemma joinLow_length {c c' : ℕ} {p p' : Bytes} (h : joinLow c p = some (c', p')) :
    p'.length ≤ p.length := by
  have same : ∀ {x}, some (x, p) = some (c', p') → p'.length ≤ p.length := by
    intro x h
    simp only [Option.some.injEq, Prod.mk.injEq] at h
    rw [← h.2]
  unfold joinLow at h
  split_ifs at h
  · split at h
    · simp at h
    rename_i b p₁
    split_ifs at h
    · split at h
      · simp at h
      rename_i u digits
      split_ifs at h
      · split at h
        · simp at h
        · exact same h
        · split_ifs at h
          · simp only [Option.some.injEq, Prod.mk.injEq] at h
            rw [← h.2, List.length_drop]
            simp only [List.length_cons]
            omega
          · exact same h
      · exact same h
    · exact same h
  · exact same h

/-- A character takes up some of the text. -/
lemma readItem_length {p rest octets : Bytes} (h : readItem p = some (.char octets rest)) :
    rest.length < p.length := by
  match p with
  | [] => simp [readItem] at h
  | c :: p =>
      rw [readItem.eq_def] at h
      simp only at h
      split_ifs at h
      · simp at h
      · split at h
        · simp at h
        · rename_i e p
          simp only [List.length_cons]
          split at h
          · simp only [Option.some.injEq, Item.char.injEq] at h
            rw [← h.2]
            omega
          · split_ifs at h
            · split at h
              · simp at h
              · simp at h
              · obtain ⟨⟨u, p'⟩, hjoin, heq⟩ := Option.map_eq_some_iff.mp h
                have := joinLow_length hjoin
                rw [List.length_drop] at this
                simp only [Item.char.injEq] at heq
                rw [← heq.2]
                omega
            · simp at h
      · simp only [Option.some.injEq, Item.char.injEq] at h
        rw [← h.2]
        simp

/-! ## Writing -/

/-- `append_utf8`, and the plain copy of an octet: write the octets of one character at `pos` if they
fit with a terminator after them. -/
def append (out : Bytes) (pos : ℕ) (octets : Bytes) : Option (Bytes × ℕ) :=
  if pos + octets.length < out.length then
    (store out pos octets).map fun out => (out, pos + octets.length)
  else some (out, pos)

/-- The loop of `sd_json_get_string`, from the character behind the opening quote. -/
def copyString (p out : Bytes) (pos : ℕ) : Option (Except SdErr Unit × Bytes) :=
  match _h : readItem p with
  | none => none
  | some .done =>
      (store out (if pos < out.length then pos else out.length - 1) [0]).map fun out => (.ok (), out)
  | some .malformed => some (.error .invalid, out)
  | some (.char octets rest) =>
      match append out pos octets with
      | none => none
      | some (out, pos) => copyString rest out pos
termination_by p.length
decreasing_by exact readItem_length _h

lemma copyString_done {p out : Bytes} (h : readItem p = some .done) (pos : ℕ) :
    copyString p out pos
      = (store out (if pos < out.length then pos else out.length - 1) [0]).map fun out => (.ok (), out) := by
  rw [copyString]
  split <;> simp_all

lemma copyString_malformed {p out : Bytes} (h : readItem p = some .malformed) (pos : ℕ) :
    copyString p out pos = some (.error .invalid, out) := by
  rw [copyString]
  split <;> simp_all

lemma copyString_char {p out octets rest : Bytes} (h : readItem p = some (.char octets rest)) (pos : ℕ) :
    copyString p out pos = match append out pos octets with
      | none => none
      | some (out, pos) => copyString rest out pos := by
  rw [copyString]
  split
  · simp_all
  · simp_all
  · simp_all
  · rename_i octets' rest' hi
    rw [h, Option.some.injEq, Item.char.injEq] at hi
    obtain ⟨rfl, rfl⟩ := hi
    rfl

/-! ## The functions -/

/-- `" "` and `"\t"`, the blanks skipped around the colon. -/
def isGap (c : UInt8) : Bool := c = oct ' ' || c = oct '\t'

/-- `while (*p == ' ' || *p == '\t') ++p;` -/
def skipGap : Bytes → Option Bytes
  | [] => none
  | c :: p => if isGap c then skipGap p else some (c :: p)

/-- The needle a key is looked up with, quotes included. -/
def needle (key : Bytes) : Bytes := quote :: key ++ [quote]

/-- The pointer behind a colon and the gaps around it. -/
def behindColon (p : Bytes) : Option (Option Bytes) :=
  match skipGap p with
  | none => none
  | some [] => none
  | some (c :: p) => if c = oct ':' then (skipGap p).map some else some none

/-- The pointer to the value of `key`: behind the first occurrence of the quoted key, a colon and the
gaps around it.  `some none` is the return of `SD_ERR_INVALID`. -/
def locate (json key : Bytes) : Option (Option Bytes) :=
  if 64 ≤ (needle key).length then some none
  else
    match strstr json (needle key) with
    | none => none
    | some none => some none
    | some (some p) => behindColon (p.drop (needle key).length)

/-- `sd_json_get_string` into `out`, all of it. -/
def sdJsonGetString (json key out : Bytes) : Option (Except SdErr Unit × Bytes) :=
  if out.length = 0 then some (.error .invalid, out)
  else
    match locate json key with
    | none => none
    | some none => some (.error .invalid, out)
    | some (some []) => none
    | some (some (c :: p)) =>
        if c = quote then copyString p out 0 else some (.error .invalid, out)

/-- The digit loop of `sd_json_get_uint`: `uint32_t` arithmetic. -/
def digitLoop : Bytes → ℕ → Option ℕ
  | [], _ => none
  | c :: p, v => if isDigit c then digitLoop p ((v * 10 + (c.toNat - 48)) % 2 ^ 32) else some v

/-- `sd_json_get_uint`. -/
def sdJsonGetUint (json key : Bytes) : Option (Except SdErr ℕ) :=
  match locate json key with
  | none => none
  | some none => some (.error .invalid)
  | some (some []) => none
  | some (some (c :: p)) =>
      if isDigit c then (digitLoop (c :: p) 0).map .ok else some (.error .invalid)

/-! ## Reading stays in front of the terminator -/

/-- A character of terminated memory leaves terminated memory. -/
lemma mem_zero_tail {p : Bytes} (h : 0 ∈ p) {c : UInt8} {q : Bytes} (hp : p = c :: q)
    (hc : c ≠ 0) : 0 ∈ q := by
  subst hp
  exact (List.mem_cons.mp h).resolve_left (Ne.symm hc)

lemma hexValue_zero : hexValue 0 = none := rfl

/-- Digits are read up to the terminator at most, and what follows four of them is terminated. -/
lemma hexRun_terminated {p : Bytes} (h : 0 ∈ p) (n v : ℕ) :
    ∃ r, hexRun n v p = some r ∧ (r.isSome → 0 ∈ p.drop n) := by
  induction n generalizing p v with
  | zero => exact ⟨some v, rfl, fun _ => by simpa using h⟩
  | succ n ih =>
      cases p with
      | nil => simp at h
      | cons c p =>
          rw [hexRun]
          cases hc : hexValue c with
          | none => exact ⟨none, rfl, by simp⟩
          | some d =>
              have hne : c ≠ 0 := by
                rintro rfl
                rw [hexValue_zero] at hc
                simp at hc
              exact ih (mem_zero_tail h rfl hne) _

lemma joinLow_terminated {p : Bytes} (h : 0 ∈ p) (c : ℕ) :
    ∃ c' p', joinLow c p = some (c', p') ∧ 0 ∈ p' := by
  unfold joinLow
  split_ifs
  · cases p with
    | nil => simp at h
    | cons b p =>
        simp only
        split_ifs with hb
        · have h₁ : 0 ∈ p := mem_zero_tail h rfl (by rw [hb]; decide)
          cases p with
          | nil => simp at h₁
          | cons u digits =>
              simp only
              split_ifs with hu
              · have h₂ : 0 ∈ digits := mem_zero_tail h₁ rfl (by rw [hu]; decide)
                obtain ⟨r, hr, hdrop⟩ := hexRun_terminated h₂ 4 0
                rw [hex4, hr]
                cases r with
                | none => exact ⟨c, _, rfl, h⟩
                | some lo =>
                    simp only
                    split_ifs
                    · exact ⟨_, _, rfl, hdrop rfl⟩
                    · exact ⟨c, _, rfl, h⟩
              · exact ⟨c, _, rfl, h⟩
        · exact ⟨c, _, rfl, h⟩
  · exact ⟨c, p, rfl, h⟩

/-- **One character is read without leaving terminated memory.** -/
theorem readItem_terminated {p : Bytes} (h : 0 ∈ p) :
    ∃ i, readItem p = some i ∧ ∀ octets rest, i = .char octets rest → 0 ∈ rest := by
  cases p with
  | nil => simp at h
  | cons c p =>
      rw [readItem.eq_def]
      simp only
      split_ifs with hend hesc
      · exact ⟨_, rfl, by simp⟩
      · have h₁ : 0 ∈ p := mem_zero_tail h rfl (by rw [hesc]; decide)
        cases p with
        | nil => simp at h₁
        | cons e p =>
            simp only
            have hp : e ≠ 0 → 0 ∈ p := mem_zero_tail h₁ rfl
            cases he : unescape e with
            | some x =>
                have hne : e ≠ 0 := by
                  rintro rfl
                  rw [show unescape 0 = none from rfl] at he
                  simp at he
                exact ⟨_, rfl, fun _ _ heq => (Item.char.inj heq).2 ▸ hp hne⟩
            | none =>
                simp only
                split_ifs with hu
                · obtain ⟨r, hr, hdrop⟩ := hexRun_terminated (hp (by rw [hu]; decide)) 4 0
                  rw [hex4, hr]
                  cases r with
                  | none => exact ⟨_, rfl, by simp⟩
                  | some u =>
                      obtain ⟨u', p', hjoin, hp'⟩ := joinLow_terminated (hdrop rfl) u
                      simp only [hjoin, Option.map_some]
                      exact ⟨_, rfl, fun _ _ heq => (Item.char.inj heq).2 ▸ hp'⟩
                · exact ⟨_, rfl, by simp⟩
      · have hne : c ≠ 0 := fun h0 => hend (Or.inl h0)
        exact ⟨_, rfl, fun _ _ heq => (Item.char.inj heq).2 ▸ mem_zero_tail h rfl hne⟩

lemma skipGap_terminated {p : Bytes} (h : 0 ∈ p) : ∃ c q, skipGap p = some (c :: q) ∧ 0 ∈ c :: q := by
  induction p with
  | nil => simp at h
  | cons c p ih =>
      rw [skipGap]
      split_ifs with hgap
      · exact ih (mem_zero_tail h rfl (by rintro rfl; exact absurd hgap (by decide)))
      · exact ⟨c, p, rfl, h⟩

/-- **Looking up a key stays in front of the terminator**, and so does the pointer it returns. -/
theorem locate_terminated {json : Bytes} (h : 0 ∈ json) (key : Bytes) :
    ∃ r, locate json key = some r ∧ ∀ p, r = some p → ∃ c q, p = c :: q ∧ 0 ∈ p := by
  rw [locate]
  split_ifs
  · exact ⟨none, rfl, by simp⟩
  · obtain ⟨t, junk, ht, rfl⟩ := exists_cstring h
    rw [strstr_append ht]
    cases hfind : find (needle key) t with
    | none => exact ⟨none, rfl, by simp⟩
    | some r =>
        obtain ⟨⟨rest, rfl⟩, -⟩ := find_some hfind
        simp only [Option.map_some, List.append_assoc, List.drop_left]
        obtain ⟨c, q, hgap, hmem⟩ := skipGap_terminated (p := rest ++ 0 :: junk) (by simp)
        rw [behindColon, hgap]
        simp only
        split_ifs with hcolon
        · obtain ⟨c', q', hgap', hmem'⟩ :=
            skipGap_terminated (mem_zero_tail hmem rfl (by rw [hcolon]; decide))
          refine ⟨some (c' :: q'), by rw [hgap', Option.map_some], ?_⟩
          rintro p ⟨⟩
          exact ⟨c', q', rfl, hmem'⟩
        · exact ⟨none, rfl, by simp⟩

lemma digitLoop_terminated {p : Bytes} (h : 0 ∈ p) (v : ℕ) : ∃ n, digitLoop p v = some n := by
  induction p generalizing v with
  | nil => simp at h
  | cons c p ih =>
      rw [digitLoop]
      split_ifs with hc
      · exact ih (mem_zero_tail h rfl (by rintro rfl; exact absurd hc (by decide))) _
      · exact ⟨v, rfl⟩

/-- **`sd_json_get_uint` reads no memory behind the terminator.** -/
theorem sdJsonGetUint_terminated {json : Bytes} (h : 0 ∈ json) (key : Bytes) :
    ∃ r, sdJsonGetUint json key = some r := by
  obtain ⟨r, hr, hptr⟩ := locate_terminated h key
  rw [sdJsonGetUint, hr]
  cases r with
  | none => exact ⟨_, rfl⟩
  | some p =>
      obtain ⟨c, q, rfl, hmem⟩ := hptr p rfl
      simp only
      split_ifs
      · obtain ⟨n, hn⟩ := digitLoop_terminated hmem 0
        exact ⟨_, by rw [hn, Option.map_some]⟩
      · exact ⟨_, rfl⟩

/-! ## What a string value holds -/

/-- A string value: its characters, each as the octets it is written as, and whether it ended (or was
cut short by a malformed escape). -/
structure Contents where
  chars : List Bytes
  complete : Bool
  deriving DecidableEq, Repr

/-- The string value behind an opening quote. -/
def contents (p : Bytes) : Option Contents :=
  match _h : readItem p with
  | none => none
  | some .done => some ⟨[], true⟩
  | some .malformed => some ⟨[], false⟩
  | some (.char octets rest) => (contents rest).map fun c => ⟨octets :: c.chars, c.complete⟩
termination_by p.length
decreasing_by exact readItem_length _h

lemma contents_done {p : Bytes} (h : readItem p = some .done) : contents p = some ⟨[], true⟩ := by
  rw [contents]
  split <;> simp_all

lemma contents_malformed {p : Bytes} (h : readItem p = some .malformed) :
    contents p = some ⟨[], false⟩ := by
  rw [contents]
  split <;> simp_all

lemma contents_char {p octets rest : Bytes} (h : readItem p = some (.char octets rest)) :
    contents p = (contents rest).map fun c => ⟨octets :: c.chars, c.complete⟩ := by
  rw [contents]
  split <;> simp_all

/-- Terminated memory holds a string value. -/
theorem contents_isSome {p : Bytes} (h : 0 ∈ p) : ∃ c, contents p = some c := by
  induction hn : p.length using Nat.strongRecOn generalizing p with
  | ind n ih =>
      obtain ⟨i, hi, hrest⟩ := readItem_terminated h
      cases i with
      | done => exact ⟨_, contents_done hi⟩
      | malformed => exact ⟨_, contents_malformed hi⟩
      | char octets rest =>
          obtain ⟨c, hc⟩ := ih _ (hn ▸ readItem_length hi) (hrest octets rest rfl) rfl
          exact ⟨_, by rw [contents_char hi, hc, Option.map_some]⟩

lemma length_utf8_le (c : ℕ) : (utf8 c).length ≤ 4 := by
  unfold utf8
  split_ifs <;> simp

lemma some_of_ite {α : Type} {p : Prop} [Decidable p] {a x : α} {o : Option α}
    (h : (if p then some a else o) = some x) : a = x ∨ o = some x := by
  split_ifs at h
  · exact Or.inl (Option.some.inj h)
  · exact Or.inr h

/-- The eight one-letter escapes. -/
lemma utf8_unescape {e x : UInt8} (h : unescape e = some x) : utf8 x.toNat = [x] := by
  unfold unescape at h
  iterate 8
    rcases some_of_ite h with rfl | h
    · decide
  simp at h

/-- An octet that stands for itself in a string value. -/
def Plain (b : UInt8) : Prop := b ≠ 0 ∧ b ≠ quote ∧ b ≠ backslash

instance (b : UInt8) : Decidable (Plain b) := inferInstanceAs (Decidable (_ ∧ _))

/-- What ends a value. -/
lemma readItem_end {c : UInt8} (hc : c = 0 ∨ c = quote) (rest : Bytes) : readItem (c :: rest) = some .done := by
  rw [readItem.eq_def]
  simp only
  rw [if_pos hc]

lemma readItem_plain {b : UInt8} (hb : Plain b) (rest : Bytes) :
    readItem (b :: rest) = some (.char [b] rest) := by
  rw [readItem.eq_def]
  simp [hb.1, hb.2.1, hb.2.2]

/-- What follows a backslash. -/
lemma readItem_backslash (e : UInt8) (p : Bytes) :
    readItem (backslash :: e :: p) = match unescape e with
      | some x => some (.char [x] p)
      | none =>
          if e = oct 'u' then
            match hex4 p with
            | none => none
            | some none => some .malformed
            | some (some u) => (joinLow u (p.drop 4)).map fun (u, p) => .char (utf8 u) p
          else some .malformed := by
  rw [readItem.eq_def]
  simp only
  rw [if_neg (by decide), if_pos trivial]

lemma readItem_backslash_ne_done (p : Bytes) : readItem (backslash :: p) ≠ some .done := by
  cases p with
  | nil => simp [readItem, show backslash ≠ 0 by decide, show backslash ≠ quote by decide]
  | cons e p =>
      rw [readItem_backslash]
      split
      · simp
      · split_ifs
        · split <;> simp
        · simp

lemma readItem_short {e x : UInt8} (he : unescape e = some x) (rest : Bytes) :
    readItem (backslash :: e :: rest) = some (.char [x] rest) := by
  rw [readItem_backslash, he]

lemma contents_plain {s : Bytes} (hs : ∀ b ∈ s, Plain b) (rest : Bytes) :
    contents (s ++ rest)
      = (contents rest).map fun c => ⟨s.map (fun b => [b]) ++ c.chars, c.complete⟩ := by
  induction s with
  | nil => simp
  | cons b s ih =>
      rw [List.cons_append, contents_char (readItem_plain (hs b List.mem_cons_self) _),
        ih fun x hx => hs x (List.mem_cons_of_mem _ hx), Option.map_map]
      rfl

/-- A plain value up to its closing quote. -/
lemma contents_quoted {s : Bytes} (hs : ∀ b ∈ s, Plain b) (rest : Bytes) :
    contents (s ++ quote :: rest) = some ⟨s.map fun b => [b], true⟩ := by
  have hdone : readItem (quote :: rest) = some .done := rfl
  rw [contents_plain hs, contents_done hdone, Option.map_some, List.append_nil]

/-- Write one more character if it fits with a terminator after it. -/
def put (cap : ℕ) (acc octets : Bytes) : Bytes :=
  if acc.length + octets.length < cap then acc ++ octets else acc

/-- The characters of a value that fit. -/
def fitting (cap : ℕ) (chars : List Bytes) : Bytes := chars.foldl (put cap) []

lemma length_put {cap : ℕ} {acc : Bytes} (h : acc.length < cap) (octets : Bytes) :
    (put cap acc octets).length < cap := by
  rw [put]
  split_ifs with hfit
  · rwa [List.length_append]
  · exact h

lemma length_foldl_put {cap : ℕ} {acc : Bytes} (h : acc.length < cap) (chars : List Bytes) :
    (chars.foldl (put cap) acc).length < cap := by
  induction chars generalizing acc with
  | nil => exact h
  | cons octets chars ih => exact ih (length_put h octets)

/-- Characters that all fit are written one behind the other. -/
lemma foldl_put_fits {cap : ℕ} {acc : Bytes} {chars : List Bytes}
    (h : acc.length + chars.flatten.length < cap) : chars.foldl (put cap) acc = acc ++ chars.flatten := by
  induction chars generalizing acc with
  | nil => simp
  | cons o chars ih =>
      rw [List.flatten_cons, List.length_append] at h
      rw [List.foldl_cons, put, if_pos (by omega), ih (by rw [List.length_append]; omega),
        List.flatten_cons, List.append_assoc]

/-- Octets that all fit. -/
lemma foldl_put_singletons {cap : ℕ} {acc s : Bytes} (h : acc.length + s.length < cap) :
    (s.map fun b => [b]).foldl (put cap) acc = acc ++ s := by
  have hflat : (s.map fun b => [b]).flatten = s := by rw [← List.flatMap_def, List.flatMap_singleton']
  rw [foldl_put_fits (by rwa [hflat]), hflat]

lemma fitting_singletons {cap : ℕ} {s : Bytes} (h : s.length < cap) :
    fitting cap (s.map fun b => [b]) = s := by
  rw [fitting, foldl_put_singletons (by simpa using h), List.nil_append]

lemma append_overlay {out acc : Bytes} (h : acc.length < out.length) (octets : Bytes) :
    append (overlay out acc) acc.length octets
      = some (overlay out (put out.length acc octets), (put out.length acc octets).length) := by
  rw [append, put, length_overlay (Nat.le_of_lt h)]
  split_ifs with hfit
  · rw [store_overlay (by omega), Option.map_some, List.length_append]
  · rfl

/-- What the buffer holds when the loop is through with a value. -/
def written (out : Bytes) (c : Contents) (acc : Bytes) : Except SdErr Unit × Bytes :=
  if c.complete then (.ok (), overlay out (c.chars.foldl (put out.length) acc ++ [0]))
  else (.error .invalid, overlay out (c.chars.foldl (put out.length) acc))

/-- **The loop is a fold over the characters of the value.** -/
theorem copyString_eq {p out acc : Bytes} {c : Contents} (hc : contents p = some c)
    (h : acc.length < out.length) :
    copyString p (overlay out acc) acc.length = some (written out c acc) := by
  induction hn : p.length using Nat.strongRecOn generalizing p acc c with
  | ind n ih =>
      have hlen := length_overlay (Nat.le_of_lt h)
      cases hi : readItem p with
      | none =>
          rw [contents] at hc
          split at hc <;> simp_all
      | some item =>
          cases item with
          | done =>
              rw [contents_done hi, Option.some.injEq] at hc
              rw [copyString_done hi, ← hc, hlen, if_pos h, store_overlay (by rwa [List.length_singleton])]
              rfl
          | malformed =>
              rw [contents_malformed hi, Option.some.injEq] at hc
              rw [copyString_malformed hi, ← hc]
              rfl
          | char octets rest =>
              rw [contents_char hi, Option.map_eq_some_iff] at hc
              obtain ⟨c', hc', rfl⟩ := hc
              rw [copyString_char hi, append_overlay h]
              exact ih _ (hn ▸ readItem_length hi) hc' (length_put h octets) rfl

/-- The string value of `key`, if a string is found there. -/
def textField (json key : Bytes) : Option Contents :=
  match locate json key with
  | some (some (c :: p)) => if c = quote then contents p else none
  | _ => none

/-- **`sd_json_get_string` on a C string**: the buffer is left alone when no string is found;
otherwise it holds the characters that fitted, and a terminator only when the value ended. -/
theorem sdJsonGetString_eq {json key out : Bytes} (hjson : 0 ∈ json) (hout : out ≠ []) :
    sdJsonGetString json key out = some (match textField json key with
      | none => (.error .invalid, out)
      | some c => written out c []) := by
  have hpos : out.length ≠ 0 := fun h0 => hout (List.length_eq_zero_iff.mp h0)
  obtain ⟨r, hr, hptr⟩ := locate_terminated hjson key
  rw [sdJsonGetString, if_neg hpos, textField, hr]
  cases r with
  | none => rfl
  | some p =>
      obtain ⟨c, q, rfl, hmem⟩ := hptr p rfl
      simp only
      split_ifs with hq
      · obtain ⟨k, hk⟩ := contents_isSome (mem_zero_tail hmem rfl (by rw [hq]; decide))
        rw [hk]
        have hfront : ([] : Bytes).length < out.length := Nat.pos_of_ne_zero hpos
        exact copyString_eq hk hfront
      · rfl

/-- On a C string the function returns. -/
lemma sdJsonGetString_isSome {json : Bytes} (hjson : 0 ∈ json) (key out : Bytes) :
    ∃ r out', sdJsonGetString json key out = some (r, out') := by
  by_cases hout : out = []
  · exact ⟨.error .invalid, out, by rw [sdJsonGetString, if_pos (by rw [hout]; rfl)]⟩
  · exact ⟨_, _, sdJsonGetString_eq hjson hout⟩

end Sudonit
