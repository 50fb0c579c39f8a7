import Sudonit.Core.Sha256
import Sudonit.Protocol.JsonC
import Sudonit.Python.JsonLaws

/-!
# Looking a key up in a flat object

`sd_json_get_string` and `sd_json_get_uint` take the first occurrence of the quoted key, wherever it
stands.  In the canonical text of a flat object that is the key itself unless the text of an earlier
string value is the key, or ends in it after a quotation mark: the escaped quotation mark and the
closing one then look like the quotes of a key.

* `Collides` — that condition on a string; `find_quoted` shows that it is exact.
* `locate_flatText` — what a lookup finds, member by member.
* `sdJsonGetUint_flatText`, `textField_word` — numbers and words read back, and what happens on a
  collision.
-/

namespace Sudonit

open Octets CText Python

/-! ## Keys -/

/-- A character of a field name. -/
def isWordChar (b : UInt8) : Bool := (oct 'a' ≤ b && b ≤ oct 'z') || isDigit b || b = oct '_'

/-- A field name short enough for the needle buffer. -/
def Word (k : Bytes) : Prop := (∀ b ∈ k, isWordChar b) ∧ k.length < 62

instance (k : Bytes) : Decidable (Word k) := inferInstanceAs (Decidable (_ ∧ _))

lemma Word.notMem_needle {k : Bytes} (hk : Word k) {x : UInt8} (hx : isWordChar x = false)
    (hq : x ≠ quote) : x ∉ needle k := by
  simp only [needle, List.cons_append, List.mem_cons, List.mem_append, List.not_mem_nil, or_false,
    not_or]
  refine ⟨hq, fun h => ?_, hq⟩
  rw [hk.1 x h] at hx
  simp at hx

lemma needle_ne_nil (k : Bytes) : needle k ≠ [] := by simp [needle]

lemma quote_mem_needle (k : Bytes) : quote ∈ needle k := by simp [needle]

/-- Text without a quotation mark is skipped. -/
lemma find_skip {k u : Bytes} (hu : quote ∉ u) (t : Bytes) :
    find (needle k) (u ++ t) = find (needle k) t := by
  induction u with
  | nil => rfl
  | cons b u ih =>
      simp only [List.mem_cons, not_or] at hu
      have hno : ¬ needle k <+: b :: (u ++ t) := by
        intro h
        exact hu.1 (List.cons_prefix_cons.mp h).1
      rw [List.cons_append, find_cons, if_neg hno, ih hu.2]

/-! ## Keys in string values -/

/-- A string value that holds the quoted key once it is written down: it is the key, or ends in it
after a quotation mark. -/
def Collides (k : Bytes) (s : PyStr) : Prop := s = ofBytes k ∨ cp '"' :: ofBytes k <:+ s

instance (k : Bytes) (s : PyStr) : Decidable (Collides k s) := inferInstanceAs (Decidable (_ ∨ _))

/-- A character written as a letter of a field name is that letter. -/
lemma escapeChar_wordChar {c : CodePoint} {b : UInt8} {bs : Bytes} (h : escapeChar c = b :: bs)
    (hb : isWordChar b) : bs = [] ∧ c = CodePoint.ofByte b := by
  have hc := escaped_escapeChar c
  generalize escapeChar c = w at h hc
  cases hc with
  | short _ =>
      rw [List.cons.injEq] at h
      exact absurd hb (by rw [← h.1]; decide)
  | bare _ =>
      rw [List.cons.injEq] at h
      exact ⟨h.2.symm, by rw [h.1]⟩
  | unit _ =>
      rw [unicodeEscape, List.cons.injEq] at h
      exact absurd hb (by rw [← h.1]; decide)
  | pair _ =>
      rw [unicodeEscape, List.cons_append, List.cons.injEq] at h
      exact absurd hb (by rw [← h.1]; decide)

lemma bare_of_wordChar {b : UInt8} (hb : isWordChar b) : Bare b := by
  simp only [isWordChar, isDigit, Bool.or_eq_true, Bool.and_eq_true, decide_eq_true_eq,
    UInt8.le_iff_toNat_le, ← UInt8.toNat_inj, show (oct 'a').toNat = 97 from rfl,
    show (oct 'z').toNat = 122 from rfl, show (oct '0').toNat = 48 from rfl,
    show (oct '9').toNat = 57 from rfl, show (oct '_').toNat = 95 from rfl] at hb
  simp only [Bare, Printable, ne_eq, UInt8.le_iff_toNat_le, ← UInt8.toNat_inj,
    show (oct '"').toNat = 34 from rfl, show (oct '\\').toNat = 92 from rfl,
    show (0x20 : UInt8).toNat = 32 from rfl, show (0x7E : UInt8).toNat = 126 from rfl]
  omega

lemma escape_word {k : Bytes} (hk : ∀ b ∈ k, isWordChar b) : escape (ofBytes k) = k :=
  escape_ofBytes fun b hb => bare_of_wordChar (hk b hb)

lemma hexdigest_word (pcm : Bytes) : ∀ b ∈ Sha256.hexdigest pcm, isWordChar b := by
  have hhex : ∀ b ∈ ascii "0123456789abcdef", isWordChar b := by decide
  exact fun b hb => hhex b (Sha256.hex_of_mem_hexdigest hb)

lemma length_quoted_hexdigest (data : Bytes) :
    (quoted (ofBytes (Sha256.hexdigest data))).length = 66 := by
  rw [length_quoted fun b hb => bare_of_wordChar (hexdigest_word data b hb), Sha256.length_hexdigest]

/-- A string written down starts with the name and a quotation mark only if it is the name. -/
lemma prefix_escape_iff {k : Bytes} (hk : ∀ b ∈ k, isWordChar b) (s : PyStr) :
    k ++ [quote] <+: escape s ++ [quote] ↔ s = ofBytes k := by
  induction k generalizing s with
  | nil =>
      cases s with
      | nil => simp [escape]
      | cons c s =>
          obtain ⟨b, bs, hb, hne⟩ := escapeChar_head c
          rw [escape_cons, hb]
          simp only [List.nil_append, List.cons_append, List.cons_prefix_cons, ofBytes_nil,
            reduceCtorEq, iff_false, not_and]
          exact fun h => absurd h.symm hne
  | cons b k ih =>
      have hword := hk b List.mem_cons_self
      have hrest : ∀ x ∈ k, isWordChar x := fun x hx => hk x (List.mem_cons_of_mem _ hx)
      cases s with
      | nil =>
          simp only [escape, List.flatMap_nil, List.nil_append, List.cons_append,
            List.cons_prefix_cons, ofBytes_cons, reduceCtorEq, iff_false, not_and]
          rintro rfl
          exact absurd hword (by decide)
      | cons c s =>
          obtain ⟨x, xs, hx, -⟩ := escapeChar_head c
          rw [escape_cons, hx, ofBytes_cons, List.cons_append, List.cons_append, List.cons_append,
            List.cons_prefix_cons, List.cons.injEq]
          constructor
          · rintro ⟨rfl, h⟩
            obtain ⟨rfl, rfl⟩ := escapeChar_wordChar hx hword
            exact ⟨rfl, (ih hrest s).mp h⟩
          · rintro ⟨rfl, rfl⟩
            rw [escapeChar_ofByte (bare_of_wordChar hword), List.cons.injEq] at hx
            obtain ⟨rfl, rfl⟩ := hx
            exact ⟨rfl, (ih hrest _).mpr rfl⟩

/-- A character other than a quotation mark is written without one. -/
lemma quote_notMem_escapeChar {c : CodePoint} (hc : c ≠ cp '"') : quote ∉ escapeChar c := by
  have hhex : ∀ n < 16, quote ≠ hexChar n := by decide
  have hunit : ∀ n, quote ∉ unicodeEscape n := by
    intro n h
    simp only [unicodeEscape, List.mem_cons, List.not_mem_nil, or_false] at h
    rcases h with h | h | h | h | h | h
    · exact absurd h (by decide)
    · exact absurd h (by decide)
    all_goals exact hhex _ (Nat.mod_lt _ (by decide)) h
  have hesc := escaped_escapeChar c
  generalize escapeChar c = w at hesc ⊢
  cases hesc with
  | short h =>
      have hshort : ∀ p ∈ shortEscapes, quote ∈ [oct '\\', p.2] → p.1 = oct '"' := by decide
      exact fun hmem => hc (congrArg CodePoint.ofByte (hshort _ h hmem))
  | bare hb => exact fun hmem => hb.2.1 (List.mem_singleton.mp hmem).symm
  | unit h => exact hunit _
  | pair h => exact fun hmem => (List.mem_append.mp hmem).elim (hunit _) (hunit _)

/-- The search from the opening quote, by the search behind it. -/
lemma find_quoted_of_escape {k : Bytes} (hk : Word k) {s : PyStr}
    (hs : find (needle k) (escape s ++ [quote])
      = if cp '"' :: ofBytes k <:+ s then some (needle k) else none) :
    find (needle k) (quoted s) = if Collides k s then some (needle k) else none := by
  have hq : quoted s = quote :: (escape s ++ [quote]) := rfl
  have hpre : needle k <+: quote :: (escape s ++ [quote]) ↔ s = ofBytes k := by
    rw [needle, List.cons_append, List.cons_prefix_cons, prefix_escape_iff hk.1]
    exact ⟨fun h => h.2, fun h => ⟨rfl, h⟩⟩
  rw [hq, find_cons, hs]
  by_cases h : s = ofBytes k
  · rw [if_pos (hpre.mpr h), if_pos (show Collides k s from Or.inl h), h, escape_word hk.1]
    rfl
  · have hiff : Collides k s ↔ cp '"' :: ofBytes k <:+ s :=
      ⟨fun hc => hc.resolve_left h, Or.inr⟩
    rw [if_neg (fun hp => h (hpre.mp hp)), if_congr hiff rfl rfl]

/-- The search behind the opening quote of a written string. -/
lemma find_escape {k : Bytes} (hk : Word k) (s : PyStr) : find (needle k) (escape s ++ [quote])
    = if cp '"' :: ofBytes k <:+ s then some (needle k) else none := by
  induction s with
  | nil =>
      have hno : ¬ needle k <:+: [quote] := by
        intro h
        have := h.length_le
        simp [needle] at this
      rw [if_neg (by simp), show escape ([] : PyStr) ++ [quote] = [quote] from rfl,
        find_eq_none_iff.mpr hno]
  | cons c s ih =>
      rw [escape_cons, List.append_assoc]
      by_cases hc : c = cp '"'
      · subst hc
        have hesc : escapeChar (cp '"') ++ (escape s ++ [quote]) = [] ++ backslash :: quoted s := rfl
        rw [hesc, find_append_sep (hk.notMem_needle (by decide) (by decide)) (needle_ne_nil k),
          find_nil, if_neg (needle_ne_nil k)]
        simp only [find_quoted_of_escape hk ih]
        have hiff : Collides k s ↔ cp '"' :: ofBytes k <:+ cp '"' :: s := by
          rw [List.suffix_cons_iff, List.cons.injEq, Collides]
          constructor
          · rintro (h | h)
            · exact Or.inl ⟨rfl, h.symm⟩
            · exact Or.inr h
          · rintro (h | h)
            · exact Or.inl h.2.symm
            · exact Or.inr h
        rw [if_congr hiff rfl rfl]
      · have hiff : cp '"' :: ofBytes k <:+ c :: s ↔ cp '"' :: ofBytes k <:+ s := by
          rw [List.suffix_cons_iff, List.cons.injEq]
          exact ⟨fun h => h.resolve_left fun h => hc h.1.symm, Or.inr⟩
        rw [find_skip (quote_notMem_escapeChar hc), ih, if_congr hiff rfl rfl]

/-- **A written string holds the quoted key exactly when it collides with it**, and then at its very
end. -/
theorem find_quoted {k : Bytes} (hk : Word k) (s : PyStr) :
    find (needle k) (quoted s) = if Collides k s then some (needle k) else none :=
  find_quoted_of_escape hk (find_escape hk s)

/-! ## Flat objects -/

/-- A value of the flat messages: a string or an integer. -/
def Token (v : JsonValue) : Prop := (∃ s, v = .str s) ∨ ∃ n, v = .int n

/-- What stands behind a member's value: the other members, or the end. -/
def tailText (ms : List (PyStr × JsonValue)) : Bytes :=
  match ms with
  | [] => [oct '}']
  | m :: ms => oct ',' :: membersText (m :: ms) ++ [oct '}']

lemma membersText_tail (k : PyStr) (v : JsonValue) (ms : List (PyStr × JsonValue)) :
    membersText ((k, v) :: ms) ++ [oct '}'] = quoted k ++ oct ':' :: (rendered v ++ tailText ms) := by
  cases ms with
  | nil => rw [membersText_singleton, tailText, List.append_assoc, List.cons_append]
  | cons m ms =>
      rw [membersText_cons, tailText, List.append_assoc, List.append_assoc, List.cons_append,
        List.cons_append]

/-- A member a lookup of `k` passes over: neither its key nor its string value holds the quoted
key. -/
def Passes (k : Bytes) (m : PyStr × JsonValue) : Prop :=
  ¬ Collides k m.1 ∧ find (needle k) (rendered m.2) = none

lemma find_rendered_int {k : Bytes} (n : ℤ) : find (needle k) (rendered (.int n)) = none := by
  refine find_of_notMem (quote_mem_needle k) ?_
  have hdigits : quote ∉ decimal n.natAbs := by
    intro h
    exact absurd (isDigit_of_mem_decimal h) (by decide)
  rw [rendered, intRepr]
  split_ifs
  · rw [List.mem_cons, not_or]
    exact ⟨by decide, hdigits⟩
  · exact hdigits

lemma find_rendered_token {k : Bytes} (hk : Word k) {v : JsonValue} (hv : Token v) :
    find (needle k) (rendered v) = none ∨ find (needle k) (rendered v) = some (needle k) := by
  rcases hv with ⟨s, rfl⟩ | ⟨n, rfl⟩
  · rw [rendered, find_quoted hk]
    split_ifs
    · exact Or.inr rfl
    · exact Or.inl rfl
  · exact Or.inl (find_rendered_int n)

/-- The search in the members of an object, up to the one it is for. -/
lemma find_members {k : Bytes} (hk : Word k) {pre : List (PyStr × JsonValue)}
    (hpre : ∀ m ∈ pre, Passes k m) (v : JsonValue) (post : List (PyStr × JsonValue)) :
    find (needle k) (membersText (pre ++ (ofBytes k, v) :: post) ++ [oct '}'])
      = some (quoted (ofBytes k) ++ oct ':' :: (rendered v ++ tailText post)) := by
  induction pre with
  | nil =>
      have hstart : needle k <+: quoted (ofBytes k) := by
        rw [quoted, escape_word hk.1]
        exact List.prefix_rfl
      rw [List.nil_append, membersText_tail, find_of_prefix]
      exact hstart.trans (List.prefix_append _ _)
  | cons m pre ih =>
      obtain ⟨hkey, hval⟩ := hpre m List.mem_cons_self
      have hrest := ih fun x hx => hpre x (List.mem_cons_of_mem _ hx)
      have htail : tailText (pre ++ (ofBytes k, v) :: post)
          = oct ',' :: (membersText (pre ++ (ofBytes k, v) :: post) ++ [oct '}']) := by
        cases pre <;> rfl
      rw [List.cons_append, membersText_tail,
        find_append_sep (hk.notMem_needle (by decide) (by decide)) (needle_ne_nil k),
        find_quoted hk, if_neg hkey]
      simp only
      rw [htail, find_append_sep (hk.notMem_needle (by decide) (by decide)) (needle_ne_nil k), hval]
      exact hrest

/-- The search in the members of an object, when an earlier string value stops it. -/
lemma find_members_collision {k : Bytes} (hk : Word k) {pre : List (PyStr × JsonValue)}
    (hkeys : ∀ m ∈ pre, ¬ Collides k m.1) (htok : ∀ m ∈ pre, Token m.2)
    (hcol : ∃ m ∈ pre, find (needle k) (rendered m.2) ≠ none) (v : JsonValue)
    (post : List (PyStr × JsonValue)) :
    ∃ rest, find (needle k) (membersText (pre ++ (ofBytes k, v) :: post) ++ [oct '}'])
      = some (needle k ++ oct ',' :: rest) := by
  induction pre with
  | nil => simp at hcol
  | cons m pre ih =>
      have htail : tailText (pre ++ (ofBytes k, v) :: post)
          = oct ',' :: (membersText (pre ++ (ofBytes k, v) :: post) ++ [oct '}']) := by
        cases pre <;> rfl
      rw [List.cons_append, membersText_tail,
        find_append_sep (hk.notMem_needle (by decide) (by decide)) (needle_ne_nil k),
        find_quoted hk, if_neg (hkeys m List.mem_cons_self)]
      simp only
      rw [htail, find_append_sep (hk.notMem_needle (by decide) (by decide)) (needle_ne_nil k)]
      rcases find_rendered_token hk (htok m List.mem_cons_self) with hnone | hsome
      · rw [hnone]
        refine ih (fun x hx => hkeys x (List.mem_cons_of_mem _ hx))
          (fun x hx => htok x (List.mem_cons_of_mem _ hx)) ?_
        obtain ⟨x, hx, hfind⟩ := hcol
        rcases List.mem_cons.mp hx with rfl | hx
        · exact absurd hnone hfind
        · exact ⟨x, hx, hfind⟩
      · rw [hsome]
        exact ⟨_, rfl⟩

lemma find_flatText {k : Bytes} (hk : Word k) (ms : List (PyStr × JsonValue)) :
    find (needle k) (flatText ms) = find (needle k) (membersText ms ++ [oct '}']) := by
  have htext : flatText ms = [] ++ oct '{' :: (membersText ms ++ [oct '}']) := rfl
  rw [htext, find_append_sep (hk.notMem_needle (by decide) (by decide)) (needle_ne_nil k), find_nil,
    if_neg (needle_ne_nil k)]

/-- A lookup goes by what the search in the text finds. -/
lemma locate_of_find {k text p : Bytes} (hk : Word k) (htext : 0 ∉ text)
    (hfind : find (needle k) text = some (needle k ++ p)) (junk : Bytes) :
    locate (text ++ 0 :: junk) k = behindColon (p ++ 0 :: junk) := by
  have hlen : ¬ 64 ≤ (needle k).length := by
    have := hk.2
    simp only [needle, List.length_append, List.length_cons, List.length_nil]
    omega
  rw [locate, if_neg hlen, strstr_append htext, hfind]
  simp only [Option.map_some, List.append_assoc, List.drop_left]

lemma isGap_of_isDigit {b : UInt8} (h : isDigit b) : isGap b = false := by
  rw [isGap, Bool.or_eq_false_iff, decide_eq_false_iff_not, decide_eq_false_iff_not]
  constructor <;> rintro rfl <;> exact absurd h (by decide)

lemma rendered_token_head {v : JsonValue} (hv : Token v) :
    ∃ c p, rendered v = c :: p ∧ isGap c = false := by
  rcases hv with ⟨s, rfl⟩ | ⟨n, rfl⟩
  · exact ⟨_, _, rfl, by decide⟩
  · obtain ⟨b, bs, hb, hd, -⟩ := decimal_head n.natAbs
    rw [rendered, intRepr]
    split_ifs
    · exact ⟨_, _, rfl, by decide⟩
    · exact ⟨b, bs, hb, isGap_of_isDigit hd⟩

/-- **A lookup finds the value of its key** when the members before it let it pass. -/
theorem locate_flatText {k : Bytes} (hk : Word k) {pre : List (PyStr × JsonValue)}
    (hpre : ∀ m ∈ pre, Passes k m) {v : JsonValue} (hv : Token v) (post : List (PyStr × JsonValue))
    (junk : Bytes) :
    locate (flatText (pre ++ (ofBytes k, v) :: post) ++ 0 :: junk) k
      = some (some (rendered v ++ (tailText post ++ 0 :: junk))) := by
  have hfind : find (needle k) (flatText (pre ++ (ofBytes k, v) :: post))
      = some (needle k ++ oct ':' :: (rendered v ++ tailText post)) := by
    rw [find_flatText hk, find_members hk hpre, quoted, escape_word hk.1]
    rfl
  obtain ⟨c, p, hrendered, hgap⟩ := rendered_token_head hv
  rw [locate_of_find hk (zero_notMem_of_printable (allPrintable_flatText _)) hfind, hrendered]
  have hcolon : ∀ q, skipGap (oct ':' :: q) = some (oct ':' :: q) := fun q => rfl
  rw [List.cons_append, behindColon, hcolon]
  simp only [if_true, List.cons_append, List.append_assoc]
  rw [skipGap, hgap]
  rfl

/-- **A lookup that a string value stops finds nothing.** -/
theorem locate_collision {k : Bytes} (hk : Word k) {pre : List (PyStr × JsonValue)}
    (hkeys : ∀ m ∈ pre, ¬ Collides k m.1) (htok : ∀ m ∈ pre, Token m.2)
    (hcol : ∃ m ∈ pre, find (needle k) (rendered m.2) ≠ none) (v : JsonValue)
    (post : List (PyStr × JsonValue)) (junk : Bytes) :
    locate (flatText (pre ++ (ofBytes k, v) :: post) ++ 0 :: junk) k = some none := by
  obtain ⟨rest, hrest⟩ := find_members_collision hk hkeys htok hcol v post
  rw [← find_flatText hk] at hrest
  rw [locate_of_find hk (zero_notMem_of_printable (allPrintable_flatText _)) hrest]
  rfl

/-! ## The two readers on a flat object -/

lemma plain_of_bare {b : UInt8} (hb : Bare b) : Plain b :=
  ⟨fun h => absurd hb.1 (by rw [h]; decide), hb.2⟩

lemma plain_of_wordChar {b : UInt8} (hb : isWordChar b) : Plain b := plain_of_bare (bare_of_wordChar hb)

/-- A word reads back as its characters. -/
lemma textField_word {k w : Bytes} (hk : Word k) (hw : ∀ b ∈ w, isWordChar b)
    {pre : List (PyStr × JsonValue)} (hpre : ∀ m ∈ pre, Passes k m)
    (post : List (PyStr × JsonValue)) (junk : Bytes) :
    textField (flatText (pre ++ (ofBytes k, .str (ofBytes w)) :: post) ++ 0 :: junk) k
      = some ⟨w.map fun b => [b], true⟩ := by
  have hquoted : rendered (.str (ofBytes w)) = quote :: (w ++ [quote]) := by
    rw [rendered, quoted, escape_word hw]
    rfl
  have hplain : ∀ b ∈ w, Plain b := fun b hb => plain_of_wordChar (hw b hb)
  rw [textField, locate_flatText hk hpre (Or.inl ⟨_, rfl⟩), hquoted]
  simp only [List.cons_append, List.append_assoc, List.nil_append, if_true, contents_quoted hplain]

lemma textField_collision {k : Bytes} (hk : Word k) {pre : List (PyStr × JsonValue)}
    (hkeys : ∀ m ∈ pre, ¬ Collides k m.1) (htok : ∀ m ∈ pre, Token m.2)
    (hcol : ∃ m ∈ pre, find (needle k) (rendered m.2) ≠ none) (v : JsonValue)
    (post : List (PyStr × JsonValue)) (junk : Bytes) :
    textField (flatText (pre ++ (ofBytes k, v) :: post) ++ 0 :: junk) k = none := by
  rw [textField, locate_collision hk hkeys htok hcol]

/-- The digit loop accumulates modulo `2 ^ 32`. -/
lemma digitLoop_append {ds : Bytes} (hds : ∀ b ∈ ds, isDigit b) {c : UInt8} (hc : isDigit c = false)
    (p : Bytes) (v : ℕ) :
    digitLoop (ds ++ c :: p) (v % 2 ^ 32) = some (decimalFrom v ds % 2 ^ 32) := by
  induction ds generalizing v with
  | nil => rw [List.nil_append, digitLoop, hc]; rfl
  | cons d ds ih =>
      have hwrap : (v % 2 ^ 32 * 10 + (d.toNat - 48)) % 2 ^ 32
          = (v * 10 + (d.toNat - 48)) % 2 ^ 32 := by omega
      rw [List.cons_append, digitLoop, hds d List.mem_cons_self, if_pos rfl, hwrap,
        ih fun x hx => hds x (List.mem_cons_of_mem _ hx), decimalFrom_cons]

lemma tailText_head (ms : List (PyStr × JsonValue)) :
    ∃ c p, tailText ms = c :: p ∧ isDigit c = false := by
  cases ms with
  | nil => exact ⟨_, _, rfl, by decide⟩
  | cons m ms => exact ⟨_, _, rfl, by decide⟩

/-- **A number reads back modulo `2 ^ 32`**, a negative one not at all. -/
theorem sdJsonGetUint_flatText {k : Bytes} (hk : Word k) {pre : List (PyStr × JsonValue)}
    (hpre : ∀ m ∈ pre, Passes k m) (n : ℤ) (post : List (PyStr × JsonValue)) (junk : Bytes) :
    sdJsonGetUint (flatText (pre ++ (ofBytes k, .int n) :: post) ++ 0 :: junk) k
      = some (if n < 0 then .error .invalid else .ok (n.natAbs % 2 ^ 32)) := by
  rw [sdJsonGetUint, locate_flatText hk hpre (Or.inr ⟨n, rfl⟩), rendered, intRepr]
  obtain ⟨c, p, htail, hc⟩ := tailText_head post
  split_ifs with hneg
  · rfl
  · obtain ⟨b, bs, hb, hd, -⟩ := decimal_head n.natAbs
    have hloop := digitLoop_append (fun x hx => isDigit_of_mem_decimal (n := n.natAbs) hx) hc
      (p ++ 0 :: junk) 0
    have hval : decimalFrom 0 (decimal n.natAbs) = n.natAbs := decimalValue_decimal n.natAbs
    rw [hval, hb, List.cons_append, Nat.zero_mod] at hloop
    rw [htail, hb, List.cons_append, List.cons_append]
    simp only [hd, if_true]
    rw [hloop, Option.map_some]

lemma sdJsonGetUint_collision {k : Bytes} (hk : Word k) {pre : List (PyStr × JsonValue)}
    (hkeys : ∀ m ∈ pre, ¬ Collides k m.1) (htok : ∀ m ∈ pre, Token m.2)
    (hcol : ∃ m ∈ pre, find (needle k) (rendered m.2) ≠ none) (v : JsonValue)
    (post : List (PyStr × JsonValue)) (junk : Bytes) :
    sdJsonGetUint (flatText (pre ++ (ofBytes k, v) :: post) ++ 0 :: junk) k
      = some (.error .invalid) := by
  rw [sdJsonGetUint, locate_collision hk hkeys htok hcol]

/-! ## Written strings are read to their end -/

/-- What a string literal is made of: a plain octet, or an escape the reader knows. -/
inductive Piece : Bytes → Prop
  | plain {b : UInt8} (hb : Plain b) : Piece [b]
  | short {e x : UInt8} (he : unescape e = some x) : Piece [backslash, e]
  | unicode (n : ℕ) : Piece (unicodeEscape n)

lemma escapeChar_pieces (c : CodePoint) :
    ∃ ps : List Bytes, escapeChar c = ps.flatten ∧ ∀ p ∈ ps, Piece p := by
  have one : ∀ p, Piece p → ∃ ps : List Bytes, p = ps.flatten ∧ ∀ q ∈ ps, Piece q :=
    fun p hp => ⟨[p], by simp, by simpa using hp⟩
  have hesc := escaped_escapeChar c
  generalize escapeChar c = w at hesc ⊢
  cases hesc with
  | short h =>
      have hshort : ∀ p ∈ shortEscapes, unescape p.2 = some p.1 := by decide
      exact one _ (.short (hshort _ h))
  | bare hb => exact one _ (.plain (plain_of_bare hb))
  | unit h => exact one _ (.unicode _)
  | pair h =>
      refine ⟨[unicodeEscape _, unicodeEscape _], by rw [List.flatten_cons, List.flatten_singleton], ?_⟩
      simpa using ⟨Piece.unicode _, Piece.unicode _⟩

lemma escape_pieces (s : PyStr) : ∃ ps : List Bytes, escape s = ps.flatten ∧ ∀ p ∈ ps, Piece p := by
  induction s with
  | nil => exact ⟨[], rfl, by simp⟩
  | cons c s ih =>
      obtain ⟨ps, hps, hpieces⟩ := ih
      obtain ⟨qs, hqs, hqpieces⟩ := escapeChar_pieces c
      refine ⟨qs ++ ps, by rw [escape_cons, hps, hqs, List.flatten_append], ?_⟩
      exact List.forall_mem_append.mpr ⟨hqpieces, hpieces⟩

lemma hex4_unicodeEscape (n : ℕ) (rest : Bytes) :
    hex4 ((unicodeEscape n).drop 2 ++ rest) = some (some (n % 0x10000)) := by
  have digit : ∀ m < 16, hexValue (hexChar m) = some m := by decide
  have hmod : ∀ m : ℕ, m % 16 < 16 := fun m => Nat.mod_lt _ (by decide)
  have hor : ∀ v d : ℕ, d < 16 → v <<< 4 ||| d = 16 * v + d := by
    intro v d hd
    rw [← Nat.shiftLeft_add_eq_or_of_lt (show d < 2 ^ 4 from hd), Nat.shiftLeft_eq, Nat.mul_comm]
  rw [hex4, unicodeEscape, List.drop_succ_cons, List.drop_succ_cons, List.drop_zero]
  simp only [List.cons_append, List.nil_append, hexRun, digit _ (hmod _), hor _ _ (hmod _)]
  congr 2
  omega

lemma readItem_unicode (n : ℕ) (rest : Bytes) : readItem (unicodeEscape n ++ rest)
    = (joinLow (n % 0x10000) rest).map fun (u, p) => .char (utf8 u) p := by
  have hdigits : ((unicodeEscape n).drop 2).length = 4 := rfl
  have htext : unicodeEscape n ++ rest = backslash :: oct 'u' :: ((unicodeEscape n).drop 2 ++ rest) := rfl
  rw [htext, readItem.eq_def]
  simp only [show ¬ (backslash = 0 ∨ backslash = quote) by decide, if_false, if_true,
    show unescape (oct 'u') = none from rfl, hex4_unicodeEscape, List.drop_left' hdigits]

lemma joinLow_other {u : ℕ} (h : ¬ (0xD800 ≤ u ∧ u ≤ 0xDBFF)) (p : Bytes) : joinLow u p = some (u, p) := by
  rw [joinLow.eq_def, if_neg h]

lemma joinLow_unicode {hi : ℕ} (hhi : 0xD800 ≤ hi ∧ hi ≤ 0xDBFF) (n : ℕ) (rest : Bytes) :
    joinLow hi (unicodeEscape n ++ rest)
      = if 0xDC00 ≤ n % 0x10000 ∧ n % 0x10000 ≤ 0xDFFF then
          some (0x10000 + ((hi - 0xD800) <<< 10) + (n % 0x10000 - 0xDC00), rest)
        else some (hi, unicodeEscape n ++ rest) := by
  have hdigits : ((unicodeEscape n).drop 2).length = 4 := rfl
  have htext : unicodeEscape n ++ rest = backslash :: oct 'u' :: ((unicodeEscape n).drop 2 ++ rest) := rfl
  rw [joinLow.eq_def, if_pos hhi, htext]
  simp only [if_true, hex4_unicodeEscape, List.drop_left' hdigits]

/-- Behind `\uXXXX` in a literal a low surrogate is joined, or nothing. -/
lemma joinLow_pieces (u : ℕ) {ps : List Bytes} (hps : ∀ p ∈ ps, Piece p) (rest : Bytes) :
    ∃ u' qs, qs <:+ ps ∧
      joinLow u (ps.flatten ++ quote :: rest) = some (u', qs.flatten ++ quote :: rest) := by
  have same : ∀ {r}, r = some (u, ps.flatten ++ quote :: rest) →
      ∃ u' qs, qs <:+ ps ∧ r = some (u', qs.flatten ++ quote :: rest) :=
    fun h => ⟨u, ps, List.suffix_rfl, h⟩
  by_cases hhigh : 0xD800 ≤ u ∧ u ≤ 0xDBFF
  · cases ps with
    | nil => exact same (by rw [joinLow.eq_def, if_pos hhigh]; rfl)
    | cons p ps =>
        cases hps p List.mem_cons_self with
        | plain hb => exact same (by rw [joinLow.eq_def, if_pos hhigh]; simp [hb.2.2])
        | @short e x he =>
            have hne : e ≠ oct 'u' := by
              rintro rfl
              rw [show unescape (oct 'u') = none from rfl] at he
              simp at he
            exact same (by rw [joinLow.eq_def, if_pos hhigh]; simp [hne])
        | unicode n =>
            rw [List.flatten_cons, List.append_assoc, joinLow_unicode hhigh]
            split_ifs
            · exact ⟨_, ps, List.suffix_cons _ ps, rfl⟩
            · exact ⟨u, unicodeEscape n :: ps, List.suffix_rfl, by rw [List.flatten_cons, List.append_assoc]⟩
  · exact same (joinLow_other hhigh _)

/-- The reader takes one piece of a literal, or two. -/
lemma readItem_pieces {p : Bytes} (hp : Piece p) {ps : List Bytes} (hps : ∀ q ∈ ps, Piece q)
    (rest : Bytes) : ∃ octets qs, qs <:+ ps ∧
      readItem ((p :: ps).flatten ++ quote :: rest) = some (.char octets (qs.flatten ++ quote :: rest)) := by
  rw [List.flatten_cons, List.append_assoc]
  cases hp with
  | @plain b hb => exact ⟨[b], ps, List.suffix_rfl, readItem_plain hb _⟩
  | @short e x he => exact ⟨[x], ps, List.suffix_rfl, readItem_short he _⟩
  | unicode n =>
      obtain ⟨u, qs, hqs, hjoin⟩ := joinLow_pieces (n % 0x10000) hps rest
      exact ⟨utf8 u, qs, hqs, by rw [readItem_unicode, hjoin, Option.map_some]⟩

/-- **A written string is read to its closing quote**, whatever it says. -/
theorem contents_escape (s : PyStr) (rest : Bytes) :
    ∃ c, contents (escape s ++ quote :: rest) = some c ∧ c.complete = true := by
  obtain ⟨ps, hps, hpieces⟩ := escape_pieces s
  rw [hps]
  clear hps
  induction hn : ps.length using Nat.strongRecOn generalizing ps with
  | ind n ih =>
      cases ps with
      | nil => exact ⟨⟨[], true⟩, contents_done rfl, rfl⟩
      | cons p ps =>
          have hrest : ∀ q ∈ ps, Piece q := fun q hq => hpieces q (List.mem_cons_of_mem _ hq)
          obtain ⟨octets, qs, hqs, hitem⟩ :=
            readItem_pieces (hpieces p List.mem_cons_self) hrest rest
          have hless : qs.length < n := by
            have := hqs.length_le
            simp only [List.length_cons] at hn
            omega
          obtain ⟨c, hc, hcomplete⟩ := ih _ hless qs (fun q hq => hrest q (hqs.subset hq)) rfl
          exact ⟨⟨octets :: c.chars, c.complete⟩, by rw [contents_char hitem, hc, Option.map_some],
            hcomplete⟩

end Sudonit
