import Mathlib.Data.List.TakeWhile
import Sudonit.Protocol.Lookup

/-!
# Numbers in flat objects

Flat JSON objects as texts, with the white space, the escapes and the number forms JSON has, and what
`sd_json_get_uint` makes of the number a key maps to.

* `FlatObject` — the texts; `Spells` says which key a member's name spells.
* `Reaches` — what the lookup comes to: the digits behind the first occurrence of the quoted key, a colon
  and blanks.  `sdJsonGetUint_reaches` and `sdJsonGetUint_misses` are the function in these terms.
* `reads_number_iff` — when the token a key maps to is read for what it is.
-/

namespace Sudonit

open Octets CText

/-! ## Texts of flat objects -/

/-- JSON white space. -/
def isWhite (b : UInt8) : Bool := b = oct ' ' || b = oct '\t' || b = oct '\n' || b = oct '\r'

abbrev White := { bs : Bytes // ∀ b ∈ bs, isWhite b }

abbrev Digits := { ds : Bytes // ds ≠ [] ∧ ∀ b ∈ ds, isDigit b }

/-- The inside of a string literal, and the string it spells. -/
inductive Spells : Bytes → Bytes → Prop
  | nil : Spells [] []
  | plain {b : UInt8} {s t : Bytes} (hb : 0x20 ≤ b ∧ b ≠ quote ∧ b ≠ backslash) (h : Spells s t) :
      Spells (b :: s) (b :: t)
  | short {e x : UInt8} {s t : Bytes} (he : unescape e = some x) (h : Spells s t) :
      Spells (backslash :: e :: s) (x :: t)
  | unicode {ds s t : Bytes} {n : ℕ} (hlen : ds.length = 4) (hds : hex4 ds = some (some n)) (h : Spells s t) :
      Spells (backslash :: oct 'u' :: (ds ++ s)) (utf8 n ++ t)
  | pair {hs ls s t : Bytes} {hi lo : ℕ} (hlen : hs.length = 4 ∧ ls.length = 4)
      (hhi : hex4 hs = some (some hi) ∧ 0xD800 ≤ hi ∧ hi ≤ 0xDBFF)
      (hlo : hex4 ls = some (some lo) ∧ 0xDC00 ≤ lo ∧ lo ≤ 0xDFFF) (h : Spells s t) :
      Spells (backslash :: oct 'u' :: (hs ++ backslash :: oct 'u' :: (ls ++ s)))
        (utf8 (0x10000 + ((hi - 0xD800) <<< 10) + (lo - 0xDC00)) ++ t)

abbrev Literal := { s : Bytes // ∃ t, Spells s t }

/-- `e`, a sign or none, and digits. -/
structure Exponent where
  marker : UInt8
  sign : Bytes
  digits : Digits
  marker_ok : marker = oct 'e' ∨ marker = oct 'E'
  sign_ok : sign = [] ∨ sign = [oct '+'] ∨ sign = [oct '-']

/-- A JSON number as it is written. -/
structure NumberToken where
  negative : Bool
  int : Digits
  fraction : Option Digits
  exponent : Option Exponent
  no_leading_zero : int.val.length = 1 ∨ int.val.head? ≠ some (oct '0')

/-- What follows the integer part. -/
def NumberToken.tail (t : NumberToken) : Bytes :=
  (match t.fraction with
    | none => []
    | some ds => oct '.' :: ds.val) ++
  match t.exponent with
    | none => []
    | some e => e.marker :: (e.sign ++ e.digits.val)

def NumberToken.text (t : NumberToken) : Bytes :=
  (if t.negative then [oct '-'] else []) ++ (t.int.val ++ t.tail)

/-- A non-negative integer literal below `2 ^ 32`. -/
def NumberToken.IsUint32 (t : NumberToken) : Prop :=
  t.negative = false ∧ t.fraction = none ∧ t.exponent = none ∧ decimalValue t.int.val < 2 ^ 32

instance (t : NumberToken) : Decidable t.IsUint32 :=
  inferInstanceAs (Decidable (_ ∧ t.fraction = none ∧ t.exponent = none ∧ _))

/-- A value of a flat object. -/
inductive FlatValue
  | string (s : Literal)
  | number (t : NumberToken)
  | word (w : { w : Bytes // w ∈ ["true", "false", "null"].map ascii })

def FlatValue.text : FlatValue → Bytes
  | .string s => quote :: (s.val ++ [quote])
  | .number t => t.text
  | .word w => w.val

/-- A member with the white space around its parts. -/
structure Member where
  before : White
  name : Literal
  gap₁ : White
  gap₂ : White
  value : FlatValue
  after : White

/-- The member behind its name. -/
def Member.rest (m : Member) : Bytes :=
  m.gap₁.val ++ oct ':' :: (m.gap₂.val ++ (m.value.text ++ m.after.val))

def Member.text (m : Member) : Bytes := m.before.val ++ quote :: (m.name.val ++ quote :: m.rest)

/-- A flat object with the white space around it. -/
structure FlatObject where
  before : White
  members : List Member
  after : White

def FlatObject.text (o : FlatObject) : Bytes :=
  o.before.val ++ oct '{' :: (Python.commaJoin (o.members.map Member.text) ++ oct '}' :: o.after.val)

/-- The text in front of the name of the member behind these. -/
def FlatObject.front (o : FlatObject) (pre : List Member) (m : Member) : Bytes :=
  o.before.val ++ oct '{' :: (pre.flatMap (fun x => x.text ++ [oct ',']) ++ m.before.val)

/-- The text behind the member in front of these. -/
def FlatObject.back (o : FlatObject) (post : List Member) : Bytes :=
  post.flatMap (fun x => oct ',' :: x.text) ++ oct '}' :: o.after.val

lemma commaJoin_cons (b : Bytes) (post : List Bytes) :
    Python.commaJoin (b :: post) = b ++ post.flatMap (fun x => oct ',' :: x) := by
  induction post generalizing b with
  | nil => simp [Python.commaJoin]
  | cons c post ih =>
      rw [Python.commaJoin, ih, List.flatMap_cons]
      rfl

lemma commaJoin_split (pre : List Bytes) (b : Bytes) (post : List Bytes) :
    Python.commaJoin (pre ++ b :: post)
      = pre.flatMap (fun x => x ++ [oct ',']) ++ (b ++ post.flatMap (fun x => oct ',' :: x)) := by
  induction pre with
  | nil => exact commaJoin_cons b post
  | cons c pre ih =>
      have hne : pre ++ b :: post ≠ [] := by simp
      obtain ⟨d, ds, hcons⟩ := List.exists_cons_of_ne_nil hne
      rw [List.cons_append, hcons, Python.commaJoin, ← hcons, ih, List.flatMap_cons, List.append_assoc,
        List.append_assoc, List.singleton_append]

/-- The text taken apart at a member. -/
lemma FlatObject.text_split (o : FlatObject) {pre post : List Member} {m : Member}
    (hm : o.members = pre ++ m :: post) :
    o.text = o.front pre m ++ (quote :: (m.name.val ++ quote :: (m.rest ++ o.back post))) := by
  rw [FlatObject.text, hm, List.map_append, List.map_cons, commaJoin_split, List.flatMap_map,
    List.flatMap_map, FlatObject.front, FlatObject.back, Member.text]
  simp only [List.append_assoc, List.cons_append]

/-! ## No terminator inside -/

lemma isWhite_zero : isWhite 0 = false := rfl

lemma White.no_nul (w : White) : 0 ∉ w.val := by
  intro h
  have := w.property 0 h
  rw [isWhite_zero] at this
  simp at this

lemma Digits.no_nul (ds : Digits) : 0 ∉ ds.val := by
  intro h
  exact absurd (ds.property.2 0 h) (by decide)

lemma hexRun_no_nul {ds : Bytes} {k v n : ℕ} (hlen : ds.length = k) (h : hexRun k v ds = some (some n)) :
    0 ∉ ds := by
  induction k generalizing ds v with
  | zero => simp [List.length_eq_zero_iff.mp hlen]
  | succ k ih =>
      cases ds with
      | nil => simp at hlen
      | cons c ds =>
          rw [hexRun] at h
          cases hc : hexValue c with
          | none => simp [hc] at h
          | some d =>
              rw [hc] at h
              have hne : c ≠ 0 := by
                rintro rfl
                rw [hexValue_zero] at hc
                simp at hc
              exact List.not_mem_cons_of_ne_of_not_mem hne.symm (ih (by simpa using hlen) h)

lemma Spells.no_nul {s t : Bytes} (h : Spells s t) : 0 ∉ s := by
  induction h with
  | nil => simp
  | plain hb _ ih =>
      refine List.not_mem_cons_of_ne_of_not_mem ?_ ih
      rintro rfl
      exact absurd hb.1 (by decide)
  | @short e x s t he _ ih =>
      have hne : e ≠ 0 := by
        rintro rfl
        rw [show unescape 0 = none from rfl] at he
        simp at he
      simpa [show (0 : UInt8) ≠ backslash by decide, hne.symm] using ih
  | unicode hlen hds _ ih =>
      simpa [show (0 : UInt8) ≠ backslash by decide, show (0 : UInt8) ≠ oct 'u' by decide]
        using ⟨hexRun_no_nul hlen hds, ih⟩
  | pair hlen hhi hlo _ ih =>
      simpa [show (0 : UInt8) ≠ backslash by decide, show (0 : UInt8) ≠ oct 'u' by decide]
        using ⟨hexRun_no_nul hlen.1 hhi.1, hexRun_no_nul hlen.2 hlo.1, ih⟩

lemma NumberToken.no_nul (t : NumberToken) : 0 ∉ t.text := by
  have hfraction : 0 ∉ (match t.fraction with | none => [] | some ds => oct '.' :: ds.val) := by
    cases t.fraction with
    | none => simp
    | some ds => exact List.not_mem_cons_of_ne_of_not_mem (by decide) ds.no_nul
  have hexponent : 0 ∉ (match t.exponent with | none => [] | some e => e.marker :: (e.sign ++ e.digits.val)) := by
    cases t.exponent with
    | none => simp
    | some e =>
        have hsign : 0 ∉ e.sign := by
          rcases e.sign_ok with h | h | h <;> rw [h] <;> decide
        have hmarker : 0 ≠ e.marker := by
          rcases e.marker_ok with h | h <;> rw [h] <;> decide
        exact List.not_mem_cons_of_ne_of_not_mem hmarker (by simp [hsign, e.digits.no_nul])
  have hsign : 0 ∉ (if t.negative then [oct '-'] else []) := by split_ifs <;> decide
  rw [NumberToken.text, NumberToken.tail]
  simp only [List.mem_append, not_or]
  exact ⟨hsign, t.int.no_nul, hfraction, hexponent⟩

lemma FlatValue.no_nul (v : FlatValue) : 0 ∉ v.text := by
  cases v with
  | string s =>
      obtain ⟨t, ht⟩ := s.property
      simp [FlatValue.text, show (0 : UInt8) ≠ quote by decide, ht.no_nul]
  | number t => exact t.no_nul
  | word w =>
      have : ∀ w ∈ ["true", "false", "null"].map ascii, 0 ∉ w := by decide
      exact this w.val w.property

lemma Member.no_nul (m : Member) : 0 ∉ m.text := by
  obtain ⟨t, ht⟩ := m.name.property
  simp [Member.text, Member.rest, m.before.no_nul, ht.no_nul, m.gap₁.no_nul, m.gap₂.no_nul,
    m.value.no_nul, m.after.no_nul, show (0 : UInt8) ≠ quote by decide, show (0 : UInt8) ≠ oct ':' by decide]

/-- The text of an object is a C string. -/
lemma FlatObject.no_nul (o : FlatObject) : 0 ∉ o.text := by
  have hjoin : ∀ ms : List Member, 0 ∉ Python.commaJoin (ms.map Member.text) := by
    intro ms
    cases ms with
    | nil => simp [Python.commaJoin]
    | cons m ms =>
        rw [List.map_cons, commaJoin_cons]
        simp only [List.mem_append, List.mem_flatMap, List.mem_map, List.mem_cons, not_or, not_exists,
          not_and]
        refine ⟨m.no_nul, ?_⟩
        rintro _ ⟨x, -, rfl⟩
        exact ⟨by decide, x.no_nul⟩
  simp [FlatObject.text, o.before.no_nul, o.after.no_nul, hjoin, show (0 : UInt8) ≠ oct '{' by decide,
    show (0 : UInt8) ≠ oct '}' by decide]

/-! ## What the lookup comes to -/

/-- The quoted key fits its buffer, and behind its first occurrence stand a colon, with blanks around it,
and these digits. -/
structure Reaches (text key ds : Bytes) : Prop where
  short : key.length < 62
  nonempty : ds ≠ []
  digits : ∀ b ∈ ds, isDigit b
  place : ∃ a g₁ g₂ rest, text = a ++ (needle key ++ (g₁ ++ oct ':' :: (g₂ ++ (ds ++ rest)))) ∧
    FirstBehind (needle key) a ∧ (∀ b ∈ g₁, isGap b) ∧ (∀ b ∈ g₂, isGap b) ∧
    ∀ c p, rest = c :: p → isDigit c = false

lemma skipGap_append {g : Bytes} (hg : ∀ b ∈ g, isGap b) {c : UInt8} (hc : isGap c = false) (p : Bytes) :
    skipGap (g ++ c :: p) = some (c :: p) := by
  induction g with
  | nil => rw [List.nil_append, skipGap, hc]; rfl
  | cons b g ih =>
      rw [List.cons_append, skipGap, hg b List.mem_cons_self]
      exact ih fun x hx => hg x (List.mem_cons_of_mem _ hx)

lemma skipGap_some {p q : Bytes} {c : UInt8} (h : skipGap p = some (c :: q)) :
    ∃ g, p = g ++ c :: q ∧ ∀ b ∈ g, isGap b := by
  induction p with
  | nil => simp [skipGap] at h
  | cons b p ih =>
      rw [skipGap] at h
      split_ifs at h with hgap
      · obtain ⟨g, rfl, hg⟩ := ih h
        exact ⟨b :: g, rfl, List.forall_mem_cons.mpr ⟨hgap, hg⟩⟩
      · exact ⟨[], by rw [Option.some.inj h]; rfl, by simp⟩

/-- Behind a zero octet there is nothing of the text. -/
lemma split_at_nul {x b text junk : Bytes} (hx : 0 ∉ x) (h : x ++ b = text ++ 0 :: junk) :
    ∃ rest, text = x ++ rest ∧ b = rest ++ 0 :: junk := by
  rcases List.append_eq_append_iff.mp h with ⟨rest, rfl, rfl⟩ | ⟨t, rfl, ht⟩
  · exact ⟨rest, rfl, rfl⟩
  · cases t with
    | nil => exact ⟨[], by simp, by simpa using ht.symm⟩
    | cons c t =>
        rw [List.cons_append, List.cons.injEq] at ht
        exact absurd (by simp [ht.1]) hx

/-- The pointer behind the first occurrence of the quoted key, a colon and the blanks. -/
lemma locate_place {text key a g₁ g₂ p : Bytes} {c : UInt8} (htext : 0 ∉ text) (hshort : key.length < 62)
    (hplace : text = a ++ (needle key ++ (g₁ ++ oct ':' :: (g₂ ++ c :: p))))
    (hfirst : FirstBehind (needle key) a) (hg₁ : ∀ b ∈ g₁, isGap b) (hg₂ : ∀ b ∈ g₂, isGap b)
    (hc : isGap c = false) (junk : Bytes) :
    locate (text ++ 0 :: junk) key = some (some (c :: (p ++ 0 :: junk))) := by
  have hlen : ¬ 64 ≤ (needle key).length := by
    simp only [needle, List.length_append, List.length_cons, List.length_nil]
    omega
  rw [locate, if_neg hlen, strstr_append htext, hplace, find_first hfirst]
  simp only [Option.map_some, List.append_assoc, List.drop_left]
  rw [behindColon, List.cons_append, skipGap_append hg₁ (by decide)]
  simp only [if_true]
  rw [List.append_assoc, List.cons_append, skipGap_append hg₂ hc, Option.map_some]

/-- Digits up to an octet that is none are read modulo `2 ^ 32`. -/
lemma read_digits {ds rest : Bytes} (hne : ds ≠ []) (hds : ∀ b ∈ ds, isDigit b)
    (hrest : ∀ c p, rest = c :: p → isDigit c = false) (junk : Bytes) :
    ∃ d ds', ds = d :: ds' ∧ isDigit d ∧
      digitLoop (d :: (ds' ++ (rest ++ 0 :: junk))) 0 = some (decimalValue ds % 2 ^ 32) := by
  obtain ⟨d, ds', rfl⟩ := List.exists_cons_of_ne_nil hne
  obtain ⟨c, p, hcons, hc⟩ : ∃ c p, rest ++ 0 :: junk = c :: p ∧ isDigit c = false := by
    cases rest with
    | nil => exact ⟨0, junk, rfl, by decide⟩
    | cons c p => exact ⟨c, p ++ 0 :: junk, rfl, hrest c p rfl⟩
  have hloop := digitLoop_append hds hc p 0
  rw [Nat.zero_mod, List.cons_append, ← hcons] at hloop
  exact ⟨d, ds', rfl, hds d List.mem_cons_self, hloop⟩

/-- **The digits reached are read**, modulo `2 ^ 32`. -/
theorem sdJsonGetUint_reaches {text key ds : Bytes} (htext : 0 ∉ text) (h : Reaches text key ds)
    (junk : Bytes) :
    sdJsonGetUint (text ++ 0 :: junk) key = some (.ok (decimalValue ds % 2 ^ 32)) := by
  obtain ⟨a, g₁, g₂, rest, hplace, hfirst, hg₁, hg₂, hrest⟩ := h.place
  obtain ⟨d, ds', rfl, hd, hloop⟩ := read_digits h.nonempty h.digits hrest junk
  rw [List.cons_append] at hplace
  rw [sdJsonGetUint, locate_place htext h.short hplace hfirst hg₁ hg₂ (isGap_of_isDigit hd),
    List.append_assoc]
  simp only [hd, if_true, hloop, Option.map_some]

/-- Where the lookup comes to: behind the first occurrence of the quoted key and a colon between blanks. -/
lemma locate_some {text key junk : Bytes} (htext : 0 ∉ text) {c : UInt8} {q : Bytes}
    (h : locate (text ++ 0 :: junk) key = some (some (c :: q))) :
    key.length < 62 ∧ ∃ a g₁ g₂ r, text = a ++ (needle key ++ r) ∧ FirstBehind (needle key) a ∧
      r ++ 0 :: junk = g₁ ++ oct ':' :: (g₂ ++ c :: q) ∧ (∀ b ∈ g₁, isGap b) ∧ ∀ b ∈ g₂, isGap b := by
  by_cases hlen : 64 ≤ (needle key).length
  · rw [locate, if_pos hlen] at h
    simp at h
  rw [locate, if_neg hlen, strstr_append htext] at h
  have hshort : key.length < 62 := by
    simp only [needle, List.length_append, List.length_cons, List.length_nil] at hlen
    omega
  cases hfind : find (needle key) text with
  | none => simp [hfind] at h
  | some r =>
      obtain ⟨a, r', rfl, rfl, hfirst⟩ := find_some_split (by simp [needle]) hfind
      simp only [hfind, Option.map_some, List.append_assoc, List.drop_left] at h
      rw [behindColon] at h
      cases hgap : skipGap (r' ++ 0 :: junk) with
      | none => simp [hgap] at h
      | some p =>
          cases p with
          | nil => simp [hgap] at h
          | cons x p =>
              simp only [hgap] at h
              by_cases hcolon : x ≠ oct ':'
              · rw [if_neg hcolon] at h
                simp at h
              obtain rfl := not_not.mp hcolon
              rw [if_pos rfl, Option.map_eq_some_iff] at h
              obtain ⟨p', hgap', heq⟩ := h
              rw [Option.some.injEq] at heq
              subst heq
              obtain ⟨g₁, hr', hg₁⟩ := skipGap_some hgap
              obtain ⟨g₂, rfl, hg₂⟩ := skipGap_some hgap'
              exact ⟨hshort, a, g₁, g₂, r', rfl, hfirst, hr', hg₁, hg₂⟩

/-- A digit that is reached is the first of some. -/
lemma reaches_of_locate {text key junk : Bytes} (htext : 0 ∉ text) {c : UInt8} {q : Bytes}
    (h : locate (text ++ 0 :: junk) key = some (some (c :: q))) (hc : isDigit c) :
    ∃ ds, Reaches text key ds := by
  obtain ⟨hshort, a, g₁, g₂, r, rfl, hfirst, hr, hg₁, hg₂⟩ := locate_some htext h
  -- The digits end in front of the terminator, and so does all that stands before them.
  have hdigits : ∀ b ∈ (c :: q).takeWhile isDigit, isDigit b := fun b hb => List.mem_takeWhile_imp hb
  have hnul : 0 ∉ g₁ ++ oct ':' :: (g₂ ++ (c :: q).takeWhile isDigit) := by
    simp only [List.mem_append, List.mem_cons, not_or]
    exact ⟨fun hz => absurd (hg₁ 0 hz) (by decide), by decide,
      fun hz => absurd (hg₂ 0 hz) (by decide), fun hz => absurd (hdigits 0 hz) (by decide)⟩
  obtain ⟨rest, rfl, hrest⟩ := split_at_nul (b := (c :: q).dropWhile isDigit) hnul (by
    rw [hr, List.append_assoc, List.cons_append, List.append_assoc, List.takeWhile_append_dropWhile])
  refine ⟨(c :: q).takeWhile isDigit, hshort, by simp [hc], hdigits,
    a, g₁, g₂, rest, by simp only [List.append_assoc, List.cons_append], hfirst, hg₁, hg₂, ?_⟩
  rintro y p rfl
  have hhead := List.head?_dropWhile_not isDigit (c :: q)
  rw [hrest] at hhead
  simpa using hhead

/-- Where no digits are reached nothing is read. -/
theorem sdJsonGetUint_misses {text key : Bytes} (htext : 0 ∉ text) (h : ∀ ds, ¬ Reaches text key ds)
    (junk : Bytes) : sdJsonGetUint (text ++ 0 :: junk) key = some (.error .invalid) := by
  have hterminated : 0 ∈ text ++ 0 :: junk := by simp
  obtain ⟨r, hr, hptr⟩ := locate_terminated hterminated key
  rw [sdJsonGetUint, hr]
  cases r with
  | none => rfl
  | some p =>
      obtain ⟨c, q, rfl, -⟩ := hptr p rfl
      have hc : ¬ isDigit c := by
        intro hc
        obtain ⟨ds, hds⟩ := reaches_of_locate htext hr hc
        exact h ds hds
      simp only [hc]
      rfl

/-! ## When a number is read for what it is -/

/-- In the object the key maps to the number: a member behind these spells the key and has it. -/
structure FlatObject.Maps (o : FlatObject) (key : Bytes) (pre : List Member) (m : Member)
    (t : NumberToken) : Prop where
  member : ∃ post, o.members = pre ++ m :: post
  spells : Spells m.name.val key
  number : m.value = .number t

/-- The lookup comes to this member: the quoted key fits its buffer, it is the member's name and occurs
nowhere in front of it, and there are only blanks and tabs around the colon. -/
structure FlatObject.Finds (o : FlatObject) (key : Bytes) (pre : List Member) (m : Member) : Prop where
  short : key.length < 62
  name : m.name.val = key
  first : FirstBehind (needle key) (o.front pre m)
  gap₁ : ∀ b ∈ m.gap₁.val, isGap b
  gap₂ : ∀ b ∈ m.gap₂.val, isGap b

/-- The number is returned if it is a non-negative integer literal below `2 ^ 32`, and
`SD_ERR_INVALID` otherwise. -/
def ReadsNumber (r : Option (Except SdErr ℕ)) (t : NumberToken) : Prop :=
  r = some (if t.IsUint32 then .ok (decimalValue t.int.val) else .error .invalid)

lemma isDigit_of_isWhite {b : UInt8} (h : isWhite b) : isDigit b = false := by
  simp only [isWhite, Bool.or_eq_true, decide_eq_true_eq] at h
  rcases h with ((rfl | rfl) | rfl) | rfl <;> decide

/-- Behind the integer part stands no digit. -/
lemma FlatObject.back_no_digit (o : FlatObject) (t : NumberToken) (w : White) (post : List Member) :
    ∀ c p, t.tail ++ (w.val ++ o.back post) = c :: p → isDigit c = false := by
  have hback : ∀ c p, w.val ++ o.back post = c :: p → isDigit c = false := by
    intro c p h
    obtain ⟨ws, hws⟩ := w
    cases ws with
    | nil =>
        cases post <;>
          · simp only [FlatObject.back, List.flatMap_nil, List.flatMap_cons, List.nil_append,
              List.cons_append, List.cons.injEq] at h
            rw [← h.1]
            decide
    | cons b ws =>
        rw [List.cons_append, List.cons.injEq] at h
        rw [← h.1]
        exact isDigit_of_isWhite (hws b List.mem_cons_self)
  intro c p h
  rw [NumberToken.tail] at h
  cases hfraction : t.fraction with
  | some ds =>
      simp only [hfraction, List.cons_append, List.cons.injEq] at h
      rw [← h.1]
      decide
  | none =>
      cases hexponent : t.exponent with
      | some e =>
          simp only [hfraction, hexponent, List.nil_append, List.cons_append, List.cons.injEq] at h
          rw [← h.1]
          rcases e.marker_ok with hmarker | hmarker <;> rw [hmarker] <;> decide
      | none =>
          simp only [hfraction, hexponent, List.nil_append] at h
          exact hback c p h

/-- What the lookup makes of the number it comes to. -/
lemma sdJsonGetUint_finds {o : FlatObject} {key : Bytes} {pre : List Member} {m : Member} {t : NumberToken}
    (hmaps : o.Maps key pre m t) (hfinds : o.Finds key pre m) (junk : Bytes) :
    sdJsonGetUint (o.text ++ 0 :: junk) key
      = some (if t.negative then .error .invalid else .ok (decimalValue t.int.val % 2 ^ 32)) := by
  obtain ⟨post, hm⟩ := hmaps.member
  have hplace : o.text = o.front pre m ++ (needle key ++ (m.gap₁.val ++ oct ':' :: (m.gap₂.val ++
      (t.text ++ (m.after.val ++ o.back post))))) := by
    rw [o.text_split hm, hfinds.name, Member.rest, hmaps.number, FlatValue.text, needle]
    simp only [List.append_assoc, List.cons_append, List.nil_append]
  have hlocate : ∀ {c p}, t.text ++ (m.after.val ++ o.back post) = c :: p → isGap c = false →
      locate (o.text ++ 0 :: junk) key = some (some (c :: (p ++ 0 :: junk))) := by
    intro c p htext hc
    rw [htext] at hplace
    exact locate_place o.no_nul hfinds.short hplace hfinds.first hfinds.gap₁ hfinds.gap₂ hc junk
  cases hneg : t.negative with
  | true =>
      have htext : t.text ++ (m.after.val ++ o.back post)
          = oct '-' :: (t.int.val ++ t.tail ++ (m.after.val ++ o.back post)) := by
        rw [NumberToken.text, hneg]
        rfl
      rw [sdJsonGetUint, hlocate htext (by decide)]
      rfl
  | false =>
      obtain ⟨d, ds, hint, hd, hloop⟩ := read_digits t.int.property.1 t.int.property.2
        (o.back_no_digit t m.after post) junk
      have htext : t.text ++ (m.after.val ++ o.back post)
          = d :: (ds ++ (t.tail ++ (m.after.val ++ o.back post))) := by
        rw [NumberToken.text, hneg, hint]
        simp only [Bool.false_eq_true, if_false, List.nil_append, List.append_assoc, List.cons_append]
      rw [sdJsonGetUint, hlocate htext (isGap_of_isDigit hd)]
      simp only [hd, if_true, List.append_assoc] at hloop ⊢
      rw [hloop]
      rfl

/-- **When a number is read for what it is.**  In a flat object that maps the key to a number
`sd_json_get_uint` returns it if it is a non-negative integer literal below `2 ^ 32`, and
`SD_ERR_INVALID` otherwise, exactly if

* where the lookup comes to that member, the number has a minus sign or is such a literal;
* where it does not, either it comes to no digits and the number is no such literal, or the number is
  one and agrees with the digits it comes to. -/
theorem reads_number_iff {o : FlatObject} {key : Bytes} {pre : List Member} {m : Member} {t : NumberToken}
    (hmaps : o.Maps key pre m t) (junk : Bytes) :
    ReadsNumber (sdJsonGetUint (o.text ++ 0 :: junk) key) t ↔
      (o.Finds key pre m → t.negative = true ∨ t.IsUint32) ∧
      (¬ o.Finds key pre m →
        ((∀ ds, ¬ Reaches o.text key ds) ∧ ¬ t.IsUint32) ∨
        (t.IsUint32 ∧ ∃ ds, Reaches o.text key ds ∧ decimalValue ds % 2 ^ 32 = decimalValue t.int.val)) := by
  have hmod : t.IsUint32 → decimalValue t.int.val % 2 ^ 32 = decimalValue t.int.val :=
    fun huint => Nat.mod_eq_of_lt huint.2.2.2
  by_cases hfinds : o.Finds key pre m
  · rw [and_iff_left fun h => absurd hfinds h, imp_iff_right hfinds, sdJsonGetUint_finds hmaps hfinds,
      ReadsNumber]
    by_cases huint : t.IsUint32
    · rw [huint.1, hmod huint]
      simp [huint]
    · cases hneg : t.negative <;> simp [huint]
  · rw [and_iff_right fun h => absurd h hfinds, imp_iff_right hfinds, ReadsNumber]
    by_cases hreach : ∃ ds, Reaches o.text key ds
    · have hread : ∀ ds, Reaches o.text key ds →
          sdJsonGetUint (o.text ++ 0 :: junk) key = some (.ok (decimalValue ds % 2 ^ 32)) :=
        fun ds hds => sdJsonGetUint_reaches o.no_nul hds junk
      obtain ⟨ds, hds⟩ := hreach
      by_cases huint : t.IsUint32
      · rw [if_pos huint]
        constructor
        · intro h
          rw [hread ds hds, Option.some.injEq, Except.ok.injEq] at h
          exact Or.inr ⟨huint, ds, hds, h⟩
        · rintro (⟨-, hno⟩ | ⟨-, es, hes, hagree⟩)
          · exact absurd huint hno
          · rw [hread es hes, hagree]
      · rw [if_neg huint, hread ds hds]
        refine iff_of_false (by simp) ?_
        rintro (⟨hnone, -⟩ | ⟨hyes, -⟩)
        · exact hnone ds hds
        · exact huint hyes
    · rw [sdJsonGetUint_misses o.no_nul (not_exists.mp hreach)]
      by_cases huint : t.IsUint32
      · rw [if_pos huint]
        refine iff_of_false (by simp) ?_
        rintro (⟨-, hno⟩ | ⟨-, ds, hds, -⟩)
        · exact hno huint
        · exact hreach ⟨ds, hds⟩
      · rw [if_neg huint]
        exact iff_of_true rfl (Or.inl ⟨not_exists.mp hreach, huint⟩)

/-! ## Objects with one member -/

/-- A field name spells itself. -/
lemma spells_word {k : Bytes} (hk : ∀ b ∈ k, isWordChar b) : Spells k k := by
  induction k with
  | nil => exact .nil
  | cons b k ih =>
      obtain ⟨hb, hrest⟩ := List.forall_mem_cons.mp hk
      obtain ⟨hprint, hquote, hback⟩ := bare_of_wordChar hb
      exact .plain ⟨hprint.1, hquote, hback⟩ (ih hrest)

def noWhite : White := ⟨[], by simp⟩

lemma spells_size : Spells (ascii "size") (ascii "size") := spells_word (by decide)

/-- The size with that number, without white space. -/
def sizeMember (t : NumberToken) : Member :=
  ⟨noWhite, ⟨ascii "size", _, spells_size⟩, noWhite, noWhite, .number t, noWhite⟩

/-- The object that has only that size. -/
def sizeObject (t : NumberToken) : FlatObject := ⟨noWhite, [sizeMember t], noWhite⟩

lemma sizeObject_maps (t : NumberToken) : (sizeObject t).Maps (ascii "size") [] (sizeMember t) t :=
  ⟨⟨[], rfl⟩, spells_size, rfl⟩

/-- A number without a sign or an exponent. -/
def unsignedToken (int : Digits) (fraction : Option Digits)
    (h : int.val.length = 1 ∨ int.val.head? ≠ some (oct '0')) : NumberToken :=
  ⟨false, int, fraction, none, h⟩

/-- `4294967301`, which is `2 ^ 32 + 5`. -/
def wideToken : NumberToken := unsignedToken ⟨ascii "4294967301", by decide⟩ none (by decide)

/-- `1.5` -/
def fractionToken : NumberToken := unsignedToken ⟨ascii "1", by decide⟩ (some ⟨ascii "5", by decide⟩) (by decide)

lemma wideToken_read :
    sdJsonGetUint ((sizeObject wideToken).text ++ [0]) (ascii "size") = some (.ok 5) := by decide

lemma wideToken_misread : ¬ ReadsNumber (sdJsonGetUint ((sizeObject wideToken).text ++ [0]) (ascii "size")) wideToken := by
  have hnot : ¬ wideToken.IsUint32 := fun ⟨_, _, _, h⟩ => absurd h (by decide)
  rw [ReadsNumber, wideToken_read, if_neg hnot]
  simp

/-- **Numbers are misread**: `2 ^ 32 + 5` as `5`, and `1.5` as `1`. -/
theorem numbers_misread :
    ((sizeObject wideToken).text = ascii "\x7b\"size\":4294967301\x7d" ∧
      sdJsonGetUint ((sizeObject wideToken).text ++ [0]) (ascii "size") = some (.ok 5) ∧
      ¬ ReadsNumber (sdJsonGetUint ((sizeObject wideToken).text ++ [0]) (ascii "size")) wideToken) ∧
    (sizeObject fractionToken).text = ascii "\x7b\"size\":1.5\x7d" ∧
      sdJsonGetUint ((sizeObject fractionToken).text ++ [0]) (ascii "size") = some (.ok 1) ∧
      ¬ ReadsNumber (sdJsonGetUint ((sizeObject fractionToken).text ++ [0]) (ascii "size")) fractionToken := by
  have hfraction : sdJsonGetUint ((sizeObject fractionToken).text ++ [0]) (ascii "size") = some (.ok 1) := by
    decide
  have hnot : ¬ fractionToken.IsUint32 := by
    rintro ⟨-, h, -⟩
    simp [fractionToken, unsignedToken] at h
  refine ⟨⟨rfl, wideToken_read, wideToken_misread⟩, rfl, hfraction, ?_⟩
  rw [ReadsNumber, hfraction, if_neg hnot]
  simp

/-- `4294967301` again, which meets neither side. -/
theorem reads_number_iff_wide :
    (ReadsNumber (sdJsonGetUint ((sizeObject wideToken).text ++ 0 :: []) (ascii "size")) wideToken ↔
      ((sizeObject wideToken).Finds (ascii "size") [] (sizeMember wideToken) →
        wideToken.negative = true ∨ wideToken.IsUint32) ∧
      (¬ (sizeObject wideToken).Finds (ascii "size") [] (sizeMember wideToken) →
        ((∀ ds, ¬ Reaches (sizeObject wideToken).text (ascii "size") ds) ∧ ¬ wideToken.IsUint32) ∨
        (wideToken.IsUint32 ∧ ∃ ds, Reaches (sizeObject wideToken).text (ascii "size") ds ∧
          decimalValue ds % 2 ^ 32 = decimalValue wideToken.int.val))) ∧
      ¬ ReadsNumber (sdJsonGetUint ((sizeObject wideToken).text ++ 0 :: []) (ascii "size")) wideToken :=
  ⟨reads_number_iff (sizeObject_maps wideToken) [], wideToken_misread⟩

end Sudonit
