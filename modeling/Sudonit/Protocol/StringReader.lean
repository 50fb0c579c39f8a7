import Sudonit.Core.Effect
import Sudonit.Protocol.MessagesC

/-!
# What the string reader touches

`sd_json_get_string` once more, with its pointer an index into the text and every octet it reads or writes
put down in a list.  The text is memory without an end, so nothing but the code keeps the index in front of
the terminator, and a loop runs as long as it has steps left.

* `TextIn` — a text in memory; `TextIn.rest` what a pointer into it points to.
* `Runs` — what a computation reads, writes and returns; `Runs.bind` is the rule of sequences.
* `sdJsonGetString_runs` — the reader does what the one of `Protocol.JsonC` says, in bounds and in a number
  of steps that the length of the text bounds.
* `string_reader_in_bounds` — for every text, key and buffer.
-/

namespace Sudonit

open Octets CText

/-! ## Memory -/

/-- A text in memory: the octets from its first on, and where its terminator is. -/
structure TextIn (target : Target) where
  octets : ℕ → UInt8
  stop : ℕ
  ends : octets stop = 0
  goes_on : ∀ i < stop, octets i ≠ 0
  addressable : stop < target.sizeModulus

/-- What the pointer `p` points to, up to the terminator. -/
def TextIn.rest {target : Target} (t : TextIn target) (p : ℕ) : Bytes :=
  (List.range' p (t.stop + 1 - p)).map t.octets

/-- An octet of the text read, or one of `out` written. -/
inductive TextAccess
  | read (i : ℕ)
  | write (i : ℕ)
  deriving DecidableEq, Repr

/-- The octet is one of the text with its terminator, or of `out`. -/
def TextAccess.InBounds (stop cap : ℕ) : TextAccess → Prop
  | .read i => i ≤ stop
  | .write i => i < cap

/-- The buffer, and the accesses so far. -/
structure Scan where
  out : Bytes
  log : List TextAccess

/-- Why the reader stopped: the code it returns, or no steps left. -/
inductive ScanHalt
  | code (e : SdErr)
  | unfinished
  deriving DecidableEq

namespace StringReader

variable {target : Target}

/-- `*p`. -/
def look (t : TextIn target) (p : ℕ) : Effect Scan ScanHalt UInt8 := ⟨fun s =>
  (.ok (t.octets p), { s with log := s.log ++ [.read p] })⟩

/-- `out[i] = x`. -/
def assign (i : ℕ) (x : UInt8) : Effect Scan ScanHalt Unit := ⟨fun s =>
  (.ok (), ⟨s.out.set i x, s.log ++ [.write i]⟩)⟩

/-! ## The reader -/

/-- `out[(*pos)++] = x` for one octet after the other. -/
def assignAll (target : Target) : ℕ → Bytes → Effect Scan ScanHalt ℕ
  | pos, [] => pure pos
  | pos, x :: xs => do
      assign pos x
      assignAll target ((pos + 1) % target.sizeModulus) xs

/-- A branch of `append_utf8`, and the plain copy of an octet. -/
def appendOctets (target : Target) (cap pos : ℕ) (octets : Bytes) : Effect Scan ScanHalt ℕ :=
  if (pos + octets.length) % target.sizeModulus < cap then assignAll target pos octets else pure pos

/-- `append_utf8`. -/
def appendUtf8 (target : Target) (cap pos cp : ℕ) : Effect Scan ScanHalt ℕ :=
  appendOctets target cap pos (utf8 cp)

/-- The loop of `hex4`: so many digits still to read, `v` so far.  `none` is the return of `-1`. -/
def hexLoop (t : TextIn target) : ℕ → ℕ → ℕ → Effect Scan ScanHalt (Option ℕ)
  | 0, v, _ => pure (some v)
  | n + 1, v, p => do
      let c ← look t p
      match hexValue c with
      | none => pure none
      | some d => hexLoop t n (v <<< 4 ||| d) (p + 1)

/-- `hex4`. -/
def hex4 (t : TextIn target) (p : ℕ) : Effect Scan ScanHalt (Option ℕ) := hexLoop t 4 0 p

/-- The second escape of a pair, with `p` at the last digit of the first. -/
def lowSurrogate (t : TextIn target) (cp p : ℕ) : Effect Scan ScanHalt (ℕ × ℕ) := do
  match ← hex4 t (p + 3) with
  | none => pure (cp, p)
  | some lo =>
      if 0xDC00 ≤ lo ∧ lo ≤ 0xDFFF then pure (0x10000 + ((cp - 0xD800) <<< 10) + (lo - 0xDC00), p + 6)
      else pure (cp, p)

/-- The surrogate branch. -/
def joinSurrogates (t : TextIn target) (cp p : ℕ) : Effect Scan ScanHalt (ℕ × ℕ) := do
  if 0xD800 ≤ cp ∧ cp ≤ 0xDBFF then
    let b ← look t (p + 1)
    if b = backslash then
      let u ← look t (p + 2)
      if u = oct 'u' then lowSurrogate t cp p else pure (cp, p)
    else pure (cp, p)
  else pure (cp, p)

/-- The `switch` behind a backslash: where `p` and `pos` are after it. -/
def escape (t : TextIn target) (cap p pos : ℕ) : Effect Scan ScanHalt (ℕ × ℕ) := do
  let e ← look t p
  match unescape e with
  | some x => do
      let pos ← appendUtf8 target cap pos x.toNat
      pure (p, pos)
  | none =>
      if e = oct 'u' then
        match ← hex4 t (p + 1) with
        | none => Effect.fail (.code .invalid)
        | some cp => do
            let (cp, p) ← joinSurrogates t cp (p + 4)
            let pos ← appendUtf8 target cap pos cp
            pure (p, pos)
      else Effect.fail (.code .invalid)

/-- The loop over the value, and the terminator written behind it. -/
def copyLoop (t : TextIn target) (cap : ℕ) : ℕ → ℕ → ℕ → Effect Scan ScanHalt Unit
  | 0, _, _ => Effect.fail .unfinished
  | steps + 1, p, pos => do
      let c ← look t p
      if c = 0 ∨ c = quote then assign (if pos < cap then pos else cap - 1) 0
      else if c = backslash then do
        let (p, pos) ← escape t cap (p + 1) pos
        let last ← look t p
        copyLoop t cap steps (if last ≠ 0 then p + 1 else p) pos
      else do
        let pos ← appendOctets target cap pos [c]
        copyLoop t cap steps (p + 1) pos

/-- `while (*p == ' ' || *p == '\t') ++p;` -/
def gapLoop (t : TextIn target) : ℕ → ℕ → Effect Scan ScanHalt ℕ
  | 0, _ => Effect.fail .unfinished
  | steps + 1, p => do
      let c ← look t p
      if isGap c then gapLoop t steps (p + 1) else pure p

/-- The text at `p` starts with these octets. -/
def startsWith (t : TextIn target) : Bytes → ℕ → Effect Scan ScanHalt Bool
  | [], _ => pure true
  | x :: xs, p => do
      let c ← look t p
      if c = x then startsWith t xs (p + 1) else pure false

/-- `strstr`, from `p` on. -/
def strstr (t : TextIn target) (needle : Bytes) : ℕ → ℕ → Effect Scan ScanHalt (Option ℕ)
  | 0, _ => Effect.fail .unfinished
  | steps + 1, p => do
      let found ← startsWith t needle p
      if found then pure (some p)
      else do
        let c ← look t p
        if c = 0 then pure none else strstr t needle steps (p + 1)

/-- `sd_json_get_string`, with so many steps for each of its loops. -/
def sdJsonGetString (t : TextIn target) (steps : ℕ) (key : Bytes) (cap : ℕ) : Effect Scan ScanHalt Unit :=
  if cap = 0 then Effect.fail (.code .invalid)
  else if 64 ≤ (needle key).length then Effect.fail (.code .invalid)
  else do
    match ← strstr t (needle key) steps 0 with
    | none => Effect.fail (.code .invalid)
    | some p => do
        let p ← gapLoop t steps (p + (needle key).length)
        let c ← look t p
        if c = oct ':' then do
          let p ← gapLoop t steps (p + 1)
          let c ← look t p
          if c = quote then copyLoop t cap steps (p + 1) 0 else Effect.fail (.code .invalid)
        else Effect.fail (.code .invalid)

/-! ## What a pointer points to -/

section Rest

variable {t : TextIn target}

lemma rest_cons {p : ℕ} (h : p ≤ t.stop) : t.rest p = t.octets p :: t.rest (p + 1) := by
  rw [TextIn.rest, show t.stop + 1 - p = (t.stop - p) + 1 by omega, List.range'_succ, List.map_cons, TextIn.rest,
    show t.stop + 1 - (p + 1) = t.stop - p by omega]

lemma rest_nil {p : ℕ} (h : t.stop < p) : t.rest p = [] := by
  rw [TextIn.rest, show t.stop + 1 - p = 0 by omega, List.range'_zero, List.map_nil]

/-- An octet of what a pointer points to is the octet there. -/
lemma rest_eq_cons {p : ℕ} {c : UInt8} {q : Bytes} (h : t.rest p = c :: q) :
    p ≤ t.stop ∧ c = t.octets p ∧ q = t.rest (p + 1) := by
  by_cases hp : p ≤ t.stop
  · rw [rest_cons hp, List.cons.injEq] at h
    exact ⟨hp, h.1.symm, h.2.symm⟩
  · rw [rest_nil (not_le.mp hp)] at h
    simp at h

lemma drop_rest (p n : ℕ) : (t.rest p).drop n = t.rest (p + n) := by
  induction n generalizing p with
  | zero => rfl
  | succ n ih =>
      by_cases hp : p ≤ t.stop
      · rw [rest_cons hp, List.drop_succ_cons, ih, show p + 1 + n = p + (n + 1) by omega]
      · rw [rest_nil (not_le.mp hp), List.drop_nil, rest_nil (by omega)]

/-- There is a terminator in what a pointer points to exactly if it points into the text. -/
lemma zero_mem_rest {p : ℕ} : 0 ∈ t.rest p ↔ p ≤ t.stop := by
  constructor
  · intro h
    by_contra hp
    rw [rest_nil (not_le.mp hp)] at h
    simp at h
  · intro h
    exact List.mem_map.mpr ⟨t.stop, List.mem_range'_1.mpr ⟨h, by omega⟩, t.ends⟩

lemma lt_stop {p : ℕ} (h : p ≤ t.stop) (hne : t.octets p ≠ 0) : p < t.stop := by
  refine lt_of_le_of_ne h fun heq => hne ?_
  rw [heq]
  exact t.ends

/-- The text, and its terminator. -/
lemma rest_eq_text (p : ℕ) (h : p ≤ t.stop) : ∃ text, 0 ∉ text ∧ t.rest p = text ++ [0] := by
  refine ⟨(List.range' p (t.stop - p)).map t.octets, ?_, ?_⟩
  · rintro hmem
    obtain ⟨i, hi, hzero⟩ := List.mem_map.mp hmem
    exact t.goes_on i (by have := (List.mem_range'_1.mp hi).2; omega) hzero
  · rw [TextIn.rest, show t.stop + 1 - p = (t.stop - p) + 1 by omega, List.range'_concat, List.map_append,
      List.map_singleton, Nat.one_mul, Nat.add_sub_cancel' h, t.ends]

end Rest

/-! ## What a computation touches -/

/-- On this buffer the computation returns `r` and leaves `out'`, and everything it touches is in bounds. -/
def Runs (t : TextIn target) (cap : ℕ) {α : Type} (x : Effect Scan ScanHalt α) (out : Bytes)
    (r : Except ScanHalt α) (out' : Bytes) : Prop :=
  ∀ log, ∃ more, x.run ⟨out, log⟩ = (r, ⟨out', log ++ more⟩) ∧ ∀ a ∈ more, a.InBounds t.stop cap

section Rules

variable {t : TextIn target} {cap : ℕ} {α β : Type} {out out₁ out₂ : Bytes}

lemma Runs.pure (a : α) : Runs t cap (Pure.pure a) out (.ok a) out :=
  fun log => ⟨[], by rw [List.append_nil]; rfl, by simp⟩

lemma Runs.fail (e : ScanHalt) : Runs t cap (Effect.fail e : Effect Scan ScanHalt α) out (.error e) out :=
  fun log => ⟨[], by rw [List.append_nil]; rfl, by simp⟩

/-- One step after the other. -/
lemma Runs.bind {x : Effect Scan ScanHalt α} {f : α → Effect Scan ScanHalt β} {a : α} {r : Except ScanHalt β}
    (hx : Runs t cap x out (.ok a) out₁) (hf : Runs t cap (f a) out₁ r out₂) :
    Runs t cap (x >>= f) out r out₂ := by
  intro log
  obtain ⟨first, hrun, hfirst⟩ := hx log
  obtain ⟨second, hrest, hsecond⟩ := hf (log ++ first)
  refine ⟨first ++ second, ?_, fun a ha => ?_⟩
  · rw [Effect.run_bind_ok hrun, hrest, List.append_assoc]
  · exact (List.mem_append.mp ha).elim (hfirst a) (hsecond a)

/-- A failure ends a sequence. -/
lemma Runs.bind_error {x : Effect Scan ScanHalt α} {f : α → Effect Scan ScanHalt β} {e : ScanHalt}
    (hx : Runs t cap x out (.error e) out₁) : Runs t cap (x >>= f) out (.error e) out₁ := by
  intro log
  obtain ⟨more, hrun, hmore⟩ := hx log
  exact ⟨more, Effect.run_bind_error hrun, hmore⟩

lemma Runs.look {p : ℕ} (h : p ≤ t.stop) : Runs t cap (look t p) out (.ok (t.octets p)) out := by
  refine fun log => ⟨[.read p], rfl, ?_⟩
  rintro a ha
  rw [List.mem_singleton.mp ha]
  exact h

lemma Runs.assign {i : ℕ} (h : i < cap) (x : UInt8) : Runs t cap (assign i x) out (.ok ()) (out.set i x) := by
  refine fun log => ⟨[.write i], rfl, ?_⟩
  rintro a ha
  rw [List.mem_singleton.mp ha]
  exact h

/-- The computation only reads, whatever the buffer: it returns `a`, and looks no further than the terminator. -/
def Reads (t : TextIn target) (x : Effect Scan ScanHalt α) (a : α) : Prop :=
  ∀ cap out, Runs t cap x out (.ok a) out

lemma Reads.pure (a : α) : Reads t (Pure.pure a) a := fun _ _ => Runs.pure a

lemma Reads.bind {x : Effect Scan ScanHalt α} {f : α → Effect Scan ScanHalt β} {a : α} {b : β}
    (hx : Reads t x a) (hf : Reads t (f a) b) : Reads t (x >>= f) b :=
  fun cap out => (hx cap out).bind (hf cap out)

lemma Reads.look {p : ℕ} (h : p ≤ t.stop) : Reads t (look t p) (t.octets p) := fun _ _ => Runs.look h

end Rules

/-! ## Reading -/

section Reading

variable {t : TextIn target}

lemma hexLoop_reads {n v p : ℕ} {r : Option ℕ} (h : hexRun n v (t.rest p) = some r) :
    Reads t (hexLoop t n v p) r := by
  induction n generalizing v p with
  | zero =>
      rw [hexRun, Option.some.injEq] at h
      rw [← h]
      exact Reads.pure _
  | succ n ih =>
      cases hrest : t.rest p with
      | nil =>
          rw [hrest, hexRun] at h
          simp at h
      | cons c q =>
          obtain ⟨hp, rfl, rfl⟩ := rest_eq_cons hrest
          rw [hrest, hexRun] at h
          refine (Reads.look hp).bind ?_
          cases hc : hexValue (t.octets p) with
          | none =>
              simp only [hc, Option.some.injEq] at h ⊢
              rw [← h]
              exact Reads.pure _
          | some d =>
              simp only [hc] at h ⊢
              exact ih h

lemma hex4_reads {p : ℕ} {r : Option ℕ} (h : Sudonit.hex4 (t.rest p) = some r) :
    Reads t (hex4 t p) r := hexLoop_reads h

lemma gapLoop_reads {steps p : ℕ} {rest : Bytes} (hsteps : t.stop < steps + p)
    (h : skipGap (t.rest p) = some rest) :
    ∃ p', rest = t.rest p' ∧ p ≤ p' ∧ Reads t (gapLoop t steps p) p' := by
  induction steps generalizing p with
  | zero =>
      rw [rest_nil (by omega), skipGap] at h
      simp at h
  | succ steps ih =>
      cases hrest : t.rest p with
      | nil =>
          rw [hrest, skipGap] at h
          simp at h
      | cons c q =>
          obtain ⟨hp, rfl, rfl⟩ := rest_eq_cons hrest
          rw [hrest, skipGap] at h
          split_ifs at h with hgap
          · obtain ⟨p', heq, hle, hreads⟩ := ih (by omega) h
            refine ⟨p', heq, by omega, (Reads.look hp).bind ?_⟩
            rwa [if_pos hgap]
          · refine ⟨p, by rw [hrest, Option.some.inj h], le_rfl, (Reads.look hp).bind ?_⟩
            rw [if_neg hgap]
            exact Reads.pure p

/-- A needle without a terminator is compared no further than the terminator of the text. -/
lemma startsWith_reads {needle : Bytes} (hneedle : 0 ∉ needle) {p : ℕ} (hp : p ≤ t.stop) :
    Reads t (startsWith t needle p) (decide (needle <+: t.rest p)) := by
  induction needle generalizing p with
  | nil =>
      rw [startsWith, decide_eq_true List.nil_prefix]
      exact Reads.pure true
  | cons x xs ih =>
      rw [List.mem_cons, not_or] at hneedle
      refine (Reads.look hp).bind ?_
      rw [rest_cons hp]
      split_ifs with heq
      · have hlt := lt_stop hp (by rw [heq]; exact Ne.symm hneedle.1)
        have hprefix : (x :: xs <+: t.octets p :: t.rest (p + 1)) ↔ xs <+: t.rest (p + 1) := by
          rw [List.cons_prefix_cons, and_iff_right heq.symm]
        rw [decide_eq_decide.mpr hprefix]
        exact ih hneedle.2 hlt
      · rw [decide_eq_false fun hpre => heq (List.cons_prefix_cons.mp hpre).1.symm]
        exact Reads.pure false

/-- The search looks at the text and its terminator, and finds what is to be found. -/
lemma strstr_reads {needle : Bytes} (hneedle : 0 ∉ needle) (hne : needle ≠ []) {steps p : ℕ} (hp : p ≤ t.stop)
    (hsteps : t.stop < steps + p) :
    (find needle (t.rest p) = none ∧ Reads t (strstr t needle steps p) none) ∨
      ∃ p', find needle (t.rest p) = some (t.rest p') ∧ needle <+: t.rest p' ∧
        Reads t (strstr t needle steps p) (some p') := by
  induction steps generalizing p with
  | zero => omega
  | succ steps ih =>
      have hfind := rest_cons hp
      by_cases hpre : needle <+: t.rest p
      · refine Or.inr ⟨p, find_of_prefix hpre, hpre, (startsWith_reads hneedle hp).bind ?_⟩
        rw [decide_eq_true hpre]
        exact Reads.pure (some p)
      · have hnext : find needle (t.rest p) = find needle (t.rest (p + 1)) := by
          rw [hfind] at hpre ⊢
          rw [find_cons, if_neg hpre]
        have hstep : ∀ {r},
            Reads t (if t.octets p = 0 then Pure.pure none else strstr t needle steps (p + 1)) r →
              Reads t (strstr t needle (steps + 1) p) r := by
          intro r hrest
          refine (startsWith_reads hneedle hp).bind ?_
          rw [decide_eq_false hpre]
          exact (Reads.look hp).bind hrest
        rw [hnext]
        by_cases hzero : t.octets p = 0
        · have hstop : t.stop < p + 1 := by
            by_contra hlt
            exact t.goes_on p (by omega) hzero
          refine Or.inl ⟨by rw [rest_nil hstop, find_nil, if_neg hne], hstep ?_⟩
          rw [if_pos hzero]
          exact Reads.pure none
        · rw [if_neg hzero] at hstep
          rcases ih (lt_stop hp hzero) (by omega) with ⟨hnone, hreads⟩ | ⟨p', hsome, hpre', hreads⟩
          · exact Or.inl ⟨hnone, hstep hreads⟩
          · exact Or.inr ⟨p', hsome, hpre', hstep hreads⟩

/-- The reader comes to this code point, and to the pointer in front of `rest`. -/
def JoinsTo (t : TextIn target) (p : ℕ) (cp' : ℕ) (rest : Bytes) (x : Effect Scan ScanHalt (ℕ × ℕ)) : Prop :=
  ∃ p', rest = t.rest (p' + 1) ∧ p ≤ p' ∧ Reads t x (cp', p')

lemma JoinsTo.look {p q cp' : ℕ} {rest : Bytes} {f : UInt8 → Effect Scan ScanHalt (ℕ × ℕ)} (hq : q ≤ t.stop)
    (h : JoinsTo t p cp' rest (f (t.octets q))) : JoinsTo t p cp' rest (StringReader.look t q >>= f) := by
  obtain ⟨p', hrest, hle, hreads⟩ := h
  exact ⟨p', hrest, hle, (Reads.look hq).bind hreads⟩

/-- The code unit stands alone. -/
lemma joinsTo_alone {cp cp' p : ℕ} {q rest : Bytes} (hq : t.rest (p + 1) = q)
    (h : some (cp, q) = some (cp', rest)) : JoinsTo t p cp' rest (pure (cp, p)) := by
  rw [Option.some.injEq, Prod.mk.injEq] at h
  obtain ⟨rfl, rfl⟩ := h
  exact ⟨p, hq.symm, le_rfl, Reads.pure _⟩

lemma lowSurrogate_joins {cp cp' p : ℕ} {q rest : Bytes} (hq : t.rest (p + 1) = q)
    (h : (match Sudonit.hex4 (t.rest (p + 3)) with
      | none => none
      | some none => some (cp, q)
      | some (some lo) =>
          if 0xDC00 ≤ lo ∧ lo ≤ 0xDFFF then
            some (0x10000 + ((cp - 0xD800) <<< 10) + (lo - 0xDC00), (t.rest (p + 3)).drop 4)
          else some (cp, q)) = some (cp', rest)) : JoinsTo t p cp' rest (lowSurrogate t cp p) := by
  cases hhex : Sudonit.hex4 (t.rest (p + 3)) with
  | none => simp [hhex] at h
  | some r =>
      cases r with
      | none =>
          simp only [hhex] at h
          obtain ⟨p', hrest, hle, hreads⟩ := joinsTo_alone hq h
          exact ⟨p', hrest, hle, (hex4_reads hhex).bind hreads⟩
      | some lo =>
          simp only [hhex] at h
          split_ifs at h with hlow
          · rw [Option.some.injEq, Prod.mk.injEq, drop_rest] at h
            obtain ⟨rfl, rfl⟩ := h
            refine ⟨p + 6, rfl, by omega, (hex4_reads hhex).bind ?_⟩
            simp only [if_pos hlow]
            exact Reads.pure _
          · obtain ⟨p', hrest, hle, hreads⟩ := joinsTo_alone hq h
            refine ⟨p', hrest, hle, (hex4_reads hhex).bind ?_⟩
            simpa only [if_neg hlow] using hreads

/-- The surrogate branch looks no further than the terminator. -/
lemma joinSurrogates_joins {cp cp' p : ℕ} {rest : Bytes} (h : joinLow cp (t.rest (p + 1)) = some (cp', rest)) :
    JoinsTo t p cp' rest (joinSurrogates t cp p) := by
  unfold joinLow at h
  unfold joinSurrogates
  split_ifs at h ⊢ with hhigh
  · cases hq : t.rest (p + 1) with
    | nil => simp [hq] at h
    | cons b q =>
        obtain ⟨hp, rfl, rfl⟩ := rest_eq_cons hq
        simp only [hq] at h
        refine JoinsTo.look hp ?_
        split_ifs at h ⊢ with hb
        · cases hdigits : t.rest (p + 2) with
          | nil => simp [hdigits] at h
          | cons u digits =>
              obtain ⟨hp₁, rfl, rfl⟩ := rest_eq_cons hdigits
              simp only [hdigits] at h
              rw [hdigits] at hq
              refine JoinsTo.look hp₁ ?_
              split_ifs at h ⊢ with hu
              · exact lowSurrogate_joins hq h
              · exact joinsTo_alone hq h
        · exact joinsTo_alone hq h
  · exact joinsTo_alone rfl h

end Reading

/-! ## Writing -/

section Writing

variable {t : TextIn target} {cap : ℕ} {out out' : Bytes}

lemma assignAll_runs {octets : Bytes} {pos : ℕ} (hcap : out.length = cap)
    (hpos : pos + octets.length < target.sizeModulus) (h : store out pos octets = some out') :
    Runs t cap (assignAll target pos octets) out (.ok (pos + octets.length)) out' := by
  induction octets generalizing pos out with
  | nil =>
      rw [store_nil h]
      exact Runs.pure _
  | cons x xs ih =>
      rw [List.length_cons] at hpos
      have hlt : pos < out.length := by
        have hfits := store_fits h
        rw [List.length_cons] at hfits
        omega
      rw [store_cons hlt] at h
      refine (Runs.assign (hcap ▸ hlt) x).bind ?_
      rw [Nat.mod_eq_of_lt (by omega), List.length_cons, show pos + (xs.length + 1) = pos + 1 + xs.length by omega]
      exact ih (by rw [List.length_set, hcap]) (by omega) h

/-- Octets are written exactly where they fit with a terminator after them. -/
lemma appendOctets_runs {octets : Bytes} {pos pos' : ℕ} (hcap : out.length = cap)
    (hpos : pos + octets.length < target.sizeModulus) (h : append out pos octets = some (out', pos')) :
    Runs t cap (appendOctets target cap pos octets) out (.ok pos') out' := by
  subst hcap
  rw [append] at h
  rw [appendOctets, Nat.mod_eq_of_lt hpos]
  split_ifs at h ⊢ with hfits
  · obtain ⟨written, hstore, heq⟩ := Option.map_eq_some_iff.mp h
    rw [Prod.mk.injEq] at heq
    obtain ⟨rfl, rfl⟩ := heq
    exact assignAll_runs rfl hpos hstore
  · rw [Option.some.injEq, Prod.mk.injEq] at h
    obtain ⟨rfl, rfl⟩ := h
    exact Runs.pure _

lemma append_le {octets : Bytes} {pos pos' : ℕ} (h : append out pos octets = some (out', pos')) :
    pos' ≤ pos + octets.length ∧ out'.length = out.length := by
  rw [append] at h
  split_ifs at h with hfits
  · obtain ⟨written, hstore, heq⟩ := Option.map_eq_some_iff.mp h
    rw [Prod.mk.injEq] at heq
    obtain ⟨rfl, rfl⟩ := heq
    exact ⟨le_rfl, length_store hstore⟩
  · rw [Option.some.injEq, Prod.mk.injEq] at h
    obtain ⟨rfl, rfl⟩ := h
    exact ⟨Nat.le_add_right _ _, rfl⟩

/-- An escape is read in front of the terminator, and written where it fits.  It takes up more of the text
than it is written as. -/
lemma escape_runs {octets rest : Bytes} {p pos pos' : ℕ} (hcap : out.length = cap) (hpos : pos < p)
    (hitem : readItem (backslash :: t.rest p) = some (.char octets rest)) (hmem : 0 ∈ rest)
    (happend : append out pos octets = some (out', pos')) :
    ∃ p', rest = t.rest (p' + 1) ∧ p ≤ p' ∧ p' < t.stop ∧ pos' ≤ p' ∧
      Runs t cap (escape t cap p pos) out (.ok (p', pos')) out' := by
  have haddressable := t.addressable
  have hle := (append_le happend).1
  cases hrest : t.rest p with
  | nil => simp [hrest, readItem] at hitem
  | cons e q =>
      obtain ⟨hp, rfl, rfl⟩ := rest_eq_cons hrest
      rw [hrest, readItem_backslash] at hitem
      cases he : unescape (t.octets p) with
      | some x =>
          simp only [he, Option.some.injEq, Item.char.injEq] at hitem
          obtain ⟨rfl, rfl⟩ := hitem
          have hstop := zero_mem_rest.mp hmem
          rw [List.length_singleton] at hle
          refine ⟨p, rfl, le_rfl, hstop, by omega, (Runs.look hp).bind ?_⟩
          simp only [he]
          rw [appendUtf8, utf8_unescape he]
          exact (appendOctets_runs hcap (by rw [List.length_singleton]; omega) happend).bind (Runs.pure _)
      | none =>
          simp only [he] at hitem
          split_ifs at hitem with hu
          · cases hhex : Sudonit.hex4 (t.rest (p + 1)) with
            | none => simp [hhex] at hitem
            | some r =>
                cases r with
                | none => simp [hhex] at hitem
                | some cp =>
                    simp only [hhex, drop_rest] at hitem
                    obtain ⟨⟨cp', rest'⟩, hjoin, heq⟩ := Option.map_eq_some_iff.mp hitem
                    simp only [Item.char.injEq] at heq
                    obtain ⟨rfl, rfl⟩ := heq
                    obtain ⟨p', rfl, hbehind, hreads⟩ := joinSurrogates_joins (t := t) (p := p + 4) hjoin
                    have hstop := zero_mem_rest.mp hmem
                    have hfour := length_utf8_le cp'
                    refine ⟨p', rfl, by omega, hstop, by omega, (Runs.look hp).bind ?_⟩
                    simp only [he]
                    rw [if_pos hu]
                    refine (hex4_reads hhex _ _).bind ((hreads _ _).bind ?_)
                    exact (appendOctets_runs hcap (by omega) happend).bind (Runs.pure _)
          · simp at hitem

/-- A malformed escape is refused, whatever of it is still in front of the terminator. -/
lemma escape_malformed {p pos : ℕ} (hitem : readItem (backslash :: t.rest p) = some .malformed) :
    Runs t cap (escape t cap p pos) out (.error (.code .invalid)) out := by
  cases hrest : t.rest p with
  | nil => simp [hrest, readItem] at hitem
  | cons e q =>
      obtain ⟨hp, rfl, rfl⟩ := rest_eq_cons hrest
      rw [hrest, readItem_backslash] at hitem
      cases he : unescape (t.octets p) with
      | some x => simp [he] at hitem
      | none =>
          refine (Runs.look hp).bind ?_
          simp only [he] at hitem ⊢
          split_ifs at hitem ⊢ with hu
          · cases hhex : Sudonit.hex4 (t.rest (p + 1)) with
            | none => simp [hhex] at hitem
            | some r =>
                cases r with
                | none => exact (hex4_reads hhex _ _).bind (Runs.fail _)
                | some cp =>
                    simp only [hhex] at hitem
                    obtain ⟨_, -, heq⟩ := Option.map_eq_some_iff.mp hitem
                    simp at heq
          · exact Runs.fail _

/-! ## The loop -/

/-- The terminator is written into the buffer. -/
lemma terminate_runs {pos : ℕ} {r : Except SdErr Unit}
    (h : (store out (if pos < out.length then pos else out.length - 1) [0]).map (fun out => (.ok (), out))
      = some (r, out')) :
    Runs t out.length (assign (if pos < out.length then pos else out.length - 1) 0) out (r.mapError .code) out' := by
  obtain ⟨written, hstore, heq⟩ := Option.map_eq_some_iff.mp h
  rw [Prod.mk.injEq] at heq
  obtain ⟨rfl, rfl⟩ := heq
  have hfits := store_fits hstore
  rw [List.length_singleton] at hfits
  rw [store_cons hfits] at hstore
  rw [store_nil hstore]
  exact Runs.assign hfits 0

/-- **The loop does what the list model says**, in bounds. -/
theorem copyLoop_runs {steps p pos : ℕ} {r : Except SdErr Unit} (hcap : out.length = cap) (hpos : pos < p)
    (hp : p ≤ t.stop) (hsteps : t.stop < steps + p) (h : copyString (t.rest p) out pos = some (r, out')) :
    Runs t cap (copyLoop t cap steps p pos) out (r.mapError .code) out' := by
  -- The number of octets written is less than the index of the octet read, so it does not wrap.
  induction steps generalizing p pos out with
  | zero => omega
  | succ steps ih =>
      have hitem := rest_cons hp
      refine (Runs.look hp).bind ?_
      by_cases hend : t.octets p = 0 ∨ t.octets p = quote
      · have hdone : readItem (t.rest p) = some .done := hitem ▸ readItem_end hend _
        rw [copyString_done hdone] at h
        rw [if_pos hend, ← hcap]
        exact terminate_runs h
      · have hlt := lt_stop hp fun hzero => hend (Or.inl hzero)
        rw [if_neg hend]
        by_cases hesc : t.octets p = backslash
        · rw [if_pos hesc]
          rw [hesc] at hitem
          obtain ⟨i, hi, hrest⟩ := readItem_terminated (zero_mem_rest.mpr hp)
          cases i with
          | done => exact absurd (hitem ▸ hi) (readItem_backslash_ne_done _)
          | malformed =>
              rw [copyString_malformed hi, Option.some.injEq, Prod.mk.injEq] at h
              obtain ⟨rfl, rfl⟩ := h
              exact (escape_malformed (hitem ▸ hi)).bind_error
          | char octets rest =>
              rw [copyString_char hi] at h
              cases happend : append out pos octets with
              | none => simp [happend] at h
              | some written =>
                  obtain ⟨out₁, pos₁⟩ := written
                  simp only [happend] at h
                  have hlen := (append_le happend).2
                  obtain ⟨p', rfl, hbehind, hstop, hpos', hruns⟩ :=
                    escape_runs (t := t) (p := p + 1) hcap (by omega) (hitem ▸ hi) (hrest _ _ rfl) happend
                  refine hruns.bind ((Runs.look hstop.le).bind ?_)
                  rw [if_pos (t.goes_on p' hstop)]
                  exact ih (by rw [hlen, hcap]) (by omega) hstop (by omega) h
        · rw [not_or] at hend
          have hchar : readItem (t.rest p) = some (.char [t.octets p] (t.rest (p + 1))) :=
            hitem ▸ readItem_plain ⟨hend.1, hend.2, hesc⟩ _
          rw [copyString_char hchar] at h
          rw [if_neg hesc]
          cases happend : append out pos [t.octets p] with
          | none => simp [happend] at h
          | some written =>
              obtain ⟨out₁, pos₁⟩ := written
              simp only [happend] at h
              obtain ⟨hle, hlen⟩ := append_le happend
              rw [List.length_singleton] at hle
              have haddressable := t.addressable
              refine (appendOctets_runs hcap (by rw [List.length_singleton]; omega) happend).bind ?_
              exact ih (by rw [hlen, hcap]) (by omega) hlt (by omega) h

end Writing

/-! ## The reader as a whole -/

lemma strstr_rest {t : TextIn target} {needle : Bytes} (hneedle : 0 ∉ needle) (hne : needle ≠ []) :
    CText.strstr (t.rest 0) needle = some (find needle (t.rest 0)) := by
  obtain ⟨text, htext, heq⟩ := rest_eq_text (t := t) 0 (Nat.zero_le _)
  rw [heq, strstr_append htext, find_append_sep hneedle hne, find_nil, if_neg hne]
  cases find needle text <;> rfl

/-- **The reader does what the list model says**, in bounds and within a number of steps that the length of the
text bounds. -/
theorem sdJsonGetString_runs {t : TextIn target} {steps : ℕ} (hsteps : t.stop < steps) (key : CStr)
    {out out' : Bytes} {r : Except SdErr Unit}
    (h : Sudonit.sdJsonGetString (t.rest 0) key.bytes out = some (r, out')) :
    Runs t out.length (sdJsonGetString t steps key.bytes out.length) out (r.mapError .code) out' := by
  have invalid : some (.error .invalid, out) = some (r, out') →
      Runs t out.length (Effect.fail (.code .invalid) : Effect Scan ScanHalt Unit) out (r.mapError .code) out' := by
    intro heq
    rw [Option.some.injEq, Prod.mk.injEq] at heq
    obtain ⟨rfl, rfl⟩ := heq
    exact Runs.fail _
  have hneedle : 0 ∉ needle key.bytes := by
    have hquote : (0 : UInt8) ≠ quote := by decide
    simp [needle, hquote, key.no_nul]
  have hne : needle key.bytes ≠ [] := by simp [needle]
  rw [Sudonit.sdJsonGetString] at h
  rw [sdJsonGetString]
  split_ifs at h ⊢ with hcap hlong
  · exact invalid h
  · rw [locate, if_pos hlong] at h
    exact invalid h
  · rw [locate, if_neg hlong] at h
    rw [strstr_rest hneedle hne] at h
    rcases strstr_reads hneedle hne (Nat.zero_le t.stop) hsteps with ⟨hnone, hreads⟩ | ⟨p, hsome, -, hreads⟩
    · simp only [hnone] at h
      exact (hreads _ _).bind (invalid h)
    simp only [hsome, drop_rest, behindColon] at h
    refine (hreads _ _).bind ?_
    cases hgap : skipGap (t.rest (p + (needle key.bytes).length)) with
    | none => simp [hgap] at h
    | some rest =>
        obtain ⟨p₁, rfl, -, hreads₁⟩ :=
          gapLoop_reads (show t.stop < steps + (p + (needle key.bytes).length) by omega) hgap
        cases hcolon : t.rest p₁ with
        | nil => simp [hgap, hcolon] at h
        | cons c q =>
            obtain ⟨hp₁, rfl, rfl⟩ := rest_eq_cons hcolon
            simp only [hgap, hcolon] at h
            refine (hreads₁ _ _).bind ((Runs.look hp₁).bind ?_)
            split_ifs at h ⊢ with hc
            · cases hgap₂ : skipGap (t.rest (p₁ + 1)) with
              | none => simp [hgap₂] at h
              | some rest =>
                  obtain ⟨p₂, rfl, hle, hreads₂⟩ :=
                    gapLoop_reads (show t.stop < steps + (p₁ + 1) by omega) hgap₂
                  cases hquote : t.rest p₂ with
                  | nil => simp [hgap₂, hquote] at h
                  | cons c q =>
                      obtain ⟨hp₂, rfl, rfl⟩ := rest_eq_cons hquote
                      simp only [hgap₂, hquote, Option.map_some] at h
                      refine (hreads₂ _ _).bind ((Runs.look hp₂).bind ?_)
                      split_ifs at h ⊢ with hq
                      · have hlt := lt_stop hp₂ (by rw [hq]; decide)
                        exact copyLoop_runs rfl (by omega) hlt (by omega) h
                      · exact invalid h
            · exact invalid h

end StringReader

/-- When the list model returns `SD_OK`, there is a terminator in the buffer. -/
lemma terminated_of_ok {json key out out' : Bytes} (hjson : 0 ∈ json)
    (h : sdJsonGetString json key out = some (.ok (), out')) : ∃ i < out.length, out'[i]? = some 0 := by
  have hout : out ≠ [] := by
    rintro rfl
    simp [sdJsonGetString] at h
  rw [sdJsonGetString_eq hjson hout, Option.some.injEq] at h
  cases hfield : textField json key with
  | none => simp [hfield] at h
  | some c =>
      simp only [hfield, written] at h
      split_ifs at h
      · have hempty : ([] : Bytes).length < out.length := List.length_pos_iff.mpr hout
        have hfits := length_foldl_put hempty c.chars
        refine ⟨_, hfits, ?_⟩
        rw [← (Prod.mk.inj h).2, overlay, List.append_assoc, List.getElem?_append_right le_rfl, Nat.sub_self]
        rfl
      · simp at h

/-- **The string reader stays inside its buffers.**  Whatever the text, the key and the buffer, and whatever lies
behind the terminator, the reader comes to an end, reads nothing behind the terminator and writes nothing
outside the buffer, and after `SD_OK` there is a terminator in the buffer. -/
theorem string_reader_in_bounds (target : Target) (t : TextIn target) (key : CStr) (out : Bytes) (more : ℕ) :
    let run := (StringReader.sdJsonGetString t (t.stop + 1 + more) key.bytes out.length).run ⟨out, []⟩
    run.1 ≠ .error .unfinished ∧ (∀ a ∈ run.2.log, a.InBounds t.stop out.length) ∧
      (run.1 = .ok () → ∃ i < out.length, run.2.out[i]? = some 0) := by
  have hjson : 0 ∈ t.rest 0 := StringReader.zero_mem_rest.mpr (Nat.zero_le _)
  obtain ⟨r, out', hlist⟩ := sdJsonGetString_isSome hjson key.bytes out
  obtain ⟨log, hrun, hbounds⟩ :=
    StringReader.sdJsonGetString_runs (show t.stop < t.stop + 1 + more by omega) key hlist []
  simp only [hrun, List.nil_append]
  refine ⟨?_, hbounds, fun hok => ?_⟩
  · cases r <;> simp [Except.mapError]
  · cases r with
    | ok => exact terminated_of_ok hjson hlist
    | error e => simp [Except.mapError] at hok

end Sudonit
