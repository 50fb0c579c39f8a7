import Sudonit.Core.Words
import Sudonit.Device.Provisioning

/-!
# A `set` line on the console

What `set <key> <value>` says is read off the line as a text: blanks, the word `set`, the key, and a value
that goes on to the last octet that is not white space.

* `nextToken_eq_some_iff` — the tokenizer takes the first word of the text.
* `IsSet` — the line is a `set` of this key to this value; `trimmed_isSet` is what the tokenizer makes of it.
* `set_exact` — such a line sets the field, or emits an error and changes nothing; and only an accepted
  `set`, a `save` or a `reset` changes the session.
-/

namespace Sudonit

open Octets CText Words

/-! ## The tokenizer -/

/-- **The next token is the first word.** -/
theorem nextToken_eq_some_iff {p word after : Bytes} :
    nextToken p = (some word, after) ↔ ∃ lead rest, WordAt isTab p lead word rest ∧ after = rest.tail := by
  rw [nextToken]
  constructor
  · intro h
    cases hdrop : p.dropWhile isTab with
    | nil => simp [hdrop] at h
    | cons b s =>
        simp only [hdrop, Prod.mk.injEq, Option.some.injEq] at h
        obtain ⟨rfl, rfl⟩ := h
        exact ⟨_, _, exists_wordAt hdrop, rfl⟩
  · rintro ⟨lead, rest, hword, rfl⟩
    obtain ⟨c, cs, rfl⟩ := List.exists_cons_of_ne_nil hword.word_ne
    have hdrop : p.dropWhile isTab = c :: (cs ++ rest) := hword.dropWhile_eq
    rw [hdrop]
    simp only [← List.cons_append, hword.takeWhile_eq, hword.rest_eq]

lemma nextToken_wordAt {p lead word rest : Bytes} (h : WordAt isTab p lead word rest) :
    nextToken p = (some word, rest.tail) :=
  nextToken_eq_some_iff.mpr ⟨lead, rest, h, rfl⟩

/-- What the tokenizer leaves is an end of what it was given. -/
lemma nextToken_suffix {p q : Bytes} {word : Option Bytes} (h : nextToken p = (word, q)) : q <:+ p := by
  obtain rfl : (nextToken p).2 = q := by rw [h]
  rw [nextToken]
  cases hdrop : p.dropWhile isTab with
  | nil => exact List.nil_suffix
  | cons b s =>
      have hs : b :: s <:+ p := hdrop ▸ List.dropWhile_suffix isTab
      exact (List.tail_suffix _).trans ((List.dropWhile_suffix _).trans hs)

lemma nextToken_none {p q : Bytes} (h : nextToken p = (none, q)) : q = [] := by
  rw [nextToken] at h
  cases hdrop : p.dropWhile isTab with
  | nil => simpa [hdrop, eq_comm] using h
  | cons b s => simp [hdrop] at h

/-- The blank behind a word does not matter to what comes after it. -/
lemma dropWhile_tail {p lead word rest : Bytes} (h : WordAt isTab p lead word rest) :
    rest.tail.dropWhile isTab = rest.dropWhile isTab := by
  cases hrest : rest with
  | nil => rfl
  | cons b s =>
      have hb : isTab b := h.rest_blank b (by rw [hrest]; rfl)
      rw [List.tail_cons, List.dropWhile_cons_of_pos hb]

lemma isTrailing_of_isTab {b : UInt8} (h : isTab b) : isTrailing b := by
  rw [isTrailing]
  rw [isTab, Bool.or_eq_true] at h
  rcases h with h | h <;> simp [h]

/-! ## What a line says -/

/-- The line is a `set` of this key to this value. -/
def IsSet (line key value : Bytes) : Prop :=
  ∃ lead text gap rest, WordAt isTab line lead (ascii "set") text ∧ WordAt isTab text gap key rest ∧
    value = (rest.dropWhile isTab).rdropWhile isTrailing

/-- The fields with another name than this are as they were. -/
structure SdConfig.AgreesBut (key : Bytes) (cfg cfg' : SdConfig) : Prop where
  deviceName : key ≠ ascii "device_name" → cfg'.deviceName = cfg.deviceName
  wifiSsid : key ≠ ascii "wifi_ssid" → cfg'.wifiSsid = cfg.wifiSsid
  wifiPassword : key ≠ ascii "wifi_password" → cfg'.wifiPassword = cfg.wifiPassword
  serverHost : key ≠ ascii "server_host" → cfg'.serverHost = cfg.serverHost
  serverPort : key ≠ ascii "server_port" → cfg'.serverPort = cfg.serverPort

/-- The field of that name holds that value, and the session is dirty. -/
structure SetTo (key value : Bytes) (s s' : Console) : Prop where
  field : FieldSet s.cfg.values key value s'.cfg.values
  others : s.cfg.AgreesBut key s'.cfg
  dirty : s'.dirty = true
  stored : s'.stored = s.stored
  reply : ∃ text, s'.out = s.out ++ [ascii "ok: " ++ text]

/-- An error is emitted, and nothing else happens. -/
def Refused (s s' : Console) : Prop := ∃ text, s' = { s with out := s.out ++ [ascii "error: " ++ text] }

lemma agreesBut_of_ok {target : Target} {cfg cfg' : SdConfig} {key value : Bytes}
    (h : sdConfigSetField target cfg key value = .ok cfg') : cfg.AgreesBut key cfg' := by
  rcases sdConfigSetField_cases h with ⟨hkey, b, -, rfl⟩ | ⟨hkey, b, -, rfl⟩ | ⟨hkey, b, -, rfl⟩ |
    ⟨hkey, b, -, rfl⟩ | ⟨hkey, port, rfl⟩
  · exact ⟨fun hne => absurd hkey hne, fun _ => rfl, fun _ => rfl, fun _ => rfl, fun _ => rfl⟩
  · exact ⟨fun _ => rfl, fun hne => absurd hkey hne, fun _ => rfl, fun _ => rfl, fun _ => rfl⟩
  · exact ⟨fun _ => rfl, fun _ => rfl, fun hne => absurd hkey hne, fun _ => rfl, fun _ => rfl⟩
  · exact ⟨fun _ => rfl, fun _ => rfl, fun _ => rfl, fun hne => absurd hkey hne, fun _ => rfl⟩
  · exact ⟨fun _ => rfl, fun _ => rfl, fun _ => rfl, fun _ => rfl, fun hne => absurd hkey hne⟩

/-! ## What the buffer holds -/

/-- The line up to the trimmed end. -/
lemma exists_trimmed (line : Bytes) : ∃ junk, line.take 255 = trimmed line ++ junk ∧ ∀ b ∈ junk, isTrailing b :=
  ⟨_, List.rdropWhile_append_rtakeWhile.symm, fun _ hb => List.mem_rtakeWhile_imp hb⟩

/-- The trimming does not reach into the word `set`. -/
lemma trimmed_set {line lead text : Bytes} (h : WordAt isTab (line.take 255) lead (ascii "set") text) :
    WordAt isTab (trimmed line) lead (ascii "set") (text.rdropWhile isTrailing) := by
  have htrim : trimmed line = lead ++ (ascii "set" ++ text.rdropWhile isTrailing) := by
    by_cases hne : text.rdropWhile isTrailing = []
    · have hword : (ascii "set").rdropWhile isTrailing = ascii "set" := by decide
      rw [trimmed, h.text_eq, ← List.append_assoc,
        rdropWhile_append_of_pos (List.rdropWhile_eq_nil_iff.mp hne), hne,
        rdropWhile_append_of_ne_nil (by rw [hword]; decide), hword, List.append_nil]
    · rw [trimmed, h.text_eq, ← List.append_assoc, rdropWhile_append_of_ne_nil hne, List.append_assoc]
  rw [htrim]
  exact h.shorten (List.rdropWhile_prefix isTrailing (l := text))

/-- **The two words and the value of a `set`**, as the tokenizer finds them. -/
lemma trimmed_isSet {line key value : Bytes} (h : IsSet (line.take 255) key value) (hvalue : value ≠ []) :
    ∃ p q, nextToken (trimmed line) = (some (ascii "set"), p) ∧ nextToken p = (some key, q) ∧
      q.dropWhile isTab = value := by
  obtain ⟨lead, text, gap, rest, hset, hkey, rfl⟩ := h
  rw [← dropWhile_rdropWhile fun _ => isTrailing_of_isTab] at hvalue ⊢
  have hrest : rest.rdropWhile isTrailing ≠ [] := fun hnil => hvalue (by rw [hnil]; rfl)
  have htext : text.rdropWhile isTrailing = gap ++ (key ++ rest.rdropWhile isTrailing) := by
    rw [hkey.text_eq, ← List.append_assoc, rdropWhile_append_of_ne_nil hrest, List.append_assoc]
  have hset' := trimmed_set hset
  have hkey' := (htext ▸ hkey.shorten (List.rdropWhile_prefix isTrailing (l := rest))).tail hset'.rest_blank
  exact ⟨_, _, nextToken_wordAt hset', nextToken_wordAt hkey', dropWhile_tail hkey'⟩

/-- A `set` without a value: what the tokenizer finds behind the first word has none either. -/
lemma trimmed_isSet_nil {line key : Bytes} (h : IsSet (line.take 255) key []) :
    ∃ p, nextToken (trimmed line) = (some (ascii "set"), p) ∧ (nextToken p).2.dropWhile isTab = [] := by
  obtain ⟨lead, text, gap, rest, hset, hkey, hnil⟩ := h
  have hset' := trimmed_set hset
  refine ⟨_, nextToken_wordAt hset', ?_⟩
  -- Nothing but white space lies behind the key, and the trimming may have reached into the key itself.
  have hrest : ∀ b ∈ rest, isTrailing b := by
    rw [eq_comm, ← dropWhile_rdropWhile fun _ => isTrailing_of_isTab, List.dropWhile_eq_nil_iff] at hnil
    rw [← List.rdropWhile_eq_nil_iff]
    by_contra hne
    exact List.rdropWhile_last_not _ _ hne (isTrailing_of_isTab (hnil _ (List.getLast_mem hne)))
  have htext : text.rdropWhile isTrailing = (gap ++ key).rdropWhile isTrailing := by
    rw [hkey.text_eq, ← List.append_assoc, rdropWhile_append_of_pos hrest]
  by_cases hshort : key.rdropWhile isTrailing = []
  · rw [htext, rdropWhile_append_of_pos (List.rdropWhile_eq_nil_iff.mp hshort),
      List.rdropWhile_eq_nil_iff.mpr fun b hb => isTrailing_of_isTab (hkey.lead_blank b hb)]
    rfl
  · have hword : WordAt isTab (text.rdropWhile isTrailing) gap (key.rdropWhile isTrailing) [] := by
      refine ⟨?_, hkey.lead_blank, hshort, fun b hb => hkey.word_solid b ?_, by simp⟩
      · rw [htext, rdropWhile_append_of_ne_nil hshort, List.append_nil]
      · exact (List.rdropWhile_prefix isTrailing (l := key)).subset hb
    rw [nextToken_wordAt (hword.tail hset'.rest_blank)]
    rfl

/-- **The tokenizer finds a value only in a `set`.** -/
lemma isSet_of_tokens {line p key q : Bytes} (hp : nextToken (trimmed line) = (some (ascii "set"), p))
    (hq : nextToken p = (some key, q)) (hvalue : q.dropWhile isTab ≠ []) :
    IsSet (line.take 255) key (q.dropWhile isTab) := by
  obtain ⟨lead, text, hset, rfl⟩ := nextToken_eq_some_iff.mp hp
  obtain ⟨gap, rest, hkey, rfl⟩ := nextToken_eq_some_iff.mp hq
  rw [dropWhile_tail hkey] at hvalue ⊢
  obtain ⟨junk, hline, hjunk⟩ := exists_trimmed line
  have hrest : rest ≠ [] := fun hnil => hvalue (by rw [hnil]; rfl)
  cases htext : text with
  | nil =>
      have hne := hkey.text_eq
      simp [htext, hkey.word_ne] at hne
  | cons b text' =>
      rw [htext] at hset hkey
      have hb : isTab b := hset.rest_blank b rfl
      have hkey' := (hkey.cons hb).append hrest junk
      refine ⟨lead, _, b :: gap, _, hline ▸ hset.append (List.cons_ne_nil b text') junk, hkey', ?_⟩
      -- The line was trimmed already, so the value ends where the line does.
      have hself : rest.rdropWhile isTrailing = rest := by
        rw [List.rdropWhile_eq_self_iff]
        intro hne
        have hlast : trimmed line ≠ [] := by simp [hset.text_eq]
        have hnot := List.rdropWhile_last_not isTrailing (line.take 255) hlast
        have htrim : trimmed line = lead ++ (ascii "set" ++ b :: (gap ++ key)) ++ rest := by
          rw [hset.text_eq, show text' = gap ++ (key ++ rest) from hkey.text_eq]
          simp only [List.append_assoc, List.cons_append]
        have hsame : (trimmed line).getLast hlast = rest.getLast hne := by
          simp only [htrim]
          exact List.getLast_append_right hne
        exact hsame ▸ hnot
      rw [← dropWhile_rdropWhile fun _ => isTrailing_of_isTab, rdropWhile_append_of_pos hjunk, hself]

lemma CStr.nul_notMem_tokens (line : CStr) {p q : Bytes} {word key : Option Bytes}
    (hp : nextToken (trimmed line.bytes) = (word, p)) (hq : nextToken p = (key, q)) : 0 ∉ q := by
  intro hnul
  have hmem : 0 ∈ trimmed line.bytes := (nextToken_suffix hp).subset ((nextToken_suffix hq).subset hnul)
  have hmem : 0 ∈ line.bytes.take 255 := (List.rdropWhile_prefix _ _).subset hmem
  exact line.no_nul (List.mem_of_mem_take hmem)

/-! ## What a `set` does -/

/-- A set without a value is refused. -/
lemma run_cmdSet_nil (target : Target) (cfg : SdConfig) {p : Bytes} (h : (nextToken p).2.dropWhile isTab = [])
    (s : Console) : ∃ s', (cmdSet target cfg p).run s = (.ok (), s') ∧ Refused s s' := by
  have hrun : cmdSet target cfg p = emit (ascii "error: usage: set <key> <value>") := by
    rw [cmdSet]
    cases (nextToken p).1 with
    | none => rfl
    | some key => exact if_pos h
  rw [hrun]
  exact ⟨_, rfl, ascii "usage: set <key> <value>", rfl⟩

/-- **A set with a value** is accepted exactly if the field takes it. -/
lemma run_cmdSet (target : Target) {p key q : Bytes} (hp : nextToken p = (some key, q))
    (hvalue : q.dropWhile isTab ≠ []) (hnul : 0 ∉ q) (s : Console) :
    ∃ s', (cmdSet target s.cfg p).run s = (.ok (), s') ∧
      (SetTo key (q.dropWhile isTab) s s' ∨
        (Refused s s' ∧ ∀ v, ¬ FieldSet s.cfg.values key (q.dropWhile isTab) v)) := by
  have hnul' : 0 ∉ q.dropWhile isTab := fun h => hnul ((List.dropWhile_suffix isTab).subset h)
  rw [cmdSet]
  simp only [hp]
  rw [if_neg hvalue]
  rcases sdConfigSetField_iff target s.cfg key hnul' with ⟨cfg', hok, hfield⟩ | ⟨herror, hno⟩
  · have hset : ∀ text, SetTo key (q.dropWhile isTab) s
        { s with cfg := cfg', dirty := true, out := s.out ++ [ascii "ok: " ++ text] } :=
      fun text => ⟨hfield, agreesBut_of_ok hok, rfl, rfl, text, rfl⟩
    rw [hok]
    simp only
    by_cases hkey : key = ascii "wifi_password"
    · rw [if_pos hkey]
      exact ⟨_, rfl, Or.inl (hset (ascii "wifi_password updated (use 'save' to persist)"))⟩
    · rw [if_neg hkey]
      have hreply : (ascii "ok: " ++ key ++ ascii " set (use 'save' to persist)").take 159
          = ascii "ok: " ++ (key ++ ascii " set (use 'save' to persist)").take 155 := by
        rw [List.append_assoc, List.take_append]
        rfl
      refine ⟨_, ?_, Or.inl (hset ((key ++ ascii " set (use 'save' to persist)").take 155))⟩
      rw [← hreply]
      rfl
  · rw [herror]
    exact ⟨_, rfl, Or.inr ⟨⟨ascii "invalid key or value", rfl⟩, hno⟩⟩

/-- **The outcome of a `set`**: the field is set, or the line is refused and the field does not take the value. -/
theorem set_outcome (target : Target) (writes : Bool) (line : CStr) {p : Bytes}
    (hp : nextToken (trimmed line.bytes) = (some (ascii "set"), p)) (s : Console) :
    ∃ s', (sdProvisionHandleLine target writes line).run s = (.ok (), s') ∧
      ((∃ key q, nextToken p = (some key, q) ∧ q.dropWhile isTab ≠ [] ∧ SetTo key (q.dropWhile isTab) s s') ∨
        (Refused s s' ∧ ∀ key q, nextToken p = (some key, q) → q.dropWhile isTab ≠ [] →
          ∀ v, ¬ FieldSet s.cfg.values key (q.dropWhile isTab) v)) := by
  simp only [sdProvisionHandleLine, dispatch_set hp]
  by_cases hvalue : (nextToken p).2.dropWhile isTab = []
  · obtain ⟨s', hrun, hrefused⟩ := run_cmdSet_nil target s.cfg hvalue s
    refine ⟨s', hrun, Or.inr ⟨hrefused, ?_⟩⟩
    intro key q hq hne
    rw [hq] at hvalue
    exact absurd hvalue hne
  rcases hq : nextToken p with ⟨_ | key, q⟩
  · rw [hq, nextToken_none hq] at hvalue
    exact absurd rfl hvalue
  · rw [hq] at hvalue
    obtain ⟨s', hrun, hset | ⟨hrefused, hno⟩⟩ := run_cmdSet target hq hvalue (line.nul_notMem_tokens hp hq) s
    · exact ⟨s', hrun, Or.inl ⟨key, q, rfl, hvalue, hset⟩⟩
    · refine ⟨s', hrun, Or.inr ⟨hrefused, ?_⟩⟩
      rintro key' q' ⟨⟩ _
      exact hno

/-- The command of the line is `reset`. -/
def isReset (line : Bytes) : Bool := (nextToken (trimmed line)).1 = some (ascii "reset")

/-- The session is the same, or the line was a `save`, a `reset` or an accepted `set`. -/
def ChangesOnly (line : Bytes) (s s' : Console) : Prop :=
  (s'.cfg = s.cfg ∧ s'.dirty = s.dirty) ∨ isSave line ∨ isReset line ∨
    ∃ key value, IsSet (line.take 255) key value ∧ SetTo key value s s'

lemma Refused.changesOnly {line : Bytes} {s s' : Console} (h : Refused s s') : ChangesOnly line s s' := by
  obtain ⟨text, rfl⟩ := h
  exact Or.inl ⟨rfl, rfl⟩

/-- **Every line leaves the session alone**, but for a `save`, a `reset` and an accepted `set`. -/
theorem handleLine_changesOnly (target : Target) (writes : Bool) (line : CStr) {s : Console}
    (h : s.cfg.Terminated) : ∃ s', (sdProvisionHandleLine target writes line).run s = (.ok (), s') ∧
      ChangesOnly line.bytes s s' := by
  by_cases hset : (nextToken (trimmed line.bytes)).1 = some (ascii "set")
  · have hp : nextToken (trimmed line.bytes) = (some (ascii "set"), (nextToken (trimmed line.bytes)).2) :=
      Prod.ext hset rfl
    obtain ⟨s', hrun, ⟨key, q, hq, hvalue, hset⟩ | ⟨hrefused, -⟩⟩ := set_outcome target writes line hp s
    · exact ⟨s', hrun, Or.inr (Or.inr (Or.inr ⟨key, _, isSet_of_tokens hp hq hvalue, hset⟩))⟩
    · exact ⟨s', hrun, hrefused.changesOnly⟩
  by_cases hsave : isSave line.bytes
  · obtain ⟨s', hrun, -⟩ := handleLine_cases target writes line h
    exact ⟨s', hrun, Or.inr (Or.inl hsave)⟩
  by_cases hreset : isReset line.bytes
  · obtain ⟨s', hrun, -⟩ := handleLine_cases target writes line h
    exact ⟨s', hrun, Or.inr (Or.inr (Or.inl hreset))⟩
  rw [isSave, decide_eq_true_eq] at hsave
  rw [isReset, decide_eq_true_eq] at hreset
  obtain ⟨lines, hrun⟩ := emits_dispatch target writes h hset hsave hreset s
  exact ⟨_, hrun, Or.inl ⟨rfl, rfl⟩⟩

/-- **A `set` on the console is exact, and all or nothing.**  A line of at most 255 octets that is a `set`
of a key to a value sets the field of that name to that value, where the value is not empty and in range,
and otherwise emits an error and changes nothing; and of all lines only an accepted `set`, a `save` and
a `reset` change the session. -/
theorem set_exact (target : Target) (writes : Bool) (line : CStr) {s : Console} (h : s.cfg.Terminated) :
    ∃ s', (sdProvisionHandleLine target writes line).run s = (.ok (), s') ∧
      (∀ key value, line.bytes.length ≤ 255 → IsSet line.bytes key value →
        (SetTo key value s s' ∧ value ≠ [] ∧ ∃ v, FieldSet s.cfg.values key value v) ∨
          (Refused s s' ∧ (value = [] ∨ ∀ v, ¬ FieldSet s.cfg.values key value v))) ∧
      ChangesOnly line.bytes s s' := by
  obtain ⟨s', hrun, honly⟩ := handleLine_changesOnly target writes line h
  refine ⟨s', hrun, ?_, honly⟩
  intro key value hlen hset
  rw [← List.take_of_length_le hlen] at hset
  by_cases hvalue : value = []
  · subst hvalue
    obtain ⟨p, hp, hnil⟩ := trimmed_isSet_nil hset
    obtain ⟨s'', hrun', ⟨key', q, hq, hne, -⟩ | ⟨hrefused, -⟩⟩ := set_outcome target writes line hp s
    · rw [hq] at hnil
      exact absurd hnil hne
    · rw [hrun'] at hrun
      exact Or.inr ⟨(Prod.mk.inj hrun).2 ▸ hrefused, Or.inl rfl⟩
  · obtain ⟨p, q, hp, hq, rfl⟩ := trimmed_isSet hset hvalue
    obtain ⟨s'', hrun', houtcome⟩ := set_outcome target writes line hp s
    rw [hrun'] at hrun
    obtain rfl : s'' = s' := (Prod.mk.inj hrun).2
    rcases houtcome with ⟨key', q', hq', -, hset⟩ | ⟨hrefused, hno⟩
    · rw [hq] at hq'
      obtain ⟨⟨rfl⟩, rfl⟩ := Prod.mk.inj hq'
      exact Or.inl ⟨hset, hvalue, _, hset.field⟩
    · exact Or.inr ⟨hrefused, Or.inr (hno key q hq hvalue)⟩

/-- A password of two words, with blanks around. -/
def passwordLine : CStr := ⟨ascii " set\twifi_password  two words \r\n", by decide⟩

lemma passwordLine_isSet : IsSet passwordLine.bytes (ascii "wifi_password") (ascii "two words") := by
  refine ⟨ascii " ", ascii "\twifi_password  two words \r\n", ascii "\t", ascii "  two words \r\n", ?_, ?_,
    by decide⟩
  · exact ⟨by decide, by decide, by decide, by decide, by rintro _ ⟨⟩; decide⟩
  · exact ⟨by decide, by decide, by decide, by decide, by rintro _ ⟨⟩; decide⟩

/-- On a fresh session. -/
theorem set_exact_password : ∃ s', (sdProvisionHandleLine .esp32 true passwordLine).run (sdProvisionInit [])
    = (.ok (), s') ∧ SetTo (ascii "wifi_password") (ascii "two words") (sdProvisionInit []) s' := by
  have hcfg : (sdProvisionInit []).cfg.Terminated := (sealed_load _).terminated
  obtain ⟨s', hrun, hset, -⟩ := set_exact .esp32 true passwordLine hcfg
  rcases hset _ _ (by decide) passwordLine_isSet with ⟨hset, -⟩ | ⟨-, hnil | hno⟩
  · exact ⟨s', hrun, hset⟩
  · exact absurd hnil (by decide)
  · exact absurd (.wifiPassword (by decide)) (hno _)

end Sudonit
