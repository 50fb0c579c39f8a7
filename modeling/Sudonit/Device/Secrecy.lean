import Sudonit.Core.Relational
import Sudonit.Device.SetLine

/-!
# The password stays inside

Two sessions whose configurations agree on everything but the password, and on whether there is one, run
side by side: the same line, or two lines that set acceptable passwords, make them emit the same lines and
agree again.

* `handleLine_related` — the same line in both sessions, command by command.
* `setsPassword_related` — a line with one password here and a line with another there.
* `password_never_shown` — every sequence of lines.
-/

namespace Sudonit

open Octets CText Words

/-! ## Two sessions -/

/-- The configurations agree on everything but the password, and on whether there is one. -/
structure SdConfig.Alike (a b : SdConfig) : Prop where
  wifiSsid : a.wifiSsid = b.wifiSsid
  wifiPassword : a.wifiPassword.first = 0 ↔ b.wifiPassword.first = 0
  serverHost : a.serverHost = b.serverHost
  gap : a.gap = b.gap
  serverPort : a.serverPort = b.serverPort
  deviceName : a.deviceName = b.deviceName
  tail : a.tail = b.tail

/-- Sessions that have emitted the same lines since their outputs were `o` and `p`, and whose configurations
agree but for the password. -/
structure Console.Alike (o p : List Bytes) (a b : Console) : Prop where
  cfg : a.cfg.Alike b.cfg
  left : a.cfg.Terminated
  right : b.cfg.Terminated
  out : ∃ emitted, a.out = o ++ emitted ∧ b.out = p ++ emitted

variable {o p : List Bytes}

/-- Both pointers read the same string. -/
def SameString (v w : Bytes) : Prop := ∃ s, cstring v = some s ∧ cstring w = some s

lemma SameString.refl {v : Bytes} (h : 0 ∈ v) : SameString v v := by
  obtain ⟨s, hs⟩ := exists_cstring_of_mem h
  exact ⟨s, hs, hs⟩

lemma sameString_front {a : Bytes} (h : 0 ∈ a) (v w : Bytes) : SameString (a ++ v) (a ++ w) := by
  obtain ⟨s, hs⟩ := exists_cstring_of_mem h
  exact ⟨s, by rw [cstring_append_of_mem h, hs], by rw [cstring_append_of_mem h, hs]⟩

namespace SdConfig.Alike

variable {a b : SdConfig}

lemma refl (a : SdConfig) : a.Alike a := ⟨rfl, Iff.rfl, rfl, rfl, rfl, rfl, rfl⟩

lemma deviceName_string (h : a.Alike b) (ha : a.Terminated) : SameString a.atDeviceName b.atDeviceName := by
  rw [atDeviceName, atDeviceName, ← h.deviceName]
  exact sameString_front ha.deviceName _ _

lemma serverHost_string (h : a.Alike b) (ha : a.Terminated) : SameString a.atServerHost b.atServerHost := by
  rw [atServerHost, atServerHost, ← h.serverHost]
  exact sameString_front ha.serverHost _ _

/-- The password lies right behind this field. -/
lemma wifiSsid_string (h : a.Alike b) (ha : a.Terminated) : SameString a.atWifiSsid b.atWifiSsid := by
  rw [atWifiSsid, atWifiSsid, ← h.wifiSsid]
  exact sameString_front ha.wifiSsid _ _

/-- What is shown in place of the password. -/
lemma marker (h : a.Alike b) {α : Type} (x y : α) :
    (if a.wifiPassword.first ≠ 0 then x else y) = if b.wifiPassword.first ≠ 0 then x else y :=
  if_congr (not_congr h.wifiPassword) rfl rfl

end SdConfig.Alike

lemma sameString_literal (s : String) : SameString (literal s) (literal s) :=
  SameString.refl (by simp [literal])

namespace SdConfig.Alike

variable {a b : SdConfig}

lemma shown_wifiSsid (h : a.Alike b) (ha : a.Terminated) :
    SameString (if a.wifiSsid.first ≠ 0 then a.atWifiSsid else literal "(unset)")
      (if b.wifiSsid.first ≠ 0 then b.atWifiSsid else literal "(unset)") := by
  rw [← h.wifiSsid]
  split_ifs
  · exact h.wifiSsid_string ha
  · exact sameString_literal _

lemma shown_wifiPassword (h : a.Alike b) :
    SameString (if a.wifiPassword.first ≠ 0 then literal "(set)" else literal "(unset)")
      (if b.wifiPassword.first ≠ 0 then literal "(set)" else literal "(unset)") := by
  rw [h.marker]
  split_ifs <;> exact sameString_literal _

lemma shown_serverHost (h : a.Alike b) (ha : a.Terminated) :
    SameString (if a.serverHost.first ≠ 0 then a.atServerHost else literal "(unset)")
      (if b.serverHost.first ≠ 0 then b.atServerHost else literal "(unset)") := by
  rw [← h.serverHost]
  split_ifs
  · exact h.serverHost_string ha
  · exact sameString_literal _

end SdConfig.Alike

lemma emit_related (line : Bytes) : Effect.Related (Console.Alike o p) (emit line) (emit line) := by
  intro s t h
  obtain ⟨emitted, hs, ht⟩ := h.out
  refine ⟨(), _, _, rfl, rfl, { h with out := ⟨emitted ++ [line], ?_, ?_⟩ }⟩
  · rw [hs, List.append_assoc]
  · rw [ht, List.append_assoc]

lemma emitf_related (key : String) {v w : Bytes} (h : SameString v w) :
    Effect.Related (Console.Alike o p) (emitf key v) (emitf key w) := by
  obtain ⟨s, hv, hw⟩ := h
  rw [emitf, emitf, hv, hw]
  exact emit_related _

lemma cmdShow_related {a b : SdConfig} (h : a.Alike b) (ha : a.Terminated) :
    Effect.Related (Console.Alike o p) (cmdShow a) (cmdShow b) := by
  have hport : SameString ((decimal a.serverPort.toNat).take 7 ++ [0])
      ((decimal b.serverPort.toNat).take 7 ++ [0]) := by
    rw [← h.serverPort]
    exact SameString.refl (by simp)
  refine (emitf_related _ (h.deviceName_string ha)).bind fun _ => ?_
  refine (emitf_related _ (h.shown_wifiSsid ha)).bind fun _ => ?_
  refine (emitf_related _ h.shown_wifiPassword).bind fun _ => ?_
  exact (emitf_related _ (h.shown_serverHost ha)).bind fun _ => emitf_related _ hport

lemma cmdHelp_related : Effect.Related (Console.Alike o p) cmdHelp cmdHelp :=
  (emit_related _).bind fun _ => (emit_related _).bind fun _ => (emit_related _).bind fun _ =>
    (emit_related _).bind fun _ => (emit_related _).bind fun _ => (emit_related _).bind fun _ =>
      (emit_related _).bind fun _ => emit_related _

/-- A field other than the password reads the same in both. -/
lemma getField_alike {a b : SdConfig} (h : a.Alike b) (ha : a.Terminated) {key : Bytes}
    (hkey : key ≠ ascii "wifi_password") (cap : ℕ) :
    sdConfigGetField a key cap = sdConfigGetField b key cap ∧
      sdConfigGetField a key cap ≠ .error .undefined := by
  have print : ∀ {v w}, SameString v w → printField v cap = printField w cap ∧
      printField v cap ≠ .error .undefined := by
    rintro v w ⟨s, hv, hw⟩
    rw [printField, printField, hv, hw]
    exact ⟨rfl, by simp⟩
  rw [sdConfigGetField, sdConfigGetField, if_neg hkey, if_neg hkey, h.serverPort]
  split_ifs
  · exact print (h.deviceName_string ha)
  · exact print (h.wifiSsid_string ha)
  · exact print (h.serverHost_string ha)
  · exact ⟨rfl, by simp⟩
  · exact ⟨rfl, by simp⟩

lemma cmdGet_related {a b : SdConfig} (h : a.Alike b) (ha : a.Terminated) (rest : Bytes) :
    Effect.Related (Console.Alike o p) (cmdGet a rest) (cmdGet b rest) := by
  rw [cmdGet, cmdGet]
  cases (nextToken rest).1 with
  | none => exact emit_related _
  | some key =>
      simp only
      by_cases hkey : key = ascii "wifi_password"
      · rw [if_pos hkey, if_pos hkey, h.marker]
        exact emit_related _
      · obtain ⟨heq, hdefined⟩ := getField_alike h ha hkey 128
        rw [if_neg hkey, if_neg hkey, ← heq]
        rcases hfield : sdConfigGetField a key 128 with (e | _) | value
        · exact emit_related _
        · exact absurd hfield hdefined
        · exact emit_related _

lemma change_related {a b : SdConfig} (h : a.Alike b) (ha : a.Terminated) (hb : b.Terminated) :
    Effect.Related (Console.Alike o p) (change a) (change b) :=
  fun _ _ hst => ⟨(), _, _, rfl, rfl, ⟨h, ha, hb, hst.out⟩⟩

lemma setStr_length {maxlen : ℕ} (dst : Buffer (maxlen + 1)) (value : Bytes) :
    (∃ b, setStr dst value = .ok b ∧ 0 ∈ b.bytes ∧ b.first = (value ++ [0]).headD 0) ∧ value.length ≤ maxlen ∨
      setStr dst value = .error .invalid ∧ maxlen < value.length := by
  unfold setStr
  split_ifs with hlen
  · refine Or.inl ⟨⟨_, rfl, zero_mem_put _ _ _, ?_⟩, hlen⟩
    cases value <;> rfl
  · exact Or.inr ⟨rfl, by omega⟩

/-- Setting a password in both. -/
lemma setPassword_alike {target : Target} {a b : SdConfig} (h : a.Alike b) {v w : Bytes}
    (hv : v.length ≤ wifiPassMax) (hw : w.length ≤ wifiPassMax)
    (hfirst : (v ++ [0]).headD 0 = 0 ↔ (w ++ [0]).headD 0 = 0) :
    ∃ a' b', sdConfigSetField target a (ascii "wifi_password") v = .ok a' ∧
      sdConfigSetField target b (ascii "wifi_password") w = .ok b' ∧ a'.Alike b' := by
  rcases setStr_length a.wifiPassword v with ⟨⟨p, hp, -, hpfirst⟩, -⟩ | ⟨-, hlen⟩
  · rcases setStr_length b.wifiPassword w with ⟨⟨q, hq, -, hqfirst⟩, -⟩ | ⟨-, hlen⟩
    · refine ⟨{ a with wifiPassword := p }, { b with wifiPassword := q }, ?_, ?_,
        { h with wifiPassword := by rw [hpfirst, hqfirst]; exact hfirst }⟩
      · rw [sdConfigSetField, if_neg (by decide), if_neg (by decide), if_pos rfl, hp]
        rfl
      · rw [sdConfigSetField, if_neg (by decide), if_neg (by decide), if_pos rfl, hq]
        rfl
    · omega
  · omega

/-- The same set in both is accepted in both or in none. -/
lemma setField_alike {target : Target} {a b : SdConfig} (h : a.Alike b) (key value : Bytes) :
    (∃ e, sdConfigSetField target a key value = .error e ∧ sdConfigSetField target b key value = .error e) ∨
      ∃ a' b', sdConfigSetField target a key value = .ok a' ∧
        sdConfigSetField target b key value = .ok b' ∧ a'.Alike b' := by
  by_cases hpass : key = ascii "wifi_password"
  · subst hpass
    rcases Nat.lt_or_ge wifiPassMax value.length with hlen | hlen
    · left
      refine ⟨.invalid, ?_, ?_⟩
      all_goals
        rw [sdConfigSetField, if_neg (by decide), if_neg (by decide), if_pos rfl, setStr, dif_neg (by omega)]
        rfl
    · exact Or.inr (setPassword_alike h hlen hlen Iff.rfl)
  · have both : ∀ {maxlen} {dst dst' : Buffer (maxlen + 1)} {f g : Buffer (maxlen + 1) → SdConfig},
        dst = dst' → (∀ x, (f x).Alike (g x)) →
        (∃ e, (setStr dst value).map f = .error e ∧ (setStr dst' value).map g = .error e) ∨
          ∃ a' b', (setStr dst value).map f = .ok a' ∧ (setStr dst' value).map g = .ok b' ∧ a'.Alike b' := by
      rintro maxlen dst _ f g rfl hfg
      cases setStr dst value with
      | error e => exact Or.inl ⟨e, rfl, rfl⟩
      | ok x => exact Or.inr ⟨f x, g x, rfl, rfl, hfg x⟩
    rw [sdConfigSetField, sdConfigSetField, if_neg hpass, if_neg hpass]
    split_ifs
    · exact both h.deviceName fun x => { h with deviceName := rfl }
    · exact both h.wifiSsid fun x => { h with wifiSsid := rfl }
    · exact both h.serverHost fun x => { h with serverHost := rfl }
    · simp only
      split_ifs
      · exact Or.inl ⟨_, rfl, rfl⟩
      · exact Or.inr ⟨_, _, rfl, rfl, { h with serverPort := rfl }⟩
    · exact Or.inl ⟨_, rfl, rfl⟩

lemma cmdSet_related {target : Target} {a b : SdConfig} (h : a.Alike b) (ha : a.Terminated)
    (hb : b.Terminated) (rest : Bytes) :
    Effect.Related (Console.Alike o p) (cmdSet target a rest) (cmdSet target b rest) := by
  rw [cmdSet, cmdSet]
  cases (nextToken rest).1 with
  | none => exact emit_related _
  | some key =>
      simp only
      by_cases hvalue : (nextToken rest).2.dropWhile isTab = []
      · rw [if_pos hvalue, if_pos hvalue]
        exact emit_related _
      · rw [if_neg hvalue, if_neg hvalue]
        rcases @setField_alike target _ _ h key ((nextToken rest).2.dropWhile isTab)
          with ⟨e, hsa, hsb⟩ | ⟨a', b', hsa, hsb, halike⟩
        · rw [hsa, hsb]
          exact emit_related _
        · rw [hsa, hsb]
          refine (change_related halike (ha.setField hsa) (hb.setField hsb)).bind fun _ => ?_
          split_ifs
          · exact emit_related _
          · exact emit_related _

lemma cmdSave_related {a b : SdConfig} (writes : Bool) :
    Effect.Related (Console.Alike o p) (cmdSave writes a) (cmdSave writes b) := by
  rw [cmdSave, cmdSave]
  split_ifs
  · refine Effect.Related.bind ?_ fun _ => emit_related _
    exact fun s t hst => ⟨(), _, _, rfl, rfl, ⟨hst.cfg, hst.left, hst.right, hst.out⟩⟩
  · exact emit_related _

lemma cmdReset_related : Effect.Related (Console.Alike o p) cmdReset cmdReset := by
  have hterm := SdConfig.sealed_defaults.terminated
  exact (change_related (SdConfig.Alike.refl _) hterm hterm).bind fun _ => emit_related _

/-- **The same line in both sessions.** -/
theorem handleLine_related (target : Target) (writes : Bool) (line : CStr) :
    Effect.Related (Console.Alike o p) (sdProvisionHandleLine target writes line)
      (sdProvisionHandleLine target writes line) := by
  refine Effect.Related.of_state fun s t h => ?_
  rw [dispatch, dispatch]
  cases (nextToken (trimmed line.bytes)).1 with
  | none => exact Effect.Related.pure ()
  | some cmd =>
      simp only
      split_ifs
      · exact cmdHelp_related
      · exact cmdShow_related h.cfg h.left
      · exact cmdGet_related h.cfg h.left _
      · exact cmdSet_related h.cfg h.left h.right _
      · exact cmdSave_related writes
      · exact cmdReset_related
      · exact emit_related _

/-! ## Lines that set a password -/

/-- The line is `set wifi_password v` with an acceptable `v`: blanks around the tokens, at most 255
octets. -/
structure SetsPassword (line v : Bytes) : Prop where
  shape : ∃ lead mid gap trail, line = lead ++ ascii "set" ++ mid ++ ascii "wifi_password" ++ gap ++ v ++ trail ∧
    (∀ b ∈ lead, isTab b) ∧ (mid ≠ [] ∧ ∀ b ∈ mid, isTab b) ∧ (gap ≠ [] ∧ ∀ b ∈ gap, isTab b) ∧
    ∀ b ∈ trail, isTrailing b
  fits : line.length ≤ 255
  value : v ≠ [] ∧ v.length ≤ wifiPassMax
  head : ∀ b ∈ v.head?, isTrailing b = false
  last : ∀ b ∈ v.getLast?, isTrailing b = false

/-- Such a line is a `set` of the password. -/
lemma SetsPassword.isSet {line v : Bytes} (h : SetsPassword line v) : IsSet line (ascii "wifi_password") v := by
  obtain ⟨lead, mid, gap, trail, hline, hlead, ⟨hmid, hmids⟩, ⟨hgap, hgaps⟩, htrail⟩ := h.shape
  obtain ⟨x, xs, hv⟩ := List.exists_cons_of_ne_nil h.value.1
  have hx : isTrailing x = false := h.head x (by rw [hv]; rfl)
  have hdrop : (gap ++ (v ++ trail)).dropWhile isTab = v ++ trail := by
    rw [List.dropWhile_append_of_pos hgaps, hv, List.cons_append, List.dropWhile_cons_of_neg]
    intro htab
    rw [isTrailing_of_isTab htab] at hx
    exact absurd hx (by decide)
  have htrim : (v ++ trail).rdropWhile isTrailing = v := by
    rw [rdropWhile_append_of_pos htrail, List.rdropWhile_eq_self_iff]
    intro hne htrailing
    rw [h.last _ (List.getLast?_eq_some_getLast hne)] at htrailing
    exact absurd htrailing (by decide)
  refine ⟨lead, mid ++ (ascii "wifi_password" ++ (gap ++ (v ++ trail))), mid, gap ++ (v ++ trail), ?_, ?_, ?_⟩
  · refine ⟨by rw [hline]; simp only [List.append_assoc], hlead, by decide, by decide, fun b hb => ?_⟩
    rw [List.head?_append_of_ne_nil mid hmid] at hb
    exact hmids b (List.mem_of_mem_head? hb)
  · refine ⟨rfl, hmids, by decide, by decide, fun b hb => ?_⟩
    rw [List.head?_append_of_ne_nil gap hgap] at hb
    exact hgaps b (List.mem_of_mem_head? hb)
  · rw [hdrop, htrim]

/-- What the `set` branch makes of such a line. -/
lemma SetsPassword.tokens {line v : Bytes} (h : SetsPassword line v) :
    ∃ p q, nextToken (trimmed line) = (some (ascii "set"), p) ∧
      nextToken p = (some (ascii "wifi_password"), q) ∧ q.dropWhile isTab = v :=
  trimmed_isSet (by rw [List.take_of_length_le h.fits]; exact h.isSet) h.value.1

/-- A password that is accepted does not start with a zero octet. -/
lemma SetsPassword.first {line v : Bytes} (h : SetsPassword line v) (hnul : 0 ∉ line) :
    (v ++ [0]).headD 0 ≠ 0 := by
  obtain ⟨lead, mid, gap, trail, rfl, -⟩ := h.shape
  obtain ⟨x, xs, rfl⟩ := List.exists_cons_of_ne_nil h.value.1
  rintro hx
  exact hnul (by simp [show x = 0 from hx])

/-- **One password here, another there.** -/
theorem setsPassword_related (target : Target) (writes : Bool) {l m : CStr} {v w : Bytes}
    (hl : SetsPassword l.bytes v) (hm : SetsPassword m.bytes w) :
    Effect.Related (Console.Alike o p) (sdProvisionHandleLine target writes l)
      (sdProvisionHandleLine target writes m) := by
  have reduce : ∀ {n : CStr} {u : Bytes}, SetsPassword n.bytes u → ∀ cfg cfg',
      sdConfigSetField target cfg (ascii "wifi_password") u = .ok cfg' →
      dispatch target writes n.bytes cfg = (do
        change cfg'
        emit (ascii "ok: wifi_password updated (use 'save' to persist)")) := by
    intro n u hn cfg cfg' hset
    obtain ⟨p, q, hcmd, hkey, hvalue⟩ := hn.tokens
    simp only [dispatch_set hcmd, cmdSet, hkey, hvalue, if_true, if_neg hn.value.1, hset]
  refine Effect.Related.of_state fun s t h => ?_
  obtain ⟨a', b', hsa, hsb, halike⟩ := @setPassword_alike target _ _ h.cfg _ _ hl.value.2 hm.value.2
    (iff_of_false (hl.first l.no_nul) (hm.first m.no_nul))
  rw [reduce hl _ _ hsa, reduce hm _ _ hsb]
  exact (change_related halike (h.left.setField hsa) (h.right.setField hsb)).bind fun _ => emit_related _

/-! ## Every sequence of lines -/

/-- The same line, or two lines that set acceptable passwords. -/
def SameButPassword (l m : CStr) : Prop :=
  l = m ∨ (∃ v, SetsPassword l.bytes v) ∧ ∃ w, SetsPassword m.bytes w

/-- **The console does not give the password away.**  Two sessions with terminated strings that agree but
for the contents of a password both have or both lack, given line by line the same commands except that
a password set here may differ from the one set there, emit the same lines and return the same codes. -/
theorem password_never_shown {target : Target} {a b : Console} (hcfg : a.cfg.Alike b.cfg)
    (ha : a.cfg.Terminated) (hb : b.cfg.Terminated) {lines : List (Bool × CStr × CStr)}
    (hlines : ∀ l ∈ lines, SameButPassword l.2.1 l.2.2) :
    ∃ a' b' emitted, (handleLines target (lines.map fun l => (l.1, l.2.1))).run a = (.ok (), a') ∧
      (handleLines target (lines.map fun l => (l.1, l.2.2))).run b = (.ok (), b') ∧
      a'.out = a.out ++ emitted ∧ b'.out = b.out ++ emitted := by
  have hrelated : Effect.Related (Console.Alike a.out b.out)
      (Effect.forEach (fun l : Bool × CStr × CStr => sdProvisionHandleLine target l.1 l.2.1) lines)
      (Effect.forEach (fun l => sdProvisionHandleLine target l.1 l.2.2) lines) := by
    refine Effect.Related.forEach fun l hl => ?_
    rcases hlines l hl with heq | ⟨⟨v, hv⟩, w, hw⟩
    · rw [heq]
      exact handleLine_related target l.1 l.2.2
    · exact setsPassword_related target l.1 hv hw
  have hstart : Console.Alike a.out b.out a b :=
    ⟨hcfg, ha, hb, [], by rw [List.append_nil], by rw [List.append_nil]⟩
  obtain ⟨_, a', b', hrun, hrun', halike⟩ := hrelated a b hstart
  obtain ⟨emitted, hout, hout'⟩ := halike.out
  refine ⟨a', b', emitted, ?_, ?_, hout, hout'⟩
  · rw [handleLines, Effect.forEach_map]
    exact hrun
  · rw [handleLines, Effect.forEach_map]
    exact hrun'

/-- A fresh session with a password. -/
def sessionWith (v : Bytes) (h : (v ++ [0]).length ≤ wifiPassMax + 1) : Console where
  cfg := { sdConfigDefaults with wifiPassword := (Buffer.zeros _).put (v ++ [0]) h }
  dirty := false
  stored := []
  out := []

lemma terminated_sessionWith (v : Bytes) (h : (v ++ [0]).length ≤ wifiPassMax + 1) :
    (sessionWith v h).cfg.Terminated :=
  { SdConfig.sealed_defaults.terminated with wifiPassword := zero_mem_put _ v h }

/-- One password replaced by another, and all settings shown. -/
theorem password_never_shown_twice : ∃ a' b' emitted,
    (handleLines .host [(true, ⟨ascii "set wifi_password first", by decide⟩),
      (true, ⟨ascii "show", by decide⟩)]).run (sessionWith (ascii "a") (by decide)) = (.ok (), a') ∧
    (handleLines .host [(true, ⟨ascii "set wifi_password the second", by decide⟩),
      (true, ⟨ascii "show", by decide⟩)]).run (sessionWith (ascii "bc") (by decide)) = (.ok (), b') ∧
    a'.out = [] ++ emitted ∧ b'.out = [] ++ emitted := by
  have halike : (sessionWith (ascii "a") (by decide)).cfg.Alike (sessionWith (ascii "bc") (by decide)).cfg :=
    ⟨rfl, by decide, rfl, rfl, rfl, rfl, rfl⟩
  have hset : ∀ v : Bytes, v = ascii "first" ∨ v = ascii "the second" →
      SetsPassword (ascii "set wifi_password " ++ v) v := by
    rintro v (rfl | rfl)
    · exact ⟨⟨[], ascii " ", ascii " ", [], by decide⟩, by decide, by decide, by rintro _ ⟨⟩; decide,
        by rintro _ ⟨⟩; decide⟩
    · exact ⟨⟨[], ascii " ", ascii " ", [], by decide⟩, by decide, by decide, by rintro _ ⟨⟩; decide,
        by rintro _ ⟨⟩; decide⟩
  have hlines : ∀ l ∈ [(true, (⟨ascii "set wifi_password first", by decide⟩ : CStr),
      (⟨ascii "set wifi_password the second", by decide⟩ : CStr)),
      (true, ⟨ascii "show", by decide⟩, ⟨ascii "show", by decide⟩)], SameButPassword l.2.1 l.2.2 := by
    rw [List.forall_mem_cons, List.forall_mem_singleton]
    exact ⟨Or.inr ⟨⟨_, hset _ (Or.inl rfl)⟩, _, hset _ (Or.inr rfl)⟩, Or.inl rfl⟩
  exact password_never_shown halike (terminated_sessionWith _ _) (terminated_sessionWith _ _) hlines

end Sudonit
