import Sudonit.Core.Registers
import Sudonit.Device.SetLine

/-!
# The console as five registers

What the console is for: five settings with a text each, changed by `set`, put back by `reset`, and kept over a
power cycle by `save`.  The session holds arrays of a block of memory, with whatever stands behind the
terminators, and stores the block; nothing of this is ever seen.

* `Command` — what a line says.
* `Obeys` — what the registers do about it, and the lines they answer with.
* `Represents.effect` — a command carried out is a command obeyed.
* `console_is_registers` — any number of lines and power cycles.
* `setting_survives` — what was set and saved is what `get` finds.
-/

namespace Sudonit

open Octets CText Registers

/-! ## The settings -/

inductive Key
  | deviceName
  | wifiSsid
  | wifiPassword
  | serverHost
  | serverPort
  deriving DecidableEq

def Key.name : Key → Bytes
  | .deviceName => ascii "device_name"
  | .wifiSsid => ascii "wifi_ssid"
  | .wifiPassword => ascii "wifi_password"
  | .serverHost => ascii "server_host"
  | .serverPort => ascii "server_port"

/-- The settings take texts up to this length. -/
def Key.room : Key → ℕ
  | .deviceName => nameMax
  | .wifiSsid => wifiSsidMax
  | .wifiPassword => wifiPassMax
  | .serverHost => hostMax
  | .serverPort => 5

/-- The setting takes the text, and then reads so. -/
def Key.Takes (k : Key) (text value : Bytes) : Prop :=
  match k with
  | .serverPort => ∃ port, DenotesPort text port ∧ value = decimal port
  | k => text.length ≤ k.room ∧ value = text

/-- How the settings read. -/
def ConfigValues.setting (v : ConfigValues) : Key → Bytes
  | .deviceName => v.deviceName
  | .wifiSsid => v.wifiSsid
  | .wifiPassword => v.wifiPassword
  | .serverHost => v.serverHost
  | .serverPort => decimal v.serverPort.toNat

/-! ## What a line says -/

inductive Command
  | blank
  | help
  | showAll
  | badGet
  | get (key : Bytes)
  | badSet
  | set (key value : Bytes)
  | save
  | reset
  | unknown
  deriving DecidableEq

/-- Behind the word `get`. -/
def Command.ofGet (p : Bytes) : Command :=
  match (nextToken p).1 with
  | none => .badGet
  | some key => .get key

/-- Behind the word `set`. -/
def Command.ofSet (p : Bytes) : Command :=
  match (nextToken p).1 with
  | none => .badSet
  | some key =>
      if (nextToken p).2.dropWhile isTab = [] then .badSet
      else .set key ((nextToken p).2.dropWhile isTab)

def Command.ofLine (line : Bytes) : Command :=
  match (nextToken (trimmed line)).1 with
  | none => .blank
  | some word =>
      if word = ascii "help" then .help
      else if word = ascii "show" then .showAll
      else if word = ascii "get" then .ofGet (nextToken (trimmed line)).2
      else if word = ascii "set" then .ofSet (nextToken (trimmed line)).2
      else if word = ascii "save" then .save
      else if word = ascii "reset" then .reset
      else .unknown

/-! ## What the registers answer -/

/-- What is shown of a value that may be empty. -/
def orUnset (value : Bytes) : Bytes := if value = [] then ascii "(unset)" else value

/-- What is shown of the password. -/
def masked (value : Bytes) : Bytes := if value = [] then ascii "(unset)" else ascii "(set)"

def shown (r : Key → Bytes) : Key → Bytes
  | .deviceName => r .deviceName
  | .wifiSsid => orUnset (r .wifiSsid)
  | .wifiPassword => masked (r .wifiPassword)
  | .serverHost => orUnset (r .serverHost)
  | .serverPort => r .serverPort

/-- The lines of `show`. -/
def shownLines (r : Key → Bytes) : List Bytes :=
  [Key.deviceName, .wifiSsid, .wifiPassword, .serverHost, .serverPort].map fun k =>
    padRight 13 k.name ++ ascii " = " ++ shown r k

/-- The lines of `help`. -/
def helpLines : List Bytes :=
  [ascii "commands:",
    ascii "  show                 print all settings (password masked)",
    ascii "  get <key>            print one setting",
    ascii "  set <key> <value>    change a setting (in memory)",
    ascii "  save                 persist changes to storage",
    ascii "  reset                restore defaults (then 'save' to persist)",
    ascii "  help                 this help",
    ascii "keys: device_name | wifi_ssid | wifi_password | server_host | server_port"]

/-- The line of `get`. -/
def got (k : Key) (value : Bytes) : Bytes :=
  match k with
  | .wifiPassword => masked value
  | _ => value

/-- The line of an accepted `set`. -/
def confirmed : Key → Bytes
  | .wifiPassword => ascii "ok: wifi_password updated (use 'save' to persist)"
  | k => ascii "ok: " ++ k.name ++ ascii " set (use 'save' to persist)"

/-- What the registers do on a command, and what they answer, when a write to the store succeeds or not. -/
inductive Obeys (writes : Bool) (f : File Key Bytes) : Command → List (Op Key Bytes) → List Bytes → Prop
  | blank : Obeys writes f .blank [] []
  | help : Obeys writes f .help [] helpLines
  | showAll : Obeys writes f .showAll [] (shownLines f.current)
  | badGet : Obeys writes f .badGet [] [ascii "error: usage: get <key>"]
  | get {k : Key} {key : Bytes} (h : k.name = key) : Obeys writes f (.get key) [] [got k (f.current k)]
  | getUnknown {key : Bytes} (h : ∀ k : Key, k.name ≠ key) : Obeys writes f (.get key) [] [ascii "error: unknown key"]
  | badSet : Obeys writes f .badSet [] [ascii "error: usage: set <key> <value>"]
  | set {k : Key} {key text value : Bytes} (h : k.name = key) (takes : k.Takes text value) :
      Obeys writes f (.set key text) [.write k value] [confirmed k]
  | refused {key text : Bytes} (h : ∀ k value, k.name = key → ¬ Key.Takes k text value) :
      Obeys writes f (.set key text) [] [ascii "error: invalid key or value"]
  | saved (h : writes = true) : Obeys writes f .save [.save] [ascii "ok: saved"]
  | unsaved (h : writes = false) : Obeys writes f .save [] [ascii "error: failed to save"]
  | reset : Obeys writes f .reset [.clear] [ascii "ok: configuration reset to defaults (use 'save' to persist)"]
  | unknown : Obeys writes f .unknown [] [ascii "error: unknown command (type 'help')"]

/-! ## A line is a command -/

/-- What the code does on a command. -/
def Command.effect (target : Target) (writes : Bool) (cfg : SdConfig) : Command → Effect Console Halt Unit
  | .blank => pure ()
  | .help => cmdHelp
  | .showAll => cmdShow cfg
  | .badGet => emit (ascii "error: usage: get <key>")
  | .get key =>
      if key = ascii "wifi_password" then
        emit (if cfg.wifiPassword.first ≠ 0 then ascii "(set)" else ascii "(unset)")
      else
        match sdConfigGetField cfg key 128 with
        | .error .undefined => Effect.fail .undefined
        | .error (.code _) => emit (ascii "error: unknown key")
        | .ok value => emit value
  | .badSet => emit (ascii "error: usage: set <key> <value>")
  | .set key value =>
      match sdConfigSetField target cfg key value with
      | .error _ => emit (ascii "error: invalid key or value")
      | .ok cfg' => do
          change cfg'
          if key = ascii "wifi_password" then
            emit (ascii "ok: wifi_password updated (use 'save' to persist)")
          else emitLine (ascii "ok: " ++ key ++ ascii " set (use 'save' to persist)")
  | .save => cmdSave writes cfg
  | .reset => cmdReset
  | .unknown => emit (ascii "error: unknown command (type 'help')")

lemma dispatch_eq (target : Target) (writes : Bool) (line : Bytes) (cfg : SdConfig) :
    dispatch target writes line cfg = (Command.ofLine line).effect target writes cfg := by
  rw [dispatch, Command.ofLine]
  cases (nextToken (trimmed line)).1 with
  | none => rfl
  | some word =>
      simp only
      split_ifs
      · rfl
      · rfl
      · rw [cmdGet, Command.ofGet]
        cases (nextToken (nextToken (trimmed line)).2).1 <;> rfl
      · rw [cmdSet, Command.ofSet]
        cases (nextToken (nextToken (trimmed line)).2).1 with
        | none => rfl
        | some key =>
            simp only
            by_cases hvalue : (nextToken (nextToken (trimmed line)).2).2.dropWhile isTab = []
            · rw [if_pos hvalue, if_pos hvalue]
              rfl
            · rw [if_neg hvalue, if_neg hvalue]
              rfl
      · rfl
      · rfl
      · rfl

/-- The value of a `set` is a C string. -/
lemma ofLine_set {line : CStr} {key value : Bytes} (h : Command.ofLine line.bytes = .set key value) : 0 ∉ value := by
  rw [Command.ofLine] at h
  rcases hp : nextToken (trimmed line.bytes) with ⟨_ | word, p⟩
  · simp [hp] at h
  · simp only [hp] at h
    split_ifs at h
    · rw [Command.ofGet] at h
      rcases hq : nextToken p with ⟨_ | key', q⟩ <;> simp [hq] at h
    · rw [Command.ofSet] at h
      rcases hq : nextToken p with ⟨_ | key', q⟩
      · simp [hq] at h
      · simp only [hq] at h
        split_ifs at h
        simp only [Command.set.injEq] at h
        obtain ⟨-, rfl⟩ := h
        exact fun hmem => line.nul_notMem_tokens hp hq ((List.dropWhile_suffix isTab).subset hmem)

/-! ## The fields as settings -/

lemma Buffer.length_text_le {n : ℕ} {b : Buffer (n + 1)} (h : b.Sealed) : b.text.length ≤ n := by
  by_contra hlong
  have hlen : b.bytes.length ≤ b.text.length := by rw [b.length_eq]; omega
  have hall : b.text = b.bytes := (List.takeWhile_prefix _).eq_of_length_le hlen
  exact absurd (hall ▸ h.mem) (zero_notMem_takeWhile _)

lemma cstring_text {n : ℕ} {b : Buffer (n + 1)} (h : b.Sealed) (rest : Bytes) :
    cstring (b.bytes ++ rest) = some b.text := by
  rw [cstring_append_of_mem h.mem, cstring, if_pos h.mem]
  rfl

lemma Buffer.first_eq_zero {n : ℕ} {b : Buffer (n + 1)} : b.first = 0 ↔ b.text = [] := by
  have hne : b.bytes ≠ [] := by
    intro hnil
    have := b.length_eq
    simp [hnil] at this
  obtain ⟨c, cs, hb⟩ := List.exists_cons_of_ne_nil hne
  rw [Buffer.first, Buffer.text, hb]
  by_cases hc : c = 0 <;> simp [hc]

lemma length_setting_le {cfg : SdConfig} (h : cfg.Sealed) (k : Key) : (cfg.values.setting k).length ≤ k.room := by
  cases k with
  | deviceName => exact Buffer.length_text_le h.deviceName
  | wifiSsid => exact Buffer.length_text_le h.wifiSsid
  | wifiPassword => exact Buffer.length_text_le h.wifiPassword
  | serverHost => exact Buffer.length_text_le h.serverHost
  | serverPort =>
      refine (length_decimal_le (by decide)).mpr (lt_trans cfg.serverPort.toNat_lt ?_)
      decide

/-- A name names one setting. -/
lemma Key.name_inj {k l : Key} (h : k.name = l.name) : k = l := by
  revert h
  cases k <;> cases l <;> decide

lemma Key.name_eq_password {k : Key} : k.name = ascii "wifi_password" ↔ k = .wifiPassword := by
  cases k <;> decide

/-- A field that was set is a register that was written. -/
lemma FieldSet.takes {v v' : ConfigValues} {key text : Bytes} (h : FieldSet v key text v') :
    ∃ k value, key = Key.name k ∧ Key.Takes k text value ∧ v'.setting = Function.update v.setting k value := by
  cases h with
  | deviceName hlen =>
      refine ⟨.deviceName, text, rfl, ⟨hlen, rfl⟩, ?_⟩
      funext k
      cases k <;> simp [ConfigValues.setting]
  | wifiSsid hlen =>
      refine ⟨.wifiSsid, text, rfl, ⟨hlen, rfl⟩, ?_⟩
      funext k
      cases k <;> simp [ConfigValues.setting]
  | wifiPassword hlen =>
      refine ⟨.wifiPassword, text, rfl, ⟨hlen, rfl⟩, ?_⟩
      funext k
      cases k <;> simp [ConfigValues.setting]
  | serverHost hlen =>
      refine ⟨.serverHost, text, rfl, ⟨hlen, rfl⟩, ?_⟩
      funext k
      cases k <;> simp [ConfigValues.setting]
  | @serverPort _ port hport =>
      refine ⟨.serverPort, decimal port, rfl, ⟨port, hport, rfl⟩, ?_⟩
      have hrange : port % 65536 = port := Nat.mod_eq_of_lt (by have := hport.range; omega)
      funext k
      cases k <;> simp [ConfigValues.setting, hrange]

/-- Every text a register takes sets its field. -/
lemma Key.Takes.fieldSet {k : Key} {text value : Bytes} (h : k.Takes text value) (v : ConfigValues) :
    ∃ v', FieldSet v k.name text v' := by
  cases k with
  | deviceName => exact ⟨_, .deviceName h.1⟩
  | wifiSsid => exact ⟨_, .wifiSsid h.1⟩
  | wifiPassword => exact ⟨_, .wifiPassword h.1⟩
  | serverHost => exact ⟨_, .serverHost h.1⟩
  | serverPort =>
      obtain ⟨port, hport, -⟩ := h
      exact ⟨_, .serverPort hport⟩

/-- What is read by name. -/
lemma getField_setting {cfg : SdConfig} (h : cfg.Sealed) (k : Key) :
    sdConfigGetField cfg k.name 128 = .ok (cfg.values.setting k) := by
  have hlen := length_setting_le h k
  have hprint : ∀ {n : ℕ} {b : Buffer (n + 1)}, b.Sealed → n ≤ 127 → ∀ rest,
      printField (b.bytes ++ rest) 128 = .ok b.text := by
    intro n b hb hn rest
    have hshort := Buffer.length_text_le hb
    rw [printField, cstring_text hb]
    exact congrArg Except.ok (List.take_of_length_le (by omega))
  cases k with
  | deviceName =>
      rw [Key.name, sdConfigGetField, if_pos rfl]
      exact hprint h.deviceName (by decide) _
  | wifiSsid =>
      rw [Key.name, sdConfigGetField, if_neg (by decide), if_pos rfl]
      exact hprint h.wifiSsid (by decide) _
  | wifiPassword =>
      rw [Key.name, sdConfigGetField, if_neg (by decide), if_neg (by decide), if_pos rfl]
      exact hprint h.wifiPassword (by decide) _
  | serverHost =>
      rw [Key.name, sdConfigGetField, if_neg (by decide), if_neg (by decide), if_neg (by decide), if_pos rfl]
      exact hprint h.serverHost (by decide) _
  | serverPort =>
      have hfive : (decimal cfg.serverPort.toNat).length ≤ 5 := hlen
      rw [Key.name, sdConfigGetField, if_neg (by decide), if_neg (by decide), if_neg (by decide), if_neg (by decide),
        if_pos rfl]
      exact congrArg Except.ok (List.take_of_length_le (by omega))

lemma getField_unnamed (cfg : SdConfig) {key : Bytes} (h : ∀ k : Key, k.name ≠ key) :
    sdConfigGetField cfg key 128 = .error (.code .invalid) := by
  unfold sdConfigGetField
  split_ifs with hname hssid hpass hhost hport
  · exact absurd hname.symm (h .deviceName)
  · exact absurd hssid.symm (h .wifiSsid)
  · exact absurd hpass.symm (h .wifiPassword)
  · exact absurd hhost.symm (h .serverHost)
  · exact absurd hport.symm (h .serverPort)
  · rfl

/-! ## What is shown -/

lemma run_emitf {key : String} {mem value : Bytes} (h : cstring mem = some value) (hkey : (ascii key).length ≤ 13)
    (hvalue : value.length ≤ 100) (s : Console) :
    (emitf key mem).run s = (.ok (), { s with out := s.out ++ [padRight 13 (ascii key) ++ ascii " = " ++ value] }) := by
  have hlen : (padRight 13 (ascii key) ++ ascii " = " ++ value).length ≤ 159 := by
    have hthree : (ascii " = ").length = 3 := by decide
    simp only [padRight, List.length_append, List.length_replicate, hthree]
    omega
  simp only [emitf, h, emitLine, emit, List.take_of_length_le hlen]

lemma cstring_orUnset {n : ℕ} {b : Buffer (n + 1)} (h : b.Sealed) (rest : Bytes) :
    cstring (if b.first ≠ 0 then b.bytes ++ rest else literal "(unset)") = some (orUnset b.text) := by
  rw [orUnset]
  by_cases hempty : b.text = []
  · rw [if_neg (not_not.mpr (Buffer.first_eq_zero.mpr hempty)), if_pos hempty]
    decide
  · rw [if_pos (mt Buffer.first_eq_zero.mp hempty), if_neg hempty, cstring_text h]

lemma cstring_masked {n : ℕ} {b : Buffer (n + 1)} :
    cstring (if b.first ≠ 0 then literal "(set)" else literal "(unset)") = some (masked b.text) := by
  rw [masked]
  by_cases hempty : b.text = []
  · rw [if_neg (not_not.mpr (Buffer.first_eq_zero.mpr hempty)), if_pos hempty]
    decide
  · rw [if_pos (mt Buffer.first_eq_zero.mp hempty), if_neg hempty]
    decide

lemma length_orUnset_le {value : Bytes} {n : ℕ} (h : value.length ≤ n) (hn : 7 ≤ n) : (orUnset value).length ≤ n := by
  rw [orUnset]
  split_ifs
  · exact le_trans (by decide) hn
  · exact h

lemma length_masked_le (value : Bytes) : (masked value).length ≤ 100 := by
  rw [masked]
  split_ifs <;> decide

lemma run_cmdHelp (s : Console) : cmdHelp.run s = (.ok (), { s with out := s.out ++ helpLines }) := by
  have hkeys : (ascii "keys: " ++ keyList).take 159
      = ascii "keys: device_name | wifi_ssid | wifi_password | server_host | server_port" := rfl
  simp only [cmdHelp, helpLines, emit, emitLine, Effect.run_bind, List.append_assoc, List.cons_append,
    List.nil_append, hkeys]

/-- `show` emits the settings. -/
lemma run_cmdShow {cfg : SdConfig} (h : cfg.Sealed) (s : Console) :
    (cmdShow cfg).run s = (.ok (), { s with out := s.out ++ shownLines cfg.values.setting }) := by
  have hname : cfg.deviceName.text.length ≤ 100 := (Buffer.length_text_le h.deviceName).trans (by decide)
  have hssid : (orUnset cfg.wifiSsid.text).length ≤ 100 :=
    length_orUnset_le ((Buffer.length_text_le h.wifiSsid).trans (by decide)) (by decide)
  have hhost : (orUnset cfg.serverHost.text).length ≤ 100 :=
    length_orUnset_le ((Buffer.length_text_le h.serverHost).trans (by decide)) (by decide)
  have hdigits : (decimal cfg.serverPort.toNat).length ≤ 5 := length_setting_le h .serverPort
  have hport : cstring ((decimal cfg.serverPort.toNat).take 7 ++ [0]) = some (decimal cfg.serverPort.toNat) := by
    rw [List.take_of_length_le (by omega)]
    exact cstring_append (fun hzero => absurd (isDigit_of_mem_decimal hzero) (by decide)) []
  have hshowName : cstring cfg.atDeviceName = some cfg.deviceName.text := cstring_text h.deviceName _
  have hshowSsid : cstring (if cfg.wifiSsid.first ≠ 0 then cfg.atWifiSsid else literal "(unset)")
      = some (orUnset cfg.wifiSsid.text) := cstring_orUnset h.wifiSsid _
  have hshowHost : cstring (if cfg.serverHost.first ≠ 0 then cfg.atServerHost else literal "(unset)")
      = some (orUnset cfg.serverHost.text) := cstring_orUnset h.serverHost _
  rw [cmdShow, Effect.run_bind_ok (run_emitf hshowName (by decide) hname s),
    Effect.run_bind_ok (run_emitf hshowSsid (by decide) hssid _),
    Effect.run_bind_ok (run_emitf cstring_masked (by decide) (length_masked_le _) _),
    Effect.run_bind_ok (run_emitf hshowHost (by decide) hhost _), run_emitf hport (by decide) (by omega)]
  simp only [shownLines, shown, List.map_cons, List.map_nil, List.append_assoc, List.cons_append, List.nil_append]
  rfl

/-- `get` emits the setting, or what is shown for the password. -/
lemma run_get {target : Target} {writes : Bool} {cfg : SdConfig} (h : cfg.Sealed) (k : Key) (s : Console) :
    ((Command.get k.name).effect target writes cfg).run s
      = (.ok (), { s with out := s.out ++ [got k (cfg.values.setting k)] }) := by
  rw [Command.effect, getField_setting h k]
  simp only [Key.name_eq_password]
  by_cases hkey : k = .wifiPassword
  · subst hkey
    rw [if_pos rfl]
    by_cases hempty : cfg.wifiPassword.text = []
    · rw [if_neg (not_not.mpr (Buffer.first_eq_zero.mpr hempty))]
      simp [emit, got, masked, ConfigValues.setting, SdConfig.values, hempty]
    · rw [if_pos (mt Buffer.first_eq_zero.mp hempty)]
      simp [emit, got, masked, ConfigValues.setting, SdConfig.values, hempty]
  · rw [if_neg hkey]
    cases k with
    | wifiPassword => exact absurd rfl hkey
    | _ => rfl

lemma run_set {target : Target} {writes : Bool} {cfg cfg' : SdConfig} {k : Key} {text : Bytes}
    (h : sdConfigSetField target cfg k.name text = .ok cfg') (s : Console) :
    ((Command.set k.name text).effect target writes cfg).run s
      = (.ok (), { s with cfg := cfg', dirty := true, out := s.out ++ [confirmed k] }) := by
  rw [Command.effect, h]
  simp only [Key.name_eq_password]
  cases k <;> rfl

/-! ## Lines and power cycles -/

/-- The session and its store say what the registers and their copy hold. -/
structure Represents (s : Console) (f : File Key Bytes) : Prop where
  sealed : s.cfg.Sealed
  current : f.current = s.cfg.values.setting
  saved : f.saved = (sdConfigLoad (sdConfigStoreRead s.stored blobBytes)).2.values.setting

/-- The settings before the first change. -/
def defaults : Key → Bytes := sdConfigDefaults.values.setting

/-- **A command carried out** is a command obeyed. -/
theorem Represents.effect {s : Console} {f : File Key Bytes} (h : Represents s f) (target : Target) (writes : Bool)
    {c : Command} (hc : ∀ key value, c = .set key value → 0 ∉ value) : ∃ s' ops replies,
      (c.effect target writes s.cfg).run s = (.ok (), s') ∧ Obeys writes f c ops replies ∧
        s'.out = s.out ++ replies ∧ Represents s' (f.run defaults ops) := by
  have hsame : ∀ replies, Represents { s with out := s.out ++ replies } f :=
    fun _ => ⟨h.sealed, h.current, h.saved⟩
  cases c with
  | blank => exact ⟨s, [], [], rfl, .blank, (List.append_nil _).symm, h⟩
  | help => exact ⟨_, [], _, run_cmdHelp s, .help, rfl, hsame _⟩
  | showAll =>
      have hshow := run_cmdShow h.sealed s
      rw [← h.current] at hshow
      exact ⟨_, [], _, hshow, .showAll, rfl, hsame _⟩
  | badGet => exact ⟨_, [], _, rfl, .badGet, rfl, hsame _⟩
  | get key =>
      by_cases hkey : ∃ k : Key, k.name = key
      · obtain ⟨k, rfl⟩ := hkey
        refine ⟨_, [], _, run_get h.sealed k s, ?_, rfl, hsame _⟩
        rw [← h.current]
        exact .get rfl
      · rw [not_exists] at hkey
        refine ⟨_, [], _, ?_, .getUnknown hkey, rfl, hsame _⟩
        rw [Command.effect, if_neg (fun hname => hkey .wifiPassword hname.symm), getField_unnamed s.cfg hkey]
        rfl
  | badSet => exact ⟨_, [], _, rfl, .badSet, rfl, hsame _⟩
  | set key text =>
      rcases sdConfigSetField_iff target s.cfg key (hc key text rfl) with ⟨cfg', hok, hfield⟩ | ⟨herror, hno⟩
      · obtain ⟨k, value, rfl, htakes, hsetting⟩ := hfield.takes
        refine ⟨_, [.write k value], _, run_set hok s, .set rfl htakes, rfl, ⟨h.sealed.setField hok, ?_, h.saved⟩⟩
        rw [hsetting, ← h.current]
        rfl
      · refine ⟨_, [], _, ?_, .refused ?_, rfl, hsame _⟩
        · rw [Command.effect, herror]
          rfl
        · rintro k value rfl htakes
          obtain ⟨v, hv⟩ := htakes.fieldSet s.cfg.values
          exact hno v hv
  | save =>
      rw [Command.effect, cmdSave]
      cases writes with
      | true =>
          refine ⟨_, [.save], _, rfl, .saved rfl, rfl, ⟨h.sealed, h.current, ?_⟩⟩
          rw [load_saved h.sealed]
          exact h.current
      | false => exact ⟨_, [], _, rfl, .unsaved rfl, rfl, hsame _⟩
  | reset =>
      refine ⟨_, [.clear], _, rfl, .reset, rfl, ⟨SdConfig.sealed_defaults, rfl, h.saved⟩⟩
  | unknown => exact ⟨_, [], _, rfl, .unknown, rfl, hsame _⟩

/-- A line, with whether a write to the store would succeed, or a power cycle. -/
inductive ConsoleEvent
  | line (writes : Bool) (text : CStr)
  | restart

/-- A fresh session on the same store, below the lines emitted so far. -/
def Console.restarted (s : Console) : Console := { sdProvisionInit s.stored with out := s.out }

def ConsoleEvent.effect (target : Target) : ConsoleEvent → Effect Console Halt Unit
  | .line writes text => sdProvisionHandleLine target writes text
  | .restart => ⟨fun s => (.ok (), s.restarted)⟩

def runEvents (target : Target) (events : List ConsoleEvent) : Effect Console Halt Unit :=
  Effect.forEach (ConsoleEvent.effect target) events

/-- What the registers do and answer, event by event. -/
inductive Session : File Key Bytes → List ConsoleEvent → List (Op Key Bytes) → List Bytes → Prop
  | done (f : File Key Bytes) : Session f [] [] []
  | line {f : File Key Bytes} {writes : Bool} {text : CStr} {events : List ConsoleEvent}
      {ops ops' : List (Op Key Bytes)} {replies replies' : List Bytes}
      (obeys : Obeys writes f (Command.ofLine text.bytes) ops replies)
      (rest : Session (f.run defaults ops) events ops' replies') :
      Session f (.line writes text :: events) (ops ++ ops') (replies ++ replies')
  | restart {f : File Key Bytes} {events : List ConsoleEvent} {ops : List (Op Key Bytes)} {replies : List Bytes}
      (rest : Session (f.step defaults .restart) events ops replies) :
      Session f (.restart :: events) (.restart :: ops) replies

/-- A fresh session represents what is stored. -/
lemma represents_init (stored : Bytes) : Represents (sdProvisionInit stored)
    ⟨(sdProvisionInit stored).cfg.values.setting, (sdProvisionInit stored).cfg.values.setting⟩ :=
  ⟨sealed_load _, rfl, rfl⟩

lemma Represents.restarted {s : Console} {f : File Key Bytes} (h : Represents s f) :
    Represents s.restarted (f.step defaults .restart) :=
  ⟨sealed_load _, h.saved, h.saved⟩

/-- **A session is a session of the registers.** -/
theorem Represents.session {s : Console} {f : File Key Bytes} (h : Represents s f) (target : Target)
    (events : List ConsoleEvent) : ∃ s' ops replies, (runEvents target events).run s = (.ok (), s') ∧
      Session f events ops replies ∧ s'.out = s.out ++ replies ∧ Represents s' (f.run defaults ops) := by
  induction events generalizing s f with
  | nil => exact ⟨s, [], [], rfl, .done f, (List.append_nil _).symm, h⟩
  | cons e events ih =>
      rw [runEvents, Effect.forEach_cons]
      cases e with
      | line writes text =>
          obtain ⟨s₁, ops, replies, hrun, hobeys, hout, hs₁⟩ := h.effect target writes
            fun key value hset => ofLine_set hset
          rw [← dispatch_eq] at hrun
          obtain ⟨s₂, ops', replies', hrest, hsession, hout', hs₂⟩ := ih hs₁
          refine ⟨s₂, ops ++ ops', replies ++ replies', ?_, .line hobeys hsession, ?_, ?_⟩
          · rw [Effect.run_bind_ok (show (ConsoleEvent.effect target (.line writes text)).run s = _ from hrun)]
            exact hrest
          · rw [hout', hout, List.append_assoc]
          · rw [run_append]
            exact hs₂
      | restart =>
          obtain ⟨s₂, ops, replies, hrest, hsession, hout, hs₂⟩ := ih h.restarted
          exact ⟨s₂, .restart :: ops, replies, hrest, .restart hsession, hout, hs₂⟩

/-! ## The answers are determined -/

lemma DenotesPort.unique {text : Bytes} {m n : ℕ} (hm : DenotesPort text m) (hn : DenotesPort text n) : m = n := by
  have hread := (strtol_denotes .host hm).symm.trans (strtol_denotes .host hn)
  exact Nat.cast_injective (Prod.mk.inj hread).1

lemma Key.Takes.unique {k : Key} {text v w : Bytes} (hv : k.Takes text v) (hw : k.Takes text w) : v = w := by
  cases k with
  | serverPort =>
      obtain ⟨m, hm, rfl⟩ := hv
      obtain ⟨n, hn, rfl⟩ := hw
      rw [hm.unique hn]
  | _ => exact hv.2.trans hw.2.symm

lemma Obeys.unique {writes : Bool} {f : File Key Bytes} {c : Command} {ops ops' : List (Op Key Bytes)}
    {replies replies' : List Bytes} (h : Obeys writes f c ops replies) (h' : Obeys writes f c ops' replies') :
    ops = ops' ∧ replies = replies' := by
  cases h with
  | get hk =>
      cases h' with
      | get hl => exact ⟨rfl, by rw [Key.name_inj (hk.trans hl.symm)]⟩
      | getUnknown hno => exact absurd hk (hno _)
  | getUnknown hno =>
      cases h' with
      | get hl => exact absurd hl (hno _)
      | getUnknown _ => exact ⟨rfl, rfl⟩
  | set hk hv =>
      cases h' with
      | set hl hw =>
          obtain rfl := Key.name_inj (hk.trans hl.symm)
          rw [hv.unique hw]
          exact ⟨rfl, rfl⟩
      | refused hno => exact absurd hv (hno _ _ hk)
  | refused hno =>
      cases h' with
      | set hl hw => exact absurd hw (hno _ _ hl)
      | refused _ => exact ⟨rfl, rfl⟩
  | saved hw =>
      cases h' with
      | saved _ => exact ⟨rfl, rfl⟩
      | unsaved hno => simp [hw] at hno
  | unsaved hno =>
      cases h' with
      | saved hw => simp [hw] at hno
      | unsaved _ => exact ⟨rfl, rfl⟩
  | _ =>
      cases h'
      exact ⟨rfl, rfl⟩

lemma Session.unique {f : File Key Bytes} {events : List ConsoleEvent} {ops ops' : List (Op Key Bytes)}
    {replies replies' : List Bytes} (h : Session f events ops replies) (h' : Session f events ops' replies') :
    ops = ops' ∧ replies = replies' := by
  induction h generalizing ops' replies' with
  | done f =>
      cases h'
      exact ⟨rfl, rfl⟩
  | line hobeys _ ih =>
      cases h' with
      | line hobeys' hrest =>
          obtain ⟨rfl, rfl⟩ := hobeys.unique hobeys'
          obtain ⟨rfl, rfl⟩ := ih hrest
          exact ⟨rfl, rfl⟩
  | restart _ ih =>
      cases h' with
      | restart hrest =>
          obtain ⟨rfl, rfl⟩ := ih hrest
          exact ⟨rfl, rfl⟩

/-! ## Whole sessions -/

/-- The registers of a store: what is stored, in both copies. -/
def registersOf (stored : Bytes) : File Key Bytes :=
  ⟨(sdProvisionInit stored).cfg.values.setting, (sdProvisionInit stored).cfg.values.setting⟩

/-- **The console is five registers.**  From any stored octets, through any lines, any writes to the store that
succeed or leave it as it was, and any power cycles: the console does nothing undefined, every line it emits is
what the registers answer, and it holds and has stored what they hold and have saved.  The registers leave no
choice: nothing else about the stored octets, or about what was set and overwritten before, is ever seen. -/
theorem console_is_registers (target : Target) (stored : Bytes) (events : List ConsoleEvent) : ∃ s ops,
    (runEvents target events).run (sdProvisionInit stored) = (.ok (), s) ∧
      Session (registersOf stored) events ops s.out ∧ Represents s ((registersOf stored).run defaults ops) ∧
      ∀ ops' replies, Session (registersOf stored) events ops' replies → replies = s.out := by
  obtain ⟨s, ops, replies, hrun, hsession, hout, hs⟩ := (represents_init stored).session target events
  obtain rfl : s.out = replies := hout
  exact ⟨s, ops, hrun, hsession, hs, fun _ _ hother => (hother.unique hsession).2⟩

lemma Session.split {f : File Key Bytes} {events events' : List ConsoleEvent} {ops : List (Op Key Bytes)}
    {replies : List Bytes} (h : Session f (events ++ events') ops replies) : ∃ ops₁ ops₂ replies₁ replies₂,
      ops = ops₁ ++ ops₂ ∧ replies = replies₁ ++ replies₂ ∧ Session f events ops₁ replies₁ ∧
        Session (f.run defaults ops₁) events' ops₂ replies₂ := by
  induction events generalizing f ops replies with
  | nil => exact ⟨[], ops, [], replies, rfl, rfl, .done f, h⟩
  | cons e events ih =>
      cases h with
      | @line _ writes text _ ops ops' replies replies' hobeys hrest =>
          obtain ⟨ops₁, ops₂, replies₁, replies₂, rfl, rfl, hfirst, hlast⟩ := ih hrest
          refine ⟨ops ++ ops₁, ops₂, replies ++ replies₁, replies₂, (List.append_assoc _ _ _).symm,
            (List.append_assoc _ _ _).symm, .line hobeys hfirst, ?_⟩
          rw [run_append]
          exact hlast
      | restart hrest =>
          obtain ⟨ops₁, ops₂, replies₁, replies₂, rfl, rfl, hfirst, hlast⟩ := ih hrest
          exact ⟨.restart :: ops₁, ops₂, replies₁, replies₂, rfl, rfl, .restart hfirst, hlast⟩

/-- The event does not change the setting. -/
def ConsoleEvent.Spares (k : Key) : ConsoleEvent → Prop
  | .line _ text => Command.ofLine text.bytes ≠ .reset ∧ ∀ value, Command.ofLine text.bytes ≠ .set k.name value
  | .restart => True

/-- The event is no power cycle. -/
def ConsoleEvent.Stays : ConsoleEvent → Prop
  | .line _ _ => True
  | .restart => False

lemma Obeys.stays {writes : Bool} {f : File Key Bytes} {c : Command} {ops : List (Op Key Bytes)}
    {replies : List Bytes} (h : Obeys writes f c ops replies) : ∀ op ∈ ops, op.Stays := by
  cases h <;> simp [Op.Stays]

lemma Obeys.spares {writes : Bool} {f : File Key Bytes} {c : Command} {ops : List (Op Key Bytes)}
    {replies : List Bytes} (h : Obeys writes f c ops replies) {k : Key} (hreset : c ≠ .reset)
    (hset : ∀ value, c ≠ .set k.name value) : ∀ op ∈ ops, op.Spares k := by
  cases h with
  | @set l key text value hname htakes =>
      have hother : l ≠ k := by
        rintro rfl
        exact hset text (hname ▸ rfl)
      simpa [Op.Spares] using hother
  | saved => simp [Op.Spares]
  | reset => exact absurd rfl hreset
  | _ => simp

/-- Events that spare a setting are operations that spare its register. -/
lemma Session.spares {f : File Key Bytes} {events : List ConsoleEvent} {ops : List (Op Key Bytes)}
    {replies : List Bytes} (h : Session f events ops replies) {k : Key} (hspares : ∀ e ∈ events, e.Spares k) :
    ∀ op ∈ ops, op.Spares k := by
  induction h with
  | done => simp
  | line hobeys _ ih =>
      rw [List.forall_mem_cons] at hspares
      exact List.forall_mem_append.mpr ⟨hobeys.spares hspares.1.1 hspares.1.2, ih hspares.2⟩
  | restart _ ih =>
      rw [List.forall_mem_cons] at hspares
      exact List.forall_mem_cons.mpr ⟨trivial, ih hspares.2⟩

lemma Session.stays {f : File Key Bytes} {events : List ConsoleEvent} {ops : List (Op Key Bytes)}
    {replies : List Bytes} (h : Session f events ops replies) (hstays : ∀ e ∈ events, e.Stays) :
    ∀ op ∈ ops, op.Stays := by
  induction h with
  | done => simp
  | line hobeys _ ih =>
      rw [List.forall_mem_cons] at hstays
      exact List.forall_mem_append.mpr ⟨hobeys.stays, ih hstays.2⟩
  | restart _ _ =>
      rw [List.forall_mem_cons] at hstays
      exact absurd hstays.1 id

/-- **What was set and saved is what `get` finds**, where a save that fails leaves the store as it was: whatever was
stored before, whatever else is set, shown, saved or refused in between, and through any number of power cycles
behind the save; up to a `reset` or another `set` of the same setting. -/
theorem setting_survives (target : Target) (stored : Bytes) {k : Key} {text value : Bytes}
    (htakes : k.Takes text value) {before mid after : List ConsoleEvent} {setLine saveLine getLine : CStr}
    (w w' : Bool) (hset : Command.ofLine setLine.bytes = .set k.name text) (hsave : Command.ofLine saveLine.bytes = .save)
    (hget : Command.ofLine getLine.bytes = .get k.name) (hmid : ∀ e ∈ mid, e.Spares k) (hstays : ∀ e ∈ mid, e.Stays)
    (hafter : ∀ e ∈ after, e.Spares k) : ∃ s,
      (runEvents target (before ++ (.line w setLine :: (mid ++ (.line true saveLine :: (after ++
        [.line w' getLine])))))).run (sdProvisionInit stored) = (.ok (), s) ∧
      s.out.getLast? = some (got k value) := by
  obtain ⟨s, ops, replies, hrun, hsession, hout, -⟩ := (represents_init stored).session target
    (before ++ (.line w setLine :: (mid ++ (.line true saveLine :: (after ++ [.line w' getLine])))))
  refine ⟨s, hrun, ?_⟩
  obtain ⟨_, _, _, _, -, rfl, -, hwhole⟩ := hsession.split
  cases hwhole with
  | line hobeysSet hmidSession =>
      rw [hset] at hobeysSet
      obtain ⟨rfl, -⟩ := hobeysSet.unique (.set rfl htakes)
      obtain ⟨opsMid, _, _, _, -, rfl, hbetween, hfromSave⟩ := hmidSession.split
      cases hfromSave with
      | line hobeysSave hafterSession =>
          rw [hsave] at hobeysSave
          obtain ⟨rfl, -⟩ := hobeysSave.unique (.saved rfl)
          obtain ⟨opsAfter, _, _, _, -, rfl, hbehind, hlast⟩ := hafterSession.split
          cases hlast with
          | line hobeysGet hnothing =>
              rw [hget] at hobeysGet
              obtain ⟨-, rfl⟩ := hobeysGet.unique (.get rfl)
              cases hnothing
              have hkept : ∀ f : File Key Bytes,
                  (f.run defaults (.write k value :: opsMid ++ .save :: opsAfter)).current k = value :=
                written_survives (fun op hop => ⟨hbetween.spares hmid op hop, hbetween.stays hstays op hop⟩)
                  (hbehind.spares hafter)
              simp only [run_cons, run_append, List.cons_append] at hkept
              simp only [run_cons, run_nil] at hout
              rw [hout, hkept]
              simp

def hostLine : CStr := ⟨ascii "set server_host  10.0.0.7\r\n", by decide⟩

def saveLine : CStr := ⟨ascii "save", by decide⟩

def askLine : CStr := ⟨ascii "get server_host", by decide⟩

/-- A port that is refused. -/
def portLine : CStr := ⟨ascii "set server_port 70000", by decide⟩

/-- A host, a save that fails, one that does not, and two power cycles. -/
theorem setting_survives_host : ∃ s,
    (runEvents .esp32 ([] ++ (.line true hostLine :: ([.line true portLine, .line false saveLine] ++
      (.line true saveLine :: ([.restart, .line true portLine, .restart] ++ [.line true askLine])))))).run
      (sdProvisionInit []) = (.ok (), s) ∧ s.out.getLast? = some (ascii "10.0.0.7") := by
  have hport : ConsoleEvent.Spares .serverHost (.line true portLine) := by
    have hcommand : Command.ofLine portLine.bytes = .set (ascii "server_port") (ascii "70000") := by decide
    rw [ConsoleEvent.Spares, hcommand]
    refine ⟨by simp, fun value => ?_⟩
    rw [ne_eq, Command.set.injEq, not_and]
    exact fun hkey => absurd hkey (by decide)
  have hsave : ConsoleEvent.Spares .serverHost (.line false saveLine) := by
    have hcommand : Command.ofLine saveLine.bytes = .save := by decide
    rw [ConsoleEvent.Spares, hcommand]
    simp
  have hrestart : ConsoleEvent.Spares .serverHost .restart := trivial
  have htakes : Key.Takes .serverHost (ascii "10.0.0.7") (ascii "10.0.0.7") := ⟨by decide, rfl⟩
  exact setting_survives .esp32 [] htakes true true (by decide) (by decide) (by decide) (by simp [hport, hsave])
    (by simp [ConsoleEvent.Stays]) (by simp [hport, hrestart])

end Sudonit
