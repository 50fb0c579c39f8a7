import Sudonit.Device.Secrecy
import Sudonit.Device.Store

/-!
# `main_config.c`: the configuration on the command line

`device_config` loads the configuration from its file, and shows, gets or sets fields of it.  It is said never
to print the password.

* `deviceConfig` — the program, with what it writes to its two streams and to the file.
* `command_related` — one command line on two configurations alike but for the password.
* `cli_secret_iff` — when two runs that differ in passwords only write the same.
-/

namespace Sudonit

open Octets CText

/-! ## The program -/

/-- The file, and what was written to the two streams. -/
structure Cli where
  file : Option Bytes
  stdout : Bytes
  stderr : Bytes

/-- `printf`, of a text that is already formatted. -/
def printOut (text : Bytes) : Effect Cli Halt Unit := ⟨fun s => (.ok (), { s with stdout := s.stdout ++ text })⟩

/-- `fprintf(stderr, …)`, of a text that is already formatted. -/
def printErr (text : Bytes) : Effect Cli Halt Unit := ⟨fun s => (.ok (), { s with stderr := s.stderr ++ text })⟩

/-- `usage`. -/
def usage : Effect Cli Halt Unit :=
  printErr (ascii "usage:\n  device_config show\n  device_config get <key>\n" ++
    ascii "  device_config set <key> <value>\n" ++
    ascii "keys: device_name wifi_ssid wifi_password server_host server_port\n")

/-- `sd_strerror`, of an error. -/
def sdStrerror : SdErr → Bytes
  | .invalid => ascii "invalid argument"
  | .io => ascii "I/O error"
  | .noMem => ascii "out of memory"
  | .timeout => ascii "timeout"
  | .again => ascii "not ready (retry)"
  | .unsupported => ascii "unsupported"

/-- What `sd_config_load` logs, from what `sd_config_store_read` returned. -/
def loadLog (read : Except SdErr Bytes) : Bytes :=
  match read with
  | .error .noMem => ascii "[W][config] stored config larger than expected; using defaults\n"
  | .error e => ascii "[W][config] store read failed (" ++ sdStrerror e ++ ascii "); using defaults\n"
  | .ok blob =>
      if blob.length = 0 then ascii "[I][config] no stored config; using defaults\n"
      else if blob.length < blobBytes then
        ascii "[W][config] stored config too small (" ++ decimal blob.length ++ ascii " bytes); using defaults\n"
      else if leNat (blob.take 4) ≠ configVersion then
        ascii "[W][config] config version " ++ decimal (leNat (blob.take 4)) ++ ascii " != " ++
          decimal configVersion ++ ascii "; using defaults\n"
      else []

/-- `sd_config_load`, with its log on `stderr`. -/
def loadConfig : Effect Cli Halt SdConfig := ⟨fun s =>
  (.ok (sdConfigLoad (hostStoreRead s.file blobBytes)).2,
    { s with stderr := s.stderr ++ loadLog (hostStoreRead s.file blobBytes) })⟩

/-- `sd_config_save`: whether it returned `SD_OK`. -/
def saveConfig (io : FileIo) (cfg : SdConfig) : Effect Cli Halt Bool := ⟨fun s =>
  (.ok ((sdConfigSave io cfg).run s.file).1.isOk, { s with file := ((sdConfigSave io cfg).run s.file).2 })⟩

/-- One `printf` of `print_show`, with the memory the value points to. -/
def printValue (label : String) (value : Bytes) : Effect Cli Halt Unit :=
  match cstring value with
  | none => Effect.fail .undefined
  | some value => printOut (ascii label ++ value ++ ascii "\n")

/-- `print_show`. -/
def printShow (cfg : SdConfig) : Effect Cli Halt Unit := do
  printValue "device_name   = " cfg.atDeviceName
  printValue "wifi_ssid     = " (if cfg.wifiSsid.first ≠ 0 then cfg.atWifiSsid else literal "(unset)")
  printValue "wifi_password = " (if cfg.wifiPassword.first ≠ 0 then literal "(set)" else literal "(unset)")
  printValue "server_host   = " (if cfg.serverHost.first ≠ 0 then cfg.atServerHost else literal "(unset)")
  printOut (ascii "server_port   = " ++ decimal cfg.serverPort.toNat ++ ascii "\n")

/-- The `get` of one key. -/
def getKey (cfg : SdConfig) (key : Bytes) : Effect Cli Halt ℕ :=
  if key = ascii "wifi_password" then do
    printOut ((if cfg.wifiPassword.first ≠ 0 then ascii "(set)" else ascii "(unset)") ++ ascii "\n")
    pure 0
  else
    match sdConfigGetField cfg key 128 with
    | .error .undefined => Effect.fail .undefined
    | .error (.code _) => do
        printErr (ascii "unknown key: " ++ key ++ ascii "\n")
        pure 2
    | .ok value => do
        printOut (value ++ ascii "\n")
        pure 0

/-- The `set` of one key. -/
def setKey (target : Target) (io : FileIo) (cfg : SdConfig) (key value : Bytes) : Effect Cli Halt ℕ :=
  match sdConfigSetField target cfg key value with
  | .error _ => do
      printErr (ascii "invalid key or value: " ++ key ++ ascii " = " ++ value ++ ascii "\n")
      pure 2
  | .ok cfg' => do
      let saved ← saveConfig io cfg'
      if saved = false then do
        printErr (ascii "failed to save configuration\n")
        pure 1
      else if key = ascii "wifi_password" then do
        printOut (ascii "set wifi_password = (hidden)\n")
        pure 0
      else do
        printOut (ascii "set " ++ key ++ ascii " = " ++ value ++ ascii "\n")
        pure 0

/-- What follows the `sd_config_load` in `main`. -/
def command (target : Target) (io : FileIo) (cmd : CStr) (args : List CStr) (cfg : SdConfig) :
    Effect Cli Halt ℕ :=
  if cmd.bytes = ascii "show" then do
    printShow cfg
    pure 0
  else if cmd.bytes = ascii "get" then
    match args with
    | [] => do
        usage
        pure 2
    | key :: _ => getKey cfg key.bytes
  else if cmd.bytes = ascii "set" then
    match args with
    | key :: value :: _ => setKey target io cfg key.bytes value.bytes
    | _ => do
        usage
        pure 2
  else do
    usage
    pure 2

/-- `main`, with the arguments behind the name of the program: its exit code. -/
def deviceConfig (target : Target) (io : FileIo) (argv : List CStr) : Effect Cli Halt ℕ :=
  match argv with
  | [] => do
      usage
      pure 2
  | cmd :: args => do
      let cfg ← loadConfig
      command target io cmd args cfg

/-! ## Two runs -/

/-- Both have written the same. -/
def SameOutput (s t : Cli) : Prop := s.stdout = t.stdout ∧ s.stderr = t.stderr

/-- The same file, or two files whose configurations agree but for a password that is set in both or in
neither. -/
def AlikeFiles (f g : Option Bytes) : Prop := f = g ∨ ∃ a b, Stores f a ∧ Stores g b ∧ a.Alike b

/-- A password `set` accepts. -/
def Acceptable (value : CStr) : Prop := value.bytes.length ≤ wifiPassMax

/-- The same arguments, or arguments that set two passwords, both accepted or both rejected. -/
def AlikeArgs (xs ys : List CStr) : Prop :=
  xs = ys ∨ ∃ set key v w rest, set.bytes = ascii "set" ∧ key.bytes = ascii "wifi_password" ∧
    xs = set :: key :: v :: rest ∧ ys = set :: key :: w :: rest ∧ (Acceptable v ↔ Acceptable w)

lemma printOut_related (text : Bytes) : Effect.Related SameOutput (printOut text) (printOut text) := by
  intro s t h
  exact ⟨(), _, _, rfl, rfl, congrArg (· ++ text) h.1, h.2⟩

lemma printErr_related (text : Bytes) : Effect.Related SameOutput (printErr text) (printErr text) := by
  intro s t h
  exact ⟨(), _, _, rfl, rfl, h.1, congrArg (· ++ text) h.2⟩

lemma printValue_related (label : String) {v w : Bytes} (h : SameString v w) :
    Effect.Related SameOutput (printValue label v) (printValue label w) := by
  obtain ⟨s, hv, hw⟩ := h
  rw [printValue, printValue, hv, hw]
  exact printOut_related _

lemma usage_related : Effect.Related SameOutput (do usage; pure 2) (do usage; pure 2 : Effect Cli Halt ℕ) :=
  (printErr_related _).bind fun _ => Effect.Related.pure 2

lemma printShow_related {a b : SdConfig} (h : a.Alike b) (ha : a.Terminated) :
    Effect.Related SameOutput (printShow a) (printShow b) := by
  refine (printValue_related _ (h.deviceName_string ha)).bind fun _ => ?_
  refine (printValue_related _ (h.shown_wifiSsid ha)).bind fun _ => ?_
  refine (printValue_related _ h.shown_wifiPassword).bind fun _ => ?_
  refine (printValue_related _ (h.shown_serverHost ha)).bind fun _ => ?_
  rw [h.serverPort]
  exact printOut_related _

lemma getKey_related {a b : SdConfig} (h : a.Alike b) (ha : a.Terminated) (key : Bytes) :
    Effect.Related SameOutput (getKey a key) (getKey b key) := by
  rw [getKey, getKey]
  by_cases hkey : key = ascii "wifi_password"
  · rw [if_pos hkey, if_pos hkey, h.marker]
    exact (printOut_related _).bind fun _ => Effect.Related.pure 0
  · obtain ⟨heq, hdefined⟩ := getField_alike h ha hkey 128
    rw [if_neg hkey, if_neg hkey, ← heq]
    rcases hfield : sdConfigGetField a key 128 with (e | _) | value
    · exact (printErr_related _).bind fun _ => Effect.Related.pure 2
    · exact absurd hfield hdefined
    · exact (printOut_related _).bind fun _ => Effect.Related.pure 0

/-- Whether a save succeeds does not depend on what is saved. -/
lemma saveConfig_related (io : FileIo) (a b : SdConfig) :
    Effect.Related SameOutput (saveConfig io a) (saveConfig io b) := by
  intro s t h
  have hsame : ((sdConfigSave io a).run s.file).1 = ((sdConfigSave io b).run t.file).1 := by
    cases hopen : io.opens with
    | false => simp [sdConfigSave, hostStoreWrite, hopen]
    | true => rw [run_sdConfigSave hopen, run_sdConfigSave hopen]
  refine ⟨_, _, { t with file := ((sdConfigSave io b).run t.file).2 }, rfl, ?_, h⟩
  rw [hsame]
  rfl

/-- Two sets that are accepted, of the same value or of passwords. -/
lemma setKey_accepted {target : Target} {a b a' b' : SdConfig} (io : FileIo) {key v w : Bytes}
    (ha : sdConfigSetField target a key v = .ok a') (hb : sdConfigSetField target b key w = .ok b')
    (hkey : key = ascii "wifi_password" ∨ v = w) :
    Effect.Related SameOutput (setKey target io a key v) (setKey target io b key w) := by
  rw [setKey, setKey, ha, hb]
  refine (saveConfig_related io a' b').bind fun saved => ?_
  split_ifs with hsaved hpassword
  · exact (printErr_related _).bind fun _ => Effect.Related.pure 1
  · exact (printOut_related _).bind fun _ => Effect.Related.pure 0
  · rw [hkey.resolve_left hpassword]
    exact (printOut_related _).bind fun _ => Effect.Related.pure 0

lemma setKey_related (target : Target) (io : FileIo) {a b : SdConfig} (h : a.Alike b) (key value : Bytes) :
    Effect.Related SameOutput (setKey target io a key value) (setKey target io b key value) := by
  rcases @setField_alike target _ _ h key value with ⟨e, ha, hb⟩ | ⟨a', b', ha, hb, -⟩
  · rw [setKey, setKey, ha, hb]
    exact (printErr_related _).bind fun _ => Effect.Related.pure 2
  · exact setKey_accepted io ha hb (Or.inr rfl)

/-- **The same command line on configurations alike but for the password.** -/
theorem command_related (target : Target) (io : FileIo) (cmd : CStr) (args : List CStr) {a b : SdConfig}
    (h : a.Alike b) (ha : a.Terminated) :
    Effect.Related SameOutput (command target io cmd args a) (command target io cmd args b) := by
  unfold command
  split_ifs
  · exact (printShow_related h ha).bind fun _ => Effect.Related.pure 0
  · cases args with
    | nil => exact usage_related
    | cons key args => exact getKey_related h ha key.bytes
  · cases args with
    | nil => exact usage_related
    | cons key args =>
        cases args with
        | nil => exact usage_related
        | cons value args => exact setKey_related target io h key.bytes value.bytes
  · exact usage_related

/-! ## The load -/

lemma loadLog_stores {file : Option Bytes} {cfg : SdConfig} (h : Stores file cfg) :
    loadLog (hostStoreRead file blobBytes) = [] := by
  obtain ⟨blob, hread, hlen, hversion, -⟩ := h.read
  have hpos : blobBytes ≠ 0 := by decide
  rw [hread]
  simp only [loadLog]
  rw [if_neg (by omega), if_neg (by omega), if_neg (not_not.mpr hversion)]

lemma run_loadConfig {file : Option Bytes} {cfg : SdConfig} (h : Stores file cfg) (out err : Bytes) :
    loadConfig.run ⟨file, out, err⟩ = (.ok cfg, ⟨file, out, err⟩) := by
  simp only [loadConfig]
  rw [load_stores h, loadLog_stores h, List.append_nil]

/-- **Both runs load configurations alike**, and log the same. -/
lemma loadConfig_alike {f g : Option Bytes} (h : AlikeFiles f g) : ∃ a b s t,
    loadConfig.run ⟨f, [], []⟩ = (.ok a, s) ∧ loadConfig.run ⟨g, [], []⟩ = (.ok b, t) ∧ SameOutput s t ∧
      a.Alike b ∧ a.Terminated := by
  rcases h with rfl | ⟨a, b, ha, hb, halike⟩
  · exact ⟨_, _, _, _, rfl, rfl, ⟨rfl, rfl⟩, SdConfig.Alike.refl _, (sealed_load _).terminated⟩
  · obtain ⟨_, -, -, -, hcfg⟩ := ha.read
    refine ⟨a, b, _, _, run_loadConfig ha [] [], run_loadConfig hb [] [], ⟨rfl, rfl⟩, halike, ?_⟩
    exact hcfg ▸ (SdConfig.sealed_terminate _).terminated

/-! ## What the two runs write -/

/-- A set of the password is accepted, or echoed on `stderr`. -/
lemma setPassword_cases (target : Target) (cfg : SdConfig) (value : CStr) :
    (Acceptable value ∧ ∃ cfg', sdConfigSetField target cfg (ascii "wifi_password") value.bytes = .ok cfg') ∨
      (¬ Acceptable value ∧
        sdConfigSetField target cfg (ascii "wifi_password") value.bytes = .error .invalid) := by
  rw [sdConfigSetField, if_neg (by decide), if_neg (by decide), if_pos rfl]
  rcases setStr_length cfg.wifiPassword value.bytes with ⟨⟨b, hb, -⟩, hlen⟩ | ⟨herror, hlen⟩
  · exact Or.inl ⟨hlen, _, by rw [hb]; rfl⟩
  · exact Or.inr ⟨not_le.mpr hlen, by rw [herror]; rfl⟩

/-- What is written when a set is rejected. -/
def rejection (key value : Bytes) : Bytes :=
  ascii "invalid key or value: " ++ key ++ ascii " = " ++ value ++ ascii "\n"

lemma rejection_inj {key : Bytes} {v w : CStr} (h : rejection key v.bytes = rejection key w.bytes) : v = w := by
  have hbytes : v.bytes = w.bytes := List.append_cancel_left (List.append_cancel_right h)
  cases v
  cases w
  simp only at hbytes
  subst hbytes
  rfl

lemma run_rejected {target : Target} {cfg : SdConfig} {key value : Bytes} {e : SdErr} (io : FileIo)
    (h : sdConfigSetField target cfg key value = .error e) (s : Cli) :
    (setKey target io cfg key value).run s = (.ok 2, { s with stderr := s.stderr ++ rejection key value }) := by
  rw [setKey, h]
  rfl

/-- The command line of a set of the password. -/
lemma run_setPassword {target : Target} {io : FileIo} {set key : CStr} (hset : set.bytes = ascii "set")
    (hkey : key.bytes = ascii "wifi_password") (value : CStr) (rest : List CStr) {f : Option Bytes}
    {cfg : SdConfig} {s : Cli} (hload : loadConfig.run ⟨f, [], []⟩ = (.ok cfg, s)) :
    (deviceConfig target io (set :: key :: value :: rest)).run ⟨f, [], []⟩
      = (setKey target io cfg (ascii "wifi_password") value.bytes).run s := by
  rw [deviceConfig, Effect.run_bind_ok hload]
  unfold command
  rw [hset, if_neg (by decide), if_neg (by decide), if_pos rfl, ← hkey]

/-- The arguments are the same, or the password is one that `set` accepts. -/
def Discreet (xs ys : List CStr) : Prop :=
  xs = ys ∨ ∃ set key v rest, xs = set :: key :: v :: rest ∧ Acceptable v

/-- **The same arguments** on files alike but for the password. -/
theorem deviceConfig_same (target : Target) (io : FileIo) {f g : Option Bytes} (hfiles : AlikeFiles f g)
    (argv : List CStr) : ∃ c s t, (deviceConfig target io argv).run ⟨f, [], []⟩ = (.ok c, s) ∧
      (deviceConfig target io argv).run ⟨g, [], []⟩ = (.ok c, t) ∧ SameOutput s t := by
  obtain ⟨a, b, s₁, t₁, hf, hg, hsame, halike, ha⟩ := loadConfig_alike hfiles
  cases argv with
  | nil => exact usage_related ⟨f, [], []⟩ ⟨g, [], []⟩ ⟨rfl, rfl⟩
  | cons cmd args =>
      obtain ⟨c, s, t, hs, ht, hst⟩ := command_related target io cmd args halike ha s₁ t₁ hsame
      exact ⟨c, s, t, by rw [deviceConfig, Effect.run_bind_ok hf, hs],
        by rw [deviceConfig, Effect.run_bind_ok hg, ht], hst⟩

/-- Two rejected passwords are told apart by what is written. -/
lemma sameOutput_rejection {s t : Cli} (h : SameOutput s t) (key : Bytes) {v w : CStr} :
    SameOutput { s with stderr := s.stderr ++ rejection key v.bytes }
      { t with stderr := t.stderr ++ rejection key w.bytes } ↔ v = w := by
  constructor
  · rintro ⟨-, herr⟩
    simp only [h.2] at herr
    exact rejection_inj (List.append_cancel_left herr)
  · rintro rfl
    exact ⟨h.1, by rw [h.2]⟩

/-- Of two lists of arguments with a rejected password. -/
lemma discreet_iff {set key v w : CStr} {rest : List CStr} (h : ¬ Acceptable v) :
    Discreet (set :: key :: v :: rest) (set :: key :: w :: rest) ↔ v = w := by
  constructor
  · rintro (heq | ⟨_, _, v', _, heq, hv'⟩)
    · simpa using heq
    · simp only [List.cons.injEq] at heq
      exact absurd (heq.2.2.1 ▸ hv') h
  · rintro rfl
    exact Or.inl rfl

/-- **When the command line keeps the password.**  Two runs on files that agree but for the password, with
arguments that agree but for the password they set, write the same exactly if the arguments are the same or
the passwords are accepted. -/
theorem cli_secret_iff (target : Target) (io : FileIo) {f g : Option Bytes} (hfiles : AlikeFiles f g)
    {xs ys : List CStr} (hargs : AlikeArgs xs ys) : ∃ c d s t,
      (deviceConfig target io xs).run ⟨f, [], []⟩ = (.ok c, s) ∧
      (deviceConfig target io ys).run ⟨g, [], []⟩ = (.ok d, t) ∧ (SameOutput s t ↔ Discreet xs ys) := by
  rcases hargs with rfl | ⟨set, key, v, w, rest, hset, hkey, rfl, rfl, hboth⟩
  · obtain ⟨c, s, t, hs, ht, hst⟩ := deviceConfig_same target io hfiles xs
    exact ⟨c, c, s, t, hs, ht, iff_of_true hst (Or.inl rfl)⟩
  obtain ⟨a, b, s₁, t₁, hf, hg, hsame, -, -⟩ := loadConfig_alike hfiles
  rw [run_setPassword hset hkey v rest hf, run_setPassword hset hkey w rest hg]
  rcases setPassword_cases target a v with ⟨hv, a', hva⟩ | ⟨hv, hva⟩
  · rcases setPassword_cases target b w with ⟨-, b', hwb⟩ | ⟨hw, -⟩
    · obtain ⟨c, s, t, hs, ht, hst⟩ := setKey_accepted io hva hwb (Or.inl rfl) s₁ t₁ hsame
      exact ⟨c, c, s, t, hs, ht, iff_of_true hst (Or.inr ⟨set, key, v, rest, rfl, hv⟩)⟩
    · exact absurd (hboth.mp hv) hw
  · rcases setPassword_cases target b w with ⟨hw, -⟩ | ⟨-, hwb⟩
    · exact absurd (hboth.mpr hw) hv
    · refine ⟨2, 2, _, _, run_rejected io hva s₁, run_rejected io hwb t₁, ?_⟩
      rw [sameOutput_rejection hsame, discreet_iff hv]

/-! ## Two passwords -/

def setArg : CStr := ⟨ascii "set", by decide⟩

def passwordArg : CStr := ⟨ascii "wifi_password", by decide⟩

/-- All file operations succeed. -/
def wholeIo : FileIo := ⟨true, blobBytes, blobBytes⟩

/-- Two passwords that are accepted. -/
theorem cli_secret_iff_short : ∃ c d s t,
    (deviceConfig .host wholeIo [setArg, passwordArg, ⟨ascii "hunter2", by decide⟩]).run ⟨none, [], []⟩
      = (.ok c, s) ∧
    (deviceConfig .host wholeIo [setArg, passwordArg, ⟨ascii "correct horse", by decide⟩]).run ⟨none, [], []⟩
      = (.ok d, t) ∧ SameOutput s t := by
  obtain ⟨c, d, s, t, hs, ht, hiff⟩ := cli_secret_iff .host wholeIo (f := none) (g := none) (Or.inl rfl)
    (Or.inr ⟨setArg, passwordArg, ⟨ascii "hunter2", by decide⟩, ⟨ascii "correct horse", by decide⟩, [], rfl, rfl,
      rfl, rfl, iff_of_true (show 7 ≤ 63 by decide) (show 13 ≤ 63 by decide)⟩)
  exact ⟨c, d, s, t, hs, ht, hiff.mpr (Or.inr ⟨_, _, _, _, rfl, show 7 ≤ 63 by decide⟩)⟩

/-- A password of 64 times this character. -/
def longPassword (c : Char) (h : oct c ≠ 0) : CStr :=
  ⟨List.replicate 64 (oct c), fun hmem => h (List.mem_replicate.mp hmem).2.symm⟩

lemma not_acceptable_longPassword (c : Char) (h : oct c ≠ 0) : ¬ Acceptable (longPassword c h) := by
  rw [Acceptable, longPassword, List.length_replicate]
  decide

/-- **A password that is too long is echoed**: two of them, and two outputs. -/
theorem rejected_password_shown :
    AlikeArgs [setArg, passwordArg, longPassword 'a' (by decide)]
      [setArg, passwordArg, longPassword 'b' (by decide)] ∧
    ∃ c d s t,
      (deviceConfig .host wholeIo [setArg, passwordArg, longPassword 'a' (by decide)]).run ⟨none, [], []⟩
        = (.ok c, s) ∧
      (deviceConfig .host wholeIo [setArg, passwordArg, longPassword 'b' (by decide)]).run ⟨none, [], []⟩
        = (.ok d, t) ∧ ¬ SameOutput s t := by
  refine ⟨Or.inr ⟨setArg, passwordArg, _, _, [], rfl, rfl, rfl, rfl,
    iff_of_false (not_acceptable_longPassword 'a' _) (not_acceptable_longPassword 'b' _)⟩, ?_⟩
  obtain ⟨cfg, _, s, _, hload, -, -, -, -⟩ := loadConfig_alike (f := none) (g := none) (Or.inl rfl)
  have hrejected : ∀ c h, sdConfigSetField .host cfg (ascii "wifi_password") (longPassword c h).bytes
      = .error .invalid := by
    intro c h
    rcases setPassword_cases .host cfg (longPassword c h) with ⟨hok, -⟩ | ⟨-, herror⟩
    · exact absurd hok (not_acceptable_longPassword c h)
    · exact herror
  refine ⟨2, 2, _, _, by rw [run_setPassword rfl rfl _ [] hload, run_rejected wholeIo (hrejected 'a' _)],
    by rw [run_setPassword rfl rfl _ [] hload, run_rejected wholeIo (hrejected 'b' _)], ?_⟩
  rintro ⟨-, herr⟩
  have hsame := rejection_inj (List.append_cancel_left herr)
  rw [longPassword, longPassword, CStr.mk.injEq] at hsame
  exact absurd (List.replicate_right_injective (by decide) hsame) (by decide)

end Sudonit
