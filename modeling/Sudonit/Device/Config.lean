import Mathlib.Data.List.TakeWhile
import Sudonit.Protocol.MessagesC

/-!
# `config.c`: the configuration of the glasses

`sd_config_t` is a block of memory: five fields in the order the source declares them, and the two octets
the compiler leaves between them.  A string field is an array, and reading it as a C string reads on into
the fields behind it until a zero octet.

* `SdConfig.octets`, `SdConfig.ofOctets` — the block as octets; `ofOctets_octets` is the round trip.
* `sdConfigLoad`, `configBlob` — the blob in the store.
* `SdConfig.values` — what the fields say, as strings.
* `sdConfigSetField_cases` — what an accepted set changes in memory; `sdConfigSetField_iff` — when a set is
  accepted, and what the fields say then.
* `SdConfig.Sealed` — every string field ends in a zero octet: kept by every operation, and then
  `load_saved` gives back what was saved.
-/

namespace Sudonit

open Octets CText

/-! ## Memory -/

/-- `bs` copied over the front of an array. -/
def Buffer.put {n : ℕ} (b : Buffer n) (bs : Bytes) (h : bs.length ≤ n) : Buffer n :=
  ⟨overlay b.bytes bs, by rw [length_overlay (by rw [b.length_eq]; exact h), b.length_eq]⟩

/-- One octet of an array assigned. -/
def Buffer.assign {n : ℕ} (b : Buffer n) (i : ℕ) (x : UInt8) : Buffer n :=
  ⟨b.bytes.set i x, by rw [List.length_set, b.length_eq]⟩

/-- The array that lies at the front of a larger object. -/
def Buffer.front (n : ℕ) (bs : Bytes) : Buffer n :=
  ⟨bs.take n ++ List.replicate (n - bs.length) 0, by
    rw [List.length_append, List.length_take, List.length_replicate]
    omega⟩

lemma Buffer.ext {n : ℕ} {a b : Buffer n} (h : a.bytes = b.bytes) : a = b := by
  cases a
  cases b
  simp only at h
  subst h
  rfl

lemma Buffer.front_append {n : ℕ} (b : Buffer n) (rest : Bytes) : Buffer.front n (b.bytes ++ rest) = b := by
  apply Buffer.ext
  have hlen := b.length_eq
  simp only [Buffer.front, List.length_append]
  rw [List.take_left' hlen, show n - (b.bytes.length + rest.length) = 0 by omega, List.replicate_zero,
    List.append_nil]

/-- `LONG_MAX`. -/
def Target.longMax : Target → ℕ
  | .host => 2 ^ 63 - 1
  | .esp32 => 2 ^ 31 - 1

/-- `isspace`. -/
def isSpace (b : UInt8) : Bool := b = oct ' ' || (9 ≤ b && b ≤ 13)

/-- `strtol(s, &end, 10)`: the value and the string at `end`. -/
def strtol (longMax : ℕ) (s : Bytes) : ℤ × Bytes :=
  let subject := s.dropWhile isSpace
  let (negative, digits) :=
    match subject with
    | b :: rest => if b = oct '-' then (true, rest) else if b = oct '+' then (false, rest) else (false, subject)
    | [] => (false, subject)
  let value := decimalValue (digits.takeWhile isDigit)
  if digits.takeWhile isDigit = [] then (0, s)
  else
    (if negative then -min (longMax + 1 : ℤ) value else min (longMax : ℤ) value, digits.dropWhile isDigit)

/-! ## The configuration -/

/-- `SD_WIFI_SSID_MAX`. -/
def wifiSsidMax : ℕ := 32

/-- `SD_WIFI_PASS_MAX`. -/
def wifiPassMax : ℕ := 63

/-- `SD_HOST_MAX`. -/
def hostMax : ℕ := 63

/-- `SD_NAME_MAX`. -/
def nameMax : ℕ := 32

/-- `sd_config_t`, with the octet the compiler leaves in front of `server_port` and the one at the end. -/
@[ext] structure SdConfig where
  wifiSsid : Buffer (wifiSsidMax + 1)
  wifiPassword : Buffer (wifiPassMax + 1)
  serverHost : Buffer (hostMax + 1)
  gap : UInt8
  serverPort : UInt16
  deviceName : Buffer (nameMax + 1)
  tail : UInt8

namespace SdConfig

/-! The object from a field on, as a pointer to that field reads it. -/

def atDeviceName (cfg : SdConfig) : Bytes := cfg.deviceName.bytes ++ [cfg.tail]

def atServerPort (cfg : SdConfig) : Bytes := le 2 cfg.serverPort.toNat ++ cfg.atDeviceName

def atServerHost (cfg : SdConfig) : Bytes := cfg.serverHost.bytes ++ cfg.gap :: cfg.atServerPort

def atWifiPassword (cfg : SdConfig) : Bytes := cfg.wifiPassword.bytes ++ cfg.atServerHost

def atWifiSsid (cfg : SdConfig) : Bytes := cfg.wifiSsid.bytes ++ cfg.atWifiPassword

/-- The whole object. -/
def octets (cfg : SdConfig) : Bytes := cfg.atWifiSsid

/-- The object these octets are. -/
def ofOctets (bs : Bytes) : SdConfig where
  wifiSsid := Buffer.front _ bs
  wifiPassword := Buffer.front _ (bs.drop 33)
  serverHost := Buffer.front _ (bs.drop 97)
  gap := (bs.drop 161).headD 0
  serverPort := UInt16.ofNat (leNat ((bs.drop 162).take 2))
  deviceName := Buffer.front _ (bs.drop 164)
  tail := (bs.drop 197).headD 0

end SdConfig

/-- `sizeof(sd_config_t)`. -/
def configBytes : ℕ := 198

/-- `BLOB_BYTES`. -/
def blobBytes : ℕ := 4 + configBytes

/-- `SD_CONFIG_VERSION`. -/
def configVersion : ℕ := 1

/-- `sd_config_defaults`. -/
def sdConfigDefaults : SdConfig where
  wifiSsid := Buffer.zeros _
  wifiPassword := Buffer.zeros _
  serverHost := Buffer.zeros _
  gap := 0
  serverPort := 8765
  deviceName := (Buffer.zeros _).put (ascii "sudonit-glasses" ++ [0]) (by decide)
  tail := 0

/-! ## The store -/

/-- `sd_config_store_read`: what is stored, if it fits.  Nothing stored reads as no octets. -/
def sdConfigStoreRead (stored : Bytes) (cap : ℕ) : Except SdErr Bytes :=
  if cap < stored.length then .error .noMem else .ok stored

/-- The four assignments behind the `memcpy` of `sd_config_load`. -/
def SdConfig.terminate (cfg : SdConfig) : SdConfig :=
  { cfg with
    wifiSsid := cfg.wifiSsid.assign wifiSsidMax 0
    wifiPassword := cfg.wifiPassword.assign wifiPassMax 0
    serverHost := cfg.serverHost.assign hostMax 0
    deviceName := cfg.deviceName.assign nameMax 0 }

/-- `sd_config_load`, from what `sd_config_store_read` returned. -/
def sdConfigLoad (read : Except SdErr Bytes) : Except SdErr Unit × SdConfig :=
  match read with
  | .error .noMem => (.ok (), sdConfigDefaults)
  | .error e => (.error e, sdConfigDefaults)
  | .ok blob =>
      if blob.length = 0 then (.ok (), sdConfigDefaults)
      else if blob.length < blobBytes then (.ok (), sdConfigDefaults)
      else if leNat (blob.take 4) ≠ configVersion then (.ok (), sdConfigDefaults)
      else (.ok (), (SdConfig.ofOctets (blob.drop 4)).terminate)

/-- The blob `sd_config_save` writes. -/
def configBlob (cfg : SdConfig) : Bytes := le 4 configVersion ++ cfg.octets

/-! ## Fields by name -/

/-- `set_str` into an array of `maxlen + 1` octets. -/
def setStr {maxlen : ℕ} (dst : Buffer (maxlen + 1)) (value : Bytes) : Except SdErr (Buffer (maxlen + 1)) :=
  if h : value.length ≤ maxlen then
    .ok (dst.put (value ++ [0]) (by rw [List.length_append, List.length_singleton]; omega))
  else .error .invalid

/-- `sd_config_set_field`. -/
def sdConfigSetField (target : Target) (cfg : SdConfig) (key value : Bytes) : Except SdErr SdConfig :=
  if key = ascii "device_name" then
    (setStr cfg.deviceName value).map fun b => { cfg with deviceName := b }
  else if key = ascii "wifi_ssid" then
    (setStr cfg.wifiSsid value).map fun b => { cfg with wifiSsid := b }
  else if key = ascii "wifi_password" then
    (setStr cfg.wifiPassword value).map fun b => { cfg with wifiPassword := b }
  else if key = ascii "server_host" then
    (setStr cfg.serverHost value).map fun b => { cfg with serverHost := b }
  else if key = ascii "server_port" then
    let (v, stop) := strtol target.longMax value
    if value = [] ∨ stop ≠ [] ∨ v < 1 ∨ 65535 < v then .error .invalid
    else .ok { cfg with serverPort := UInt16.ofNat v.toNat }
  else .error .invalid

/-- `snprintf(out, cap, "%s", field)`: the string printed. -/
def printField (pointer : Bytes) (cap : ℕ) : Except Halt Bytes :=
  match cstring pointer with
  | none => .error .undefined
  | some s => .ok (s.take (cap - 1))

/-- `sd_config_get_field`: the string written into `cap` octets. -/
def sdConfigGetField (cfg : SdConfig) (key : Bytes) (cap : ℕ) : Except Halt Bytes :=
  if key = ascii "device_name" then printField cfg.atDeviceName cap
  else if key = ascii "wifi_ssid" then printField cfg.atWifiSsid cap
  else if key = ascii "wifi_password" then printField cfg.atWifiPassword cap
  else if key = ascii "server_host" then printField cfg.atServerHost cap
  else if key = ascii "server_port" then .ok ((decimal cfg.serverPort.toNat).take (cap - 1))
  else .error (.code .invalid)

/-! ## What the fields say -/

/-- The string at the front of an array. -/
def Buffer.text {n : ℕ} (b : Buffer n) : Bytes := b.bytes.takeWhile (· ≠ 0)

lemma zero_notMem_takeWhile (bs : Bytes) : 0 ∉ bs.takeWhile (· ≠ 0) :=
  fun h => by simpa using List.mem_takeWhile_imp h

/-- The values of the five fields. -/
structure ConfigValues where
  wifiSsid : Bytes
  wifiPassword : Bytes
  serverHost : Bytes
  serverPort : UInt16
  deviceName : Bytes
  deriving DecidableEq

def SdConfig.values (cfg : SdConfig) : ConfigValues :=
  ⟨cfg.wifiSsid.text, cfg.wifiPassword.text, cfg.serverHost.text, cfg.serverPort, cfg.deviceName.text⟩

/-! ## The block of memory -/

lemma length_octets (cfg : SdConfig) : cfg.octets.length = configBytes := by
  simp only [SdConfig.octets, SdConfig.atWifiSsid, SdConfig.atWifiPassword, SdConfig.atServerHost,
    SdConfig.atServerPort, SdConfig.atDeviceName, List.length_append, List.length_cons, List.length_nil,
    length_le, Buffer.length_eq]
  rfl

/-- **The octets of a configuration are that configuration.** -/
theorem ofOctets_octets (cfg : SdConfig) : SdConfig.ofOctets cfg.octets = cfg := by
  have hssid := cfg.wifiSsid.length_eq
  have hpass := cfg.wifiPassword.length_eq
  have hhost := cfg.serverHost.length_eq
  have hname := cfg.deviceName.length_eq
  simp only [wifiSsidMax, wifiPassMax, hostMax, nameMax] at hssid hpass hhost hname
  have h33 : cfg.octets.drop 33 = cfg.atWifiPassword := List.drop_left' hssid
  have h97 : cfg.octets.drop 97 = cfg.atServerHost := by
    rw [show 97 = 33 + 64 from rfl, ← List.drop_drop, h33]
    exact List.drop_left' hpass
  have h161 : cfg.octets.drop 161 = cfg.gap :: cfg.atServerPort := by
    rw [show 161 = 97 + 64 from rfl, ← List.drop_drop, h97]
    exact List.drop_left' hhost
  have h162 : cfg.octets.drop 162 = cfg.atServerPort := by
    rw [show 162 = 161 + 1 from rfl, ← List.drop_drop, h161]
    rfl
  have h164 : cfg.octets.drop 164 = cfg.atDeviceName := by
    rw [show 164 = 162 + 2 from rfl, ← List.drop_drop, h162]
    rfl
  have h197 : cfg.octets.drop 197 = [cfg.tail] := by
    rw [show 197 = 164 + 33 from rfl, ← List.drop_drop, h164]
    exact List.drop_left' hname
  have hport : leNat ((cfg.octets.drop 162).take 2) = cfg.serverPort.toNat := by
    rw [h162, SdConfig.atServerPort, List.take_left' (length_le _ _)]
    exact leNat_le cfg.serverPort.toNat_lt
  simp only [SdConfig.ofOctets, h33, h97, h161, h164, h197, hport]
  ext1
  · exact Buffer.front_append _ _
  · exact Buffer.front_append _ _
  · exact Buffer.front_append _ _
  · rfl
  · exact UInt16.ofNat_toNat
  · exact Buffer.front_append _ _
  · rfl

/-! ## Sealed configurations -/

/-- The array ends in a zero octet. -/
def Buffer.Sealed {n : ℕ} (b : Buffer (n + 1)) : Prop := b.bytes[n]? = some 0

/-- Every string field ends in a zero octet. -/
structure SdConfig.Sealed (cfg : SdConfig) : Prop where
  wifiSsid : cfg.wifiSsid.Sealed
  wifiPassword : cfg.wifiPassword.Sealed
  serverHost : cfg.serverHost.Sealed
  deviceName : cfg.deviceName.Sealed

lemma Buffer.sealed_zeros (n : ℕ) : (Buffer.zeros (n + 1)).Sealed := by
  rw [Buffer.Sealed, Buffer.zeros, List.getElem?_replicate, if_pos (Nat.lt_succ_self n)]

lemma Buffer.sealed_assign {n : ℕ} (b : Buffer (n + 1)) : (b.assign n 0).Sealed := by
  rw [Buffer.Sealed, Buffer.assign, List.getElem?_set_self (by rw [b.length_eq]; exact Nat.lt_succ_self n)]

/-- Assigning the octet that is there already changes nothing. -/
lemma Buffer.Sealed.assign_eq {n : ℕ} {b : Buffer (n + 1)} (h : b.Sealed) : b.assign n 0 = b := by
  apply Buffer.ext
  apply List.ext_getElem?
  intro i
  rw [Buffer.assign, List.getElem?_set]
  split_ifs with hi hlt
  · rw [← hi, h]
  · rw [b.length_eq] at hlt
    omega
  · rfl

/-- Writing a terminated string into a sealed array leaves it sealed. -/
lemma Buffer.Sealed.put {n : ℕ} {b : Buffer (n + 1)} (h : b.Sealed) (value : Bytes)
    (hfit : (value ++ [0]).length ≤ n + 1) : (b.put (value ++ [0]) hfit).Sealed := by
  rw [List.length_append, List.length_singleton] at hfit
  rw [Buffer.Sealed]
  simp only [Buffer.put, overlay]
  rcases Nat.lt_or_ge n (value ++ [0]).length with hlt | hge
  · have hn : value.length = n := by
      rw [List.length_append, List.length_singleton] at hlt
      omega
    rw [List.getElem?_append_left hlt, List.getElem?_append_right (by omega), ← hn]
    simp
  · rw [List.getElem?_append_right hge, List.getElem?_drop, Nat.add_sub_cancel' hge, h]

/-- What a string field holds after it was set. -/
def StoredIn {maxlen : ℕ} (dst b : Buffer (maxlen + 1)) (value : Bytes) : Prop :=
  ∃ hfit : (value ++ [0]).length ≤ maxlen + 1, b = dst.put (value ++ [0]) hfit

/-- A string field that was set. -/
lemma setStr_map_ok {maxlen : ℕ} {dst : Buffer (maxlen + 1)} {value : Bytes}
    {update : Buffer (maxlen + 1) → SdConfig} {cfg' : SdConfig}
    (h : (setStr dst value).map update = .ok cfg') : ∃ b, StoredIn dst b value ∧ cfg' = update b := by
  unfold setStr at h
  split_ifs at h with hlen
  · exact ⟨_, ⟨by rw [List.length_append, List.length_singleton]; omega, rfl⟩, (Except.ok.inj h).symm⟩
  · simp [Except.map] at h

/-- **What an accepted set changes**: the field named by the key, and nothing else. -/
theorem sdConfigSetField_cases {target : Target} {cfg cfg' : SdConfig} {key value : Bytes}
    (h : sdConfigSetField target cfg key value = .ok cfg') :
    (key = ascii "device_name" ∧ ∃ b, StoredIn cfg.deviceName b value ∧ cfg' = { cfg with deviceName := b }) ∨
    (key = ascii "wifi_ssid" ∧ ∃ b, StoredIn cfg.wifiSsid b value ∧ cfg' = { cfg with wifiSsid := b }) ∨
    (key = ascii "wifi_password" ∧ ∃ b, StoredIn cfg.wifiPassword b value ∧
      cfg' = { cfg with wifiPassword := b }) ∨
    (key = ascii "server_host" ∧ ∃ b, StoredIn cfg.serverHost b value ∧ cfg' = { cfg with serverHost := b }) ∨
    (key = ascii "server_port" ∧ ∃ port, cfg' = { cfg with serverPort := port }) := by
  unfold sdConfigSetField at h
  split_ifs at h with hname hssid hpass hhost hport
  · exact Or.inl ⟨hname, setStr_map_ok h⟩
  · exact Or.inr (Or.inl ⟨hssid, setStr_map_ok h⟩)
  · exact Or.inr (Or.inr (Or.inl ⟨hpass, setStr_map_ok h⟩))
  · exact Or.inr (Or.inr (Or.inr (Or.inl ⟨hhost, setStr_map_ok h⟩)))
  · simp only at h
    split_ifs at h
    exact Or.inr (Or.inr (Or.inr (Or.inr ⟨hport, _, (Except.ok.inj h).symm⟩)))

/-! ## What an accepted set stores -/

/-- In the base-10 syntax of `strtol` the text denotes this port: white space, a plus sign or none, and
digits. -/
structure DenotesPort (text : Bytes) (port : ℕ) : Prop where
  syntax_ok : ∃ space sign digits, text = space ++ (sign ++ digits) ∧ (∀ b ∈ space, isSpace b) ∧
    (sign = [] ∨ sign = [oct '+']) ∧ digits ≠ [] ∧ (∀ b ∈ digits, isDigit b) ∧ decimalValue digits = port
  range : 1 ≤ port ∧ port ≤ 65535

/-- Setting the field of that name to that text gives these values. -/
inductive FieldSet (v : ConfigValues) : Bytes → Bytes → ConfigValues → Prop
  | deviceName {value : Bytes} (h : value.length ≤ nameMax) :
      FieldSet v (ascii "device_name") value { v with deviceName := value }
  | wifiSsid {value : Bytes} (h : value.length ≤ wifiSsidMax) :
      FieldSet v (ascii "wifi_ssid") value { v with wifiSsid := value }
  | wifiPassword {value : Bytes} (h : value.length ≤ wifiPassMax) :
      FieldSet v (ascii "wifi_password") value { v with wifiPassword := value }
  | serverHost {value : Bytes} (h : value.length ≤ hostMax) :
      FieldSet v (ascii "server_host") value { v with serverHost := value }
  | serverPort {value : Bytes} {port : ℕ} (h : DenotesPort value port) :
      FieldSet v (ascii "server_port") value { v with serverPort := UInt16.ofNat port }

lemma not_isSpace_of_isDigit {b : UInt8} (h : isDigit b) : isSpace b = false := by
  simp only [isDigit, Bool.and_eq_true, decide_eq_true_eq, UInt8.le_iff_toNat_le] at h
  simp only [isSpace, Bool.or_eq_false_iff, Bool.and_eq_false_imp, decide_eq_true_eq, decide_eq_false_iff_not,
    UInt8.le_iff_toNat_le, ← UInt8.toNat_inj]
  have hnine : (oct '9').toNat = 57 := rfl
  have hzero : (oct '0').toNat = 48 := rfl
  have hspace : (oct ' ').toNat = 32 := rfl
  have h13 : (13 : UInt8).toNat = 13 := rfl
  omega

lemma dropWhile_append_stop {p : UInt8 → Bool} {a : Bytes} (ha : ∀ b ∈ a, p b) {c : UInt8} {rest : Bytes}
    (hc : p c = false) : (a ++ c :: rest).dropWhile p = c :: rest := by
  rw [List.dropWhile_append_of_pos ha, List.dropWhile_cons_of_neg (by simp [hc])]

/-- `strtol` takes the whole of such a text. -/
lemma strtol_denotes (target : Target) {text : Bytes} {port : ℕ} (h : DenotesPort text port) :
    strtol target.longMax text = ((port : ℤ), []) := by
  obtain ⟨⟨space, sign, digits, rfl, hspace, hsign, hne, hdigits, hvalue⟩, -, hle⟩ := h
  obtain ⟨d, ds, rfl⟩ := List.exists_cons_of_ne_nil hne
  have hd : isDigit d := hdigits d List.mem_cons_self
  have hlong : 65535 < target.longMax := by cases target <;> decide
  have htake : (d :: ds).takeWhile isDigit = d :: ds := List.takeWhile_eq_self_iff.mpr hdigits
  have hdrop : (d :: ds).dropWhile isDigit = [] := List.dropWhile_eq_nil_iff.mpr hdigits
  have hclip : min (target.longMax : ℤ) (port : ℕ) = port := by omega
  have hfront : (space ++ (sign ++ d :: ds)).dropWhile isSpace = sign ++ d :: ds := by
    rcases hsign with rfl | rfl
    · exact dropWhile_append_stop hspace (not_isSpace_of_isDigit hd)
    · exact dropWhile_append_stop hspace (by decide)
  rw [strtol, hfront]
  rcases hsign with rfl | rfl
  · have hminus : d ≠ oct '-' := by rintro rfl; exact absurd hd (by decide)
    have hplus : d ≠ oct '+' := by rintro rfl; exact absurd hd (by decide)
    simp only [List.nil_append, if_neg hminus, if_neg hplus, htake, hdrop, hvalue]
    simp [hclip]
  · simp only [List.cons_append, List.nil_append, if_neg (show oct '+' ≠ oct '-' by decide), if_true, htake,
      hdrop, hvalue]
    simp [hclip]

/-- The sign and the digits behind the white space, taken as a whole. -/
lemma denotesPort_of_digits (target : Target) {text sign digits stop : Bytes} {n : ℤ} (hne : text ≠ [])
    (hsplit : text.dropWhile isSpace = sign ++ digits) (hsign : sign = [] ∨ sign = [oct '+'])
    (hread : (n, stop) = if digits.takeWhile isDigit = [] then (0, text)
      else (min (target.longMax : ℤ) (decimalValue (digits.takeWhile isDigit)), digits.dropWhile isDigit))
    (hstop : stop = []) (hlow : 1 ≤ n) (hhigh : n ≤ 65535) : DenotesPort text n.toNat := by
  have hlong : 65535 < target.longMax := by cases target <;> decide
  split_ifs at hread with hdigits
  · exact absurd ((Prod.mk.inj hread).2.symm.trans hstop) hne
  obtain ⟨hn, hrest⟩ := Prod.mk.inj hread
  have hall : digits.takeWhile isDigit = digits :=
    List.takeWhile_eq_self_iff.mpr (List.dropWhile_eq_nil_iff.mp (hrest.symm.trans hstop))
  rw [hall] at hn hdigits
  have hclip : n.toNat = decimalValue digits := by omega
  refine ⟨⟨text.takeWhile isSpace, sign, digits, ?_, fun b hb => List.mem_takeWhile_imp hb, hsign, hdigits,
    List.takeWhile_eq_self_iff.mp hall, hclip.symm⟩, by omega, by omega⟩
  rw [← hsplit, List.takeWhile_append_dropWhile]

/-- What `strtol` takes the whole of and reads as a port is such a text. -/
lemma denotes_strtol (target : Target) {text : Bytes} (hne : text ≠ [])
    (hstop : (strtol target.longMax text).2 = []) (hlow : 1 ≤ (strtol target.longMax text).1)
    (hhigh : (strtol target.longMax text).1 ≤ 65535) :
    DenotesPort text (strtol target.longMax text).1.toNat := by
  cases hsubject : text.dropWhile isSpace with
  | nil =>
      refine denotesPort_of_digits target hne (show _ = [] ++ [] from hsubject) (Or.inl rfl) ?_ hstop hlow hhigh
      rw [strtol, hsubject]
      rfl
  | cons b rest =>
      by_cases hminus : b = oct '-'
      · -- A number with a minus sign is not positive.
        exfalso
        simp only [strtol, hsubject, if_pos hminus, if_true] at hlow
        split_ifs at hlow
        · simp at hlow
        · simp only at hlow
          omega
      by_cases hplus : b = oct '+'
      · refine denotesPort_of_digits target hne (show _ = [b] ++ rest from hsubject) (Or.inr (by rw [hplus])) ?_
          hstop hlow hhigh
        simp only [strtol, hsubject, if_neg hminus, if_pos hplus, Bool.false_eq_true, if_false]
      · refine denotesPort_of_digits target hne (show _ = [] ++ b :: rest from hsubject) (Or.inl rfl) ?_
          hstop hlow hhigh
        simp only [strtol, hsubject, if_neg hminus, if_neg hplus, Bool.false_eq_true, if_false]

lemma Buffer.text_put {n : ℕ} (b : Buffer n) {value : Bytes} (hvalue : 0 ∉ value)
    (hfit : (value ++ [0]).length ≤ n) : (b.put (value ++ [0]) hfit).text = value := by
  have hall : value.takeWhile (· ≠ 0) = value :=
    List.takeWhile_eq_self_iff.mpr fun c hc => by simpa using ne_of_mem_of_not_mem hc hvalue
  simp only [Buffer.text, Buffer.put, overlay, List.append_assoc]
  rw [List.takeWhile_append, hall, if_pos rfl]
  simp

/-- A string field is set exactly if the value fits. -/
lemma setStr_map {maxlen : ℕ} {dst : Buffer (maxlen + 1)} {value : Bytes} (hvalue : 0 ∉ value)
    (update : Buffer (maxlen + 1) → SdConfig) :
    (value.length ≤ maxlen → ∃ b, b.text = value ∧ (setStr dst value).map update = .ok (update b)) ∧
      (maxlen < value.length → (setStr dst value).map update = .error .invalid) := by
  unfold setStr
  constructor
  · intro hlen
    rw [dif_pos hlen]
    exact ⟨_, Buffer.text_put dst hvalue _, rfl⟩
  · intro hlen
    rw [dif_neg (not_le.mpr hlen)]
    rfl

/-- A text its field takes is stored. -/
lemma setField_accepted (target : Target) {cfg : SdConfig} {key value : Bytes} {v : ConfigValues}
    (hvalue : 0 ∉ value) (h : FieldSet cfg.values key value v) :
    ∃ cfg', sdConfigSetField target cfg key value = .ok cfg' ∧ FieldSet cfg.values key value cfg'.values := by
  cases h with
  | deviceName hlen =>
      obtain ⟨b, rfl, hb⟩ := (setStr_map hvalue fun b => { cfg with deviceName := b }).1 hlen
      exact ⟨_, by rw [sdConfigSetField, if_pos rfl, hb], .deviceName hlen⟩
  | wifiSsid hlen =>
      obtain ⟨b, rfl, hb⟩ := (setStr_map hvalue fun b => { cfg with wifiSsid := b }).1 hlen
      exact ⟨_, by rw [sdConfigSetField, if_neg (by decide), if_pos rfl, hb], .wifiSsid hlen⟩
  | wifiPassword hlen =>
      obtain ⟨b, rfl, hb⟩ := (setStr_map hvalue fun b => { cfg with wifiPassword := b }).1 hlen
      exact ⟨_, by rw [sdConfigSetField, if_neg (by decide), if_neg (by decide), if_pos rfl, hb],
        .wifiPassword hlen⟩
  | serverHost hlen =>
      obtain ⟨b, rfl, hb⟩ := (setStr_map hvalue fun b => { cfg with serverHost := b }).1 hlen
      exact ⟨_, by rw [sdConfigSetField, if_neg (by decide), if_neg (by decide), if_neg (by decide),
        if_pos rfl, hb], .serverHost hlen⟩
  | @serverPort _ port hport =>
      have hread := strtol_denotes target hport
      have hne : value ≠ [] := by
        obtain ⟨⟨space, sign, digits, rfl, -, -, hdigits, -⟩, -⟩ := hport
        simp [hdigits]
      have hrange := hport.range
      refine ⟨{ cfg with serverPort := UInt16.ofNat port }, ?_, .serverPort hport⟩
      rw [sdConfigSetField, if_neg (by decide), if_neg (by decide), if_neg (by decide), if_neg (by decide),
        if_pos rfl, hread]
      simp only
      rw [if_neg (by simp [hne]; omega), Int.toNat_natCast]

/-- Any other text is refused. -/
lemma setField_refused (target : Target) {cfg : SdConfig} {key value : Bytes} (hvalue : 0 ∉ value)
    (h : ∀ v, ¬ FieldSet cfg.values key value v) : sdConfigSetField target cfg key value = .error .invalid := by
  unfold sdConfigSetField
  split_ifs with hname hssid hpass hhost hport
  · subst hname
    exact (setStr_map hvalue _).2 (not_le.mp fun hlen => h _ (.deviceName hlen))
  · subst hssid
    exact (setStr_map hvalue _).2 (not_le.mp fun hlen => h _ (.wifiSsid hlen))
  · subst hpass
    exact (setStr_map hvalue _).2 (not_le.mp fun hlen => h _ (.wifiPassword hlen))
  · subst hhost
    exact (setStr_map hvalue _).2 (not_le.mp fun hlen => h _ (.serverHost hlen))
  · subst hport
    rcases hread : strtol target.longMax value with ⟨n, stop⟩
    simp only
    rw [if_pos]
    by_contra hok
    simp only [not_or, not_not, not_lt] at hok
    refine h _ (.serverPort (denotes_strtol target hok.1 ?_ ?_ ?_))
    · rw [hread]; exact hok.2.1
    · rw [hread]; exact hok.2.2.1
    · rw [hread]; exact hok.2.2.2
  · rfl

/-- **What `sd_config_set_field` does**: with a name and a text for it in range it sets the field to that text
and leaves the others; otherwise it fails. -/
theorem sdConfigSetField_iff (target : Target) (cfg : SdConfig) (key : Bytes) {value : Bytes}
    (hvalue : 0 ∉ value) :
    (∃ cfg', sdConfigSetField target cfg key value = .ok cfg' ∧ FieldSet cfg.values key value cfg'.values) ∨
      (sdConfigSetField target cfg key value = .error .invalid ∧ ∀ v, ¬ FieldSet cfg.values key value v) := by
  by_cases hset : ∃ v, FieldSet cfg.values key value v
  · obtain ⟨v, hv⟩ := hset
    exact Or.inl (setField_accepted target hvalue hv)
  · rw [not_exists] at hset
    exact Or.inr ⟨setField_refused target hvalue hset, hset⟩

/-! ## Operations on a configuration -/

namespace SdConfig

lemma sealed_defaults : sdConfigDefaults.Sealed where
  wifiSsid := Buffer.sealed_zeros _
  wifiPassword := Buffer.sealed_zeros _
  serverHost := Buffer.sealed_zeros _
  deviceName := (Buffer.sealed_zeros nameMax).put (ascii "sudonit-glasses") (by decide)

lemma sealed_terminate (cfg : SdConfig) : cfg.terminate.Sealed where
  wifiSsid := Buffer.sealed_assign _
  wifiPassword := Buffer.sealed_assign _
  serverHost := Buffer.sealed_assign _
  deviceName := Buffer.sealed_assign _

lemma Sealed.terminate_eq {cfg : SdConfig} (h : cfg.Sealed) : cfg.terminate = cfg := by
  rw [terminate, h.wifiSsid.assign_eq, h.wifiPassword.assign_eq, h.serverHost.assign_eq,
    h.deviceName.assign_eq]

lemma Sealed.setField {target : Target} {cfg cfg' : SdConfig} {key value : Bytes} (h : cfg.Sealed)
    (hset : sdConfigSetField target cfg key value = .ok cfg') : cfg'.Sealed := by
  rcases sdConfigSetField_cases hset with ⟨-, b, ⟨hfit, rfl⟩, rfl⟩ | ⟨-, b, ⟨hfit, rfl⟩, rfl⟩ |
    ⟨-, b, ⟨hfit, rfl⟩, rfl⟩ | ⟨-, b, ⟨hfit, rfl⟩, rfl⟩ | ⟨-, port, rfl⟩
  · exact { h with deviceName := h.deviceName.put value hfit }
  · exact { h with wifiSsid := h.wifiSsid.put value hfit }
  · exact { h with wifiPassword := h.wifiPassword.put value hfit }
  · exact { h with serverHost := h.serverHost.put value hfit }
  · exact { h with }

end SdConfig

/-- Whatever is stored, what is loaded is sealed. -/
lemma sealed_load (read : Except SdErr Bytes) : (sdConfigLoad read).2.Sealed := by
  unfold sdConfigLoad
  split
  · exact SdConfig.sealed_defaults
  · exact SdConfig.sealed_defaults
  · split_ifs
    · exact SdConfig.sealed_defaults
    · exact SdConfig.sealed_defaults
    · exact SdConfig.sealed_defaults
    · exact SdConfig.sealed_terminate _

/-- Reading a whole blob. -/
lemma read_blob {body : Bytes} (h : body.length = configBytes) :
    sdConfigStoreRead (le 4 configVersion ++ body) blobBytes = .ok (le 4 configVersion ++ body) ∧
      (le 4 configVersion ++ body).length = blobBytes ∧
      leNat ((le 4 configVersion ++ body).take 4) = configVersion ∧
      (le 4 configVersion ++ body).drop 4 = body := by
  have hlen : (le 4 configVersion ++ body).length = blobBytes := by
    rw [List.length_append, length_le, h, blobBytes]
  refine ⟨?_, hlen, ?_, List.drop_left' (length_le _ _)⟩
  · rw [sdConfigStoreRead, if_neg (by omega)]
  · rw [List.take_left' (length_le _ _), leNat_le (by decide)]

/-- What is loaded from a whole blob. -/
lemma load_blob {blob : Bytes} (hlen : blob.length = blobBytes) (hversion : leNat (blob.take 4) = configVersion) :
    sdConfigLoad (.ok blob) = (.ok (), (SdConfig.ofOctets (blob.drop 4)).terminate) := by
  have hpos : blobBytes ≠ 0 := by decide
  simp only [sdConfigLoad]
  rw [if_neg (by omega), if_neg (by omega), if_neg (not_not.mpr hversion)]

/-- **A sealed configuration is loaded as it was saved.** -/
theorem load_saved {cfg : SdConfig} (h : cfg.Sealed) :
    sdConfigLoad (sdConfigStoreRead (configBlob cfg) blobBytes) = (.ok (), cfg) := by
  obtain ⟨hread, hlen, hversion, hbody⟩ := read_blob (length_octets cfg)
  rw [configBlob, hread, load_blob hlen hversion, hbody, ofOctets_octets, h.terminate_eq]

end Sudonit
