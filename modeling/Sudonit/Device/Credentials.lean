import Sudonit.Device.Network

/-!
# The credentials the radio gets

A network name and a password are accepted by `sd_config_set_field`, kept in `sd_config_t` with a
terminator, saved and loaded, and copied into the arrays of the driver by `sd_net_start`.  The first two
have room for 32 octets of the name; the copy leaves the last octet of the driver's array alone.

* `Provisioned` — a configuration, over any accepted sets and round trips through the store.
* `sdNetStart_handed` — the only configuration a start hands to the driver is `stationConfig`.
* `credentials_reach_radio_iff` — when the driver gets what was accepted.
-/

namespace Sudonit

open Octets CText

/-! ## Provisioned configurations -/

/-- A configuration, and the name and the password last accepted for it, if any: sets of any fields and
round trips through the store, in any order. -/
inductive Provisioned (target : Target) : SdConfig → Option Bytes → Option Bytes → Prop
  | start {cfg : SdConfig} (h : cfg.Sealed) : Provisioned target cfg none none
  | set {cfg cfg' : SdConfig} {ssid password : Option Bytes} (h : Provisioned target cfg ssid password)
      (key value : CStr)
      (hset : sdConfigSetField target cfg key.bytes value.bytes = .ok cfg') :
      Provisioned target cfg' (if key.bytes = ascii "wifi_ssid" then some value.bytes else ssid)
        (if key.bytes = ascii "wifi_password" then some value.bytes else password)
  | reload {cfg cfg' : SdConfig} {ssid password : Option Bytes} {r : Except SdErr Unit}
      (h : Provisioned target cfg ssid password)
      (hload : sdConfigLoad (sdConfigStoreRead (configBlob cfg) blobBytes) = (r, cfg')) :
      Provisioned target cfg' ssid password

lemma FieldSet.wifiSsid_eq {v v' : ConfigValues} {key value : Bytes} (h : FieldSet v key value v') :
    v'.wifiSsid = if key = ascii "wifi_ssid" then value else v.wifiSsid := by
  cases h with
  | wifiSsid => rw [if_pos rfl]
  | deviceName => rw [if_neg (by decide)]
  | wifiPassword => rw [if_neg (by decide)]
  | serverHost => rw [if_neg (by decide)]
  | serverPort => rw [if_neg (by decide)]

lemma FieldSet.wifiPassword_eq {v v' : ConfigValues} {key value : Bytes} (h : FieldSet v key value v') :
    v'.wifiPassword = if key = ascii "wifi_password" then value else v.wifiPassword := by
  cases h with
  | wifiPassword => rw [if_pos rfl]
  | deviceName => rw [if_neg (by decide)]
  | wifiSsid => rw [if_neg (by decide)]
  | serverHost => rw [if_neg (by decide)]
  | serverPort => rw [if_neg (by decide)]

/-- An accepted set stores the text. -/
lemma fieldSet_of_ok {target : Target} {cfg cfg' : SdConfig} {key : Bytes} {value : CStr}
    (h : sdConfigSetField target cfg key value.bytes = .ok cfg') :
    FieldSet cfg.values key value.bytes cfg'.values := by
  rcases sdConfigSetField_iff target cfg key value.no_nul with ⟨cfg'', hok, hset⟩ | ⟨herror, -⟩
  · obtain rfl := Except.ok.inj (h.symm.trans hok)
    exact hset
  · rw [h] at herror
    simp at herror

/-- **The fields hold what was accepted last**, over any sets and round trips. -/
theorem Provisioned.holds {target : Target} {cfg : SdConfig} {ssid password : Option Bytes}
    (h : Provisioned target cfg ssid password) :
    cfg.Sealed ∧ (∀ s ∈ ssid, cfg.wifiSsid.text = s) ∧ ∀ p ∈ password, cfg.wifiPassword.text = p := by
  induction h with
  | start hsealed => exact ⟨hsealed, by simp, by simp⟩
  | @set cfg cfg' ssid password _ key value hset ih =>
      obtain ⟨hsealed, hssid, hpassword⟩ := ih
      have hfield := fieldSet_of_ok hset
      have hname : cfg'.wifiSsid.text = if key.bytes = ascii "wifi_ssid" then value.bytes else cfg.wifiSsid.text :=
        hfield.wifiSsid_eq
      have hpass : cfg'.wifiPassword.text
          = if key.bytes = ascii "wifi_password" then value.bytes else cfg.wifiPassword.text :=
        hfield.wifiPassword_eq
      refine ⟨hsealed.setField hset, ?_, ?_⟩
      · rw [hname]
        split_ifs
        · rintro _ ⟨⟩
          rfl
        · exact hssid
      · rw [hpass]
        split_ifs
        · rintro _ ⟨⟩
          rfl
        · exact hpassword
  | reload _ hload ih =>
      rw [load_saved ih.1] at hload
      exact (Prod.mk.inj hload).2 ▸ ih

/-! ## The driver -/

lemma Buffer.zero_notMem_text {n : ℕ} (b : Buffer n) : 0 ∉ b.text := zero_notMem_takeWhile b.bytes

lemma Buffer.Sealed.length_text_le {n : ℕ} {b : Buffer (n + 1)} (h : b.Sealed) : b.text.length ≤ n := by
  by_contra hlong
  have hmem : b.text[n]? = some 0 := by
    have hsplit : b.bytes = b.text ++ b.bytes.dropWhile (· ≠ 0) := List.takeWhile_append_dropWhile.symm
    rw [Buffer.Sealed, hsplit, List.getElem?_append_left (by omega)] at h
    exact h
  exact b.zero_notMem_text (List.mem_of_getElem? hmem)

/-- `strncpy` into an array with room to spare copies so many octets of the string. -/
lemma text_strncpyZeros {size n : ℕ} (h : n < size) {m : ℕ} (b : Buffer m) :
    (strncpyZeros size n b.bytes).text = b.text.take n := by
  have hlen : (b.text.take n).length ≤ n := by
    rw [List.length_take]
    omega
  have hall : (b.text.take n).takeWhile (· ≠ 0) = b.text.take n :=
    List.takeWhile_eq_self_iff.mpr fun c hc => by
      simpa using ne_of_mem_of_not_mem (List.mem_of_mem_take hc) b.zero_notMem_text
  obtain ⟨k, hk⟩ := Nat.exists_eq_add_of_lt (show (b.text.take n).length < size by omega)
  have hzeros : size - (b.text.take n).length = k + 1 := by omega
  simp only [strncpyZeros, Buffer.front]
  rw [Buffer.text]
  simp only [show b.bytes.takeWhile (· ≠ 0) = b.text from rfl]
  rw [List.take_of_length_le (by omega), hzeros, List.replicate_succ, List.takeWhile_append, hall, if_pos rfl]
  simp

/-- The driver holds this name and this password. -/
def StationConfig.Carries (st : StationConfig) (ssid password : Bytes) : Prop :=
  st.ssid.text = ssid ∧ st.password.text = password

lemma carries_iff {cfg : SdConfig} (h : cfg.Sealed) :
    (stationConfig cfg).Carries cfg.wifiSsid.text cfg.wifiPassword.text ↔ cfg.wifiSsid.text.length ≤ 31 := by
  have hpass : cfg.wifiPassword.text.length ≤ 63 := h.wifiPassword.length_text_le
  rw [StationConfig.Carries, stationConfig, text_strncpyZeros (by decide), text_strncpyZeros (by decide),
    List.take_eq_self_iff, List.take_eq_self_iff]
  exact and_iff_left hpass

/-- Since then the driver was handed nothing but what this configuration makes of it. -/
def Handed (cfg : SdConfig) (before : List StationConfig) (s : Net) : Prop :=
  ∃ new, s.handed = before ++ new ∧ ∀ st ∈ new, st = stationConfig cfg

lemma handed_netEventHandler (cfg : SdConfig) (before : List StationConfig) (e : NetEvent) :
    Effect.Keeps (Handed cfg before) (netEventHandler e) := by
  have hbits : ∀ f, Effect.Keeps (Handed cfg before) (setBits f) :=
    fun f => keeps_setBits f fun _ _ _ h => h
  cases e with
  | staStart => exact Effect.Keeps.pure ()
  | other => exact Effect.Keeps.pure ()
  | gotIp => exact fun s h => hbits _ { s with retries := 0, log := s.log ++ [.gotIp] } h
  | disconnected =>
      intro s h
      rw [netEventHandler]
      simp only
      split_ifs
      · exact h
      · exact hbits _ { s with log := s.log ++ [.exhausted] } h

lemma handed_setup (cfg : SdConfig) (before : List StationConfig) : KeptBySetup (Handed cfg before) cfg where
  handler := handed_netEventHandler cfg before
  wifiHandlers _ _ h := h
  ipHandlers _ _ h := h
  handed := by
    rintro s ⟨new, hnew, hall⟩
    refine ⟨new ++ [stationConfig cfg], by rw [hnew, List.append_assoc], ?_⟩
    simpa [or_imp, forall_and] using hall
  started _ h := h

/-- **A start hands the driver nothing but `stationConfig`.** -/
theorem sdNetStart_handed (cfg : SdConfig) (b : Bringup) (s : Net) :
    Handed cfg s.handed ((sdNetStart cfg b).run s).2 := by
  have hgroup : Effect.Keeps (Handed cfg s.handed) (createGroup b.group) := by
    intro s' h
    rw [createGroup]
    cases b.group <;> exact h
  have hnothing : Handed cfg s.handed s := ⟨[], by rw [List.append_nil], by simp⟩
  rw [sdNetStart]
  simp only
  split_ifs
  · exact hnothing
  · exact hnothing
  · exact ((keeps_setup (handed_setup cfg s.handed) b hgroup).bind fun _ =>
      keeps_awaitIp (handed_netEventHandler cfg s.handed) b) s hnothing

/-- A silent bring-up hands over the configuration. -/
lemma handed_silent {cfg : SdConfig} (h : cfg.wifiSsid.text ≠ []) :
    ((sdNetStart cfg silent).run Net.initial).2.handed = [stationConfig cfg] := by
  have hssid : cfg.wifiSsid.bytes.headD 0 ≠ 0 := by
    rw [Buffer.text] at h
    cases hbytes : cfg.wifiSsid.bytes with
    | nil => simp [hbytes] at h
    | cons c cs =>
        intro hzero
        rw [List.headD_cons] at hzero
        simp [hbytes, hzero] at h
  rw [sdNetStart]
  simp only
  rw [if_neg hssid]
  rfl

/-- **When accepted credentials reach the radio.**  For a network name and a password last accepted, over any
sets and round trips, every start that hands the driver a configuration hands it exactly these, exactly
if the name has at most 31 octets. -/
theorem credentials_reach_radio_iff {target : Target} {cfg : SdConfig} {ssid password : Bytes}
    (h : Provisioned target cfg (some ssid) (some password)) (hssid : ssid ≠ []) :
    (∀ b s, ∃ handed, ((sdNetStart cfg b).run s).2.handed = s.handed ++ handed ∧
      ∀ st ∈ handed, st.Carries ssid password) ↔ ssid.length ≤ 31 := by
  obtain ⟨hsealed, hname, hpass⟩ := h.holds
  obtain rfl := hname ssid rfl
  obtain rfl := hpass password rfl
  rw [← carries_iff hsealed]
  constructor
  · intro hall
    obtain ⟨handed, hhanded, hcarries⟩ := hall silent Net.initial
    rw [handed_silent hssid] at hhanded
    have hmem : stationConfig cfg ∈ Net.initial.handed ++ handed := hhanded ▸ List.mem_singleton_self _
    exact hcarries _ hmem
  · intro hcarries b s
    obtain ⟨new, hnew, hall⟩ := sdNetStart_handed cfg b s
    exact ⟨new, hnew, fun st hst => hall st hst ▸ hcarries⟩

/-- A name and a password in range can be provisioned. -/
lemma exists_provisioned (target : Target) {ssid password : CStr} (hssid : ssid.bytes.length ≤ wifiSsidMax)
    (hpassword : password.bytes.length ≤ wifiPassMax) :
    ∃ cfg, Provisioned target cfg (some ssid.bytes) (some password.bytes) := by
  rcases sdConfigSetField_iff target sdConfigDefaults (ascii "wifi_ssid") ssid.no_nul with
    ⟨cfg₁, hset₁, -⟩ | ⟨-, hno⟩
  · rcases sdConfigSetField_iff target cfg₁ (ascii "wifi_password") password.no_nul with
      ⟨cfg₂, hset₂, -⟩ | ⟨-, hno⟩
    · exact ⟨cfg₂, ((Provisioned.start SdConfig.sealed_defaults).set ⟨ascii "wifi_ssid", by decide⟩ ssid
        hset₁).set ⟨ascii "wifi_password", by decide⟩ password hset₂⟩
    · exact absurd (.wifiPassword hpassword) (hno _)
  · exact absurd (.wifiSsid hssid) (hno _)

/-- A network name of 32 octets. -/
def wideName : CStr := ⟨List.replicate 32 (oct 'a'), by decide⟩

def wideNamePassword : CStr := ⟨ascii "correct horse", by decide⟩

/-- **The last octet of a full name is lost.** -/
theorem wide_name_cut : ∃ cfg, Provisioned .esp32 cfg (some wideName.bytes) (some wideNamePassword.bytes) ∧
    ∃ st, ((sdNetStart cfg silent).run Net.initial).2.handed = [st] ∧
      st.ssid.text = List.replicate 31 (oct 'a') ∧ ¬ st.Carries wideName.bytes wideNamePassword.bytes := by
  obtain ⟨cfg, hcfg⟩ := exists_provisioned .esp32 (show wideName.bytes.length ≤ wifiSsidMax by decide)
    (show wideNamePassword.bytes.length ≤ wifiPassMax by decide)
  obtain ⟨-, hname, -⟩ := hcfg.holds
  have htext : cfg.wifiSsid.text = wideName.bytes := hname _ rfl
  have hssid : (stationConfig cfg).ssid.text = List.replicate 31 (oct 'a') := by
    rw [stationConfig, text_strncpyZeros (by decide), htext]
    decide
  refine ⟨cfg, hcfg, stationConfig cfg, handed_silent (by rw [htext]; decide), hssid, ?_⟩
  rintro ⟨hcarried, -⟩
  rw [hssid] at hcarried
  exact absurd hcarried (by decide)

/-- The same name, which does not reach it. -/
theorem credentials_reach_radio_iff_wide : ∃ cfg,
    ((∀ b s, ∃ handed, ((sdNetStart cfg b).run s).2.handed = s.handed ++ handed ∧
      ∀ st ∈ handed, st.Carries wideName.bytes wideNamePassword.bytes) ↔ wideName.bytes.length ≤ 31) ∧
    ¬ wideName.bytes.length ≤ 31 := by
  obtain ⟨cfg, hcfg⟩ := exists_provisioned .esp32 (show wideName.bytes.length ≤ wifiSsidMax by decide)
    (show wideNamePassword.bytes.length ≤ wifiPassMax by decide)
  exact ⟨cfg, credentials_reach_radio_iff hcfg (by decide), by decide⟩

end Sudonit
