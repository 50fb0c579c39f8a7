import Sudonit.Device.Provisioning
import Sudonit.Device.Store

/-!
# The configuration over whole runs

A configuration object and the store, under any sequence of the operations of `config.c`.  The object is
uninitialised memory until it is first filled, by `sd_config_load` or `sd_config_defaults`; every caller does
that before anything else.  The store can hold anything, and something else at any time.

* `nvsStoreRead`, `storeRead` — what `sd_config_load` reads, from a file or from flash.
* `SdConfig.Sealed` is the invariant: `Filling.sealed` and `ConfigOp.sealed` are its steps.
* `config_strings_terminated` — no string field is without a terminator, in any state of any run.
-/

namespace Sudonit

open Octets CText

/-! ## Reading the store -/

/-- The result of an NVS call that looks for something. -/
inductive NvsLookup
  | found
  | notFound
  | failed

/-- What the calls of one `sd_config_store_read` of `config_store_nvs.c` do. -/
structure NvsIo where
  /-- `nvs_open` -/
  opens : NvsLookup
  /-- `nvs_get_blob` without a buffer -/
  sizes : NvsLookup
  /-- `nvs_get_blob` into the buffer -/
  reads : Bool

/-- `sd_config_store_read` of `config_store_nvs.c`. -/
def nvsStoreRead (io : NvsIo) (stored : Option Bytes) (cap : ℕ) : Except SdErr Bytes :=
  match io.opens, io.sizes, stored with
  | .notFound, _, _ => .ok []
  | .failed, _, _ => .error .io
  | .found, .notFound, _ => .ok []
  | .found, .failed, _ => .error .io
  | .found, .found, none => .ok []
  | .found, .found, some blob =>
      if cap < blob.length then .error .noMem
      else if io.reads then .ok blob
      else .error .io

/-- The store of either target: a file, which can be opened or not, or flash. -/
inductive StoreIo
  | host (opens : Bool)
  | nvs (io : NvsIo)

/-- `sd_config_store_read`. -/
def storeRead : StoreIo → Option Bytes → ℕ → Except SdErr Bytes
  | .host opens, stored, cap => hostStoreRead (if opens then stored else none) cap
  | .nvs io, stored, cap => nvsStoreRead io stored cap

/-! ## Runs -/

/-- A configuration object, and what is in the store. -/
structure ConfigState where
  cfg : SdConfig
  stored : Option Bytes

/-- The operations that fill an object. -/
inductive Filling
  | load (io : StoreIo)
  | defaults

/-- The object filled. -/
def Filling.run (how : Filling) (s : ConfigState) : ConfigState :=
  match how with
  | .load io => { s with cfg := (sdConfigLoad (storeRead io s.stored blobBytes)).2 }
  | .defaults => { s with cfg := sdConfigDefaults }

/-- The operations of `config.h`, and a store that changes by itself. -/
inductive ConfigOp
  | fill (how : Filling)
  | setField (key value : CStr)
  | getField (key : CStr) (cap : ℕ)
  | save (io : FileIo)
  | replaced (stored : Option Bytes)

/-- One operation. -/
def ConfigOp.run (target : Target) (s : ConfigState) : ConfigOp → ConfigState
  | .fill how => how.run s
  | .setField key value =>
      match sdConfigSetField target s.cfg key.bytes value.bytes with
      | .ok cfg => { s with cfg := cfg }
      | .error _ => s
  | .getField _ _ => s
  | .save io => { s with stored := ((sdConfigSave io s.cfg).run s.stored).2 }
  | .replaced stored => { s with stored := stored }

/-- One operation after the other. -/
def runOps (target : Target) (ops : List ConfigOp) (s : ConfigState) : ConfigState :=
  ops.foldl (ConfigOp.run target) s

/-- A freshly filled object is sealed, whatever is stored and whatever the object held. -/
lemma Filling.sealed (how : Filling) (s : ConfigState) : (how.run s).cfg.Sealed := by
  cases how with
  | load io => exact sealed_load _
  | defaults => exact SdConfig.sealed_defaults

/-- **Every operation leaves a sealed object sealed.** -/
theorem ConfigOp.sealed {target : Target} {s : ConfigState} (h : s.cfg.Sealed) (op : ConfigOp) :
    (op.run target s).cfg.Sealed := by
  cases op with
  | fill how => exact how.sealed s
  | setField key value =>
      rw [ConfigOp.run]
      cases hset : sdConfigSetField target s.cfg key.bytes value.bytes with
      | ok cfg => exact h.setField hset
      | error e => exact h
  | getField key cap => exact h
  | save io => exact h
  | replaced stored => exact h

lemma sealed_runOps {target : Target} (ops : List ConfigOp) {s : ConfigState} (h : s.cfg.Sealed) :
    (runOps target ops s).cfg.Sealed := by
  induction ops generalizing s with
  | nil => exact h
  | cons op ops ih => exact ih (op.sealed h)

/-! ## The string fields -/

/-- The string fields. -/
inductive StringField
  | wifiSsid
  | wifiPassword
  | serverHost
  | deviceName

namespace StringField

/-- The key of the field. -/
def key : StringField → Bytes
  | .wifiSsid => ascii "wifi_ssid"
  | .wifiPassword => ascii "wifi_password"
  | .serverHost => ascii "server_host"
  | .deviceName => ascii "device_name"

/-- The array of the field. -/
def array (cfg : SdConfig) : StringField → Bytes
  | .wifiSsid => cfg.wifiSsid.bytes
  | .wifiPassword => cfg.wifiPassword.bytes
  | .serverHost => cfg.serverHost.bytes
  | .deviceName => cfg.deviceName.bytes

/-- The memory a pointer to the field points to: the array, and the object behind it. -/
def pointer (cfg : SdConfig) : StringField → Bytes
  | .wifiSsid => cfg.atWifiSsid
  | .wifiPassword => cfg.atWifiPassword
  | .serverHost => cfg.atServerHost
  | .deviceName => cfg.atDeviceName

/-- The text in the array. -/
def text (cfg : SdConfig) (f : StringField) : Bytes := (f.array cfg).takeWhile (· ≠ 0)

/-- The field ends inside its own array, for whoever reads it. -/
structure EndsInside (cfg : SdConfig) (f : StringField) : Prop where
  terminated : 0 ∈ f.array cfg
  string : cstring (f.pointer cfg) = some (f.text cfg)
  get : ∀ cap, sdConfigGetField cfg f.key (cap + 1) = .ok ((f.text cfg).take cap)

lemma pointer_eq (cfg : SdConfig) (f : StringField) : ∃ behind, f.pointer cfg = f.array cfg ++ behind := by
  cases f <;> exact ⟨_, rfl⟩

lemma getField_key (cfg : SdConfig) (f : StringField) (cap : ℕ) :
    sdConfigGetField cfg f.key cap = printField (f.pointer cfg) cap := by
  cases f <;> rfl

lemma terminated_of_sealed {cfg : SdConfig} (h : cfg.Sealed) (f : StringField) : 0 ∈ f.array cfg := by
  cases f with
  | wifiSsid => exact h.wifiSsid.mem
  | wifiPassword => exact h.wifiPassword.mem
  | serverHost => exact h.serverHost.mem
  | deviceName => exact h.deviceName.mem

/-- A terminator in the array is enough. -/
lemma endsInside {cfg : SdConfig} {f : StringField} (h : 0 ∈ f.array cfg) : f.EndsInside cfg := by
  have hstring : cstring (f.pointer cfg) = some (f.text cfg) := by
    obtain ⟨behind, hpointer⟩ := f.pointer_eq cfg
    rw [hpointer, cstring_append_of_mem h, cstring, if_pos h, text]
  refine ⟨h, hstring, fun cap => ?_⟩
  rw [getField_key, printField, hstring]
  rfl

end StringField

/-! ## What is stored -/

/-- The stored blob has the size and the version of this build. -/
def CurrentBlob (stored : Option Bytes) : Prop :=
  ∃ blob, stored = some blob ∧ blob.length = blobBytes ∧ leNat (blob.take 4) = configVersion

/-- What is read is the whole of what is stored, or nothing. -/
def ReadOf (stored : Option Bytes) (cap : ℕ) (blob : Bytes) : Prop :=
  blob.length ≤ cap ∧ (blob = [] ∨ stored = some blob)

lemma nothing_read {stored : Option Bytes} {cap : ℕ} {blob : Bytes}
    (h : (.ok [] : Except SdErr Bytes) = .ok blob) : ReadOf stored cap blob := by
  rw [← Except.ok.inj h]
  exact ⟨Nat.zero_le _, Or.inl rfl⟩

lemma hostStoreRead_ok {file : Option Bytes} {cap : ℕ} {blob : Bytes} (h : hostStoreRead file cap = .ok blob) :
    ReadOf file cap blob := by
  cases file with
  | none => exact nothing_read h
  | some bytes =>
      rw [hostStoreRead_eq, Option.getD_some, sdConfigStoreRead] at h
      split_ifs at h with hlong
      rw [← Except.ok.inj h]
      exact ⟨not_lt.mp hlong, Or.inr rfl⟩

lemma nvsStoreRead_ok {io : NvsIo} {stored : Option Bytes} {cap : ℕ} {blob : Bytes}
    (h : nvsStoreRead io stored cap = .ok blob) : ReadOf stored cap blob := by
  unfold nvsStoreRead at h
  split at h
  · exact nothing_read h
  · simp at h
  · exact nothing_read h
  · simp at h
  · exact nothing_read h
  · split_ifs at h with hlong hreads
    rw [← Except.ok.inj h]
    exact ⟨not_lt.mp hlong, Or.inr rfl⟩

lemma storeRead_ok {io : StoreIo} {stored : Option Bytes} {cap : ℕ} {blob : Bytes}
    (h : storeRead io stored cap = .ok blob) : ReadOf stored cap blob := by
  cases io with
  | host opens =>
      cases opens with
      | true => exact hostStoreRead_ok h
      | false => exact nothing_read h
  | nvs io => exact nvsStoreRead_ok h

/-- What is stored in another size or version is not loaded. -/
lemma load_not_current {io : StoreIo} {stored : Option Bytes} (h : ¬ CurrentBlob stored) :
    (sdConfigLoad (storeRead io stored blobBytes)).2 = sdConfigDefaults := by
  cases hread : storeRead io stored blobBytes with
  | error e => cases e <;> rfl
  | ok blob =>
      rw [sdConfigLoad]
      split_ifs with hempty hshort hversion
      · rfl
      · rfl
      · rfl
      · obtain ⟨hfits, rfl | hstored⟩ := storeRead_ok hread
        · exact absurd rfl hempty
        · exact absurd ⟨blob, hstored, le_antisymm hfits (not_lt.mp hshort), not_not.mp hversion⟩ h

/-- **In every state of every run the string fields end inside their arrays**, and what is stored in another
size or version loads as the defaults. -/
theorem config_strings_terminated (target : Target) (before : ConfigState) (how : Filling) (ops : List ConfigOp) :
    (∀ f : StringField, f.EndsInside (runOps target ops (how.run before)).cfg) ∧
      ∀ io stored, ¬ CurrentBlob stored →
        (sdConfigLoad (storeRead io stored blobBytes)).2 = sdConfigDefaults := by
  have hsealed : (runOps target ops (how.run before)).cfg.Sealed := sealed_runOps ops (how.sealed before)
  exact ⟨fun f => f.endsInside (f.terminated_of_sealed hsealed), fun io stored h => load_not_current h⟩

end Sudonit
