import Sudonit.Core.Effect
import Sudonit.Device.Config

/-!
# `config_store_host.c`: the configuration in a file

`sd_config_store_write` truncates the file, writes the blob through a buffer and closes the file without
looking at what `fclose` returns.

* `FileIo` — what the file operations of one write do.
* `Says` — the configuration a file stands for, and `loads_iff` what `sd_config_load` makes of it.
* `save_atomic_iff` — when a save is atomic and honest about its result.
-/

namespace Sudonit

open Octets

/-! ## The file -/

/-- What the file operations of one `sd_config_store_write` do.  Without a failure `fwrite` takes all
octets, and all of them are in the file once `fclose` has returned. -/
structure FileIo where
  /-- `fopen` -/
  opens : Bool
  /-- how many octets `fwrite` takes -/
  accepts : ℕ
  /-- how many octets of the blob are in the file in the end -/
  reaches : ℕ

/-- `sd_config_store_read`. -/
def hostStoreRead (file : Option Bytes) (cap : ℕ) : Except SdErr Bytes :=
  match file with
  | none => .ok []
  | some bytes =>
      if (bytes.take cap).length = cap ∧ bytes.drop cap ≠ [] then .error .noMem else .ok (bytes.take cap)

/-- `sd_config_store_write`. -/
def hostStoreWrite (io : FileIo) (buf : Bytes) : Effect (Option Bytes) SdErr Unit := ⟨fun file =>
  if io.opens = false then (.error .io, file)
  else (if min io.accepts buf.length = buf.length then .ok () else .error .io, some (buf.take io.reaches))⟩

/-- `sd_config_save`. -/
def sdConfigSave (io : FileIo) (cfg : SdConfig) : Effect (Option Bytes) SdErr Unit :=
  hostStoreWrite io (configBlob cfg)

/-- `sd_config_load`: its result, and what the configuration says. -/
def loadFrom (file : Option Bytes) : Except SdErr Unit × ConfigValues :=
  ((sdConfigLoad (hostStoreRead file blobBytes)).1, (sdConfigLoad (hostStoreRead file blobBytes)).2.values)

/-- After `SD_OK` the configuration is loaded as it was saved, and after an error as if nothing had been
done. -/
def SaveAtomic (io : FileIo) (cfg : SdConfig) (file : Option Bytes) : Prop :=
  (((sdConfigSave io cfg).run file).1 = .ok () →
      loadFrom ((sdConfigSave io cfg).run file).2 = (.ok (), cfg.values)) ∧
    ∀ e, ((sdConfigSave io cfg).run file).1 = .error e →
      loadFrom ((sdConfigSave io cfg).run file).2 = loadFrom file

/-! ## What a file says -/

/-- The file is a blob of this version, with that configuration in it. -/
def Stores (file : Option Bytes) (cfg : SdConfig) : Prop :=
  ∃ body, body.length = configBytes ∧ file = some (le 4 configVersion ++ body) ∧
    cfg = (SdConfig.ofOctets body).terminate

/-- The values of the stored configuration, or the default ones where none is stored. -/
def Says (file : Option Bytes) (v : ConfigValues) : Prop :=
  (∃ cfg, Stores file cfg ∧ cfg.values = v) ∨ ((∀ cfg, ¬ Stores file cfg) ∧ sdConfigDefaults.values = v)

lemma hostStoreRead_eq (file : Option Bytes) (cap : ℕ) :
    hostStoreRead file cap = sdConfigStoreRead (file.getD []) cap := by
  cases file with
  | none => rfl
  | some bytes =>
      rw [hostStoreRead, sdConfigStoreRead, Option.getD_some]
      by_cases hlong : cap < bytes.length
      · rw [if_pos ⟨List.length_take_of_le hlong.le, fun h => by simp at h; omega⟩, if_pos hlong]
      · rw [if_neg fun h => h.2 (List.drop_eq_nil_of_le (not_lt.mp hlong)), if_neg hlong,
          List.take_of_length_le (not_lt.mp hlong)]

/-- The blob that is read from a file with a configuration. -/
lemma Stores.read {file : Option Bytes} {cfg : SdConfig} (h : Stores file cfg) :
    ∃ blob, hostStoreRead file blobBytes = .ok blob ∧ blob.length = blobBytes ∧
      leNat (blob.take 4) = configVersion ∧ cfg = (SdConfig.ofOctets (blob.drop 4)).terminate := by
  obtain ⟨body, hlen, rfl, rfl⟩ := h
  obtain ⟨hread, hblob, hversion, hbody⟩ := read_blob hlen
  refine ⟨le 4 configVersion ++ body, ?_, hblob, hversion, by rw [hbody]⟩
  rw [hostStoreRead_eq, Option.getD_some, hread]

lemma load_stores {file : Option Bytes} {cfg : SdConfig} (h : Stores file cfg) :
    sdConfigLoad (hostStoreRead file blobBytes) = (.ok (), cfg) := by
  obtain ⟨blob, hread, hlen, hversion, rfl⟩ := h.read
  rw [hread, load_blob hlen hversion]

lemma load_nothing {file : Option Bytes} (h : ∀ cfg, ¬ Stores file cfg) :
    sdConfigLoad (hostStoreRead file blobBytes) = (.ok (), sdConfigDefaults) := by
  cases file with
  | none => rfl
  | some bytes =>
      rw [hostStoreRead_eq, Option.getD_some, sdConfigStoreRead]
      split_ifs with hlong
      · rfl
      simp only [sdConfigLoad]
      split_ifs with hempty hshort hversion
      · rfl
      · rfl
      · rfl
      · -- A blob of the right length and version stores a configuration.
        have hlen : (bytes.drop 4).length = configBytes := by
          rw [List.length_drop]
          rw [blobBytes] at hlong hshort
          omega
        have hfour : (bytes.take 4).length = 4 := by
          rw [List.length_take]
          rw [blobBytes] at hshort
          omega
        refine absurd ⟨bytes.drop 4, hlen, ?_, rfl⟩ (h (SdConfig.ofOctets (bytes.drop 4)).terminate)
        have hhead := le_leNat (bytes.take 4)
        rw [hfour, not_not.mp hversion] at hhead
        rw [hhead, List.take_append_drop]

/-- **What is loaded is what the file says.** -/
theorem loads_iff (file : Option Bytes) (v : ConfigValues) : loadFrom file = (.ok (), v) ↔ Says file v := by
  by_cases h : ∃ cfg, Stores file cfg
  · obtain ⟨cfg, hcfg⟩ := h
    rw [loadFrom, load_stores hcfg]
    constructor
    · intro heq
      exact Or.inl ⟨cfg, hcfg, (Prod.mk.inj heq).2⟩
    · rintro (⟨cfg', hcfg', rfl⟩ | ⟨hnone, -⟩)
      · have heq := (load_stores hcfg).symm.trans (load_stores hcfg')
        rw [(Prod.mk.inj heq).2]
      · exact absurd hcfg (hnone cfg)
  · rw [not_exists] at h
    rw [loadFrom, load_nothing h]
    constructor
    · intro heq
      exact Or.inr ⟨h, (Prod.mk.inj heq).2⟩
    · rintro (⟨cfg, hcfg, -⟩ | ⟨-, rfl⟩)
      · exact absurd hcfg (h cfg)
      · rfl

/-! ## A save -/

lemma length_configBlob (cfg : SdConfig) : (configBlob cfg).length = blobBytes := by
  rw [configBlob, List.length_append, length_le, length_octets, blobBytes]

lemma run_sdConfigSave {io : FileIo} (hopen : io.opens = true) (cfg : SdConfig) (file : Option Bytes) :
    (sdConfigSave io cfg).run file
      = (if blobBytes ≤ io.accepts then .ok () else .error .io, some ((configBlob cfg).take io.reaches)) := by
  simp [sdConfigSave, hostStoreWrite, hopen, length_configBlob]

/-- The whole blob is loaded as it was saved. -/
lemma loadFrom_blob {cfg : SdConfig} (h : cfg.Sealed) : loadFrom (some (configBlob cfg)) = (.ok (), cfg.values) := by
  rw [loadFrom, hostStoreRead_eq, Option.getD_some, load_saved h]

/-- A blob cut short is loaded as the defaults. -/
lemma loadFrom_short {bytes : Bytes} (h : bytes.length < blobBytes) :
    loadFrom (some bytes) = (.ok (), sdConfigDefaults.values) := by
  refine (loads_iff _ _).mpr (Or.inr ⟨?_, rfl⟩)
  rintro cfg ⟨body, hlen, heq, -⟩
  rw [Option.some.inj heq, List.length_append, length_le, hlen] at h
  exact absurd h (by decide)

/-- What is loaded from a file that this much of the blob has reached. -/
lemma loadFrom_take {cfg : SdConfig} (h : cfg.Sealed) (k : ℕ) :
    loadFrom (some ((configBlob cfg).take k))
      = (.ok (), if blobBytes ≤ k then cfg.values else sdConfigDefaults.values) := by
  have hlen := length_configBlob cfg
  split_ifs with hk
  · rw [List.take_of_length_le (by omega), loadFrom_blob h]
  · exact loadFrom_short (by rw [List.length_take]; omega)

/-- The file operations do the file no harm: it cannot be opened; or the whole blob is taken and reaches the
file, or is not missed; or the write is short and the file says afterwards what it said before. -/
def Harmless (io : FileIo) (cfg : SdConfig) (file : Option Bytes) : Prop :=
  io.opens = false ∨
  (blobBytes ≤ io.accepts ∧ (blobBytes ≤ io.reaches ∨ cfg.values = sdConfigDefaults.values)) ∨
  (io.accepts < blobBytes ∧ Says file (if blobBytes ≤ io.reaches then cfg.values else sdConfigDefaults.values))

/-- **When a save is atomic and honest.**  For every well-formed configuration, every file before it and
everything the file operations can do, exactly if they do the file no harm. -/
theorem save_atomic_iff {cfg : SdConfig} (h : cfg.Sealed) (io : FileIo) (file : Option Bytes) :
    SaveAtomic io cfg file ↔ Harmless io cfg file := by
  have hload := loadFrom_take h io.reaches
  rw [SaveAtomic, Harmless]
  cases hopen : io.opens with
  | false =>
      have hrun : (sdConfigSave io cfg).run file = (.error .io, file) := by
        simp [sdConfigSave, hostStoreWrite, hopen]
      rw [hrun]
      exact iff_of_true ⟨by simp, fun _ _ => rfl⟩ (Or.inl rfl)
  | true =>
      rw [run_sdConfigSave hopen]
      simp only [hload, Bool.true_eq_false, false_or]
      by_cases haccepts : blobBytes ≤ io.accepts
      · rw [if_pos haccepts, and_iff_right haccepts, or_iff_left fun hshort => absurd hshort.1 (by omega)]
        constructor
        · rintro ⟨hok, -⟩
          have hvalues := (Prod.mk.inj (hok rfl)).2
          by_cases hreaches : blobBytes ≤ io.reaches
          · exact Or.inl hreaches
          · rw [if_neg hreaches] at hvalues
            exact Or.inr hvalues.symm
        · intro hcond
          refine ⟨fun _ => ?_, by simp⟩
          split_ifs with hreaches
          · rfl
          · rw [hcond.resolve_left hreaches]
      · rw [if_neg haccepts, or_iff_right fun hwhole => haccepts hwhole.1, and_iff_right (not_le.mp haccepts),
          ← loads_iff]
        constructor
        · rintro ⟨-, herror⟩
          exact (herror .io rfl).symm
        · intro hsays
          exact ⟨by simp, fun _ _ => hsays.symm⟩

/-- A provisioned network. -/
def homeConfig : SdConfig := { sdConfigDefaults with
  wifiSsid := (Buffer.zeros _).put (ascii "home" ++ [0]) (by decide) }

lemma sealed_homeConfig : homeConfig.Sealed :=
  { SdConfig.sealed_defaults with wifiSsid := (Buffer.sealed_zeros _).put (ascii "home") (by decide) }

/-- **`SD_OK`, and the configuration is lost**: `fwrite` takes the blob, and the disk is full when `fclose`
flushes it. -/
theorem save_not_atomic :
    ((sdConfigSave ⟨true, blobBytes, 0⟩ homeConfig).run (some (configBlob homeConfig))) = (.ok (), some []) ∧
      loadFrom (some []) = (.ok (), sdConfigDefaults.values) ∧
      ¬ SaveAtomic ⟨true, blobBytes, 0⟩ homeConfig (some (configBlob homeConfig)) := by
  have hrun : (sdConfigSave ⟨true, blobBytes, 0⟩ homeConfig).run (some (configBlob homeConfig))
      = (.ok (), some []) := by
    rw [run_sdConfigSave rfl, if_pos le_rfl, List.take_zero]
  have hload : loadFrom (some []) = (.ok (), sdConfigDefaults.values) := loadFrom_short (by decide)
  refine ⟨hrun, hload, ?_⟩
  rintro ⟨hok, -⟩
  rw [hrun, hload] at hok
  have hvalues := (Prod.mk.inj (hok rfl)).2
  exact absurd hvalues (by decide)

/-- The same save does harm, and one that is refused at once does none. -/
theorem save_atomic_iff_home :
    (SaveAtomic ⟨true, blobBytes, 0⟩ homeConfig (some (configBlob homeConfig)) ↔
      Harmless ⟨true, blobBytes, 0⟩ homeConfig (some (configBlob homeConfig))) ∧
    ¬ Harmless ⟨true, blobBytes, 0⟩ homeConfig (some (configBlob homeConfig)) ∧
    SaveAtomic ⟨false, 0, 0⟩ homeConfig (some (configBlob homeConfig)) := by
  refine ⟨save_atomic_iff sealed_homeConfig _ _, ?_, (save_atomic_iff sealed_homeConfig _ _).mpr (Or.inl rfl)⟩
  rintro (hopens | ⟨-, hreaches | hvalues⟩ | ⟨hshort, -⟩)
  · simp at hopens
  · exact absurd hreaches (by decide)
  · exact absurd hvalues (by decide)
  · exact absurd hshort (lt_irrefl _)

end Sudonit
