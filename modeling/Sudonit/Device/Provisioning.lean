import Mathlib.Data.List.DropRight
import Sudonit.Core.Effect
import Sudonit.Device.Config

/-!
# `provisioning.c`: the console

`sd_provision_handle_line` reads one command, changes the configuration in memory, saves it, and emits lines.

* `SdConfig.Terminated` — the string fields are C strings; then no line does anything undefined.
* `handleLine_cases` — what a line can do to the session and the store.
* `clean_is_saved` — a session that is not dirty holds what is stored, and what was saved is what a fresh
  session loads.
-/

namespace Sudonit

open Octets CText

/-! ## The console -/

/-- A session, the store below it, and the lines emitted so far. -/
structure Console where
  cfg : SdConfig
  dirty : Bool
  stored : Bytes
  out : List Bytes

/-- `sd_provision_init`. -/
def sdProvisionInit (stored : Bytes) : Console where
  cfg := (sdConfigLoad (sdConfigStoreRead stored blobBytes)).2
  dirty := false
  stored := stored
  out := []

/-- The characters between tokens. -/
def isTab (b : UInt8) : Bool := b = oct ' ' || b = oct '\t'

/-- The characters trimmed off the end of a line. -/
def isTrailing (b : UInt8) : Bool := b = oct '\n' || b = oct '\r' || b = oct ' ' || b = oct '\t'

/-- `next_token`: the token, and the rest of the line. -/
def nextToken (p : Bytes) : Option Bytes × Bytes :=
  match p.dropWhile isTab with
  | [] => (none, [])
  | b :: s =>
      (some ((b :: s).takeWhile fun c => !isTab c), ((b :: s).dropWhile fun c => !isTab c).tail)

/-- `emit`. -/
def emit (line : Bytes) : Effect Console Halt Unit := ⟨fun s =>
  (.ok (), { s with out := s.out ++ [line] })⟩

/-- `snprintf` of a line into 160 octets. -/
def emitLine (line : Bytes) : Effect Console Halt Unit := emit (line.take 159)

/-- `%-13s`. -/
def padRight (width : ℕ) (s : Bytes) : Bytes := s ++ List.replicate (width - s.length) (oct ' ')

/-- `emitf`, with the memory the value points to. -/
def emitf (key : String) (value : Bytes) : Effect Console Halt Unit :=
  match cstring value with
  | none => Effect.fail .undefined
  | some value => emitLine (padRight 13 (ascii key) ++ ascii " = " ++ value)

/-- The memory of a string literal. -/
def literal (s : String) : Bytes := ascii s ++ [0]

/-- The first octet of a string field. -/
def Buffer.first {n : ℕ} (b : Buffer n) : UInt8 := b.bytes.headD 0

/-- `cmd_show`. -/
def cmdShow (cfg : SdConfig) : Effect Console Halt Unit := do
  emitf "device_name" cfg.atDeviceName
  emitf "wifi_ssid" (if cfg.wifiSsid.first ≠ 0 then cfg.atWifiSsid else literal "(unset)")
  emitf "wifi_password" (if cfg.wifiPassword.first ≠ 0 then literal "(set)" else literal "(unset)")
  emitf "server_host" (if cfg.serverHost.first ≠ 0 then cfg.atServerHost else literal "(unset)")
  emitf "server_port" ((decimal cfg.serverPort.toNat).take 7 ++ [0])

/-- `KEYS`. -/
def keyList : Bytes := ascii "device_name | wifi_ssid | wifi_password | server_host | server_port"

/-- `cmd_help`. -/
def cmdHelp : Effect Console Halt Unit := do
  emit (ascii "commands:")
  emit (ascii "  show                 print all settings (password masked)")
  emit (ascii "  get <key>            print one setting")
  emit (ascii "  set <key> <value>    change a setting (in memory)")
  emit (ascii "  save                 persist changes to storage")
  emit (ascii "  reset                restore defaults (then 'save' to persist)")
  emit (ascii "  help                 this help")
  emitLine (ascii "keys: " ++ keyList)

/-- The `get` branch. -/
def cmdGet (cfg : SdConfig) (p : Bytes) : Effect Console Halt Unit :=
  match (nextToken p).1 with
  | none => emit (ascii "error: usage: get <key>")
  | some key =>
      if key = ascii "wifi_password" then
        emit (if cfg.wifiPassword.first ≠ 0 then ascii "(set)" else ascii "(unset)")
      else
        match sdConfigGetField cfg key 128 with
        | .error .undefined => Effect.fail .undefined
        | .error (.code _) => emit (ascii "error: unknown key")
        | .ok value => emit value

/-- The configuration replaced, with the session dirty. -/
def change (cfg : SdConfig) : Effect Console Halt Unit := ⟨fun s =>
  (.ok (), { s with cfg := cfg, dirty := true })⟩

/-- The `set` branch. -/
def cmdSet (target : Target) (cfg : SdConfig) (p : Bytes) : Effect Console Halt Unit :=
  let value := (nextToken p).2.dropWhile isTab
  match (nextToken p).1 with
  | none => emit (ascii "error: usage: set <key> <value>")
  | some key =>
      if value = [] then emit (ascii "error: usage: set <key> <value>")
      else
        match sdConfigSetField target cfg key value with
        | .error _ => emit (ascii "error: invalid key or value")
        | .ok cfg' => do
            change cfg'
            if key = ascii "wifi_password" then
              emit (ascii "ok: wifi_password updated (use 'save' to persist)")
            else emitLine (ascii "ok: " ++ key ++ ascii " set (use 'save' to persist)")

/-- `sd_config_store_write` of the blob, and the flag. -/
def storeBlob (cfg : SdConfig) : Effect Console Halt Unit := ⟨fun s =>
  (.ok (), { s with stored := configBlob cfg, dirty := false })⟩

/-- The `save` branch, where `sd_config_store_write` succeeds or leaves the store alone. -/
def cmdSave (writes : Bool) (cfg : SdConfig) : Effect Console Halt Unit :=
  if writes then do
    storeBlob cfg
    emit (ascii "ok: saved")
  else emit (ascii "error: failed to save")

/-- The `reset` branch. -/
def cmdReset : Effect Console Halt Unit := do
  change sdConfigDefaults
  emit (ascii "ok: configuration reset to defaults (use 'save' to persist)")

/-- The line as copied into the local buffer and trimmed. -/
def trimmed (line : Bytes) : Bytes := (line.take 255).rdropWhile isTrailing

/-- The command of a line, given the configuration it finds. -/
def dispatch (target : Target) (writes : Bool) (line : Bytes) (cfg : SdConfig) : Effect Console Halt Unit :=
  let p := (nextToken (trimmed line)).2
  match (nextToken (trimmed line)).1 with
  | none => pure ()
  | some cmd =>
      if cmd = ascii "help" then cmdHelp
      else if cmd = ascii "show" then cmdShow cfg
      else if cmd = ascii "get" then cmdGet cfg p
      else if cmd = ascii "set" then cmdSet target cfg p
      else if cmd = ascii "save" then cmdSave writes cfg
      else if cmd = ascii "reset" then cmdReset
      else emit (ascii "error: unknown command (type 'help')")

/-- `sd_provision_handle_line`. -/
def sdProvisionHandleLine (target : Target) (writes : Bool) (line : CStr) : Effect Console Halt Unit :=
  ⟨fun s => (dispatch target writes line.bytes s.cfg).run s⟩

/-- Line after line, each with whether a write to the store would succeed. -/
def handleLines (target : Target) (lines : List (Bool × CStr)) : Effect Console Halt Unit :=
  Effect.forEach (fun l => sdProvisionHandleLine target l.1 l.2) lines

/-! ## Terminated configurations -/

/-- Every string field holds a zero octet. -/
structure SdConfig.Terminated (cfg : SdConfig) : Prop where
  wifiSsid : 0 ∈ cfg.wifiSsid.bytes
  wifiPassword : 0 ∈ cfg.wifiPassword.bytes
  serverHost : 0 ∈ cfg.serverHost.bytes
  deviceName : 0 ∈ cfg.deviceName.bytes

lemma Buffer.Sealed.mem {n : ℕ} {b : Buffer (n + 1)} (h : b.Sealed) : 0 ∈ b.bytes :=
  List.mem_of_getElem? h

lemma SdConfig.Sealed.terminated {cfg : SdConfig} (h : cfg.Sealed) : cfg.Terminated :=
  ⟨h.wifiSsid.mem, h.wifiPassword.mem, h.serverHost.mem, h.deviceName.mem⟩

lemma zero_mem_put {n : ℕ} (b : Buffer n) (value : Bytes) (h : (value ++ [0]).length ≤ n) :
    0 ∈ (b.put (value ++ [0]) h).bytes := by
  simp [Buffer.put, overlay]

lemma SdConfig.Terminated.setField {target : Target} {cfg cfg' : SdConfig} {key value : Bytes}
    (h : cfg.Terminated) (hset : sdConfigSetField target cfg key value = .ok cfg') : cfg'.Terminated := by
  rcases sdConfigSetField_cases hset with ⟨-, b, ⟨hfit, rfl⟩, rfl⟩ | ⟨-, b, ⟨hfit, rfl⟩, rfl⟩ |
    ⟨-, b, ⟨hfit, rfl⟩, rfl⟩ | ⟨-, b, ⟨hfit, rfl⟩, rfl⟩ | ⟨-, port, rfl⟩
  · exact { h with deviceName := zero_mem_put _ _ hfit }
  · exact { h with wifiSsid := zero_mem_put _ _ hfit }
  · exact { h with wifiPassword := zero_mem_put _ _ hfit }
  · exact { h with serverHost := zero_mem_put _ _ hfit }
  · exact { h with }

/-- A C string that ends inside an array does not depend on what lies behind it. -/
lemma cstring_append_of_mem {a : Bytes} (h : 0 ∈ a) (rest : Bytes) : cstring (a ++ rest) = cstring a := by
  obtain ⟨t, junk, ht, rfl⟩ := exists_cstring h
  rw [List.append_assoc, List.cons_append, cstring_append ht, cstring_append ht]

lemma exists_cstring_of_mem {a : Bytes} (h : 0 ∈ a) : ∃ s, cstring a = some s := by
  rw [cstring, if_pos h]
  exact ⟨_, rfl⟩

/-! ## What a line does -/

/-- A computation that emits lines and leaves session and store alone. -/
def Emits (x : Effect Console Halt Unit) : Prop :=
  ∀ s, ∃ lines, x.run s = (.ok (), { s with out := s.out ++ lines })

lemma emits_emit (line : Bytes) : Emits (emit line) := fun _ => ⟨[line], rfl⟩

lemma Emits.bind {x y : Effect Console Halt Unit} (hx : Emits x) (hy : Emits y) : Emits (x >>= fun _ => y) := by
  intro s
  obtain ⟨l, hl⟩ := hx s
  obtain ⟨m, hm⟩ := hy { s with out := s.out ++ l }
  exact ⟨l ++ m, by rw [Effect.run_bind_ok hl, hm, List.append_assoc]⟩

lemma emits_emitf (key : String) {value : Bytes} (h : 0 ∈ value) : Emits (emitf key value) := by
  obtain ⟨s, hs⟩ := exists_cstring_of_mem h
  rw [emitf, hs]
  exact emits_emit _

lemma emits_cmdHelp : Emits cmdHelp :=
  (emits_emit _).bind <| (emits_emit _).bind <| (emits_emit _).bind <| (emits_emit _).bind <|
    (emits_emit _).bind <| (emits_emit _).bind <| (emits_emit _).bind (emits_emit _)

lemma SdConfig.Terminated.pointers {cfg : SdConfig} (h : cfg.Terminated) : 0 ∈ cfg.atDeviceName ∧
    0 ∈ cfg.atWifiSsid ∧ 0 ∈ cfg.atWifiPassword ∧ 0 ∈ cfg.atServerHost :=
  ⟨List.mem_append_left _ h.deviceName, List.mem_append_left _ h.wifiSsid,
    List.mem_append_left _ h.wifiPassword, List.mem_append_left _ h.serverHost⟩

lemma emits_cmdShow {cfg : SdConfig} (h : cfg.Terminated) : Emits (cmdShow cfg) := by
  have hliteral : ∀ s, 0 ∈ literal s := fun s => by simp [literal]
  obtain ⟨hname, hssid, -, hhost⟩ := h.pointers
  refine Emits.bind (emits_emitf _ hname) (Emits.bind (emits_emitf _ ?_) (Emits.bind (emits_emitf _ ?_)
    (Emits.bind (emits_emitf _ ?_) (emits_emitf _ (by simp)))))
  · split_ifs
    · exact hssid
    · exact hliteral _
  · split_ifs <;> exact hliteral _
  · split_ifs
    · exact hhost
    · exact hliteral _

lemma getField_defined {cfg : SdConfig} (h : cfg.Terminated) (key : Bytes) (cap : ℕ) :
    sdConfigGetField cfg key cap ≠ .error .undefined := by
  have print : ∀ {v : Bytes}, 0 ∈ v → printField v cap ≠ .error .undefined := by
    intro v hv
    obtain ⟨s, hs⟩ := exists_cstring_of_mem hv
    rw [printField, hs]
    simp
  obtain ⟨hname, hssid, hpass, hhost⟩ := h.pointers
  rw [sdConfigGetField]
  split_ifs
  · exact print hname
  · exact print hssid
  · exact print hpass
  · exact print hhost
  · simp
  · simp

lemma emits_cmdGet {cfg : SdConfig} (h : cfg.Terminated) (p : Bytes) : Emits (cmdGet cfg p) := by
  rw [cmdGet]
  cases (nextToken p).1 with
  | none => exact emits_emit _
  | some key =>
      simp only
      by_cases hkey : key = ascii "wifi_password"
      · rw [if_pos hkey]
        exact emits_emit _
      · rw [if_neg hkey]
        rcases hfield : sdConfigGetField cfg key 128 with (e | _) | value
        · exact emits_emit _
        · exact absurd hfield (getField_defined h key 128)
        · exact emits_emit _

lemma cmdSet_cases (target : Target) (cfg : SdConfig) (p : Bytes) : Emits (cmdSet target cfg p) ∨
    ∃ key value cfg' line, sdConfigSetField target cfg key value = .ok cfg' ∧
      cmdSet target cfg p = (do
        change cfg'
        emit line) := by
  rw [cmdSet]
  cases (nextToken p).1 with
  | none => exact Or.inl (emits_emit _)
  | some key =>
      simp only
      by_cases hvalue : (nextToken p).2.dropWhile isTab = []
      · rw [if_pos hvalue]
        exact Or.inl (emits_emit _)
      · rw [if_neg hvalue]
        cases hset : sdConfigSetField target cfg key ((nextToken p).2.dropWhile isTab) with
        | error e => exact Or.inl (emits_emit _)
        | ok cfg' =>
            by_cases hkey : key = ascii "wifi_password"
            · exact Or.inr ⟨key, _, cfg', _, hset, by simp only [if_pos hkey]; rfl⟩
            · exact Or.inr ⟨key, _, cfg', _, hset, by simp only [if_neg hkey]; rfl⟩

/-- What a line can do: nothing but emit, or change the configuration, or save it. -/
inductive LineEffect (target : Target) (writes saves : Bool) (s s' : Console) : Prop
  | emitted (cfg : s'.cfg = s.cfg) (dirty : s'.dirty = s.dirty) (stored : s'.stored = s.stored)
      (unsaved : writes = false ∨ saves = false)
  | changed (key value : Bytes) (cfg : sdConfigSetField target s.cfg key value = .ok s'.cfg)
      (dirty : s'.dirty = true) (stored : s'.stored = s.stored) (unsaved : saves = false)
  | reset (cfg : s'.cfg = sdConfigDefaults) (dirty : s'.dirty = true) (stored : s'.stored = s.stored)
      (unsaved : saves = false)
  | saved (cfg : s'.cfg = s.cfg) (dirty : s'.dirty = false) (stored : s'.stored = configBlob s.cfg)
      (saved : writes = true ∧ saves = true)

/-- The command of the line is `save`. -/
def isSave (line : Bytes) : Bool := (nextToken (trimmed line)).1 = some (ascii "save")

lemma Emits.lineEffect {x : Effect Console Halt Unit} (h : Emits x) (target : Target) {writes saves : Bool}
    (hno : writes = false ∨ saves = false) (s : Console) :
    ∃ s', x.run s = (.ok (), s') ∧ LineEffect target writes saves s s' := by
  obtain ⟨lines, hrun⟩ := h s
  exact ⟨_, hrun, .emitted rfl rfl rfl hno⟩

/-- Only `set`, `save` and `reset` do more than emit. -/
lemma emits_dispatch (target : Target) (writes : Bool) {line : Bytes} {cfg : SdConfig} (h : cfg.Terminated)
    (hset : (nextToken (trimmed line)).1 ≠ some (ascii "set"))
    (hsave : (nextToken (trimmed line)).1 ≠ some (ascii "save"))
    (hreset : (nextToken (trimmed line)).1 ≠ some (ascii "reset")) :
    Emits (dispatch target writes line cfg) := by
  rw [dispatch]
  cases hcmd : (nextToken (trimmed line)).1 with
  | none => exact fun s => ⟨[], by rw [List.append_nil]; rfl⟩
  | some cmd =>
      rw [hcmd, Ne, Option.some.injEq] at hset hsave hreset
      simp only [if_neg hset, if_neg hsave, if_neg hreset]
      split_ifs
      · exact emits_cmdHelp
      · exact emits_cmdShow h
      · exact emits_cmdGet h _
      · exact emits_emit _

lemma dispatch_set {target : Target} {writes : Bool} {line p : Bytes}
    (h : nextToken (trimmed line) = (some (ascii "set"), p)) (cfg : SdConfig) :
    dispatch target writes line cfg = cmdSet target cfg p := by
  simp only [dispatch, h]
  rw [if_neg (by decide), if_neg (by decide), if_neg (by decide), if_pos trivial]

lemma dispatch_save {target : Target} {writes : Bool} {line : Bytes}
    (h : (nextToken (trimmed line)).1 = some (ascii "save")) (cfg : SdConfig) :
    dispatch target writes line cfg = cmdSave writes cfg := by
  simp only [dispatch, h]
  rw [if_neg (by decide), if_neg (by decide), if_neg (by decide), if_neg (by decide), if_pos trivial]

lemma dispatch_reset {target : Target} {writes : Bool} {line : Bytes}
    (h : (nextToken (trimmed line)).1 = some (ascii "reset")) (cfg : SdConfig) :
    dispatch target writes line cfg = cmdReset := by
  simp only [dispatch, h]
  rw [if_neg (by decide), if_neg (by decide), if_neg (by decide), if_neg (by decide), if_neg (by decide),
    if_pos trivial]

/-- **What a line does** to a session whose strings are terminated: it returns `SD_OK`, and has one of four
effects. -/
theorem handleLine_cases (target : Target) (writes : Bool) (line : CStr) {s : Console}
    (h : s.cfg.Terminated) : ∃ s', (sdProvisionHandleLine target writes line).run s = (.ok (), s') ∧
      LineEffect target writes (isSave line.bytes) s s' := by
  simp only [sdProvisionHandleLine]
  by_cases hset : (nextToken (trimmed line.bytes)).1 = some (ascii "set")
  · have hno : isSave line.bytes = false := by
      rw [isSave, hset]
      decide
    rw [dispatch_set (Prod.ext hset rfl)]
    rcases cmdSet_cases target s.cfg (nextToken (trimmed line.bytes)).2
      with hemits | ⟨key, value, cfg', reply, hok, heq⟩
    · exact hemits.lineEffect target (Or.inr hno) s
    · rw [heq]
      exact ⟨_, rfl, .changed key value hok rfl rfl hno⟩
  by_cases hsave : (nextToken (trimmed line.bytes)).1 = some (ascii "save")
  · rw [dispatch_save hsave, cmdSave]
    cases writes with
    | false => exact (emits_emit _).lineEffect target (Or.inl rfl) s
    | true => exact ⟨_, rfl, .saved rfl rfl rfl ⟨rfl, by rw [isSave, hsave]; decide⟩⟩
  have hno : isSave line.bytes = false := by
    rw [isSave]
    exact decide_eq_false hsave
  by_cases hreset : (nextToken (trimmed line.bytes)).1 = some (ascii "reset")
  · rw [dispatch_reset hreset]
    exact ⟨_, rfl, .reset rfl rfl rfl hno⟩
  exact (emits_dispatch target writes h hset hsave hreset).lineEffect target (Or.inr hno) s

/-! ## What is stored -/

/-- The string fields are sealed, and a clean session holds what is stored. -/
structure Console.Consistent (s : Console) : Prop where
  sealed : s.cfg.Sealed
  clean : s.dirty = false → sdConfigLoad (sdConfigStoreRead s.stored blobBytes) = (.ok (), s.cfg)

lemma consistent_init (stored : Bytes) : (sdProvisionInit stored).Consistent where
  sealed := sealed_load _
  clean _ := by
    have hread : (sdConfigLoad (sdConfigStoreRead stored blobBytes)).1 = .ok () := by
      rw [sdConfigStoreRead]
      split_ifs
      · rfl
      · simp only [sdConfigLoad]
        split_ifs <;> rfl
    exact Prod.ext hread rfl

/-- **One line keeps the invariant.** -/
lemma Console.Consistent.step {target : Target} {writes saves : Bool} {s s' : Console} (h : s.Consistent)
    (hstep : LineEffect target writes saves s s') : s'.Consistent := by
  cases hstep with
  | emitted hcfg hdirty hstored =>
      refine ⟨hcfg ▸ h.sealed, fun hclean => ?_⟩
      rw [hstored, hcfg]
      exact h.clean (hdirty ▸ hclean)
  | changed key value hcfg hdirty =>
      exact ⟨h.sealed.setField hcfg, fun hclean => absurd (hdirty.symm.trans hclean) (by decide)⟩
  | reset hcfg hdirty =>
      exact ⟨hcfg ▸ SdConfig.sealed_defaults, fun hclean => absurd (hdirty.symm.trans hclean) (by decide)⟩
  | saved hcfg hdirty hstored =>
      refine ⟨hcfg ▸ h.sealed, fun _ => ?_⟩
      rw [hstored, hcfg]
      exact load_saved h.sealed

/-- The store is what the last successful save left there. -/
lemma LineEffect.stored_eq {target : Target} {writes saves : Bool} {s s' : Console}
    (h : LineEffect target writes saves s s') :
    s'.stored = if writes = true ∧ saves = true then configBlob s.cfg else s.stored := by
  cases h with
  | emitted _ _ hstored hno =>
      rw [if_neg (by rintro ⟨rfl, rfl⟩; simp at hno), hstored]
  | changed _ _ _ _ hstored hno => rw [if_neg (by rintro ⟨-, rfl⟩; simp at hno), hstored]
  | reset _ _ hstored hno => rw [if_neg (by rintro ⟨-, rfl⟩; simp at hno), hstored]
  | saved _ _ hstored hyes => rw [if_pos hyes, hstored]

lemma run_handleLines_cons {target : Target} {l : Bool × CStr} {s s' : Console}
    (h : (sdProvisionHandleLine target l.1 l.2).run s = (.ok (), s')) (lines : List (Bool × CStr)) :
    (handleLines target (l :: lines)).run s = (handleLines target lines).run s' :=
  Effect.run_bind_ok h

/-- **Line after line keeps the invariant.** -/
theorem handleLines_consistent (target : Target) (lines : List (Bool × CStr)) {s : Console}
    (h : s.Consistent) : ∃ s', (handleLines target lines).run s = (.ok (), s') ∧ s'.Consistent ∧
      ((∀ l ∈ lines, ¬ (l.1 = true ∧ isSave l.2.bytes = true)) → s'.stored = s.stored) := by
  induction lines generalizing s with
  | nil => exact ⟨s, rfl, h, fun _ => rfl⟩
  | cons l lines ih =>
      obtain ⟨s₁, hrun, hstep⟩ := handleLine_cases target l.1 l.2 h.sealed.terminated
      obtain ⟨s₂, hrest, hcons, hstored⟩ := ih (h.step hstep)
      refine ⟨s₂, by rw [run_handleLines_cons hrun, hrest], hcons, ?_⟩
      intro hnone
      rw [List.forall_mem_cons] at hnone
      rw [hstored hnone.2, hstep.stored_eq, if_neg hnone.1]

/-- A list of lines, cut in two. -/
lemma run_handleLines_append {target : Target} {pre post : List (Bool × CStr)} {s s₁ : Console}
    (h : (handleLines target pre).run s = (.ok (), s₁)) :
    (handleLines target (pre ++ post)).run s = (handleLines target post).run s₁ := by
  induction pre generalizing s with
  | nil =>
      rw [← (Prod.mk.inj h).2]
      rfl
  | cons l pre ih =>
      obtain ⟨_, s₂, hl, hpre⟩ := Effect.run_bind_eq_ok.mp h
      rw [List.cons_append, run_handleLines_cons hl]
      exact ih hpre

/-- **A clean session holds what is stored.**  From any stored octets, through any lines and any failures
of the store to write: when the session is not dirty, its configuration is what a load returns, and a fresh
session after a successful save and whatever follows it but another one has the configuration saved. -/
theorem clean_is_saved (target : Target) (stored : Bytes) (lines : List (Bool × CStr)) :
    ∃ s, (handleLines target lines).run (sdProvisionInit stored) = (.ok (), s) ∧
      (s.dirty = false → sdConfigLoad (sdConfigStoreRead s.stored blobBytes) = (.ok (), s.cfg)) ∧
      ∀ pre line post, lines = pre ++ (true, line) :: post → isSave line.bytes = true →
        (∀ l ∈ post, ¬ (l.1 = true ∧ isSave l.2.bytes = true)) →
        ∃ s₁, (handleLines target pre).run (sdProvisionInit stored) = (.ok (), s₁) ∧
          (sdProvisionInit s.stored).cfg = s₁.cfg ∧ (sdProvisionInit s.stored).dirty = false := by
  obtain ⟨s, hrun, hcons, -⟩ := handleLines_consistent target lines (consistent_init stored)
  refine ⟨s, hrun, hcons.clean, ?_⟩
  rintro pre line post rfl hsave hpost
  obtain ⟨s₁, hpre, hcons₁, -⟩ := handleLines_consistent target pre (consistent_init stored)
  obtain ⟨s₂, hline, hstep⟩ := handleLine_cases target true line hcons₁.sealed.terminated
  obtain ⟨s₃, hrest, -, hstored⟩ := handleLines_consistent target post (hcons₁.step hstep)
  have hall : (handleLines target (pre ++ (true, line) :: post)).run (sdProvisionInit stored)
      = (.ok (), s₃) := by
    rw [run_handleLines_append hpre, run_handleLines_cons (l := (true, line)) hline, hrest]
  rw [hrun] at hall
  obtain rfl : s = s₃ := (Prod.mk.inj hall).2
  have hblob : s.stored = configBlob s₁.cfg := by
    rw [hstored hpost, hstep.stored_eq, if_pos ⟨rfl, hsave⟩]
  refine ⟨s₁, hpre, ?_, rfl⟩
  rw [sdProvisionInit, hblob, load_saved hcons₁.sealed]

end Sudonit
