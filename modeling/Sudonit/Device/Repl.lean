import Sudonit.Core.Lines
import Sudonit.Device.SetLine

/-!
# The console over a stream

`sd_provision_repl` reads its input with `fgets` into 256 octets and hands every piece it gets to
`sd_provision_handle_line`.

* `ByLines` — every line of the input as one command, with lines that are too long refused as a whole.
* `run_replLoop` — the loop handles the pieces of the input one after another.
* `Declined` — an over-long line of which the console makes one refusal.
* `one_command_iff` — on which lines the console keeps to `ByLines`.
-/

namespace Sudonit

open Octets CText Lines

/-! ## The loop -/

/-- The string an array holds. -/
def cText (bytes : Bytes) : CStr where
  bytes := bytes.takeWhile (· ≠ 0)
  no_nul := zero_notMem_takeWhile bytes

/-- The newline. -/
def newline : UInt8 := oct '\n'

/-- `sizeof(line)`. -/
def lineSize : ℕ := 256

/-- `fgets`: the piece read and what is left of the input. -/
def fgets (size : ℕ) (input : Bytes) : Option (Bytes × Bytes) :=
  match input with
  | [] => none
  | _ :: _ => some (readLine newline (size - 1) input)

lemma fgets_lt {input : Bytes} {piece rest : Bytes} (h : fgets lineSize input = some (piece, rest)) :
    rest.length < input.length := by
  cases input with
  | nil => simp [fgets] at h
  | cons b input =>
      have hlt : (readLine newline (lineSize - 1) (b :: input)).2.length < (b :: input).length :=
        readLine_lt (by decide) (List.cons_ne_nil b input)
      rw [fgets, Option.some.injEq] at h
      rwa [h] at hlt

/-- The loop of `sd_provision_repl`, with `n` octets read so far: a write to the store succeeds or fails by
when it is tried. -/
def replLoop (target : Target) (writes : ℕ → Bool) (n : ℕ) (input : Bytes) : Effect Console Halt Unit :=
  match _hread : fgets lineSize input with
  | none => pure ()
  | some (line, rest) => do
      sdProvisionHandleLine target (writes n) (cText line)
      replLoop target writes (n + line.length) rest
termination_by input.length
decreasing_by exact fgets_lt _hread

/-- `sudonit provisioning console — type 'help'`. -/
def banner : Bytes := ascii "sudonit provisioning console " ++ [0xE2, 0x80, 0x94] ++ ascii " type 'help'"

/-- `sd_provision_repl`.  The stream gets every line emitted, with a newline behind it. -/
def sdProvisionRepl (target : Target) (writes : ℕ → Bool) (input : Bytes) : Effect Console Halt Unit := do
  emit banner
  replLoop target writes 0 input

/-! ## Line by line -/

/-- The line fits the console's buffer. -/
def FitsBuffer (line : Bytes) : Prop := (line.takeWhile (· ≠ newline)).length ≤ 255

instance (line : Bytes) : Decidable (FitsBuffer line) := inferInstanceAs (Decidable (_ ≤ _))

/-- The line as one command: carried out as a whole, or refused as a whole. -/
def OneCommand (target : Target) (writes : Bool) (line : Bytes) (s s' : Console) : Prop :=
  if FitsBuffer line then (sdProvisionHandleLine target writes (cText line)).run s = (.ok (), s')
  else Refused s s'

/-- Line after line as one command. -/
inductive ByLines (target : Target) (writes : ℕ → Bool) : ℕ → List Bytes → Console → Console → Prop
  | done (n : ℕ) (s : Console) : ByLines target writes n [] s s
  | line {n : ℕ} {line : Bytes} {lines : List Bytes} {s s₁ s' : Console}
      (first : OneCommand target (writes n) line s s₁)
      (rest : ByLines target writes (n + line.length) lines s₁ s') :
      ByLines target writes n (line :: lines) s s'

/-- One over-long line. -/
lemma ByLines.refused {target : Target} {writes : ℕ → Bool} {n : ℕ} {line : Bytes} {s s' : Console}
    (h : ByLines target writes n [line] s s') (hlong : ¬ FitsBuffer line) : Refused s s' := by
  cases h with
  | line hone hdone =>
      cases hdone
      rwa [OneCommand, if_neg hlong] at hone

/-- Whatever is stored and whichever writes succeed, the console ends up with the session and the output of
its lines, each one command. -/
def OneLineOneCommand (target : Target) (input : Bytes) : Prop :=
  ∀ writes stored, ∃ s s',
    (emit banner).run (sdProvisionInit stored) = (.ok (), s) ∧
    (sdProvisionRepl target writes input).run (sdProvisionInit stored) = (.ok (), s') ∧
    ByLines target writes 0 (splitLines newline input) s s'

/-! ## The pieces -/

/-- The pieces, each with whether a write would succeed. -/
def timed (writes : ℕ → Bool) : ℕ → List Bytes → List (Bool × CStr)
  | _, [] => []
  | n, p :: ps => (writes n, cText p) :: timed writes (n + p.length) ps

lemma run_timed_cons {target : Target} {writes : ℕ → Bool} {n : ℕ} {p : Bytes} {s s' : Console}
    (h : (sdProvisionHandleLine target (writes n) (cText p)).run s = (.ok (), s')) (ps : List Bytes) :
    (handleLines target (timed writes n (p :: ps))).run s
      = (handleLines target (timed writes (n + p.length) ps)).run s' :=
  run_handleLines_cons (l := (writes n, cText p)) h _

lemma timed_append (writes : ℕ → Bool) (n : ℕ) (ps qs : List Bytes) :
    timed writes n (ps ++ qs) = timed writes n ps ++ timed writes (n + ps.flatten.length) qs := by
  induction ps generalizing n with
  | nil => rfl
  | cons p ps ih =>
      rw [List.cons_append, timed, timed, ih, List.cons_append, List.flatten_cons, List.length_append,
        Nat.add_assoc]

lemma replLoop_nil (target : Target) (writes : ℕ → Bool) (n : ℕ) : replLoop target writes n [] = pure () := by
  rw [replLoop]
  rfl

lemma replLoop_cons (target : Target) (writes : ℕ → Bool) (n : ℕ) {input : Bytes} (h : input ≠ []) :
    replLoop target writes n input = (do
      sdProvisionHandleLine target (writes n) (cText (readLine newline 255 input).1)
      replLoop target writes (n + (readLine newline 255 input).1.length) (readLine newline 255 input).2) := by
  obtain ⟨b, input, rfl⟩ := List.exists_cons_of_ne_nil h
  conv_lhs => rw [replLoop]
  rfl

/-- **The loop handles piece after piece.** -/
theorem replLoop_eq (target : Target) (writes : ℕ → Bool) (n : ℕ) (input : Bytes) :
    replLoop target writes n input = handleLines target (timed writes n (pieces newline 255 input)) := by
  induction hlen : input.length using Nat.strong_induction_on generalizing n input with
  | _ k ih =>
      by_cases hinput : input = []
      · rw [hinput, replLoop_nil, pieces_nil]
        rfl
      · have hlt : (readLine newline 255 input).2.length < k := hlen ▸ readLine_lt (by decide) hinput
        rw [replLoop_cons target writes n hinput, pieces_cons (by decide) hinput, timed, ih _ hlt _ _ rfl]
        rfl

/-! ## Blank pieces and rejected commands -/

/-- Nothing but blanks. -/
def Blank (piece : Bytes) : Prop := (nextToken (trimmed (cText piece).bytes)).1 = none

instance (piece : Bytes) : Decidable (Blank piece) := inferInstanceAs (Decidable (_ = none))

/-- The commands of the console. -/
def commands : List Bytes := ["help", "show", "get", "set", "save", "reset"].map ascii

/-- The names of the fields. -/
def fieldKeys : List Bytes :=
  ["device_name", "wifi_ssid", "wifi_password", "server_host", "server_port"].map ascii

/-- A command that the console answers with an error, whatever the configuration. -/
inductive Rejected (piece : Bytes) : Prop
  | unknown {cmd p : Bytes} (hp : nextToken (trimmed (cText piece).bytes) = (some cmd, p)) (h : cmd ∉ commands)
  | get {p : Bytes} (hp : nextToken (trimmed (cText piece).bytes) = (some (ascii "get"), p))
      (h : ∀ key ∈ (nextToken p).1, key ∉ fieldKeys)
  | set {p : Bytes} (hp : nextToken (trimmed (cText piece).bytes) = (some (ascii "set"), p))
      (h : ∀ key q, nextToken p = (some key, q) → q.dropWhile isTab ≠ [] →
        ∀ v v', ¬ FieldSet v key (q.dropWhile isTab) v')

/-- All pieces of the line are blank but one, and that one is a rejected command. -/
def Declined (line : Bytes) : Prop :=
  ∃ before piece after, pieces newline 255 line = before ++ piece :: after ∧
    (∀ p ∈ before ++ after, Blank p) ∧ Rejected piece

lemma run_blank (target : Target) (writes : Bool) {piece : Bytes} (h : Blank piece) (s : Console) :
    (sdProvisionHandleLine target writes (cText piece)).run s = (.ok (), s) := by
  simp only [sdProvisionHandleLine, dispatch]
  rw [h]
  rfl

lemma run_blanks (target : Target) (writes : ℕ → Bool) {ps : List Bytes} (h : ∀ p ∈ ps, Blank p) (n : ℕ)
    (s : Console) : (handleLines target (timed writes n ps)).run s = (.ok (), s) := by
  induction ps generalizing n with
  | nil => rfl
  | cons p ps ih =>
      rw [List.forall_mem_cons] at h
      rw [run_timed_cons (run_blank target (writes n) h.1 s), ih h.2]

lemma getField_unknown (cfg : SdConfig) {key : Bytes} (h : key ∉ fieldKeys) (cap : ℕ) :
    sdConfigGetField cfg key cap = .error (.code .invalid) := by
  simp only [fieldKeys, List.map_cons, List.map_nil, List.mem_cons, List.not_mem_nil, or_false, not_or] at h
  rw [sdConfigGetField, if_neg h.1, if_neg h.2.1, if_neg h.2.2.1, if_neg h.2.2.2.1, if_neg h.2.2.2.2]

/-- **A rejected command is refused** in every session. -/
lemma Rejected.refused {piece : Bytes} (h : Rejected piece) (target : Target) (writes : Bool) (s : Console) :
    ∃ s', (sdProvisionHandleLine target writes (cText piece)).run s = (.ok (), s') ∧ Refused s s' := by
  cases h with
  | @unknown cmd p hp hcmd =>
      simp only [commands, List.map_cons, List.map_nil, List.mem_cons, List.not_mem_nil, or_false, not_or] at hcmd
      simp only [sdProvisionHandleLine, dispatch, hp, if_neg hcmd.1, if_neg hcmd.2.1, if_neg hcmd.2.2.1,
        if_neg hcmd.2.2.2.1, if_neg hcmd.2.2.2.2.1, if_neg hcmd.2.2.2.2.2]
      exact ⟨_, rfl, ascii "unknown command (type 'help')", rfl⟩
  | @get p hp hkey =>
      simp only [sdProvisionHandleLine, dispatch, hp]
      rw [if_neg (by decide), if_neg (by decide), if_pos trivial, cmdGet]
      cases hq : (nextToken p).1 with
      | none => exact ⟨_, rfl, ascii "usage: get <key>", rfl⟩
      | some key =>
          have hunknown : key ∉ fieldKeys := hkey key hq
          have hpassword : key ≠ ascii "wifi_password" := by
            rintro rfl
            exact absurd hunknown (by decide)
          simp only [if_neg hpassword, getField_unknown s.cfg hunknown]
          exact ⟨_, rfl, ascii "unknown key", rfl⟩
  | @set p hp hset =>
      obtain ⟨s', hrun, ⟨key, q, hq, hvalue, hto⟩ | ⟨hrefused, -⟩⟩ := set_outcome target writes (cText piece) hp s
      · exact absurd hto.field (hset key q hq hvalue _ _)
      · exact ⟨s', hrun, hrefused⟩

/-- **A declined line is refused as a whole.** -/
lemma Declined.refused {line : Bytes} (h : Declined line) (target : Target) (writes : ℕ → Bool) (n : ℕ)
    (s : Console) : ∃ s', (replLoop target writes n line).run s = (.ok (), s') ∧ Refused s s' := by
  obtain ⟨before, piece, after, hpieces, hblank, hrejected⟩ := h
  rw [List.forall_mem_append] at hblank
  obtain ⟨s', hrun, hrefused⟩ := hrejected.refused target (writes (n + before.flatten.length)) s
  refine ⟨s', ?_, hrefused⟩
  rw [replLoop_eq, hpieces, timed_append, run_handleLines_append (run_blanks target writes hblank.1 n s),
    run_timed_cons hrun, run_blanks target writes hblank.2]

/-! ## Lines that fit -/

/-- What lies behind the room of the buffer is not looked at. -/
lemma trimmed_cText_append {a b : Bytes} (h : a.length = 255) :
    trimmed (cText (a ++ b)).bytes = trimmed (cText a).bytes := by
  have htake : ((a ++ b).takeWhile (· ≠ 0)).take 255 = (a.takeWhile (· ≠ 0)).take 255 := by
    rw [List.takeWhile_append]
    split_ifs with hall
    · have ha : a.takeWhile (· ≠ 0) = a := (List.takeWhile_prefix _).eq_of_length hall
      rw [ha, List.take_append_of_le_length (Nat.le_of_eq h.symm)]
    · rfl
  simp only [trimmed, cText]
  rw [htake]

lemma handleLine_congr (target : Target) (writes : Bool) {l l' : CStr} (h : trimmed l.bytes = trimmed l'.bytes) :
    sdProvisionHandleLine target writes l = sdProvisionHandleLine target writes l' := by
  simp only [sdProvisionHandleLine, dispatch]
  rw [h]

lemma blank_newline : Blank [newline] := by decide

lemma takeWhile_ended {body : Bytes} (h : newline ∉ body) :
    (body ++ [newline]).takeWhile (· ≠ newline) = body := by
  have hbody : body.takeWhile (· ≠ newline) = body :=
    List.takeWhile_eq_self_iff.mpr fun b hb => by simpa using ne_of_mem_of_not_mem hb h
  rw [List.takeWhile_append, if_pos (by rw [hbody]), List.takeWhile_cons_of_neg (by simp), List.append_nil]

lemma takeWhile_last {body : Bytes} (h : newline ∉ body) : body.takeWhile (· ≠ newline) = body :=
  List.takeWhile_eq_self_iff.mpr fun b hb => by simpa using ne_of_mem_of_not_mem hb h

/-- **A line that fits is one command.** -/
lemma replLoop_fits {target : Target} {writes : ℕ → Bool} {n : ℕ} {line : Bytes} (hline : IsLine newline line)
    (hfits : FitsBuffer line) {s s' : Console}
    (hrun : (sdProvisionHandleLine target (writes n) (cText line)).run s = (.ok (), s')) :
    (replLoop target writes n line).run s = (.ok (), s') := by
  rw [replLoop_eq]
  cases hline with
  | @ended body h =>
      rw [FitsBuffer, takeWhile_ended h] at hfits
      rcases Nat.lt_or_eq_of_le hfits with hshort | htight
      · rw [pieces_ended h hshort, run_timed_cons hrun]
        rfl
      · -- The newline is a piece of its own, and blank.
        have hbody : (sdProvisionHandleLine target (writes n) (cText body)).run s = (.ok (), s') := by
          rw [← hrun, handleLine_congr target (writes n) (trimmed_cText_append htight)]
        rw [pieces_tight h htight (by decide), run_timed_cons hbody]
        exact run_blanks target writes (List.forall_mem_singleton.mpr blank_newline) _ s'
  | last h hne =>
      rw [FitsBuffer, takeWhile_last h] at hfits
      rw [pieces_last h hne hfits, run_timed_cons hrun]
      rfl

/-! ## Line after line -/

lemma LineEffect.sealed {target : Target} {writes saves : Bool} {s s' : Console}
    (h : LineEffect target writes saves s s') (hs : s.cfg.Sealed) : s'.cfg.Sealed := by
  cases h with
  | emitted hcfg => exact hcfg ▸ hs
  | changed key value hset => exact hs.setField hset
  | reset hcfg => exact hcfg ▸ SdConfig.sealed_defaults
  | saved hcfg => exact hcfg ▸ hs

/-- **One line**: the console does what one command does. -/
lemma replLoop_line (target : Target) (writes : ℕ → Bool) (n : ℕ) {line : Bytes} (hline : IsLine newline line)
    (hok : FitsBuffer line ∨ Declined line) {s : Console} (hs : s.cfg.Sealed) :
    ∃ s', (replLoop target writes n line).run s = (.ok (), s') ∧ OneCommand target (writes n) line s s' ∧
      s'.cfg.Sealed := by
  by_cases hfits : FitsBuffer line
  · obtain ⟨s', hrun, heffect⟩ := handleLine_cases target (writes n) (cText line) hs.terminated
    exact ⟨s', replLoop_fits hline hfits hrun, by rw [OneCommand, if_pos hfits]; exact hrun, heffect.sealed hs⟩
  · obtain ⟨s', hrun, hrefused⟩ := (hok.resolve_left hfits).refused target writes n s
    refine ⟨s', hrun, by rw [OneCommand, if_neg hfits]; exact hrefused, ?_⟩
    obtain ⟨text, rfl⟩ := hrefused
    exact hs

/-- **Line after line**: the loop does what one command for each line does. -/
theorem replLoop_byLines (target : Target) (writes : ℕ → Bool) (n : ℕ) {input : Bytes}
    (hok : ∀ line ∈ splitLines newline input, FitsBuffer line ∨ Declined line) {s : Console} (hs : s.cfg.Sealed) :
    ∃ s', (replLoop target writes n input).run s = (.ok (), s') ∧
      ByLines target writes n (splitLines newline input) s s' := by
  induction hlen : input.length using Nat.strong_induction_on generalizing n input s with
  | _ k ih =>
      rcases split_cases newline input with rfl | ⟨body, rest, hbody, rfl⟩ | ⟨hbody, hne⟩
      · exact ⟨s, by rw [replLoop_nil]; rfl, ByLines.done n s⟩
      · rw [splitLines_ended hbody] at hok ⊢
        rw [List.forall_mem_cons] at hok
        obtain ⟨s₁, hrun, hone, hs₁⟩ := replLoop_line target writes n (IsLine.ended hbody) hok.1 hs
        have hlt : rest.length < k := by
          rw [← hlen, List.length_append, List.length_cons]
          omega
        obtain ⟨s', hrest, hlines⟩ := ih _ hlt (n + (body ++ [newline]).length) hok.2 hs₁ rfl
        refine ⟨s', ?_, ByLines.line hone hlines⟩
        rw [replLoop_eq] at hrun hrest ⊢
        rw [pieces_line (by decide) hbody, timed_append, run_handleLines_append hrun, pieces_flatten (by decide),
          hrest]
      · rw [splitLines_last hbody hne] at hok ⊢
        obtain ⟨s', hrun, hone, -⟩ := replLoop_line target writes n (IsLine.last hbody hne)
          (hok input (List.mem_singleton_self input)) hs
        exact ⟨s', hrun, ByLines.line hone (ByLines.done _ s')⟩

/-! ## What an over-long line emits -/

/-- A computation that, when it returns, has emitted so many lines at least. -/
def Grows (k : ℕ) (x : Effect Console Halt Unit) : Prop :=
  ∀ s s', x.run s = (.ok (), s') → s.out.length + k ≤ s'.out.length

lemma Grows.mono {j k : ℕ} {x : Effect Console Halt Unit} (h : Grows k x) (hjk : j ≤ k) : Grows j x :=
  fun s s' hrun => (Nat.add_le_add_left hjk _).trans (h s s' hrun)

lemma Grows.bind {j k : ℕ} {x y : Effect Console Halt Unit} (hx : Grows j x) (hy : Grows k y) :
    Grows (j + k) (x >>= fun _ => y) := by
  intro s s'' hrun
  obtain ⟨_, s', hs, hs'⟩ := Effect.run_bind_eq_ok.mp hrun
  have hj := hx s s' hs
  have hk := hy s' s'' hs'
  omega

lemma grows_emit (line : Bytes) : Grows 1 (emit line) := by
  intro s s' hrun
  rw [← (Prod.mk.inj hrun).2, List.length_append]
  exact Nat.le_refl _

lemma grows_emitf (key : String) (value : Bytes) : Grows 1 (emitf key value) := by
  rw [emitf]
  cases cstring value with
  | none =>
      intro s s' hrun
      simp at hrun
  | some value => exact grows_emit _

lemma grows_cmdHelp : Grows 8 cmdHelp :=
  (grows_emit _).bind <| (grows_emit _).bind <| (grows_emit _).bind <| (grows_emit _).bind <|
    (grows_emit _).bind <| (grows_emit _).bind <| (grows_emit _).bind (grows_emit _)

lemma grows_cmdShow (cfg : SdConfig) : Grows 5 (cmdShow cfg) :=
  (grows_emitf _ _).bind <| (grows_emitf _ _).bind <| (grows_emitf _ _).bind <|
    (grows_emitf _ _).bind (grows_emitf _ _)

lemma grows_cmdGet (cfg : SdConfig) (p : Bytes) : Grows 1 (cmdGet cfg p) := by
  rw [cmdGet]
  cases (nextToken p).1 with
  | none => exact grows_emit _
  | some key =>
      simp only
      by_cases hkey : key = ascii "wifi_password"
      · rw [if_pos hkey]
        exact grows_emit _
      · rw [if_neg hkey]
        rcases sdConfigGetField cfg key 128 with (e | _) | value
        · exact grows_emit _
        · intro s s' hrun
          simp at hrun
        · exact grows_emit _

lemma Refused.length_out {s s' : Console} (h : Refused s s') : s'.out.length = s.out.length + 1 := by
  obtain ⟨text, rfl⟩ := h
  exact List.length_append

lemma SetTo.length_out {key value : Bytes} {s s' : Console} (h : SetTo key value s s') :
    s'.out.length = s.out.length + 1 := by
  obtain ⟨text, hout⟩ := h.reply
  rw [hout]
  exact List.length_append

/-- The lines a command emits at least. -/
lemma grows_handleLine (target : Target) (writes : Bool) (line : CStr) {cmd p : Bytes}
    (hp : nextToken (trimmed line.bytes) = (some cmd, p)) :
    Grows (if cmd = ascii "help" then 8 else if cmd = ascii "show" then 5 else 1)
      (sdProvisionHandleLine target writes line) := by
  intro s s' hrun
  by_cases hset : cmd = ascii "set"
  · subst hset
    obtain ⟨s'', hrun', hout⟩ := set_outcome target writes line hp s
    rw [hrun'] at hrun
    obtain rfl : s'' = s' := (Prod.mk.inj hrun).2
    rw [if_neg (by decide), if_neg (by decide)]
    rcases hout with ⟨key, q, -, -, hto⟩ | ⟨hrefused, -⟩
    · exact Nat.le_of_eq hto.length_out.symm
    · exact Nat.le_of_eq hrefused.length_out.symm
  simp only [sdProvisionHandleLine, dispatch, hp, if_neg hset] at hrun
  split_ifs at hrun ⊢ with hhelp hshow hget hsave hreset
  · exact grows_cmdHelp s s' hrun
  · exact grows_cmdShow s.cfg s s' hrun
  · exact grows_cmdGet s.cfg p s s' hrun
  · cases writes with
    | false => exact grows_emit _ s s' hrun
    | true => exact grows_emit _ { s with stored := configBlob s.cfg, dirty := false } s' hrun
  · exact grows_emit _ { s with cfg := sdConfigDefaults, dirty := true } s' hrun
  · exact grows_emit _ s s' hrun

/-- **Every piece that is not blank emits a line.** -/
lemma grows_handleLines (target : Target) (writes : ℕ → Bool) (n : ℕ) (ps : List Bytes) :
    Grows (ps.countP fun p => ¬ Blank p) (handleLines target (timed writes n ps)) := by
  induction ps generalizing n with
  | nil =>
      intro s s' hrun
      rw [← (Prod.mk.inj hrun).2]
      exact Nat.le_refl _
  | cons p ps ih =>
      by_cases hblank : Blank p
      · rw [List.countP_cons_of_neg (by simp [hblank])]
        intro s s' hrun
        rw [run_timed_cons (run_blank target (writes n) hblank s)] at hrun
        exact ih _ s s' hrun
      · rw [List.countP_cons_of_pos (by simp [hblank]), Nat.add_comm]
        rcases hp : nextToken (trimmed (cText p).bytes) with ⟨_ | cmd, rest⟩
        · exact absurd (by rw [Blank, hp]) hblank
        · refine ((grows_handleLine target (writes n) (cText p) hp).mono ?_).bind (ih _)
          split_ifs <;> omega

/-! ## When an over-long line is refused -/

/-- The key and the value of an acceptable set do not depend on the values before. -/
lemma FieldSet.transfer {v v' : ConfigValues} {key value : Bytes} (h : FieldSet v key value v')
    (w : ConfigValues) : ∃ w', FieldSet w key value w' := by
  cases h with
  | deviceName h => exact ⟨_, .deviceName h⟩
  | wifiSsid h => exact ⟨_, .wifiSsid h⟩
  | wifiPassword h => exact ⟨_, .wifiPassword h⟩
  | serverHost h => exact ⟨_, .serverHost h⟩
  | serverPort h => exact ⟨_, .serverPort h⟩

/-- What a `get` prints of a fresh configuration does not look like an error. -/
lemma cmdGet_defaults {p key : Bytes} (hp : (nextToken p).1 = some key) (hkey : key ∈ fieldKeys) :
    ∃ value, cmdGet sdConfigDefaults p = emit value ∧ value.take 7 ≠ ascii "error: " := by
  simp only [fieldKeys, List.map_cons, List.map_nil, List.mem_cons, List.not_mem_nil, or_false] at hkey
  rw [cmdGet, hp]
  rcases hkey with rfl | rfl | rfl | rfl | rfl
  · exact ⟨ascii "sudonit-glasses", rfl, by decide⟩
  · exact ⟨[], rfl, by decide⟩
  · exact ⟨ascii "(unset)", rfl, by decide⟩
  · exact ⟨[], rfl, by decide⟩
  · exact ⟨ascii "8765", rfl, by decide⟩

/-- The one line emitted is an error. -/
lemma Refused.line {s s' : Console} (h : Refused s s') {line : Bytes} (hout : s'.out = s.out ++ [line]) :
    line.take 7 = ascii "error: " := by
  obtain ⟨text, rfl⟩ := h
  have hline : [ascii "error: " ++ text] = [line] := List.append_cancel_left hout
  rw [← (List.cons.inj hline).1]
  rfl

/-- A `get` that a fresh session refuses has no known key. -/
lemma get_refused {p : Bytes} {s s' : Console} (hrun : (cmdGet sdConfigDefaults p).run s = (.ok (), s'))
    (hrefused : Refused s s') : ∀ key ∈ (nextToken p).1, key ∉ fieldKeys := by
  intro key hkey hfield
  obtain ⟨value, hvalue, hno⟩ := cmdGet_defaults hkey hfield
  rw [hvalue] at hrun
  exact hno (hrefused.line ((Prod.mk.inj hrun).2 ▸ rfl))

/-- A `set` that is refused is refused whatever the configuration. -/
lemma set_refused {target : Target} {writes : Bool} {piece p : Bytes} {s s' : Console}
    (hp : nextToken (trimmed (cText piece).bytes) = (some (ascii "set"), p))
    (hrun : (sdProvisionHandleLine target writes (cText piece)).run s = (.ok (), s')) (hrefused : Refused s s') :
    Rejected piece := by
  obtain ⟨s'', hrun', ⟨key, q, -, -, hto⟩ | ⟨-, hno⟩⟩ := set_outcome target writes (cText piece) hp s
  · obtain rfl : s'' = s' := (Prod.mk.inj (hrun'.symm.trans hrun)).2
    obtain ⟨reply, hreply⟩ := hto.reply
    exact absurd (List.cons.inj (hrefused.line hreply)).1 (by decide)
  · refine .set hp ?_
    intro key q hq hvalue v v' hv
    obtain ⟨w, hw⟩ := hv.transfer s.cfg.values
    exact hno key q hq hvalue w hw

/-- **From a fresh session only a rejected command is refused.** -/
lemma rejected_of_refused {target : Target} {writes : Bool} (hwrites : writes = true) {piece : Bytes}
    {s s' : Console} (hcfg : s.cfg = sdConfigDefaults)
    (hrun : (sdProvisionHandleLine target writes (cText piece)).run s = (.ok (), s')) (hrefused : Refused s s') :
    Rejected piece := by
  subst hwrites
  have hlength := hrefused.length_out
  rcases hp : nextToken (trimmed (cText piece).bytes) with ⟨_ | cmd, p⟩
  · rw [run_blank target true (by rw [Blank, hp])] at hrun
    rw [← (Prod.mk.inj hrun).2] at hlength
    omega
  by_cases hset : cmd = ascii "set"
  · exact set_refused (hset ▸ hp) hrun hrefused
  have hgrows := grows_handleLine target true (cText piece) hp s s' hrun
  simp only [sdProvisionHandleLine, dispatch, hp, if_neg hset] at hrun
  split_ifs at hrun hgrows with hhelp hshow hget hsave hreset
  · -- `help` and `show` emit more than one line.
    omega
  · omega
  · subst hget
    exact .get hp (get_refused (hcfg ▸ hrun) hrefused)
  · have hsaved : s'.out = s.out ++ [ascii "ok: saved"] := (Prod.mk.inj hrun).2 ▸ rfl
    exact absurd (hrefused.line hsaved) (by decide)
  · have hreply : s'.out = s.out ++ [ascii "ok: configuration reset to defaults (use 'save' to persist)"] :=
      (Prod.mk.inj hrun).2 ▸ rfl
    exact absurd (hrefused.line hreply) (by decide)
  · refine .unknown hp ?_
    simp only [commands, List.map_cons, List.map_nil, List.mem_cons, List.not_mem_nil, or_false, not_or]
    exact ⟨hhelp, hshow, hget, hset, hsave, hreset⟩

/-- **Pieces that a fresh session answers with one refusal** are blank but for a rejected command. -/
lemma rejected_piece {target : Target} {writes : ℕ → Bool} (hwrites : ∀ n, writes n = true) {n : ℕ}
    {ps : List Bytes} {s s' : Console} (hcfg : s.cfg = sdConfigDefaults)
    (hrun : (handleLines target (timed writes n ps)).run s = (.ok (), s')) (hrefused : Refused s s') :
    ∃ before piece after, ps = before ++ piece :: after ∧ (∀ p ∈ before ++ after, Blank p) ∧ Rejected piece := by
  induction ps generalizing n with
  | nil =>
      have hlength := hrefused.length_out
      rw [← (Prod.mk.inj hrun).2] at hlength
      omega
  | cons p ps ih =>
      by_cases hblank : Blank p
      · rw [run_timed_cons (run_blank target (writes n) hblank s)] at hrun
        obtain ⟨before, piece, after, rfl, hblanks, hrejected⟩ := ih hrun
        exact ⟨p :: before, piece, after, rfl, List.forall_mem_cons.mpr ⟨hblank, hblanks⟩, hrejected⟩
      · -- This piece emits the one line, so the others emit none.
        obtain ⟨_, s₁, hp, hps⟩ := Effect.run_bind_eq_ok.mp hrun
        have hfirst := grows_handleLines target writes n [p] s s₁ (run_timed_cons hp [])
        have hothers := grows_handleLines target writes _ ps s₁ s' hps
        have hlength := hrefused.length_out
        rw [List.countP_singleton, if_pos (by simp [hblank])] at hfirst
        have hnone : ps.countP (fun p => ¬ Blank p) = 0 := by omega
        have hblanks : ∀ p ∈ ps, Blank p := by simpa [List.countP_eq_zero] using hnone
        have hrest := run_blanks target writes hblanks (n + p.length) s₁
        obtain rfl : s₁ = s' := (Prod.mk.inj (hrest.symm.trans hps)).2
        exact ⟨[], p, ps, rfl, hblanks, rejected_of_refused (hwrites n) hcfg hp hrefused⟩

/-- **On which lines the console keeps to one command a line.**  Every stream of lines of a kind gives the session
and the output of its lines, each one command, exactly if every line of that kind fits the buffer or is
declined. -/
theorem one_command_iff (target : Target) (kind : Bytes → Prop) :
    (∀ input, (∀ line ∈ splitLines newline input, kind line) → OneLineOneCommand target input) ↔
      ∀ line, IsLine newline line → kind line → FitsBuffer line ∨ Declined line := by
  constructor
  · intro hall line hline hkind
    have hsplit : splitLines newline line = [line] := hline.splitLines
    obtain ⟨s, s', hs, hrun, hlines⟩ := hall line (by rw [hsplit]; simpa using hkind) (fun _ => true) []
    rw [sdProvisionRepl, Effect.run_bind_ok hs, replLoop_eq] at hrun
    by_cases hfits : FitsBuffer line
    · exact Or.inl hfits
    · right
      refine rejected_piece (fun _ => rfl) ?_ hrun (ByLines.refused (hsplit ▸ hlines) hfits)
      rw [← (Prod.mk.inj hs).2]
      rfl
  · intro hok input hkind writes stored
    obtain ⟨s, hs, hsealed⟩ : ∃ s, (emit banner).run (sdProvisionInit stored) = (.ok (), s) ∧ s.cfg.Sealed :=
      ⟨_, rfl, sealed_load _⟩
    obtain ⟨s', hrun, hlines⟩ := replLoop_byLines target writes 0
      (fun line hline => hok line (isLine_of_mem hline) (hkind line hline)) hsealed
    exact ⟨s, s', hs, by rw [sdProvisionRepl, Effect.run_bind_ok hs]; exact hrun, hlines⟩

/-- A line whose last octets, behind the room of the buffer, are a command. -/
def longReset : Bytes := List.replicate 255 (oct 'x') ++ (ascii "reset" ++ [newline])

lemma longReset_pieces :
    pieces newline 255 longReset = [List.replicate 255 (oct 'x'), ascii "reset" ++ [newline]] := by
  have hbody : newline ∉ List.replicate 255 (oct 'x') := fun h => by
    have hx := (List.mem_replicate.mp h).2
    exact absurd hx (by decide)
  have htail : pieces newline 255 (ascii "reset" ++ [newline]) = [ascii "reset" ++ [newline]] :=
    pieces_ended (by decide) (by decide)
  rw [longReset, pieces_full hbody List.length_replicate (by decide), htail]

lemma longReset_head : Rejected (List.replicate 255 (oct 'x')) := by
  have hp : nextToken (trimmed (cText (List.replicate 255 (oct 'x'))).bytes)
      = (some (List.replicate 255 (oct 'x')), []) := by decide +kernel
  exact .unknown hp (by decide +kernel)

lemma longReset_isLine : IsLine newline longReset := by
  have hbody : newline ∉ List.replicate 255 (oct 'x') ++ ascii "reset" := by decide +kernel
  rw [longReset, ← List.append_assoc]
  exact .ended hbody

/-- **The end of an over-long line is executed**: the configuration is reset. -/
theorem long_line_resets : ∃ s', (sdProvisionRepl .esp32 (fun _ => true) longReset).run (sdProvisionInit [])
    = (.ok (), s') ∧ s'.dirty = true ∧ ¬ OneLineOneCommand .esp32 longReset := by
  obtain ⟨s, hs, hclean⟩ : ∃ s, (emit banner).run (sdProvisionInit []) = (.ok (), s) ∧ s.dirty = false :=
    ⟨_, rfl, rfl⟩
  obtain ⟨s₁, hhead, -⟩ := longReset_head.refused .esp32 true s
  obtain ⟨s', htail, hdirty⟩ : ∃ s',
      (sdProvisionHandleLine .esp32 true (cText (ascii "reset" ++ [newline]))).run s₁ = (.ok (), s') ∧
        s'.dirty = true := by
    have hword : (nextToken (trimmed (cText (ascii "reset" ++ [newline])).bytes)).1 = some (ascii "reset") := by
      decide
    simp only [sdProvisionHandleLine, dispatch_reset hword]
    exact ⟨_, rfl, rfl⟩
  have hrun : (sdProvisionRepl .esp32 (fun _ => true) longReset).run (sdProvisionInit []) = (.ok (), s') := by
    rw [sdProvisionRepl, Effect.run_bind_ok hs, replLoop_eq, longReset_pieces, run_timed_cons hhead,
      run_timed_cons htail]
    rfl
  refine ⟨s', hrun, hdirty, ?_⟩
  intro hall
  obtain ⟨t, t', ht, hrun', hlines⟩ := hall (fun _ => true) []
  obtain rfl : s = t := (Prod.mk.inj (hs.symm.trans ht)).2
  obtain rfl : s' = t' := (Prod.mk.inj (hrun.symm.trans hrun')).2
  have hlong : ¬ FitsBuffer longReset := by decide +kernel
  obtain ⟨text, rfl⟩ := ByLines.refused (longReset_isLine.splitLines ▸ hlines) hlong
  exact absurd (hdirty.symm.trans hclean) (by decide)

end Sudonit
