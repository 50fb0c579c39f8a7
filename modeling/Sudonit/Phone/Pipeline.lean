import Sudonit.Phone.Image
import Sudonit.Phone.Uplink
import Sudonit.Python.Paths

/-!
# `pipeline.py`, `tts.py`: from an image to an artifact

`Pipeline.run` as the server calls it, with the default prompt and without playing: the image is checked and
described, and the description is rendered to a file named after the identifier of the image.  The paths
handed to `TextToSpeech.synthesize` and the paths it writes are recorded.

* `synthesize`, `Pipeline.run` — the source.  `Pipeline.phone` is the phone that runs it.
* `touched_file` — every path recorded is the file the identifier names, or its `.txt` twin beside it.
* `artifacts_inside_iff` — when such a path stays inside the output directory.
-/

namespace Sudonit

open Octets Stream Frames Python Paths Chunks

/-! ## Speech -/

/-- The paths handed to `synthesize` and the paths it writes. -/
structure Artifacts where
  handed : List PurePath
  written : List PurePath

/-- Every path recorded. -/
def Artifacts.touched (a : Artifacts) : List PurePath := a.handed ++ a.written

/-- `TextToSpeech`, and what it finds around it. -/
structure TextToSpeech where
  voice : PyStr
  speedWpm : ℤ
  /-- the speech engine, if `shutil.which` finds one -/
  espeak : Option PyStr
  /-- `path.mkdir(parents=True, exist_ok=True)` -/
  mkdir : PurePath → Except PyExc Unit
  /-- `path.write_text(text, encoding="utf-8")` -/
  writeText : PurePath → PyStr → Except PyExc Unit
  /-- `subprocess.run(args, check=True, capture_output=True)` -/
  subprocess : List PyStr → Except PyExc Unit

/-- `.wav`. -/
def wavSuffix : Suffix := ⟨str ".wav", ⟨cp 'w', str "av", by decide, by decide⟩, by decide⟩

/-- `.txt`. -/
def txtSuffix : Suffix := ⟨str ".txt", ⟨cp 't', str "xt", by decide, by decide⟩, by decide⟩

/-- A file written. -/
def writing (path : PurePath) (result : Except PyExc Unit) : Effect Artifacts PyExc Unit := ⟨fun a =>
  (result, { a with written := a.written ++ [path] })⟩

/-- `TextToSpeech.synthesize`. -/
def synthesize (tts : TextToSpeech) (text : PyStr) (outPath : PurePath) :
    Effect Artifacts PyExc PurePath := do
  Effect.ofExcept (tts.mkdir outPath.parent)
  match tts.espeak with
  | none =>
      match outPath.withSuffix txtSuffix with
      | none => Effect.fail .valueError
      | some fallback => do
          writing fallback (tts.writeText fallback text)
          return fallback
  | some espeak => do
      writing outPath (tts.subprocess [espeak, str "-v", tts.voice, str "-s", ofBytes (intRepr tts.speedWpm),
        str "-w", outPath.toStr, text])
      return outPath

/-! ## The pipeline -/

/-- `AIResult`, as far as the pipeline reads it. -/
structure AiResult where
  text : PyStr
  provider : PyStr
  model : PyStr

/-- A `Pipeline`, with what its clock and its provider say, after the calls it has had. -/
structure Pipeline where
  /-- `provider.analyze_image` -/
  analyzeImage : List RunCall → RunCall → Except PyExc AiResult
  tts : TextToSpeech
  outputDir : PurePath
  latencyMs : List RunCall → ℤ
  /-- `pcm_from_wav` -/
  pcmFromWav : PurePath → Except PyExc Pcm

/-- The message of the exception. -/
def InvalidImage.message : InvalidImage → PyStr
  | .badSignature => str "not a PNG (bad signature)"
  | .missingIhdr => str "PNG missing IHDR chunk"
  | .missingSoi => str "not a JPEG (missing SOI marker)"
  | .badSegmentLength => str "JPEG segment with invalid length"
  | .frameTruncated => str "JPEG frame header truncated"
  | .noFrame => str "JPEG has no Start-Of-Frame marker"
  | .emptyPayload => str "empty image payload"
  | .outOfRange fmt width height =>
      fmt ++ str " dimensions out of range: " ++ ofBytes (decimal width) ++ str "x" ++ ofBytes (decimal height)

/-- `validate_image` on a media type that need not be a string. -/
def checkImage (data : Bytes) : JsonValue → Except InvalidImage Unit
  | .str mediaType => (validateImage data mediaType).map fun _ => ()
  | _ => if data = [] then .error .emptyPayload else .ok ()

namespace Pipeline

/-- The image checked and described. -/
def answer (pipeline : Pipeline) (phone : Phone) (history : List RunCall) (call : RunCall) :
    Except PyExc AiResult :=
  match checkImage call.imageBytes call.mediaType with
  | .ok () => pipeline.analyzeImage history call
  | .error exc => do
      phone.print (str "[pipeline] rejected image '" ++ phone.format call.imageId ++ str "': " ++ exc.message)
      return ⟨str "Sorry, I couldn't read that image.", str "validator", str "invalid-image"⟩

/-- `self.output_dir / f"\x7bimage_id\x7d.wav"`. -/
def wavPath (pipeline : Pipeline) (phone : Phone) (call : RunCall) : PurePath :=
  pipeline.outputDir.joinpath (phone.format call.imageId ++ wavSuffix.text)

/-- The call of `synthesize`. -/
def hand (path : PurePath) : Effect Artifacts PyExc Unit := ⟨fun a =>
  (.ok (), { a with handed := a.handed ++ [path] })⟩

/-- `Pipeline.run`. -/
def run (pipeline : Pipeline) (phone : Phone) (history : List RunCall) (call : RunCall) :
    Effect Artifacts PyExc (AiResult × PurePath × ℤ) := do
  let result ← Effect.ofExcept (pipeline.answer phone history call)
  let wavPath := pipeline.wavPath phone call
  hand wavPath
  let audioPath ← synthesize pipeline.tts result.text wavPath
  return (result, audioPath, pipeline.latencyMs history)

/-- What the server makes of the result: it opens a file whose suffix is `.wav`. -/
def audioFile (pipeline : Pipeline) (audioPath : PurePath) : AudioFile :=
  if audioPath.suffix = str ".wav" then .wav (pipeline.pcmFromWav audioPath) else .other

/-- The phone that runs this pipeline. -/
def phone (pipeline : Pipeline) (around : Phone) : Phone := { around with
  pipelineRun := fun history call =>
    match ((pipeline.run around history call).run ⟨[], []⟩).1 with
    | .error e => .error e
    | .ok (result, audioPath, latencyMs) =>
        .ok ⟨result.text, result.provider, result.model, pipeline.audioFile audioPath, latencyMs⟩ }

/-- The paths recorded in one call. -/
def touched (pipeline : Pipeline) (around : Phone) (history : List RunCall) (call : RunCall) : List PurePath :=
  ((pipeline.run around history call).run ⟨[], []⟩).2.touched

end Pipeline

/-! ## The paths recorded -/

lemma run_writing (path : PurePath) (result : Except PyExc Unit) (a : Artifacts) :
    ((writing path result >>= fun _ => (pure path : Effect Artifacts PyExc PurePath)).run a).2
      = { a with written := a.written ++ [path] } := by
  rw [Effect.run_bind, writing]
  cases result <;> rfl

/-- `synthesize` hands nothing on. -/
lemma synthesize_handed (tts : TextToSpeech) (text : PyStr) (outPath : PurePath) (a : Artifacts) :
    ((synthesize tts text outPath).run a).2.handed = a.handed := by
  rw [synthesize, Effect.run_ofExcept_bind]
  cases tts.mkdir outPath.parent with
  | error e => rfl
  | ok _ =>
      cases tts.espeak with
      | some espeak => rw [run_writing]
      | none =>
          cases outPath.withSuffix txtSuffix with
          | none => rfl
          | some fallback => rw [run_writing]

/-- What `synthesize` writes is the path it is handed, or the path with the other suffix. -/
lemma synthesize_written {tts : TextToSpeech} {text : PyStr} {outPath : PurePath} {a : Artifacts}
    {path : PurePath} (h : path ∈ ((synthesize tts text outPath).run a).2.touched) :
    path ∈ a.touched ∨ path = outPath ∨ outPath.withSuffix txtSuffix = some path := by
  have written : ∀ {q : PurePath} {result : Except PyExc Unit},
      path ∈ ((writing q result >>= fun _ => (pure q : Effect Artifacts PyExc PurePath)).run a).2.touched →
      path ∈ a.touched ∨ path = q := by
    intro q result hmem
    rw [run_writing, Artifacts.touched, ← List.append_assoc, List.mem_append, List.mem_singleton] at hmem
    exact hmem
  rw [synthesize, Effect.run_ofExcept_bind] at h
  cases hmkdir : tts.mkdir outPath.parent with
  | error e => exact Or.inl (by simpa [hmkdir] using h)
  | ok _ =>
      simp only [hmkdir] at h
      cases hespeak : tts.espeak with
      | some espeak =>
          simp only [hespeak] at h
          exact (written h).imp_right Or.inl
      | none =>
          simp only [hespeak] at h
          cases hfallback : outPath.withSuffix txtSuffix with
          | none => exact Or.inl (by simpa [hfallback] using h)
          | some fallback =>
              simp only [hfallback] at h
              exact (written h).imp_right fun heq => Or.inr (by rw [heq])

/-- What a call records, once it has its answer. -/
lemma touched_answer {pipeline : Pipeline} {around : Phone} {history : List RunCall} {call : RunCall}
    {result : AiResult} (h : pipeline.answer around history call = .ok result) :
    pipeline.touched around history call = ((synthesize pipeline.tts result.text
      (pipeline.wavPath around call)).run ⟨[pipeline.wavPath around call], []⟩).2.touched := by
  rw [Pipeline.touched, Pipeline.run, Effect.run_ofExcept_bind, h]
  simp only [Effect.run_bind, Pipeline.hand, List.nil_append]
  rcases (synthesize pipeline.tts result.text (pipeline.wavPath around call)).run
    ⟨[pipeline.wavPath around call], []⟩ with ⟨e | audioPath, a⟩ <;> rfl

/-- Unless its answer fails, a call hands over the file named by the identifier. -/
lemma wavPath_touched {pipeline : Pipeline} {around : Phone} {history : List RunCall} {call : RunCall}
    {result : AiResult} (h : pipeline.answer around history call = .ok result) :
    pipeline.wavPath around call ∈ pipeline.touched around history call := by
  rw [touched_answer h, Artifacts.touched, synthesize_handed]
  exact List.mem_append_left _ (List.mem_singleton_self _)

/-- Every path recorded in a call is the file named by the identifier, or that name with the other suffix. -/
lemma touched_cases {pipeline : Pipeline} {around : Phone} {history : List RunCall} {call : RunCall}
    {path : PurePath} (h : path ∈ pipeline.touched around history call) :
    path = pipeline.wavPath around call ∨ (pipeline.wavPath around call).withSuffix txtSuffix = some path := by
  cases hanswer : pipeline.answer around history call with
  | error e =>
      rw [Pipeline.touched, Pipeline.run, Effect.run_ofExcept_bind, hanswer] at h
      simp [Artifacts.touched] at h
  | ok result =>
      rw [touched_answer hanswer] at h
      rcases synthesize_written h with hhanded | heq | hfallback
      · exact Or.inl (by simpa [Artifacts.touched] using hhanded)
      · exact Or.inl heq
      · exact Or.inr hfallback

/-- **Every path recorded is a file in the directory the identifier leads to.** -/
theorem touched_file {pipeline : Pipeline} {around : Phone} {history : List RunCall} {call : RunCall}
    {id : PyStr} (hid : call.imageId = .str id) {path : PurePath}
    (h : path ∈ pipeline.touched around history call) (cwd : List PyStr) :
    ∃ file, path.resolve cwd
      = walk (if id.head? = some sep then [] else pipeline.outputDir.resolve cwd) (PurePath.directories id)
        ++ [file] := by
  obtain ⟨⟨file, hname, hup⟩, hparent⟩ := PurePath.resolve_joinpath pipeline.outputDir id wavSuffix cwd
  have hwav : pipeline.wavPath around call = pipeline.outputDir.joinpath (id ++ wavSuffix.text) := by
    rw [Pipeline.wavPath, hid, around.format_str]
  rw [← hwav] at hname hparent
  rcases touched_cases h with rfl | htxt
  · exact ⟨file, by rw [PurePath.resolve_file hname hup, hparent]⟩
  · obtain ⟨hsame, name, hname', hup'⟩ := PurePath.withSuffix_file htxt
    exact ⟨name, by rw [PurePath.resolve_file hname' hup', hsame, hparent]⟩

/-! ## Inside the output directory -/

/-- The path leads to a file in that directory, at some depth. -/
def Inside (cwd : List PyStr) (dir path : PurePath) : Prop :=
  ∃ rest, rest ≠ [] ∧ path.resolve cwd = dir.resolve cwd ++ rest

/-- The directories of the identifier come back to the output directory: with every `..` cancelled against the
name before it, the names that are left lead down again through as many directories as were climbed, all of
them if the identifier is absolute. -/
def ComesBack (outputDir : List PyStr) (id : PyStr) : Prop :=
  (if id.head? = some sep then outputDir
    else outputDir.drop (outputDir.length - (climb (PurePath.directories id)).1))
  <+: (climb (PurePath.directories id)).2

instance (outputDir : List PyStr) (id : PyStr) : Decidable (ComesBack outputDir id) :=
  inferInstanceAs (Decidable (_ <+: _))

/-- A file is inside the output directory exactly if its directory is the output directory or below it. -/
lemma inside_iff {cwd place : List PyStr} {dir path : PurePath} {file : PyStr}
    (h : path.resolve cwd = place ++ [file]) : Inside cwd dir path ↔ Under (dir.resolve cwd) place := by
  rw [Inside, h]
  constructor
  · rintro ⟨rest, hrest, heq⟩
    have hne : dir.resolve cwd ≠ place ++ [file] := by
      rw [heq]
      simpa using hrest
    exact (under_append_singleton hne).mp ⟨rest, heq.symm⟩
  · rintro ⟨rest, rfl⟩
    exact ⟨rest ++ [file], by simp, List.append_assoc _ _ _⟩

/-- An identifier without `..` that is not absolute comes back. -/
lemma comesBack_of_plain {id : PyStr} (hrelative : id.head? ≠ some sep)
    (hplain : str ".." ∉ (id.splitOn sep).dropLast) (outputDir : List PyStr) : ComesBack outputDir id := by
  have hdown : PurePath.directories id = (kept (id.splitOn sep).dropLast).map .down := by
    refine List.map_congr_left fun part hpart => if_neg ?_
    rintro rfl
    exact hplain (List.mem_of_mem_filter hpart)
  rw [ComesBack, if_neg hrelative, hdown, climb_down, Nat.sub_zero, List.drop_length]
  exact List.nil_prefix

/-- **When the artifacts of an image stay inside the output directory.**  For every pipeline, every connection
and every call made on it: the call is for an image whose transfer was completed, under the identifier its
`image_begin` gave; once it has its answer it hands a path to `synthesize`; and a path handed over or written is
inside the output directory exactly if the directories of the identifier come back to it. -/
theorem artifacts_inside_iff (pipeline : Pipeline) (around : Phone) (cwd : List PyStr) (conn : Inbound)
    (s : Served) :
    ∃ calls, (handleConnection (pipeline.phone around) conn s).2.runs = s.runs ++ calls ∧
      ∀ past call later, calls = past ++ call :: later →
        (∃ i, CalledAt (pipeline.phone around) (drain recvFrame.run conn).1 i call) ∧
        (∀ result, pipeline.answer around (s.runs ++ past) call = .ok result →
          pipeline.wavPath around call ∈ pipeline.touched around (s.runs ++ past) call) ∧
        ∀ id, call.imageId = .str id → ∀ path ∈ pipeline.touched around (s.runs ++ past) call,
          (Inside cwd pipeline.outputDir path ↔ ComesBack (pipeline.outputDir.resolve cwd) id) := by
  obtain ⟨calls, positions, hruns, -, hcalled⟩ := handleConnection_runs (pipeline.phone around) conn s
  refine ⟨calls, hruns, ?_⟩
  rintro past call later rfl
  refine ⟨?_, fun result hanswer => wavPath_touched hanswer, ?_⟩
  · obtain ⟨i, -, hi, -, -⟩ := List.forall₂_cons_right_iff.mp (List.forall₂_drop_append _ _ _ hcalled)
    exact ⟨i, hi⟩
  · intro id hid path hpath
    obtain ⟨file, hfile⟩ := touched_file hid hpath cwd
    rw [inside_iff hfile, ComesBack]
    split_ifs
    · rw [Under, walk_eq_climb, List.take_nil, List.nil_append]
    · exact under_walk_iff _ _

/-- A pipeline on a phone without a speech engine, with the output directory it has by default. -/
def deskPipeline : Pipeline where
  analyzeImage _ _ := .ok ⟨str "a cup", str "mock", str "mock"⟩
  tts := ⟨str "en", 165, none, fun _ => .ok (), fun _ _ => .ok (), fun _ => .ok ()⟩
  outputDir := PurePath.ofStr (str "run")
  latencyMs _ := 3
  pcmFromWav _ := .error .osError

/-- An image under an identifier that climbs. -/
def evilCall : RunCall := uplinkCall (ascii "../evil") (ascii "image/x-mock-rgb") (ascii "ab")

/-- A connection with its transfer. -/
def evilConn : Inbound :=
  .cut (wire (sdImageFrames (ascii "../evil") (ascii "ab") (ascii "image/x-mock-rgb"))) []

lemma evilConn_runs (phone : Phone) : (handleConnection phone evilConn ⟨.fresh [], []⟩).2.runs = [evilCall] := by
  obtain ⟨t', hsend⟩ := @sdMsgSendImage_short .host ⟨ascii "../evil", by decide⟩
    ⟨ascii "image/x-mock-rgb", by decide⟩ ⟨ascii "ab", by decide⟩ (by decide) (by decide)
  have hid : AllBare (ascii "../evil") := by decide
  have hmt : AllBare (ascii "image/x-mock-rgb") := by decide
  have hcount : chunkCount (ascii "ab").length chunkSize < 2 ^ 32 := by decide
  have hbytes : evilConn.bytes
      = wire (sdImageFrames (ascii "../evil") (ascii "ab") (ascii "image/x-mock-rgb")) := rfl
  exact sdImageFrames_received hid hmt hcount (sdMsgSendImage_ok hsend).2 (Inbound.steady_cut _ _) hbytes _

/-- **An artifact outside the output directory.**  The transfer of an image under the identifier `../evil` is
accepted and completes; the path handed to `synthesize` and the file it writes lie beside the output
directory. -/
theorem artifact_escapes :
    (handleConnection (deskPipeline.phone deskPhone) evilConn ⟨.fresh [], []⟩).2.runs = [evilCall] ∧
      evilCall.imageId = .str (str "../evil") ∧
      (deskPipeline.touched deskPhone [] evilCall).map PurePath.toStr
        = [str "run/../evil.wav", str "run/../evil.txt"] ∧
      ∀ path ∈ deskPipeline.touched deskPhone [] evilCall, ¬ Inside [str "srv"] deskPipeline.outputDir path := by
  refine ⟨evilConn_runs _, rfl, by decide, ?_⟩
  intro path hpath
  have hid : evilCall.imageId = .str (str "../evil") := rfl
  obtain ⟨file, hfile⟩ := touched_file hid hpath [str "srv"]
  rw [inside_iff hfile]
  have hplace : walk (deskPipeline.outputDir.resolve [str "srv"]) (PurePath.directories (str "../evil"))
      = [str "srv"] := by decide
  rw [if_neg (by decide), hplace, Under]
  decide

end Sudonit
