import ZeffBoy.Library.Pipeline
import ZeffBoy.Patching.Ppf

/-! The mods of a ROM. The enabled ones are applied in their order; one that fails is reported and passed over.
Only an IPS patch can leave a trace when it fails. -/
namespace ZeffBoy.Patching
open Library List

structure ModEntry where
  filename : String
  enabled : Bool

inductive ModApplicationOutcome
  | applied
  | failed (error : String)

structure ModApplicationStep where
  filename : String
  format : String
  patchSha256 : Option String
  inputSha256 : String
  inputLen : Nat
  outputSha256 : String
  outputLen : Nat
  outcome : ModApplicationOutcome

structure ModApplicationReport where
  warnings : List String
  steps : List ModApplicationStep

/-- What the pipeline takes from its surroundings: the files of the mod directory and the digest. -/
structure Host extends Codecs where
  read : String → Except String Bytes
  sha256Hex : Bytes → String

def fileName (path : List Char) : Option (List Char) :=
  match ((path.splitOn '/').filter fun part => part ≠ [] ∧ part ≠ ['.']).getLast? with
  | some last => if last = ['.','.'] then none else some last
  | none => none

def extension (path : List Char) : Option (List Char) := do
  let name ← fileName path
  match (name.splitOn '.').reverse with
  | last::front::rest => if front = [] ∧ rest = [] then none else some last
  | _ => none

def patchFormat (filename : String) : String :=
  match (extension filename.toList).map fun letters => String.ofList (letters.map Char.toLower) with
  | some "bps" => "bps"
  | some "ups" => "ups"
  | some "ppf" => "ppf"
  | some "xdelta" => "xdelta"
  | some "xdelta3" => "xdelta3"
  | some "vcdiff" => "vcdiff"
  | _ => "ips"

example : patchFormat "hacks/v1.0.UPS" = "ups" := by decide

-- A decoder that makes a new image replaces the image only when it succeeds.
def replaced (rom : Bytes) : Except String Bytes → Call Bytes Unit
  | .ok new => (.ok (),new)
  | .error error => (.error error,rom)

namespace Host

variable (host : Host)

def applyPatch (format : String) (rom patch : Bytes) : Call Bytes Unit :=
  match format with
  | "bps" => replaced rom (applyBpsPatch host.toCodecs rom patch)
  | "ups" => replaced rom (applyUpsPatch host.toCodecs rom patch)
  | "ppf" => applyPpfPatch rom patch
  | "xdelta" | "xdelta3" | "vcdiff" => replaced rom (applyXdeltaPatch host.toCodecs rom patch)
  | _ => applyIpsPatch rom patch

def patchImage (entry : ModEntry) (rom : Bytes) : Call Bytes Unit :=
  match host.read entry.filename with
  | .ok patch => host.applyPatch (patchFormat entry.filename) rom patch
  | .error error => (.error s!"failed to read: {error}",rom)

end Host

/-- The pipeline between two mods. A caller may ask for a report. -/
structure Progress where
  rom : Bytes
  warnings : List String
  report : Option ModApplicationReport

namespace Host

variable (host : Host)

def applyMod (progress : Progress) (entry : ModEntry) : Progress :=
  let (result,rom) := host.patchImage entry progress.rom
  let name := entry.filename
  let (outcome,warnings) :=
    match result with
    | .ok _ => (ModApplicationOutcome.applied,progress.warnings)
    | .error error => (ModApplicationOutcome.failed error,progress.warnings ++ [s!"{name}: {error}"])
  let step : ModApplicationStep := {
    filename := name
    format := patchFormat name
    patchSha256 := (host.read name).toOption.map host.sha256Hex
    inputSha256 := host.sha256Hex progress.rom
    inputLen := progress.rom.length
    outputSha256 := host.sha256Hex rom
    outputLen := rom.length
    outcome := outcome}
  ⟨rom,warnings,progress.report.map fun report => {report with steps := report.steps ++ [step]}⟩

def applyEnabledModsInner (rom : Bytes) (mods : List ModEntry) (report : Option ModApplicationReport) : Progress :=
  let last := (mods.filter (·.enabled)).foldl host.applyMod ⟨rom,[],report⟩
  {last with report := last.report.map fun report => {report with warnings := last.warnings}}

def applyEnabledModsWithReport (rom : Bytes) (mods : List ModEntry) : Bytes × ModApplicationReport :=
  let last := host.applyEnabledModsInner rom mods (some ⟨[],[]⟩)
  (last.rom,last.report.getD ⟨[],[]⟩)

def modStep (entry : ModEntry) (rom : Bytes) : Call Bytes Unit :=
  if entry.enabled then host.patchImage entry rom else (.ok (),rom)

/-- A failed mod leaves the image untouched: the image is the fold of the mods that succeed, and a step that is reported as
failed has the digest of its input for its output. -/
structure Untouched (rom : Bytes) (mods : List ModEntry) : Prop where
  failed : ∀ before entry after, mods = before ++ entry::after → entry.enabled = true → ∀ error,
    (host.patchImage entry (host.applyEnabledModsWithReport rom before).1).1 = .error error →
    (host.patchImage entry (host.applyEnabledModsWithReport rom before).1).2 = (host.applyEnabledModsWithReport rom before).1
  image : (host.applyEnabledModsWithReport rom mods).1 = runSuccessful host.modStep rom mods
  digests : ∀ step ∈ (host.applyEnabledModsWithReport rom mods).2.steps, ∀ error, step.outcome = .failed error →
    step.outputSha256 = step.inputSha256 ∧ step.outputLen = step.inputLen

/-- Of each enabled IPS patch that is broken, the image made by the mods before it that succeed holds the complete records
already. -/
def BrokenRecordsPresent (rom : Bytes) (mods : List ModEntry) : Prop :=
  ∀ before entry after patch error, mods = before ++ entry::after → entry.enabled = true →
    patchFormat entry.filename = "ips" → host.read entry.filename = .ok patch → (Ips.content patch).1 = .error error →
      Ips.Present (runSuccessful host.modStep rom before) (Ips.content patch).2

theorem applyMods_rom (progress : Progress) (mods : List ModEntry) :
    ((mods.filter (·.enabled)).foldl host.applyMod progress).rom = runAll host.modStep progress.rom mods := by
  induction mods generalizing progress with
  | nil => rfl
  | cons entry mods ih =>
    rw [filter_cons,runAll,foldl_cons,modStep]
    split
    · exact ih _
    · exact ih progress

theorem applyEnabledMods_rom (rom : Bytes) (mods : List ModEntry) :
    (host.applyEnabledModsWithReport rom mods).1 = runAll host.modStep rom mods :=
  host.applyMods_rom _ mods

/-- A step of the report tells of an enabled mod, and has the digests of the images in front of it and behind it. -/
def Tells (rom : Bytes) (mods : List ModEntry) (step : ModApplicationStep) : Prop :=
  ∃ before entry after, mods = before ++ entry::after ∧ entry.enabled = true ∧
    step.inputSha256 = host.sha256Hex (runAll host.modStep rom before) ∧
    step.inputLen = (runAll host.modStep rom before).length ∧
    step.outputSha256 = host.sha256Hex (host.patchImage entry (runAll host.modStep rom before)).2 ∧
    step.outputLen = (host.patchImage entry (runAll host.modStep rom before)).2.length ∧
    ∀ error, step.outcome = .failed error → (host.patchImage entry (runAll host.modStep rom before)).1 = .error error

theorem Tells.append {rom : Bytes} {mods : List ModEntry} {step : ModApplicationStep} (tells : host.Tells rom mods step)
    (last : ModEntry) : host.Tells rom (mods ++ [last]) step := by
  obtain ⟨before,entry,after,split,rest⟩ := tells
  exact ⟨before,entry,after ++ [last],by rw [split,append_assoc,cons_append],rest⟩

theorem applyMods_report (rom : Bytes) (mods : List ModEntry) :
    ∃ report, ((mods.filter (·.enabled)).foldl host.applyMod ⟨rom,[],some ⟨[],[]⟩⟩).report = some report ∧
      ∀ step ∈ report.steps, host.Tells rom mods step := by
  induction mods using List.reverseRecOn with
  | nil => exact ⟨_,rfl,by simp⟩
  | append_singleton mods entry ih =>
    obtain ⟨report,there,tells⟩ := ih
    rw [filter_append,foldl_append]
    have image := host.applyMods_rom ⟨rom,[],some ⟨[],[]⟩⟩ mods
    generalize (mods.filter (·.enabled)).foldl host.applyMod ⟨rom,[],some ⟨[],[]⟩⟩ = progress at there image ⊢
    by_cases enabled : entry.enabled = true
    · rw [filter_cons_of_pos enabled,filter_nil,foldl_cons,foldl_nil,applyMod,there]
      refine ⟨_,rfl,?_⟩
      intro step inside
      rcases mem_append.mp inside with inside | inside
      · exact (tells step inside).append host entry
      · cases mem_singleton.mp inside
        refine ⟨mods,entry,[],rfl,enabled,congrArg _ image,congrArg _ image,by rw [image],by rw [image],?_⟩
        intro error failed
        rw [← image]
        dsimp only at failed
        split at failed
        · cases failed
        · rename_i result
          cases failed
          exact result
    · rw [filter_cons_of_neg enabled,filter_nil,foldl_nil]
      exact ⟨report,there,fun step inside => (tells step inside).append host entry⟩

theorem applyEnabledMods_steps (rom : Bytes) (mods : List ModEntry) :
    ∀ step ∈ (host.applyEnabledModsWithReport rom mods).2.steps, host.Tells rom mods step := by
  obtain ⟨report,there,tells⟩ := host.applyMods_report rom mods
  unfold applyEnabledModsWithReport applyEnabledModsInner
  dsimp only
  rw [there]
  exact tells

theorem replaced_failed {rom : Bytes} {result : Except String Bytes} {error : String}
    (failed : (replaced rom result).1 = .error error) : (replaced rom result).2 = rom := by
  cases result with
  | error => rfl
  | ok new => cases failed

theorem applyPpfPatch_failed {rom patch : Bytes} {error : String} (failed : (applyPpfPatch rom patch).1 = .error error) :
    (applyPpfPatch rom patch).2 = rom := by
  unfold applyPpfPatch applyPpfPatchSegments at *
  rcases planned : Ppf.planned [rom] patch with error | writes
  · rfl
  · rw [planned] at failed
    cases failed

theorem patchFormat_cases (filename : String) :
    patchFormat filename ∈ ["ips","bps","ups","ppf","xdelta","xdelta3","vcdiff"] := by
  unfold patchFormat
  split <;> simp

theorem applyPatch_failed {filename : String} (other : patchFormat filename ≠ "ips") {rom patch : Bytes} {error : String}
    (failed : (host.applyPatch (patchFormat filename) rom patch).1 = .error error) :
    (host.applyPatch (patchFormat filename) rom patch).2 = rom := by
  have formats := patchFormat_cases filename
  simp only [mem_cons,not_mem_nil,or_false] at formats
  rcases formats with ips | bps | ups | ppf | xdelta | xdelta3 | vcdiff
  · exact absurd ips other
  · rw [bps] at failed ⊢
    exact replaced_failed failed
  · rw [ups] at failed ⊢
    exact replaced_failed failed
  · rw [ppf] at failed ⊢
    exact applyPpfPatch_failed failed
  · rw [xdelta] at failed ⊢
    exact replaced_failed failed
  · rw [xdelta3] at failed ⊢
    exact replaced_failed failed
  · rw [vcdiff] at failed ⊢
    exact replaced_failed failed

theorem modStep_failsCleanly (entry : ModEntry) (rom : Bytes) : FailsCleanly host.modStep entry rom ↔
    ∀ patch error, entry.enabled = true → patchFormat entry.filename = "ips" → host.read entry.filename = .ok patch →
      (Ips.content patch).1 = .error error → Ips.Present rom (Ips.content patch).2 := by
  unfold FailsCleanly modStep
  constructor
  · intro clean patch error enabled ips read failed
    have same := clean error
    rw [if_pos enabled,patchImage,read,ips] at same
    dsimp only [applyPatch] at same
    rw [Ips.applyIpsPatch_eq] at same
    exact (Ips.write_eq_iff rom _).mp (same failed)
  · intro present error failed
    split at failed
    · rename_i enabled
      rw [if_pos enabled]
      unfold patchImage at failed ⊢
      rcases read : host.read entry.filename with unread | patch
      · rfl
      rw [read] at failed
      by_cases ips : patchFormat entry.filename = "ips"
      · rw [ips] at failed ⊢
        dsimp only [applyPatch] at failed ⊢
        rw [Ips.applyIpsPatch_eq] at failed ⊢
        exact (Ips.write_eq_iff rom _).mpr (present patch error enabled ips read failed)
      · exact host.applyPatch_failed ips failed
    · cases failed

/-- The pipeline leaves the image of each failed mod untouched exactly when the broken IPS patches have nothing to write that
is not there. -/
theorem untouched_iff (rom : Bytes) (mods : List ModEntry) :
    host.Untouched rom mods ↔ host.BrokenRecordsPresent rom mods := by
  have present : host.BrokenRecordsPresent rom mods ↔ EachClean host.modStep (runSuccessful host.modStep) rom mods := by
    constructor
    · intro present before entry after split
      exact (host.modStep_failsCleanly entry _).mpr fun patch error enabled => present before entry after patch error split enabled
    · intro clean before entry after patch error split enabled
      exact (host.modStep_failsCleanly entry _).mp (clean before entry after split) patch error enabled
  rw [present,← eachClean_iff]
  constructor
  · rintro ⟨failed,_,_⟩ before entry after split error outcome
    unfold modStep at outcome ⊢
    split at outcome
    · rename_i enabled
      have same := failed before entry after split enabled error
      rw [applyEnabledMods_rom] at same
      rw [if_pos enabled]
      exact same outcome
    · cases outcome
  · intro clean
    have whole (before entry after) (split : mods = before ++ entry::after) (enabled : entry.enabled = true) :
        ∀ error, (host.patchImage entry (runAll host.modStep rom before)).1 = .error error →
          (host.patchImage entry (runAll host.modStep rom before)).2 = runAll host.modStep rom before := by
      have step := clean before entry after split
      unfold FailsCleanly modStep at step
      rwa [if_pos enabled] at step
    refine ⟨?_,?_,?_⟩
    · intro before entry after split enabled error failed
      rw [applyEnabledMods_rom] at failed ⊢
      exact whole before entry after split enabled error failed
    · rw [applyEnabledMods_rom]
      exact runAll_eq_of_clean clean
    · intro step inside error failed
      obtain ⟨before,entry,after,split,enabled,input,inputLen,output,outputLen,outcome⟩ :=
        host.applyEnabledMods_steps rom mods step inside
      have same := whole before entry after split enabled error (outcome error failed)
      rw [same] at output outputLen
      exact ⟨output.trans input.symm,outputLen.trans inputLen.symm⟩

end Host

def truncatedPatch : Bytes := [0x50,0x41,0x54,0x43,0x48,0x00,0x00,0x00,0x00,0x01,0xFF]

theorem applyIpsPatch_truncated :
    applyIpsPatch [0x00] truncatedPatch = (.error s!"IPS patch truncated: unexpected end at offset {11}",[0xFF]) := by
  have first : Ips.applyRecords truncatedPatch 5 [0x00] = Ips.applyRecords truncatedPatch 11 [0xFF] := by
    rw [Ips.applyRecords,if_neg (by decide),if_neg (by decide),if_neg (by decide),if_neg (by decide),if_neg (by decide)]
    rfl
  have last : Ips.applyRecords truncatedPatch 11 [0xFF] =
      (.error s!"IPS patch truncated: unexpected end at offset {11}",[0xFF]) := by
    rw [Ips.applyRecords,if_pos (by decide)]
  rw [applyIpsPatch,if_neg (by decide),if_neg (by decide),first,last]

/-- The complete record of a truncated patch stays in the image. -/
theorem untouched_truncated : ¬Host.Untouched
    ⟨⟨fun _ => 0,fun _ _ => .error "",fun _ _ => .error ""⟩,fun _ => .ok truncatedPatch,fun bytes => toString bytes.length⟩
    [0x00] [⟨"hack.ips",true⟩] := by
  intro untouched
  have same := untouched.failed [] ⟨"hack.ips",true⟩ [] rfl rfl
  have ips : patchFormat "hack.ips" = "ips" := by decide
  simp only [Host.patchImage,ips,Host.applyPatch] at same
  have start := applyIpsPatch_truncated
  simp only [Host.applyEnabledModsWithReport,Host.applyEnabledModsInner,filter_nil,foldl_nil,start] at same
  exact absurd (same _ rfl) (by decide)

end ZeffBoy.Patching
