import ZeffBoy.Tas.Impacts
import ZeffBoy.Tas.PackageFormat

/-! Saving projects, by hand and automatically.
A file is its bytes. Both ways to save read the file back before it is published: a save by hand only decodes it,
an autosave also compares the result with the project. -/
namespace ZeffBoy.Tas
open Library Replay List

/-- The autosaves of one project by their generations, the oldest first. -/
structure TasAutosaveStore where
  retainGenerations : Nat
  generations : List (Nat × Bytes) := []
deriving DecidableEq

def nextGeneration (generations : List (Nat × Bytes)) (editGeneration : Nat) : Except String Nat :=
  match generations.getLast? with
  | none => .ok editGeneration
  | some previous =>
    if previous.1 < editGeneration then .ok editGeneration
    else checkedAdd previous.1 1 "TAS autosave generation overflow"

namespace TasFormat
variable (format : TasFormat)

def validateHeldSnapshot (tempFile : Bytes) (expectedLen : Nat) (expected : TasProject) : Except String Unit := do
  let readLimit ← checkedAdd expectedLen 1 "TAS autosave validation length overflow"
  let tempBytes := tempFile.take readLimit
  ensure (tempBytes.length = expectedLen) "temporary TAS autosave length changed before validation"
  let decoded ← (format.decode tempBytes).mapError fun _ => "temporary TAS autosave failed complete package validation"
  ensure (decoded = expected) "temporary TAS autosave changed semantics before publication"

/-- Saves a project as the next generation and drops the oldest ones that are not retained. No file has the name of
the next generation, so the first attempt decides. -/
def autosave (store : TasAutosaveStore) (project : TasProject) : Except String (Nat × TasAutosaveStore) := do
  let bytes ← (format.encode project).mapError fun _ => "failed to encode TAS autosave"
  let generation ← nextGeneration store.generations project.editGeneration
  (format.validateHeldSnapshot bytes bytes.length project).mapError fun _ => "failed to atomically publish TAS autosave"
  let published := store.generations ++ [(generation,bytes)]
  return (generation,{ store with generations := published.drop (published.length - store.retainGenerations) })

def publishSnapshot (bytes : Bytes) : Except String Unit := do
  let _ ← (format.decode (bytes.take (maxPackageBytes + 1))).mapError fun _ => "temporary TAS project failed validation"

/-- A save by hand over the file that was there, which is encoded again as the backup. -/
def saveAtomic (previous : Option Bytes) (project : TasProject) : Except String (Option Bytes × Bytes) := do
  let bytes ← format.encode project
  let backup ← previous.mapM fun previous => do
    let previous ← (format.decode previous).mapError fun _ => "refusing to replace invalid TAS project"
    let previousBytes ← format.encode previous
    format.publishSnapshot previousBytes
    return previousBytes
  format.publishSnapshot bytes
  return (backup,bytes)

end TasFormat

namespace TasFormat
variable {format : TasFormat} {project : TasProject} {bytes : Bytes}

theorem encode_ok : format.encode project = .ok bytes ↔
    format.encodePackageBytes project = .ok bytes ∧ format.decode bytes = .ok project.canonical := by
  constructor
  · intro encoded
    obtain ⟨packed,made,encoded⟩ := bind_ok.mp encoded
    obtain ⟨verified,encoded⟩ := check_bind_ok.mp encoded
    obtain rfl := Except.ok.inj encoded
    obtain ⟨decoded,read,same⟩ := bind_ok.mp verified
    obtain rfl := ensure_ok.mp same
    exact ⟨made,(mapError_ok _ _ _).mp read⟩
  · rintro ⟨made,read⟩
    refine bind_ok.mpr ⟨bytes,made,check_bind_ok.mpr ⟨?_,rfl⟩⟩
    exact bind_ok.mpr ⟨_,(mapError_ok _ _ _).mpr read,ensure_pos rfl _⟩

theorem length_encoded (encoded : format.encode project = .ok bytes) : bytes.length ≤ maxPackageBytes := by
  obtain ⟨_,packed⟩ := check_bind_ok.mp (encode_ok.mp encoded).1
  obtain ⟨_,_,packed⟩ := bind_ok.mp packed
  obtain ⟨_,packed⟩ := check_bind_ok.mp packed
  obtain ⟨_,_,packed⟩ := bind_ok.mp packed
  obtain ⟨_,packed⟩ := check_bind_ok.mp packed
  obtain ⟨zipped,_,packed⟩ := bind_ok.mp packed
  obtain ⟨bound,packed⟩ := check_bind_ok.mp packed
  obtain rfl := Except.ok.inj packed
  exact ensure_ok.mp bound

theorem validateHeldSnapshot_ok (word : bytes.length + 1 < 2^64) (expected : TasProject) :
    format.validateHeldSnapshot bytes bytes.length expected = .ok () ↔ format.decode bytes = .ok expected := by
  have whole : bytes.take (bytes.length + 1) = bytes := take_of_length_le (Nat.le_succ _)
  rw [validateHeldSnapshot,checkedAdd_pos word,ok_bind,whole]
  dsimp only
  rw [ensure_pos rfl,ok_bind]
  constructor
  · intro ok
    obtain ⟨decoded,read,same⟩ := bind_ok.mp ok
    obtain rfl := ensure_ok.mp same
    exact (mapError_ok _ _ _).mp read
  · intro read
    exact bind_ok.mpr ⟨expected,(mapError_ok _ _ _).mpr read,ensure_pos rfl _⟩

/-- An autosave accepts the bytes of a project exactly when its identity is in canonical order. A save by hand
accepts them all. -/
theorem validateHeldSnapshot_iff (format : TasFormat) (project : TasProject) (bytes : Bytes)
    (encoded : format.encode project = .ok bytes) :
    (format.validateHeldSnapshot bytes bytes.length project = .ok () ↔ project.identity.InOrder) ∧
      format.saveAtomic none project = .ok (none,bytes) ∧
      ∀ store generation, nextGeneration store.generations project.editGeneration = .ok generation →
        ((∃ saved, format.autosave store project = .ok saved) ↔ project.identity.InOrder) := by
  have limit : bytes.length ≤ 96 * 1024 * 1024 := length_encoded encoded
  have read := (encode_ok.mp encoded).2
  have accepted : format.validateHeldSnapshot bytes bytes.length project = .ok () ↔ project.identity.InOrder := by
    rw [validateHeldSnapshot_ok (by omega),read,Except.ok.injEq,canonical_eq_iff]
  refine ⟨accepted,?_,?_⟩
  · have whole : bytes.take (maxPackageBytes + 1) = bytes := take_of_length_le (limit.trans (Nat.le_succ _))
    rw [saveAtomic,encoded,ok_bind,publishSnapshot,whole,read]
    rfl
  · intro store generation next
    rw [← accepted]
    constructor
    · rintro ⟨saved,ok⟩
      obtain ⟨packed,made,ok⟩ := bind_ok.mp ok
      rw [mapError_ok,encoded] at made
      obtain rfl := Except.ok.inj made
      obtain ⟨_,_,ok⟩ := bind_ok.mp ok
      obtain ⟨valid,_⟩ := check_bind_ok.mp ok
      exact (mapError_ok _ _ _).mp valid
    · intro valid
      have published := (mapError_ok _ (fun _ => "failed to atomically publish TAS autosave") _).mpr valid
      have encodes := (mapError_ok _ (fun _ => "failed to encode TAS autosave") _).mpr encoded
      rw [autosave,encodes,ok_bind,next,ok_bind,published]
      exact ⟨_,rfl⟩

/-- The small project with a second device, its devices in the order of their ports or the other way. -/
def twoPads (devices : List TasDeviceIdentity) : TasProject :=
  { smallProject with identity := { smallProject.identity with devices := devices } }

def sortedPads : TasProject := twoPads [⟨"1","pad",emptyDigest⟩,⟨"2","pad",emptyDigest⟩]

def swappedPads : TasProject := twoPads [⟨"2","pad",emptyDigest⟩,⟨"1","pad",emptyDigest⟩]

theorem sortedPads_inOrder : sortedPads.identity.InOrder := ⟨.nil,by decide⟩

theorem canonical_swappedPads : swappedPads.canonical = sortedPads := by
  have devices : swappedPads.identity.devices.mergeSort (fun left right => ¬right.port < left.port) =
      sortedPads.identity.devices := by
    simp only [swappedPads,twoPads,List.mergeSort,List.MergeSort.Internal.splitInTwo]
    change (([⟨"2","pad",emptyDigest⟩] : List TasDeviceIdentity).mergeSort _).merge
      (([⟨"1","pad",emptyDigest⟩] : List TasDeviceIdentity).mergeSort _) _ = _
    rw [mergeSort_singleton,mergeSort_singleton,cons_merge_cons_neg _ _ _ (by decide),merge_right]
    rfl
  have firmware : swappedPads.identity.firmware.mergeSort (fun left right => ¬right.firmwareId < left.firmwareId) = [] :=
    mergeSort_nil
  rw [TasProject.canonical,canonicalIdentity,devices,firmware]
  rfl

/-- A format that knows the package of the two projects. -/
def padFormat : TasFormat where
  encoding := smallEncoding
  manifestJson _ := utf8 "\x7b\x7d"
  parseManifest _ := .ok { smallProject.manifest with identity := sortedPads.identity }
  integrityJson _ := utf8 "[]"
  parseIntegrity _ := .ok ⟨formatVersion,entries.map fun entry => (entry.1,emptyDigest)⟩
  zip _ := .ok []
  unzip _ := .ok ((entries ++ [(integrityEntry,utf8 "[]")]).map fun entry =>
    { name := entry.1, size := entry.2.length, compressedSize := entry.2.length, contents := entry.2 })
where
  entries : List (String × Bytes) := [
    ("branches/main/events.bin",(encodeReplayEventStream smallMovie.events).toOption.getD []),
    (manifestEntry,utf8 "\x7b\x7d"),
    (replayStartEntry,(encodeReplayStartMetadata {}).toOption.getD []),
    (startStateEntry,[])]

theorem decode_pads : padFormat.decode [] = .ok sortedPads := by decide +kernel

theorem validateHeldSnapshot_sorted : padFormat.encode sortedPads = .ok [] ∧
    padFormat.validateHeldSnapshot [] 0 sortedPads = .ok () := by
  have packed : padFormat.encodePackageBytes sortedPads = .ok [] := by decide +kernel
  have canonical := (canonical_eq_iff sortedPads).mpr sortedPads_inOrder
  have encoded := encode_ok.mpr ⟨packed,by rw [canonical]; exact decode_pads⟩
  exact ⟨encoded,(validateHeldSnapshot_iff padFormat sortedPads [] encoded).1.mpr sortedPads_inOrder⟩

/-- The project is encoded and saved by hand, and its autosave is refused. -/
theorem validateHeldSnapshot_swapped : padFormat.encode swappedPads = .ok [] ∧
    padFormat.saveAtomic none swappedPads = .ok (none,[]) ∧
    padFormat.validateHeldSnapshot [] 0 swappedPads =
      .error "temporary TAS autosave changed semantics before publication" ∧
    padFormat.autosave ⟨3,[]⟩ swappedPads = .error "failed to atomically publish TAS autosave" := by
  have packed : padFormat.encodePackageBytes swappedPads = .ok [] := by decide +kernel
  have encoded := encode_ok.mpr ⟨packed,by rw [canonical_swappedPads]; exact decode_pads⟩
  have refused : padFormat.validateHeldSnapshot [] 0 swappedPads =
      .error "temporary TAS autosave changed semantics before publication" := by decide +kernel
  refine ⟨encoded,?_,refused,?_⟩
  · rw [saveAtomic,encoded]
    decide +kernel
  · have encodes := (mapError_ok _ (fun _ => "failed to encode TAS autosave") _).mpr encoded
    rw [autosave,encodes]
    decide +kernel

end TasFormat

end ZeffBoy.Tas
