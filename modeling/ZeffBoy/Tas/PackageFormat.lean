import ZeffBoy.Tas.Package

/-! The package format: an archive of a manifest, the starting state, the event streams of the branches and the
camera assets, with a digest for each of them. JSON and ZIP are parameters. -/
namespace ZeffBoy.Tas
open Library Replay

/-- Digests of the entries of a package, in the order of their names. -/
structure Integrity where
  version : UInt32
  entries : List (String × TasDigest)

/-- An entry as the archive lists it, and what reading it gives. -/
structure ArchiveEntry where
  name : String
  isDir : Bool := false
  isSymlink : Bool := false
  enclosed : Bool := true
  size : Nat
  compressedSize : Nat
  contents : Bytes

structure TasFormat where
  encoding : TasEncoding
  manifestJson : Manifest → Bytes
  parseManifest : Bytes → Except String Manifest
  integrityJson : Integrity → Bytes
  parseIntegrity : Bytes → Except String Integrity
  zip : List (String × Bytes) → Except String Bytes
  unzip : Bytes → Except String (List ArchiveEntry)

def manifestEntry : String := "manifest.json"
def integrityEntry : String := "integrity.json"
def startStateEntry : String := "start_state.bin"
def replayStartEntry : String := "replay_start.bin"
def maxPackageBytes : Nat := 96 * 1024 * 1024
def maxManifestBytes : Nat := 16 * 1024 * 1024
def maxIntegrityBytes : Nat := 2 * 1024 * 1024
def maxEventStreamBytes : Nat := 8 * 1024 * 1024
def maxReplayStartBytes : Nat := 64 * 1024
def maxEntries : Nat := maxProjectAssets + maxProjectBranches + 4
def maxCompressionRatio : Nat := 10000

def toHex (digest : TasDigest) : String :=
  String.ofList (digest.toList.flatMap fun byte => [Nat.digitChar (byte.toNat / 16),Nat.digitChar (byte.toNat % 16)])

def eventEntry (branchId : String) : String := "branches/" ++ branchId ++ "/events.bin"

def assetEntry (digest : TasDigest) : String := "assets/" ++ toHex digest ++ ".bin"

def startsWith (front name : String) : Bool := front.toList.isPrefixOf name.toList

def entryLimit (name : String) : Except String Nat :=
  if name = manifestEntry then .ok maxManifestBytes
  else if name = integrityEntry then .ok maxIntegrityBytes
  else if name = startStateEntry then .ok maxStartStateBytes
  else if name = replayStartEntry then .ok maxReplayStartBytes
  else if startsWith "branches/" name then .ok maxEventStreamBytes
  else if startsWith "assets/" name then .ok maxCameraAssetBytes
  else .error s!"unknown TAS project entry {quoted name}"

def between (front back name : String) : Option (List Char) :=
  (name.toList.dropPrefix? front.toList).bind fun rest => rest.dropSuffix? back.toList

def validPathId (value : List Char) : Bool := value ≠ [] && value.length ≤ 128 && value.all idChar

def hexDigit (char : Char) : Bool := char.isDigit || ('a' ≤ char && char ≤ 'f') || ('A' ≤ char && char ≤ 'F')

def validEntryName (name : String) : Bool :=
  name ∈ [manifestEntry,integrityEntry,startStateEntry,replayStartEntry] ||
    (between "branches/" "/events.bin" name).any validPathId ||
    (between "assets/" ".bin" name).any fun digest => digest.length = 64 && digest.all hexDigit

/-- Entries are kept in the order of their names. -/
def insertNamed (name : String) (bytes : Bytes) : List (String × Bytes) → List (String × Bytes)
  | [] => [(name,bytes)]
  | (other,held)::entries =>
    if name = other then (name,bytes)::entries
    else if name < other then (name,bytes)::(other,held)::entries
    else (other,held)::insertNamed name bytes entries

def insertEncodedEntry (held : List (String × Bytes) × Nat) (name : String) (bytes : Bytes) :
    Except String (List (String × Bytes) × Nat) := do
  let limit ← entryLimit name
  ensure (bytes.length ≤ limit) s!"TAS project entry {quoted name} exceeds its size limit"
  let totalSize ← checkedAdd held.2 bytes.length "TAS project size overflow"
  ensure (totalSize ≤ maxPackageBytes) "TAS project exceeds the uncompressed size limit"
  ensure (name ∉ held.1.map Prod.fst) s!"duplicate TAS project entry {quoted name}"
  return (insertNamed name bytes held.1,totalSize)

def inspectEntry (seen : List String × Nat) (entry : ArchiveEntry) : Except String (List String × Nat) := do
  ensure (¬(entry.isDir ∨ entry.isSymlink ∨ ¬entry.enclosed ∨ entry.name.toList.contains '\\' ∨ ¬validEntryName entry.name))
    s!"invalid TAS project ZIP entry {quoted entry.name}"
  ensure (entry.name ∉ seen.1) s!"duplicate TAS project ZIP entry {quoted entry.name}"
  let limit ← entryLimit entry.name
  ensure (entry.size ≤ limit) s!"TAS project ZIP entry {quoted entry.name} exceeds its size limit"
  let totalSize ← checkedAdd seen.2 entry.size "TAS project ZIP size overflow"
  ensure (totalSize ≤ maxPackageBytes) "TAS project exceeds the uncompressed size limit"
  ensure (¬(entry.size ≠ 0 ∧ (entry.compressedSize = 0 ∨
      min (entry.compressedSize * maxCompressionRatio) (2^64 - 1) < entry.size)))
    s!"TAS project ZIP entry {quoted entry.name} has an excessive compression ratio"
  return (entry.name::seen.1,totalSize)

def inspectArchive (archive : List ArchiveEntry) : Except String (List String) := do
  ensure (archive.length ≤ maxEntries) "TAS project contains too many ZIP entries"
  let seen ← archive.foldlM inspectEntry ([],0)
  ensure (manifestEntry ∈ seen.1 ∧ integrityEntry ∈ seen.1 ∧ startStateEntry ∈ seen.1 ∧ replayStartEntry ∈ seen.1)
    "TAS project is missing a required ZIP entry"
  return seen.1

def readEntry (archive : List ArchiveEntry) (name : String) (limit : Nat) : Except String Bytes := do
  let entry ← context (archive.find? (fun entry => entry.name == name)) s!"missing TAS project entry {quoted name}"
  let bytes := entry.contents.take (limit + 1)
  ensure (bytes.length ≤ limit) s!"TAS project entry {quoted name} exceeds its size limit"
  return bytes

def insertName (duplicate : String) (names : List String) (name : String) : Except String (List String) := do
  ensure (name ∉ names) duplicate
  return name::names

def expectedEntries (manifest : Manifest) : Except String (List String) := do
  let names := [manifestEntry,integrityEntry,startStateEntry,replayStartEntry]
  let names ← manifest.branches.foldlM (fun names branch =>
    insertName "duplicate TAS branch entry" names (eventEntry branch.id)) names
  manifest.assets.foldlM (fun names asset => insertName "duplicate TAS asset entry" names (assetEntry asset.sha256)) names

def sameNames (left right : List String) : Bool := left.all (fun name => name ∈ right) && right.all (fun name => name ∈ left)

def removeEntry (verified : List (String × Bytes)) (name message : String) :
    Except String (Bytes × List (String × Bytes)) := do
  let entry ← context (verified.find? (fun entry => entry.1 == name)) message
  return (entry.2,verified.filter (fun entry => entry.1 ≠ name))

def restoreBranches (verified : List (String × Bytes)) :
    List ManifestBranch → Except String (List TasBranch × List (String × Bytes))
  | [] => .ok ([],verified)
  | branch::branches => do
    let (bytes,verified) ← removeEntry verified (eventEntry branch.id) "TAS branch is missing its event stream"
    let events ← decodeReplayEventStream bytes
    let (restored,verified) ← restoreBranches verified branches
    return (⟨branch.id,branch.name,branch.comment,branch.parent,branch.frameCount,branch.inputSpans,events,
      branch.verification⟩::restored,verified)

def restoreAssets (verified : List (String × Bytes)) (assets : List (TasDigest × Bytes)) :
    List ManifestAsset → Except String (List (TasDigest × Bytes))
  | [] => .ok assets
  | asset::rest => do
    let name := assetEntry asset.sha256
    let (bytes,verified) ← removeEntry verified name s!"TAS project is missing asset {quoted name}"
    ensure (bytes.length = asset.size) "TAS asset size does not match its manifest"
    ensure (¬containsAsset assets asset.sha256) "duplicate TAS asset identity"
    restoreAssets verified (insertAsset asset.sha256 bytes assets) rest

namespace TasFormat
variable (format : TasFormat)

def encodedEntries (project : TasProject) : Except String (List (String × Bytes) × Nat) := do
  let held ← insertEncodedEntry ([],0) manifestEntry (format.manifestJson project.manifest)
  let held ← insertEncodedEntry held startStateEntry project.startState
  let replayStart ← encodeReplayStartMetadata project.replayStart
  let held ← insertEncodedEntry held replayStartEntry replayStart
  let held ← project.branches.foldlM (fun held branch => do
    let events ← encodeReplayEventStream branch.events
    insertEncodedEntry held (eventEntry branch.id) events) held
  project.assets.foldlM (fun held asset => insertEncodedEntry held (assetEntry asset.1) asset.2) held

/-- What encoding does to a project that is valid. -/
def packageBytes (project : TasProject) : Except String Bytes := do
  let (entries,uncompressedSize) ← format.encodedEntries project
  let integrity := ⟨formatVersion,entries.map fun entry => (entry.1,format.encoding.sha256 entry.2)⟩
  let integrityBytes := format.integrityJson integrity
  ensure (integrityBytes.length ≤ maxIntegrityBytes) "TAS integrity manifest exceeds its size limit"
  let uncompressedSize ← checkedAdd uncompressedSize integrityBytes.length "TAS project size overflow"
  ensure (uncompressedSize ≤ maxPackageBytes) "TAS project exceeds the uncompressed size limit"
  let bytes ← format.zip (entries ++ [(integrityEntry,integrityBytes)])
  ensure (bytes.length ≤ maxPackageBytes) s!"TAS project exceeds the {maxPackageBytes}-byte package limit"
  return bytes

def encodePackageBytes (project : TasProject) : Except String Bytes := do
  project.validate format.encoding.sha256
  format.packageBytes project

def verifyEntry (archive : List ArchiveEntry) (entry : String × TasDigest) : Except String (String × Bytes) := do
  let limit ← entryLimit entry.1
  let bytes ← readEntry archive entry.1 limit
  ensure (format.encoding.sha256 bytes = entry.2) s!"TAS project entry {quoted entry.1} failed its SHA-256 check"
  return (entry.1,bytes)

/-- The project in a package, before it is validated. -/
def packagedProject (bytes : Bytes) : Except String TasProject := do
  ensure (bytes.length ≤ maxPackageBytes) s!"TAS project exceeds the {maxPackageBytes}-byte package limit"
  let archive ← (format.unzip bytes).mapError fun _ => "invalid TAS ZIP"
  let names ← inspectArchive archive
  let manifestBytes ← readEntry archive manifestEntry maxManifestBytes
  let manifest ← (format.parseManifest manifestBytes).mapError fun _ => "invalid TAS project manifest"
  ensure (manifest.format = "zeff-tas-project") "invalid TAS project manifest magic"
  ensure (manifest.version = formatVersion) s!"unsupported TAS project version: {manifest.version}"
  ensure (manifest.branches.length ≤ maxProjectBranches ∧ manifest.assets.length ≤ maxProjectAssets)
    "TAS project manifest exceeds collection limits"
  let integrityBytes ← readEntry archive integrityEntry maxIntegrityBytes
  let integrity ← (format.parseIntegrity integrityBytes).mapError fun _ => "invalid TAS project integrity manifest"
  ensure (integrity.version = formatVersion) s!"unsupported TAS integrity version: {integrity.version}"
  let expected ← expectedEntries manifest
  ensure (sameNames names expected) "TAS project package entries do not match its manifest"
  ensure (sameNames (integrity.entries.map Prod.fst) (expected.filter (fun name => name ≠ integrityEntry)))
    "TAS project integrity entries do not match its manifest"
  let verified ← integrity.entries.mapM (format.verifyEntry archive)
  let (startState,verified) ← removeEntry verified startStateEntry "TAS project is missing its starting state"
  ensure (startState.length = manifest.startStateSize) "TAS starting state size does not match its manifest"
  let (startBytes,verified) ← removeEntry verified replayStartEntry "TAS project is missing replay start metadata"
  let replayStart ← decodeReplayStartMetadata startBytes
  let (branches,verified) ← restoreBranches verified manifest.branches
  let assets ← restoreAssets verified [] manifest.assets
  return ⟨manifest.projectId,manifest.sourceReplaySha256,manifest.identity,startState,replayStart,manifest.editGeneration,
    manifest.rerecordCount,manifest.activeBranchId,manifest.projectComment,branches,manifest.markers,manifest.annotations,
    assets⟩

def decode (bytes : Bytes) : Except String TasProject := do
  let project ← format.packagedProject bytes
  project.validate format.encoding.sha256
  return project

def verifyEncodedPackage (project : TasProject) (bytes : Bytes) : Except String Unit := do
  let decoded ← (format.decode bytes).mapError fun _ => "encoded TAS project failed verification"
  ensure (decoded = project.canonical) "encoded TAS project changed project semantics"

def encode (project : TasProject) : Except String Bytes := do
  let bytes ← format.encodePackageBytes project
  format.verifyEncodedPackage project bytes
  return bytes

end TasFormat

def TasProjectIdentity.InOrder (identity : TasProjectIdentity) : Prop :=
  identity.firmware.Pairwise (fun left right => left.firmwareId ≤ right.firmwareId) ∧
    identity.devices.Pairwise (fun left right => left.port ≤ right.port)

theorem mergeSort_pairwise {α : Type} (key : α → String) (values : List α) :
    (values.mergeSort (fun left right => ¬key right < key left)).Pairwise (fun left right => key left ≤ key right) := by
  have transitive (first second third : α) (earlier : decide (¬key second < key first)) (later : decide (¬key third < key second)) :
      decide (¬key third < key first) := by
    simp only [decide_eq_true_eq,not_lt] at earlier later ⊢
    exact earlier.trans later
  have total (first second : α) : decide (¬key second < key first) || decide (¬key first < key second) := by
    simp only [Bool.or_eq_true,decide_eq_true_eq,not_lt]
    exact le_total _ _
  have sorted := @List.pairwise_mergeSort α (fun left right => ¬key right < key left) transitive total values
  exact sorted.imp fun related => not_lt.mp (of_decide_eq_true related)

theorem mergeSort_eq_iff {α : Type} (key : α → String) (values : List α) :
    values.mergeSort (fun left right => ¬key right < key left) = values ↔
      values.Pairwise (fun left right => key left ≤ key right) := by
  constructor
  · intro same
    rw [← same]
    exact mergeSort_pairwise key values
  · intro ordered
    exact List.mergeSort_of_pairwise (ordered.imp fun related => decide_eq_true (not_lt.mpr related))

theorem canonicalIdentity_eq_iff (identity : TasProjectIdentity) : canonicalIdentity identity = identity ↔ identity.InOrder := by
  unfold canonicalIdentity TasProjectIdentity.InOrder
  rw [← mergeSort_eq_iff TasFirmwareIdentity.firmwareId,← mergeSort_eq_iff TasDeviceIdentity.port]
  constructor
  · intro same
    exact ⟨congrArg TasProjectIdentity.firmware same,congrArg TasProjectIdentity.devices same⟩
  · rintro ⟨firmware,devices⟩
    rw [firmware,devices]

theorem canonical_eq_iff (project : TasProject) : project.canonical = project ↔ project.identity.InOrder := by
  rw [← canonicalIdentity_eq_iff]
  constructor
  · exact congrArg TasProject.identity
  · intro same
    rw [TasProject.canonical,same]

end ZeffBoy.Tas
