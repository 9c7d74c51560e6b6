import ZeffBoy.Wire.Codec

/-! Build descriptors and the decision whether two builds may play together.
A descriptor is a fixed record of 163 bytes; the version is padded with zeros. -/
namespace ZeffBoy.Wire
open Library List

def encodedLen : Nat := 163
def versionCapacity : Nat := 64
def noDigest : Digest := List.Vector.replicate 32 0

/-- Platform 0 is the exact artifact only; 1 is Windows, 2 is Linux, 3 is WebAssembly. -/
structure BuildInfo where
  version : String
  contract : Digest
  certificate : Digest
  peerBuild : Digest
  platform : UInt8
  allowDifferentVersions : Bool
deriving DecidableEq

namespace BuildInfo

def visible (byte : UInt8) : Bool := 0x21 ≤ byte && byte ≤ 0x7e

def knownPlatform (platform : UInt8) : Bool := 1 ≤ platform && platform ≤ 3

def qualify (info : BuildInfo) : Except String Unit :=
  if info.contract = noDigest then
    ensure (info.platform = 0 ∧ info.certificate = noDigest ∧ info.peerBuild = noDigest)
      "unqualified build fields must be zero"
  else do
    ensure (knownPlatform info.platform) "unknown build platform"
    ensure (info.platform ≠ 3 ∨ info.certificate ≠ noDigest)
      "WebAssembly compatibility requires an artifact pair certificate"
    ensure (info.version ≠ "") "qualified build requires App version"

def validate (info : BuildInfo) : Except String Unit := do
  ensure ((utf8 info.version).length ≤ versionCapacity ∧ (utf8 info.version).all visible) "invalid App version"
  info.qualify
  ensure ((info.certificate = noDigest) ↔ (info.peerBuild = noDigest))
    "artifact pair certificate requires an expected peer build"

def layout (info : BuildInfo) : Bytes :=
  [UInt8.ofNat (utf8 info.version).length] ++ ((utf8 info.version ++
    List.replicate (versionCapacity - (utf8 info.version).length) 0) ++ (info.contract.toList ++ ([info.platform] ++
    ([Messages.flag info.allowDifferentVersions] ++ (info.certificate.toList ++ info.peerBuild.toList)))))

def encode (info : BuildInfo) : Except String Bytes := do
  info.validate
  return info.layout

def decode (bytes : Bytes) : Except String BuildInfo := do
  ensure (bytes.length = encodedLen) "invalid build descriptor length"
  let length := (byteAt bytes 0).toNat
  ensure (length ≤ versionCapacity) "invalid App version length"
  ensure ((slice bytes (1 + length) 65).all (· = 0)) "invalid App version padding"
  ensure (byteAt bytes 98 ≤ 1) "invalid different-version consent flag"
  let version ← context (fromUtf8 (slice bytes 1 (1 + length))) "invalid utf-8 sequence"
  let contract ← context (digest? (slice bytes 65 97)) "could not convert slice to array"
  let certificate ← context (digest? (slice bytes 99 131)) "could not convert slice to array"
  let peerBuild ← context (digest? (slice bytes 131 163)) "could not convert slice to array"
  let info : BuildInfo := ⟨version,contract,certificate,peerBuild,byteAt bytes 97,byteAt bytes 98 = 1⟩
  info.validate
  return info

section Layout
variable (info : BuildInfo)

theorem layout_length (short : (utf8 info.version).length ≤ versionCapacity) : info.layout.length = encodedLen := by
  simp only [layout,length_append,length_replicate,length_digest,length_singleton]
  simp only [versionCapacity] at short ⊢
  simp only [encodedLen]
  omega

theorem layout_count (short : (utf8 info.version).length ≤ versionCapacity) :
    (byteAt info.layout 0).toNat = (utf8 info.version).length := by
  simp only [layout,cons_append,byteAt_zero,UInt8.toNat_ofNat']
  simp only [versionCapacity] at short
  omega

theorem layout_version : slice info.layout 1 (1 + (utf8 info.version).length) = utf8 info.version := by
  rw [layout,slice_skip _ _ _ _ (by simp)]
  simp only [length_singleton,Nat.sub_self,Nat.add_sub_cancel_left,append_assoc]
  exact slice_front _ _ _ rfl

theorem layout_padding : slice info.layout (1 + (utf8 info.version).length) 65 =
    List.replicate (versionCapacity - (utf8 info.version).length) 0 := by
  rw [layout,slice_skip _ _ _ _ (by simp)]
  simp only [length_singleton,Nat.add_sub_cancel_left,append_assoc]
  rw [slice_skip _ _ _ _ le_rfl,Nat.sub_self]
  exact slice_front _ _ _ (by simp [versionCapacity])

theorem layout_rest (short : (utf8 info.version).length ≤ versionCapacity) : ∃ front, front.length = 65 ∧
    info.layout = front ++ (info.contract.toList ++ ([info.platform] ++ ([Messages.flag info.allowDifferentVersions] ++ (info.certificate.toList ++ info.peerBuild.toList)))) := by
  refine ⟨[UInt8.ofNat (utf8 info.version).length] ++ (utf8 info.version ++
    List.replicate (versionCapacity - (utf8 info.version).length) 0),?_,by simp [layout]⟩
  simp only [length_append,length_replicate,length_singleton]
  simp only [versionCapacity] at short ⊢
  omega

end Layout

theorem validate_short (info : BuildInfo) (valid : info.validate = .ok ()) :
    (utf8 info.version).length ≤ versionCapacity := by
  obtain ⟨_,visible,_⟩ := bind_ok.mp valid
  exact (ensure_ok.mp visible).1

theorem decode_layout (info : BuildInfo) (valid : info.validate = .ok ()) : decode info.layout = .ok info := by
  have short := info.validate_short valid
  obtain ⟨front,length,rest⟩ := info.layout_rest short
  have contract : slice info.layout 65 97 = info.contract.toList := by
    rw [rest]
    simp [slice_skip,slice_front,length]
  have certificate : slice info.layout 99 131 = info.certificate.toList := by
    rw [rest]
    simp [slice_skip,slice_cons_skip,slice_front,length]
  have peerBuild : slice info.layout 131 163 = info.peerBuild.toList := by
    rw [rest]
    simp [slice_skip,slice_cons_skip,slice_all,length]
  have platform : byteAt info.layout 97 = info.platform := by
    rw [rest]
    simp [byteAt_skip,length]
  have consent : byteAt info.layout 98 = Messages.flag info.allowDifferentVersions := by
    rw [rest,byteAt_skip (by omega),byteAt_skip (by simp [length]),byteAt_skip (by simp [length])]
    simp [length]
  unfold decode
  rw [ensure_pos (info.layout_length short),ok_bind]
  dsimp only
  rw [info.layout_count short,ensure_pos short,ok_bind,info.layout_padding,ensure_pos (by simp),ok_bind,
    consent,ensure_pos (Messages.flag_le _),ok_bind,info.layout_version,fromUtf8_utf8,contract,certificate,
    peerBuild,platform,Messages.flag_eq_one]
  simp only [digest?_toList,context,ok_bind]
  rw [valid]
  rfl

-- Different artifacts need a common contract, and a certificate of either side binds both.
def admitDifferent (localSha : Digest) (mine : BuildInfo) (remoteSha : Digest) (remote : BuildInfo) :
    Except String Unit := do
  ensure (mine.contract ≠ noDigest ∧ mine.contract = remote.contract) "build compatibility contract mismatch"
  ensure (knownPlatform mine.platform ∧ knownPlatform remote.platform) "unqualified build platform"
  if mine.certificate ≠ noDigest ∨ remote.certificate ≠ noDigest then
    ensure (mine.certificate ≠ noDigest ∧ mine.certificate = remote.certificate) "artifact pair certificate mismatch"
    ensure (mine.peerBuild = remoteSha ∧ remote.peerBuild = localSha) "artifact pair expected peer mismatch"

def admitSame (mine remote : BuildInfo) : Except String Unit :=
  if mine.certificate ≠ noDigest ∨ remote.certificate ≠ noDigest then .ok ()
  else do
    ensure (mine.contract = remote.contract) "build compatibility contract mismatch"
    ensure (mine.platform = remote.platform) "same artifact platform mismatch"

def admitBuilds (localSha : Digest) (mine : BuildInfo) (remoteSha : Digest) (remote : BuildInfo) :
    Except String Unit := do
  mine.validate
  remote.validate
  ensure (mine.version ≠ remote.version → mine.allowDifferentVersions ∧ remote.allowDifferentVersions)
    "different App versions require both players' consent"
  if localSha ≠ remoteSha then admitDifferent localSha mine remoteSha remote else admitSame mine remote

theorem admitDifferent_symm (localSha : Digest) (mine : BuildInfo) (remoteSha : Digest) (remote : BuildInfo)
    (ok : admitDifferent localSha mine remoteSha remote = .ok ()) :
    admitDifferent remoteSha remote localSha mine = .ok () := by
  unfold admitDifferent at ok ⊢
  obtain ⟨_,contract,ok⟩ := bind_ok.mp ok
  obtain ⟨_,platform,ok⟩ := bind_ok.mp ok
  rw [ensure_ok] at contract platform
  rw [ensure_pos ⟨contract.2 ▸ contract.1,contract.2.symm⟩,ok_bind,ensure_pos platform.symm,ok_bind]
  split at ok
  · rename_i certified
    obtain ⟨_,certificate,ok⟩ := bind_ok.mp ok
    rw [ensure_ok] at certificate ok
    rw [if_pos certified.symm,ensure_pos ⟨certificate.2 ▸ certificate.1,certificate.2.symm⟩,ok_bind,ensure_pos ok.symm]
  · rename_i plain
    rw [if_neg (fun certified => plain certified.symm)]
    rfl

theorem admitSame_symm (mine remote : BuildInfo) (ok : admitSame mine remote = .ok ()) :
    admitSame remote mine = .ok () := by
  unfold admitSame at ok ⊢
  split at ok
  · rename_i certified
    rw [if_pos certified.symm]
  · rename_i plain
    obtain ⟨_,contract,ok⟩ := bind_ok.mp ok
    rw [ensure_ok] at contract ok
    rw [if_neg (fun certified => plain certified.symm),ensure_pos contract.symm,ok_bind,ensure_pos ok.symm]

theorem admitBuilds_symm (localSha : Digest) (mine : BuildInfo) (remoteSha : Digest) (remote : BuildInfo)
    (ok : admitBuilds localSha mine remoteSha remote = .ok ()) :
    admitBuilds remoteSha remote localSha mine = .ok () := by
  unfold admitBuilds at ok ⊢
  obtain ⟨_,valid,ok⟩ := bind_ok.mp ok
  obtain ⟨_,peer,ok⟩ := bind_ok.mp ok
  obtain ⟨_,versions,ok⟩ := bind_ok.mp ok
  rw [ensure_ok] at versions
  rw [peer,ok_bind,valid,ok_bind,ensure_pos (fun differ => (versions (Ne.symm differ)).symm),ok_bind]
  split at ok
  · rename_i different
    rw [if_pos different.symm]
    exact admitDifferent_symm localSha mine remoteSha remote ok
  · rename_i same
    rw [if_neg (fun different => same different.symm)]
    exact admitSame_symm mine remote ok

end BuildInfo
end ZeffBoy.Wire
