import ZeffBoy.Wire.Build

/-! Admission of a peer: an exchange of hellos, proofs of the shared secret over both hellos,
and a final exchange over the transcript. The hash, the keyed hash and the nonce come from
outside. -/
namespace ZeffBoy.Wire
open Library Netplay List

def helloLen : Nat := 406
def buildInfoOffset : Nat := 243
def authDomain : Bytes := utf8 "zeff-netplay-auth-v1"
def readyDomain : Bytes := utf8 "zeff-netplay-ready-v1"

structure Identity where
  build : Digest
  buildInfo : BuildInfo
  source : Digest
  effective : Digest
  mediaLen : UInt64
  config : Digest
  initial : Digest
  persistent : Digest
  stateFormat : UInt32
deriving DecidableEq

-- The part of a hello that both sides must have in common.
def Identity.session (identity : Identity) : Bytes :=
  identity.source.toList ++ (identity.effective.toList ++ (beBytes 8 identity.mediaLen.toNat ++
    (identity.config.toList ++ (identity.initial.toList ++ (identity.persistent.toList ++
    beBytes 4 identity.stateFormat.toNat)))))

def hello (player : Player) (identity : Identity) (nonce : Digest) : Except String Bytes := do
  let info ← identity.buildInfo.encode
  return magic ++ (beBytes 2 version ++ ([role player] ++ (nonce.toList ++ (identity.build.toList ++
    (identity.session ++ info)))))

theorem Identity.length_session (identity : Identity) : identity.session.length = 172 := by
  simp [session]

theorem beBytes_injective (width left right : Nat) (leftFits : left < 256^width) (rightFits : right < 256^width)
    (same : beBytes width left = beBytes width right) : left = right := by
  rw [← beValue_beBytes width left leftFits,same,beValue_beBytes width right rightFits]

theorem Identity.session_injective (left right : Identity) (same : left.session = right.session) :
    left.source = right.source ∧ left.effective = right.effective ∧ left.mediaLen = right.mediaLen ∧
    left.config = right.config ∧ left.initial = right.initial ∧ left.persistent = right.persistent ∧
    left.stateFormat = right.stateFormat := by
  unfold session at same
  obtain ⟨source,same⟩ := append_inj same (by simp)
  obtain ⟨effective,same⟩ := append_inj same (by simp)
  obtain ⟨mediaLen,same⟩ := append_inj same (by simp)
  obtain ⟨config,same⟩ := append_inj same (by simp)
  obtain ⟨initial,same⟩ := append_inj same (by simp)
  obtain ⟨persistent,stateFormat⟩ := append_inj same (by simp)
  exact ⟨List.Vector.toList_injective source,List.Vector.toList_injective effective,
    UInt64.toNat_inj.mp (beBytes_injective 8 _ _ left.mediaLen.toNat_lt right.mediaLen.toNat_lt mediaLen),
    List.Vector.toList_injective config,List.Vector.toList_injective initial,List.Vector.toList_injective persistent,
    UInt32.toNat_inj.mp (beBytes_injective 4 _ _ left.stateFormat.toNat_lt right.stateFormat.toNat_lt stateFormat)⟩

section Hello
variable (player : Player) (identity : Identity) (nonce : Digest) (bytes : Bytes)
  (ok : hello player identity nonce = .ok bytes)
include ok

theorem hello_layout : identity.buildInfo.validate = .ok () ∧ bytes = magic ++ (beBytes 2 version ++ ([role player] ++
    (nonce.toList ++ (identity.build.toList ++ (identity.session ++ identity.buildInfo.layout))))) := by
  obtain ⟨info,encoded,ok⟩ := bind_ok.mp ok
  obtain ⟨_,valid,encoded⟩ := bind_ok.mp encoded
  obtain rfl := Except.ok.inj encoded
  obtain rfl := Except.ok.inj ok
  exact ⟨valid,rfl⟩

theorem hello_length : bytes.length = helloLen := by
  obtain ⟨valid,rfl⟩ := hello_layout player identity nonce bytes ok
  have info := identity.buildInfo.layout_length (identity.buildInfo.validate_short valid)
  simp only [length_append,info,identity.length_session]
  simp [encodedLen,helloLen]

theorem hello_role : byteAt bytes 6 = role player := by
  obtain ⟨_,rfl⟩ := hello_layout player identity nonce bytes ok
  simp [byteAt_skip]

theorem hello_build : slice bytes 39 71 = identity.build.toList := by
  obtain ⟨_,rfl⟩ := hello_layout player identity nonce bytes ok
  simp [slice_skip,slice_cons_skip,slice_front]

theorem hello_session : slice bytes 71 buildInfoOffset = identity.session := by
  obtain ⟨_,rfl⟩ := hello_layout player identity nonce bytes ok
  simp [slice_skip,slice_cons_skip,slice_front,buildInfoOffset,identity.length_session]

theorem hello_info : BuildInfo.decode (bytes.drop buildInfoOffset) = .ok identity.buildInfo := by
  obtain ⟨valid,rfl⟩ := hello_layout player identity nonce bytes ok
  have rest : (magic ++ (beBytes 2 version ++ ([role player] ++ (nonce.toList ++ (identity.build.toList ++
      (identity.session ++ identity.buildInfo.layout)))))).drop buildInfoOffset = identity.buildInfo.layout := by
    simp [drop_skip,buildInfoOffset,identity.length_session]
  rw [rest]
  exact identity.buildInfo.decode_layout valid

end Hello

inductive Stage
  | hello
  | authentication
  | ready
  | complete
  | failed
deriving DecidableEq

structure Admission where
  player : Player
  identity : Identity
  secret : Digest
  mine : Bytes
  remote : Bytes
  transcript : Digest
  stage : Stage
deriving DecidableEq

namespace Admission

def new (player : Player) (identity : Identity) (secret nonce : Digest) : Except String Admission := do
  let mine ← Wire.hello player identity nonce
  return ⟨player,identity,secret,mine,List.replicate helloLen 0,noDigest,.hello⟩

-- The hello of player one comes first on both sides.
def hellos (a : Admission) : Bytes × Bytes := if a.player = .one then (a.mine,a.remote) else (a.remote,a.mine)

def transcriptInput (a : Admission) : Bytes := authDomain ++ (a.hellos.1 ++ a.hellos.2)

def authInput (a : Admission) (player : Player) : Bytes := authDomain ++ (a.hellos.1 ++ (a.hellos.2 ++ [role player]))

def readyInput (a : Admission) (player : Player) : Bytes := readyDomain ++ (a.transcript.toList ++ [role player])

def checkHello (a : Admission) (packet : Bytes) : Except String Unit := do
  ensure (packet.length = helloLen) "invalid admission hello length"
  ensure (slice packet 0 4 = magic) "invalid admission magic"
  ensure (slice packet 4 6 = beBytes 2 version) "unsupported wire version"
  ensure (byteAt packet 6 = role (other a.player)) "incompatible player role"
  ensure (slice packet 71 buildInfoOffset = slice a.mine 71 buildInfoOffset) "session identity mismatch"
  let remoteInfo ← BuildInfo.decode (packet.drop buildInfoOffset)
  let remoteBuild ← context (digest? (slice packet 39 71)) "could not convert slice to array"
  BuildInfo.admitBuilds a.identity.build a.identity.buildInfo remoteBuild remoteInfo

variable (hmac : Digest → Bytes → Digest) (hash : Bytes → Digest)

-- The state after the peer's hello: its transcript covers both hellos.
def greeted (a : Admission) (packet : Bytes) : Admission :=
  {a with
    remote := packet
    transcript := hash {a with remote := packet}.transcriptInput
    stage := .authentication}

def receiveInner (a : Admission) (packet : Bytes) : Except String (Option Bytes × Admission) :=
  match a.stage with
  | .hello => do
    a.checkHello packet
    let a := a.greeted hash packet
    return (some (hmac a.secret (a.authInput a.player)).toList,a)
  | .authentication => do
    verify hmac a.secret (a.authInput (other a.player)) packet
    return (some (hmac a.secret (a.readyInput a.player)).toList,{a with stage := .ready})
  | .ready => do
    verify hmac a.secret (a.readyInput (other a.player)) packet
    return (none,{a with stage := .complete})
  | .complete => .error "admission is terminal"
  | .failed => .error "admission is terminal"

def receive (a : Admission) (packet : Bytes) : Call Admission (Option Bytes) :=
  match a.receiveInner hmac hash packet with
  | .ok (reply,next) => (.ok reply,next)
  | .error error => (.error error,{a with stage := .failed})

end Admission
end ZeffBoy.Wire
