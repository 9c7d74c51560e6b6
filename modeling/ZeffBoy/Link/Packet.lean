import ZeffBoy.Library.Bytes

/-! Packets of a remote link session: the framing around a payload, and its exact round trip. -/
namespace ZeffBoy.Link
open Library

def linkProtocolVersion : UInt8 := 1
def packetMagic : Bytes := [0x5A,0x42,0x4C,0x4B]
def headerLen : Nat := 14

inductive LinkSystemType
  | gameBoy
  | gameGear
  | wonderSwan
deriving DecidableEq

namespace LinkSystemType

def toByte : LinkSystemType → UInt8
  | gameBoy => 1
  | gameGear => 2
  | wonderSwan => 3

def ofByte (value : UInt8) : Option LinkSystemType :=
  match value.toNat with
  | 1 => some gameBoy
  | 2 => some gameGear
  | 3 => some wonderSwan
  | _ => none

@[simp] theorem ofByte_toByte (system : LinkSystemType) : ofByte system.toByte = some system := by
  cases system <;> rfl

end LinkSystemType

inductive LinkPacketKind
  | hello
  | linkEvent
  | disconnect
  | linkState
deriving DecidableEq

namespace LinkPacketKind

def toByte : LinkPacketKind → UInt8
  | hello => 1
  | linkEvent => 2
  | disconnect => 3
  | linkState => 4

def ofByte (value : UInt8) : Option LinkPacketKind :=
  match value.toNat with
  | 1 => some hello
  | 2 => some linkEvent
  | 3 => some disconnect
  | 4 => some linkState
  | _ => none

@[simp] theorem ofByte_toByte (kind : LinkPacketKind) : ofByte kind.toByte = some kind := by
  cases kind <;> rfl

end LinkPacketKind

structure LinkPacket where
  system : LinkSystemType
  endpoint : UInt8
  transferId : UInt32
  kind : LinkPacketKind
  payload : Bytes
deriving DecidableEq

inductive LinkPacketDecodeError
  | tooShort
  | badMagic
  | unsupportedVersion (version : UInt8)
  | unknownSystem (system : UInt8)
  | unknownKind (kind : UInt8)
  | lengthMismatch (expected actual : Nat)
deriving DecidableEq

inductive LinkTransportError
  | disconnected
  | sendQueueClosed
deriving DecidableEq

inductive LinkSessionError
  | transport (error : LinkTransportError)
  | decode (error : LinkPacketDecodeError)
  | malformedPacketPayload
  | unexpectedSystem (expected actual : LinkSystemType)
  | incompatibleSystems
deriving DecidableEq

def readU16 (payload : Bytes) (offset : Nat) : Nat := leValue (slice payload offset (offset + 2))

def readU32 (payload : Bytes) (offset : Nat) : UInt32 := UInt32.ofNat (leValue (slice payload offset (offset + 4)))

def readU64 (payload : Bytes) (offset : Nat) : UInt64 := UInt64.ofNat (leValue (slice payload offset (offset + 8)))

theorem ofNat_leBytes_word32 (value : UInt32) : UInt32.ofNat (leValue (leBytes 4 value.toNat)) = value := by
  rw [leValue_leBytes 4 _ value.toNat_lt,UInt32.ofNat_toNat]

theorem ofNat_leBytes_word64 (value : UInt64) : UInt64.ofNat (leValue (leBytes 8 value.toNat)) = value := by
  rw [leValue_leBytes 8 _ value.toNat_lt,UInt64.ofNat_toNat]

namespace LinkPacket

/-- The bytes of a packet. A payload beyond the length field is refused by an assertion. -/
def encode (packet : LinkPacket) : Bytes :=
  packetMagic ++ (linkProtocolVersion::packet.system.toByte::packet.endpoint::packet.kind.toByte::
    (leBytes 4 packet.transferId.toNat ++ (leBytes 2 packet.payload.length ++ packet.payload)))

def decode (input : Bytes) : Except LinkPacketDecodeError LinkPacket :=
  if input.length < headerLen then .error .tooShort
  else if input.take 4 ≠ packetMagic then .error .badMagic
  else if byteAt input 4 ≠ linkProtocolVersion then .error (.unsupportedVersion (byteAt input 4))
  else
    match LinkSystemType.ofByte (byteAt input 5), LinkPacketKind.ofByte (byteAt input 7) with
    | none, _ => .error (.unknownSystem (byteAt input 5))
    | some _, none => .error (.unknownKind (byteAt input 7))
    | some system, some kind =>
      if input.length ≠ headerLen + readU16 input 12 then
        .error (.lengthMismatch (headerLen + readU16 input 12) input.length)
      else .ok ⟨system,byteAt input 6,readU32 input 8,kind,input.drop headerLen⟩

theorem length_encode (packet : LinkPacket) : packet.encode.length = headerLen + packet.payload.length := by
  simp [encode,packetMagic,headerLen]
  omega

theorem decode_encode (packet : LinkPacket) (fits : packet.payload.length < 65536) : decode packet.encode = .ok packet := by
  obtain ⟨system,endpoint,transferId,kind,payload⟩ := packet
  have length := length_encode ⟨system,endpoint,transferId,kind,payload⟩
  have front : (encode ⟨system,endpoint,transferId,kind,payload⟩).take 4 = packetMagic := by simp [encode,packetMagic]
  have sizeField : readU16 (encode ⟨system,endpoint,transferId,kind,payload⟩) 12 = payload.length := by
    simp [readU16,encode,packetMagic,slice_cons_skip,slice_skip,slice_front]
    exact leValue_leBytes 2 _ (by simpa using fits)
  have idField : readU32 (encode ⟨system,endpoint,transferId,kind,payload⟩) 8 = transferId := by
    simp [readU32,encode,packetMagic,slice_cons_skip,slice_front,ofNat_leBytes_word32]
  have rest : (encode ⟨system,endpoint,transferId,kind,payload⟩).drop headerLen = payload := by
    simp [encode,packetMagic,headerLen,drop_skip]
  have versionField : byteAt (encode ⟨system,endpoint,transferId,kind,payload⟩) 4 = linkProtocolVersion := rfl
  have systemField : byteAt (encode ⟨system,endpoint,transferId,kind,payload⟩) 5 = system.toByte := rfl
  have endpointField : byteAt (encode ⟨system,endpoint,transferId,kind,payload⟩) 6 = endpoint := rfl
  have kindField : byteAt (encode ⟨system,endpoint,transferId,kind,payload⟩) 7 = kind.toByte := rfl
  simp only [decode,front,versionField,systemField,kindField,endpointField,sizeField,idField,rest,length,
    LinkSystemType.ofByte_toByte,LinkPacketKind.ofByte_toByte]
  simp [headerLen]

end LinkPacket

/-- The framing half of a link session; the transport carries the bytes. -/
structure LinkSession where
  system : LinkSystemType
  endpoint : UInt8
  nextTransferId : UInt32
deriving DecidableEq

namespace LinkSession

def new (system : LinkSystemType) (endpoint : UInt8) : LinkSession := ⟨system,endpoint,0⟩

def send (session : LinkSession) (kind : LinkPacketKind) (payload : Bytes) : Bytes × LinkSession :=
  (LinkPacket.encode ⟨session.system,session.endpoint,session.nextTransferId,kind,payload⟩,
    {session with nextTransferId := session.nextTransferId + 1})

/-- What `try_receive_packet` makes of the bytes the transport hands over. -/
def receivePacket (session : LinkSession) (bytes : Bytes) : Except LinkSessionError LinkPacket :=
  match LinkPacket.decode bytes with
  | .error error => .error (.decode error)
  | .ok packet =>
    if packet.system ≠ session.system then .error (.unexpectedSystem session.system packet.system) else .ok packet

end LinkSession

end ZeffBoy.Link
