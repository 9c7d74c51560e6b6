import ZeffBoy.Library.Patch
import ZeffBoy.Link.SerialReplay
import ZeffBoy.GameBoy.Bess
import ZeffBoy.GameBoy.SaveState
import ZeffBoy.GameBoy.Sgb

/-! The save states of the Game Boy and their projection to the format of the replays.
A save state is a native payload and a BESS file. The projection cuts the blocks that later formats added. -/
namespace ZeffBoy.GameBoy
open Library Link.GameBoy

def nativeSaveStateMagic : Bytes := [0x5A,0x42,0x53,0x54,0x41,0x54,0x45,0x00] -- ZBSTATE\0
def bessMagic : Bytes := [0x42,0x45,0x53,0x53] -- BESS
def emulatorName : Bytes := [0x7A,0x65,0x66,0x66,0x2D,0x62,0x6F,0x79] -- zeff-boy
def sgbNativeContinuationMagic : Bytes := [0x53,0x47,0x42,0x43] -- SGBC
def blockName : Bytes := [0x4E,0x41,0x4D,0x45]
def blockInfo : Bytes := [0x49,0x4E,0x46,0x4F]
def blockCore : Bytes := [0x43,0x4F,0x52,0x45]
def blockMbc : Bytes := [0x4D,0x42,0x43,0x20]
def blockRtc : Bytes := [0x52,0x54,0x43,0x20]
def blockZeffPrivateExtension : Bytes := [0x5A,0x42,0x45,0x58]
def blockEnd : Bytes := [0x45,0x4E,0x44,0x20]

def bessMajor : Nat := 1
def bessMinor : Nat := 1
def coreBlockLen : Nat := 0xD0
def infoBlockLen : Nat := 0x12
def rtcBlockLen : Nat := 0x30
def zeffExtensionFramebufferLen : Nat := 160 * 144 * 4
def zeffExtensionBlockLen : Nat := 8 + zeffExtensionFramebufferLen
def nativeLastOpcodeEnd : Nat := 100
def sgbNativeContinuationPayloadLen : Nat := 114
def sgbNativeContinuationBlockLen : Nat := 8 + sgbNativeContinuationPayloadLen

inductive HardwareModePreference
  | auto
  | forceDmg
  | forceCgb
  | forceSgb

inductive ImeState
  | enabled
  | disabled
  | pendingEnable

inductive CpuState
  | running
  | halted
  | stopped
  | interruptHandling
  | reset
  | suspended

structure Registers where
  a : UInt8
  f : UInt8
  b : UInt8
  c : UInt8
  d : UInt8
  e : UInt8
  h : UInt8
  l : UInt8

structure Cpu where
  pc : UInt16
  sp : UInt16
  regs : Registers
  ime : ImeState
  running : CpuState
  cycles : UInt64
  lastStepCycles : UInt64
  timedCyclesAccounted : UInt64
  haltBugActive : Bool

namespace Cartridge

def mbcRamBytes : Cartridge → Bytes
  | .romOnly c => c.ram
  | .mbc1 c => c.ram
  | .mbc2 c => c.ram.toList
  | .mbc3 c => c.ram
  | .mbc5 c => c.ram
  | .mbc7 c => c.eeprom.toList
  | .huC1 c => c.ram
  | .huC3 c => c.ram
  | .pocketCamera c => c.ram

def romBytes : Cartridge → Bytes
  | .romOnly c => c.rom
  | .mbc1 c => c.rom
  | .mbc2 c => c.rom
  | .mbc3 c => c.rom
  | .mbc5 c => c.rom
  | .mbc7 c => c.rom
  | .huC1 c => c.rom
  | .huC3 c => c.rom
  | .pocketCamera c => c.rom

def bessRtcData : Cartridge → Option (RtcRegisters × RtcRegisters)
  | .mbc3 c => if c.hasRtc then some (c.rtc.internal,c.rtc.latched) else none
  | _ => none

end Cartridge

/-- What a save state takes from the bus. The projection passes over the payload of the bus as one string: what grows in it
are the jobs of the printer, of which there are at most 1024. -/
structure Bus where
  cartridge : Cartridge
  vram : List.Vector UInt8 0x4000
  wram : List.Vector UInt8 0x8000
  oam : List.Vector UInt8 0xA0
  hram : List.Vector UInt8 0x7F
  ie : UInt8
  bgPaletteRam : List.Vector UInt8 0x40
  objPaletteRam : List.Vector UInt8 0x40
  cgbMode : Bool
  lcdFramebuffer : List.Vector UInt8 zeffExtensionFramebufferLen
  ioRegisterSnapshot : List.Vector UInt8 0x80
  sgb : SgbState
  state : Bytes
  ramFits : cartridge.mbcRamBytes.length ≤ maxSaveRam
  sgbFits : sgb.multiPacketData.length ≤ multiPacketCapacity
  stateFits : state.length < 2^30

structure SaveStateRef where
  version : UInt32
  romHash : List.Vector UInt8 32
  cpu : Cpu
  bus : Bus
  hardwareModePreference : HardwareModePreference
  hardwareMode : HardwareMode
  cycleCount : UInt64
  lastOpcode : UInt8
  lastOpcodePc : UInt16
  bootRomEnabled : Bool
  frameCount : UInt64

def encodeImeState : ImeState → UInt8
  | .enabled => 0
  | .disabled => 1
  | .pendingEnable => 2

def encodeCpuState : CpuState → UInt8
  | .running => 0
  | .halted => 1
  | .stopped => 2
  | .interruptHandling => 3
  | .reset => 4
  | .suspended => 5

def encodeModePreference : HardwareModePreference → UInt8
  | .auto => 0
  | .forceDmg => 1
  | .forceCgb => 2
  | .forceSgb => 3

def modeToBessModel : HardwareMode → Bytes
  | .dmg => [0x47,0x44,0x20,0x20]
  | .sgb1 => [0x53,0x4E,0x20,0x20]
  | .sgb2 => [0x53,0x32,0x20,0x20]
  | .cgbNormal | .cgbDouble => [0x43,0x43,0x20,0x20]

def bessIme : ImeState → UInt8
  | .enabled | .pendingEnable => 1
  | .disabled => 0

def bessCpuState : CpuState → UInt8
  | .running | .interruptHandling => 0
  | .halted => 1
  | .stopped | .reset | .suspended => 2

def Cpu.writeState (self : Cpu) : Bytes :=
  writeU16 self.pc.toNat ++ writeU16 self.sp.toNat ++
    [self.regs.a,self.regs.f,self.regs.b,self.regs.c,self.regs.d,self.regs.e,self.regs.h,self.regs.l] ++
    [encodeImeState self.ime,encodeCpuState self.running] ++ writeU64 self.cycles.toNat ++
    writeU64 self.lastStepCycles.toNat ++ writeU64 self.timedCyclesAccounted.toNat ++ [self.haltBugActive.toUInt8]

namespace SaveStateRef

-- The native payload behind its version.
def nativeFields (state : SaveStateRef) : Bytes :=
  writeU32 state.version.toNat ++ state.romHash.toList ++ state.cpu.writeState ++
    [encodeModePreference state.hardwareModePreference] ++ [encodeHardwareMode state.hardwareMode] ++
    writeU64 state.cycleCount.toNat ++ [state.lastOpcode] ++ writeU16 state.lastOpcodePc.toNat ++ state.bus.state ++
    [state.bootRomEnabled.toUInt8]

def nativePayload (state : SaveStateRef) (formatVersion : Nat) : Bytes :=
  nativeSaveStateMagic ++ (writeU32 formatVersion ++ state.nativeFields)

def sgbNativeContinuation (state : SaveStateRef) : Bytes :=
  sgbNativeContinuationMagic ++ writeU32 sgbNativeContinuationPayloadLen ++ state.bus.sgb.writeNativeContinuation

end SaveStateRef

structure BessMemoryLayout where
  ramOffset : Nat
  ramSize : Nat
  vramOffset : Nat
  vramSize : Nat
  mbcRamOffset : Nat
  mbcRamSize : Nat
  oamOffset : Nat
  hramOffset : Nat
  bgPalOffset : Nat
  bgPalSize : Nat
  objPalOffset : Nat
  objPalSize : Nat

def writeBlockHeader (id : Bytes) (len : Nat) : Bytes := id ++ writeU32 len

namespace SaveStateRef

def bessMemory (state : SaveStateRef) : Bytes :=
  state.bus.cartridge.mbcRamBytes ++ state.bus.vram.toList ++ state.bus.wram.toList ++ state.bus.oam.toList ++
    state.bus.hram.toList ++ if state.hardwareMode.isCgb then state.bus.bgPaletteRam.toList ++ state.bus.objPaletteRam.toList
      else []

/-- Where the buffers lie when the writer is at `position`. -/
def bessMemoryLayout (state : SaveStateRef) (position : Nat) : BessMemoryLayout :=
  let mbcRamSize := state.bus.cartridge.mbcRamBytes.length
  let vramOffset := position + mbcRamSize
  let ramOffset := vramOffset + 0x4000
  let oamOffset := ramOffset + 0x8000
  let hramOffset := oamOffset + 0xA0
  let palettes := hramOffset + 0x7F
  let cgb := state.hardwareMode.isCgb
  {ramOffset
   ramSize := 0x8000
   vramOffset
   vramSize := 0x4000
   mbcRamOffset := position
   mbcRamSize
   oamOffset
   hramOffset
   bgPalOffset := if cgb then palettes else 0
   bgPalSize := if cgb then 0x40 else 0
   objPalOffset := if cgb then palettes + 0x40 else 0
   objPalSize := if cgb then 0x40 else 0}

def ioSnapshot (state : SaveStateRef) : List.Vector UInt8 0x80 :=
  let snapshot := state.bus.ioRegisterSnapshot
  (if state.hardwareMode.isCgb then snapshot.set ⟨0x4C,by decide⟩ (if state.bus.cgbMode then 0x80 else 0x04)
    else snapshot).set ⟨0x50,by decide⟩ 0x01

def coreRegisters (state : SaveStateRef) : Bytes :=
  let pair := fun (high low : UInt8) => writeU16 (high.toNat * 256 + low.toNat)
  let regs := state.cpu.regs
  writeU16 bessMajor ++ writeU16 bessMinor ++ modeToBessModel state.hardwareMode ++ writeU16 state.cpu.pc.toNat ++
    pair regs.a regs.f ++ pair regs.b regs.c ++ pair regs.d regs.e ++ pair regs.h regs.l ++ writeU16 state.cpu.sp.toNat ++
    [bessIme state.cpu.ime,state.bus.ie,bessCpuState state.cpu.running,0] ++ state.ioSnapshot.toList

-- The seven buffers, in the order of the CORE block: a size and an offset each.
def coreBuffers (memory : BessMemoryLayout) : List (Nat × Nat) :=
  [(memory.ramSize,memory.ramOffset),(memory.vramSize,memory.vramOffset),(memory.mbcRamSize,memory.mbcRamOffset),
    (0xA0,memory.oamOffset),(0x7F,memory.hramOffset),(memory.bgPalSize,memory.bgPalOffset),
    (memory.objPalSize,memory.objPalOffset)]

def writeBuffers (buffers : List (Nat × Nat)) : Bytes :=
  buffers.flatMap fun buffer => writeU32 buffer.1 ++ writeU32 buffer.2

def coreBody (state : SaveStateRef) (memory : BessMemoryLayout) : Bytes :=
  state.coreRegisters ++ writeBuffers (coreBuffers memory)

def nameBlock : Bytes := writeBlockHeader blockName emulatorName.length ++ emulatorName

def infoBlock (state : SaveStateRef) : Bytes :=
  let rom := state.bus.cartridge.romBytes
  if 0x150 ≤ rom.length then writeBlockHeader blockInfo infoBlockLen ++ slice rom 0x134 0x144 ++ slice rom 0x14E 0x150 else []

def mbcBlock (state : SaveStateRef) : Bytes :=
  let mbcWrites := state.bus.cartridge.bessMbcWrites
  if mbcWrites.isEmpty then [] else writeBlockHeader blockMbc (mbcWrites.length * 3) ++
    mbcWrites.flatMap fun write => writeU16 write.1.toNat ++ [write.2]

def rtcBlock (state : SaveStateRef) (nowUnixSeconds : UInt64) : Bytes :=
  match state.bus.cartridge.bessRtcData with
  | none => []
  | some (current,latched) => writeBlockHeader blockRtc rtcBlockLen ++
      (current.toList ++ latched.toList).flatMap (fun register => writeU32 register.toNat) ++ writeU64 nowUnixSeconds.toNat

def zeffExtensionBlock (state : SaveStateRef) : Bytes :=
  writeBlockHeader blockZeffPrivateExtension zeffExtensionBlockLen ++ writeU64 state.frameCount.toNat ++
    state.bus.lcdFramebuffer.toList

/-- What follows the native payload, from the position at which it ends. -/
def bess (state : SaveStateRef) (position : Nat) (zeffExtension : Bool) (nowUnixSeconds : UInt64) : Bytes :=
  state.bessMemory ++ nameBlock ++ state.infoBlock ++
    (writeBlockHeader blockCore coreBlockLen ++ state.coreBody (state.bessMemoryLayout position)) ++ state.mbcBlock ++
    state.rtcBlock nowUnixSeconds ++ (if zeffExtension then state.zeffExtensionBlock else []) ++ writeBlockHeader blockEnd 0 ++
    writeU32 (position + state.bessMemory.length) ++ bessMagic

def encodeStateBytesWithVersion (state : SaveStateRef) (formatVersion : Nat) (nowUnixSeconds : UInt64) : Bytes :=
  let native := state.nativePayload formatVersion ++ if 14 ≤ formatVersion then state.sgbNativeContinuation else []
  native ++ state.bess native.length (13 ≤ formatVersion) nowUnixSeconds

end SaveStateRef

/-- Why a function over the bytes of a file stops: with an error of its own, or at an index that is out of range. -/
inductive Fault
  | bail (message : String)
  | outOfRange
deriving DecidableEq

abbrev Attempt := Except Fault

def bailing {α : Type} (result : Except String α) : Attempt α := result.mapError Fault.bail

def index (bytes : Bytes) (start stop : Nat) : Attempt Bytes :=
  if start ≤ stop ∧ stop ≤ bytes.length then .ok (slice bytes start stop) else .error .outOfRange

def readU32Le (bytes : Bytes) (start : Nat) : Attempt Nat := (index bytes start (start + 4)).map leValue

def drain (bytes : Bytes) (start stop : Nat) : Attempt Bytes :=
  if start ≤ stop ∧ stop ≤ bytes.length then .ok (cut bytes start stop) else .error .outOfRange

structure BessBlock where
  id : Bytes
  headerEnd : Nat
  len : Nat
  dataEnd : Nat

def readBlock (bytes : Bytes) (pos footerStart : Nat) : Attempt BessBlock := do
  let headerEnd ← bailing (checkedAdd pos 8 "BESS block header offset overflow")
  bailing (ensure (headerEnd ≤ footerStart) "BESS block header truncated")
  let id ← index bytes pos (pos + 4)
  let len ← readU32Le bytes (pos + 4)
  let dataEnd ← bailing (checkedAdd headerEnd len "BESS block data offset overflow")
  bailing (ensure (dataEnd ≤ footerStart) "BESS block data truncated")
  return {id, headerEnd, len, dataEnd}

theorem bailing_ok {α : Type} (result : Except String α) (value : α) : bailing result = .ok value ↔ result = .ok value := by
  cases result <;> simp [bailing,Except.mapError]

theorem readBlock_ok {bytes : Bytes} {pos footerStart : Nat} {block : BessBlock}
    (read : readBlock bytes pos footerStart = .ok block) :
    block.headerEnd = pos + 8 ∧ block.dataEnd = pos + 8 + block.len ∧ block.dataEnd ≤ footerStart := by
  simp only [readBlock,bind_ok,bailing_ok,checkedAdd_ok,ensure_ok,pure,Except.pure,Except.ok.injEq] at read
  obtain ⟨_,⟨_,rfl⟩,_,_,_,_,len,_,_,⟨_,rfl⟩,_,inside,rfl⟩ := read
  exact ⟨rfl,rfl,inside⟩

def hasBessFooter (bytes : Bytes) : Bool := 8 ≤ bytes.length ∧ slice bytes (bytes.length - 4) bytes.length = bessMagic

def bessFirstBlockOffset (bytes : Bytes) : Attempt Nat := do
  bailing (ensure (hasBessFooter bytes) "native save state is missing BESS footer")
  readU32Le bytes (bytes.length - 8)

/-- Where the data of the CORE block begins. -/
def findCore (bytes : Bytes) (pos footerStart : Nat) : Attempt Nat :=
  if pos < footerStart then
    match _read : readBlock bytes pos footerStart with
    | .error fault => .error fault
    | .ok block =>
      if block.id = blockCore then do
        bailing (ensure (block.len = coreBlockLen) "invalid BESS CORE block length")
        return block.headerEnd
      else findCore bytes block.dataEnd footerStart
  else .error (.bail "native save state is missing BESS CORE block")
termination_by footerStart - pos
decreasing_by
  obtain ⟨_,dataEnd,inside⟩ := readBlock_ok _read
  omega

def bessMbcRamOffset (bytes : Bytes) (firstBlockOffset : Nat) : Attempt Nat := do
  let headerEnd ← findCore bytes firstBlockOffset (bytes.length - 8)
  readU32Le bytes (headerEnd + 0xAC)

structure LocatedZeffExtension where
  frameCount : Nat
  lcdFramebuffer : Bytes
  start : Nat
  stop : Nat

def locateBlocks (bytes : Bytes) (footerStart pos : Nat) (located : Option LocatedZeffExtension) :
    Attempt (Option LocatedZeffExtension) :=
  match _read : readBlock bytes pos footerStart with
  | .error fault => .error fault
  | .ok block =>
    if block.id = blockEnd then do
      bailing (ensure (block.len = 0) "BESS END block has non-zero length")
      bailing (ensure (block.dataEnd = footerStart) "BESS data follows END block")
      bailing (ensure (∀ extension ∈ located, extension.stop = pos)
        "native Zeff-private `ZBEX` BESS extension must immediately precede END")
      return located
    else if block.id = blockZeffPrivateExtension then
      match bailing (ensure (located = none) "duplicate Zeff-private `ZBEX` BESS extension") with
      | .error fault => .error fault
      | .ok _ =>
        match bailing (ensure (block.len = zeffExtensionBlockLen)
          s!"invalid Zeff-private `ZBEX` BESS extension length {block.len} (expected {zeffExtensionBlockLen})") with
        | .error fault => .error fault
        | .ok _ =>
          match index bytes block.headerEnd (block.headerEnd + 8),index bytes (block.headerEnd + 8) block.dataEnd with
          | .ok frameCount,.ok lcdFramebuffer =>
            locateBlocks bytes footerStart block.dataEnd
              (some {frameCount := leValue frameCount, lcdFramebuffer, start := pos, stop := block.dataEnd})
          | _,_ => .error .outOfRange
    else locateBlocks bytes footerStart block.dataEnd located
termination_by footerStart - pos
decreasing_by
  all_goals
    obtain ⟨_,dataEnd,inside⟩ := readBlock_ok _read
    omega

def locateZeffExtension (bytes : Bytes) (minimumFirstBlockOffset : Nat) : Attempt (Option LocatedZeffExtension) := do
  bailing (ensure (hasBessFooter bytes) "native save state is missing BESS footer")
  let footerStart := bytes.length - 8
  let firstOffset ← readU32Le bytes footerStart
  bailing (ensure (minimumFirstBlockOffset ≤ firstOffset) "BESS first-block offset precedes completed native payload")
  bailing (ensure (firstOffset < footerStart) "BESS first-block offset out of range")
  locateBlocks bytes footerStart firstOffset none

/-- Where the continuation of the packet decoder begins; it ends where the native payload does. -/
def sgbNativeContinuationStart (bytes : Bytes) (nativePayloadEnd : Nat) : Attempt Nat := do
  let start ← bailing (checkedSub nativePayloadEnd sgbNativeContinuationBlockLen "SGB native continuation offset underflow")
  let magic ← index bytes start (start + 4)
  bailing (ensure (magic = sgbNativeContinuationMagic) "invalid SGB native continuation header")
  let payloadLen ← readU32Le bytes (start + 4)
  bailing (ensure (payloadLen = sgbNativeContinuationPayloadLen) s!"invalid SGB native continuation length {payloadLen}")
  return start

def coreOffsets : List Nat := [0x9C,0xA4,0xAC,0xB4,0xBC,0xC4,0xCC]

def adjustOffsets (bytes : Bytes) (headerEnd removedStart removedLen : Nat) : List Nat → Attempt Unit × Bytes
  | [] => (.ok (),bytes)
  | offset::offsets =>
    match readU32Le bytes (headerEnd + offset) with
    | .error fault => (.error fault,bytes)
    | .ok value =>
      if removedStart ≤ value ∧ value ≠ 0 then
        match bailing (checkedSub value removedLen "BESS memory offset underflow") with
        | .error fault => (.error fault,bytes)
        | .ok adjusted =>
          adjustOffsets (overwrite bytes (headerEnd + offset) (writeU32 adjusted)) headerEnd removedStart removedLen offsets
      else adjustOffsets bytes headerEnd removedStart removedLen offsets

def adjustBessOffsetsAfterRemoval (bytes : Bytes) (originalFirstBlockOffset removedStart removedLen : Nat) :
    Attempt Unit × Bytes :=
  if bytes.length < 8 then (.error .outOfRange,bytes)
  else
    let footerStart := bytes.length - 8
    match bailing (checkedSub originalFirstBlockOffset removedLen "BESS first-block offset underflow") with
    | .error fault => (.error fault,bytes)
    | .ok firstBlockOffset =>
      let relinked := overwrite bytes footerStart (writeU32 firstBlockOffset)
      match findCore relinked firstBlockOffset footerStart with
      | .error fault => (.error fault,relinked)
      | .ok headerEnd => adjustOffsets relinked headerEnd removedStart removedLen coreOffsets

-- The version of a file is the last to change.
def stampVersion (bytes : Bytes) : Attempt Unit × Bytes :=
  if 12 ≤ bytes.length then (.ok (),overwrite bytes 8 (writeU32 12)) else (.error .outOfRange,bytes)

/-- What the projection reads before it changes anything. -/
structure ProjectionPlan where
  located : LocatedZeffExtension
  firstBlockOffset : Nat
  continuation : Option (Nat × Nat)

def planProjection (bytes : Bytes) (formatVersion : Nat) : Attempt ProjectionPlan := do
  let found ← locateZeffExtension bytes nativeLastOpcodeEnd
  let located ← bailing
    (context found "native save state is missing required Zeff-private `ZBEX` BESS extension")
  let firstBlockOffset ← bessFirstBlockOffset bytes
  if 14 ≤ formatVersion then
    let nativePayloadEnd ← bessMbcRamOffset bytes firstBlockOffset
    let start ← sgbNativeContinuationStart bytes nativePayloadEnd
    return {located, firstBlockOffset, continuation := some (start,nativePayloadEnd)}
  else return {located, firstBlockOffset, continuation := none}

/-- The changes themselves; what they leave of the file when they stop halfway is the second component. -/
def applyProjection (bytes : Bytes) (plan : ProjectionPlan) : Attempt Unit × Bytes :=
  match drain bytes plan.located.start plan.located.stop with
  | .error fault => (.error fault,bytes)
  | .ok portable =>
    match plan.continuation with
    | none => stampVersion portable
    | some (start,stop) =>
      match drain portable start stop with
      | .error fault => (.error fault,portable)
      | .ok projected =>
        match adjustBessOffsetsAfterRemoval projected plan.firstBlockOffset start sgbNativeContinuationBlockLen with
        | (.error fault,left) => (.error fault,left)
        | (.ok _,adjusted) => stampVersion adjusted

def projectReplayStateBytes (bytes : Bytes) : Attempt Unit × Bytes :=
  if ¬nativeSaveStateMagic <+: bytes then (.ok (),bytes)
  else if bytes.length < 12 then (.error (.bail "native save-state header is truncated"),bytes)
  else
    let formatVersion := leValue (slice bytes 8 12)
    if formatVersion ≤ 12 then (.ok (),bytes)
    else if formatVersion ≠ 13 ∧ formatVersion ≠ 14 then
      (.error (.bail s!"unsupported native save-state format {formatVersion} for replay projection"),bytes)
    else match planProjection bytes formatVersion with
      | .error fault => (.error fault,bytes)
      | .ok plan => applyProjection bytes plan

end ZeffBoy.GameBoy
