import ZeffBoy.GameBoy.Cartridge

/-! The save states of the mappers.
A mapper reads back what it wrote. `loaded` says what that is: the ROM is not saved, and the registers
that are not written start anew. -/
namespace ZeffBoy.GameBoy
open Library StateReader

theorem maxSaveRam_word : maxSaveRam < 2^32 := by decide

namespace RomOnly

def writeState (self : RomOnly) : Bytes := writeLen self.ram.length ++ self.ram

def readState : Reader RomOnly := do
  let ram ← readVec maxSaveRam
  return {rom := [], ram}

def loaded (self : RomOnly) : RomOnly := {self with rom := []}

theorem run_readState (self : RomOnly) (fits : self.ram.length ≤ maxSaveRam) (rest : Bytes) :
    readState (self.writeState ++ rest) = .ok (self.loaded,rest) := by
  simp [readState,writeState,loaded,run_readVec self.ram maxSaveRam fits maxSaveRam_word]

end RomOnly

namespace Mbc1

def writeState (self : Mbc1) : Bytes :=
  writeLen self.ram.length ++ (self.ram ++ (self.ramEnable.toUInt8::(writeU64 self.romBank ++
    (writeU64 self.ramBank ++ (self.bankingMode.toUInt8::writeU64 self.romBankMask)))))

def readState : Reader Mbc1 := do
  let ram ← readVec maxSaveRam
  let ramEnable ← readBool
  let romBank ← readU64
  let ramBank ← readU64
  let bankingMode ← readBool
  let romBankMask ← readU64
  return {rom := [], ram, ramEnable, romBank, ramBank, bankingMode, romBankMask, multicart := false}

def loaded (self : Mbc1) : Mbc1 :=
  {self with rom := [], romBankMask := leValue (leBytes 8 self.romBankMask), multicart := false}

theorem run_readState (self : Mbc1) (fits : self.ram.length ≤ maxSaveRam) (romBank : self.romBank < 2^64)
    (ramBank : self.ramBank < 2^64) (rest : Bytes) : readState (self.writeState ++ rest) = .ok (self.loaded,rest) := by
  simp [readState,writeState,loaded,run_readVec self.ram maxSaveRam fits maxSaveRam_word,run_readU64 _ romBank,
    run_readU64 _ ramBank,run_readU64_any]

end Mbc1

namespace Mbc2

def writeState (self : Mbc2) : Bytes := self.ram.toList ++ (self.ramEnable.toUInt8::writeU64 self.romBank)

def readState : Reader Mbc2 := do
  let ram ← readExact 0x200
  let ramEnable ← readBool
  let romBank ← readU64
  return {rom := [], ram, ramEnable, romBank}

def loaded (self : Mbc2) : Mbc2 := {self with rom := []}

theorem run_readState (self : Mbc2) (romBank : self.romBank < 2^64) (rest : Bytes) :
    readState (self.writeState ++ rest) = .ok (self.loaded,rest) := by
  simp [readState,writeState,loaded,run_readU64 _ romBank]

end Mbc2

namespace Mbc3

def sanitizeRegisters (registers : RtcRegisters) : RtcRegisters :=
  List.Vector.ofFn fun index => sanitizeRtcRegister index (registers.get index)

def writeState (self : Mbc3) : Bytes :=
  writeLen self.ram.length ++ (self.ram ++ (self.hasRtc.toUInt8::self.ramEnable.toUInt8::(writeU64 self.romBank ++
    (self.ramOrRtcSelect::self.rtcLatchWrite::(self.rtc.internal.toList ++ (self.rtc.latched.toList ++
      writeU64 self.rtc.subsecondCycles))))))

def readState : Reader Mbc3 := do
  let ram ← readVec maxSaveRam
  let hasRtc ← readBool
  let ramEnable ← readBool
  let romBank ← readU64
  let ramOrRtcSelect ← readU8
  let rtcLatchWrite ← readU8
  let internal ← readExact rtcRegCount
  let latched ← readExact rtcRegCount
  let rawValue ← readU64
  let subsecondCycles := if rawValue < gbTCyclesPerSecond then rawValue else 0
  return {
    rom := []
    ram
    hasRtc
    ramEnable
    romBank
    ramOrRtcSelect := ramOrRtcSelect &&& 0x0F
    rtcLatchWrite
    rtc := ⟨sanitizeRegisters internal,sanitizeRegisters latched,subsecondCycles⟩}

def loaded (self : Mbc3) : Mbc3 := {self with rom := []}

theorem sanitizeRegisters_clean (registers : RtcRegisters) (clean : Rtc.Sanitized registers) :
    sanitizeRegisters registers = registers := by
  apply List.Vector.ext
  intro index
  rw [sanitizeRegisters,List.Vector.get_ofFn]
  exact clean index

theorem run_readState (self : Mbc3) (fits : self.ram.length ≤ maxSaveRam) (romBank : self.romBank < 2^64)
    (select : self.ramOrRtcSelect &&& 0x0F = self.ramOrRtcSelect) (rtc : self.rtc.Sound) (rest : Bytes) :
    readState (self.writeState ++ rest) = .ok (self.loaded,rest) := by
  have running : self.rtc.subsecondCycles < 2^64 := rtc.subsecondCycles.trans (by decide)
  have internal := sanitizeRegisters_clean _ rtc.internal
  have latched := sanitizeRegisters_clean _ rtc.latched
  simp [readState,writeState,loaded,run_readVec self.ram maxSaveRam fits maxSaveRam_word,run_readU64 _ romBank,
    run_readU64 _ running,select,internal,latched,rtc.subsecondCycles]

end Mbc3

namespace Mbc5

def writeState (self : Mbc5) : Bytes :=
  writeLen self.ram.length ++ (self.ram ++ (self.ramEnable.toUInt8::(writeU64 self.romBank ++ writeU64 self.ramBank)))

def readState : Reader Mbc5 := do
  let ram ← readVec maxSaveRam
  let ramEnable ← readBool
  let romBank ← readU64
  let ramBank ← readU64
  return {rom := [], ram, ramEnable, romBank, ramBank, hasRumble := false, rumbleActive := false}

def loaded (self : Mbc5) : Mbc5 := {self with rom := [], hasRumble := false, rumbleActive := false}

theorem run_readState (self : Mbc5) (fits : self.ram.length ≤ maxSaveRam) (romBank : self.romBank < 2^64)
    (ramBank : self.ramBank < 2^64) (rest : Bytes) : readState (self.writeState ++ rest) = .ok (self.loaded,rest) := by
  simp [readState,writeState,loaded,run_readVec self.ram maxSaveRam fits maxSaveRam_word,run_readU64 _ romBank,
    run_readU64 _ ramBank]

end Mbc5

namespace Mbc7

def writeState (self : Mbc7) : Bytes :=
  self.eeprom.toList ++ (self.ramEnable.toUInt8::(writeU64 self.romBank ++
    [self.ramBankSelect,self.writeEnable.toUInt8]))

def readState : Reader Mbc7 := do
  let eeprom ← readExact eepromSize
  let ramEnable ← readBool
  let romBank ← readU64
  let ramBankSelect ← readU8
  let writeEnable ← readBool
  return {new [] with eeprom, ramEnable, romBank, ramBankSelect, writeEnable}

def loaded (self : Mbc7) : Mbc7 :=
  {new [] with
    eeprom := self.eeprom
    ramEnable := self.ramEnable
    romBank := self.romBank
    ramBankSelect := self.ramBankSelect
    writeEnable := self.writeEnable}

theorem run_readState (self : Mbc7) (romBank : self.romBank < 2^64) (rest : Bytes) :
    readState (self.writeState ++ rest) = .ok (self.loaded,rest) := by
  simp [readState,writeState,loaded,run_readU64 _ romBank]

end Mbc7

namespace HuC1

def writeState (self : HuC1) : Bytes :=
  writeLen self.ram.length ++ (self.ram ++ (self.ramEnable.toUInt8::(writeU64 self.romBank ++
    (writeU64 self.ramBank ++ (self.bankingMode.toUInt8::writeU64 self.romHighAddress)))))

def readState : Reader HuC1 := do
  let ram ← readVec maxSaveRam
  let ramEnable ← readBool
  let romBank ← readU64
  let ramBank ← readU64
  let bankingMode ← readBool
  let romHighAddress ← readU64
  return {rom := [], ram, ramEnable, romBank, ramBank, bankingMode, romHighAddress}

def loaded (self : HuC1) : HuC1 := {self with rom := []}

theorem run_readState (self : HuC1) (fits : self.ram.length ≤ maxSaveRam) (romBank : self.romBank < 2^64)
    (ramBank : self.ramBank < 2^64) (romHighAddress : self.romHighAddress < 2^64) (rest : Bytes) :
    readState (self.writeState ++ rest) = .ok (self.loaded,rest) := by
  simp [readState,writeState,loaded,run_readVec self.ram maxSaveRam fits maxSaveRam_word,run_readU64 _ romBank,
    run_readU64 _ ramBank,run_readU64 _ romHighAddress]

end HuC1

namespace HuC3

def writeState (self : HuC3) : Bytes :=
  writeLen self.ram.length ++ (self.ram ++ (self.ramEnable.toUInt8::(writeU64 self.romBank ++
    (writeU64 self.ramBank ++ (self.ramFlag::(writeU64 self.rtcBaseTime.toNat ++ (writeU32 self.rtcDatetime.toNat ++
      (writeU32 self.rtcWritingTime.toNat ++
        [self.rtcClockShift,self.rtcTimerRead.toUInt8,self.rtcReadValue]))))))))

def readState : Reader HuC3 := do
  let ram ← readVec maxSaveRam
  let ramEnable ← readBool
  let romBank ← readU64
  let ramBank ← readU64
  let ramFlag ← readU8
  let rtcBaseTime ← readU64
  let rtcDatetime ← readU32
  let rtcWritingTime ← readU32
  let rtcClockShift ← readU8
  let rtcTimerRead ← readBool
  let rtcReadValue ← readU8
  return {
    rom := []
    ram
    ramEnable
    romBank
    ramBank
    ramFlag
    rtcBaseTime := UInt64.ofNat rtcBaseTime
    rtcDatetime := UInt32.ofNat rtcDatetime
    rtcWritingTime := UInt32.ofNat rtcWritingTime
    rtcClockShift
    rtcTimerRead
    rtcReadValue}

def loaded (self : HuC3) : HuC3 := {self with rom := []}

theorem run_readState (self : HuC3) (fits : self.ram.length ≤ maxSaveRam) (romBank : self.romBank < 2^64)
    (ramBank : self.ramBank < 2^64) (rest : Bytes) : readState (self.writeState ++ rest) = .ok (self.loaded,rest) := by
  simp [readState,writeState,loaded,run_readVec self.ram maxSaveRam fits maxSaveRam_word,run_readU64 _ romBank,
    run_readU64 _ ramBank,run_readU64 _ self.rtcBaseTime.toNat_lt,run_readU32 _ self.rtcDatetime.toNat_lt,
    run_readU32 _ self.rtcWritingTime.toNat_lt]

end HuC3

namespace PocketCamera

def writeState (self : PocketCamera) : Bytes :=
  writeLen self.ram.length ++ (self.ram ++ (self.ramEnable.toUInt8::(writeU64 self.romBank ++
    (writeU64 self.ramBank ++ (self.sensorRegs.toList ++ (self.captureActive.toUInt8::
      writeU64 self.captureCyclesRemaining))))))

def readState : Reader PocketCamera := do
  let ram ← readVec maxSaveRam
  let ramEnable ← readBool
  let romBank ← readU64
  let ramBank ← readU64
  let sensorRegs ← readExact sensorRegCount
  let captureActive ← readBool
  let captureCyclesRemaining ← readU64
  let hostFrame := List.replicate cameraPixels 0xFF
  return {rom := [], ram, ramEnable, romBank, ramBank, sensorRegs, captureActive, captureCyclesRemaining, hostFrame}

def loaded (self : PocketCamera) : PocketCamera := {self with rom := [], hostFrame := List.replicate cameraPixels 0xFF}

theorem run_readState (self : PocketCamera) (fits : self.ram.length ≤ maxSaveRam) (romBank : self.romBank < 2^64)
    (ramBank : self.ramBank < 2^64) (capture : self.captureCyclesRemaining < 2^64) (rest : Bytes) :
    readState (self.writeState ++ rest) = .ok (self.loaded,rest) := by
  simp [readState,writeState,loaded,run_readVec self.ram maxSaveRam fits maxSaveRam_word,run_readU64 _ romBank,
    run_readU64 _ ramBank,run_readU64 _ capture]

end PocketCamera

namespace Cartridge

def writeState : Cartridge → Bytes
  | .romOnly c => 0::c.writeState
  | .mbc1 c => 1::c.writeState
  | .mbc2 c => 2::c.writeState
  | .mbc3 c => 3::c.writeState
  | .mbc5 c => 4::c.writeState
  | .mbc7 c => 5::c.writeState
  | .huC1 c => 6::c.writeState
  | .huC3 c => 7::c.writeState
  | .pocketCamera c => 8::c.writeState

def readMapper (mapperTag : UInt8) : Reader Cartridge :=
  match mapperTag.toNat with
  | 0 => .romOnly <$> RomOnly.readState
  | 1 => .mbc1 <$> Mbc1.readState
  | 2 => .mbc2 <$> Mbc2.readState
  | 3 => .mbc3 <$> Mbc3.readState
  | 4 => .mbc5 <$> Mbc5.readState
  | 5 => .mbc7 <$> Mbc7.readState
  | 6 => .huC1 <$> HuC1.readState
  | 7 => .huC3 <$> HuC3.readState
  | 8 => .pocketCamera <$> PocketCamera.readState
  | _ => Reader.fail s!"invalid cartridge mapper tag in save-state file: {mapperTag}"

def readState : Reader Cartridge := do
  let mapperTag ← readU8
  readMapper mapperTag

def restoreRomBytes : Cartridge → Bytes → Cartridge
  | .romOnly c, rom => .romOnly (c.restoreRomBytes rom)
  | .mbc1 c, rom => .mbc1 (c.restoreRomBytes rom)
  | .mbc2 c, rom => .mbc2 (c.restoreRomBytes rom)
  | .mbc3 c, rom => .mbc3 (c.restoreRomBytes rom)
  | .mbc5 c, rom => .mbc5 (c.restoreRomBytes rom)
  | .mbc7 c, rom => .mbc7 (c.restoreRomBytes rom)
  | .huC1 c, rom => .huC1 (c.restoreRomBytes rom)
  | .huC3 c, rom => .huC3 (c.restoreRomBytes rom)
  | .pocketCamera c, rom => .pocketCamera (c.restoreRomBytes rom)

def setRumbleFlag : Cartridge → Bool → Cartridge
  | .mbc5 c, hasRumble => .mbc5 (c.setHasRumble hasRumble)
  | cartridge, _ => cartridge

def loaded : Cartridge → Cartridge
  | .romOnly c => .romOnly c.loaded
  | .mbc1 c => .mbc1 c.loaded
  | .mbc2 c => .mbc2 c.loaded
  | .mbc3 c => .mbc3 c.loaded
  | .mbc5 c => .mbc5 c.loaded
  | .mbc7 c => .mbc7 c.loaded
  | .huC1 c => .huC1 c.loaded
  | .huC3 c => .huC3 c.loaded
  | .pocketCamera c => .pocketCamera c.loaded

theorem run_tagged {α : Type} (tag : UInt8) (wrap : α → Cartridge) (reader : Reader α) (state rest : Bytes) (mapper : α)
    (chosen : readMapper tag = wrap <$> reader) (read : reader (state ++ rest) = .ok (mapper,rest)) :
    readState (tag::state ++ rest) = .ok (wrap mapper,rest) := by
  have tagged : readState (tag::(state ++ rest)) = readMapper tag (state ++ rest) := rfl
  rw [List.cons_append,tagged,chosen,Reader.run_map,read]
  rfl

theorem run_readState (rom : Bytes) (header : RomHeader) (self : Cartridge) (sound : self.Sound rom header) (rest : Bytes) :
    readState (self.writeState ++ rest) = .ok (self.loaded,rest) := by
  have word {value width : Nat} (below : value < 2^width) (narrow : width ≤ 64) : value < 2^64 :=
    below.trans_le (Nat.pow_le_pow_right (by decide) narrow)
  have ramFits : header.ramSize.sizeBytes ≤ maxSaveRam := header.ramSize.sizeBytes_le
  have registers := sound.registers
  cases self with
  | romOnly c =>
    exact run_tagged 0 .romOnly _ c.writeState rest c.loaded rfl
      (c.run_readState (registers.ramLength.trans_le ramFits) rest)
  | mbc1 c =>
    have romBank := word registers.romBank (by decide)
    have ramBank := word registers.ramBank (by decide)
    exact run_tagged 1 .mbc1 _ c.writeState rest c.loaded rfl
      (c.run_readState (registers.ramLength.trans_le ramFits) romBank ramBank rest)
  | mbc2 c =>
    exact run_tagged 2 .mbc2 _ c.writeState rest c.loaded rfl
      (c.run_readState (word registers.romBank (by decide)) rest)
  | mbc3 c =>
    have romBank := word registers.romBank (by decide)
    exact run_tagged 3 .mbc3 _ c.writeState rest c.loaded rfl
      (c.run_readState (registers.ramLength.trans_le ramFits) romBank registers.ramOrRtcSelect registers.rtc rest)
  | mbc5 c =>
    have romBank := word registers.romBank (by decide)
    have bounded : (if header.cartridgeType.isMbc5WithRumble then 2^3 else 2^4) ≤ 2^64 := by split <;> decide
    have ramBank := registers.ramBank.trans_le bounded
    exact run_tagged 4 .mbc5 _ c.writeState rest c.loaded rfl
      (c.run_readState (registers.ramLength.trans_le ramFits) romBank ramBank rest)
  | mbc7 c =>
    exact run_tagged 5 .mbc7 _ c.writeState rest c.loaded rfl
      (c.run_readState (word registers.romBank (by decide)) rest)
  | huC1 c =>
    have romBank := word registers.romBank (by decide)
    have ramBank := word registers.ramBank (by decide)
    have high := word registers.romHighAddress (by decide)
    exact run_tagged 6 .huC1 _ c.writeState rest c.loaded rfl
      (c.run_readState (registers.ramLength.trans_le ramFits) romBank ramBank high rest)
  | huC3 c =>
    have romBank := word registers.romBank (by decide)
    have ramBank := word registers.ramBank (by decide)
    exact run_tagged 7 .huC3 _ c.writeState rest c.loaded rfl
      (c.run_readState (registers.ramLength.trans_le ramFits) romBank ramBank rest)
  | pocketCamera c =>
    have romBank := word registers.romBank (by decide)
    have ramBank := word registers.ramBank (by decide)
    have capture : c.captureCyclesRemaining < 2^64 := registers.captureCyclesRemaining.trans_lt (by decide)
    have cameraFits : (if header.ramSize.sizeBytes = 0 then cameraRamSize else header.ramSize.sizeBytes) ≤ maxSaveRam := by
      split
      · decide
      · exact ramFits
    exact run_tagged 8 .pocketCamera _ c.writeState rest c.loaded rfl
      (c.run_readState (registers.ramLength.trans_le cameraFits) romBank ramBank capture rest)

end Cartridge

end ZeffBoy.GameBoy
