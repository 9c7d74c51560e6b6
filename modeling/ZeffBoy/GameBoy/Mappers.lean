import ZeffBoy.GameBoy.StateFormat

/-! The mappers that only switch banks.
`Sound` says what the registers of a mapper hold in every state its own writes can reach. -/
namespace ZeffBoy.GameBoy
open Library

@[ext] structure RomOnly where
  rom : Bytes
  ram : Bytes

namespace RomOnly

def new (rom : Bytes) (ramSize : Nat) : RomOnly := ⟨rom,List.replicate ramSize 0⟩

def readRom (self : RomOnly) (addr : UInt16) : UInt8 := self.rom.getD addr.toNat 0xFF

def writeRom (self : RomOnly) (_addr : UInt16) (_value : UInt8) : RomOnly := self

def readRam (self : RomOnly) (addr : UInt16) : UInt8 := readBankedRam self.ram 0 addr

def writeRam (self : RomOnly) (addr : UInt16) (value : UInt8) : RomOnly :=
  {self with ram := writeBankedRam self.ram 0 addr value}

def debugInfo (self : RomOnly) : CartridgeDebugInfo := ⟨"ROM_ONLY",0,0,!self.ram.isEmpty,none⟩

def restoreRomBytes (self : RomOnly) (rom : Bytes) : RomOnly := {self with rom}

structure Sound (rom : Bytes) (ramSize : Nat) (mapper : RomOnly) : Prop where
  sameRom : mapper.rom = rom
  ramLength : mapper.ram.length = ramSize

theorem sound_new (rom : Bytes) (ramSize : Nat) : (new rom ramSize).Sound rom ramSize := ⟨rfl,List.length_replicate⟩

theorem Sound.writeRam {rom : Bytes} {ramSize : Nat} {self : RomOnly} (sound : self.Sound rom ramSize)
    (addr : UInt16) (value : UInt8) : (self.writeRam addr value).Sound rom ramSize :=
  {sound with ramLength := (length_writeBankedRam ..).trans sound.ramLength}

end RomOnly

def nintendoLogo : Bytes :=
  [0xCE,0xED,0x66,0x66,0xCC,0x0D,0x00,0x0B,0x03,0x73,0x00,0x83,0x00,0x0C,0x00,0x0D,
   0x00,0x08,0x11,0x1F,0x88,0x89,0x00,0x0E,0xDC,0xCC,0x6E,0xE6,0xDD,0xDD,0xD9,0x99,
   0xBB,0xBB,0x67,0x63,0x6E,0x0E,0xEC,0xCC,0xDD,0xDC,0x99,0x9F,0xBB,0xB9,0x33,0x3E]

def bankHasNintendoLogo (rom : Bytes) (bank : Nat) : Bool :=
  let start := bank * romBankSize + 0x0104
  let stop := start + nintendoLogo.length
  slice rom start stop == nintendoLogo

def detectMbc1Multicart (rom : Bytes) : Bool :=
  rom.length == 64 * romBankSize && [0,16,32,48].all (bankHasNintendoLogo rom)

def mbc1RomBankMask (rom : Bytes) : Nat := (max (rom.length / romBankSize) 1).nextPowerOfTwo - 1

@[ext] structure Mbc1 where
  rom : Bytes
  ram : Bytes
  ramEnable : Bool
  romBank : Nat
  ramBank : Nat
  bankingMode : Bool
  romBankMask : Nat
  multicart : Bool

namespace Mbc1

def new (rom : Bytes) (ramSize : Nat) : Mbc1 where
  rom := rom
  ram := List.replicate ramSize 0
  ramEnable := false
  romBank := 1
  ramBank := 0
  bankingMode := false
  romBankMask := mbc1RomBankMask rom
  multicart := detectMbc1Multicart rom

def fixedAreaRomBank (self : Mbc1) : Nat :=
  if self.multicart then self.ramBank <<< 4 else self.ramBank <<< 5

def switchableRomBank (self : Mbc1) : Nat :=
  let lowBank := if self.romBank = 0 then 1 else self.romBank
  if self.multicart then (self.ramBank <<< 4) ||| (lowBank &&& 0x0F) else lowBank ||| (self.ramBank <<< 5)

def effectiveRamBank (self : Mbc1) : Nat :=
  if !self.bankingMode then 0
  else self.ramBank % max (self.ram.length / ramBankSize) 1

def readRom (self : Mbc1) (addr : UInt16) : UInt8 :=
  let bank :=
    if addr ≤ 0x3FFF ∧ self.bankingMode then self.fixedAreaRomBank
    else if 0x4000 ≤ addr ∧ addr ≤ 0x7FFF then self.switchableRomBank
    else 0
  let physicalBank := bank &&& self.romBankMask
  let physicalAddr := (physicalBank * romBankSize) ||| (addr &&& 0x3FFF).toNat
  self.rom.getD physicalAddr 0xFF

def writeRom (self : Mbc1) (addr : UInt16) (value : UInt8) : Mbc1 :=
  if addr ≤ 0x1FFF then {self with ramEnable := isRamEnable value}
  else if addr ≤ 0x3FFF then {self with romBank := (value &&& 0x1F).toNat}
  else if addr ≤ 0x5FFF then {self with ramBank := (value &&& 0x03).toNat}
  else if addr ≤ 0x7FFF then {self with bankingMode := value &&& 0x01 != 0}
  else self

def readRam (self : Mbc1) (addr : UInt16) : UInt8 :=
  if !self.ramEnable || self.ram.isEmpty then 0xFF
  else readBankedRam self.ram self.effectiveRamBank addr

def writeRam (self : Mbc1) (addr : UInt16) (value : UInt8) : Mbc1 :=
  if !self.ramEnable || self.ram.isEmpty then self
  else {self with ram := writeBankedRam self.ram self.effectiveRamBank addr value}

def debugInfo (self : Mbc1) : CartridgeDebugInfo :=
  ⟨"MBC1",self.switchableRomBank &&& self.romBankMask,self.effectiveRamBank,self.ramEnable,some self.bankingMode⟩

def restoreRomBytes (self : Mbc1) (rom : Bytes) : Mbc1 :=
  {self with rom, romBankMask := mbc1RomBankMask rom, multicart := detectMbc1Multicart rom}

def bessMbcWrites (self : Mbc1) : List (UInt16 × UInt8) :=
  [(0x0000,if self.ramEnable then 0x0A else 0x00),
   (0x2000,UInt8.ofNat (self.romBank &&& 0x1F)),
   (0x4000,UInt8.ofNat (self.ramBank &&& 0x03)),
   (0x6000,self.bankingMode.toUInt8)]

structure Sound (rom : Bytes) (ramSize : Nat) (mapper : Mbc1) : Prop where
  sameRom : mapper.rom = rom
  ramLength : mapper.ram.length = ramSize
  romBank : mapper.romBank < 2^5
  ramBank : mapper.ramBank < 2^2
  romBankMask : mapper.romBankMask = mbc1RomBankMask rom
  multicart : mapper.multicart = detectMbc1Multicart rom

theorem sound_new (rom : Bytes) (ramSize : Nat) : (new rom ramSize).Sound rom ramSize where
  sameRom := rfl
  ramLength := List.length_replicate
  romBank := Nat.one_lt_two_pow (by decide)
  ramBank := Nat.two_pow_pos _
  romBankMask := rfl
  multicart := rfl

theorem Sound.writeRom {rom : Bytes} {ramSize : Nat} {self : Mbc1} (sound : self.Sound rom ramSize)
    (addr : UInt16) (value : UInt8) : (self.writeRom addr value).Sound rom ramSize := by
  unfold Mbc1.writeRom
  split
  · exact {sound with}
  split
  · exact {sound with romBank := masked_lt value 0x1F _ (by decide)}
  split
  · exact {sound with ramBank := masked_lt value 0x03 _ (by decide)}
  split
  · exact {sound with}
  · exact sound

theorem Sound.writeRam {rom : Bytes} {ramSize : Nat} {self : Mbc1} (sound : self.Sound rom ramSize)
    (addr : UInt16) (value : UInt8) : (self.writeRam addr value).Sound rom ramSize := by
  unfold Mbc1.writeRam
  split
  · exact sound
  · exact {sound with ramLength := (length_writeBankedRam ..).trans sound.ramLength}

end Mbc1

@[ext] structure Mbc2 where
  rom : Bytes
  ram : List.Vector UInt8 0x200
  ramEnable : Bool
  romBank : Nat

namespace Mbc2

def new (rom : Bytes) : Mbc2 := ⟨rom,List.Vector.replicate 0x200 0,false,1⟩

def readRom (self : Mbc2) (addr : UInt16) : UInt8 :=
  if addr ≤ 0x3FFF then readFixedRom self.rom addr
  else if addr ≤ 0x7FFF then readBankedRom self.rom self.romBank addr
  else 0xFF

def writeRom (self : Mbc2) (addr : UInt16) (value : UInt8) : Mbc2 :=
  if addr ≤ 0x3FFF then
    if addr &&& 0x0100 = 0 then {self with ramEnable := isRamEnable value}
    else {self with romBank := nonzeroBank (value &&& 0x0F).toNat}
  else self

def ramIndex (addr : UInt16) : Fin 0x200 :=
  ⟨(addr - ramBaseAddr).toNat &&& 0x01FF,Nat.and_le_right.trans_lt (by decide)⟩

def readRam (self : Mbc2) (addr : UInt16) : UInt8 :=
  if !self.ramEnable then 0xFF else 0xF0 ||| (self.ram.get (ramIndex addr) &&& 0x0F)

def writeRam (self : Mbc2) (addr : UInt16) (value : UInt8) : Mbc2 :=
  if !self.ramEnable then self else {self with ram := self.ram.set (ramIndex addr) (value &&& 0x0F)}

def debugInfo (self : Mbc2) : CartridgeDebugInfo := ⟨"MBC2",self.romBank,0,self.ramEnable,none⟩

def restoreRomBytes (self : Mbc2) (rom : Bytes) : Mbc2 := {self with rom}

def bessMbcWrites (self : Mbc2) : List (UInt16 × UInt8) :=
  [(0x0000,if self.ramEnable then 0x0A else 0x00),
   (0x2100,UInt8.ofNat (self.romBank &&& 0x0F))]

structure Sound (rom : Bytes) (mapper : Mbc2) : Prop where
  sameRom : mapper.rom = rom
  romBank : mapper.romBank < 2^4
  positive : 0 < mapper.romBank

theorem sound_new (rom : Bytes) : (new rom).Sound rom := ⟨rfl,Nat.one_lt_two_pow (by decide),Nat.one_pos⟩

theorem Sound.writeRom {rom : Bytes} {self : Mbc2} (sound : self.Sound rom) (addr : UInt16) (value : UInt8) :
    (self.writeRom addr value).Sound rom := by
  unfold Mbc2.writeRom
  split
  · split
    · exact {sound with}
    · have below := masked_lt value 0x0F (2^4) (by decide)
      exact {sound with romBank := nonzeroBank_lt below (by decide), positive := nonzeroBank_pos _}
  · exact sound

theorem Sound.writeRam {rom : Bytes} {self : Mbc2} (sound : self.Sound rom) (addr : UInt16) (value : UInt8) :
    (self.writeRam addr value).Sound rom := by
  unfold Mbc2.writeRam
  split
  · exact sound
  · exact {sound with}

end Mbc2

theorem bankLow_lt (bank : Nat) (value : UInt8) : (bank &&& 0x100) ||| value.toNat < 2^9 := by
  have high : bank &&& 0x100 < 2^9 := Nat.and_le_right.trans_lt (by decide)
  exact Nat.or_lt_two_pow high (value.toNat_lt.trans (by decide))

theorem bankHigh_lt (bank : Nat) (value : UInt8) : (bank &&& 0x0FF) ||| ((value &&& 0x01).toNat <<< 8) < 2^9 := by
  have low : bank &&& 0x0FF < 2^9 := Nat.and_le_right.trans_lt (by decide)
  have bit := masked_lt value 0x01 2 (by decide)
  exact Nat.or_lt_two_pow low (by rw [Nat.shiftLeft_eq]; omega)

@[ext] structure Mbc5 where
  rom : Bytes
  ram : Bytes
  ramEnable : Bool
  romBank : Nat
  ramBank : Nat
  hasRumble : Bool
  rumbleActive : Bool

namespace Mbc5

def new (rom : Bytes) (ramSize : Nat) (hasRumble : Bool) : Mbc5 where
  rom := rom
  ram := List.replicate ramSize 0
  ramEnable := false
  romBank := 1
  ramBank := 0
  hasRumble := hasRumble
  rumbleActive := false

def readRom (self : Mbc5) (addr : UInt16) : UInt8 :=
  if addr ≤ 0x3FFF then readFixedRom self.rom addr
  else if addr ≤ 0x7FFF then readBankedRom self.rom self.romBank addr
  else 0xFF

def selectRam (self : Mbc5) (value : UInt8) : Mbc5 :=
  if self.hasRumble then {self with rumbleActive := value &&& 0x08 != 0, ramBank := (value &&& 0x07).toNat}
  else {self with ramBank := (value &&& 0x0F).toNat}

def writeRom (self : Mbc5) (addr : UInt16) (value : UInt8) : Mbc5 :=
  if addr ≤ 0x1FFF then {self with ramEnable := isRamEnable value}
  else if addr ≤ 0x2FFF then {self with romBank := (self.romBank &&& 0x100) ||| value.toNat}
  else if addr ≤ 0x3FFF then {self with romBank := (self.romBank &&& 0x0FF) ||| ((value &&& 0x01).toNat <<< 8)}
  else if addr ≤ 0x5FFF then self.selectRam value
  else self

def readRam (self : Mbc5) (addr : UInt16) : UInt8 :=
  if !self.ramEnable || self.ram.isEmpty then 0xFF else readBankedRam self.ram self.ramBank addr

def writeRam (self : Mbc5) (addr : UInt16) (value : UInt8) : Mbc5 :=
  if !self.ramEnable || self.ram.isEmpty then self
  else {self with ram := writeBankedRam self.ram self.ramBank addr value}

def setHasRumble (self : Mbc5) (hasRumble : Bool) : Mbc5 := {self with hasRumble}

def debugInfo (self : Mbc5) : CartridgeDebugInfo :=
  ⟨if self.hasRumble then "MBC5+Rumble" else "MBC5",self.romBank,self.ramBank,self.ramEnable,none⟩

def restoreRomBytes (self : Mbc5) (rom : Bytes) : Mbc5 := {self with rom}

def bessMbcWrites (self : Mbc5) : List (UInt16 × UInt8) :=
  [(0x0000,if self.ramEnable then 0x0A else 0x00),
   (0x2000,UInt8.ofNat (self.romBank &&& 0xFF)),
   (0x3000,UInt8.ofNat ((self.romBank >>> 8) &&& 0x01)),
   (0x4000,UInt8.ofNat self.ramBank)]

structure Sound (rom : Bytes) (ramSize : Nat) (hasRumble : Bool) (mapper : Mbc5) : Prop where
  sameRom : mapper.rom = rom
  ramLength : mapper.ram.length = ramSize
  sameRumble : mapper.hasRumble = hasRumble
  romBank : mapper.romBank < 2^9
  ramBank : mapper.ramBank < if hasRumble then 2^3 else 2^4

theorem sound_new (rom : Bytes) (ramSize : Nat) (hasRumble : Bool) :
    (new rom ramSize hasRumble).Sound rom ramSize hasRumble where
  sameRom := rfl
  ramLength := List.length_replicate
  sameRumble := rfl
  romBank := Nat.one_lt_two_pow (by decide)
  ramBank := by cases hasRumble <;> exact Nat.two_pow_pos _

variable {hasRumble : Bool} {ramSize : Nat} {rom : Bytes} {self : Mbc5}

theorem Sound.selectRam
    (sound : self.Sound rom ramSize hasRumble) (value : UInt8) : (self.selectRam value).Sound rom ramSize hasRumble := by
  have flag := sound.sameRumble
  unfold Mbc5.selectRam
  split
  · rename_i rumbles
    have wide := masked_lt value 0x07 (2^3) (by decide)
    exact {sound with ramBank := by rw [← flag,if_pos rumbles]; exact wide}
  · rename_i rumbles
    have wide := masked_lt value 0x0F (2^4) (by decide)
    exact {sound with ramBank := by rw [← flag,if_neg rumbles]; exact wide}

theorem Sound.writeRom
    (sound : self.Sound rom ramSize hasRumble) (addr : UInt16) (value : UInt8) :
    (self.writeRom addr value).Sound rom ramSize hasRumble := by
  unfold Mbc5.writeRom
  split
  · exact {sound with}
  split
  · exact {sound with romBank := bankLow_lt _ value}
  split
  · exact {sound with romBank := bankHigh_lt _ value}
  split
  · exact sound.selectRam value
  · exact sound

theorem Sound.writeRam
    (sound : self.Sound rom ramSize hasRumble) (addr : UInt16) (value : UInt8) :
    (self.writeRam addr value).Sound rom ramSize hasRumble := by
  unfold Mbc5.writeRam
  split
  · exact sound
  · exact {sound with ramLength := (length_writeBankedRam ..).trans sound.ramLength}

end Mbc5

@[ext] structure HuC1 where
  rom : Bytes
  ram : Bytes
  ramEnable : Bool
  romBank : Nat
  ramBank : Nat
  bankingMode : Bool
  romHighAddress : Nat

namespace HuC1

def new (rom : Bytes) (ramSize : Nat) : HuC1 where
  rom := rom
  ram := List.replicate ramSize 0
  ramEnable := false
  romBank := 1
  ramBank := 0
  bankingMode := false
  romHighAddress := 0

def readRom (self : HuC1) (addr : UInt16) : UInt8 :=
  if addr ≤ 0x3FFF then self.rom.getD addr.toNat 0xFF
  else if addr ≤ 0x7FFF then
    let physical := self.romBank <<< 14
    let physical := if !self.bankingMode then physical ||| (self.romHighAddress <<< 19) else physical
    let physical := physical ||| (addr &&& 0x3FFF).toNat
    self.rom.getD (physical % max self.rom.length 1) 0xFF
  else 0xFF

def writeRom (self : HuC1) (addr : UInt16) (value : UInt8) : HuC1 :=
  if addr ≤ 0x1FFF then {self with ramEnable := isRamEnable value}
  else if addr ≤ 0x3FFF then {self with romBank := nonzeroBank (value &&& 0x3F).toNat}
  else if addr ≤ 0x5FFF then
    if self.bankingMode then {self with ramBank := (value &&& 0x03).toNat}
    else {self with romHighAddress := (value &&& 0x03).toNat}
  else if addr ≤ 0x7FFF then {self with bankingMode := value &&& 0x01 != 0}
  else self

def effectiveRamBank (self : HuC1) : Nat := if self.bankingMode then self.ramBank else 0

def readRam (self : HuC1) (addr : UInt16) : UInt8 :=
  if !self.ramEnable || self.ram.isEmpty then 0xFF
  else readBankedRam self.ram self.effectiveRamBank addr

def writeRam (self : HuC1) (addr : UInt16) (value : UInt8) : HuC1 :=
  if !self.ramEnable || self.ram.isEmpty then self
  else {self with ram := writeBankedRam self.ram self.effectiveRamBank addr value}

def debugInfo (self : HuC1) : CartridgeDebugInfo :=
  ⟨"HuC1",self.romBank,self.effectiveRamBank,self.ramEnable,some self.bankingMode⟩

def restoreRomBytes (self : HuC1) (rom : Bytes) : HuC1 := {self with rom}

def bessMbcWrites (self : HuC1) : List (UInt16 × UInt8) :=
  [(0x0000,if self.ramEnable then 0x0A else 0x00),
   (0x2000,UInt8.ofNat self.romBank),
   (0x4000,UInt8.ofNat self.ramBank),
   (0x6000,self.bankingMode.toUInt8)]

structure Sound (rom : Bytes) (ramSize : Nat) (mapper : HuC1) : Prop where
  sameRom : mapper.rom = rom
  ramLength : mapper.ram.length = ramSize
  romBank : mapper.romBank < 2^6
  positive : 0 < mapper.romBank
  ramBank : mapper.ramBank < 2^2
  romHighAddress : mapper.romHighAddress < 2^2

theorem sound_new (rom : Bytes) (ramSize : Nat) : (new rom ramSize).Sound rom ramSize where
  sameRom := rfl
  ramLength := List.length_replicate
  romBank := Nat.one_lt_two_pow (by decide)
  positive := Nat.one_pos
  ramBank := Nat.two_pow_pos _
  romHighAddress := Nat.two_pow_pos _

theorem Sound.writeRom {rom : Bytes} {ramSize : Nat} {self : HuC1} (sound : self.Sound rom ramSize)
    (addr : UInt16) (value : UInt8) : (self.writeRom addr value).Sound rom ramSize := by
  have two := masked_lt value 0x03 (2^2) (by decide)
  unfold HuC1.writeRom
  split
  · exact {sound with}
  split
  · have below := masked_lt value 0x3F (2^6) (by decide)
    exact {sound with romBank := nonzeroBank_lt below (by decide), positive := nonzeroBank_pos _}
  split
  · split
    · exact {sound with ramBank := two}
    · exact {sound with romHighAddress := two}
  split
  · exact {sound with}
  · exact sound

theorem Sound.writeRam {rom : Bytes} {ramSize : Nat} {self : HuC1} (sound : self.Sound rom ramSize)
    (addr : UInt16) (value : UInt8) : (self.writeRam addr value).Sound rom ramSize := by
  unfold HuC1.writeRam
  split
  · exact sound
  · exact {sound with ramLength := (length_writeBankedRam ..).trans sound.ramLength}

end HuC1

end ZeffBoy.GameBoy
