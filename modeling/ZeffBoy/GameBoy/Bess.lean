import ZeffBoy.GameBoy.Cartridge

/-! The mapper block of a BESS save state.
A mapper exports the register writes that should bring a new cartridge to its banks; the importer
sends them through the ordinary register decoder. -/
namespace ZeffBoy.GameBoy
open Library

namespace Cartridge

def bessMbcWrites : Cartridge → List (UInt16 × UInt8)
  | .romOnly _ => []
  | .mbc1 c => c.bessMbcWrites
  | .mbc2 c => c.bessMbcWrites
  | .mbc3 c => c.bessMbcWrites
  | .mbc5 c => c.bessMbcWrites
  | .mbc7 c => c.bessMbcWrites
  | .huC1 c => c.bessMbcWrites
  | .huC3 c => c.bessMbcWrites
  | .pocketCamera c => c.bessMbcWrites

def applyMbcWrite (self : Cartridge) (write : UInt16 × UInt8) : Cartridge :=
  if write.1 ≤ 0x7FFF ∨ (0xA000 ≤ write.1 ∧ write.1 ≤ 0xBFFF) then self.writeRom write.1 write.2 else self

def applyMbcWrites (self : Cartridge) (writes : List (UInt16 × UInt8)) : Cartridge := writes.foldl applyMbcWrite self

/-- The bank, or the register of a clock or sensor, that the RAM window shows. -/
def selectedRamBank : Cartridge → Nat
  | .romOnly _ => 0
  | .mbc1 c => c.effectiveRamBank
  | .mbc2 _ => 0
  | .mbc3 c => c.ramOrRtcSelect.toNat
  | .mbc5 c => c.ramBank
  | .mbc7 c => c.ramBankSelect.toNat
  | .huC1 c => c.effectiveRamBank
  | .huC3 c => c.ramBank
  | .pocketCamera c => c.ramBank

structure SameBanks (left right : Cartridge) : Prop where
  readRom : ∀ addr, left.readRom addr = right.readRom addr
  ramEnabled : left.debugInfo.ramEnabled = right.debugInfo.ramEnabled
  ramBank : left.selectedRamBank = right.selectedRamBank

end Cartridge

theorem rejoined_bank (before bank : Nat) (fits : bank < 2^9) :
    (before &&& 256 ||| bank % 256 &&& 255) &&& 255 ||| (bank >>> 8 % 2) <<< 8 = bank := by
  have low : (before &&& 256 ||| bank % 256 &&& 255) &&& 255 = bank % 256 := by
    have byte : bank % 256 < 2^8 := Nat.mod_lt _ (by decide)
    have kept : bank % 256 &&& 255 = bank % 256 := masked_of_lt (bank % 256) 8 byte
    have cleared : before &&& 256 &&& 255 = 0 := by rw [Nat.and_assoc]; exact Nat.and_zero before
    rw [Nat.and_or_distrib_right,cleared,kept,kept,Nat.zero_or]
  have high : bank >>> 8 % 2 = bank / 256 := by
    rw [Nat.shiftRight_eq_div_pow]
    omega
  have below : bank % 256 < 2^8 := Nat.mod_lt _ (by decide)
  rw [low,high,Nat.or_comm,← Nat.shiftLeft_add_eq_or_of_lt below,Nat.shiftLeft_eq]
  omega

theorem Mbc1.rebuilt (rom : Bytes) (ramSize : Nat) (self fresh : Mbc1) (sound : self.Sound rom ramSize) :
    (Cartridge.mbc1 fresh).applyMbcWrites self.bessMbcWrites =
      .mbc1 {fresh with
        ramEnable := self.ramEnable
        romBank := self.romBank
        ramBank := self.ramBank
        bankingMode := self.bankingMode} := by
  have rom_low : self.romBank &&& 31 = self.romBank := masked_of_lt self.romBank 5 sound.romBank
  have ram_low : self.ramBank &&& 3 = self.ramBank := masked_of_lt self.ramBank 2 sound.ramBank
  have rom_byte : self.romBank % 256 = self.romBank := Nat.mod_eq_of_lt (sound.romBank.trans (by decide))
  have ram_byte : self.ramBank % 256 = self.ramBank := Nat.mod_eq_of_lt (sound.ramBank.trans (by decide))
  simp [Cartridge.applyMbcWrites,Cartridge.applyMbcWrite,Cartridge.writeRom,bessMbcWrites,writeRom,rom_low,ram_low,
    rom_byte,ram_byte]

theorem Mbc2.rebuilt (rom : Bytes) (self fresh : Mbc2) (sound : self.Sound rom) :
    (Cartridge.mbc2 fresh).applyMbcWrites self.bessMbcWrites =
      .mbc2 {fresh with ramEnable := self.ramEnable, romBank := self.romBank} := by
  have rom_low : self.romBank &&& 15 = self.romBank := masked_of_lt self.romBank 4 sound.romBank
  have rom_byte : self.romBank % 256 = self.romBank := Nat.mod_eq_of_lt (sound.romBank.trans (by decide))
  have kept := nonzeroBank_eq self.romBank sound.positive
  have bankRegister : (0x2100 : UInt16) &&& 0x0100 ≠ 0 := by decide
  simp [Cartridge.applyMbcWrites,Cartridge.applyMbcWrite,Cartridge.writeRom,bessMbcWrites,writeRom,rom_low,rom_byte,kept,
    bankRegister]

theorem Mbc3.rebuilt (rom : Bytes) (ramSize : Nat) (hasRtc : Bool) (self fresh : Mbc3)
    (sound : self.Sound rom ramSize hasRtc) :
    (Cartridge.mbc3 fresh).applyMbcWrites self.bessMbcWrites =
      .mbc3 {fresh with
        ramEnable := self.ramEnable
        romBank := self.romBank
        ramOrRtcSelect := self.ramOrRtcSelect} := by
  have rom_low : self.romBank &&& 127 = self.romBank := masked_of_lt self.romBank 7 sound.romBank
  have rom_byte : self.romBank % 256 = self.romBank := Nat.mod_eq_of_lt (sound.romBank.trans (by decide))
  have kept := nonzeroBank_eq self.romBank sound.positive
  simp [Cartridge.applyMbcWrites,Cartridge.applyMbcWrite,Cartridge.writeRom,bessMbcWrites,writeRom,rom_low,rom_byte,kept,
    sound.ramOrRtcSelect]

theorem Mbc5.selectRam_bank (self : Mbc5) (bank : Nat) (fits : bank < if self.hasRumble then 2^3 else 2^4)
    (still : self.rumbleActive = false) : self.selectRam (UInt8.ofNat bank) = {self with ramBank := bank} := by
  unfold selectRam
  split
  · rename_i rumbles
    rw [if_pos rumbles] at fits
    have quiet : ∀ bank < 2^3, (UInt8.ofNat bank &&& 0x08 != 0) = false ∧ (UInt8.ofNat bank &&& 0x07).toNat = bank := by
      decide
    obtain ⟨motor,low⟩ := quiet bank fits
    rw [motor,low,← still]
  · rename_i rumbles
    rw [if_neg rumbles] at fits
    have low : ∀ bank < 2^4, (UInt8.ofNat bank &&& 0x0F).toNat = bank := by decide
    rw [low bank fits]

theorem Mbc5.rebuilt (rom : Bytes) (ramSize : Nat) (hasRumble : Bool) (self fresh : Mbc5)
    (sound : self.Sound rom ramSize hasRumble) (sameRumble : fresh.hasRumble = hasRumble)
    (still : fresh.rumbleActive = false) :
    (Cartridge.mbc5 fresh).applyMbcWrites self.bessMbcWrites =
      .mbc5 {fresh with ramEnable := self.ramEnable, romBank := self.romBank, ramBank := self.ramBank} := by
  subst sameRumble
  have joined := rejoined_bank fresh.romBank self.romBank sound.romBank
  have selected :=
    selectRam_bank {fresh with ramEnable := self.ramEnable, romBank := self.romBank} self.ramBank sound.ramBank still
  simp [Cartridge.applyMbcWrites,Cartridge.applyMbcWrite,Cartridge.writeRom,bessMbcWrites,writeRom,joined,selected]

theorem Mbc7.rebuilt (rom : Bytes) (self fresh : Mbc7) (sound : self.Sound rom) :
    (Cartridge.mbc7 fresh).applyMbcWrites self.bessMbcWrites =
      .mbc7 {fresh with
        ramEnable := self.ramEnable
        romBank := self.romBank
        ramBankSelect := self.ramBankSelect} := by
  have rom_low : self.romBank &&& 127 = self.romBank := masked_of_lt self.romBank 7 sound.romBank
  have rom_byte : self.romBank % 256 = self.romBank := Nat.mod_eq_of_lt (sound.romBank.trans (by decide))
  have kept := nonzeroBank_eq self.romBank sound.positive
  simp [Cartridge.applyMbcWrites,Cartridge.applyMbcWrite,Cartridge.writeRom,bessMbcWrites,writeRom,rom_low,rom_byte,kept]

theorem HuC1.rebuilt (rom : Bytes) (ramSize : Nat) (self fresh : HuC1) (sound : self.Sound rom ramSize)
    (romMode : fresh.bankingMode = false) :
    (Cartridge.huC1 fresh).applyMbcWrites self.bessMbcWrites =
      .huC1 {fresh with
        ramEnable := self.ramEnable
        romBank := self.romBank
        romHighAddress := self.ramBank
        bankingMode := self.bankingMode} := by
  have rom_low : self.romBank &&& 63 = self.romBank := masked_of_lt self.romBank 6 sound.romBank
  have ram_low : self.ramBank &&& 3 = self.ramBank := masked_of_lt self.ramBank 2 sound.ramBank
  have rom_byte : self.romBank % 256 = self.romBank := Nat.mod_eq_of_lt (sound.romBank.trans (by decide))
  have ram_byte : self.ramBank % 256 = self.ramBank := Nat.mod_eq_of_lt (sound.ramBank.trans (by decide))
  have kept := nonzeroBank_eq self.romBank sound.positive
  simp [Cartridge.applyMbcWrites,Cartridge.applyMbcWrite,Cartridge.writeRom,bessMbcWrites,writeRom,rom_low,ram_low,
    rom_byte,ram_byte,kept,romMode]

theorem HuC3.rebuilt (rom : Bytes) (ramSize : Nat) (self fresh : HuC3) (sound : self.Sound rom ramSize) :
    (Cartridge.huC3 fresh).applyMbcWrites self.bessMbcWrites =
      .huC3 {fresh with
        ramEnable := self.ramEnable
        romBank := self.romBank
        ramBank := self.ramBank
        ramFlag := if self.ramEnable then 0x0A else 0x00} := by
  have rom_low : self.romBank &&& 127 = self.romBank := masked_of_lt self.romBank 7 sound.romBank
  have ram_low : self.ramBank &&& 3 = self.ramBank := masked_of_lt self.ramBank 2 sound.ramBank
  have rom_byte : self.romBank % 256 = self.romBank := Nat.mod_eq_of_lt (sound.romBank.trans (by decide))
  have ram_byte : self.ramBank % 256 = self.ramBank := Nat.mod_eq_of_lt (sound.ramBank.trans (by decide))
  have kept := nonzeroBank_eq self.romBank sound.positive
  have enabled : ((if self.ramEnable then 0x0A else 0x00 : UInt8) == flagRamEnabled) = self.ramEnable := by
    cases self.ramEnable <;> rfl
  simp [Cartridge.applyMbcWrites,Cartridge.applyMbcWrite,Cartridge.writeRom,bessMbcWrites,writeRom,rom_low,ram_low,
    rom_byte,ram_byte,kept,enabled]

theorem PocketCamera.rebuilt (rom : Bytes) (ramSize : Nat) (self fresh : PocketCamera) (sound : self.Sound rom ramSize) :
    (Cartridge.pocketCamera fresh).applyMbcWrites self.bessMbcWrites =
      .pocketCamera {fresh with ramEnable := self.ramEnable, romBank := self.romBank, ramBank := self.ramBank} := by
  have joined := rejoined_bank fresh.romBank self.romBank sound.romBank
  have ram_low : self.ramBank &&& 31 = self.ramBank := masked_of_lt self.ramBank 5 sound.ramBank
  have ram_byte : self.ramBank % 256 = self.ramBank := Nat.mod_eq_of_lt (sound.ramBank.trans (by decide))
  simp [Cartridge.applyMbcWrites,Cartridge.applyMbcWrite,Cartridge.writeRom,bessMbcWrites,writeRom,ram_low,ram_byte,
    joined]

def HuC1.switchableWindow (self : HuC1) (highAddress : Nat) : Bytes :=
  (List.range romBankSize).map fun offset =>
    self.rom.getD ((self.romBank <<< 14 ||| highAddress <<< 19 ||| offset) % max self.rom.length 1) 0xFF

theorem HuC1.getElem?_switchableWindow (self : HuC1) (romMode : self.bankingMode = false) (offset : Nat)
    (inside : offset < 0x4000) :
    (self.switchableWindow self.romHighAddress)[offset]? = some (self.readRom (UInt16.ofNat (0x4000 + offset))) := by
  have value : (UInt16.ofNat (0x4000 + offset)).toNat = 0x4000 + offset := by
    rw [UInt16.toNat_ofNat']
    omega
  have above : ¬UInt16.ofNat (0x4000 + offset) ≤ 0x3FFF := by
    rw [UInt16.le_iff_toNat_le,value]
    show ¬0x4000 + offset ≤ 0x3FFF
    omega
  have below : UInt16.ofNat (0x4000 + offset) ≤ 0x7FFF := by
    rw [UInt16.le_iff_toNat_le,value]
    show 0x4000 + offset ≤ 0x7FFF
    omega
  have low : (UInt16.ofNat (0x4000 + offset) &&& 0x3FFF).toNat = offset := by
    have masked := Nat.and_two_pow_sub_one_eq_mod (0x4000 + offset) 14
    rw [UInt16.toNat_and,value]
    show (0x4000 + offset) &&& (2^14 - 1) = offset
    omega
  rw [readRom,if_neg above,if_pos below]
  dsimp only
  rw [low,romMode]
  simp [switchableWindow,romBankSize,inside]

theorem HuC1.readRom_eq_of_window (left right : HuC1) (sameRom : left.rom = right.rom) (leftMode : left.bankingMode = false)
    (rightMode : right.bankingMode = false) :
    (∀ addr, left.readRom addr = right.readRom addr) ↔
      left.switchableWindow left.romHighAddress = right.switchableWindow right.romHighAddress := by
  constructor
  · intro same
    apply List.ext_getElem?
    intro offset
    rcases lt_or_ge offset 0x4000 with inside | outside
    · rw [left.getElem?_switchableWindow leftMode offset inside,right.getElem?_switchableWindow rightMode offset inside,
        same]
    · have leftLength : (left.switchableWindow left.romHighAddress).length = 0x4000 := by simp [switchableWindow,romBankSize]
      have rightLength : (right.switchableWindow right.romHighAddress).length = 0x4000 := by
        simp [switchableWindow,romBankSize]
      rw [List.getElem?_eq_none (by omega),List.getElem?_eq_none (by omega)]
  · intro same addr
    rcases lt_or_ge addr.toNat 0x4000 with fixed | switched
    · have low : addr ≤ 0x3FFF := UInt16.le_iff_toNat_le.mpr (Nat.le_of_lt_succ fixed)
      rw [readRom,readRom,if_pos low,if_pos low,sameRom]
    rcases lt_or_ge addr.toNat 0x8000 with inside | outside
    · have offset : UInt16.ofNat (0x4000 + (addr.toNat - 0x4000)) = addr := by
        rw [Nat.add_sub_cancel' switched,UInt16.ofNat_toNat]
      have leftByte := left.getElem?_switchableWindow leftMode (addr.toNat - 0x4000) (by omega)
      have rightByte := right.getElem?_switchableWindow rightMode (addr.toNat - 0x4000) (by omega)
      rw [same,offset] at leftByte
      rw [offset] at rightByte
      exact Option.some.inj (leftByte.symm.trans rightByte)
    · have notFixed : ¬addr ≤ 0x3FFF := fun low => by
        have bound := UInt16.le_iff_toNat_le.mp low
        have limit : (0x3FFF : UInt16).toNat = 0x3FFF := rfl
        omega
      have notSwitched : ¬addr ≤ 0x7FFF := fun low => by
        have bound := UInt16.le_iff_toNat_le.mp low
        have limit : (0x7FFF : UInt16).toNat = 0x7FFF := rfl
        omega
      rw [readRom,readRom,if_neg notFixed,if_neg notSwitched,if_neg notFixed,if_neg notSwitched]

theorem HuC1.readRom_ramMode (left right : HuC1) (sameRom : left.rom = right.rom) (sameBank : left.romBank = right.romBank)
    (leftMode : left.bankingMode = true) (rightMode : right.bankingMode = true) (addr : UInt16) :
    left.readRom addr = right.readRom addr := by
  simp only [readRom,sameRom,sameBank,leftMode,rightMode,Bool.not_true,Bool.false_eq_true,if_false]

namespace Cartridge

/-- What the exported writes lose of a HuC1: in RAM mode its RAM bank, in ROM mode its high ROM address. -/
def BessComplete : Cartridge → Prop
  | .huC1 c =>
    if c.bankingMode then c.ramBank = 0
    else c.switchableWindow c.ramBank = c.switchableWindow c.romHighAddress
  | _ => True

theorem sameBanks_huC1 (rom : Bytes) (ramSize : Nat) (c : HuC1) (sound : c.Sound rom ramSize) :
    SameBanks ((Cartridge.huC1 (HuC1.new rom ramSize)).applyMbcWrites c.bessMbcWrites) (.huC1 c) ↔
      (Cartridge.huC1 c).BessComplete := by
  rw [HuC1.rebuilt rom ramSize c _ sound rfl]
  rcases Bool.eq_false_or_eq_true c.bankingMode with ramMode | romMode
  · have complete : (Cartridge.huC1 c).BessComplete ↔ c.ramBank = 0 := by rw [BessComplete,if_pos ramMode]
    have selected : (Cartridge.huC1 c).selectedRamBank = c.ramBank := if_pos ramMode
    rw [complete]
    constructor
    · intro same
      have bank := same.ramBank
      rw [selected] at bank
      exact bank.symm.trans (if_pos ramMode)
    · intro zero
      refine ⟨?_,rfl,?_⟩
      · exact HuC1.readRom_ramMode _ c sound.sameRom.symm rfl ramMode ramMode
      · rw [selected,zero]
        exact if_pos ramMode
  · have plain : ¬c.bankingMode = true := Bool.not_eq_true _ ▸ romMode
    have complete : (Cartridge.huC1 c).BessComplete ↔
        c.switchableWindow c.ramBank = c.switchableWindow c.romHighAddress := by rw [BessComplete,if_neg plain]
    have windows := HuC1.readRom_eq_of_window
      {HuC1.new rom ramSize with
        ramEnable := c.ramEnable
        romBank := c.romBank
        romHighAddress := c.ramBank
        bankingMode := c.bankingMode} c sound.sameRom.symm romMode romMode
    rw [complete]
    constructor
    · intro same
      have shown := windows.mp same.readRom
      rwa [HuC1.switchableWindow,HuC1.new,← sound.sameRom] at shown
    · intro same
      refine ⟨windows.mpr ?_,rfl,?_⟩
      · rwa [HuC1.switchableWindow,HuC1.new,← sound.sameRom]
      · exact (if_neg plain).trans (if_neg plain).symm

theorem sameBanks_of_sound (rom : Bytes) (header : RomHeader) (saved : Cartridge) (sound : saved.Sound rom header)
    (later : UInt64) :
    SameBanks ((new rom header later).applyMbcWrites saved.bessMbcWrites) saved ↔ saved.BessComplete := by
  obtain ⟨kind,registers⟩ := sound
  cases saved with
  | romOnly c =>
    have fresh : new rom header later = .romOnly (RomOnly.new rom header.ramSize.sizeBytes) := by rw [new,← kind]; rfl
    rw [fresh]
    refine iff_of_true ⟨fun addr => ?_,?_,rfl⟩ trivial
    · simp only [readRom,RomOnly.readRom,RomOnly.new,bessMbcWrites,applyMbcWrites,List.foldl_nil,registers.sameRom]
    · have sized (ram : Bytes) : ram.isEmpty = (ram.length == 0) := by cases ram <;> rfl
      simp only [debugInfo,RomOnly.debugInfo,RomOnly.new,bessMbcWrites,applyMbcWrites,List.foldl_nil,sized,
        List.length_replicate,registers.ramLength]
  | mbc1 c =>
    have fresh : new rom header later = .mbc1 (Mbc1.new rom header.ramSize.sizeBytes) := by rw [new,← kind]; rfl
    have alike : {Mbc1.new rom header.ramSize.sizeBytes with
        ramEnable := c.ramEnable
        romBank := c.romBank
        ramBank := c.ramBank
        bankingMode := c.bankingMode} = {c with ram := List.replicate header.ramSize.sizeBytes 0} :=
      Mbc1.ext registers.sameRom.symm rfl rfl rfl rfl rfl registers.romBankMask.symm registers.multicart.symm
    rw [fresh,bessMbcWrites,Mbc1.rebuilt rom _ c _ registers,alike]
    refine iff_of_true ⟨fun addr => rfl,rfl,?_⟩ trivial
    · simp only [selectedRamBank,Mbc1.effectiveRamBank,List.length_replicate,registers.ramLength]
  | mbc2 c =>
    have fresh : new rom header later = .mbc2 (Mbc2.new rom) := by rw [new,← kind]; rfl
    rw [fresh,bessMbcWrites,Mbc2.rebuilt rom c _ registers]
    refine iff_of_true ⟨fun addr => ?_,rfl,rfl⟩ trivial
    simp only [readRom,Mbc2.readRom,Mbc2.new,registers.sameRom]
  | mbc3 c =>
    have fresh : new rom header later =
        .mbc3 (Mbc3.new rom header.ramSize.sizeBytes header.cartridgeType.isMbc3WithRtc) := by rw [new,← kind]; rfl
    rw [fresh,bessMbcWrites,Mbc3.rebuilt rom _ _ c _ registers]
    refine iff_of_true ⟨fun addr => ?_,rfl,rfl⟩ trivial
    simp only [readRom,Mbc3.readRom,Mbc3.new,registers.sameRom]
  | mbc5 c =>
    have fresh : new rom header later =
        .mbc5 (Mbc5.new rom header.ramSize.sizeBytes header.cartridgeType.isMbc5WithRumble) := by rw [new,← kind]; rfl
    rw [fresh,bessMbcWrites,Mbc5.rebuilt rom _ _ c _ registers rfl rfl]
    refine iff_of_true ⟨fun addr => ?_,rfl,rfl⟩ trivial
    simp only [readRom,Mbc5.readRom,Mbc5.new,registers.sameRom]
  | mbc7 c =>
    have fresh : new rom header later = .mbc7 (Mbc7.new rom) := by rw [new,← kind]; rfl
    rw [fresh,bessMbcWrites,Mbc7.rebuilt rom c _ registers]
    refine iff_of_true ⟨fun addr => ?_,rfl,rfl⟩ trivial
    simp only [readRom,Mbc7.readRom,Mbc7.new,registers.sameRom]
  | huC1 c =>
    have fresh : new rom header later = .huC1 (HuC1.new rom header.ramSize.sizeBytes) := by rw [new,← kind]; rfl
    rw [fresh]
    exact sameBanks_huC1 rom _ c registers
  | huC3 c =>
    have fresh : new rom header later = .huC3 (HuC3.new rom header.ramSize.sizeBytes later) := by rw [new,← kind]; rfl
    rw [fresh,bessMbcWrites,HuC3.rebuilt rom header.ramSize.sizeBytes c _ registers]
    refine iff_of_true ⟨fun addr => ?_,rfl,rfl⟩ trivial
    simp only [readRom,HuC3.readRom,HuC3.new,registers.sameRom]
  | pocketCamera c =>
    have fresh : new rom header later = .pocketCamera (PocketCamera.new rom header.ramSize.sizeBytes) := by
      rw [new,← kind]; rfl
    rw [fresh,bessMbcWrites,PocketCamera.rebuilt rom header.ramSize.sizeBytes c _ registers]
    refine iff_of_true ⟨fun addr => ?_,rfl,rfl⟩ trivial
    simp only [readRom,PocketCamera.readRom,PocketCamera.new,registers.sameRom]

/-- The exported writes bring a new cartridge to the banks of the saved one, except where a HuC1 loses a register. -/
theorem bessMbcWrites_sameBanks (rom : Bytes) (header : RomHeader) (now later : UInt64) (accesses : List Access) :
    let saved := (new rom header now).run accesses
    SameBanks ((new rom header later).applyMbcWrites saved.bessMbcWrites) saved ↔ saved.BessComplete :=
  sameBanks_of_sound rom header _ ((sound_new rom header now).run accesses) later

/-- A HuC1 in RAM mode on bank one comes back on bank zero. -/
theorem bessMbcWrites_huC1_ramBank :
    let rom := List.replicate 0x8000 0
    let header : RomHeader := ⟨.huC1RamBattery,.kb32⟩
    let saved := (new rom header 0).run [.writeRom 0x6000 0x01,.writeRom 0x4000 0x01]
    ¬SameBanks ((new rom header 0).applyMbcWrites saved.bessMbcWrites) saved := by
  intro rom header saved same
  have lost : ((new rom header 0).applyMbcWrites saved.bessMbcWrites).selectedRamBank = 0 := by decide +kernel
  have kept : saved.selectedRamBank = 1 := by decide +kernel
  exact absurd (lost.symm.trans (same.ramBank.trans kept)) Nat.zero_ne_one

end Cartridge

end ZeffBoy.GameBoy
