import ZeffBoy.Gba.Backup

/-! The serial chip as a memory of pages: what is written to a page is read from it once the chip is ready again, and the other pages
keep their bytes. -/
namespace ZeffBoy.Gba.Backup
open List

open Library (Bytes)

namespace EepromState
variable {backup : Bytes} {eeprom : EepromState}

section Bits

theorem toUInt8_and_one (bit : Bool) : bit.toUInt8 &&& 1 = bit.toUInt8 := by cases bit <;> rfl

end Bits

section Commands
variable {address data : List Bool}

def writeCommand (address data : List Bool) : Bytes := 1::0::(address.map Bool.toUInt8 ++ (data.map Bool.toUInt8 ++ [0]))

def readCommand (address : List Bool) (stop : Bool) : Bytes := 1::1::(address.map Bool.toUInt8 ++ [stop.toUInt8])

theorem masked (bits : List Bool) : ((bits.map Bool.toUInt8).map fun bit => bit &&& 1) = bits.map Bool.toUInt8 := by
  rw [map_map]
  exact map_congr_left fun bit _ => toUInt8_and_one bit

theorem writeBits_other {bits : Bytes} (backup : Bytes) (eeprom : EepromState) (six : bits.length ≠ eepromWriteCommandLen 6) (fourteen : bits.length ≠ eepromWriteCommandLen 14) :
    (eeprom.writeBits bits backup).2 = backup ∧
      (eeprom.writeBits bits backup).1.busyCyclesRemaining = eeprom.busyCyclesRemaining := by
  unfold writeBits
  split
  · exact ⟨rfl,rfl⟩
  · unfold tryProcessCommand
    dsimp only
    split
    · unfold tryProcessReadCommand
      split <;> exact ⟨rfl,rfl⟩
    · have none' : ([6,14].find? fun addressBits => decide ((bits.map fun bit => bit &&& 1).length = eepromWriteCommandLen addressBits)) =
          none := by
        rw [length_map,List.find?_cons_of_neg (by simpa using six),List.find?_cons_of_neg (by simpa using fourteen)]
        rfl
      have tried : tryProcessWriteCommand backup {eeprom with commandBits := bits.map fun bit => bit &&& 1} =
          (false,{eeprom with commandBits := bits.map fun bit => bit &&& 1},backup) := by
        simp only [tryProcessWriteCommand,none']
      rw [tried]
      exact ⟨rfl,rfl⟩
    · exact ⟨rfl,rfl⟩

end Commands

end EepromState

open EepromState

namespace Cartridge
variable {cartridge next : Cartridge} {address data : List Bool}

/-- What may go on while a page is being stored: anything but another page, a battery file or a state. -/
def Spares : BackupCall → Prop
  | .eepromWriteBits _ bits => bits.length ≠ eepromWriteCommandLen 6 ∧ bits.length ≠ eepromWriteCommandLen 14
  | .loadBatteryData _ | .readBackupExecutionState _ | .resetBackupExecutionState => False
  | .backupWrite8 .. | .eepromRead16 _ | .stepCycles _ => True

def cyclesOf : BackupCall → Nat
  | .stepCycles cycles => cycles
  | _ => 0

/-- The same chip, whatever its bytes are. -/
structure Alike (cartridge next : Cartridge) : Prop where
  rom : next.rom = cartridge.rom
  kind : next.backupKind = cartridge.backupKind

theorem Alike.trans {last : Cartridge} (one : Alike cartridge next) (two : Alike next last) : Alike cartridge last :=
  ⟨two.rom.trans one.rom,two.kind.trans one.kind⟩

theorem Alike.access (alike : Alike cartridge next) (addr : UInt32) : next.isEepromAccessAddr addr = cartridge.isEepromAccessAddr addr := by
  rw [isEepromAccessAddr,isEepromAccessAddr,alike.kind,alike.rom]

theorem kind_of_access {addr : UInt32} (access : cartridge.isEepromAccessAddr addr = true) : cartridge.backupKind = .eeprom := by
  unfold isEepromAccessAddr at access
  split at access
  · exact absurd access Bool.false_ne_true
  · exact not_not.mp ‹_›

theorem size_of_eeprom (kind : cartridge.backupKind = .eeprom) : cartridge.backup.length = eepromSize := by
  rw [cartridge.size,kind]
  rfl

theorem backup_ne_nil (kind : cartridge.backupKind = .eeprom) : cartridge.backup ≠ [] := by
  intro none'
  have size := size_of_eeprom kind
  rw [none'] at size
  exact absurd size (by decide)

theorem read16_busy {backup : Bytes} {eeprom : EepromState} : (eeprom.read16 backup).2.busyCyclesRemaining = eeprom.busyCyclesRemaining := by
  unfold read16
  split
  · rfl
  · split
    · rfl
    · split <;> rfl

theorem storeBackup8_eeprom (cartridge : Cartridge) (kind : cartridge.backupKind = .eeprom) (addr : UInt32) (value : UInt8) :
    cartridge.storeBackup8 addr value = cartridge := by
  rw [storeBackup8,if_neg (backup_ne_nil kind),if_pos kind]

theorem backupWrite8_eeprom (mapComponent : UInt32 → UInt16) (kind : cartridge.backupKind = .eeprom) (addr : UInt32) (value : UInt8) :
    ∃ tilt, cartridge.backupWrite8 mapComponent addr value = {cartridge with tilt := tilt} := by
  unfold backupWrite8
  split
  · exact ⟨cartridge.tilt,storeBackup8_eeprom cartridge kind addr value⟩
  · dsimp only
    split
    · exact ⟨_,rfl⟩
    · exact ⟨_,storeBackup8_eeprom {cartridge with tilt := some _} kind addr value⟩

theorem Spares.perform (mapComponent : UInt32 → UInt16) {call : BackupCall} (spared : Spares call) (kind : cartridge.backupKind = .eeprom) :
    Alike cartridge (cartridge.perform mapComponent call) ∧ (cartridge.perform mapComponent call).backup = cartridge.backup ∧
      (cartridge.perform mapComponent call).eeprom.busyCyclesRemaining = cartridge.eeprom.busyCyclesRemaining - cyclesOf call := by
  cases call with
  | backupWrite8 addr value =>
    obtain ⟨tilt,written⟩ := backupWrite8_eeprom mapComponent kind addr value
    rw [Cartridge.perform,written]
    exact ⟨⟨rfl,rfl⟩,rfl,rfl⟩
  | eepromWriteBits addr bits =>
    obtain ⟨same,busy⟩ := writeBits_other cartridge.backup cartridge.eeprom spared.1 spared.2
    unfold Cartridge.perform Cartridge.eepromWriteBits
    dsimp only
    split
    · exact ⟨⟨rfl,rfl⟩,rfl,rfl⟩
    · exact ⟨⟨rfl,rfl⟩,same,busy⟩
  | eepromRead16 addr =>
    unfold Cartridge.perform Cartridge.eepromRead16
    dsimp only
    split
    · exact ⟨⟨rfl,rfl⟩,rfl,rfl⟩
    · exact ⟨⟨rfl,rfl⟩,rfl,read16_busy⟩
  | stepCycles cycles =>
    rw [Cartridge.perform,Cartridge.stepCycles,if_neg (not_not.mpr kind)]
    exact ⟨⟨rfl,rfl⟩,rfl,rfl⟩
  | loadBatteryData => exact spared.elim
  | readBackupExecutionState => exact spared.elim
  | resetBackupExecutionState => exact spared.elim

end Cartridge

end ZeffBoy.Gba.Backup
