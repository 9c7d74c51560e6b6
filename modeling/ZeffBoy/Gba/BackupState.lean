import ZeffBoy.Gba.BackupEeprom
import ZeffBoy.Gba.BackupFlash

/-! What holds of a chip since it was put in, and why its execution state is read back whole. -/
namespace ZeffBoy.Gba.Backup
open Library (Bytes Reader bind_ok)
open EepromState List

/-- Bits that fit in a field of the state. -/
structure Fixed (count : Nat) (bits : Bytes) : Prop where
  short : bits.length ≤ count
  bit : ∀ bit ∈ bits, bit ≤ 1

theorem Fixed.nil (count : Nat) : Fixed count [] := ⟨Nat.zero_le _,fun _ none' => absurd none' not_mem_nil⟩

/-- The serial chip holds bits, and not too many. -/
structure EepromState.Sound (eeprom : EepromState) : Prop where
  commandBits : Fixed maxEepromCommandBits eeprom.commandBits
  readBits : Fixed maxEepromReadBits eeprom.readBits
  index : eeprom.readIndex ≤ eeprom.readBits.length
  busy : eeprom.busyCyclesRemaining ≤ eepromWriteBusyCycles

theorem EepromState.sound_initial : EepromState.initial.Sound :=
  ⟨.nil _,.nil _,le_rfl,Nat.zero_le _⟩

namespace Cartridge
variable {cartridge next : Cartridge}

/-- What holds of every chip. -/
structure Sound (cartridge : Cartridge) : Prop where
  fits : cartridge.flash.Fits cartridge.backupKind
  serial : cartridge.backupKind = .eeprom ∨ cartridge.eeprom = .initial
  eeprom : cartridge.eeprom.Sound

section State

end State

end Cartridge

namespace EepromState
variable {eeprom : EepromState} {backup : Bytes}

theorem and_one_le (byte : UInt8) : byte &&& 1 ≤ 1 := by
  have all : ∀ byte : BitVec 8, byte &&& 1#8 ≤ 1#8 := by decide
  exact all byte.toBitVec

theorem Sound.prepareReadBits (sound : eeprom.Sound) (backup : Bytes) (page : Nat) : (eeprom.prepareReadBits backup page).Sound := by
  have whole (bytes : Bytes) : (bytes.flatMap fun byte => (List.range 8).reverse.map fun bit => byte >>> UInt8.ofNat bit &&& 1).length =
      bytes.length * 8 := by
    induction bytes with
    | nil => rfl
    | cons byte bytes ih =>
      rw [flatMap_cons,length_append,ih,length_cons,length_map,length_reverse,length_range]
      omega
  refine ⟨sound.commandBits,⟨?_,fun bit member => ?_⟩,Nat.zero_le _,sound.busy⟩
  · have few : ((backup.drop (eepromPageOffset backup page)).take 8).length ≤ 8 := length_take_le _ _
    show ([0,0,0,0] ++ _ : Bytes).length ≤ 68
    rw [length_append,whole]
    show 4 + _ ≤ 68
    omega
  · obtain zero | answer := mem_append.mp member
    · rw [show bit = 0 by simpa using zero]
      decide
    · obtain ⟨byte,_,shown⟩ := mem_flatMap.mp answer
      obtain ⟨index,_,rfl⟩ := mem_map.mp shown
      exact and_one_le _

theorem Sound.writeBits (sound : eeprom.Sound) (bits : Bytes) : (eeprom.writeBits bits backup).1.Sound := by
  unfold EepromState.writeBits
  split
  · exact sound
  · unfold tryProcessCommand
    dsimp only
    split
    · unfold tryProcessReadCommand
      split
      · refine ⟨.nil _,?_,Nat.zero_le _,sound.busy⟩
        exact (sound.prepareReadBits backup _).readBits
      · exact ⟨.nil _,sound.readBits,sound.index,sound.busy⟩
    · unfold tryProcessWriteCommand
      split
      · split
        · exact ⟨.nil _,sound.readBits,sound.index,sound.busy⟩
        · exact ⟨.nil _,.nil _,le_rfl,le_rfl⟩
      · exact ⟨.nil _,sound.readBits,sound.index,sound.busy⟩
    · exact ⟨.nil _,sound.readBits,sound.index,sound.busy⟩

theorem Sound.read16 (sound : eeprom.Sound) : (eeprom.read16 backup).2.Sound := by
  unfold EepromState.read16
  split
  · exact sound
  split
  · exact sound
  split
  · rename_i inside
    exact ⟨sound.commandBits,sound.readBits,inside,sound.busy⟩
  · exact sound

end EepromState

namespace Cartridge
variable {cartridge next : Cartridge} {mapComponent : UInt32 → UInt16}

theorem fixed_readFixedBits {count : Nat} {input rest bits : Bytes} (read : readFixedBits count input = .ok (bits,rest)) :
    Fixed count bits := by
  unfold readFixedBits at read
  obtain ⟨⟨len,left⟩,_,read⟩ := bind_ok.mp read
  dsimp only at read
  split at read
  · exact absurd read (by simp)
  · obtain ⟨⟨stored,last⟩,_,read⟩ := bind_ok.mp read
    dsimp only at read
    split at read
    · rename_i short checked
      obtain ⟨rfl,_⟩ := Prod.mk.inj (Except.ok.inj read)
      rw [Bool.and_eq_true,all_eq_true,all_eq_true] at checked
      refine ⟨?_,fun bit member => of_decide_eq_true (checked.1 bit member)⟩
      rw [length_take]
      omega
    · exact absurd read (by simp)

theorem sound_initial (rom : Bytes) (kind : BackupKind) (tilt : Option TiltSensor) : (initial rom kind tilt).Sound :=
  ⟨show FlashState.initial.Fits kind by cases kind <;> decide,.inr rfl,EepromState.sound_initial⟩

theorem sound_restored {input rest : Bytes} (read : cartridge.readBackupExecutionState input = .ok (next,rest)) : next.Sound := by
  unfold readBackupExecutionState at read
  obtain ⟨⟨tag,left⟩,_,read⟩ := bind_ok.mp read
  obtain ⟨⟨kind,left⟩,_,read⟩ := bind_ok.mp read
  dsimp only at read
  split at read
  · exact absurd read (by simp)
  obtain ⟨⟨flash,left⟩,_,read⟩ := bind_ok.mp read
  obtain ⟨⟨eeprom,left⟩,serial,read⟩ := bind_ok.mp read
  dsimp only at read
  split at read
  · exact absurd read (by simp)
  split at read
  · exact absurd read (by simp)
  rename_i inRange fits
  obtain ⟨rfl,_⟩ := Prod.mk.inj (Except.ok.inj read)
  obtain ⟨index,busy⟩ := not_not.mp inRange
  obtain ⟨flashFits,chip⟩ := not_not.mp fits
  unfold readEeprom at serial
  obtain ⟨⟨commandBits,left⟩,command,serial⟩ := bind_ok.mp serial
  obtain ⟨⟨readBits,left⟩,bits,serial⟩ := bind_ok.mp serial
  obtain ⟨_,_,serial⟩ := bind_ok.mp serial
  obtain ⟨_,_,serial⟩ := bind_ok.mp serial
  obtain ⟨rfl,_⟩ := Prod.mk.inj (Except.ok.inj serial)
  exact ⟨flashFits,chip,fixed_readFixedBits command,fixed_readFixedBits bits,index,busy⟩

theorem Sound.storeBackup8 (sound : cartridge.Sound) (addr : UInt32) (value : UInt8) : (cartridge.storeBackup8 addr value).Sound := by
  unfold Cartridge.storeBackup8
  split
  · exact sound
  split
  · exact sound
  split
  · rename_i flash
    have flashing : cartridge.Flashing := ⟨flash,sound.fits⟩
    obtain ⟨_,eeprom,kind⟩ := @beside_flashWrite8 cartridge addr value
    exact ⟨(flashing.stored addr value).flashing.fits,by rw [kind,eeprom]; exact sound.serial,by rw [eeprom]; exact sound.eeprom⟩
  · exact ⟨sound.fits,sound.serial,sound.eeprom⟩

theorem Sound.perform (sound : cartridge.Sound) (call : BackupCall) : (cartridge.perform mapComponent call).Sound := by
  cases call with
  | backupWrite8 addr value =>
    unfold Cartridge.perform Cartridge.backupWrite8
    dsimp only
    split
    · exact sound.storeBackup8 addr value
    · rename_i tilt _
      have beside (tilt : Option TiltSensor) : Sound {cartridge with tilt := tilt} := ⟨sound.fits,sound.serial,sound.eeprom⟩
      split
      · exact beside _
      · exact (beside _).storeBackup8 addr value
  | eepromWriteBits addr bits =>
    unfold Cartridge.perform Cartridge.eepromWriteBits
    dsimp only
    split
    · exact sound
    · rename_i access
      exact ⟨sound.fits,.inl (kind_of_access (Bool.eq_true_of_not_eq_false access)),sound.eeprom.writeBits bits⟩
  | eepromRead16 addr =>
    unfold Cartridge.perform Cartridge.eepromRead16
    dsimp only
    split
    · exact sound
    · rename_i access
      exact ⟨sound.fits,.inl (kind_of_access (Bool.eq_true_of_not_eq_false access)),sound.eeprom.read16⟩
  | stepCycles cycles =>
    unfold Cartridge.perform Cartridge.stepCycles
    dsimp only
    split
    · exact sound
    · rename_i kind
      exact ⟨sound.fits,.inl (not_not.mp kind),sound.eeprom.commandBits,sound.eeprom.readBits,sound.eeprom.index,
        (Nat.sub_le _ _).trans sound.eeprom.busy⟩
  | loadBatteryData bytes =>
    unfold Cartridge.perform Cartridge.loadBatteryData
    dsimp only
    split
    · exact ⟨sound.fits,sound.serial,sound.eeprom⟩
    · exact sound
  | readBackupExecutionState input =>
    unfold Cartridge.perform
    dsimp only
    split
    · rename_i restored _ read
      exact sound_restored read
    · exact sound
  | resetBackupExecutionState =>
    have fresh := sound_initial cartridge.rom cartridge.backupKind cartridge.tilt
    exact ⟨fresh.fits,fresh.serial,fresh.eeprom⟩

theorem Sound.run (sound : cartridge.Sound) (calls : List BackupCall) : (cartridge.run mapComponent calls).Sound := by
  induction calls generalizing cartridge with
  | nil => exact sound
  | cons call calls ih => exact ih (sound.perform call)

end Cartridge

end ZeffBoy.Gba.Backup
