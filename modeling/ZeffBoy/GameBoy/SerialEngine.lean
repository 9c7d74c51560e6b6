import ZeffBoy.GameBoy.Sensors

/-! The serial engine of the MBC7 EEPROM, up to what a game can see.
Two engines that differ in bits no later command reads answer alike for ever. -/
namespace ZeffBoy.GameBoy
open Library

def SameLow (count : UInt8) (left right : UInt16) : Prop := left.toNat % 2^count.toNat = right.toNat % 2^count.toNat

theorem sameLow_zero (left right : UInt16) : SameLow 0 left right := by
  unfold SameLow
  rw [show (0 : UInt8).toNat = 0 from rfl,pow_zero,Nat.mod_one,Nat.mod_one]

theorem toNat_pushBit (buffer : UInt16) (bit : Bool) :
    (buffer <<< 1 ||| bit.toUInt16).toNat = (2 * buffer.toNat + bit.toNat) % 2^16 := by
  have small : bit.toNat < 2^1 := Bool.toNat_lt bit
  have low : bit.toUInt16.toNat = bit.toNat := by cases bit <;> rfl
  have high : (buffer <<< 1).toNat = (buffer.toNat % 2^15) <<< 1 := by
    rw [UInt16.toNat_shiftLeft,show (1 : UInt16).toNat % 16 = 1 from rfl,Nat.shiftLeft_eq,Nat.shiftLeft_eq]
    omega
  rw [UInt16.toNat_or,low,high,← Nat.shiftLeft_add_eq_or_of_lt small,Nat.shiftLeft_eq]
  omega

variable {left right : UInt16}

theorem sameLow_wide {count : Nat} (wide : 16 ≤ count)
    (same : left.toNat % 2^count = right.toNat % 2^count) : left = right := by
  have room : 2^16 ≤ 2^count := Nat.pow_le_pow_right (by decide) wide
  rw [Nat.mod_eq_of_lt (left.toNat_lt.trans_le room),Nat.mod_eq_of_lt (right.toNat_lt.trans_le room)] at same
  exact UInt16.toNat_inj.mp same

theorem SameLow.push {count : UInt8} (same : SameLow count left right) (bit : Bool) :
    SameLow (count + 1) (left <<< 1 ||| bit.toUInt16) (right <<< 1 ||| bit.toUInt16) := by
  rcases lt_or_ge count.toNat 16 with narrow | wide
  · have next : (count + 1).toNat = count.toNat + 1 := by
      rw [UInt8.toNat_add,show (1 : UInt8).toNat = 1 from rfl]
      omega
    have divides : 2^(count.toNat + 1) ∣ 2^16 := Nat.pow_dvd_pow 2 narrow
    have doubled (buffer : UInt16) : (2 * buffer.toNat + bit.toNat) % 2^(count.toNat + 1) =
        (2 * (buffer.toNat % 2^count.toNat) + bit.toNat) % 2^(count.toNat + 1) := by
      have halves := Nat.div_add_mod buffer.toNat (2^count.toNat)
      have regroup : 2^(count.toNat + 1) * (buffer.toNat / 2^count.toNat) =
          2 * (2^count.toNat * (buffer.toNat / 2^count.toNat)) := by ring
      have whole : 2 * buffer.toNat + bit.toNat = 2^(count.toNat + 1) * (buffer.toNat / 2^count.toNat) +
          (2 * (buffer.toNat % 2^count.toNat) + bit.toNat) := by omega
      rw [whole,Nat.mul_add_mod]
    unfold SameLow at *
    rw [toNat_pushBit,toNat_pushBit,next,Nat.mod_mod_of_dvd _ divides,Nat.mod_mod_of_dvd _ divides,doubled left,
      doubled right,same]
  · rw [sameLow_wide wide same]
    rfl

theorem SameLow.word (same : SameLow dataBits left right) : left = right :=
  sameLow_wide (Nat.le_refl 16) same

theorem SameLow.masked {count : UInt8} (same : SameLow count left right) (mask : UInt16)
    (low : mask.toNat = 2^count.toNat - 1) : left &&& mask = right &&& mask := by
  apply UInt16.toNat_inj.mp
  rw [UInt16.toNat_and,UInt16.toNat_and,low,Nat.and_two_pow_sub_one_eq_mod,Nat.and_two_pow_sub_one_eq_mod]
  exact same

namespace Mbc7

/-- The registers of the engine and the host that a game sees only through a command. -/
structure Hidden where
  hostX : Float32
  hostY : Float32
  latchReady : Bool
  buffer : UInt16
  count : UInt8
  command : UInt8
  address : UInt8

def withHidden (self : Mbc7) (hidden : Hidden) : Mbc7 :=
  {self with
    hostX := hidden.hostX
    hostY := hidden.hostY
    latchReady := hidden.latchReady
    buffer := hidden.buffer
    count := hidden.count
    command := hidden.command
    address := hidden.address}

def shown (self : Mbc7) : Mbc7 := self.withHidden ⟨0,0,false,0,0,0,0⟩

theorem eq_withHidden (left right : Mbc7) (same : left.shown = right.shown) : ∃ hidden, right = left.withHidden hidden := by
  simp only [shown,withHidden,Mbc7.mk.injEq] at same
  refine ⟨⟨right.hostX,right.hostY,right.latchReady,right.buffer,right.count,right.command,right.address⟩,?_⟩
  apply Mbc7.ext <;> simp only [withHidden,same]

/-- What the running command has received so far. -/
def SameCommand (left right : Mbc7) : Prop :=
  match left.state with
  | .idle => True
  | .command => left.count = right.count ∧ SameLow left.count left.buffer right.buffer
  | .address =>
    left.count = right.count ∧ left.command = right.command ∧ SameLow left.count left.buffer right.buffer
  | .data =>
    left.count = right.count ∧ left.command = right.command ∧ left.address = right.address ∧
      SameLow left.count left.buffer right.buffer
  | .shiftOut => left.count = right.count ∧ left.buffer = right.buffer
  | .writePending => left.address = right.address ∧ left.buffer = right.buffer

structure Alike (left right : Mbc7) : Prop where
  visible : left.shown = right.shown
  tiltX : mapTiltComponent (-left.hostX) = mapTiltComponent (-right.hostX)
  tiltY : mapTiltComponent left.hostY = mapTiltComponent right.hostY
  command : SameCommand left right

variable {left right : Mbc7}

theorem Alike.receiveCommandBits (alike : Alike left right) (receiving : left.state = .command) (di : Bool) :
    Alike (left.receiveCommandBits di) (right.receiveCommandBits di) := by
  obtain ⟨visible,tiltX,tiltY,command⟩ := alike
  obtain ⟨hidden,rfl⟩ := eq_withHidden left right visible
  rw [SameCommand,receiving] at command
  obtain ⟨sameCount,sameLow⟩ := command
  have pushed := sameLow.push di
  unfold Mbc7.receiveCommandBits
  dsimp only [withHidden,pushBit] at *
  rw [← sameCount]
  split
  · rename_i full
    rw [full] at pushed
    have command := pushed.masked 3 rfl
    exact ⟨rfl,tiltX,tiltY,rfl,congrArg UInt16.toUInt8 command,sameLow_zero _ _⟩
  · refine ⟨rfl,tiltX,tiltY,?_⟩
    rw [SameCommand,receiving]
    exact ⟨rfl,pushed⟩

theorem Alike.receiveAddressBits (alike : Alike left right) (receiving : left.state = .address) (di : Bool) :
    Alike (left.receiveAddressBits di) (right.receiveAddressBits di) := by
  obtain ⟨visible,tiltX,tiltY,command⟩ := alike
  obtain ⟨hidden,rfl⟩ := eq_withHidden left right visible
  rw [SameCommand,receiving] at command
  obtain ⟨sameCount,sameCommand,sameLow⟩ := command
  have pushed := sameLow.push di
  unfold Mbc7.receiveAddressBits
  dsimp only [withHidden,pushBit] at *
  rw [← sameCount,← sameCommand]
  split
  · rename_i full
    rw [full] at pushed
    have address := pushed.masked 0xFF rfl
    rw [← address]
    repeat' split
    · exact ⟨rfl,tiltX,tiltY,trivial⟩
    · exact ⟨rfl,tiltX,tiltY,trivial⟩
    · exact ⟨rfl,tiltX,tiltY,rfl,rfl,rfl,sameLow_zero _ _⟩
    · exact ⟨rfl,tiltX,tiltY,rfl,rfl,rfl,sameLow_zero _ _⟩
  · refine ⟨rfl,tiltX,tiltY,?_⟩
    rw [SameCommand,receiving]
    exact ⟨rfl,rfl,pushed⟩

theorem eepromWriteWord_withHidden (self : Mbc7) (hidden : Hidden) (wordAddr : UInt8) (data : UInt16) :
    (self.withHidden hidden).eepromWriteWord wordAddr data = (self.eepromWriteWord wordAddr data).withHidden hidden := by
  unfold eepromWriteWord
  dsimp only [withHidden]
  split <;> rfl

def hidden (self : Mbc7) : Hidden :=
  ⟨self.hostX,self.hostY,self.latchReady,self.buffer,self.count,self.command,self.address⟩

theorem sameCommand_of_eq (count : left.count = right.count) (command : left.command = right.command)
    (address : left.address = right.address) (buffer : left.buffer = right.buffer) : SameCommand left right := by
  have low : SameLow left.count left.buffer right.buffer := by rw [buffer]; rfl
  unfold SameCommand
  split
  · trivial
  · exact ⟨count,low⟩
  · exact ⟨count,command,low⟩
  · exact ⟨count,command,address,low⟩
  · exact ⟨count,buffer⟩
  · exact ⟨address,buffer⟩

theorem withHidden_eeprom (self : Mbc7) (hidden : Hidden) (eeprom : List.Vector UInt8 eepromSize) :
    ({self.withHidden hidden with eeprom} : Mbc7) = ({self with eeprom} : Mbc7).withHidden hidden := rfl

theorem extendedCommand_withHidden (self : Mbc7) (hidden : Hidden) (sameAddress : hidden.address = self.address)
    (sameBuffer : hidden.buffer = self.buffer) :
    (self.withHidden hidden).extendedCommand = self.extendedCommand.withHidden hidden := by
  have address : (self.withHidden hidden).address = self.address := sameAddress
  have buffer : (self.withHidden hidden).buffer = self.buffer := sameBuffer
  have pending (enabled : Bool) (written other : Mbc7) (commutes : written = other.withHidden hidden) :
      ({(if enabled then written else self.withHidden hidden) with state := .writePending} : Mbc7) =
        ({(if enabled then other else self) with state := .writePending} : Mbc7).withHidden hidden := by
    subst commutes
    cases enabled <;> rfl
  unfold extendedCommand
  by_cases ewds : self.address >>> 6 = extEwds
  · rw [if_pos ewds,if_pos (address.symm ▸ ewds)]
    rfl
  rw [if_neg ewds,if_neg (address.symm ▸ ewds)]
  by_cases wral : self.address >>> 6 = extWral
  · rw [if_pos wral,if_pos (address.symm ▸ wral)]
    refine pending self.writeEnable _ _ ?_
    rw [buffer]
    exact withHidden_eeprom self hidden _
  rw [if_neg wral,if_neg (address.symm ▸ wral)]
  by_cases eral : self.address >>> 6 = extEral
  · rw [if_pos eral,if_pos (address.symm ▸ eral)]
    exact pending self.writeEnable _ _ (withHidden_eeprom self hidden _)
  rw [if_neg eral,if_neg (address.symm ▸ eral)]
  by_cases ewen : self.address >>> 6 = extEwen
  · rw [if_pos ewen,if_pos (address.symm ▸ ewen)]
    rfl
  · rw [if_neg ewen,if_neg (address.symm ▸ ewen)]

theorem hidden_extendedCommand (self : Mbc7) : self.extendedCommand.hidden = self.hidden := by
  have commuted := extendedCommand_withHidden self self.hidden rfl rfl
  have same : self.withHidden self.hidden = self := rfl
  rw [same] at commuted
  rw [commuted]
  rfl

theorem Alike.extendedCommand (visible : left.shown = right.shown)
    (tiltX : mapTiltComponent (-left.hostX) = mapTiltComponent (-right.hostX))
    (tiltY : mapTiltComponent left.hostY = mapTiltComponent right.hostY) (command : left.command = right.command)
    (address : left.address = right.address) (buffer : left.buffer = right.buffer) :
    Alike {left.extendedCommand with count := 0} {right.extendedCommand with count := 0} := by
  obtain ⟨hidden,rfl⟩ := eq_withHidden left right visible
  have kept := hidden_extendedCommand left
  simp only [Mbc7.hidden,Hidden.mk.injEq] at kept
  obtain ⟨keptX,keptY,_,keptBuffer,_,keptCommand,keptAddress⟩ := kept
  rw [extendedCommand_withHidden left hidden address.symm buffer.symm]
  refine ⟨rfl,?_,?_,sameCommand_of_eq rfl ?_ ?_ ?_⟩
  · exact (congrArg (fun x => mapTiltComponent (-x)) keptX).trans tiltX
  · exact (congrArg mapTiltComponent keptY).trans tiltY
  · exact keptCommand.trans command
  · exact keptAddress.trans address
  · exact keptBuffer.trans buffer

theorem Alike.receiveDataBits (alike : Alike left right) (receiving : left.state = .data) (di : Bool) :
    Alike (left.receiveDataBits di) (right.receiveDataBits di) := by
  obtain ⟨visible,tiltX,tiltY,command⟩ := alike
  obtain ⟨hidden,rfl⟩ := eq_withHidden left right visible
  rw [SameCommand,receiving] at command
  obtain ⟨sameCount,sameCommand,sameAddress,sameLow⟩ := command
  have pushed := sameLow.push di
  unfold Mbc7.receiveDataBits
  dsimp only [withHidden,pushBit] at *
  rw [← sameCount,← sameCommand,← sameAddress]
  split
  · rename_i full
    rw [full.2] at pushed
    exact Alike.extendedCommand rfl tiltX tiltY rfl rfl pushed.word
  split
  · rename_i full
    rw [full.2] at pushed
    exact ⟨rfl,tiltX,tiltY,rfl,pushed.word⟩
  split
  · exact ⟨rfl,tiltX,tiltY,rfl,rfl⟩
  split
  · exact ⟨rfl,tiltX,tiltY,rfl,rfl⟩
  · refine ⟨rfl,tiltX,tiltY,?_⟩
    rw [SameCommand,receiving]
    exact ⟨rfl,rfl,rfl,pushed⟩

theorem Alike.clockRisingEdge (alike : Alike left right) (di : Bool) :
    Alike (left.clockRisingEdge di) (right.clockRisingEdge di) := by
  obtain ⟨hidden,shape⟩ := eq_withHidden left right alike.visible
  have sameIdle : right.idle = left.idle := by rw [shape]; rfl
  have sameState : right.state = left.state := by rw [shape]; rfl
  unfold Mbc7.clockRisingEdge
  rw [sameIdle,sameState]
  split
  · split
    · subst shape
      exact ⟨rfl,alike.tiltX,alike.tiltY,rfl,sameLow_zero _ _⟩
    · exact alike
  · split
    · exact alike.receiveCommandBits ‹_› di
    · exact alike.receiveAddressBits ‹_› di
    · exact alike.receiveDataBits ‹_› di
    · exact alike

theorem hidden_eepromWriteWord (self : Mbc7) (wordAddr : UInt8) (data : UInt16) :
    (self.eepromWriteWord wordAddr data).hidden = self.hidden := by
  unfold eepromWriteWord
  dsimp only
  split <;> rfl

theorem Alike.selectChip (alike : Alike left right) : Alike left.selectChip right.selectChip := by
  obtain ⟨visible,tiltX,tiltY,command⟩ := alike
  obtain ⟨hidden,rfl⟩ := eq_withHidden left right visible
  unfold Mbc7.selectChip
  by_cases waiting : left.state = .writePending
  · rw [if_pos waiting,if_pos (show (left.withHidden hidden).state = .writePending from waiting)]
    rw [SameCommand,waiting] at command
    obtain ⟨address,buffer⟩ := command
    rw [← address,← buffer,eepromWriteWord_withHidden]
    have kept := hidden_eepromWriteWord left left.address left.buffer
    simp only [Mbc7.hidden,Hidden.mk.injEq] at kept
    obtain ⟨keptX,keptY,_⟩ := kept
    cases enabled : left.writeEnable with
    | true =>
      rw [if_pos rfl,if_pos (show (left.withHidden hidden).writeEnable = true from enabled)]
      exact ⟨rfl,(congrArg (fun x => mapTiltComponent (-x)) keptX).trans tiltX,
        (congrArg mapTiltComponent keptY).trans tiltY,trivial⟩
    | false =>
      have closed : ¬(left.withHidden hidden).writeEnable = true := by
        rw [show (left.withHidden hidden).writeEnable = false from enabled]
        exact Bool.false_ne_true
      rw [if_neg Bool.false_ne_true,if_neg closed]
      exact ⟨rfl,tiltX,tiltY,trivial⟩
  · rw [if_neg waiting,if_neg (show ¬(left.withHidden hidden).state = .writePending from waiting)]
    exact ⟨rfl,tiltX,tiltY,trivial⟩

theorem Alike.shiftOutBit (alike : Alike left right) (shifting : left.state = .shiftOut) :
    Alike left.shiftOutBit right.shiftOutBit := by
  obtain ⟨visible,tiltX,tiltY,command⟩ := alike
  obtain ⟨⟨hostX,hostY,latchReady,buffer,count,command,address⟩,rfl⟩ := eq_withHidden left right visible
  rw [SameCommand,shifting] at command
  obtain ⟨sameCount,sameBuffer⟩ := command
  dsimp only [withHidden] at *
  subst sameCount sameBuffer
  unfold Mbc7.shiftOutBit
  dsimp only
  split
  · exact ⟨rfl,tiltX,tiltY,trivial⟩
  · refine ⟨rfl,tiltX,tiltY,?_⟩
    rw [SameCommand,shifting]
    exact ⟨rfl,rfl⟩

theorem Alike.lines (alike : Alike left right) (cs clk : Bool) :
    Alike {left with cs, clk} {right with cs, clk} := by
  have visible : ({left.shown with cs, clk} : Mbc7) = {right.shown with cs, clk} := by rw [alike.visible]
  exact ⟨visible,alike.tiltX,alike.tiltY,alike.command⟩

theorem Alike.same {α : Type} (alike : Alike left right) (field : Mbc7 → α) (shows : ∀ engine, field engine.shown = field engine) :
    field left = field right := by
  rw [← shows left,← shows right,alike.visible]

theorem Alike.choose (plain : Alike left right) {left' right' : Mbc7} (changed : Alike left' right') (condition : Bool) :
    Alike (if condition then left' else left) (if condition then right' else right) := by
  cases condition with
  | false => exact plain
  | true => exact changed

theorem Alike.writeEeprom (alike : Alike left right) (value : UInt8) :
    Alike (left.writeEeprom value) (right.writeEeprom value) := by
  have sameCs := alike.same Mbc7.cs (fun _ => rfl)
  have sameClk := alike.same Mbc7.clk (fun _ => rfl)
  have latched := alike.lines (value &&& spiCs != 0) (value &&& spiClk != 0)
  unfold Mbc7.writeEeprom
  rw [← sameCs,← sameClk]
  extract_lets oldCs oldClk leftLatched di leftSelected leftClocked rightLatched rightSelected rightClocked
  have selected : Alike leftSelected rightSelected := latched.choose latched.selectChip _
  have clocked : Alike leftClocked rightClocked := by
    have risen := selected.same Mbc7.clk (fun _ => rfl)
    show Alike (if !oldClk && leftSelected.clk then _ else _) (if !oldClk && rightSelected.clk then _ else _)
    rw [← risen]
    exact selected.choose (selected.clockRisingEdge di) _
  have fallen := clocked.same Mbc7.clk (fun _ => rfl)
  have shifting := clocked.same Mbc7.state (fun _ => rfl)
  rw [← fallen,← shifting]
  by_cases falls : oldClk && !leftClocked.clk && leftClocked.state == .shiftOut
  · rw [if_pos falls,if_pos falls]
    rw [Bool.and_eq_true,beq_iff_eq] at falls
    exact clocked.shiftOutBit falls.2
  · rw [if_neg falls,if_neg falls]
    exact clocked

theorem Alike.latch (alike : Alike left right) {leftX leftY rightX rightY : UInt16} (sameX : leftX = rightX)
    (sameY : leftY = rightY) (ready : Bool) :
    Alike {left with latchReady := ready, xLatch := leftX, yLatch := leftY}
      {right with latchReady := ready, xLatch := rightX, yLatch := rightY} := by
  subst sameX sameY
  have visible : ({left.shown with xLatch := leftX, yLatch := leftY} : Mbc7) =
      {right.shown with xLatch := leftX, yLatch := leftY} := by rw [alike.visible]
  exact ⟨visible,alike.tiltX,alike.tiltY,alike.command⟩

theorem Alike.writeAccelRegister (alike : Alike left right) (reg value : UInt8) :
    Alike (left.writeAccelRegister reg value).1 (right.writeAccelRegister reg value).1 ∧
      (left.writeAccelRegister reg value).2 = (right.writeAccelRegister reg value).2 := by
  unfold Mbc7.writeAccelRegister
  dsimp only
  split
  · refine ⟨?_,rfl⟩
    dsimp only
    split
    · exact alike.latch rfl rfl true
    · exact alike
  split
  · refine ⟨?_,rfl⟩
    dsimp only
    split
    · exact alike.latch alike.tiltX alike.tiltY false
    · exact alike
  split
  · exact ⟨alike,rfl⟩
  · exact ⟨alike,rfl⟩

theorem Alike.writeRam (alike : Alike left right) (addr : UInt16) (value : UInt8) :
    Alike (left.writeRam addr value) (right.writeRam addr value) := by
  have enabled := alike.same Mbc7.ramEnable (fun _ => rfl)
  have selected := alike.same Mbc7.ramBankSelect (fun _ => rfl)
  obtain ⟨taken,sameTaken⟩ := alike.writeAccelRegister (registerGroup addr) value
  unfold Mbc7.writeRam
  rw [← enabled,← selected]
  split
  · exact alike
  dsimp only
  generalize left.writeAccelRegister (registerGroup addr) value = leftWritten at *
  generalize right.writeAccelRegister (registerGroup addr) value = rightWritten at *
  obtain ⟨leftNext,leftTaken⟩ := leftWritten
  obtain ⟨rightNext,rightTaken⟩ := rightWritten
  dsimp only at taken sameTaken
  subst sameTaken
  cases leftTaken with
  | true => exact taken
  | false =>
    dsimp only
    split
    · exact taken.writeEeprom value
    · exact taken

theorem Alike.readRam (alike : Alike left right) (addr : UInt16) : left.readRam addr = right.readRam addr := by
  obtain ⟨hidden,rfl⟩ := eq_withHidden left right alike.visible
  rfl

theorem Alike.readRom (alike : Alike left right) (addr : UInt16) : left.readRom addr = right.readRom addr := by
  obtain ⟨hidden,rfl⟩ := eq_withHidden left right alike.visible
  rfl

theorem Alike.writeRom (alike : Alike left right) (addr : UInt16) (value : UInt8) :
    Alike (left.writeRom addr value) (right.writeRom addr value) := by
  obtain ⟨visible,tiltX,tiltY,command⟩ := alike
  obtain ⟨hidden,rfl⟩ := eq_withHidden left right visible
  unfold Mbc7.writeRom
  repeat' split
  all_goals exact ⟨rfl,tiltX,tiltY,command⟩

theorem Alike.setHostTilt (alike : Alike left right) (x y : Float32) : Alike (left.setHostTilt x y) (right.setHostTilt x y) :=
  ⟨alike.visible,rfl,rfl,alike.command⟩

end Mbc7

end ZeffBoy.GameBoy
