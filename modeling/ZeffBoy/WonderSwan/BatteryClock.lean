import ZeffBoy.GameBoy.StateFormat
import ZeffBoy.WonderSwan.Machine

/-! The battery file of a cartridge with a clock: the save memory, and the clock behind it.
A file is read into a copy of the machine, which replaces the machine only when all of the file has been accepted. -/
namespace ZeffBoy.WonderSwan
open Library (Bytes Reader)
open GameBoy (writeU32)
open GameBoy.StateReader (readU8 readBool readU32 readExact)

local instance neZero_datetime : NeZero 7 := ⟨by decide⟩

def validBcd (value : UInt8) : Bool := value &&& 0x0F < 10 && value >>> 4 < 10

def validDatetime (payload : Datetime) : Bool :=
  let year := bcdToU8 (payload 0)
  let month := bcdToU8 (payload 1)
  let day := bcdToU8 (payload 2)
  validBcd (payload 0) && validBcd (payload 1) && validBcd (payload 2) && validBcd (payload 4) && validBcd (payload 5) &&
    validBcd (payload 6) && (1 ≤ month && month ≤ 12) && (1 ≤ day && day ≤ daysInMonth year month) && payload 3 < 7 &&
    bcdToU8 (payload 4) < 24 && bcdToU8 (payload 5) < 60 && bcdToU8 (payload 6) < 60

structure RtcSaveState where
  command : UInt8
  payload : Datetime
  payloadIndex : UInt8
  payloadLen : UInt8
  readyDelayReads : UInt8
  invalidCommand : Bool
  subsecondCycles : Nat

namespace Rtc

def saveState (rtc : Rtc) : RtcSaveState where
  command := rtc.command
  payload := rtc.payload
  payloadIndex := UInt8.ofNat rtc.payloadIndex
  payloadLen := UInt8.ofNat rtc.payloadLen
  readyDelayReads := rtc.readyDelayReads
  invalidCommand := rtc.invalidCommand
  subsecondCycles := rtc.subsecondCycles

-- Unlike `writeCommand`, this takes the command zero for a valid one.
def loadState (state : RtcSaveState) : Except String Rtc :=
  let invalidCommand := state.command ≠ 0 && !validCommand state.command
  if state.command &&& ~~~rtcCommandMask ≠ 0 ∨ state.payloadLen.toNat ≠ rtcCommandLength state.command ∨
      state.payloadLen.toNat < state.payloadIndex.toNat ∨ rtcReadyDelayReads < state.readyDelayReads ∨
      state.invalidCommand ≠ invalidCommand ∨ cpuClockHz ≤ state.subsecondCycles then
    .error "invalid WonderSwan RTC state"
  else .ok ⟨state.command,state.payload,state.payloadIndex.toNat,state.payloadLen.toNat,state.readyDelayReads,
    state.invalidCommand,state.subsecondCycles⟩

def magic : Bytes := [0x5A,0x42,0x57,0x53,0x52,0x54,0x43,0x31] -- ZBWSRTC1

def extensionLen : Nat := 24

def encodeState (rtc : Rtc) : Bytes :=
  let state := rtc.saveState
  state.command::((List.Vector.ofFn state.payload).toList ++ (state.payloadIndex::state.payloadLen::state.readyDelayReads::
    state.invalidCommand.toUInt8::writeU32 state.subsecondCycles))

def encodeExtension (rtc : Rtc) : Bytes := magic ++ rtc.encodeState

end Rtc

namespace RtcSaveState

def read : Reader RtcSaveState := do
  let command ← readU8
  let payload ← readExact 7
  let payloadIndex ← readU8
  let payloadLen ← readU8
  let readyDelayReads ← readU8
  let invalidCommand ← readBool
  let subsecondCycles ← readU32
  return ⟨command,payload.get,payloadIndex,payloadLen,readyDelayReads,invalidCommand,subsecondCycles⟩

def decodeExtension (bytes : Bytes) : Except String RtcSaveState := do
  if bytes.length ≠ Rtc.extensionLen ∨ bytes.take Rtc.magic.length ≠ Rtc.magic then
    throw "invalid WonderSwan RTC persistence extension"
  let (state,rest) ← read (bytes.drop Rtc.magic.length)
  if rest ≠ [] then throw "trailing WonderSwan RTC persistence bytes"
  if validDatetime state.payload = false then throw "invalid RTC date/time"
  discard (Rtc.loadState state)
  return state

end RtcSaveState

namespace Cartridge

def hasBattery (cartridge : Cartridge) : Bool := cartridge.footer.saveKind.size ≠ 0

def loadBatteryData (bytes : Bytes) (cartridge : Cartridge) : Except String Cartridge :=
  if cartridge.hasBattery = false then .ok cartridge
  else if bytes.length ≠ cartridge.saveData.length then
    .error s!"WonderSwan save size mismatch: got {bytes.length} bytes, expected {cartridge.saveData.length}"
  else .ok {cartridge with saveData := bytes}

end Cartridge

variable {Frame Sample : Type}

namespace Hardware

def dumpCompleteRtcPersistence (hardware : Hardware Frame Sample) : Option Bytes :=
  if hardware.cartridge.footer.rtcPresent then some (hardware.cartridge.saveData ++ hardware.rtc.encodeExtension) else none

/-- A load that fails may leave a part of the file behind. -/
abbrev Loading (Frame Sample : Type) := EStateM String (Hardware Frame Sample)

def loadBatteryData (bytes : Bytes) : Loading Frame Sample Unit := fun hardware =>
  match hardware.cartridge.loadBatteryData bytes with
  | .ok cartridge => .ok () {hardware with cartridge := cartridge}
  | .error message => .error message hardware

def loadRtcState (state : RtcSaveState) : Loading Frame Sample Unit := fun hardware =>
  match Rtc.loadState state with
  | .ok rtc => .ok () {hardware with rtc := rtc}
  | .error message => .error message hardware

def loadCompleteRtcPersistence (bytes : Bytes) : Loading Frame Sample Unit := do
  let hardware ← get
  if hardware.cartridge.footer.rtcPresent = false then throw "WonderSwan cartridge has no RTC"
  let saveLen := hardware.cartridge.saveData.length
  if bytes.length < saveLen then throw "truncated WonderSwan RTC persistence"
  match RtcSaveState.decodeExtension (bytes.drop saveLen) with
  | .error message => throw message
  | .ok rtc => do
    loadBatteryData (bytes.take saveLen)
    loadRtcState rtc

def loadBatteryPersistence (bytes : Bytes) : Loading Frame Sample Unit := do
  let hardware ← get
  if hardware.cartridge.footer.rtcPresent = false ∨ bytes.length = hardware.cartridge.saveData.length then loadBatteryData bytes
  else loadCompleteRtcPersistence bytes

end Hardware

namespace Emulator

def dumpCompleteRtcPersistence (emulator : Emulator Frame Sample) : Option Bytes :=
  emulator.bus.hardware.dumpCompleteRtcPersistence

def loadBatterySram (bytes : Bytes) (emulator : Emulator Frame Sample) : Except String Unit × Emulator Frame Sample :=
  match Hardware.loadBatteryPersistence bytes emulator.bus.hardware with
  | .ok _ hardware => (.ok (),{emulator with bus := emulator.bus.map fun _ => hardware})
  | .error message _ => (.error message,emulator)

/-- The battery file of one machine gives another its save memory and its clock. -/
def LoadsBack (fresh emulator : Emulator Frame Sample) : Prop :=
  ∃ bytes restored, emulator.dumpCompleteRtcPersistence = some bytes ∧ fresh.loadBatterySram bytes = (.ok (),restored) ∧
    restored.bus.hardware.cartridge.saveData = emulator.bus.hardware.cartridge.saveData ∧
    restored.bus.hardware.rtc = emulator.bus.hardware.rtc

theorem loadBatterySram_error (bytes : Bytes) (emulator : Emulator Frame Sample) (message : String)
    (failed : (emulator.loadBatterySram bytes).1 = .error message) : (emulator.loadBatterySram bytes).2 = emulator := by
  unfold loadBatterySram at failed ⊢
  split at failed
  · nomatch failed
  · rfl

end Emulator

namespace Rtc

/-- What holds of every clock that a program has used. A reset leaves a command zero that is not invalid. -/
structure Sound (rtc : Rtc) : Prop where
  masked : rtc.command &&& ~~~rtcCommandMask = 0
  length : rtc.payloadLen = rtcCommandLength rtc.command
  index : rtc.payloadIndex ≤ rtc.payloadLen
  ready : rtc.readyDelayReads ≤ rtcReadyDelayReads
  invalid : rtc.invalidCommand = (!validCommand rtc.command) ∨ rtc.command = 0 ∧ rtc.invalidCommand = false
  subsecond : rtc.subsecondCycles < cpuClockHz

/-- The date is one of the calendar, and no program has written the command zero. -/
def Readable (rtc : Rtc) : Prop := validDatetime rtc.payload = true ∧ ¬(rtc.command = 0 ∧ rtc.invalidCommand = true)

variable {rtc : Rtc}

theorem rtcCommandLength_le (command : UInt8) : rtcCommandLength command ≤ 7 := by
  unfold rtcCommandLength
  split <;> decide

theorem sound_new : Sound new := ⟨rfl,rfl,le_rfl,by decide,.inr ⟨rfl,rfl⟩,by decide⟩

theorem Sound.stepCycles (cycles : Nat) (sound : rtc.Sound) : (rtc.stepCycles cycles).Sound :=
  ⟨sound.masked,sound.length,sound.index,sound.ready,sound.invalid,Nat.mod_lt _ (by decide)⟩

theorem Sound.writeCommand (value initialPayload : UInt8) (sound : rtc.Sound) : (rtc.writeCommand value initialPayload).Sound where
  masked := by
    show value &&& rtcCommandMask &&& ~~~rtcCommandMask = 0
    rw [UInt8.and_assoc]
    exact UInt8.and_zero
  length := rfl
  index := by
    unfold Rtc.writeCommand
    dsimp only
    generalize isWriteCommand _ = writes
    cases writes
    · exact Nat.zero_le _
    · exact min_le_left _ _
  ready := UInt8.le_refl _
  invalid := .inl rfl
  subsecond := sound.subsecond

theorem Sound.writePayload (value : UInt8) (sound : rtc.Sound) : (rtc.writePayload value).Sound := by
  unfold Rtc.writePayload
  split
  · exact sound
  · rename_i room
    exact ⟨sound.masked,sound.length,by dsimp only; omega,sound.ready,sound.invalid,sound.subsecond⟩

theorem Sound.readStatus (sound : rtc.Sound) : rtc.readStatus.2.Sound := by
  unfold Rtc.readStatus
  dsimp only
  split
  · rename_i waits
    have positive : (1 : UInt8) ≤ rtc.readyDelayReads := UInt8.le_iff_toNat_le.mpr (UInt8.lt_iff_toNat_lt.mp waits)
    have less : rtc.readyDelayReads - 1 ≤ rtcReadyDelayReads := by
      rw [UInt8.le_iff_toNat_le,UInt8.toNat_sub_of_le _ _ positive]
      exact (Nat.sub_le _ _).trans (UInt8.le_iff_toNat_le.mp sound.ready)
    exact ⟨sound.masked,sound.length,sound.index,less,sound.invalid,sound.subsecond⟩
  · exact sound

theorem Sound.readPayload (sound : rtc.Sound) : rtc.readPayload.2.Sound := by
  unfold Rtc.readPayload
  split
  · exact sound
  · rename_i room
    exact ⟨sound.masked,sound.length,by dsimp only; omega,sound.ready,sound.invalid,sound.subsecond⟩

theorem sound_loadState {state : RtcSaveState} (loaded : loadState state = .ok rtc) : rtc.Sound := by
  unfold loadState at loaded
  dsimp only at loaded
  split at loaded
  · nomatch loaded
  · rename_i fine
    simp only [not_or,not_not,not_lt,not_le,UInt8.not_lt] at fine
    obtain ⟨masked,length,index,ready,invalid,subsecond⟩ := fine
    obtain rfl := Except.ok.inj loaded
    refine ⟨masked,length,index,ready,?_,subsecond⟩
    by_cases zero : state.command = 0
    · exact .inr ⟨zero,by simpa [zero] using invalid⟩
    · exact .inl (by simpa [zero] using invalid)

theorem Sound.loadState_saveState (sound : rtc.Sound) : loadState rtc.saveState =
    if rtc.command = 0 ∧ rtc.invalidCommand = true then .error "invalid WonderSwan RTC state" else .ok rtc := by
  have short : rtc.payloadLen < 256 := by
    rw [sound.length]
    exact (rtcCommandLength_le _).trans_lt (by decide)
  have length : (UInt8.ofNat rtc.payloadLen).toNat = rtc.payloadLen := Nat.mod_eq_of_lt short
  have index : (UInt8.ofNat rtc.payloadIndex).toNat = rtc.payloadIndex := Nat.mod_eq_of_lt (sound.index.trans_lt short)
  have flag : (rtc.invalidCommand ≠ (rtc.command ≠ 0 && !validCommand rtc.command)) ↔
      rtc.command = 0 ∧ rtc.invalidCommand = true := by
    by_cases zero : rtc.command = 0
    · simp [zero]
    · have known := sound.invalid.resolve_right (fun none' => zero none'.1)
      simp [zero,known]
  have known : rtc.payloadLen = rtcCommandLength rtc.command := sound.length
  have masked : rtc.command &&& ~~~rtcCommandMask = 0 := sound.masked
  have counted : ¬rtc.payloadLen < rtc.payloadIndex := not_lt.mpr sound.index
  have ready : ¬rtcReadyDelayReads < rtc.readyDelayReads := UInt8.not_lt.mpr sound.ready
  have below : ¬cpuClockHz ≤ rtc.subsecondCycles := not_le.mpr sound.subsecond
  unfold loadState saveState
  dsimp only
  rw [length,index]
  by_cases refused : rtc.command = 0 ∧ rtc.invalidCommand = true
  · rw [if_pos refused,if_pos (.inr (.inr (.inr (.inr (.inl (flag.mpr refused))))))]
  · rw [if_neg refused,if_neg]
    rintro (unmasked | other | past | late | flags | beyond)
    · exact unmasked masked
    · exact other known
    · exact counted past
    · exact ready late
    · exact refused (flag.mp flags)
    · exact below beyond

end Rtc

theorem RtcSaveState.run_read {rtc : Rtc} (sound : rtc.Sound) : read rtc.encodeState = .ok (rtc.saveState,[]) := by
  have word : rtc.saveState.subsecondCycles < 2^32 := sound.subsecond.trans (by decide)
  have last := GameBoy.StateReader.run_readU32 _ word []
  rw [List.append_nil] at last
  simp only [read,Rtc.encodeState,Reader.run_bind,GameBoy.StateReader.run_readU8,Library.ok_bind,
    GameBoy.StateReader.run_readExact,GameBoy.StateReader.run_readBool,last,Reader.run_pure]
  congr
  funext index
  exact List.Vector.get_ofFn _ _

theorem length_encodeState (rtc : Rtc) : rtc.encodeState.length = 16 := by
  simp [Rtc.encodeState,writeU32]

theorem RtcSaveState.decodeExtension_encodeExtension {rtc : Rtc} (sound : rtc.Sound) :
    decodeExtension rtc.encodeExtension =
      if validDatetime rtc.payload = false then .error "invalid RTC date/time"
      else if rtc.command = 0 ∧ rtc.invalidCommand = true then .error "invalid WonderSwan RTC state"
      else .ok rtc.saveState := by
  have whole : rtc.encodeExtension.length = Rtc.extensionLen := by
    rw [Rtc.encodeExtension,List.length_append,length_encodeState]
    rfl
  have front : rtc.encodeExtension.take Rtc.magic.length = Rtc.magic := List.take_left' rfl
  have rest : rtc.encodeExtension.drop Rtc.magic.length = rtc.encodeState := List.drop_left' rfl
  have kept : rtc.saveState.payload = rtc.payload := rfl
  rw [decodeExtension,if_neg (by simp [whole,front]),rest,run_read sound]
  simp only [Library.ok_bind,ne_eq,not_true_eq_false,if_false,kept,sound.loadState_saveState]
  by_cases dated : validDatetime rtc.payload = false
  · rw [if_pos dated,if_pos dated]
    rfl
  · rw [if_neg dated,if_neg dated]
    split <;> rfl

end ZeffBoy.WonderSwan
