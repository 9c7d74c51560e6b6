import ZeffBoy.WonderSwan.BatteryClock
import ZeffBoy.WonderSwan.FrameRun

/-! Every program keeps its clock in order and its save memory at its length, so a battery file that it leaves is read back
unless the date or the command of the clock is refused. -/
namespace ZeffBoy.WonderSwan
open Library (Bytes)
variable {Frame Sample : Type} {board : Board Frame Sample} {footer : Footer}

namespace Cartridge

theorem length_fillWords (value : UInt16) (bytes : List UInt8) : (fillWords value bytes).length = bytes.length := by
  fun_induction fillWords value bytes with
  | case1 first second rest ih => simp [ih]
  | case2 => rfl

def Fitted (footer : Footer) (cartridge : Cartridge) : Prop :=
  cartridge.footer = footer ∧ cartridge.saveData.length = footer.saveKind.size

variable {cartridge : Cartridge}

theorem Fitted.romWrite8 (addr : UInt32) (value : UInt8) (fitted : cartridge.Fitted footer) :
    (cartridge.romWrite8 addr value).Fitted footer := by
  unfold Cartridge.romWrite8 saveWrite8
  dsimp only
  split
  · split
    · exact fitted
    · exact ⟨fitted.1,by rw [List.length_set]; exact fitted.2⟩
  · exact fitted

theorem Fitted.eepromWriteWord (wordAddr : Nat) (value : UInt16) (fitted : cartridge.Fitted footer) :
    (cartridge.eepromWriteWord wordAddr value).Fitted footer := by
  unfold Cartridge.eepromWriteWord
  split
  · exact fitted
  · exact ⟨fitted.1,by rw [List.length_set,List.length_set]; exact fitted.2⟩

theorem Fitted.eepromFillWords (value : UInt16) (fitted : cartridge.Fitted footer) :
    (cartridge.eepromFillWords value).Fitted footer := by
  unfold Cartridge.eepromFillWords
  split
  · exact fitted
  · exact ⟨fitted.1,by rw [length_fillWords]; exact fitted.2⟩

theorem Fitted.loadBatteryData {source : Cartridge} (one : source.Fitted footer) (two : cartridge.Fitted footer) :
    ∃ loaded, cartridge.loadBatteryData source.saveData = .ok loaded ∧ loaded.saveData = source.saveData := by
  have same : source.saveData.length = cartridge.saveData.length := one.2.trans two.2.symm
  unfold Cartridge.loadBatteryData
  split
  · rename_i none'
    have empty : footer.saveKind.size = 0 := by simpa [hasBattery,two.1] using none'
    refine ⟨cartridge,rfl,?_⟩
    rw [List.eq_nil_of_length_eq_zero (two.2.trans empty),List.eq_nil_of_length_eq_zero (one.2.trans empty)]
  · rw [if_neg (not_not.mpr same)]
    exact ⟨_,rfl,rfl⟩

theorem fitted_load {rom : Rom} (loaded : Cartridge.load rom = .ok cartridge) : cartridge.Fitted cartridge.footer := by
  cases parsed : Footer.parse rom with
  | error message =>
    rw [load,parsed] at loaded
    cases loaded
  | ok found =>
    rw [load,parsed] at loaded
    obtain rfl := Except.ok.inj loaded
    exact ⟨rfl,List.length_replicate⟩

end Cartridge

namespace Hardware
variable {hardware : Hardware Frame Sample}

/-- What the battery keeps: a clock in use, and as much memory as the footer promises. -/
def Backed (footer : Footer) (hardware : Hardware Frame Sample) : Prop :=
  hardware.rtc.Sound ∧ hardware.cartridge.Fitted footer

def loadParts (bytes : Bytes) (state : RtcSaveState) : Loading Frame Sample Unit := do
  loadBatteryData bytes
  loadRtcState state

theorem loadBatteryPersistence_eq (bytes : Bytes) (hardware : Hardware Frame Sample) :
    loadBatteryPersistence bytes hardware =
      if hardware.cartridge.footer.rtcPresent = false ∨ bytes.length = hardware.cartridge.saveData.length then
        loadBatteryData bytes hardware
      else if bytes.length < hardware.cartridge.saveData.length then .error "truncated WonderSwan RTC persistence" hardware
      else
        match RtcSaveState.decodeExtension (bytes.drop hardware.cartridge.saveData.length) with
        | .error message => .error message hardware
        | .ok state => loadParts (bytes.take hardware.cartridge.saveData.length) state hardware := by
  show (if _ then loadBatteryData bytes else loadCompleteRtcPersistence bytes : Loading Frame Sample Unit) hardware = _
  split
  · rfl
  · rename_i complete
    obtain ⟨present,_⟩ := not_or.mp complete
    unfold loadCompleteRtcPersistence
    simp only [bind,EStateM.bind,get,getThe,MonadStateOf.get,EStateM.get,if_neg present]
    split
    · rfl
    · cases RtcSaveState.decodeExtension (bytes.drop hardware.cartridge.saveData.length) <;> rfl

namespace Backed

theorem choose {condition : Prop} [Decidable condition] {one two : Hardware Frame Sample} (first : Backed footer one)
    (second : Backed footer two) : Backed footer (if condition then one else two) := by
  split
  · exact first
  · exact second

theorem poke (port : UInt16) (value : UInt8) (backed : Backed footer hardware) : Backed footer (hardware.poke port value) := backed

theorem setWord (low high value : UInt16) (backed : Backed footer hardware) : Backed footer (hardware.setWord low high value) :=
  (backed.poke _ _).poke _ _

theorem setSegmented (low high segment segmentHigh : UInt16) (value : UInt32) (backed : Backed footer hardware) :
    Backed footer (hardware.setSegmented low high segment segmentHigh value) :=
  ((backed.setWord _ _ _).poke _ _).poke _ _

theorem raiseInterrupt (mask : UInt8) (backed : Backed footer hardware) : Backed footer (hardware.raiseInterrupt mask) :=
  choose backed backed

theorem stepHblankTimer (backed : Backed footer hardware) : Backed footer hardware.stepHblankTimer := by
  unfold Hardware.stepHblankTimer
  refine choose (raiseInterrupt _ ?_) ?_ <;> exact choose (choose (choose backed backed) backed) backed

theorem stepVblankTimer (backed : Backed footer hardware) : Backed footer hardware.stepVblankTimer := by
  unfold Hardware.stepVblankTimer
  refine choose (raiseInterrupt _ ?_) ?_ <;> exact choose (choose (choose backed backed) backed) backed

theorem passed (events : PpuStepEvents) (backed : Backed footer hardware) : Backed footer (passed events hardware) := by
  have lines (count : Nat) : Backed footer (Hardware.stepHblankTimer^[count] hardware) := by
    induction count with
    | zero => exact backed
    | succ count ih =>
      rw [Function.iterate_succ_apply']
      exact ih.stepHblankTimer
  refine choose (raiseInterrupt _ ?_) ?_ <;> exact choose ((lines _).raiseInterrupt _).stepVblankTimer (lines _)

theorem transferSoundDmaByte (control : UInt8) (backed : Backed footer hardware) :
    Backed footer (hardware.transferSoundDmaByte control).2 := by
  unfold Hardware.transferSoundDmaByte
  split
  · exact backed
  · have loaded : Backed footer (if hardware.soundDmaLength = 0 then
        (hardware.soundDma.reloadLength,
          (hardware.setSoundDmaSource hardware.soundDma.reloadSource).setSoundDmaLength hardware.soundDma.reloadLength)
      else (hardware.soundDmaLength,hardware)).2 := by
      split
      · exact setSegmented _ _ _ _ _ (setSegmented _ _ _ _ _ backed)
      · exact backed
    have moved (next rest : UInt32) (after : Hardware Frame Sample) (fine : Backed footer after) (byte : UInt8) :
        Backed footer (((after.writeSoundDmaTarget control byte).setSoundDmaSource next).setSoundDmaLength rest) :=
      setSegmented _ _ _ _ _ (setSegmented _ _ _ _ _ fine)
    refine choose (poke _ _ ?_) ?_ <;> exact moved _ _ _ loaded _

theorem soundDmaLoop (control : UInt8) (fuel available : Nat) (backed : Backed footer hardware) :
    Backed footer (soundDmaLoop control fuel available hardware).2 := by
  induction fuel generalizing available hardware with
  | zero => exact backed
  | succ fuel ih =>
    rw [Hardware.soundDmaLoop]
    split
    · exact backed
    · dsimp only
      split
      · exact ih _ backed
      · have moved := backed.transferSoundDmaByte control
        generalize hardware.transferSoundDmaByte control = result at moved
        rcases result with ⟨_ | _,after⟩
        · exact moved
        · dsimp only
          split
          · exact moved
          · exact ih _ moved

theorem stepSoundDma (cycles : Nat) (backed : Backed footer hardware) : Backed footer (hardware.stepSoundDma cycles) := by
  unfold Hardware.stepSoundDma
  dsimp only
  split
  · exact backed
  · exact backed.soundDmaLoop _ _ _

theorem serviceCycles (cycles : Nat) (backed : Backed footer hardware) : Backed footer (hardware.serviceCycles board cycles) := by
  have clocked : Backed footer (if hardware.cartridge.footer.rtcPresent then
      {hardware with rtc := hardware.rtc.stepCycles cycles} else hardware) :=
    choose ⟨backed.1.stepCycles cycles,backed.2⟩ backed
  refine passed _ ?_
  exact stepSoundDma cycles clocked

theorem write8 (addr : UInt32) (value : UInt8) (backed : Backed footer hardware) : Backed footer (hardware.write8 addr value) :=
  choose backed ⟨backed.1,backed.2.romWrite8 addr value⟩

theorem flushDeferredLinearBank (backed : Backed footer hardware) : Backed footer hardware.flushDeferredLinearBank := by
  unfold Hardware.flushDeferredLinearBank
  split <;> exact backed

theorem retireInstruction (backed : Backed footer hardware) : Backed footer hardware.retireInstruction := by
  unfold Hardware.retireInstruction
  split
  · exact backed
  · exact choose backed backed

section Ports

theorem ioRead8 (port : UInt16) (backed : Backed footer hardware) : Backed footer (hardware.ioRead8 port).2 := by
  have read {condition : Prop} [Decidable condition] {one two : UInt8 × Hardware Frame Sample} (first : Backed footer one.2)
      (second : Backed footer two.2) : Backed footer (if condition then one else two).2 := by
    split
    · exact first
    · exact second
  have clock {rtc : Rtc} (sound : rtc.Sound) : Backed footer {hardware with rtc := rtc} := ⟨sound,backed.2⟩
  unfold Hardware.ioRead8
  repeat' with_reducible apply read
  all_goals try with_reducible exact backed
  · unfold Hardware.internalEepromStatusRead
    dsimp only
    split
    · exact choose backed backed
    · exact backed
  · exact backed
  · exact clock backed.1.readStatus
  · exact clock backed.1.readPayload

theorem writeInternalEepromCommand (value : UInt8) (backed : Backed footer hardware) :
    Backed footer (hardware.writeInternalEepromCommand value) := by
  have word : Backed footer {hardware with internalEepromDoneDelayReads := 0}.writeInternalEepromWord := choose backed backed
  have short : Backed footer {hardware with internalEepromDoneDelayReads := 0}.writeInternalEepromShortCommand := by
    unfold Hardware.writeInternalEepromShortCommand
    dsimp only
    split
    · exact backed
    · exact backed
    · exact choose backed backed
    · exact backed
  exact choose backed (choose backed (choose word (choose short backed)))

theorem writeCartridge {change : Cartridge → Cartridge} (keeps : (change hardware.cartridge).Fitted footer)
    (backed : Backed footer hardware) : Backed footer (hardware.writeCartridge change) := choose ⟨backed.1,keeps⟩ backed

theorem writeCartridgeEepromControl (value : UInt8) (backed : Backed footer hardware) :
    Backed footer (hardware.writeCartridgeEepromControl value) := by
  have word (address : Nat) (data : UInt16) : Backed footer (hardware.writeCartridge (·.eepromWriteWord address data)) :=
    writeCartridge (backed.2.eepromWriteWord address data) backed
  have all (data : UInt16) : Backed footer (hardware.writeCartridge (·.eepromFillWords data)) :=
    writeCartridge (backed.2.eepromFillWords data) backed
  unfold Hardware.writeCartridgeEepromControl
  refine choose backed (choose ?_ (choose backed ?_))
  · split <;> exact backed
  · split
    · exact word _ _
    · exact all _
    · exact word _ _
    · exact all _
    · exact backed
    · exact backed
    · exact backed

theorem dmaLoop (step : UInt32) (fuel remaining : Nat) (source destination : UInt32) (backed : Backed footer hardware) :
    Backed footer (dmaLoop step fuel remaining source destination hardware).2.2 := by
  induction fuel generalizing remaining source destination hardware with
  | zero => exact backed
  | succ fuel ih =>
    rw [Hardware.dmaLoop]
    split
    · exact backed
    · exact ih _ _ _ ((backed.write8 _ _).write8 _ _)

theorem runDmaTransfer (control : UInt8) (backed : Backed footer hardware) : Backed footer (hardware.runDmaTransfer control).1 := by
  unfold Hardware.runDmaTransfer
  dsimp only
  split
  · exact backed
  · refine poke _ _ (setWord _ _ _ (setWord _ _ _ (setSegmented _ _ _ _ _ ?_)))
    exact backed.dmaLoop _ _ _ _ _

theorem ioWritePlain (port : UInt16) (value : UInt8) (backed : Backed footer hardware) :
    Backed footer (hardware.ioWritePlain port value) := by
  have clock {rtc : Rtc} (sound : rtc.Sound) : Backed footer {hardware with rtc := rtc} := ⟨sound,backed.2⟩
  have sound : Backed footer (hardware.writeSoundDmaControl value) := choose backed (choose backed backed)
  unfold Hardware.ioWritePlain
  repeat' with_reducible apply choose
  all_goals try with_reducible exact backed
  all_goals try with_reducible apply poke
  all_goals try with_reducible exact backed
  · exact setWord _ _ _ (backed.poke _ _)
  · exact setWord _ _ _ (backed.poke _ _)
  · exact backed.poke _ _
  · exact backed.poke _ _
  · exact backed.poke _ _
  · exact backed.poke _ _
  · exact sound
  · exact backed.writeInternalEepromCommand value
  · exact backed
  · exact backed
  · exact backed
  · exact backed
  · exact backed
  · exact backed.writeCartridgeEepromControl value
  · exact clock (backed.1.writeCommand _ _)
  · exact clock (backed.1.writePayload _)

theorem ioWrite8 (port : UInt16) (value : UInt8) (backed : Backed footer hardware) :
    Backed footer (hardware.ioWrite8 port value).1 := by
  unfold Hardware.ioWrite8
  split
  · exact backed
  split
  · exact backed
  split
  · exact backed
  split
  · dsimp only
    split
    · exact runDmaTransfer value backed
    · exact backed
  split
  · exact backed
  split
  · exact backed
  split
  · exact backed
  split
  · exact backed
  · exact backed.ioWritePlain port value

theorem host (call : HostCall) (backed : Backed footer hardware) : Backed footer (hardware.host call) := by
  cases call with
  | setInput buttonsPressed dpadPressed => exact choose (raiseInterrupt _ backed) backed
  | receiveLinkByte value => exact backed
  | takeLinkTxEvent => exact backed
  | drainAudioSamples => exact backed
  | setSampleRate rate => exact backed
  | setSampleGenerationEnabled enabled => exact backed
  | setChannelMutes mutes => exact backed

end Ports

theorem powered {cartridge : Cartridge} (fitted : cartridge.Fitted footer) (sampleRate : Nat) :
    Backed footer (Hardware.powered board cartridge sampleRate) := ⟨Rtc.sound_new,fitted⟩

variable {after : Hardware Frame Sample}

theorem loadBatteryData {bytes : Bytes} (backed : Backed footer hardware)
    (loaded : Hardware.loadBatteryData bytes hardware = .ok () after) : Backed footer after := by
  unfold Hardware.loadBatteryData Cartridge.loadBatteryData at loaded
  split at loaded
  · rename_i cartridge kept
    obtain rfl := (EStateM.Result.ok.inj loaded).2
    refine ⟨backed.1,?_⟩
    split at kept
    · exact Except.ok.inj kept ▸ backed.2
    · split at kept
      · nomatch kept
      · rename_i same
        obtain rfl := Except.ok.inj kept
        exact ⟨backed.2.1,(not_not.mp same).trans backed.2.2⟩
  · nomatch loaded

theorem loadRtcState {state : RtcSaveState} (backed : Backed footer hardware)
    (loaded : Hardware.loadRtcState state hardware = .ok () after) : Backed footer after := by
  unfold Hardware.loadRtcState at loaded
  split at loaded
  · rename_i found
    obtain rfl := (EStateM.Result.ok.inj loaded).2
    exact ⟨Rtc.sound_loadState found,backed.2⟩
  · nomatch loaded

theorem loadBatteryPersistence {bytes : Bytes} (backed : Backed footer hardware)
    (loaded : Hardware.loadBatteryPersistence bytes hardware = .ok () after) : Backed footer after := by
  rw [loadBatteryPersistence_eq] at loaded
  split at loaded
  · exact backed.loadBatteryData loaded
  split at loaded
  · nomatch loaded
  split at loaded
  · nomatch loaded
  · rename_i state _
    simp only [loadParts,bind,EStateM.bind] at loaded
    split at loaded
    · rename_i saved
      exact (backed.loadBatteryData saved).loadRtcState loaded
    · nomatch loaded

end Backed

end Hardware

namespace Bus
open Hardware (Backed)
variable {bus : Bus Frame Sample}

theorem backed_materialize (backed : Backed footer bus.hardware) :
    Backed footer (bus.materializeFrameService board).hardware := by
  show Backed footer (if _ then _ else _)
  exact backed.choose (backed.serviceCycles _)

theorem backed_stepCycles (cycles : Nat) (backed : Backed footer bus.hardware) :
    Backed footer (bus.stepCycles board cycles).hardware := by
  have due : Backed footer (bus.materializeFrameService board).hardware := backed_materialize backed
  have served {before : Hardware Frame Sample} (fine : Backed footer before) :
      Backed footer ((before.charge cycles).serviceCycles board cycles) := Backed.serviceCycles cycles fine
  have put (near : Nat) : Backed footer (if bus.service.pending + cycles < near then
      (⟨bus.hardware.charge cycles,bus.service.pending + cycles,near⟩ : Library.Deferred (Hardware Frame Sample))
      else ⟨((bus.materializeFrameService board).hardware.charge cycles).serviceCycles board cycles,0,0⟩).state := by
    split
    · exact backed
    · exact served due
  unfold stepCycles
  split
  · exact put _
  · split
    · exact served due
    · exact served backed

theorem backed_ioRead8 (port : UInt16) (backed : Backed footer bus.hardware) :
    Backed footer (bus.ioRead8 board port).2.hardware := (backed_materialize backed).ioRead8 port

theorem backed_ioWrite8 (port : UInt16) (value : UInt8) (backed : Backed footer bus.hardware) :
    Backed footer (bus.ioWrite8 board port value).hardware := by
  have due : Backed footer (bus.materializeFrameService board).hardware := backed_materialize backed
  have written := due.ioWrite8 port value
  unfold ioWrite8
  dsimp only
  split
  · exact written
  · exact backed_stepCycles _ written

end Bus

open Hardware (Backed)

theorem Guest.backed_run {α : Type} (program : Guest α) {bus : Bus Frame Sample} (backed : Backed footer bus.hardware) :
    Backed footer (program.run board bus).2.hardware := by
  induction program generalizing bus with
  | done result => exact backed
  | read8 addr next ih => exact ih _ backed
  | write8 addr value next ih => exact ih (backed.write8 addr value)
  | ioRead8 port next ih => exact ih _ (Bus.backed_ioRead8 port backed)
  | ioWrite8 port value next ih => exact ih (Bus.backed_ioWrite8 port value backed)
  | stepCycles cycles next ih => exact ih (Bus.backed_stepCycles cycles backed)
  | flushDeferredLinearBank next ih => exact ih backed.flushDeferredLinearBank

namespace Emulator
variable {execute : Cpu → Guest Cpu} {emulator : Emulator Frame Sample}

theorem backed_stepInstruction (backed : Backed footer emulator.bus.hardware) :
    Backed footer (emulator.stepInstruction board execute).2.bus.hardware := by
  unfold stepInstruction
  split
  · exact backed
  · let program := emulator.cpu.step execute emulator.bus.hardware.hasPendingInterruptSignal emulator.bus.hardware.pendingInterruptVector
    have ran : Backed footer (program.run board emulator.bus).2.hardware := Guest.backed_run program backed
    dsimp only
    split
    · exact ran.retireInstruction
    · exact ran

theorem backed_fastForwardHalt (guard : UInt64) (backed : Backed footer emulator.bus.hardware) :
    Backed footer (emulator.fastForwardHalt board guard).bus.hardware := by
  unfold fastForwardHalt
  dsimp only
  split
  · exact Guest.backed_run _ backed
  · exact backed

theorem backed_stepFrameAfterEmptyInstruction (fastForward : Bool) (guard : UInt64) (backed : Backed footer emulator.bus.hardware) :
    Backed footer (emulator.stepFrameAfterEmptyInstruction board fastForward guard).2.bus.hardware := by
  have due : Backed footer (emulator.bus.materializeFrameService board).hardware := Bus.backed_materialize backed
  unfold stepFrameAfterEmptyInstruction
  dsimp only
  split
  · exact due
  · split
    · exact backed_fastForwardHalt guard due
    · exact due

theorem backed_frameLoop (fastForward : Bool) (guard : UInt64) (fuel : Nat) {final : Emulator Frame Sample}
    (backed : Backed footer emulator.bus.hardware)
    (ends : frameLoop board execute fastForward guard fuel emulator = some final) : Backed footer final.bus.hardware := by
  induction fuel generalizing emulator with
  | zero => nomatch ends
  | succ fuel ih =>
    have stepped : Backed footer (emulator.stepInstruction board execute).2.bus.hardware := backed_stepInstruction backed
    rw [frameLoop] at ends
    split at ends
    · generalize emulator.stepInstruction board execute = step at stepped ends
      rcases step with ⟨_ | _,after⟩
      · have emptied : Backed footer (after.stepFrameAfterEmptyInstruction board fastForward guard).2.bus.hardware :=
          backed_stepFrameAfterEmptyInstruction fastForward guard stepped
        dsimp only at emptied ends
        generalize after.stepFrameAfterEmptyInstruction board fastForward guard = turn at emptied ends
        rcases turn with ⟨_ | _,after⟩
        · exact ih emptied ends
        · exact Option.some.inj ends ▸ emptied
      · exact ih stepped ends
    · exact Option.some.inj ends ▸ backed

theorem backed_stepFrameInner (fastForward deferred : Bool) (fuel : Nat) {final : Emulator Frame Sample}
    (backed : Backed footer emulator.bus.hardware)
    (ends : emulator.stepFrameInner board execute fastForward deferred fuel = some final) : Backed footer final.bus.hardware := by
  unfold stepFrameInner at ends
  split at ends
  · exact Option.some.inj ends ▸ backed
  · obtain ⟨last,loop,rfl⟩ := Option.map_eq_some_iff.mp ends
    have start : Backed footer (if deferred then {emulator.clearFrameReady with bus := emulator.clearFrameReady.bus.beginFrameService}
        else emulator.clearFrameReady).bus.hardware := by
      split <;> exact backed
    have ended : Backed footer (last.bus.materializeFrameService board).hardware :=
      Bus.backed_materialize (backed_frameLoop _ _ _ start loop)
    unfold finishFrame
    dsimp only
    split
    · exact ended
    · exact @Bus.backed_materialize _ _ board _ (last.bus.endFrameService board) ended

theorem loadBatterySram_ok {bytes : Bytes} {restored : Emulator Frame Sample} (loaded : emulator.loadBatterySram bytes = (.ok (),restored)) :
    Hardware.loadBatteryPersistence bytes emulator.bus.hardware = .ok () restored.bus.hardware := by
  unfold loadBatterySram at loaded
  split at loaded
  · rename_i found
    obtain rfl := (Prod.mk.inj loaded).2
    exact found
  · nomatch (Prod.mk.inj loaded).1

/-- Machines that the cartridge has been played on, from power on. -/
inductive Played (board : Board Frame Sample) (cartridge : Cartridge) : Emulator Frame Sample → Prop
  | powered (sampleRate : Nat) : Played board cartridge (.powered board cartridge sampleRate)
  | guest {α : Type} {emulator : Emulator Frame Sample} (program : Guest α) (played : Played board cartridge emulator) :
    Played board cartridge {emulator with bus := (program.run board emulator.bus).2}
  | step {emulator : Emulator Frame Sample} (execute : Cpu → Guest Cpu) (played : Played board cartridge emulator) :
    Played board cartridge (emulator.stepInstruction board execute).2
  | frame {emulator final : Emulator Frame Sample} (execute : Cpu → Guest Cpu) (fastForward deferred : Bool) (fuel : Nat)
    (played : Played board cartridge emulator)
    (ends : emulator.stepFrameInner board execute fastForward deferred fuel = some final) : Played board cartridge final
  | host {emulator : Emulator Frame Sample} (call : HostCall) (played : Played board cartridge emulator) :
    Played board cartridge (emulator.host board call)
  | load {emulator restored : Emulator Frame Sample} {bytes : Bytes} (played : Played board cartridge emulator)
    (loaded : emulator.loadBatterySram bytes = (.ok (),restored)) : Played board cartridge restored

theorem Played.backed {cartridge : Cartridge} (fitted : cartridge.Fitted footer) (played : Played board cartridge emulator) :
    Backed footer emulator.bus.hardware := by
  induction played with
  | powered sampleRate => exact Backed.powered fitted sampleRate
  | guest program _ ih => exact Guest.backed_run program ih
  | step execute _ ih => exact backed_stepInstruction ih
  | frame execute fastForward deferred fuel _ ends ih => exact backed_stepFrameInner fastForward deferred fuel ih ends
  | host call _ ih => exact (Bus.backed_materialize ih).host call
  | load _ loaded ih => exact ih.loadBatteryPersistence (loadBatterySram_ok loaded)

theorem loadBatteryPersistence_dump {source target : Hardware Frame Sample} (clock : footer.rtcPresent = true)
    (backed : Backed footer source) (fits : target.cartridge.Fitted footer) :
    Hardware.loadBatteryPersistence (source.cartridge.saveData ++ source.rtc.encodeExtension) target =
      match RtcSaveState.decodeExtension source.rtc.encodeExtension with
      | .error message => .error message target
      | .ok state => Hardware.loadParts source.cartridge.saveData state target := by
  have saved : source.cartridge.saveData.length = target.cartridge.saveData.length := backed.2.2.trans fits.2.symm
  have longer : (source.cartridge.saveData ++ source.rtc.encodeExtension).length = target.cartridge.saveData.length + 24 := by
    rw [List.length_append,saved,Rtc.encodeExtension,List.length_append,length_encodeState]
    rfl
  rw [Hardware.loadBatteryPersistence_eq,fits.1,clock,longer,if_neg (by simp),if_neg (by omega),List.drop_left' saved,
    List.take_left' saved]

section Files
variable {rom : Rom} {cartridge : Cartridge} (loaded : Cartridge.load rom = .ok cartridge) (clock : cartridge.footer.rtcPresent = true)
  (sampleRate : Nat) (played : Played board cartridge emulator)
include loaded clock played

theorem loadsBack_iff : (Emulator.powered board cartridge sampleRate).LoadsBack emulator ↔ emulator.bus.hardware.rtc.Readable := by
  have fitted := Cartridge.fitted_load loaded
  have backed := played.backed fitted
  have present : emulator.dumpCompleteRtcPersistence =
      some (emulator.bus.hardware.cartridge.saveData ++ emulator.bus.hardware.rtc.encodeExtension) := by
    rw [dumpCompleteRtcPersistence,Hardware.dumpCompleteRtcPersistence,backed.2.1,if_pos clock]
  have fresh : (Emulator.powered board cartridge sampleRate).bus.hardware.cartridge.Fitted cartridge.footer := fitted
  have outcome := loadBatteryPersistence_dump clock backed fresh
  rw [RtcSaveState.decodeExtension_encodeExtension backed.1] at outcome
  constructor
  · rintro ⟨bytes,restored,dumped,result,_,_⟩
    obtain rfl := Option.some.inj (present.symm.trans dumped)
    rw [loadBatterySram_ok result] at outcome
    by_cases undated : validDatetime emulator.bus.hardware.rtc.payload = false
    · rw [if_pos undated] at outcome
      nomatch outcome
    · rw [if_neg undated] at outcome
      refine ⟨by simpa using undated,?_⟩
      intro refused
      rw [if_pos refused] at outcome
      nomatch outcome
  · rintro ⟨dated,commanded⟩
    obtain ⟨saved,stored,same⟩ := backed.2.loadBatteryData fresh
    obtain ⟨after,outcome,memory,time⟩ : ∃ after,
        Hardware.loadBatteryPersistence (emulator.bus.hardware.cartridge.saveData ++ emulator.bus.hardware.rtc.encodeExtension)
            (Emulator.powered board cartridge sampleRate).bus.hardware = .ok () after ∧
          after.cartridge.saveData = emulator.bus.hardware.cartridge.saveData ∧ after.rtc = emulator.bus.hardware.rtc := by
      rw [if_neg (by simp [dated]),if_neg commanded] at outcome
      simp only [Hardware.loadParts,bind,EStateM.bind,Hardware.loadBatteryData,stored,Hardware.loadRtcState,backed.1.loadState_saveState,
        if_neg commanded] at outcome
      exact ⟨_,outcome,same,rfl⟩
    refine ⟨_,{Emulator.powered board cartridge sampleRate with
      bus := (Emulator.powered board cartridge sampleRate).bus.map fun _ => after},present,?_,memory,time⟩
    rw [loadBatterySram,outcome]

/-- The battery file of a machine that has been played gives a fresh machine its save memory and its clock exactly when the
clock shows a date of the calendar and was not last given the command zero. No load that fails changes anything. -/
theorem batteryFile_loadsBack_iff : ((Emulator.powered board cartridge sampleRate).LoadsBack emulator ∧
      ∀ (target : Emulator Frame Sample) bytes message, (target.loadBatterySram bytes).1 = .error message →
        (target.loadBatterySram bytes).2 = target) ↔ emulator.bus.hardware.rtc.Readable := by
  have back := loadsBack_iff loaded clock sampleRate played
  constructor
  · intro holds
    exact back.mp holds.1
  · intro readable
    refine ⟨back.mpr readable,?_⟩
    intro target bytes message failed
    exact loadBatterySram_error bytes target message failed

end Files

section Example

def clockRom : Rom := ⟨romBankSize,fun offset => if offset = 0xFFFD then 1 else 0⟩

def clockCartridge : Cartridge := Cartridge.resetBanks ⟨clockRom,⟨.wonderSwan,.none,true⟩,[],0,0,0,0⟩

theorem clockCartridge_loaded : Cartridge.load clockRom = .ok clockCartridge := rfl

def readingDate : Guest Unit :=
  .ioWrite8 rtcCommandStatusPort 0x15 (.ioRead8 rtcPayloadPort fun _ => .ioRead8 rtcPayloadPort fun _ => .done ())

theorem batteryFile_readingDate : (Emulator.powered blind clockCartridge 48000).LoadsBack
      {Emulator.powered blind clockCartridge 48000 with
        bus := (readingDate.run blind (Emulator.powered blind clockCartridge 48000).bus).2} ∧
      ∀ (target : Emulator Unit Unit) bytes message, (target.loadBatterySram bytes).1 = .error message →
        (target.loadBatterySram bytes).2 = target :=
  (batteryFile_loadsBack_iff clockCartridge_loaded rfl 48000 (.guest readingDate (.powered 48000))).mpr
    ⟨rfl,fun zero => nomatch zero.2⟩

/-- A command zero is enough to lose the file. -/
theorem batteryFile_commandZero :
    ∃ emulator, Played blind clockCartridge emulator ∧ ¬(Emulator.powered blind clockCartridge 48000).LoadsBack emulator := by
  have powered : Played blind clockCartridge (Emulator.powered blind clockCartridge 48000) := .powered 48000
  have played := Played.guest (.ioWrite8 rtcCommandStatusPort 0 (.done ())) powered
  refine ⟨_,played,?_⟩
  rw [loadsBack_iff clockCartridge_loaded rfl 48000 played]
  intro readable
  exact readable.2 ⟨rfl,rfl⟩

end Example

end Emulator

end ZeffBoy.WonderSwan
