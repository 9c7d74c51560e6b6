import ZeffBoy.WonderSwan.Service

/-! The service of a frame may be put off up to its horizon.
What the guest does without a port neither hastens nor sees an event. -/
namespace ZeffBoy.WonderSwan
open Library
open Link.WonderSwan (Uart serialControlEnable serialControlFastBaud serialStatusRxReady serialStatusOverrun serialStatusTxEmpty)

namespace Hardware
variable {Frame Sample : Type} {board : Board Frame Sample}

theorem quiet_of_horizon {hardware : Hardware Frame Sample} {cycles : Nat} (some' : 0 < cycles)
    (short : cycles < hardware.freshFrameServiceHorizon) : Quiet cycles hardware ∧
      (hardware.apu.sampleGenerationEnabled = true → cycles < hardware.apu.cyclesUntilNextSample) := by
  unfold freshFrameServiceHorizon cyclesUntilTxComplete cyclesUntilNextSoundDmaTransfer at short
  dsimp only at short
  refine ⟨⟨?_,?_,?_⟩,?_⟩
  · split at short <;> split at short <;> split at short <;> omega
  · intro busy
    rw [if_pos (show _ ∧ _ from busy)] at short
    dsimp only at short
    split at short <;> split at short <;> omega
  · intro enabled
    rw [if_neg enabled] at short
    dsimp only at short
    split at short <;> split at short <;> omega
  · intro enabled
    rw [if_pos enabled] at short
    split at short <;> split at short <;> omega

theorem serviceCycles_horizon {hardware : Hardware Frame Sample} {cycles : Nat} (refreshed : Refreshed hardware)
    (some' : 0 < cycles) (short : cycles < hardware.freshFrameServiceHorizon) :
    hardware.serviceCycles board cycles = hardware.idle board cycles :=
  serviceCycles_idle refreshed (quiet_of_horizon some' short).1

theorem serviceCycles_deferrable : Deferrable (serviceCycles board) freshFrameServiceHorizon Refreshed where
  split state first second refreshed first_pos second_pos short := by
    have quiet := (quiet_of_horizon first_pos (show first < state.freshFrameServiceHorizon by omega)).1
    rw [serviceCycles_idle refreshed quiet,serviceCycles_split quiet]
  keeps state cycles _ := refreshed_serviceCycles cycles state

section Store

/-- What the guest changes without a port. -/
structure Store where
  ram : Ram
  cartridge : Cartridge
  pendingLinearBank : Option DeferredLinearBank
  cycles : UInt64

def store (hardware : Hardware Frame Sample) : Store :=
  ⟨hardware.ram,hardware.cartridge,hardware.pendingLinearBank,hardware.cycles⟩

def withStore (store : Store) (hardware : Hardware Frame Sample) : Hardware Frame Sample :=
  {hardware with
    ram := store.ram
    cartridge := store.cartridge
    pendingLinearBank := store.pendingLinearBank
    cycles := store.cycles}

theorem idle_withStore {hardware : Hardware Frame Sample} {cycles : Nat} (some' : 0 < cycles)
    (short : hardware.apu.sampleGenerationEnabled = true → cycles < hardware.apu.cyclesUntilNextSample) {store : Store}
    (clock : store.cartridge.footer.rtcPresent = hardware.cartridge.footer.rtcPresent) :
    (hardware.withStore store).idle board cycles = (hardware.idle board cycles).withStore store := by
  unfold idle withStore
  dsimp only
  rw [clock,Apu.stepCycles_quiet some' short,Apu.stepCycles_quiet some' short]

theorem free_of_store {action : Hardware Frame Sample → Hardware Frame Sample} {change : Store → Store}
    (changes : ∀ hardware, action hardware = hardware.withStore (change hardware.store))
    (clock : ∀ store, (change store).cartridge.footer.rtcPresent = store.cartridge.footer.rtcPresent) :
    Free (serviceCycles board) freshFrameServiceHorizon Refreshed action where
  commutes state pending refreshed some' short := by
    obtain ⟨quiet,sample⟩ := quiet_of_horizon some' short
    have same : (state.withStore (change state.store)).serviceCycles board pending =
        (state.withStore (change state.store)).idle board pending :=
      serviceCycles_idle (show Refreshed (state.withStore _) from refreshed) ⟨quiet.line,quiet.byte,quiet.transfer⟩
    rw [changes,changes,same,serviceCycles_idle refreshed quiet,idle_withStore some' sample (clock state.store)]
    rfl
  still state _ := by
    rw [changes]
    rfl
  keeps state refreshed := by
    rw [changes]
    exact refreshed

variable (board)

theorem charge_free (cycles : Nat) :
    Free (serviceCycles board) freshFrameServiceHorizon Refreshed (@charge Frame Sample cycles) :=
  @free_of_store _ _ _ _ (fun store => {store with cycles := store.cycles + UInt64.ofNat cycles}) (fun _ => rfl) fun _ => rfl

theorem footer_romWrite8 (cartridge : Cartridge) (addr : UInt32) (value : UInt8) :
    (cartridge.romWrite8 addr value).footer = cartridge.footer := by
  unfold Cartridge.romWrite8 Cartridge.saveWrite8
  dsimp only
  split
  · split <;> rfl
  · rfl

def Store.write8 (addr : UInt32) (value : UInt8) (store : Store) : Store :=
  if (addr &&& addressMask).toNat < 0x10000 then {store with ram := store.ram.set (addr &&& addressMask).toNat value}
  else {store with cartridge := store.cartridge.romWrite8 addr value}

theorem write8_free (addr : UInt32) (value : UInt8) :
    Free (serviceCycles board) freshFrameServiceHorizon Refreshed (@write8 Frame Sample addr value) := by
  refine @free_of_store _ _ _ _ (Store.write8 addr value) ?_ ?_
  · intro hardware
    unfold write8 Store.write8 store
    dsimp only
    split <;> rfl
  · intro store
    unfold Store.write8
    split
    · rfl
    · rw [footer_romWrite8]

def Store.setBank (store : Store) (value : UInt8) : Store :=
  {store with cartridge := store.cartridge.setLinearBank value, pendingLinearBank := none}

def Store.flush (store : Store) : Store :=
  match store.pendingLinearBank with
  | none => store
  | some pending => store.setBank pending.value

theorem flushDeferredLinearBank_free :
    Free (serviceCycles board) freshFrameServiceHorizon Refreshed (@flushDeferredLinearBank Frame Sample) := by
  refine @free_of_store _ _ _ _ Store.flush ?_ ?_
  · intro hardware
    cases pending : hardware.pendingLinearBank with
    | none =>
      simp only [flushDeferredLinearBank,Store.flush,store,pending,withStore]
      rw [← pending]
    | some bank => simp only [flushDeferredLinearBank,Store.flush,store,pending,withStore,Store.setBank]
  · intro store
    unfold Store.flush
    split <;> rfl

def Store.retire (store : Store) : Store :=
  match store.pendingLinearBank with
  | none => store
  | some pending =>
    if 1 < pending.remainingInstructionRetires then
      {store with
        pendingLinearBank := some {pending with remainingInstructionRetires := pending.remainingInstructionRetires - 1}}
    else store.setBank pending.value

theorem retireInstruction_free :
    Free (serviceCycles board) freshFrameServiceHorizon Refreshed (@retireInstruction Frame Sample) := by
  refine @free_of_store _ _ _ _ Store.retire ?_ ?_
  · intro hardware
    cases pending : hardware.pendingLinearBank with
    | none =>
      simp only [retireInstruction,Store.retire,store,pending,withStore]
      rw [← pending]
    | some bank =>
      simp only [retireInstruction,Store.retire,store,pending,withStore,Store.setBank]
      split <;> rfl
  · intro store
    unfold Store.retire
    split
    · rfl
    · split <;> rfl

end Store

section Settled

theorem settled_of_idle {α : Type} {read : Hardware Frame Sample → α}
    (still : ∀ cycles hardware, read (hardware.idle board cycles) = read hardware) :
    Settled (serviceCycles board) freshFrameServiceHorizon Refreshed read := by
  intro state pending refreshed some' short
  rw [serviceCycles_horizon refreshed some' short,still]

theorem peek8_settled (addr : UInt32) :
    Settled (serviceCycles board) freshFrameServiceHorizon Refreshed (@peek8 Frame Sample addr) :=
  settled_of_idle fun _ _ => rfl

theorem io_settled (port : UInt16) :
    Settled (serviceCycles board) freshFrameServiceHorizon Refreshed fun hardware => hardware.io port :=
  settled_of_idle fun _ _ => rfl

theorem frameReady_idle (cycles : Nat) (hardware : Hardware Frame Sample) :
    (hardware.idle board cycles).ppu.frameReady = hardware.ppu.frameReady := by
  rw [idle,Ppu.along]
  dsimp only
  split <;> rfl

theorem frameReady_settled :
    Settled (serviceCycles board) freshFrameServiceHorizon Refreshed fun hardware => hardware.ppu.frameReady :=
  settled_of_idle frameReady_idle

end Settled

section Ports
variable {hardware : Hardware Frame Sample}

theorem or_and (one two mask : UInt8) : (one ||| two) &&& mask = (one &&& mask) ||| (two &&& mask) := by
  apply UInt8.toBitVec_inj.mp
  rw [UInt8.toBitVec_and,UInt8.toBitVec_or,UInt8.toBitVec_or,UInt8.toBitVec_and,UInt8.toBitVec_and,BitVec.and_or_distrib_right]

theorem status_and (uart : Uart) (control mask : UInt8) : uart.status control &&& mask =
    (control &&& ((serialControlEnable ||| serialControlFastBaud) &&& mask)) |||
      (if uart.rxReady then serialStatusRxReady &&& mask else 0) |||
      (if uart.overrun then serialStatusOverrun &&& mask else 0) |||
      (if uart.txPending then 0 else serialStatusTxEmpty &&& mask) := by
  rw [Uart.status,or_and,or_and,or_and,UInt8.and_assoc]
  cases uart.rxReady <;> cases uart.overrun <;> cases uart.txPending <;> simp

theorem status_enable (uart : Uart) (control : UInt8) :
    uart.status control &&& serialControlEnable = control &&& serialControlEnable := by
  rw [status_and,show serialStatusRxReady &&& serialControlEnable = 0 by decide,
    show serialStatusOverrun &&& serialControlEnable = 0 by decide,show serialStatusTxEmpty &&& serialControlEnable = 0 by decide,
    show (serialControlEnable ||| serialControlFastBaud) &&& serialControlEnable = serialControlEnable by decide]
  simp only [ite_self,UInt8.or_zero]

theorem status_rxReady (uart : Uart) (control : UInt8) : uart.status control &&& serialStatusRxReady ≠ 0 ↔ uart.rxReady = true := by
  rw [status_and,show serialStatusOverrun &&& serialStatusRxReady = 0 by decide,
    show serialStatusTxEmpty &&& serialStatusRxReady = 0 by decide,
    show (serialControlEnable ||| serialControlFastBaud) &&& serialStatusRxReady = 0 by decide,UInt8.and_zero,UInt8.zero_or]
  simp only [ite_self,UInt8.or_zero]
  cases uart.rxReady <;> decide

theorem status_txEmpty (uart : Uart) (control : UInt8) : uart.status control &&& serialStatusTxEmpty ≠ 0 ↔ uart.txPending = false := by
  rw [status_and,show serialStatusOverrun &&& serialStatusTxEmpty = 0 by decide,
    show serialStatusRxReady &&& serialStatusTxEmpty = 0 by decide,
    show (serialControlEnable ||| serialControlFastBaud) &&& serialStatusTxEmpty = 0 by decide,UInt8.and_zero,UInt8.zero_or]
  simp only [ite_self,UInt8.zero_or]
  cases uart.txPending <;> decide

/-- The serial line asks for a byte when none is on its way, and for a reader when one has come. -/
def levelsOf (control enable : UInt8) (pending ready : Bool) : UInt8 :=
  (if control &&& serialControlEnable ≠ 0 ∧ pending = false ∧ enable &&& irqSerialTx ≠ 0 then irqSerialTx else 0) |||
    (if control &&& serialControlEnable ≠ 0 ∧ ready = true ∧ enable &&& irqSerialRx ≠ 0 then irqSerialRx else 0)

theorem levelInterrupts_eq (hardware : Hardware Frame Sample) : hardware.levelInterrupts =
    levelsOf (hardware.io serialControlPort) (hardware.io irqEnablePort) hardware.uart.txPending hardware.uart.rxReady := by
  unfold levelInterrupts serialControlRead levelsOf
  simp only [status_enable,status_rxReady,status_txEmpty]

theorem levelsOf_unready (control enable : UInt8) (pending ready : Bool) :
    levelsOf control enable pending false ||| levelsOf control enable pending ready = levelsOf control enable pending ready := by
  unfold levelsOf
  simp only [Bool.false_eq_true,false_and,and_false,if_false,UInt8.or_zero]
  rw [← UInt8.or_assoc,UInt8.or_self]

theorem Refreshed.readData (refreshed : Refreshed hardware) : Refreshed {hardware with uart := hardware.uart.readData.2} := by
  have still : hardware.io irqStatusPort ||| hardware.levelInterrupts = hardware.io irqStatusPort := refreshed
  have less : {hardware with uart := hardware.uart.readData.2}.levelInterrupts ||| hardware.levelInterrupts =
      hardware.levelInterrupts := by
    rw [levelInterrupts_eq,levelInterrupts_eq]
    exact levelsOf_unready _ _ _ _
  show hardware.io irqStatusPort ||| _ = hardware.io irqStatusPort
  rw [← still,UInt8.or_assoc,UInt8.or_comm hardware.levelInterrupts,less]

theorem Refreshed.internalEepromStatusRead (refreshed : Refreshed hardware) : Refreshed hardware.internalEepromStatusRead.2 := by
  unfold Hardware.internalEepromStatusRead
  dsimp only
  split
  · refine choose ?_ refreshed
    exact refreshed.poke (show Aside internalEepromCommandPort by decide) _
  · exact refreshed

theorem Refreshed.ioRead8 (port : UInt16) (refreshed : Refreshed hardware) : Refreshed (hardware.ioRead8 port).2 := by
  have read {condition : Prop} [Decidable condition] {one two : UInt8 × Hardware Frame Sample} (first : Refreshed one.2)
      (second : Refreshed two.2) : Refreshed (if condition then one else two).2 := by
    split
    · exact first
    · exact second
  have clock (rtc : Rtc) : Refreshed {hardware with rtc := rtc} := refreshed
  unfold Hardware.ioRead8
  repeat' with_reducible apply read
  all_goals try with_reducible exact refreshed
  · exact refreshed.internalEepromStatusRead
  · exact refreshed.readData.poke (show Aside serialDataPort by decide) _
  · exact clock _
  · exact clock _

theorem Refreshed.readInternalEepromWord (refreshed : Refreshed hardware) : Refreshed hardware.readInternalEepromWord :=
  refreshed_congr rfl rfl rfl rfl rfl rfl
    ((refreshed.setWord (show Aside internalEepromDataLoPort ∧ Aside internalEepromDataHiPort by decide)
      (hardware.internalEepromWordAt hardware.internalEepromAddress)).poke
      (show Aside internalEepromCommandPort by decide) eepromStatusReady)

theorem Refreshed.writeInternalEepromWord (refreshed : Refreshed hardware) : Refreshed hardware.writeInternalEepromWord := by
  refine poke (by decide) _ (setWord (by decide) _ ?_)
  exact choose refreshed refreshed

theorem Refreshed.writeInternalEepromShortCommand (refreshed : Refreshed hardware) :
    Refreshed hardware.writeInternalEepromShortCommand := by
  refine poke (by decide) _ ?_
  split
  · exact refreshed
  · exact refreshed
  · exact choose refreshed refreshed
  · exact refreshed

theorem Refreshed.writeInternalEepromCommand (value : UInt8) (refreshed : Refreshed hardware) :
    Refreshed (hardware.writeInternalEepromCommand value) := by
  have fresh : Refreshed {hardware with internalEepromDoneDelayReads := 0} := refreshed
  have ready {after : Hardware Frame Sample} (fine : Refreshed after) :
      Refreshed (after.poke internalEepromCommandPort eepromStatusReady) := fine.poke (by decide) _
  refine choose (ready ?_) (choose fresh.readInternalEepromWord (choose fresh.writeInternalEepromWord
    (choose fresh.writeInternalEepromShortCommand (ready fresh))))
  exact refreshed

theorem Refreshed.writeCartridge (change : Cartridge → Cartridge) (refreshed : Refreshed hardware) :
    Refreshed (hardware.writeCartridge change) := choose refreshed refreshed

theorem Refreshed.setCartridgeEepromReadDone (done : Bool) (refreshed : Refreshed hardware) :
    Refreshed (hardware.setCartridgeEepromReadDone done) :=
  refreshed.poke (show Aside cartEepromControlStatusLoPort by decide) _

theorem Refreshed.writeCartridgeEepromControl (value : UInt8) (refreshed : Refreshed hardware) :
    Refreshed (hardware.writeCartridgeEepromControl value) := by
  have status {after : Hardware Frame Sample} (fine : Refreshed after) (value : UInt8) :
      Refreshed (after.poke cartEepromControlStatusLoPort value) := fine.poke (by decide) _
  have data (value : UInt16) : Refreshed (hardware.setWord cartEepromDataLoPort cartEepromDataHiPort value) :=
    refreshed.setWord (by decide) value
  unfold Hardware.writeCartridgeEepromControl
  refine choose (status refreshed _) (choose ?_ (choose (refreshed.setCartridgeEepromReadDone _) ?_))
  · split
    · exact (data _).setCartridgeEepromReadDone _
    · exact refreshed.setCartridgeEepromReadDone _
  · split
    · exact (refreshed.writeCartridge _).setCartridgeEepromReadDone _
    · exact (refreshed.writeCartridge _).setCartridgeEepromReadDone _
    · exact (refreshed.writeCartridge _).setCartridgeEepromReadDone _
    · exact (refreshed.writeCartridge _).setCartridgeEepromReadDone _
    · exact setCartridgeEepromReadDone _ refreshed
    · exact setCartridgeEepromReadDone _ refreshed
    · exact status refreshed _

theorem Refreshed.writeSoundDmaControl (value : UInt8) (refreshed : Refreshed hardware) :
    Refreshed (hardware.writeSoundDmaControl value) := by
  have control (value : UInt8) : Refreshed (hardware.poke soundDmaControlPort value) := refreshed.poke (by decide) value
  have reloaded (value : UInt8) (soundDma : SoundDma) :
      Refreshed {hardware.poke soundDmaControlPort value with soundDma := soundDma} := control value
  exact choose (reloaded _ _) (choose (reloaded _ _) (control _))

theorem Refreshed.write8 (addr : UInt32) (value : UInt8) (refreshed : Refreshed hardware) : Refreshed (hardware.write8 addr value) :=
  choose refreshed refreshed

theorem Refreshed.dmaLoop (step : UInt32) (fuel remaining : Nat) (source destination : UInt32) (refreshed : Refreshed hardware) :
    Refreshed (dmaLoop step fuel remaining source destination hardware).2.2 := by
  induction fuel generalizing remaining source destination hardware with
  | zero => exact refreshed
  | succ fuel ih =>
    rw [Hardware.dmaLoop]
    split
    · exact refreshed
    · exact ih _ _ _ ((refreshed.write8 _ _).write8 _ _)

theorem Refreshed.runDmaTransfer (control : UInt8) (refreshed : Refreshed hardware) :
    Refreshed (hardware.runDmaTransfer control).1 := by
  unfold Hardware.runDmaTransfer
  dsimp only
  split
  · exact refreshed
  · refine poke (by decide) _ (setWord (by decide) _ (setWord (by decide) _ (setSegmented (by decide) _ ?_)))
    exact refreshed.dmaLoop _ _ _ _ _

def Tidy (port : UInt16) (value : UInt8) (hardware : Hardware Frame Sample) : Prop :=
  port = irqStatusPort → value ||| hardware.levelInterrupts = value

variable {port : UInt16} {value : UInt8}

theorem Refreshed.pokeTidy (control : port ≠ serialControlPort) (enable : port ≠ irqEnablePort)
    (tidy : Tidy port value hardware) (refreshed : Refreshed hardware) : Refreshed (hardware.poke port value) := by
  by_cases status : port = irqStatusPort
  · subst status
    rw [Refreshed,levelInterrupts_pokeStatus,io_poke_self]
    exact tidy rfl
  · exact refreshed.poke ⟨control.symm,enable.symm,Ne.symm status⟩ value

theorem Refreshed.writeMonoPalettePort (aside : Aside port) (value : UInt8) (refreshed : Refreshed hardware) :
    Refreshed (hardware.writeMonoPalettePort port value) := refreshed.poke aside _

theorem aside_of_palette (low : monoPalettePortStart ≤ port) (high : port ≤ monoPalettePortEnd) : Aside port := by
  refine ⟨?_,?_,?_⟩ <;> rintro rfl <;> revert low high <;> decide

theorem Refreshed.ioWritePlain (control : port ≠ serialControlPort) (enable : port ≠ irqEnablePort)
    (tidy : Tidy port value hardware) (refreshed : Refreshed hardware) : Refreshed (hardware.ioWritePlain port value) := by
  have pick {condition : Prop} [Decidable condition] {one two : Hardware Frame Sample} (first : condition → Refreshed one)
      (second : ¬condition → Refreshed two) : Refreshed (if condition then one else two) := by
    split
    · exact first ‹_›
    · exact second ‹_›
  have store (cartridge : Cartridge) : Refreshed {hardware with cartridge := cartridge} := refreshed
  have clock (rtc : Rtc) : Refreshed {hardware with rtc := rtc} := refreshed
  have pad (keypad : Keypad) : Refreshed {hardware with keypad := keypad} := refreshed
  have bank (pending : Option DeferredLinearBank) : Refreshed {hardware with pendingLinearBank := pending} := refreshed
  unfold Hardware.ioWritePlain
  repeat' with_reducible (apply pick <;> intro)
  all_goals try with_reducible exact refreshed
  · exact refreshed.poke (by decide) _
  · rename_i _ reload
    refine setWord (by decide) _ (refreshed.poke ?_ _)
    rcases reload with rfl | rfl <;> decide
  · rename_i _ reload
    refine setWord (by decide) _ (refreshed.poke ?_ _)
    rcases reload with rfl | rfl <;> decide
  · rename_i palette
    exact refreshed.writeMonoPalettePort (aside_of_palette palette.2.1 palette.2.2) value
  · rename_i low
    refine refreshed.poke ?_ _
    rcases low with rfl | rfl | rfl <;> decide
  · exact (refreshed.poke (by decide) _).poke (by decide) _
  · exact refreshed.poke (by decide) _
  · exact (refreshed.poke (by decide) _).poke (by decide) _
  · exact refreshed.poke (by decide) _
  · exact (refreshed.poke (by decide) _).poke (by decide) _
  · exact refreshed.poke (by decide) _
  · exact refreshed.writeSoundDmaControl value
  · exact refreshed.poke (by decide) _
  · exact refreshed.writeInternalEepromCommand value
  · exact refreshed.poke (by decide) _
  · exact pad _
  · exact bank _
  · exact store _
  · exact store _
  · exact store _
  · exact refreshed.writeCartridgeEepromControl value
  · exact (clock _).poke (by decide) _
  · exact (clock _).poke (by decide) _
  · exact refreshed.pokeTidy control enable tidy

theorem Refreshed.ioWrite8 (tidy : Tidy port value hardware) (refreshed : Refreshed hardware) :
    Refreshed (hardware.ioWrite8 port value).1 := by
  have sound (apu : Apu Sample) : Refreshed {hardware with apu := apu} := refreshed
  unfold Hardware.ioWrite8
  split
  · exact refreshed
  split
  · exact refreshed
  split
  · exact sound _
  split
  · have control := refreshed.poke (show Aside dmaControlPort by decide) value
    dsimp only
    split
    · exact control.runDmaTransfer value
    · exact control
  split
  · exact refreshed_refresh _
  split
  · exact refreshed_refresh _
  split
  · exact refreshed_refresh _
  split
  · exact refreshed_refresh _
  · exact refreshed.ioWritePlain ‹_› ‹_› tidy

end Ports

end Hardware

end ZeffBoy.WonderSwan
