import ZeffBoy.Link.SerialInvariant
import ZeffBoy.GameBoy.StateFormat
import ZeffBoy.Replay.EventStream

/-! The serial unit in a recording: its registers travel in the save state, its link state beside them.
Whatever the guest and the link have done, the two together restore the unit. -/
namespace ZeffBoy.Link.GameBoy
open Library Replay ZeffBoy.GameBoy

def encodeHardwareMode : HardwareMode → UInt8
  | .dmg => 0
  | .sgb1 => 1
  | .sgb2 => 2
  | .cgbNormal => 3
  | .cgbDouble => 4

def decodeHardwareMode (tag : UInt8) : Except String HardwareMode :=
  match tag.toNat with
  | 0 => .ok .dmg
  | 1 => .ok .sgb1
  | 2 => .ok .sgb2
  | 3 => .ok .cgbNormal
  | 4 => .ok .cgbDouble
  | _ => .error s!"invalid hardware mode tag in save-state file: {tag}"

def readHardwareMode : Reader HardwareMode := do
  let tag ← StateReader.readU8
  Reader.lift (decodeHardwareMode tag)

@[simp] theorem run_readHardwareMode (mode : HardwareMode) (rest : Bytes) :
    readHardwareMode (encodeHardwareMode mode::rest) = .ok (mode,rest) := by
  cases mode <;> rfl

namespace Serial

def replayLinkState (serial : Serial) : ReplayGameBoyLinkState :=
  {peerPresent := serial.linkPeerPresent
   pendingMasterByte := serial.pendingLinkByte
   pendingMasterResponse := serial.pendingLinkResponse
   pendingMasterCompletionReady := serial.pendingLinkCompletionReady
   queuedMasterAction := serial.queuedLinkAction.map fun action =>
     ⟨action.outByte,action.clockPeriodTCycles,action.serialGeneration⟩
   pendingPassiveCompletion := serial.pendingExternalCompletion.map fun completion =>
     ⟨completion.1,UInt64.ofNat completion.2⟩
   serialGeneration := serial.serialGeneration}

def restoreReplayLinkState (serial : Serial) (state : ReplayGameBoyLinkState) : Bool × Serial :=
  if state.validate.isOk = false ∨ (state.pendingPassiveCompletion.isSome ∧ serial.sc &&& 0x81 ≠ 0x80) then
    (false,serial)
  else
    (true,{serial with
      linkPeerPresent := state.peerPresent
      pendingLinkByte := state.pendingMasterByte
      pendingLinkResponse := state.pendingMasterResponse
      pendingLinkCompletionReady := state.pendingMasterCompletionReady
      pendingExternalCompletion := state.pendingPassiveCompletion.map fun completion =>
        (completion.peerByte,completion.remainingTCycles.toNat)
      queuedLinkAction := state.queuedMasterAction.map fun action =>
        ⟨action.outByte,action.clockPeriodTCycles,action.serialGeneration⟩
      serialGeneration := state.serialGeneration})

def writeState (serial : Serial) : Bytes :=
  serial.sb::serial.sc::(writeU64 serial.cycles ++ [encodeHardwareMode serial.mode])

def readState : Reader Serial := do
  let sb ← StateReader.readU8
  let sc ← StateReader.readU8
  let cycles ← StateReader.readU64
  let mode ← readHardwareMode
  return {Serial.new with sb, sc, cycles, mode}

/-- A delay a passive transfer is scheduled with. -/
abbrev Period := {period : Nat // 0 < period ∧ period ≤ normalSerialTransferTCycles}

-- What the link asks of the unit, while a peer is there.
inductive LinkCall
  | takeAction
  | applyReply (reply : GameBoyLinkReply)
  | scheduleExternal (peerByte : UInt8) (period : Period)

inductive Operation
  | writeSb (value : UInt8)
  | writeSc (value : UInt8)
  | setMode (mode : HardwareMode)
  | step (cycles : Nat) (device : Device)
  | setLinkPeerPresent (present : Bool)
  | link (call : LinkCall)

def answer (serial : Serial) : LinkCall → Serial
  | .takeAction => serial.takeLinkAction.2
  | .applyReply reply => (serial.applyLinkReply reply).2
  | .scheduleExternal peerByte period => (serial.scheduleExternalFromMaster peerByte period).2

def perform (serial : Serial) : Operation → Serial
  | .writeSb value => serial.writeSb value
  | .writeSc value => serial.writeSc value
  | .setMode mode => serial.setMode mode
  | .step cycles device => (serial.step cycles device).2
  | .setLinkPeerPresent present => serial.setLinkPeerPresent present
  | .link call => if serial.linkPeerPresent then serial.answer call else serial

def run (serial : Serial) (operations : List Operation) : Serial := operations.foldl perform serial

/-- Only a pending byte has an action, a response or a completion of its own, and a byte the peer clocks in
waits for a bounded time in a connected unit that does nothing else. -/
structure Restorable (serial : Serial) : Prop where
  cycles : serial.cycles < normalSerialTransferTCycles
  idle : serial.pendingLinkByte = none →
    serial.pendingLinkResponse = none ∧ serial.pendingLinkCompletionReady = false ∧ serial.queuedLinkAction = none
  passive : ∀ peerByte remaining, serial.pendingExternalCompletion = some (peerByte,remaining) →
    serial.linkPeerPresent = true ∧ serial.pendingLinkByte = none ∧ serial.sc &&& 0x81 = 0x80 ∧
      0 < remaining ∧ remaining ≤ normalSerialTransferTCycles

namespace Restorable
variable {serial : Serial}

theorem initial : Restorable Serial.new := ⟨by decide,fun _ => ⟨rfl,rfl,rfl⟩,by simp [Serial.new]⟩

theorem of_dropped (cycles : serial.cycles < normalSerialTransferTCycles)
    (response : serial.pendingLinkResponse = none) (ready : serial.pendingLinkCompletionReady = false)
    (queued : serial.queuedLinkAction = none) (external : serial.pendingExternalCompletion = none) : Restorable serial :=
  ⟨cycles,fun _ => ⟨response,ready,queued⟩,by simp [external]⟩

theorem of_master (cycles : serial.cycles < normalSerialTransferTCycles) (pending : serial.pendingLinkByte.isSome)
    (external : serial.pendingExternalCompletion = none) : Restorable serial := by
  refine ⟨cycles,?_,by simp [external]⟩
  intro free
  rw [free] at pending
  cases pending

theorem no_passive (restorable : Restorable serial)
    (busy : serial.linkPeerPresent = false ∨ serial.pendingLinkByte.isSome ∨ serial.sc &&& 0x81 ≠ 0x80) :
    serial.pendingExternalCompletion = none := by
  cases external : serial.pendingExternalCompletion with
  | none => rfl
  | some completion =>
    obtain ⟨present,free,armed,_,_⟩ := restorable.passive completion.1 completion.2 external
    rcases busy with absent | pending | other
    · rw [present] at absent
      cases absent
    · rw [free] at pending
      cases pending
    · exact absurd armed other

theorem writeSc (restorable : Restorable serial) (value : UInt8) : Restorable (serial.writeSc value) := by
  unfold Serial.writeSc
  dsimp only
  split
  · exact of_dropped restorable.cycles rfl rfl rfl rfl
  · rename_i set
    split
    · exact of_master restorable.cycles rfl rfl
    · rename_i ongoing
      refine ⟨restorable.cycles,restorable.idle,?_⟩
      intro peerByte remaining scheduled
      obtain ⟨present,free,armed,positive,bounded⟩ := restorable.passive peerByte remaining scheduled
      refine ⟨present,free,?_,positive,bounded⟩
      rcases byte_clocks value set with external | internal
      · exact external
      · exfalso
        have before : serial.sc &&& 0x81 ≠ 0x81 := by
          rw [armed]
          decide
        apply ongoing
        simp only [Bool.and_eq_true,Bool.not_eq_true',Option.isNone_iff_eq_none]
        exact ⟨⟨⟨present,decide_eq_false before⟩,free⟩,decide_eq_true internal⟩

theorem setLinkPeerPresent (restorable : Restorable serial) (present : Bool) :
    Restorable (serial.setLinkPeerPresent present) := by
  unfold Serial.setLinkPeerPresent
  dsimp only
  split
  · exact of_dropped restorable.cycles rfl rfl rfl rfl
  · rename_i kept
    split
    · rename_i starts
      simp only [Bool.and_eq_true,Bool.not_eq_true'] at starts
      exact of_master restorable.cycles rfl (restorable.no_passive (.inl starts.1.1))
    · refine ⟨restorable.cycles,restorable.idle,?_⟩
      intro peerByte remaining scheduled
      obtain ⟨_,rest⟩ := restorable.passive peerByte remaining scheduled
      exact ⟨by simpa using kept,rest⟩

theorem completeLinkTransfer (restorable : Restorable serial) (response : UInt8) :
    Restorable (serial.completeLinkTransfer response).2 := by
  unfold Serial.completeLinkTransfer
  dsimp only
  split
  · rename_i refused
    simp only [Bool.and_eq_true,Option.isNone_iff_eq_none] at refused
    refine ⟨restorable.cycles,fun _ => restorable.idle refused.1,?_⟩
    intro peerByte remaining scheduled
    obtain ⟨present,_,rest⟩ := restorable.passive peerByte remaining scheduled
    exact ⟨present,rfl,rest⟩
  · exact of_dropped restorable.cycles rfl rfl rfl rfl

theorem answer (restorable : Restorable serial) (present : serial.linkPeerPresent = true) (call : LinkCall) :
    Restorable (serial.answer call) := by
  cases call with
  | takeAction =>
    refine ⟨restorable.cycles,fun free => ?_,restorable.passive⟩
    obtain ⟨response,ready,_⟩ := restorable.idle free
    exact ⟨response,ready,rfl⟩
  | applyReply reply =>
    rw [Serial.answer,applyLinkReply]
    split
    · exact restorable
    · rename_i pending
      split
      · exact restorable.completeLinkTransfer reply.outByte
      · have owned : serial.pendingLinkByte.isSome := by simpa [Option.isSome_iff_ne_none] using pending
        exact of_master restorable.cycles owned (restorable.no_passive (.inr (.inl owned)))
  | scheduleExternal peerByte period =>
    rw [Serial.answer,scheduleExternalFromMaster]
    split
    · exact restorable
    · rename_i accepted
      simp only [Bool.not_eq_true,Bool.not_eq_false',canScheduleExternalFromMaster,externalClockTransferActive,
        Bool.and_eq_true,Option.isNone_iff_eq_none,decide_eq_true_eq] at accepted
      refine ⟨restorable.cycles,restorable.idle,?_⟩
      intro byte remaining scheduled
      cases scheduled
      exact ⟨present,accepted.1.1,accepted.1.2,period.2⟩

theorem moved (restorable : Restorable serial) (summed : Nat) :
    Restorable {serial with cycles := summed % serial.transferPeriod} := by
  obtain ⟨positive,bounded⟩ := serial.transferPeriod_bounds
  exact ⟨(Nat.mod_lt _ positive).trans_le bounded,restorable.idle,restorable.passive⟩

theorem step (restorable : Restorable serial) (cycles : Nat) (device : Device) :
    Restorable (serial.step cycles device).2 := by
  have moved := restorable.moved ((serial.cycles + cycles) % 2^64)
  unfold Serial.step
  dsimp only
  split
  · rename_i peerByte remaining external
    obtain ⟨present,free,armed,positive,bounded⟩ := restorable.passive peerByte remaining external
    split
    · have taken : Restorable {serial with
          cycles := (serial.cycles + cycles) % 2^64 % serial.transferPeriod
          pendingExternalCompletion := none} := ⟨moved.cycles,moved.idle,by simp⟩
      exact taken.completeLinkTransfer peerByte
    · rename_i early
      have still : serial.internalActive = false := by
        simp only [internalActive,decide_eq_false_iff_not,armed]
        decide
      rw [still]
      simp only [Bool.false_and,Bool.false_eq_true,if_false]
      refine ⟨moved.cycles,moved.idle,?_⟩
      intro byte left scheduled
      cases scheduled
      exact ⟨present,free,armed,by omega,by omega⟩
  · rename_i external
    split
    · split
      · exact moved.completeLinkTransfer _
      · split
        · rename_i owned
          simp only [Bool.and_eq_true] at owned
          exact of_master moved.cycles owned.2 external
        · refine ⟨moved.cycles,moved.idle,?_⟩
          intro byte left scheduled
          rw [show serial.pendingExternalCompletion = some (byte,left) from scheduled] at external
          cases external
    · exact moved

theorem perform (restorable : Restorable serial) (operation : Operation) : Restorable (serial.perform operation) := by
  cases operation with
  | writeSb value => exact ⟨restorable.cycles,restorable.idle,restorable.passive⟩
  | writeSc value => exact restorable.writeSc value
  | setMode mode => exact ⟨restorable.cycles,restorable.idle,restorable.passive⟩
  | step cycles device => exact restorable.step cycles device
  | setLinkPeerPresent present => exact restorable.setLinkPeerPresent present
  | link call =>
    rw [Serial.perform]
    split
    · rename_i present
      exact restorable.answer present call
    · exact restorable

theorem run (restorable : Restorable serial) (operations : List Operation) : Restorable (serial.run operations) := by
  induction operations generalizing serial with
  | nil => exact restorable
  | cons operation operations ih => exact ih (restorable.perform operation)

theorem validate (restorable : Restorable serial) : serial.replayLinkState.validate = .ok () := by
  unfold ReplayGameBoyLinkState.validate
  cases external : serial.pendingExternalCompletion with
  | none => simp [replayLinkState,external]
  | some completion =>
    obtain ⟨present,free,_,positive,bounded⟩ := restorable.passive completion.1 completion.2 external
    obtain ⟨response,ready,queued⟩ := restorable.idle free
    have short : completion.2 ≤ 4096 := bounded
    have word : (UInt64.ofNat completion.2).toNat = completion.2 := by
      rw [UInt64.toNat_ofNat']
      omega
    have counting : UInt64.ofNat completion.2 ≠ 0 := by
      intro zero
      rw [zero] at word
      exact absurd word.symm (Nat.pos_iff_ne_zero.mp positive)
    have due : UInt64.ofNat completion.2 ≤ 4096 := UInt64.le_iff_toNat_le.mpr (word.trans_le short)
    simp [replayLinkState,external,present,free,response,ready,queued,counting,due,ensure,
      ReplayGameBoyLinkState.hasMasterOwnedTransfer,bind,Except.bind]

theorem restored (restorable : Restorable serial) :
    {Serial.new with
      sb := serial.sb
      sc := serial.sc
      cycles := serial.cycles
      mode := serial.mode}.restoreReplayLinkState serial.replayLinkState = (true,{serial with outputLog := []}) := by
  have armed : ¬(serial.replayLinkState.pendingPassiveCompletion.isSome ∧ serial.sc &&& 0x81 ≠ 0x80) := by
    rintro ⟨scheduled,other⟩
    have free := restorable.no_passive (.inr (.inr other))
    simp [replayLinkState,free] at scheduled
  have passive : (serial.replayLinkState.pendingPassiveCompletion.map fun completion =>
      (completion.peerByte,completion.remainingTCycles.toNat)) = serial.pendingExternalCompletion := by
    cases external : serial.pendingExternalCompletion with
    | none => simp [replayLinkState,external]
    | some completion =>
      obtain ⟨_,_,_,_,bounded⟩ := restorable.passive completion.1 completion.2 external
      have short : completion.2 ≤ 4096 := bounded
      have word : (UInt64.ofNat completion.2).toNat = completion.2 := by
        rw [UInt64.toNat_ofNat']
        omega
      simp only [replayLinkState,external,Option.map_some,word]
  have action : (serial.replayLinkState.queuedMasterAction.map fun action =>
      (⟨action.outByte,action.clockPeriodTCycles,action.serialGeneration⟩ : GameBoyLinkAction)) = serial.queuedLinkAction := by
    cases queued : serial.queuedLinkAction <;> simp [replayLinkState,queued]
  rw [restoreReplayLinkState,if_neg,passive,action]
  · rfl
  · rw [restorable.validate]
    exact fun refused => refused.elim (fun failed => by cases failed) armed

theorem run_readState (restorable : Restorable serial) (rest : Bytes) :
    readState (serial.writeState ++ rest) = .ok ({Serial.new with
      sb := serial.sb
      sc := serial.sc
      cycles := serial.cycles
      mode := serial.mode},rest) := by
  have word : serial.cycles < 2^64 := restorable.cycles.trans (by decide)
  simp [readState,writeState,StateReader.run_readU64 _ word]

end Restorable

/-- A captured link state is valid, comes back from its bytes, and restores the unit that the save state gives. -/
theorem run_replayLinkState (operations : List Operation) :
    let serial := Serial.new.run operations
    let state := serial.replayLinkState
    state.validate = .ok () ∧
    (∀ rest, ReplayGameBoyLinkState.decode EventStream.metadataVersion (state.encode EventStream.metadataVersion ++ rest) = .ok (state,rest)) ∧
    ∀ rest, ∃ loaded, readState (serial.writeState ++ rest) = .ok (loaded,rest) ∧
      loaded.restoreReplayLinkState state = (true,{serial with outputLog := []}) := by
  intro serial state
  have restorable : Restorable serial := Restorable.initial.run operations
  have valid : state.validate = .ok () := restorable.validate
  refine ⟨valid,fun rest => ?_,fun rest => ⟨_,restorable.run_readState rest,restorable.restored⟩⟩
  rw [run_linkState state EventStream.metadataVersion (by decide) rest,checkedBy,valid]
  rfl

end Serial
end ZeffBoy.Link.GameBoy
