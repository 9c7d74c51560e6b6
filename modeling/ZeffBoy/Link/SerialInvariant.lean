import ZeffBoy.Link.GameBoy

/-! What the serial unit, the transfer the coordinator awaits and the drain gate agree on. -/
namespace ZeffBoy.Link.GameBoy
namespace Serial

theorem transferPeriod_bounds (serial : Serial) : 0 < serial.transferPeriod ∧ serial.transferPeriod ≤ 4096 := by
  unfold transferPeriod fastSerialTransferTCycles normalSerialTransferTCycles
  dsimp only
  split <;> split <;> decide

theorem newAction_period (serial : Serial) :
    0 < serial.newAction.clockPeriodTCycles.toNat ∧ serial.newAction.clockPeriodTCycles.toNat ≤ 4096 := by
  have bounds := serial.transferPeriod_bounds
  simp only [newAction,UInt64.toNat_ofNat']
  omega

theorem byte_clocks (value : UInt8) (set : value &&& 0x80 ≠ 0) : value &&& 0x81 = 0x80 ∨ value &&& 0x81 = 0x81 := by
  obtain ⟨value⟩ := value
  revert value
  decide

theorem stopped_internal (value : UInt8) : value &&& 0x7F &&& 0x81 ≠ 0x81 := by
  obtain ⟨value⟩ := value
  revert value
  decide

@[simp] theorem bumpSerialGeneration_sc (serial : Serial) : serial.bumpSerialGeneration.sc = serial.sc := rfl

/-- A pending byte is queued for the link, awaited by the coordinator or already answered; a byte the
peer clocks in is due exactly when the gate opens; and without a peer there is nothing of the kind. -/
structure Coherent (serial : Serial) (awaiting : Bool) (clock : Nat) (gate : Option PassiveDrainGate) : Prop where
  unlinked : serial.linkPeerPresent = false → serial.pendingLinkByte = none ∧ serial.queuedLinkAction = none ∧
    serial.pendingLinkResponse = none ∧ serial.pendingExternalCompletion = none ∧ awaiting = false
  awaits : awaiting = true → serial.pendingLinkByte.isSome ∧ serial.queuedLinkAction = none ∧ serial.pendingLinkResponse = none
  queued : ∀ action, serial.queuedLinkAction = some action → serial.pendingLinkByte.isSome ∧ serial.pendingLinkResponse = none ∧
    0 < action.clockPeriodTCycles.toNat ∧ action.clockPeriodTCycles.toNat ≤ 4096
  bound : ∀ response, serial.pendingLinkResponse = some response → serial.pendingLinkByte.isSome ∧ serial.queuedLinkAction = none
  owned : serial.pendingLinkByte.isSome → awaiting = true ∨ serial.queuedLinkAction.isSome ∨ serial.pendingLinkResponse.isSome
  resting : serial.linkPeerPresent = true → serial.pendingLinkByte = none → serial.sc &&& 0x81 ≠ 0x81
  passive : ∀ peerByte remaining, serial.pendingExternalCompletion = some (peerByte,remaining) →
    serial.pendingLinkByte = none ∧ serial.sc &&& 0x81 = 0x80 ∧ 0 < remaining ∧
      ∃ opening, gate = some opening ∧ clock + remaining = opening.completionTick

namespace Coherent
variable {serial : Serial} {awaiting : Bool} {clock : Nat} {gate : Option PassiveDrainGate}

theorem of_idle (pending : serial.pendingLinkByte = none) (queued : serial.queuedLinkAction = none)
    (response : serial.pendingLinkResponse = none) (external : serial.pendingExternalCompletion = none)
    (resting : serial.linkPeerPresent = true → serial.sc &&& 0x81 ≠ 0x81) : Coherent serial false clock gate :=
  ⟨fun _ => ⟨pending,queued,response,external,rfl⟩,by simp,by simp [queued],by simp [response],by simp [pending],
    fun present _ => resting present,by simp [external]⟩

theorem not_awaiting (coherent : Coherent serial awaiting clock gate) (idle : serial.pendingLinkByte = none) : awaiting = false := by
  cases awaiting with
  | false => rfl
  | true =>
    have pending := (coherent.awaits rfl).1
    rw [idle] at pending
    cases pending

theorem congr {next : Serial} (coherent : Coherent serial awaiting clock gate) (present : next.linkPeerPresent = serial.linkPeerPresent)
    (pending : next.pendingLinkByte = serial.pendingLinkByte) (queue : next.queuedLinkAction = serial.queuedLinkAction)
    (response : next.pendingLinkResponse = serial.pendingLinkResponse)
    (external : next.pendingExternalCompletion = serial.pendingExternalCompletion) (sc : next.sc = serial.sc) :
    Coherent next awaiting clock gate := by
  constructor
  · rw [present,pending,queue,response,external]
    exact coherent.unlinked
  · rw [pending,queue,response]
    exact coherent.awaits
  · rw [pending,queue,response]
    exact coherent.queued
  · rw [pending,queue,response]
    exact coherent.bound
  · rw [pending,queue,response]
    exact coherent.owned
  · rw [present,pending,sc]
    exact coherent.resting
  · rw [pending,external,sc]
    exact coherent.passive

theorem writeSb (coherent : Coherent serial awaiting clock gate) (value : UInt8) :
    Coherent (serial.writeSb value) awaiting clock gate :=
  coherent.congr rfl rfl rfl rfl rfl rfl

theorem writeSc (coherent : Coherent serial awaiting clock gate) (value : UInt8)
    (patient : value &&& 0x80 = 0 → awaiting = false) : Coherent (serial.writeSc value) awaiting clock gate := by
  unfold Serial.writeSc
  dsimp only
  split
  · rename_i cleared
    rw [patient cleared]
    refine of_idle rfl rfl rfl rfl ?_
    intro _ internal
    have top : value &&& 0x81 &&& 0x80 = 0x80 := by
      have same : (serial.bumpSerialGeneration.dropLink.sc) = serial.sc := rfl
      change value &&& 0x81 = 0x81 at internal
      rw [internal]
      rfl
    have low : value &&& 0x81 &&& 0x80 = value &&& 0x80 := by rw [UInt8.and_assoc]; rfl
    rw [low,cleared] at top
    cases top
  · rename_i set
    split
    · rename_i starts
      simp only [Bool.and_eq_true,Option.isNone_iff_eq_none] at starts
      have idle : serial.pendingLinkByte = none := starts.1.2
      have waits := coherent.not_awaiting idle
      subst waits
      refine ⟨?_,by simp,?_,by simp [queueAction],by simp [queueAction],by simp [queueAction],by simp⟩
      · intro absent
        have present := starts.1.1.1
        change serial.linkPeerPresent = true at present
        change serial.linkPeerPresent = false at absent
        rw [present] at absent
        cases absent
      · intro action queued
        cases queued
        exact ⟨rfl,rfl,newAction_period _⟩
    · rename_i ongoing
      refine ⟨coherent.unlinked,coherent.awaits,coherent.queued,coherent.bound,coherent.owned,?_,?_⟩
      · intro present idle internal
        have before := coherent.resting present idle
        apply ongoing
        simp only [Bool.and_eq_true,Bool.not_eq_true',Option.isNone_iff_eq_none]
        exact ⟨⟨⟨present,decide_eq_false before⟩,idle⟩,decide_eq_true internal⟩
      · intro peerByte remaining scheduled
        obtain ⟨idle,armed,positive,opening⟩ := coherent.passive peerByte remaining scheduled
        refine ⟨idle,?_,positive,opening⟩
        rcases byte_clocks value set with external | internal
        · exact external
        · exfalso
          have present : serial.linkPeerPresent = true := by
            by_contra absent
            have gone := (coherent.unlinked (by simpa using absent)).2.2.2.1
            rw [gone] at scheduled
            cases scheduled
          have before : serial.sc &&& 0x81 ≠ 0x81 := by
            rw [armed]
            decide
          apply ongoing
          simp only [Bool.and_eq_true,Bool.not_eq_true',Option.isNone_iff_eq_none]
          exact ⟨⟨⟨present,decide_eq_false before⟩,idle⟩,decide_eq_true internal⟩

theorem setLinkPeerPresent (coherent : Coherent serial awaiting clock gate) :
    Coherent (serial.setLinkPeerPresent true) awaiting clock gate := by
  unfold Serial.setLinkPeerPresent
  dsimp only
  rw [if_neg (by decide)]
  split
  · rename_i starts
    simp only [Bool.and_eq_true,Bool.not_eq_true',Option.isNone_iff_eq_none] at starts
    obtain ⟨idle,_,_,external,waits⟩ := coherent.unlinked starts.1.1
    subst waits
    refine ⟨by simp [queueAction],by simp,?_,by simp [queueAction],by simp [queueAction],by simp [queueAction],by simp [queueAction,external]⟩
    intro action queued
    cases queued
    exact ⟨rfl,rfl,newAction_period _⟩
  · rename_i ongoing
    refine ⟨by simp,coherent.awaits,coherent.queued,coherent.bound,coherent.owned,?_,coherent.passive⟩
    intro _ idle internal
    cases present : serial.linkPeerPresent with
    | true => exact coherent.resting present idle internal
    | false =>
      apply ongoing
      simp only [Bool.and_eq_true,Bool.not_eq_true',Option.isNone_iff_eq_none]
      exact ⟨⟨present,idle⟩,decide_eq_true internal⟩

theorem takeLinkAction (coherent : Coherent serial false clock gate) (action : GameBoyLinkAction)
    (queued : serial.queuedLinkAction = some action) : Coherent serial.takeLinkAction.2 true clock gate := by
  obtain ⟨pending,response,_⟩ := coherent.queued action queued
  refine ⟨?_,fun _ => ⟨pending,rfl,response⟩,by simp [Serial.takeLinkAction],?_,fun _ => .inl rfl,coherent.resting,coherent.passive⟩
  · intro absent
    have none := (coherent.unlinked absent).2.1
    rw [none] at queued
    cases queued
  · intro byte bound
    change serial.pendingLinkResponse = some byte at bound
    rw [response] at bound
    cases bound

theorem completeLinkTransfer_eq (serial : Serial) (response : UInt8)
    (running : serial.pendingLinkByte.isSome ∨ serial.sc &&& 0x81 = 0x80) :
    serial.completeLinkTransfer response = (true,{serial with
      sb := response
      sc := serial.sc &&& 0x7F
      pendingLinkByte := none
      pendingLinkResponse := none
      pendingLinkCompletionReady := false
      pendingExternalCompletion := none
      queuedLinkAction := none
      serialGeneration := serial.serialGeneration + 1}) := by
  unfold completeLinkTransfer
  dsimp only
  rw [if_neg]
  · rfl
  · simp only [externalClockTransferActive,Bool.and_eq_true,Bool.not_eq_true',Option.isNone_none,Bool.true_and,
      decide_eq_false_iff_not,Option.isNone_iff_eq_none]
    rintro ⟨idle,inactive⟩
    rcases running with pending | external
    · rw [idle] at pending
      cases pending
    · exact inactive external

theorem completeLinkTransfer (serial : Serial) (response : UInt8) (running : serial.pendingLinkByte.isSome ∨ serial.sc &&& 0x81 = 0x80) :
    Coherent (serial.completeLinkTransfer response).2 false clock gate := by
  rw [completeLinkTransfer_eq serial response running]
  exact of_idle rfl rfl rfl rfl (fun _ => stopped_internal serial.sc)

theorem applyLinkReply (coherent : Coherent serial true clock gate) (reply : GameBoyLinkReply) :
    ∃ next, serial.applyLinkReply reply = (true,next) ∧ Coherent next false clock gate ∧
      next.linkPeerPresent = serial.linkPeerPresent ∧
      (next.pendingLinkResponse = some reply.outByte ∧ next.pendingLinkByte.isSome ∨
        next.pendingLinkResponse = none ∧ next.pendingLinkByte = none ∧ next.sb = reply.outByte) := by
  obtain ⟨pending,queue,response⟩ := coherent.awaits rfl
  have taken : serial.pendingLinkByte.isNone = false := by simpa using pending
  by_cases ready : serial.pendingLinkCompletionReady = true
  · have completed := completeLinkTransfer_eq serial reply.outByte (.inl pending)
    refine ⟨_,?_,completeLinkTransfer serial reply.outByte (.inl pending),?_,.inr ?_⟩
    · rw [Serial.applyLinkReply,if_neg (by simp [taken]),if_pos ready,completed]
    · rw [completed]
    · rw [completed]
      exact ⟨rfl,rfl,rfl⟩
  · refine ⟨{serial with pendingLinkResponse := some reply.outByte},?_,?_,rfl,.inl ⟨rfl,pending⟩⟩
    · rw [Serial.applyLinkReply,if_neg (by simp [taken]),if_neg ready]
    · refine ⟨?_,by simp,by simp [queue],fun _ _ => ⟨pending,queue⟩,fun _ => .inr (.inr rfl),coherent.resting,coherent.passive⟩
      intro absent
      have none := (coherent.unlinked absent).1
      rw [none] at pending
      cases pending

theorem scheduleExternal (coherent : Coherent serial awaiting clock gate) (present : serial.linkPeerPresent = true)
    (passive : serial.externalClockTransferActive = true) (free : serial.pendingExternalCompletion = none) (peerByte : UInt8)
    {period : Nat} (positive : 0 < period) (opening : PassiveDrainGate) (opens : opening.completionTick = clock + period) :
    ∃ next, serial.scheduleExternalFromMaster peerByte period = (true,next) ∧ Coherent next awaiting clock (some opening) ∧
      next.linkPeerPresent = true ∧ next.pendingLinkResponse = serial.pendingLinkResponse ∧
      next.pendingLinkByte = serial.pendingLinkByte ∧ next.sb = serial.sb := by
  refine ⟨{serial with pendingExternalCompletion := some (peerByte,period)},?_,?_,present,rfl,rfl,rfl⟩
  · rw [Serial.scheduleExternalFromMaster,if_neg]
    simp [canScheduleExternalFromMaster,passive,free]
  · simp only [externalClockTransferActive,Bool.and_eq_true,Option.isNone_iff_eq_none,decide_eq_true_eq] at passive
    refine ⟨?_,coherent.awaits,coherent.queued,coherent.bound,coherent.owned,coherent.resting,?_⟩
    · intro absent
      change serial.linkPeerPresent = false at absent
      rw [present] at absent
      cases absent
    · intro byte remaining scheduled
      cases scheduled
      exact ⟨passive.1,passive.2,positive,opening,rfl,opens.symm⟩

theorem regate (coherent : Coherent serial awaiting clock gate) (free : serial.pendingExternalCompletion = none)
    (other : Option PassiveDrainGate) : Coherent serial awaiting clock other :=
  ⟨coherent.unlinked,coherent.awaits,coherent.queued,coherent.bound,coherent.owned,coherent.resting,by simp [free]⟩

/-- What the passing of time does to the pending byte of a master. -/
structure Passed (serial next : Serial) : Prop where
  present : next.linkPeerPresent = serial.linkPeerPresent
  response : next.pendingLinkResponse = serial.pendingLinkResponse ∨ next.pendingLinkResponse = none
  shifted : serial.pendingLinkByte.isSome → next.pendingLinkByte = none → serial.pendingLinkResponse = some next.sb

theorem step (coherent : Coherent serial awaiting clock gate) (cycles : Nat) (device : Device) :
    Coherent (serial.step cycles device).2 awaiting (clock + cycles) gate ∧ Passed serial (serial.step cycles device).2 := by
  unfold Serial.step
  dsimp only
  cases external : serial.pendingExternalCompletion with
  | some due =>
    obtain ⟨peerByte,remaining⟩ := due
    obtain ⟨idle,armed,positive,opening,held,opens⟩ := coherent.passive peerByte remaining external
    have waits := coherent.not_awaiting idle
    subst waits
    dsimp only
    split
    · rw [completeLinkTransfer_eq]
      · exact ⟨of_idle rfl rfl rfl rfl (fun _ => stopped_internal serial.sc),rfl,.inr rfl,by simp [idle]⟩
      · exact .inr armed
    · rename_i early
      have still : serial.internalActive = false := by
        simp only [internalActive,decide_eq_false_iff_not,armed]
        decide
      rw [still]
      simp only [Bool.false_and,Bool.false_eq_true,if_false]
      refine ⟨⟨?_,by simp,coherent.queued,coherent.bound,coherent.owned,coherent.resting,?_⟩,rfl,.inl rfl,by simp [idle]⟩
      · intro absent
        have none := (coherent.unlinked absent).2.2.2.1
        rw [none] at external
        cases external
      · intro byte left scheduled
        cases scheduled
        exact ⟨idle,armed,by omega,opening,held,by omega⟩
  | none =>
    dsimp only
    have same : ∀ next : Serial, next.linkPeerPresent = serial.linkPeerPresent → next.pendingLinkByte = serial.pendingLinkByte →
        next.queuedLinkAction = serial.queuedLinkAction → next.pendingLinkResponse = serial.pendingLinkResponse →
        next.pendingExternalCompletion = none → next.sc = serial.sc →
        Coherent next awaiting (clock + cycles) gate ∧ Passed serial next := by
      intro next present pending queue response free sc
      have kept := coherent.congr present pending queue response (free.trans external.symm) sc
      refine ⟨⟨kept.unlinked,kept.awaits,kept.queued,kept.bound,kept.owned,kept.resting,by simp [free]⟩,present,.inl response,?_⟩
      intro held none
      rw [pending] at none
      rw [none] at held
      cases held
    split
    · rename_i due
      simp only [Bool.and_eq_true,decide_eq_true_eq] at due
      cases response : serial.pendingLinkResponse with
      | some byte =>
        have pending := (coherent.bound byte response).1
        have waits : awaiting = false := by
          cases awaiting with
          | false => rfl
          | true =>
            have none := (coherent.awaits rfl).2.2
            rw [none] at response
            cases response
        subst waits
        dsimp only
        rw [completeLinkTransfer_eq]
        · exact ⟨of_idle rfl rfl rfl rfl (fun _ => stopped_internal serial.sc),rfl,.inr rfl,fun _ _ => response⟩
        · exact .inl pending
      | none =>
        dsimp only
        split
        · exact same _ rfl rfl rfl response.symm rfl rfl
        · rename_i unlinked
          simp only [Bool.and_eq_true,not_and,Bool.not_eq_true,Option.isSome_eq_false_iff,Option.isNone_iff_eq_none] at unlinked
          cases present : serial.linkPeerPresent with
          | true =>
            have internal : serial.sc &&& 0x81 = 0x81 := by simpa [internalActive] using due.1
            exact absurd internal (coherent.resting present (unlinked present))
          | false =>
            obtain ⟨idle,queue,_,_,waits⟩ := coherent.unlinked present
            subst waits
            exact ⟨of_idle idle queue rfl rfl (fun _ => stopped_internal serial.sc),present.symm,.inl response.symm,by simp [idle]⟩
    · exact same _ rfl rfl rfl rfl rfl rfl

theorem stepSerial (coherent : Coherent serial awaiting clock gate) (cycles : Nat) (device : Device) :
    Coherent (serial.stepSerial cycles device) awaiting (clock + cycles) gate ∧ Passed serial (serial.stepSerial cycles device) := by
  unfold Serial.stepSerial
  dsimp only
  cases device.clocked with
  | none => exact coherent.step cycles device
  | some response =>
    dsimp only
    split
    · rename_i armed
      simp only [activeDeviceCanClockExternalTransfer,Bool.and_eq_true,Bool.not_eq_true',externalClockTransferActive,
        Option.isNone_iff_eq_none,decide_eq_true_eq] at armed
      obtain ⟨⟨absent,_⟩,idle,external⟩ := armed
      obtain ⟨_,queue,bound,_,waits⟩ := coherent.unlinked absent
      subst waits
      have completes : (serial.completeExternalFromMaster response).2 = (serial.completeLinkTransfer response).2 := by
        rw [completeExternalFromMaster,if_neg]
        simp [externalClockTransferActive,idle,external]
      have finished : Coherent (serial.completeExternalFromMaster response).2 false clock gate := by
        rw [completes]
        exact completeLinkTransfer serial response (.inr external)
      obtain ⟨kept,passed⟩ := finished.step cycles device
      have present : (serial.completeExternalFromMaster response).2.linkPeerPresent = serial.linkPeerPresent := by
        rw [completes,completeLinkTransfer_eq serial response (.inr external)]
      refine ⟨kept,passed.present.trans present,?_,by simp [idle]⟩
      rcases passed.response with same | none
      · left
        rw [same,completes,completeLinkTransfer_eq serial response (.inr external),bound]
      · exact .inr none
    · exact coherent.step cycles device

end Coherent
end Serial
end ZeffBoy.Link.GameBoy
