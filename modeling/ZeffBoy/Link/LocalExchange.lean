import ZeffBoy.Link.SerialReplay

/-! The exchange between two Game Boys in one process.
An exchange looks at both sides first, refuses before it changes anything, and then takes the queued action of each
master and schedules its byte on a side that waits passively. The reply is committed afterwards. A debug assertion that
fails ends the computation. -/
namespace ZeffBoy.Link.GameBoy
open Library

namespace Serial

def linkActionAfterPeerPresent (serial : Serial) : Option GameBoyLinkAction :=
  match serial.queuedLinkAction with
  | some action => some action
  | none =>
    if !serial.linkPeerPresent && serial.pendingLinkByte.isNone && serial.internalActive then some serial.newAction else none

def linkActionIsCurrent (serial : Serial) (action : GameBoyLinkAction) : Bool :=
  match serial.queuedLinkAction with
  | some queued => serial.pendingLinkByte = some action.outByte ∧ queued = action
  | none => serial.linkActionAfterPeerPresent = some action

def pendingLinkActionIsCurrent (serial : Serial) (action : GameBoyLinkAction) : Bool :=
  serial.pendingLinkByte = some action.outByte ∧ serial.serialGeneration = action.serialGeneration ∧
    UInt64.ofNat serial.transferPeriod = action.clockPeriodTCycles

end Serial

inductive GameBoyLinkReplyDisposition
  | acceptedPending
  | completed
deriving DecidableEq

structure GameBoyLinkTransferExchange where
  reply : GameBoyLinkReplyDisposition
  passiveResponderScheduled : Bool
deriving DecidableEq

structure GameBoyLinkExchangePreview where
  localAction : Option GameBoyLinkAction
  peerAction : Option GameBoyLinkAction
  localReply : GameBoyLinkReply
  peerReply : GameBoyLinkReply

structure GameBoyLinkPreparedTransfer where
  action : GameBoyLinkAction
  reply : GameBoyLinkReply
  passiveResponderScheduled : Bool
deriving DecidableEq

structure GameBoyLinkPreparedExchange where
  localAction : Option GameBoyLinkPreparedTransfer
  peerAction : Option GameBoyLinkPreparedTransfer
deriving DecidableEq

inductive GameBoyLinkExchangeOutcome
  | idle
  | exchanged (localAction peerAction : Option GameBoyLinkTransferExchange)

inductive GameBoyLinkExchangeSide
  | localSide
  | peerSide
deriving DecidableEq

inductive GameBoyLinkExchangeError
  | rejectedReply (side : GameBoyLinkExchangeSide) (actionGeneration serialGeneration : UInt64)
  | rejectedPassiveScheduling (responder : GameBoyLinkExchangeSide)
deriving DecidableEq

/-- What of the bus the link touches: the serial unit and the interrupt flags. -/
structure LinkBus where
  serial : Serial
  ifReg : UInt8
deriving DecidableEq

def debugAssert (holds : Bool) : Option Unit := if holds then some () else none

namespace LinkBus

def setGameBoyLinkPeerPresent (self : LinkBus) (present : Bool) : LinkBus :=
  {self with serial := self.serial.setLinkPeerPresent present}

def takeGameBoyLinkAction (self : LinkBus) : Option GameBoyLinkAction × LinkBus :=
  (self.serial.takeLinkAction.1,{self with serial := self.serial.takeLinkAction.2})

def previewGameBoyLinkPeer (self peer : LinkBus) : GameBoyLinkExchangePreview where
  localAction := self.serial.linkActionAfterPeerPresent
  peerAction := peer.serial.linkActionAfterPeerPresent
  localReply := self.serial.replyToMasterStart
  peerReply := peer.serial.replyToMasterStart

def validateLinkAction (bus : LinkBus) (action : Option GameBoyLinkAction) (side : GameBoyLinkExchangeSide) :
    Except GameBoyLinkExchangeError Unit :=
  match action with
  | some action =>
    if !bus.serial.linkActionIsCurrent action then
      .error (.rejectedReply side action.serialGeneration bus.serial.serialGeneration)
    else .ok ()
  | none => .ok ()

def validatePassiveSchedule (responder : LinkBus) (action : Option GameBoyLinkAction) (reply : GameBoyLinkReply)
    (responderSide : GameBoyLinkExchangeSide) : Except GameBoyLinkExchangeError Unit :=
  if action.isSome && reply.passive && !responder.serial.canScheduleExternalFromMaster then
    .error (.rejectedPassiveScheduling responderSide)
  else .ok ()

def prepareLinkTransfer (responder : LinkBus) (action : GameBoyLinkAction) (reply : GameBoyLinkReply) :
    Option (GameBoyLinkPreparedTransfer × LinkBus) :=
  if reply.passive then do
    let (scheduled,serial) := responder.serial.scheduleExternalFromMaster action.outByte action.clockPeriodTCycles.toNat
    debugAssert scheduled
    return (⟨action,reply,reply.passive⟩,{responder with serial})
  else some (⟨action,reply,reply.passive⟩,responder)

-- The action of one side, prepared with the reply of the other.
def prepareAction (responder : LinkBus) (action : Option GameBoyLinkAction) (reply : GameBoyLinkReply) :
    Option (Option GameBoyLinkPreparedTransfer × LinkBus) :=
  match action with
  | some action => (responder.prepareLinkTransfer action reply).map fun prepared => (some prepared.1,prepared.2)
  | none => some (none,responder)

def validateExchange (self peer : LinkBus) (preview : GameBoyLinkExchangePreview) : Except GameBoyLinkExchangeError Unit := do
  self.validateLinkAction preview.localAction .localSide
  peer.validateLinkAction preview.peerAction .peerSide
  peer.validatePassiveSchedule preview.localAction preview.peerReply .peerSide
  self.validatePassiveSchedule preview.peerAction preview.localReply .localSide

def tryPrepareGameBoyLinkPeer (self peer : LinkBus) :
    Option (Except GameBoyLinkExchangeError GameBoyLinkPreparedExchange × LinkBus × LinkBus) :=
  let preview := self.previewGameBoyLinkPeer peer
  if preview.localAction.isNone && preview.peerAction.isNone then
    some (.ok ⟨none,none⟩,self.setGameBoyLinkPeerPresent true,peer.setGameBoyLinkPeerPresent true)
  else
    match self.validateExchange peer preview with
    | .error error => some (.error error,self,peer)
    | .ok () => do
      let self := self.setGameBoyLinkPeerPresent true
      let peer := peer.setGameBoyLinkPeerPresent true
      debugAssert (self.serial.queuedLinkAction = preview.localAction)
      debugAssert (peer.serial.queuedLinkAction = preview.peerAction)
      let (committedLocalAction,self) := self.takeGameBoyLinkAction
      let (committedPeerAction,peer) := peer.takeGameBoyLinkAction
      debugAssert (committedLocalAction = preview.localAction)
      debugAssert (committedPeerAction = preview.peerAction)
      let (localAction,peer) ← peer.prepareAction preview.localAction preview.peerReply
      let (peerAction,self) ← self.prepareAction preview.peerAction preview.localReply
      return (.ok ⟨localAction,peerAction⟩,self,peer)

def validatePreparedReply (master : LinkBus) (transfer : Option GameBoyLinkPreparedTransfer) (side : GameBoyLinkExchangeSide) :
    Except GameBoyLinkExchangeError Unit :=
  match transfer with
  | some transfer =>
    if !master.serial.pendingLinkActionIsCurrent transfer.action then
      .error (.rejectedReply side transfer.action.serialGeneration master.serial.serialGeneration)
    else .ok ()
  | none => .ok ()

def commitPreparedReply (master : LinkBus) (transfer : GameBoyLinkPreparedTransfer) :
    Option (GameBoyLinkTransferExchange × LinkBus) := do
  let (accepted,serial) := master.serial.applyLinkReply transfer.reply
  debugAssert accepted
  if serial.pendingLinkByte.isNone then
    return (⟨.completed,transfer.passiveResponderScheduled⟩,⟨serial,master.ifReg ||| 0x08⟩)
  else
    return (⟨.acceptedPending,transfer.passiveResponderScheduled⟩,{master with serial})

def commitAction (master : LinkBus) (transfer : Option GameBoyLinkPreparedTransfer) :
    Option (Option GameBoyLinkTransferExchange × LinkBus) :=
  match transfer with
  | some transfer => (master.commitPreparedReply transfer).map fun exchange => (some exchange.1,exchange.2)
  | none => some (none,master)

def tryApplyPreparedGameBoyLinkReply (self : LinkBus) (transfer : GameBoyLinkPreparedTransfer) :
    Option (Except GameBoyLinkExchangeError GameBoyLinkTransferExchange × LinkBus) :=
  match self.validatePreparedReply (some transfer) .localSide with
  | .error error => some (.error error,self)
  | .ok () => (self.commitPreparedReply transfer).map fun exchange => (.ok exchange.1,exchange.2)

def trySyncGameBoyLinkPeer (self peer : LinkBus) :
    Option (Except GameBoyLinkExchangeError GameBoyLinkExchangeOutcome × LinkBus × LinkBus) := do
  let (prepared,self,peer) ← self.tryPrepareGameBoyLinkPeer peer
  match prepared with
  | .error error => return (.error error,self,peer)
  | .ok prepared =>
    if prepared.localAction.isNone && prepared.peerAction.isNone then return (.ok .idle,self,peer)
    else
      debugAssert (self.validatePreparedReply prepared.localAction .localSide).isOk
      debugAssert (peer.validatePreparedReply prepared.peerAction .peerSide).isOk
      let (localExchange,self) ← self.commitAction prepared.localAction
      let (peerExchange,peer) ← peer.commitAction prepared.peerAction
      return (.ok (.exchanged localExchange peerExchange),self,peer)

end LinkBus

namespace Serial

def Mismatched (serial : Serial) : Prop :=
  ∃ action, serial.queuedLinkAction = some action ∧ serial.pendingLinkByte ≠ some action.outByte

def Fresh (serial : Serial) : Prop :=
  ∀ action, serial.queuedLinkAction = some action →
    serial.serialGeneration = action.serialGeneration ∧ UInt64.ofNat serial.transferPeriod = action.clockPeriodTCycles

/-- A master whose byte a passive side could not take, with one in it already. -/
def Blocked (master responder : Serial) : Prop :=
  master.linkActionAfterPeerPresent.isSome ∧ responder.externalClockTransferActive = true ∧
    responder.pendingExternalCompletion.isSome

def committed (serial : Serial) : Serial := (serial.setLinkPeerPresent true).takeLinkAction.2

def schedule (serial : Serial) (action : Option GameBoyLinkAction) (passive : Bool) : Serial :=
  match action with
  | some action =>
    if passive then {serial with pendingExternalCompletion := some (action.outByte,action.clockPeriodTCycles.toNat)} else serial
  | none => serial

section
variable (serial : Serial) (action : Option GameBoyLinkAction) (passive : Bool)

@[simp] theorem schedule_queued : (serial.schedule action passive).queuedLinkAction = serial.queuedLinkAction := by
  unfold schedule
  repeat' split
  all_goals rfl

@[simp] theorem schedule_present : (serial.schedule action passive).linkPeerPresent = serial.linkPeerPresent := by
  unfold schedule
  repeat' split
  all_goals rfl

@[simp] theorem schedule_pending : (serial.schedule action passive).pendingLinkByte = serial.pendingLinkByte := by
  unfold schedule
  repeat' split
  all_goals rfl

@[simp] theorem schedule_clock : (serial.schedule action passive).serialGeneration = serial.serialGeneration ∧
    (serial.schedule action passive).transferPeriod = serial.transferPeriod := by
  unfold schedule
  repeat' split
  all_goals exact ⟨rfl,rfl⟩

end

variable {serial : Serial}

theorem not_mismatched (matched : ¬serial.Mismatched) {action : GameBoyLinkAction} (queued : serial.queuedLinkAction = some action) :
    serial.pendingLinkByte = some action.outByte :=
  not_not.mp fun other => matched ⟨action,queued,other⟩

theorem action_cases (matched : ¬serial.Mismatched) :
    (∃ action, serial.queuedLinkAction = some action ∧ serial.pendingLinkByte = some action.outByte ∧
      serial.linkActionAfterPeerPresent = some action ∧ serial.setLinkPeerPresent true = {serial with linkPeerPresent := true}) ∨
    (serial.queuedLinkAction = none ∧ serial.pendingLinkByte = none ∧ serial.internalActive = true ∧
      serial.linkActionAfterPeerPresent = some serial.newAction ∧
      serial.setLinkPeerPresent true = {serial with linkPeerPresent := true}.queueAction) ∨
    (serial.queuedLinkAction = none ∧ serial.linkActionAfterPeerPresent = none ∧
      serial.setLinkPeerPresent true = {serial with linkPeerPresent := true}) := by
  unfold linkActionAfterPeerPresent setLinkPeerPresent
  cases queued : serial.queuedLinkAction with
  | some action =>
    have pending := not_mismatched matched queued
    refine .inl ⟨action,rfl,pending,rfl,?_⟩
    simp [pending]
  | none =>
    by_cases starts : (!serial.linkPeerPresent && serial.pendingLinkByte.isNone && serial.internalActive) = true
    · simp only [Bool.and_eq_true,Option.isNone_iff_eq_none] at starts
      obtain ⟨⟨absent,pending⟩,active⟩ := starts
      refine .inr (.inl ⟨rfl,pending,active,?_,?_⟩)
      · simp [absent,pending,active]
      · simp [absent,pending,active]
    · refine .inr (.inr ⟨rfl,?_,?_⟩)
      · rw [if_neg starts]
      · simp only [Bool.not_true,Bool.false_eq_true,if_false]
        rw [if_neg starts]

theorem Mismatched.acting (mismatched : serial.Mismatched) : serial.linkActionAfterPeerPresent ≠ none := by
  obtain ⟨action,queued,_⟩ := mismatched
  rw [linkActionAfterPeerPresent,queued]
  exact nofun

theorem presented_queued (matched : ¬serial.Mismatched) :
    (serial.setLinkPeerPresent true).queuedLinkAction = serial.linkActionAfterPeerPresent := by
  rcases action_cases matched with ⟨action,queued,_,same,presented⟩ | ⟨_,_,_,same,presented⟩ | ⟨queued,same,presented⟩
  · rw [presented,same,← queued]
  · rw [presented,same]
    rfl
  · rw [presented,same,← queued]

theorem committed_idle (idle : (serial.setLinkPeerPresent true).queuedLinkAction = none) :
    serial.committed = serial.setLinkPeerPresent true := by
  rw [committed,takeLinkAction,← idle]

theorem committed_queued (serial : Serial) : serial.committed.queuedLinkAction = none := rfl

theorem committed_present (serial : Serial) : serial.committed.linkPeerPresent = true := by
  unfold committed takeLinkAction setLinkPeerPresent
  dsimp only
  split
  · contradiction
  split
  · rfl
  · rfl

theorem committed_external (serial : Serial) : serial.committed.pendingExternalCompletion = serial.pendingExternalCompletion := by
  unfold committed takeLinkAction setLinkPeerPresent
  dsimp only
  split
  · contradiction
  split
  · rfl
  · rfl

theorem committed_clock (serial : Serial) : serial.committed.serialGeneration = serial.serialGeneration ∧
    serial.committed.transferPeriod = serial.transferPeriod ∧ serial.committed.sc = serial.sc := by
  unfold committed takeLinkAction setLinkPeerPresent
  dsimp only
  split
  · contradiction
  split
  · exact ⟨rfl,rfl,rfl⟩
  · exact ⟨rfl,rfl,rfl⟩

theorem committed_pending (matched : ¬serial.Mismatched) : serial.committed.pendingLinkByte =
    match serial.linkActionAfterPeerPresent with
    | some action => some action.outByte
    | none => serial.pendingLinkByte := by
  unfold committed takeLinkAction
  rcases action_cases matched with ⟨action,_,pending,same,presented⟩ | ⟨_,_,_,same,presented⟩ | ⟨_,same,presented⟩
  · rw [presented,same]
    exact pending
  · rw [presented,same]
    rfl
  · rw [presented,same]

theorem passive_actionless (matched : ¬serial.Mismatched) (passive : serial.externalClockTransferActive = true) :
    serial.linkActionAfterPeerPresent = none := by
  simp only [externalClockTransferActive,Bool.and_eq_true,Option.isNone_iff_eq_none,decide_eq_true_eq] at passive
  obtain ⟨free,external⟩ := passive
  rcases action_cases matched with ⟨action,_,pending,_,_⟩ | ⟨_,_,internal,_,_⟩ | ⟨_,same,_⟩
  · rw [free] at pending
    cases pending
  · rw [internalActive,external] at internal
    exact absurd internal (by decide)
  · exact same

theorem committed_passive (matched : ¬serial.Mismatched) (passive : serial.externalClockTransferActive = true) :
    serial.committed.externalClockTransferActive = true := by
  have pending := committed_pending matched
  rw [passive_actionless matched passive] at pending
  dsimp only at pending
  rw [externalClockTransferActive,pending,(committed_clock serial).2.2]
  exact passive

end Serial

namespace LinkBus
variable {self peer : LinkBus}

def Refused (self peer : LinkBus) : Prop :=
  self.serial.Mismatched ∨ peer.serial.Mismatched ∨ self.serial.Blocked peer.serial ∨ peer.serial.Blocked self.serial

theorem validateLinkAction_ok (bus : LinkBus) (side : GameBoyLinkExchangeSide) :
    bus.validateLinkAction bus.serial.linkActionAfterPeerPresent side = .ok () ↔ ¬bus.serial.Mismatched := by
  unfold validateLinkAction Serial.Mismatched Serial.linkActionIsCurrent Serial.linkActionAfterPeerPresent
  cases queued : bus.serial.queuedLinkAction with
  | some action => simp
  | none =>
    dsimp only
    split
    · rename_i found
      simpa using found
    · simp

theorem validatePassiveSchedule_ok (responder : LinkBus) (master : Serial) (side : GameBoyLinkExchangeSide) :
    responder.validatePassiveSchedule master.linkActionAfterPeerPresent responder.serial.replyToMasterStart side = .ok () ↔
      ¬master.Blocked responder.serial := by
  unfold validatePassiveSchedule Serial.Blocked Serial.canScheduleExternalFromMaster Serial.replyToMasterStart
  dsimp only
  split
  · rename_i refused
    simp only [Bool.and_eq_true,Bool.not_eq_true',Bool.and_eq_false_imp,Option.isNone_eq_false_iff] at refused
    exact iff_of_false nofun (not_not.mpr ⟨refused.1.1,refused.1.2,refused.2 refused.1.2⟩)
  · rename_i allowed
    refine iff_of_true rfl fun blocked => allowed ?_
    simp [blocked.1,blocked.2.1,Option.isNone_eq_false_iff.mpr blocked.2.2]

theorem then_ok {ε : Type} (first second : Except ε Unit) :
    (first >>= fun _ => second) = .ok () ↔ first = .ok () ∧ second = .ok () := by
  cases first with
  | error error => simp [bind,Except.bind]
  | ok value => simp [bind,Except.bind]

theorem validateExchange_ok (self peer : LinkBus) :
    self.validateExchange peer (self.previewGameBoyLinkPeer peer) = .ok () ↔ ¬self.Refused peer := by
  unfold validateExchange previewGameBoyLinkPeer Refused
  simp only [then_ok,validateLinkAction_ok,validatePassiveSchedule_ok,not_or]

theorem prepareAction_eq (responder : LinkBus) (action : Option GameBoyLinkAction) (reply : GameBoyLinkReply)
    (free : action.isSome → reply.passive = true → responder.serial.canScheduleExternalFromMaster = true) :
    responder.prepareAction action reply = some (action.map fun action => ⟨action,reply,reply.passive⟩,
      {responder with serial := responder.serial.schedule action reply.passive}) := by
  cases action with
  | none => rfl
  | some action =>
    unfold prepareAction prepareLinkTransfer Serial.schedule
    dsimp only
    split
    · rename_i passive
      rw [Serial.scheduleExternalFromMaster,free rfl passive]
      rfl
    · rfl

def transferOf (master responder : Serial) : Option GameBoyLinkPreparedTransfer :=
  master.linkActionAfterPeerPresent.map fun action =>
    ⟨action,responder.replyToMasterStart,responder.replyToMasterStart.passive⟩

def after (self peer : LinkBus) : LinkBus :=
  {self with serial := self.serial.committed.schedule peer.serial.linkActionAfterPeerPresent self.serial.externalClockTransferActive}

theorem committed_free {master responder : Serial} (matched : ¬responder.Mismatched) (clear : ¬master.Blocked responder) :
    master.linkActionAfterPeerPresent.isSome → responder.replyToMasterStart.passive = true →
      responder.committed.canScheduleExternalFromMaster = true := by
  intro acting passive
  have none : responder.pendingExternalCompletion = none := by
    cases external : responder.pendingExternalCompletion with
    | none => rfl
    | some completion => exact absurd ⟨acting,passive,by rw [external]; rfl⟩ clear
  rw [Serial.canScheduleExternalFromMaster,Serial.committed_passive matched passive,Serial.committed_external,none]
  rfl

theorem tryPrepare_eq (allowed : ¬self.Refused peer) : self.tryPrepareGameBoyLinkPeer peer =
    some (.ok ⟨transferOf self.serial peer.serial,transferOf peer.serial self.serial⟩,self.after peer,peer.after self) := by
  have valid := (validateExchange_ok self peer).mpr allowed
  simp only [Refused,not_or] at allowed
  obtain ⟨selfMatched,peerMatched,selfClear,peerClear⟩ := allowed
  have localQueue := Serial.presented_queued selfMatched
  have peerQueue := Serial.presented_queued peerMatched
  unfold tryPrepareGameBoyLinkPeer
  dsimp only
  split
  · rename_i idle
    simp only [previewGameBoyLinkPeer,Bool.and_eq_true,Option.isNone_iff_eq_none] at idle
    obtain ⟨localNone,peerNone⟩ := idle
    rw [localNone] at localQueue
    rw [peerNone] at peerQueue
    rw [setGameBoyLinkPeerPresent,setGameBoyLinkPeerPresent,after,after,transferOf,transferOf,localNone,peerNone,Serial.schedule,
      Serial.schedule,← Serial.committed_idle localQueue,← Serial.committed_idle peerQueue]
    rfl
  · rw [valid]
    have toPeer := prepareAction_eq {peer with serial := peer.serial.committed} self.serial.linkActionAfterPeerPresent
      peer.serial.replyToMasterStart (committed_free peerMatched selfClear)
    have toSelf := prepareAction_eq {self with serial := self.serial.committed} peer.serial.linkActionAfterPeerPresent
      self.serial.replyToMasterStart (committed_free selfMatched peerClear)
    simp only [previewGameBoyLinkPeer,setGameBoyLinkPeerPresent,takeGameBoyLinkAction,Serial.takeLinkAction,localQueue,peerQueue,
      debugAssert,decide_true,if_true,Option.bind_eq_bind,Option.bind_some]
    change ((LinkBus.prepareAction {peer with serial := peer.serial.committed} _ _).bind _) = _
    rw [toPeer]
    change ((LinkBus.prepareAction {self with serial := self.serial.committed} _ _).bind _) = _
    rw [toSelf]
    rfl

theorem tryPrepare_refused (refused : self.Refused peer) :
    ∃ error, self.tryPrepareGameBoyLinkPeer peer = some (.error error,self,peer) := by
  have invalid := mt (validateExchange_ok self peer).mp (not_not.mpr refused)
  unfold tryPrepareGameBoyLinkPeer
  dsimp only
  split
  · rename_i idle
    simp only [previewGameBoyLinkPeer,Bool.and_eq_true,Option.isNone_iff_eq_none] at idle
    rcases refused with mismatched | mismatched | blocked | blocked
    · exact absurd idle.1 mismatched.acting
    · exact absurd idle.2 mismatched.acting
    · exact absurd idle.1 (Option.isSome_iff_ne_none.mp blocked.1)
    · exact absurd idle.2 (Option.isSome_iff_ne_none.mp blocked.1)
  · cases valid : self.validateExchange peer (self.previewGameBoyLinkPeer peer) with
    | error error => exact ⟨error,rfl⟩
    | ok value => exact absurd valid invalid

/-- A committed reply: the answer waits for the period to end, or completes a transfer that has reached its end. -/
def Committed (transfer : Option GameBoyLinkPreparedTransfer) (before after : LinkBus) (answer : UInt8) : Prop :=
  match transfer with
  | none => after = before
  | some transfer => ∃ exchange, before.tryApplyPreparedGameBoyLinkReply transfer = some (.ok exchange,after) ∧
      if before.serial.pendingLinkCompletionReady then
        after.serial.pendingLinkByte = none ∧ after.serial.sb = answer ∧ after.ifReg = before.ifReg ||| 0x08 ∧
          exchange.reply = .completed
      else after.serial.pendingLinkResponse = some answer ∧ after.ifReg = before.ifReg ∧ exchange.reply = .acceptedPending

/-- One direction of a prepared exchange: the master's action is taken, and its byte waits on a passive side. -/
structure Prepared (master master' responder responder' : LinkBus) (transfer : Option GameBoyLinkPreparedTransfer) : Prop where
  scheduled : responder'.serial.pendingExternalCompletion =
    match transfer with
    | some transfer =>
      if responder.serial.externalClockTransferActive then
        some (transfer.action.outByte,transfer.action.clockPeriodTCycles.toNat)
      else responder.serial.pendingExternalCompletion
    | none => responder.serial.pendingExternalCompletion
  consumed : transfer.map GameBoyLinkPreparedTransfer.action = master.serial.linkActionAfterPeerPresent ∧
    master'.serial.queuedLinkAction = none ∧ master'.serial.linkActionAfterPeerPresent = none
  answered : ∀ prepared, transfer = some prepared → prepared.reply.outByte = responder.serial.sb

/-- Nothing happens on an error. Otherwise both actions are taken once, scheduled on a passive side and answered with the
byte of the other side, and the replies are accepted at once. -/
def Exchanges (self peer : LinkBus) : Prop :=
  ∃ result self' peer', self.tryPrepareGameBoyLinkPeer peer = some (result,self',peer') ∧
    match result with
    | .error error => self' = self ∧ peer' = peer ∧ self.trySyncGameBoyLinkPeer peer = some (.error error,self,peer)
    | .ok prepared =>
      Prepared self self' peer peer' prepared.localAction ∧ Prepared peer peer' self self' prepared.peerAction ∧
        ∃ outcome self'' peer'', self.trySyncGameBoyLinkPeer peer = some (.ok outcome,self'',peer'') ∧
          Committed prepared.localAction self' self'' peer.serial.sb ∧ Committed prepared.peerAction peer' peer'' self.serial.sb

theorem transferOf_action (master responder : Serial) :
    (transferOf master responder).map GameBoyLinkPreparedTransfer.action = master.linkActionAfterPeerPresent := by
  rw [transferOf,Option.map_map]
  exact Option.map_id'

theorem after_prepared (self peer : LinkBus) :
    Prepared self (self.after peer) peer (peer.after self) (transferOf self.serial peer.serial) where
  scheduled := by
    unfold after transferOf
    cases self.serial.linkActionAfterPeerPresent with
    | none => exact peer.serial.committed_external
    | some action =>
      dsimp only [Serial.schedule,Option.map]
      split
      · rfl
      · exact peer.serial.committed_external
  consumed := by
    have queued : (self.after peer).serial.queuedLinkAction = none := by rw [after,Serial.schedule_queued,Serial.committed_queued]
    have present : (self.after peer).serial.linkPeerPresent = true := by rw [after,Serial.schedule_present,Serial.committed_present]
    refine ⟨transferOf_action _ _,queued,?_⟩
    rw [Serial.linkActionAfterPeerPresent,queued,present]
    rfl
  answered := by
    intro prepared same
    obtain ⟨action,_,rfl⟩ := Option.map_eq_some_iff.mp same
    rfl

theorem commitPreparedReply_eq {master : LinkBus} {byte : UInt8} (pending : master.serial.pendingLinkByte = some byte)
    (transfer : GameBoyLinkPreparedTransfer) : ∃ exchange after, master.commitPreparedReply transfer = some (exchange,after) ∧
      if master.serial.pendingLinkCompletionReady then
        after.serial.pendingLinkByte = none ∧ after.serial.sb = transfer.reply.outByte ∧ after.ifReg = master.ifReg ||| 0x08 ∧
          exchange.reply = .completed
      else after.serial.pendingLinkResponse = some transfer.reply.outByte ∧ after.ifReg = master.ifReg ∧
        exchange.reply = .acceptedPending := by
  unfold commitPreparedReply Serial.applyLinkReply Serial.completeLinkTransfer
  rw [pending]
  cases master.serial.pendingLinkCompletionReady with
  | true => exact ⟨_,_,rfl,rfl,rfl,rfl,rfl⟩
  | false =>
    exact ⟨_,_,rfl,rfl,rfl,rfl⟩

theorem after_pending (peer : LinkBus) (matched : ¬self.serial.Mismatched) {action : GameBoyLinkAction}
    (acting : self.serial.linkActionAfterPeerPresent = some action) :
    (self.after peer).serial.pendingLinkByte = some action.outByte := by
  have pending := Serial.committed_pending matched
  rw [acting] at pending
  rw [after,Serial.schedule_pending]
  exact pending

theorem after_current (peer : LinkBus) (matched : ¬self.serial.Mismatched) {action : GameBoyLinkAction}
    (acting : self.serial.linkActionAfterPeerPresent = some action) :
    (self.after peer).serial.pendingLinkActionIsCurrent action = true ↔ self.serial.Fresh := by
  obtain ⟨generation,period,_⟩ := self.serial.committed_clock
  obtain ⟨scheduledGeneration,scheduledPeriod⟩ := self.serial.committed.schedule_clock peer.serial.linkActionAfterPeerPresent
    self.serial.externalClockTransferActive
  have pending := after_pending peer matched acting
  have current : (self.after peer).serial.pendingLinkActionIsCurrent action = true ↔
      self.serial.serialGeneration = action.serialGeneration ∧
        UInt64.ofNat self.serial.transferPeriod = action.clockPeriodTCycles := by
    rw [Serial.pendingLinkActionIsCurrent,decide_eq_true_iff,pending,← generation,← period,← scheduledGeneration,← scheduledPeriod]
    exact ⟨fun held => held.2,fun held => ⟨rfl,held⟩⟩
  rw [current]
  rcases Serial.action_cases matched with ⟨queued,held,_,same,_⟩ | ⟨none,_,_,same,_⟩ | ⟨_,same,_⟩
  · rw [acting,Option.some.injEq] at same
    subst same
    constructor
    · intro now other queuedOther
      rw [held,Option.some.injEq] at queuedOther
      subst queuedOther
      exact now
    · exact fun fresh => fresh action held
  · rw [acting,Option.some.injEq] at same
    subst same
    refine iff_of_true ⟨rfl,rfl⟩ fun other queued => ?_
    rw [none] at queued
    cases queued
  · rw [acting] at same
    cases same

theorem commit_fresh (peer : LinkBus) (matched : ¬self.serial.Mismatched) (fresh : self.serial.Fresh) :
    (∀ side, ((self.after peer).validatePreparedReply (transferOf self.serial peer.serial) side).isOk = true) ∧
    ∃ exchange after, (self.after peer).commitAction (transferOf self.serial peer.serial) = some (exchange,after) ∧
      Committed (transferOf self.serial peer.serial) (self.after peer) after peer.serial.sb := by
  unfold transferOf
  cases acting : self.serial.linkActionAfterPeerPresent with
  | none => exact ⟨fun _ => rfl,none,self.after peer,rfl,rfl⟩
  | some action =>
    have current := (after_current peer matched acting).mpr fresh
    have valid (side : GameBoyLinkExchangeSide) (transfer : GameBoyLinkPreparedTransfer) (same : transfer.action = action) :
        (self.after peer).validatePreparedReply (some transfer) side = .ok () := by
      rw [validatePreparedReply,same,current]
      rfl
    obtain ⟨exchange,after,committed,effect⟩ := commitPreparedReply_eq (after_pending peer matched acting)
      ⟨action,peer.serial.replyToMasterStart,peer.serial.replyToMasterStart.passive⟩
    refine ⟨fun side => ?_,some exchange,after,?_,exchange,?_,effect⟩
    · rw [Option.map_some,valid side _ rfl]
      rfl
    · rw [Option.map_some,commitAction,committed]
      rfl
    · rw [tryApplyPreparedGameBoyLinkReply,valid .localSide _ rfl]
      dsimp only
      rw [committed]
      rfl

theorem stale_rejected (matched : ¬self.serial.Mismatched) (stale : ¬self.serial.Fresh) (answer : UInt8) (after : LinkBus) :
    ¬Committed (transferOf self.serial peer.serial) (self.after peer) after answer := by
  unfold transferOf
  cases acting : self.serial.linkActionAfterPeerPresent with
  | none =>
    refine absurd (fun action queued => ?_) stale
    rw [Serial.linkActionAfterPeerPresent,queued] at acting
    cases acting
  | some action =>
    rintro ⟨exchange,applied,_⟩
    have old := mt (after_current peer matched acting).mp stale
    rw [tryApplyPreparedGameBoyLinkReply,validatePreparedReply,if_pos (by rw [Bool.eq_false_iff.mpr old]; rfl)] at applied
    exact nomatch Prod.mk.inj (Option.some.inj applied)

/-- An exchange is atomic and its replies are accepted just when no queued action has gone stale, or it is refused. -/
theorem exchanges_iff (self peer : LinkBus) :
    self.Exchanges peer ↔ (self.serial.Fresh ∧ peer.serial.Fresh) ∨ self.Refused peer := by
  by_cases refused : self.Refused peer
  · obtain ⟨error,result⟩ := tryPrepare_refused refused
    refine iff_of_true ⟨.error error,self,peer,result,rfl,rfl,?_⟩ (.inr refused)
    rw [trySyncGameBoyLinkPeer,result]
    rfl
  · have prepared := tryPrepare_eq refused
    have matched := refused
    simp only [Refused,not_or] at matched
    obtain ⟨selfMatched,peerMatched,_,_⟩ := matched
    rw [or_iff_left refused]
    constructor
    · rintro ⟨result,self',peer',same,exchange⟩
      rw [prepared,Option.some.injEq] at same
      obtain ⟨rfl,rfl,rfl⟩ := same
      obtain ⟨_,_,_,self'',peer'',_,selfCommitted,peerCommitted⟩ := exchange
      exact ⟨not_not.mp fun stale => stale_rejected selfMatched stale _ _ selfCommitted,
        not_not.mp fun stale => stale_rejected peerMatched stale _ _ peerCommitted⟩
    · rintro ⟨selfFresh,peerFresh⟩
      obtain ⟨selfValid,selfExchange,self'',selfCommits,selfCommitted⟩ := commit_fresh peer selfMatched selfFresh
      obtain ⟨peerValid,peerExchange,peer'',peerCommits,peerCommitted⟩ := commit_fresh self peerMatched peerFresh
      have exchanged : ∃ outcome, self.trySyncGameBoyLinkPeer peer = some (.ok outcome,self'',peer'') := by
        rw [trySyncGameBoyLinkPeer,prepared,Option.bind_eq_bind,Option.bind_some]
        dsimp only
        split
        · rename_i idle
          simp only [Bool.and_eq_true,Option.isNone_iff_eq_none] at idle
          rw [idle.1] at selfCommits
          rw [idle.2] at peerCommits
          obtain ⟨_,rfl⟩ := Prod.mk.inj (Option.some.inj selfCommits)
          obtain ⟨_,rfl⟩ := Prod.mk.inj (Option.some.inj peerCommits)
          exact ⟨_,rfl⟩
        · rw [debugAssert,selfValid,debugAssert,peerValid,selfCommits,peerCommits]
          exact ⟨_,rfl⟩
      obtain ⟨outcome,exchanged⟩ := exchanged
      exact ⟨_,_,_,prepared,after_prepared self peer,after_prepared peer self,outcome,self'',peer'',exchanged,selfCommitted,
        peerCommitted⟩

def rewritten : LinkBus := ⟨((Serial.new.setLinkPeerPresent true).writeSc 0x81).writeSb 0x42,0⟩

theorem rewritten_asserts : ¬∀ self peer : LinkBus, self.Exchanges peer := by
  intro exchanges
  obtain ⟨result,_,_,_,exchange⟩ := exchanges rewritten ⟨Serial.new,0⟩
  have fails : (rewritten.trySyncGameBoyLinkPeer ⟨Serial.new,0⟩).isNone = true := by decide +kernel
  cases result with
  | error error =>
    rw [exchange.2.2] at fails
    cases fails
  | ok prepared =>
    obtain ⟨_,_,_,_,_,synced,_⟩ := exchange
    rw [synced] at fails
    cases fails

end LinkBus
end ZeffBoy.Link.GameBoy
