import ZeffBoy.Link.GameBoyPair

/-! Why two honest Game Boys never fault.
At most one transfer of a master is open: its start is on the way, or its reply is. The guest keeps that, and every stage of a poll. -/
namespace ZeffBoy.Link.GameBoy
open Library Netplay Replay List

theorem eventOf_send (session : LinkSession) (system : session.system = .gameBoy) (event : GameBoyLinkEvent) :
    eventOf (session.send .linkEvent (encodeGameBoyLinkEvent event)).1 = some event := by
  have framed := LinkPacket.decode_encode ⟨session.system,session.endpoint,session.nextTransferId,.linkEvent,
    encodeGameBoyLinkEvent event⟩ (length_encodeGameBoyLinkEvent event)
  rw [eventOf,LinkSession.send,framed]
  dsimp only
  rw [if_pos ⟨system,rfl⟩,decodeGameBoyLinkEvent_encode]
  rfl

theorem handlePacket_eq {link : RemoteLink} {bytes : Bytes} {event : GameBoyLinkEvent} (system : link.session.system = .gameBoy)
    (read : eventOf bytes = some event) (emulator : Emulator) :
    link.handlePacket emulator bytes = link.handleEvent emulator event := by
  unfold eventOf at read
  cases framed : LinkPacket.decode bytes with
  | error error => simp [framed] at read
  | ok packet =>
    simp only [framed] at read
    split at read
    · rename_i honest
      cases payload : decodeGameBoyLinkEvent packet.payload with
      | error error => simp [payload,Except.toOption] at read
      | ok decoded =>
        have same : decoded = event := by simpa [payload,Except.toOption] using read
        have received : link.session.receivePacket bytes = .ok packet := by
          simp [LinkSession.receivePacket,framed,honest.1,system]
        simp only [RemoteLink.handlePacket,received,ok_bind,honest.2,payload,same]
        rfl
    · cases read

/-- The transfer a master has open, as the channels and the responder's log show it. -/
inductive Exchange (pending : Option PendingMasterTransfer) (announced : List UInt64) (handled : List (UInt64 × UInt8))
    (starts : List (UInt64 × GameBoyLinkAction)) (replies : List (UInt64 × UInt8)) : Prop
  | settled (none : pending = none) (logged : announced = handled.map Prod.fst) (quiet : starts = []) (silent : replies = [])
  | asked (transfer : PendingMasterTransfer) (held : pending = some transfer)
      (logged : announced = handled.map Prod.fst ++ [transfer.id]) (start : starts = [(transfer.id,transfer.action)])
      (silent : replies = [])
  | answered (transfer : PendingMasterTransfer) (byte : UInt8) (held : pending = some transfer)
      (logged : announced = handled.map Prod.fst) (last : handled.getLast? = some (transfer.id,byte)) (quiet : starts = [])
      (reply : replies = [(transfer.id,byte)])

namespace Endpoint

/-- The facts a side keeps about itself. -/
structure Side (endpoint : Endpoint) : Prop where
  connected : endpoint.link.connected = true
  system : endpoint.link.session.system = .gameBoy
  clock : endpoint.emulator.cpuCycles + 8192 < 2^64
  linked : endpoint.stage ≠ .idle → endpoint.emulator.serial.linkPeerPresent = true
  coherent : endpoint.emulator.serial.Coherent endpoint.link.pendingMasterTransfer.isSome endpoint.emulator.cpuCycles
    endpoint.link.passiveDrainGate
  answered : Answered endpoint.link.recordedReplayEvents
  wire : ∀ bytes ∈ endpoint.inbox, ∃ event, eventOf bytes = some event

/-- What holds between a master and its responder. -/
structure Lane (master responder : Endpoint) : Prop where
  exchange : Exchange master.link.pendingMasterTransfer master.link.announced responder.handled
    (responder.inbox.filterMap startOf) (master.inbox.filterMap replyOf)
  periods : ∀ start ∈ responder.inbox.filterMap startOf,
    0 < start.2.clockPeriodTCycles.toNat ∧ start.2.clockPeriodTCycles.toNat ≤ 4096
  bound : ∀ byte, master.emulator.serial.pendingLinkResponse = some byte →
    ∃ transferId, responder.handled.getLast? = some (transferId,byte)
  shifted : ∀ index byte, (index,byte) ∈ master.shifted → ∃ transferId, master.link.announced[index]? = some transferId ∧
    responder.handled[index]? = some (transferId,byte)

namespace Lane
variable {master responder : Endpoint}

theorem last_logged {announced : List UInt64} {handled : List (UInt64 × UInt8)} {transferId : UInt64} {byte : UInt8}
    (logged : announced = handled.map Prod.fst) (last : handled.getLast? = some (transferId,byte)) :
    announced[announced.length - 1]? = some transferId ∧ handled[announced.length - 1]? = some (transferId,byte) := by
  have place : handled[handled.length - 1]? = some (transferId,byte) := by rw [← List.getLast?_eq_getElem?,last]
  have lengths : announced.length = handled.length := by rw [logged,length_map]
  rw [lengths,logged,List.getElem?_map,place]
  exact ⟨rfl,rfl⟩

theorem keep_master (lane : Lane master responder) {next : Endpoint} (own : master.Side)
    (pending : next.link.pendingMasterTransfer = master.link.pendingMasterTransfer)
    (announced : next.link.announced = master.link.announced)
    (replies : next.inbox.filterMap replyOf = master.inbox.filterMap replyOf)
    (response : next.emulator.serial.pendingLinkResponse = master.emulator.serial.pendingLinkResponse ∨
      next.emulator.serial.pendingLinkResponse = none)
    (shifted : next.shifted = master.shifted ∨ ∃ byte, master.emulator.serial.pendingLinkResponse = some byte ∧
      next.shifted = master.shifted ++ [(master.link.announced.length - 1,byte)]) : Lane next responder := by
  refine ⟨?_,lane.periods,?_,?_⟩
  · rw [pending,announced,replies]
    exact lane.exchange
  · intro byte held
    rcases response with same | none
    · exact lane.bound byte (same.symm.trans held)
    · rw [none] at held
      cases held
  · intro index byte member
    rw [announced]
    rcases shifted with same | ⟨last,held,grown⟩
    · rw [same] at member
      exact lane.shifted index byte member
    · rw [grown] at member
      rcases mem_append.mp member with member | member
      · exact lane.shifted index byte member
      · obtain ⟨rfl,rfl⟩ := Prod.mk.inj (mem_singleton.mp member)
        obtain ⟨transferId,logged⟩ := lane.bound byte held
        have waits : master.link.pendingMasterTransfer = none := by
          cases waiting : master.link.pendingMasterTransfer with
          | none => rfl
          | some transfer =>
            have none := (own.coherent.awaits (by rw [waiting]; rfl)).2.2
            rw [none] at held
            cases held
        cases lane.exchange with
        | settled _ both _ _ => exact ⟨transferId,last_logged both logged⟩
        | asked transfer some_ _ _ _ =>
          rw [waits] at some_
          cases some_
        | answered transfer byte some_ _ _ _ _ =>
          rw [waits] at some_
          cases some_

theorem keep_responder (lane : Lane master responder) {next : Endpoint} (handled : next.handled = responder.handled)
    (starts : next.inbox.filterMap startOf = responder.inbox.filterMap startOf) : Lane master next := by
  refine ⟨?_,?_,?_,?_⟩
  · rw [handled,starts]
    exact lane.exchange
  · rw [starts]
    exact lane.periods
  · rw [handled]
    exact lane.bound
  · rw [handled]
    exact lane.shifted

end Lane

theorem initial_side (endpoint : UInt8) {emulator : Emulator} (unlinked : emulator.Unlinked) : (initial endpoint emulator).Side := by
  obtain ⟨absent,dropped,clock⟩ := unlinked
  refine ⟨rfl,rfl,clock,by simp [initial],?_,?_,by simp [initial]⟩
  · have idle : emulator.serial.pendingLinkByte = none := by rw [← dropped]; rfl
    have queue : emulator.serial.queuedLinkAction = none := by rw [← dropped]; rfl
    have response : emulator.serial.pendingLinkResponse = none := by rw [← dropped]; rfl
    have external : emulator.serial.pendingExternalCompletion = none := by rw [← dropped]; rfl
    refine Serial.Coherent.of_idle idle queue response external ?_
    intro present
    rw [initial,absent] at present
    cases present
  · intro before event after transferId split
    simp [initial,RemoteLink.new] at split

theorem initial_lane {one two : UInt8} {first second : Emulator} (unlinked : first.Unlinked) :
    Lane (initial one first) (initial two second) := by
  refine ⟨.settled rfl rfl rfl rfl,by simp [initial],?_,by simp [initial]⟩
  intro byte held
  have none : first.serial.pendingLinkResponse = none := by rw [← unlinked.dropped]; rfl
  change first.serial.pendingLinkResponse = some byte at held
  rw [none] at held
  cases held

variable {endpoint : Endpoint}

theorem writeSb_side (own : endpoint.Side) (value : UInt8) : (endpoint.writeSb value).Side :=
  ⟨own.connected,own.system,own.clock,own.linked,own.coherent.writeSb value,own.answered,own.wire⟩

theorem writeSc_linkPeerPresent (serial : Serial) (value : UInt8) : (serial.writeSc value).linkPeerPresent = serial.linkPeerPresent := by
  unfold Serial.writeSc
  dsimp only
  split
  · rfl
  · split <;> rfl

theorem writeSc_side (own : endpoint.Side) (value : UInt8)
    (patient : value &&& 0x80 = 0 → endpoint.link.pendingMasterTransfer = none) : (endpoint.writeSc value).Side := by
  refine ⟨own.connected,own.system,own.clock,?_,own.coherent.writeSc value ?_,own.answered,own.wire⟩
  · intro busy
    exact (writeSc_linkPeerPresent _ value).trans (own.linked busy)
  · intro cleared
    rw [patient cleared]
    rfl

theorem writeSc_response (serial : Serial) (value : UInt8) :
    (serial.writeSc value).pendingLinkResponse = serial.pendingLinkResponse ∨ (serial.writeSc value).pendingLinkResponse = none := by
  unfold Serial.writeSc
  dsimp only
  split
  · exact .inr rfl
  · split
    · exact .inr rfl
    · exact .inl rfl

theorem step_side (own : endpoint.Side) (cycles : Nat) (device : Device)
    (timely : endpoint.emulator.cpuCycles + cycles + 8192 < 2^64) : (endpoint.step cycles device).Side := by
  obtain ⟨coherent,passed⟩ := own.coherent.stepSerial cycles device
  exact ⟨own.connected,own.system,timely,fun busy => passed.present.trans (own.linked busy),coherent,own.answered,own.wire⟩

theorem step_shifted (own : endpoint.Side) (cycles : Nat) (device : Device) :
    (endpoint.step cycles device).shifted = endpoint.shifted ∨
      ∃ byte, endpoint.emulator.serial.pendingLinkResponse = some byte ∧
        (endpoint.step cycles device).shifted = endpoint.shifted ++ [(endpoint.link.announced.length - 1,byte)] := by
  obtain ⟨_,passed⟩ := own.coherent.stepSerial cycles device
  simp only [step,shiftedBy]
  split
  · rename_i gone
    exact .inr ⟨_,passed.shifted gone.1 gone.2,rfl⟩
  · exact .inl rfl

theorem allows_spec (own : endpoint.Side) :
    endpoint.link.passiveCompletionAllowsNextPacket endpoint.emulator = (false,endpoint.link) ∨
      endpoint.link.passiveCompletionAllowsNextPacket endpoint.emulator = (true,{endpoint.link with passiveDrainGate := none}) ∧
        endpoint.emulator.serial.pendingExternalCompletion = none := by
  have free : ∀ peerByte remaining, endpoint.emulator.serial.pendingExternalCompletion = some (peerByte,remaining) →
      ∃ opening, endpoint.link.passiveDrainGate = some opening ∧ endpoint.emulator.cpuCycles < opening.completionTick := by
    intro peerByte remaining due
    obtain ⟨_,_,positive,opening,held,opens⟩ := own.coherent.passive peerByte remaining due
    exact ⟨opening,held,by omega⟩
  unfold RemoteLink.passiveCompletionAllowsNextPacket
  cases gate : endpoint.link.passiveDrainGate with
  | none =>
    have unchanged : endpoint.link = {endpoint.link with passiveDrainGate := none} := by
      cases link : endpoint.link
      rw [link] at gate
      cases gate
      rfl
    refine .inr ⟨congrArg _ unchanged,?_⟩
    · cases external : endpoint.emulator.serial.pendingExternalCompletion with
      | none => rfl
      | some due =>
        obtain ⟨opening,held,_⟩ := free due.1 due.2 external
        rw [gate] at held
        cases held
  | some opening =>
    dsimp only
    split
    · exact .inl rfl
    · rename_i past
      refine .inr ⟨rfl,?_⟩
      cases external : endpoint.emulator.serial.pendingExternalCompletion with
      | none => rfl
      | some due =>
        obtain ⟨same,held,early⟩ := free due.1 due.2 external
        rw [gate] at held
        cases held
        exact absurd (.inl early) past

/-- What every stage keeps of a side. -/
structure Kept (endpoint : Endpoint) (outcome : Outcome) : Prop where
  connected : outcome.link.connected = true
  system : outcome.link.session.system = .gameBoy
  clock : outcome.emulator.cpuCycles = endpoint.emulator.cpuCycles
  present : outcome.emulator.serial.linkPeerPresent = true
  coherent : outcome.emulator.serial.Coherent outcome.link.pendingMasterTransfer.isSome outcome.emulator.cpuCycles
    outcome.link.passiveDrainGate
  answered : Answered outcome.link.recordedReplayEvents

/-- What a stage can do: nothing to the exchange, answer a start, take a reply, or announce a transfer. -/
inductive Turn (endpoint : Endpoint) (outcome : Outcome) : Option Bytes → Prop
  | quiet (pending : outcome.link.pendingMasterTransfer = endpoint.link.pendingMasterTransfer)
      (announced : outcome.link.announced = endpoint.link.announced)
      (response : outcome.emulator.serial.pendingLinkResponse = endpoint.emulator.serial.pendingLinkResponse)
      (holds : endpoint.emulator.serial.pendingLinkByte.isSome → outcome.emulator.serial.pendingLinkByte ≠ none)
      (silent : outcome.sent = []) : Turn endpoint outcome none
  | start (bytes : Bytes) (transferId tick : UInt64) (action : GameBoyLinkAction)
      (read : eventOf bytes = some (.masterStart transferId tick action))
      (pending : outcome.link.pendingMasterTransfer = endpoint.link.pendingMasterTransfer)
      (announced : outcome.link.announced = endpoint.link.announced)
      (response : outcome.emulator.serial.pendingLinkResponse = endpoint.emulator.serial.pendingLinkResponse)
      (holds : endpoint.emulator.serial.pendingLinkByte.isSome → outcome.emulator.serial.pendingLinkByte ≠ none)
      (answer : Bytes) (sent : outcome.sent = [answer]) (answerTick : UInt64) (reply : GameBoyLinkReply)
      (spoken : eventOf answer = some (.transferReply transferId answerTick reply))
      (honest : reply.outByte = endpoint.emulator.serial.sb) : Turn endpoint outcome (some bytes)
  | reply (bytes : Bytes) (transferId tick : UInt64) (reply : GameBoyLinkReply)
      (read : eventOf bytes = some (.transferReply transferId tick reply))
      (pending : outcome.link.pendingMasterTransfer = none)
      (announced : outcome.link.announced = endpoint.link.announced)
      (taken : outcome.emulator.serial.pendingLinkResponse = some reply.outByte ∧
          outcome.emulator.serial.pendingLinkByte ≠ none ∨
        outcome.emulator.serial.pendingLinkResponse = none ∧ outcome.emulator.serial.pendingLinkByte = none ∧
          outcome.emulator.serial.sb = reply.outByte)
      (silent : outcome.sent = []) : Turn endpoint outcome (some bytes)
  | announce (waited : endpoint.link.pendingMasterTransfer = none) (transfer : PendingMasterTransfer)
      (pending : outcome.link.pendingMasterTransfer = some transfer)
      (announced : outcome.link.announced = endpoint.link.announced ++ [transfer.id])
      (response : outcome.emulator.serial.pendingLinkResponse = none)
      (holds : outcome.emulator.serial.pendingLinkByte ≠ none) (packet : Bytes) (sent : outcome.sent = [packet])
      (tick : UInt64) (spoken : eventOf packet = some (.masterStart transfer.id tick transfer.action))
      (positive : 0 < transfer.action.clockPeriodTCycles.toNat) (short : transfer.action.clockPeriodTCycles.toNat ≤ 4096) :
      Turn endpoint outcome none

/-- A packet that may come: a start with a fair period, or the reply to the open transfer. -/
def Expected (endpoint : Endpoint) (bytes : Bytes) : Prop :=
  (∃ transferId tick action, eventOf bytes = some (.masterStart transferId tick action) ∧
    0 < action.clockPeriodTCycles.toNat ∧ action.clockPeriodTCycles.toNat ≤ 4096) ∨
  ∃ transferId tick reply transfer, eventOf bytes = some (.transferReply transferId tick reply) ∧
    endpoint.link.pendingMasterTransfer = some transfer ∧ transfer.id = transferId ∧
    endpoint.link.announced.getLast? = some transferId

theorem setLinkPeerPresent_present (serial : Serial) : (serial.setLinkPeerPresent true).linkPeerPresent = true := by
  unfold Serial.setLinkPeerPresent
  dsimp only
  rw [if_neg (by decide)]
  split <;> rfl

theorem setLinkPeerPresent_kept {serial : Serial} {awaiting : Bool} {clock : Nat} {gate : Option PassiveDrainGate}
    (coherent : serial.Coherent awaiting clock gate) :
    (serial.setLinkPeerPresent true).pendingLinkResponse = serial.pendingLinkResponse ∧
      (serial.pendingLinkByte.isSome → (serial.setLinkPeerPresent true).pendingLinkByte ≠ none) := by
  unfold Serial.setLinkPeerPresent
  dsimp only
  rw [if_neg (by decide)]
  split
  · rename_i starts
    simp only [Bool.and_eq_true,Bool.not_eq_true',Option.isNone_iff_eq_none] at starts
    obtain ⟨_,_,response,_⟩ := coherent.unlinked starts.1.1
    exact ⟨response.symm,fun _ => by simp [Serial.queueAction]⟩
  · exact ⟨rfl,fun held => Option.isSome_iff_ne_none.mp held⟩

theorem announced_other (log : List ReplayEvent) {event : ReplayEvent} (other : announcedId event = none) :
    (log ++ [event]).filterMap announcedId = log.filterMap announcedId := by
  rw [filterMap_append,filterMap_cons_none other,filterMap_nil,append_nil]

theorem handleMasterStart_turn (own : endpoint.Side) (present : endpoint.emulator.serial.linkPeerPresent = true)
    (free : endpoint.emulator.serial.pendingExternalCompletion = none) {bytes : Bytes} {transferId tick : UInt64}
    {action : GameBoyLinkAction} (read : eventOf bytes = some (.masterStart transferId tick action))
    (positive : 0 < action.clockPeriodTCycles.toNat) (short : action.clockPeriodTCycles.toNat ≤ 4096) :
    ∃ outcome, {endpoint.link with passiveDrainGate := none}.handleMasterStart endpoint.emulator transferId action = .ok outcome ∧
      Kept endpoint outcome ∧ Turn endpoint outcome (some bytes) := by
  have clock := own.clock
  unfold RemoteLink.handleMasterStart
  dsimp only
  have logged : ∀ event, Answered (endpoint.link.recordedReplayEvents ++ [.gameBoyLink endpoint.emulator.frameCount
      (UInt64.ofNat endpoint.emulator.cpuCycles) (.remoteMasterStart transferId action.clockPeriodTCycles action.outByte
        action.serialGeneration event)]) := fun event => own.answered.append _ (by simp [repliedId])
  split
  · rename_i passive
    rw [if_neg (by omega),if_neg (by omega),if_neg (by simp only [passiveRearmGraceTCycles]; omega)]
    obtain ⟨next,scheduled,coherent,stays,response,pending,_⟩ := own.coherent.scheduleExternal present passive free action.outByte
      positive ⟨endpoint.emulator.cpuCycles + action.clockPeriodTCycles.toNat,endpoint.emulator.cpuCycles +
        action.clockPeriodTCycles.toNat + max action.clockPeriodTCycles.toNat passiveRearmGraceTCycles⟩ rfl
    rw [scheduled]
    refine ⟨_,rfl,⟨own.connected,own.system,rfl,stays,coherent,logged _⟩,?_⟩
    exact .start bytes transferId tick action read rfl (announced_other _ rfl) response (fun held => by
      rw [pending]
      exact Option.isSome_iff_ne_none.mp held) _ rfl _ _ (eventOf_send _ own.system _) rfl
  · refine ⟨_,rfl,⟨own.connected,own.system,rfl,present,own.coherent.regate free none,logged _⟩,?_⟩
    exact .start bytes transferId tick action read rfl (announced_other _ rfl) rfl (fun held => Option.isSome_iff_ne_none.mp held)
      _ rfl _ _ (eventOf_send _ own.system _) rfl

theorem handleTransferReply_turn (own : endpoint.Side)
    (present : endpoint.emulator.serial.linkPeerPresent = true)
    (free : endpoint.emulator.serial.pendingExternalCompletion = none) {bytes : Bytes} {transferId tick : UInt64}
    {reply : GameBoyLinkReply} {transfer : PendingMasterTransfer}
    (read : eventOf bytes = some (.transferReply transferId tick reply))
    (waiting : endpoint.link.pendingMasterTransfer = some transfer) (same : transfer.id = transferId)
    (latest : endpoint.link.announced.getLast? = some transferId) :
    ∃ outcome, {endpoint.link with passiveDrainGate := none}.handleTransferReply endpoint.emulator transferId reply = .ok outcome ∧
      Kept endpoint outcome ∧ Turn endpoint outcome (some bytes) := by
  have awaited := own.coherent
  rw [waiting] at awaited
  obtain ⟨next,applied,coherent,stays,taken⟩ := awaited.applyLinkReply reply
  have machine : endpoint.emulator.applyLinkReply reply = (true,{endpoint.emulator with
      serial := next
      interrupted := endpoint.emulator.interrupted || true && next.pendingLinkByte.isNone}) := by
    simp only [Emulator.applyLinkReply,applied]
  have nothing : next.pendingExternalCompletion = none := by
    cases external : next.pendingExternalCompletion with
    | none => rfl
    | some due =>
      obtain ⟨idle,_⟩ := coherent.passive due.1 due.2 external
      rcases taken with ⟨_,held⟩ | ⟨_,_,_⟩
      · rw [idle] at held
        cases held
      · have pending := (awaited.awaits rfl).1
        simp only [Serial.applyLinkReply] at applied
        split at applied
        · cases applied
        · split at applied
          · rw [Serial.Coherent.completeLinkTransfer_eq _ _ (.inl pending)] at applied
            cases applied
            cases external
          · cases applied
            exact absurd external (by rw [free]; simp)
  unfold RemoteLink.handleTransferReply
  rw [if_neg (by simp [waiting,same]),machine]
  refine ⟨_,rfl,⟨own.connected,own.system,rfl,stays.trans present,coherent.regate nothing none,?_⟩,?_⟩
  · refine own.answered.append _ ?_
    intro replied spoken
    cases spoken
    exact latest
  · refine .reply bytes transferId tick reply read rfl ?_ ?_ rfl
    · exact announced_other _ rfl
    · rcases taken with ⟨response,held⟩ | done
      · exact .inl ⟨response,Option.isSome_iff_ne_none.mp held⟩
      · exact .inr done

theorem handlePacket_turn (own : endpoint.Side)
    (present : endpoint.emulator.serial.linkPeerPresent = true)
    (free : endpoint.emulator.serial.pendingExternalCompletion = none) {bytes : Bytes} (expected : Expected endpoint bytes) :
    ∃ outcome, {endpoint.link with passiveDrainGate := none}.handlePacket endpoint.emulator bytes = .ok outcome ∧
      Kept endpoint outcome ∧ Turn endpoint outcome (some bytes) := by
  have clear : {endpoint.link with passiveDrainGate := none}.session.system = .gameBoy := own.system
  rcases expected with ⟨transferId,tick,action,read,positive,short⟩ | ⟨transferId,tick,reply,transfer,read,waiting,same,latest⟩
  · rw [handlePacket_eq clear read]
    exact handleMasterStart_turn own present free read positive short
  · rw [handlePacket_eq clear read]
    exact handleTransferReply_turn own present free read waiting same latest

theorem still_turn (own : endpoint.Side) (present : endpoint.emulator.serial.linkPeerPresent = true)
    (gate : Option PassiveDrainGate) (coherent : endpoint.emulator.serial.Coherent endpoint.link.pendingMasterTransfer.isSome
      endpoint.emulator.cpuCycles gate) :
    Kept endpoint ⟨{endpoint.link with passiveDrainGate := gate},endpoint.emulator,[]⟩ ∧
      Turn endpoint ⟨{endpoint.link with passiveDrainGate := gate},endpoint.emulator,[]⟩ none :=
  ⟨⟨own.connected,own.system,rfl,present,coherent,own.answered⟩,
    .quiet rfl rfl rfl (fun held => Option.isSome_iff_ne_none.mp held) rfl⟩

theorem drainTurn_turn (own : endpoint.Side) (present : endpoint.emulator.serial.linkPeerPresent = true)
    {packet : Option Bytes} (barred : (endpoint.link.passiveCompletionAllowsNextPacket endpoint.emulator).1 = false → packet = none)
    (expected : ∀ bytes, packet = some bytes → Expected endpoint bytes) :
    ∃ more outcome, drainTurn endpoint.link endpoint.emulator packet = .ok (more,outcome) ∧
      Kept endpoint outcome ∧ Turn endpoint outcome packet := by
  unfold drainTurn
  rcases allows_spec own with closed | ⟨opened,free⟩
  · rw [barred (by rw [closed]),closed]
    exact ⟨_,_,rfl,still_turn own present _ own.coherent⟩
  · rw [opened]
    cases packet with
    | none => exact ⟨_,_,rfl,still_turn own present none (own.coherent.regate free none)⟩
    | some bytes =>
      obtain ⟨outcome,handled,kept,turn⟩ := handlePacket_turn own present free (expected bytes rfl)
      refine ⟨true,outcome,?_,kept,turn⟩
      dsimp only
      rw [handled]
      rfl

theorem sendPendingMasterStart_turn (own : endpoint.Side)
    (present : endpoint.emulator.serial.linkPeerPresent = true) :
    ∃ outcome, endpoint.link.sendPendingMasterStart endpoint.emulator = .ok outcome ∧ Kept endpoint outcome ∧
      Turn endpoint outcome none := by
  unfold RemoteLink.sendPendingMasterStart Serial.takeLinkAction
  cases queue : endpoint.emulator.serial.queuedLinkAction with
  | none =>
    refine ⟨_,rfl,⟨own.connected,own.system,rfl,present,?_,own.answered⟩,?_⟩
    · exact own.coherent.congr rfl rfl queue.symm rfl rfl rfl
    · exact .quiet rfl rfl rfl (fun held => Option.isSome_iff_ne_none.mp held) rfl
  | some action =>
    obtain ⟨pending,response,positive,short⟩ := own.coherent.queued action queue
    have waits : endpoint.link.pendingMasterTransfer = none := by
      cases waiting : endpoint.link.pendingMasterTransfer with
      | none => rfl
      | some transfer =>
        have empty := (own.coherent.awaits (by rw [waiting]; rfl)).2.1
        rw [queue] at empty
        cases empty
    have coherent := own.coherent
    rw [waits] at coherent
    dsimp only
    rw [if_neg (by simp [waits])]
    refine ⟨_,rfl,⟨own.connected,own.system,rfl,present,coherent.takeLinkAction action queue,?_⟩,?_⟩
    · exact own.answered.append _ (fun _ replied => by cases replied)
    · refine .announce waits _ rfl ?_ response (Option.isSome_iff_ne_none.mp pending) _ rfl _ (eventOf_send _ own.system _)
        positive short
      exact filterMap_append.trans rfl

theorem pollStage_turn (own : endpoint.Side) (arrived : Bool)
    (expected : ∀ bytes, endpoint.arrival arrived = some bytes → Expected endpoint bytes) :
    ∃ stage outcome, pollStage endpoint.stage endpoint.link endpoint.emulator (endpoint.arrival arrived) = .ok (stage,outcome) ∧
      Kept endpoint outcome ∧ Turn endpoint outcome (endpoint.arrival arrived) := by
  have barred : takesPacket endpoint.stage endpoint.link endpoint.emulator = false → endpoint.arrival arrived = none := by
    intro closed
    simp [arrival,closed]
  generalize endpoint.arrival arrived = packet at expected barred
  cases stage : endpoint.stage with
  | idle =>
    rw [barred (by rw [stage]; rfl)]
    unfold pollStage
    dsimp only
    rw [if_neg (by simp [own.connected])]
    refine ⟨_,_,rfl,⟨own.connected,own.system,rfl,?_,own.coherent.setLinkPeerPresent,own.answered⟩,?_⟩
    · exact setLinkPeerPresent_present _
    · obtain ⟨response,holds⟩ := setLinkPeerPresent_kept own.coherent
      exact .quiet rfl rfl response holds rfl
  | draining =>
    have present := own.linked (by rw [stage]; simp)
    obtain ⟨more,outcome,drained,kept,turn⟩ := drainTurn_turn own present (by rw [stage] at barred; exact barred) expected
    refine ⟨if more then .draining else .announcing,outcome,?_,kept,turn⟩
    simp only [pollStage,drained]
    rfl
  | announcing =>
    have present := own.linked (by rw [stage]; simp)
    rw [barred (by rw [stage]; rfl)]
    obtain ⟨outcome,sent,kept,turn⟩ := sendPendingMasterStart_turn own present
    refine ⟨if outcome.emulator.serial.waitingAtLinkCompletionBoundary then .spinning masterReplySpinLimit else .drainingAgain,
      outcome,?_,kept,turn⟩
    simp only [pollStage,sent]
    rfl
  | spinning tries =>
    have present := own.linked (by rw [stage]; simp)
    cases tries with
    | zero =>
      rw [barred (by rw [stage]; rfl)]
      exact ⟨_,_,rfl,still_turn own present _ own.coherent⟩
    | succ tries =>
      rw [stage] at barred
      unfold pollStage
      dsimp only
      cases waiting : endpoint.link.pendingMasterTransfer with
      | none =>
        rw [barred (by simp [takesPacket,waiting])]
        exact ⟨_,_,rfl,still_turn own present _ own.coherent⟩
      | some transfer =>
        rcases allows_spec own with closed | ⟨opened,free⟩
        · rw [barred (by simp [takesPacket,closed]),closed]
          exact ⟨_,_,rfl,still_turn own present _ own.coherent⟩
        · rw [opened]
          cases packet with
          | none => exact ⟨_,_,rfl,still_turn own present none (own.coherent.regate free none)⟩
          | some bytes =>
            obtain ⟨outcome,handled,kept,turn⟩ := handlePacket_turn own present free (expected bytes rfl)
            refine ⟨.spinning tries,outcome,?_,kept,turn⟩
            simp [handled,Except.map]
  | drainingAgain =>
    have present := own.linked (by rw [stage]; simp)
    obtain ⟨more,outcome,drained,kept,turn⟩ := drainTurn_turn own present (by rw [stage] at barred; exact barred) expected
    refine ⟨if more then .drainingAgain else .idle,outcome,?_,kept,turn⟩
    simp only [pollStage,drained]
    rfl

end Endpoint
end ZeffBoy.Link.GameBoy
