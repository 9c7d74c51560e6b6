import ZeffBoy.Link.WonderSwanPair

/-! What two WonderSwan links guarantee in every interleaving. -/
namespace ZeffBoy.Link.WonderSwan
open Library Netplay RemoteLink Emulator List

theorem mem_linkEvents {messages : List Message} {event : LinkEvent} :
    event ∈ messages.filterMap Message.linkEvent? ↔ .linkEvent event ∈ messages := by
  rw [mem_filterMap]
  constructor
  · rintro ⟨message,member,read⟩
    cases message <;> simp_all [Message.linkEvent?]
  · intro member
    exact ⟨_,member,rfl⟩

theorem linkEvents_map (events : List LinkEvent) : (events.map Message.linkEvent).filterMap Message.linkEvent? = events := by
  induction events with
  | nil => rfl
  | cons event events ih => exact congrArg (event::·) ih

namespace Endpoint

def waiting (endpoint : Endpoint) : List LinkEvent :=
  endpoint.emulator.uart.completedTxEvents.filterMap endpoint.link.sessionEvent

/-- What drain and delivery do to a side, in either half of a poll. -/
structure Handled (endpoint : Endpoint) (arrived : List Message) (outcome : Outcome) : Prop where
  connected : outcome.link.connected = endpoint.link.connected
  clock : outcome.emulator.busCycles = endpoint.emulator.busCycles
  session : outcome.link.localSessionCycle outcome.emulator = endpoint.session
  bytes : outcome.delivered.map Delivery.event ++ outcome.link.inboundEvents =
    endpoint.link.inboundEvents ++ arrived.filterMap Message.linkEvent?
  slot : outcome.link.nextRxDeliveryCycle = (endpoint.delivered ++ outcome.delivered).getLast?.map Delivery.slot
  paced : Paced (endpoint.delivered ++ outcome.delivered)
  prompt : ∀ event ∈ outcome.link.inboundEvents.head?, endpoint.session < outcome.link.scheduledDeliveryCycle event
  remembers : endpoint.link.remoteWatermark.getD 0 ≤ outcome.link.remoteWatermark.getD 0
  learns : ∀ watermark, .linkState watermark ∈ arrived → watermark ≤ outcome.link.remoteWatermark.getD 0
  heard : ∀ limit, endpoint.link.remoteWatermark.getD 0 ≤ limit →
    (∀ watermark, .linkState watermark ∈ arrived → watermark ≤ limit) → outcome.link.remoteWatermark.getD 0 ≤ limit

/-- What the first half of a poll adds to that. -/
structure Begins (endpoint : Endpoint) (outcome : Outcome) : Prop where
  epoch : outcome.link.localEpochCycle = some (endpoint.link.localEpochCycle.getD endpoint.emulator.busCycles)
  emptied : outcome.emulator.uart.completedTxEvents = []
  events : outcome.sent.filterMap Message.linkEvent? = endpoint.waiting
  honest : .disconnect ∉ outcome.sent
  fresh : ∃ watermark, outcome.link.lastSentWatermark = some watermark ∧
    endpoint.session < watermark + watermarkIntervalCycles
  told : ∀ watermark, outcome.link.lastSentWatermark = some watermark →
    endpoint.link.lastSentWatermark = some watermark ∨ .linkState watermark ∈ outcome.sent
  news : ∀ watermark, .linkState watermark ∈ outcome.sent → watermark = endpoint.session

/-- What the second half leaves alone. -/
structure Finishes (endpoint : Endpoint) (outcome : Outcome) : Prop where
  epoch : outcome.link.localEpochCycle = endpoint.link.localEpochCycle
  queue : outcome.emulator.uart.completedTxEvents = endpoint.emulator.uart.completedTxEvents
  sent : outcome.link.lastSentWatermark = endpoint.link.lastSentWatermark

/-- The facts a side keeps about itself. -/
structure Side (endpoint : Endpoint) : Prop where
  connected : endpoint.link.connected = true
  fits : endpoint.emulator.Fits
  stamped : ∀ event ∈ endpoint.completed, event.completedCycle ≤ endpoint.emulator.busCycles
  fair : ∀ event ∈ endpoint.owed, FairBaud event.baudBps
  fresh : endpoint.polling ∨ endpoint.polled → ∃ watermark, endpoint.link.lastSentWatermark = some watermark ∧
    endpoint.session < watermark + watermarkIntervalCycles
  slot : endpoint.link.nextRxDeliveryCycle = endpoint.delivered.getLast?.map Delivery.slot
  paced : Paced endpoint.delivered
  prompt : endpoint.polling ∨ endpoint.polled → ∀ event ∈ endpoint.link.inboundEvents.head?,
    endpoint.session < endpoint.link.scheduledDeliveryCycle event

variable {endpoint : Endpoint} {emulator : Emulator} {outcome : Outcome}

theorem deliver_handled (link : RemoteLink) (emulator : Emulator) (arrived : List Message)
    {drained : RemoteLink} (facts : Drained link arrived drained)
    (inbound : link.inboundEvents = endpoint.link.inboundEvents) (remote : link.remoteWatermark = endpoint.link.remoteWatermark)
    (held : link.nextRxDeliveryCycle = endpoint.link.nextRxDeliveryCycle) (connected : link.connected = endpoint.link.connected)
    (clock : emulator.busCycles = endpoint.emulator.busCycles) (session : link.localSessionCycle emulator = endpoint.session)
    (own : endpoint.Side) (fairInbound : ∀ event ∈ endpoint.link.inboundEvents, FairBaud event.baudBps)
    (fairArrived : ∀ event, .linkEvent event ∈ arrived → FairBaud event.baudBps) :
    Handled endpoint arrived (drained.deliverDueEvents emulator) ∧
      Delivers drained emulator endpoint.delivered (drained.deliverDueEvents emulator) := by
  have fair : ∀ event ∈ drained.inboundEvents, FairBaud event.baudBps := by
    intro event member
    rw [facts.inbound,inbound] at member
    rcases mem_append.mp member with member | member
    · exact fairInbound event member
    · exact fairArrived event (mem_linkEvents.mp member)
  have delivers := drained.deliverDueEvents_spec emulator endpoint.delivered fair (by rw [facts.slot,held,own.slot]) own.paced
  have local_ : drained.localSessionCycle emulator = endpoint.session := by
    rw [localSessionCycle_eq facts.epoch rfl,session]
  refine ⟨?_,delivers⟩
  constructor
  · rw [delivers.connected,facts.connected,connected]
  · rw [delivers.clock,clock]
  · rw [localSessionCycle_eq delivers.epoch delivers.clock,local_]
  · rw [delivers.bytes,facts.inbound,inbound]
  · exact delivers.slot
  · exact delivers.paced
  · intro event member
    rw [← local_]
    exact delivers.prompt event member
  · rw [delivers.remote,← remote]
    exact facts.remembers
  · intro watermark member
    rw [delivers.remote]
    exact facts.learns watermark member
  · intro limit bound all
    rw [delivers.remote]
    exact facts.heard limit (by rw [remote]; exact bound) all

theorem finishPoll_spec (endpoint : Endpoint) (arrived : List Message) (own : endpoint.Side) (honest : .disconnect ∉ arrived)
    (fairInbound : ∀ event ∈ endpoint.link.inboundEvents, FairBaud event.baudBps)
    (fairArrived : ∀ event, .linkEvent event ∈ arrived → FairBaud event.baudBps) :
    ∃ outcome, endpoint.link.finishPoll endpoint.emulator arrived = .ok outcome ∧
      Handled endpoint arrived outcome ∧ Finishes endpoint outcome := by
  obtain ⟨drained,drains,facts⟩ := endpoint.link.drainIncoming_spec arrived honest
  obtain ⟨handled,delivers⟩ := deliver_handled endpoint.link endpoint.emulator arrived facts rfl rfl rfl rfl rfl rfl
    own fairInbound fairArrived
  refine ⟨drained.deliverDueEvents endpoint.emulator,?_,handled,?_,?_,?_⟩
  · simp only [finishPoll,drains,ok_bind]
    rfl
  · rw [delivers.epoch,facts.epoch]
  · exact delivers.queue
  · rw [delivers.sent,facts.sent]

theorem sendWatermark_spec (link : RemoteLink) (emulator : Emulator) :
    let sends := link.sendWatermark emulator
    sends.1.filterMap Message.linkEvent? = [] ∧ .disconnect ∉ sends.1 ∧
      (∃ watermark, sends.2.lastSentWatermark = some watermark ∧
        link.localSessionCycle emulator < watermark + watermarkIntervalCycles) ∧
      (∀ watermark, sends.2.lastSentWatermark = some watermark →
        link.lastSentWatermark = some watermark ∨ .linkState watermark ∈ sends.1) ∧
      (∀ watermark, .linkState watermark ∈ sends.1 → watermark = link.localSessionCycle emulator) ∧
      ∃ last, sends.2 = {link with lastSentWatermark := last} := by
  have positive : 0 < watermarkIntervalCycles := by decide
  intro sends
  by_cases due : link.lastSentWatermark = none ∨ ∃ last, link.lastSentWatermark = some last ∧
      (link.localSessionCycle emulator = 0 ∨ watermarkIntervalCycles ≤ link.localSessionCycle emulator - last)
  · have sent : sends = ([.linkState (link.localSessionCycle emulator)],
        {link with lastSentWatermark := some (link.localSessionCycle emulator)}) := by
      rcases due with never | ⟨last,held,due⟩
      · simp [sends,sendWatermark,never]
      · simp [sends,sendWatermark,held,due]
    rw [sent]
    refine ⟨rfl,by simp,⟨_,rfl,by omega⟩,?_,by simp,_,rfl⟩
    intro watermark held
    cases held
    exact .inr (by simp)
  · push Not at due
    obtain ⟨before,recent⟩ := due
    obtain ⟨last,held⟩ := Option.ne_none_iff_exists'.mp before
    obtain ⟨later,close⟩ := recent last held
    have silent : sends = ([],link) := by
      simp only [sends,sendWatermark,held]
      rw [if_neg]
      simp only [Bool.not_eq_true,decide_eq_false_iff_not,not_or]
      omega
    rw [silent]
    exact ⟨rfl,by simp,⟨last,held,by omega⟩,fun watermark held => .inl held,by simp,link.lastSentWatermark,rfl⟩

theorem sendCompletedTxEvents_events (link : RemoteLink) (emulator : Emulator) :
    (link.sendCompletedTxEvents emulator).1 = (emulator.uart.completedTxEvents.filterMap link.sessionEvent).map .linkEvent := by
  rw [sendCompletedTxEvents,map_filterMap]
  exact congrArg (emulator.uart.completedTxEvents.filterMap ·) (funext link.sendEvent_eq)

theorem sessionEvent_none {link : RemoteLink} (none : link.localEpochCycle = none) (events : List TxEvent) :
    events.filterMap link.sessionEvent = [] := by
  rw [filterMap_eq_nil_iff]
  intro event _
  simp [sessionEvent,none]

theorem initializeEpoch_spec (endpoint : Endpoint) :
    ∃ link emulator, endpoint.link.initializeEpoch endpoint.emulator = (link,emulator) ∧
      link = {endpoint.link with localEpochCycle := some (endpoint.link.localEpochCycle.getD endpoint.emulator.busCycles)} ∧
      emulator.busCycles = endpoint.emulator.busCycles ∧ link.localSessionCycle emulator = endpoint.session ∧
      emulator.uart.completedTxEvents.filterMap link.sessionEvent = endpoint.waiting := by
  rcases held : endpoint.link.localEpochCycle with _ | epoch
  · refine ⟨_,endpoint.emulator.takeLinkTxEvents,?_,rfl,rfl,?_,?_⟩
    · rw [initializeEpoch,held]
      rfl
    · rw [Endpoint.session]
      simp [localSessionCycle,held]
    · rw [Endpoint.waiting,sessionEvent_none held,takeLinkTxEvents_completedTxEvents]
      rfl
  · refine ⟨endpoint.link,endpoint.emulator,by rw [initializeEpoch,held],?_,rfl,rfl,rfl⟩
    rcases link : endpoint.link with ⟨connected,epoch',last,remote,inbound,next,recorded⟩
    rw [link] at held
    simp only at held
    simp [held]

theorem beginPoll_spec (endpoint : Endpoint) (arrived : List Message) (own : endpoint.Side) (honest : .disconnect ∉ arrived)
    (fairInbound : ∀ event ∈ endpoint.link.inboundEvents, FairBaud event.baudBps)
    (fairArrived : ∀ event, .linkEvent event ∈ arrived → FairBaud event.baudBps) :
    ∃ outcome, endpoint.link.beginPoll endpoint.emulator arrived = .ok outcome ∧
      Handled endpoint arrived outcome ∧ Begins endpoint outcome := by
  obtain ⟨link,emulator,initialized,same,clock,session,waiting⟩ := endpoint.initializeEpoch_spec
  obtain ⟨drained,drains,facts⟩ := link.drainIncoming_spec arrived honest
  obtain ⟨handled,delivers⟩ := deliver_handled link emulator arrived facts (by rw [same]) (by rw [same]) (by rw [same])
    (by rw [same]) clock session own fairInbound fairArrived
  have epoch : drained.localEpochCycle = link.localEpochCycle := facts.epoch
  have due := delivers.epoch
  set handed := drained.deliverDueEvents emulator with named
  have cleared : handed.link.localSessionCycle handed.emulator.takeLinkTxEvents = endpoint.session := handled.session
  obtain ⟨silent,honestMark,fresh,told,news,last,updated⟩ := sendWatermark_spec handed.link handed.emulator.takeLinkTxEvents
  rw [cleared] at fresh news
  refine ⟨⟨(handed.link.sendWatermark handed.emulator.takeLinkTxEvents).2,handed.emulator.takeLinkTxEvents,handed.delivered,
    (handed.link.sendCompletedTxEvents handed.emulator).1 ++
      (handed.link.sendWatermark handed.emulator.takeLinkTxEvents).1⟩,?_,?_,?_⟩
  · simp only [beginPoll,own.connected,Bool.not_true,Bool.false_eq_true,if_false,initialized,drains,ok_bind,← named]
    rfl
  · rw [updated]
    exact ⟨handled.connected,handled.clock,handled.session,handled.bytes,handled.slot,handled.paced,handled.prompt,
      handled.remembers,handled.learns,handled.heard⟩
  · have events : (handed.link.sendCompletedTxEvents handed.emulator).1 = endpoint.waiting.map .linkEvent := by
      rw [sendCompletedTxEvents_events,delivers.queue,sessionEvent_eq (due.trans epoch),waiting]
    constructor
    · rw [updated]
      dsimp only
      rw [due,epoch,same]
    · rfl
    · rw [filterMap_append,events,linkEvents_map,silent,append_nil]
    · rw [events]
      simpa using honestMark
    · exact fresh
    · intro watermark held
      rcases told watermark held with held | member
      · rw [delivers.sent,facts.sent,same] at held
        exact .inl held
      · exact .inr (mem_append_right _ member)
    · intro watermark member
      rcases mem_append.mp member with member | member
      · rw [events] at member
        simp at member
      · exact news watermark member

theorem receive_side (own : endpoint.Side) (messages : List Message) : (endpoint.receive messages).Side :=
  ⟨own.connected,own.fits,own.stamped,own.fair,own.fresh,own.slot,own.paced,own.prompt⟩

/-- What holds between a receiving side and its peer: nothing the peer owes is lost or moved,
and what the receiver knows of the peer's clock is old news. -/
structure Lane (bound : Nat) (receiver sender : Endpoint) : Prop where
  honest : .disconnect ∉ receiver.inbox
  bytes : receiver.delivered.map Delivery.event ++ receiver.link.inboundEvents ++
    receiver.inbox.filterMap Message.linkEvent? ++ sender.waiting = sender.owed
  knows : receiver.link.remoteWatermark.getD 0 ≤ sender.session
  news : ∀ watermark, .linkState watermark ∈ receiver.inbox → watermark ≤ sender.session
  told : ∀ watermark, sender.link.lastSentWatermark = some watermark →
    watermark ≤ receiver.link.remoteWatermark.getD 0 ∨ .linkState watermark ∈ receiver.inbox
  lead : receiver.session ≤ sender.session + maxRemoteLeadCycles + bound

namespace Lane
variable {bound : Nat} {receiver sender : Endpoint}

theorem fair_inbound (lane : Lane bound receiver sender) (peer : sender.Side) :
    ∀ event ∈ receiver.link.inboundEvents, FairBaud event.baudBps := by
  intro event member
  apply peer.fair
  rw [← lane.bytes]
  simp [member]

theorem fair_inbox (lane : Lane bound receiver sender) (peer : sender.Side) :
    ∀ event, .linkEvent event ∈ receiver.inbox → FairBaud event.baudBps := by
  intro event member
  apply peer.fair
  rw [← lane.bytes]
  simp [mem_linkEvents.mpr member]

theorem polls {arrived rest : List Message} (lane : Lane bound receiver sender) (own : receiver.Side) (peer : sender.Side)
    (inbox : receiver.inbox = arrived ++ rest) :
    (∃ outcome, receiver.link.beginPoll receiver.emulator arrived = .ok outcome ∧
      Handled receiver arrived outcome ∧ Begins receiver outcome) ∧
    ∃ outcome, receiver.link.finishPoll receiver.emulator arrived = .ok outcome ∧
      Handled receiver arrived outcome ∧ Finishes receiver outcome := by
  have among : ∀ message ∈ arrived, message ∈ receiver.inbox := fun message member => by
    rw [inbox]
    exact mem_append_left _ member
  have honest : .disconnect ∉ arrived := fun member => lane.honest (among _ member)
  have fair := fun event member => lane.fair_inbox peer event (among _ member)
  exact ⟨receiver.beginPoll_spec arrived own honest (lane.fair_inbound peer) fair,
    receiver.finishPoll_spec arrived own honest (lane.fair_inbound peer) fair⟩

end Lane

/-- The cycle from which a byte may be handed over, once the byte before it has been. -/
def due (endpoint : Endpoint) (event : LinkEvent) : Nat :=
  match endpoint.delivered.getLast? with
  | none => event.completedCycle + remoteRxDelayCycles
  | some last => max (event.completedCycle + remoteRxDelayCycles) last.slot

end Endpoint

namespace Pair
open Endpoint

theorem other_other (side : Player) : other (other side) = side := by cases side <;> rfl

theorem other_ne (side : Player) : other side ≠ side := by cases side <;> decide

variable {bound : Nat}

/-- Both sides have polled since their guests last ran, and no watermark on its way is news. -/
def Settled (pair : Pair) : Prop :=
  ∀ side, (pair.get side).polled = true ∧ ∀ watermark, .linkState watermark ∈ (pair.get side).inbox →
    watermark ≤ (pair.get side).link.remoteWatermark.getD 0

/-- No cycle count of a side, nor a sum that its link forms of one, leaves 64 bits. -/
structure Words (endpoint : Endpoint) : Prop where
  clock : endpoint.emulator.busCycles < 2^64
  lead : endpoint.link.remoteWatermark.getD 0 + maxRemoteLeadCycles < 2^64
  news : ∀ watermark, .linkState watermark ∈ endpoint.inbox → watermark + maxRemoteLeadCycles < 2^64
  events : ∀ event ∈ endpoint.link.inboundEvents ++ endpoint.inbox.filterMap Message.linkEvent?,
    event.completedCycle + remoteRxDelayCycles < 2^64 ∧ endpoint.session + byteCycles event.baudBps < 2^64

theorem owed_le {endpoint : Endpoint} (own : endpoint.Side) {event : LinkEvent} (member : event ∈ endpoint.owed) :
    event.completedCycle ≤ endpoint.emulator.busCycles := by
  obtain ⟨sent,among,read⟩ := mem_filterMap.mp member
  have stamped := own.stamped sent among
  simp only [sessionEvent] at read
  split at read
  · cases read
  · split at read
    · cases read
    · cases read
      exact (Nat.sub_le _ _).trans stamped

theorem words {receiver sender : Endpoint} (own : receiver.Side) (peer : sender.Side)
    (lane : Lane bound receiver sender) : Words receiver := by
  have fits : receiver.emulator.busCycles + cpuClockHz * 10 < 2^64 := own.fits
  have ends : sender.emulator.busCycles + cpuClockHz * 10 < 2^64 := peer.fits
  have lead : maxRemoteLeadCycles ≤ cpuClockHz * 10 := by decide
  have delay : remoteRxDelayCycles ≤ cpuClockHz * 10 := by decide
  have mine : receiver.session ≤ receiver.emulator.busCycles := Nat.sub_le _ _
  have theirs : sender.session ≤ sender.emulator.busCycles := Nat.sub_le _ _
  have knows := lane.knows
  refine ⟨by omega,by omega,fun watermark member => ?_,fun event member => ?_⟩
  · have news := lane.news watermark member
    omega
  · have listed : event ∈ sender.owed := by
      rw [← lane.bytes]
      exact mem_append_left _ (append_assoc _ _ _ ▸ mem_append_right _ member)
    have stamped := owed_le peer listed
    have long := byteCycles_le event.baudBps
    omega

/-- The guest enables its UART at the fast rate, writes a byte and runs until it is out. -/
def sender : Emulator := [.writeControl 0xC0,.writeData 0x5A,.stepCycles 800].foldl guest .powered

def late : Emulator := guest .powered (.stepCycles 5000)

end Pair
end ZeffBoy.Link.WonderSwan
