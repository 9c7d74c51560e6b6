import ZeffBoy.Link.WonderSwan
import ZeffBoy.Library.Transition
import ZeffBoy.Netplay.Rollback

/-! Two WonderSwan links over reliable ordered channels.
A poll is two steps, so that the peer may act between its sends and its second drain. -/
namespace ZeffBoy.Link.WonderSwan
open Library Netplay List

namespace Message

def linkEvent? : Message → Option LinkEvent
  | linkEvent event => some event
  | _ => none

end Message

/-- A completed byte as the peer hears of it: only those after the epoch, counted from it. -/
def RemoteLink.sessionEvent (link : RemoteLink) (event : TxEvent) : Option LinkEvent :=
  match link.localEpochCycle with
  | none => none
  | some epoch =>
    if event.completedCycle ≤ epoch then none
    else some ⟨event.completedCycle - epoch,event.generation,event.baudBps,event.byte⟩

/-- One side. `polled` tells that it has polled since its guest last ran, `completed` and `delivered`
are the logs of its UART; no step reads them. -/
structure Endpoint where
  link : RemoteLink
  emulator : Emulator
  inbox : List Message
  polling : Bool
  polled : Bool
  completed : List TxEvent
  delivered : List Delivery

abbrev Pair := Ports Endpoint

namespace Endpoint

def initial (emulator : Emulator) : Endpoint :=
  ⟨.new,emulator,[],false,false,emulator.uart.completedTxEvents,[]⟩

def session (endpoint : Endpoint) : Nat := endpoint.link.localSessionCycle endpoint.emulator

def canAdvance (endpoint : Endpoint) : Prop := endpoint.link.canAdvance endpoint.emulator

def owed (endpoint : Endpoint) : List LinkEvent := endpoint.completed.filterMap endpoint.link.sessionEvent

def advance (endpoint : Endpoint) (emulator : Emulator) : Endpoint :=
  {endpoint with
    emulator := emulator
    polled := false
    completed := endpoint.completed ++
      emulator.uart.completedTxEvents.drop endpoint.emulator.uart.completedTxEvents.length}

def begun (endpoint : Endpoint) (rest : List Message) (outcome : Outcome) : Endpoint :=
  {endpoint with
    link := outcome.link
    emulator := outcome.emulator
    inbox := rest
    polling := true
    delivered := endpoint.delivered ++ outcome.delivered}

def finished (endpoint : Endpoint) (rest : List Message) (outcome : Outcome) : Endpoint :=
  {endpoint with
    link := outcome.link
    emulator := outcome.emulator
    inbox := rest
    polling := false
    polled := true
    delivered := endpoint.delivered ++ outcome.delivered}

def receive (endpoint : Endpoint) (messages : List Message) : Endpoint :=
  {endpoint with inbox := endpoint.inbox ++ messages}

end Endpoint

namespace Pair

def initial (one two : Emulator) : Pair := ⟨.initial one,.initial two⟩

/-- A side runs its guest when it may, or goes through one half of a poll. The bus clock does not come to its end.
What a drain finds is any part of what is on its way, in order. -/
inductive Step (bound : Nat) : Pair → Pair → Prop
  | advance (pair : Pair) (side : Player) (emulator : Emulator) (idle : (pair.get side).polling = false)
      (allowed : (pair.get side).canAdvance) (ran : (pair.get side).emulator.Ran bound emulator) (fits : emulator.Fits) :
      Step bound pair (pair.set side ((pair.get side).advance emulator))
  | beginPoll (pair : Pair) (side : Player) (arrived rest : List Message) (outcome : Outcome)
      (idle : (pair.get side).polling = false) (inbox : (pair.get side).inbox = arrived ++ rest)
      (polled : (pair.get side).link.beginPoll (pair.get side).emulator arrived = .ok outcome) :
      Step bound pair ((pair.set side ((pair.get side).begun rest outcome)).set (other side)
        ((pair.get (other side)).receive outcome.sent))
  | finishPoll (pair : Pair) (side : Player) (arrived rest : List Message) (outcome : Outcome)
      (busy : (pair.get side).polling = true) (inbox : (pair.get side).inbox = arrived ++ rest)
      (polled : (pair.get side).link.finishPoll (pair.get side).emulator arrived = .ok outcome) :
      Step bound pair (pair.set side ((pair.get side).finished rest outcome))

abbrev Run (bound : Nat) : Pair → Pair → Prop := Relation.ReflTransGen (Step bound)

end Pair

namespace RemoteLink

theorem localSessionCycle_eq {link next : RemoteLink} {emulator after : Emulator}
    (epoch : next.localEpochCycle = link.localEpochCycle) (clock : after.busCycles = emulator.busCycles) :
    next.localSessionCycle after = link.localSessionCycle emulator := by
  simp [localSessionCycle,epoch,clock]

theorem sendEvent_eq (link : RemoteLink) (event : TxEvent) :
    link.sendEvent event = (link.sessionEvent event).map .linkEvent := by
  unfold sendEvent sessionEvent
  cases link.localEpochCycle with
  | none => rfl
  | some epoch =>
    dsimp only
    split <;> rfl

theorem sessionEvent_eq {link next : RemoteLink} (epoch : next.localEpochCycle = link.localEpochCycle) :
    next.sessionEvent = link.sessionEvent := by
  funext event
  simp [sessionEvent,epoch]

/-- What a drain does to the link. -/
structure Drained (link : RemoteLink) (arrived : List Message) (next : RemoteLink) : Prop where
  connected : next.connected = link.connected
  epoch : next.localEpochCycle = link.localEpochCycle
  sent : next.lastSentWatermark = link.lastSentWatermark
  slot : next.nextRxDeliveryCycle = link.nextRxDeliveryCycle
  inbound : next.inboundEvents = link.inboundEvents ++ arrived.filterMap Message.linkEvent?
  remembers : link.remoteWatermark.getD 0 ≤ next.remoteWatermark.getD 0
  learns : ∀ watermark, .linkState watermark ∈ arrived → watermark ≤ next.remoteWatermark.getD 0
  heard : ∀ limit, link.remoteWatermark.getD 0 ≤ limit → (∀ watermark, .linkState watermark ∈ arrived → watermark ≤ limit) →
    next.remoteWatermark.getD 0 ≤ limit

theorem drainIncoming_spec (link : RemoteLink) (arrived : List Message) (honest : .disconnect ∉ arrived) :
    ∃ next, link.drainIncoming arrived = .ok next ∧ Drained link arrived next := by
  induction arrived generalizing link with
  | nil => exact ⟨link,rfl,rfl,rfl,rfl,rfl,by simp,le_rfl,by simp,fun _ bound _ => bound⟩
  | cons message arrived ih =>
    have rest : .disconnect ∉ arrived := fun member => honest (mem_cons_of_mem _ member)
    cases message with
    | disconnect => exact absurd mem_cons_self honest
    | hello =>
      obtain ⟨next,drained,facts⟩ := ih link rest
      refine ⟨next,drained,facts.connected,facts.epoch,facts.sent,facts.slot,facts.inbound,facts.remembers,?_,?_⟩
      · simpa using facts.learns
      · simpa using facts.heard
    | linkEvent event =>
      obtain ⟨next,drained,facts⟩ := ih {link with inboundEvents := link.inboundEvents ++ [event]} rest
      refine ⟨next,drained,facts.connected,facts.epoch,facts.sent,facts.slot,?_,facts.remembers,?_,?_⟩
      · simpa [Message.linkEvent?] using facts.inbound
      · simpa using facts.learns
      · simpa using facts.heard
    | linkState watermark =>
      have newest : (some ((link.remoteWatermark.map (max · watermark)).getD watermark)).getD 0 =
          max (link.remoteWatermark.getD 0) watermark := by
        cases link.remoteWatermark <;> simp
      obtain ⟨next,drained,facts⟩ := ih {link with
        remoteWatermark := some ((link.remoteWatermark.map (max · watermark)).getD watermark)} rest
      have remembers := facts.remembers
      rw [newest] at remembers
      refine ⟨next,drained,facts.connected,facts.epoch,facts.sent,facts.slot,facts.inbound,by omega,?_,?_⟩
      · intro heard member
        rcases mem_cons.mp member with first | later
        · cases first
          omega
        · exact facts.learns heard later
      · intro limit bound all
        refine facts.heard limit ?_ (fun heard member => all heard (mem_cons_of_mem _ member))
        have first := all watermark mem_cons_self
        rw [newest]
        omega

theorem scheduledDeliveryCycle_ge (link : RemoteLink) (event : LinkEvent) :
    event.completedCycle + remoteRxDelayCycles ≤ link.scheduledDeliveryCycle event := by
  unfold scheduledDeliveryCycle
  split <;> omega

theorem scheduledDeliveryCycle_slot (link : RemoteLink) (event : LinkEvent) (slot : Nat)
    (held : link.nextRxDeliveryCycle = some slot) : slot ≤ link.scheduledDeliveryCycle event := by
  simp only [scheduledDeliveryCycle,held]
  omega

end RemoteLink

def Delivery.slot (delivery : Delivery) : Nat := delivery.cycle + byteCycles delivery.event.baudBps

/-- Bytes handed over late enough after they were completed, and far enough apart. -/
structure Paced (delivered : List Delivery) : Prop where
  delayed : ∀ delivery ∈ delivered, delivery.event.completedCycle + remoteRxDelayCycles ≤ delivery.cycle
  spaced : delivered.IsChain fun earlier later => earlier.slot ≤ later.cycle

theorem Paced.append {delivered : List Delivery} (paced : Paced delivered) (delivery : Delivery)
    (delayed : delivery.event.completedCycle + remoteRxDelayCycles ≤ delivery.cycle)
    (spaced : ∀ last ∈ delivered.getLast?, last.slot ≤ delivery.cycle) : Paced (delivered ++ [delivery]) := by
  constructor
  · intro earlier member
    rcases mem_append.mp member with member | member
    · exact paced.delayed earlier member
    · rw [mem_singleton] at member
      subst member
      exact delayed
  · rw [isChain_append]
    refine ⟨paced.spaced,isChain_singleton _,?_⟩
    intro last member first head
    simp only [List.head?_cons,Option.mem_def,Option.some.injEq] at head
    subst head
    exact spaced last member

namespace RemoteLink

/-- What handing over the due bytes does, behind the bytes handed over before. -/
structure Delivers (link : RemoteLink) (emulator : Emulator) (log : List Delivery) (outcome : Outcome) : Prop where
  connected : outcome.link.connected = link.connected
  epoch : outcome.link.localEpochCycle = link.localEpochCycle
  sent : outcome.link.lastSentWatermark = link.lastSentWatermark
  remote : outcome.link.remoteWatermark = link.remoteWatermark
  clock : outcome.emulator.busCycles = emulator.busCycles
  queue : outcome.emulator.uart.completedTxEvents = emulator.uart.completedTxEvents
  bytes : outcome.delivered.map Delivery.event ++ outcome.link.inboundEvents = link.inboundEvents
  slot : outcome.link.nextRxDeliveryCycle = (log ++ outcome.delivered).getLast?.map Delivery.slot
  paced : Paced (log ++ outcome.delivered)
  prompt : ∀ event ∈ outcome.link.inboundEvents.head?,
    link.localSessionCycle emulator < outcome.link.scheduledDeliveryCycle event

theorem deliverDueEvents_spec (link : RemoteLink) (emulator : Emulator) (log : List Delivery)
    (fair : ∀ event ∈ link.inboundEvents, FairBaud event.baudBps)
    (slot : link.nextRxDeliveryCycle = log.getLast?.map Delivery.slot) (paced : Paced log) :
    Delivers link emulator log (link.deliverDueEvents emulator) := by
  rcases queue : link.inboundEvents with _ | ⟨event,rest⟩
  · have idle : link.deliverDueEvents emulator = ⟨{link with inboundEvents := []},emulator,[],[]⟩ := by
      rw [deliverDueEvents,queue,deliverFrom]
    rw [idle]
    exact ⟨rfl,rfl,rfl,rfl,rfl,rfl,by simp [queue],by simpa using slot,by simpa using paced,by simp⟩
  · by_cases due : link.scheduledDeliveryCycle event ≤ link.localSessionCycle emulator
    · have positive := byteCycles_pos (fair event (by simp [queue]))
      have handed : link.deliverDueEvents emulator =
          ⟨{link with
              inboundEvents := rest
              nextRxDeliveryCycle := some (link.localSessionCycle emulator + byteCycles event.baudBps)
              recordedReplayEvents := link.recordedReplayEvents ++
                [.wonderSwanLink emulator.frameCount emulator.cpuCycles
                  (.remoteByte event.generation event.baudBps event.byte)]},
            emulator.receiveLinkByte event.byte,[⟨event,link.localSessionCycle emulator⟩],[]⟩ := by
        rw [deliverDueEvents,queue,deliverFrom,if_pos due,if_neg (by decide)]
        cases rest with
        | nil => rfl
        | cons next rest =>
          rw [deliverFrom,if_neg]
          simp only [scheduledDeliveryCycle]
          omega
      rw [handed]
      refine ⟨rfl,rfl,rfl,rfl,rfl,by simp,by simp [queue],by simp [Delivery.slot],?_,?_⟩
      · refine paced.append _ ((link.scheduledDeliveryCycle_ge event).trans due) ?_
        intro last member
        have held : link.nextRxDeliveryCycle = some last.slot := by rw [slot,Option.mem_def.mp member,Option.map_some]
        exact (link.scheduledDeliveryCycle_slot event _ held).trans due
      · intro next _
        simp only [scheduledDeliveryCycle]
        omega
    · have early : link.deliverDueEvents emulator = ⟨{link with inboundEvents := event::rest},emulator,[],[]⟩ := by
        rw [deliverDueEvents,queue,deliverFrom,if_neg due]
      rw [early]
      refine ⟨rfl,rfl,rfl,rfl,rfl,rfl,by simp [queue],by simpa using slot,by simpa using paced,?_⟩
      intro first head
      simp only [List.head?_cons,Option.mem_def,Option.some.injEq] at head
      subst head
      exact Nat.lt_of_not_le due

end RemoteLink
end ZeffBoy.Link.WonderSwan
