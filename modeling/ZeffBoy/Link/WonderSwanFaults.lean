import ZeffBoy.Link.WonderSwan

/-! The remote link of a WonderSwan with the arithmetic of its machine words.
A poll comes back with a result or an error, unless a division or a product in it faults. Everything the peer chooses
goes through saturating sums, except the baud rate, which a byte's time is divided by. -/
namespace ZeffBoy.Link.WonderSwan
open Library Replay

def u64Max : Nat := 2^64 - 1

def checkedByteCycles (baudBps : UInt32) : Except String Nat := do
  let bit ← checkedDiv cpuClockHz baudBps.toNat "attempt to divide by zero"
  checkedMul bit 10 "attempt to multiply with overflow"

/-- A packet that has arrived, or what receiving it failed with. -/
abbrev Arrival := Except LinkSessionError (LinkPacketKind × Bytes)

/-- What the transport does during a poll: what its two drains find, and which send it refuses, if any. -/
structure Occasion where
  first : List Arrival
  refused : Option (Nat × LinkSessionError)
  second : List Arrival

def Emulator.dropLinkTxEvents (emulator : Emulator) (count : Nat) : Emulator where
  __ := emulator
  uart := {emulator.uart with completedTxEvents := emulator.uart.completedTxEvents.drop count}
  stamped := fun event member => emulator.stamped event (List.mem_of_mem_drop member)

namespace RemoteLink

def receive (link : RemoteLink) : List Arrival → RemoteLink × Except LinkSessionError Unit
  | [] => (link,.ok ())
  | .error error::_ => (link,.error error)
  | .ok (kind,payload)::rest =>
    match Message.decode kind payload with
    | .error error => (link,.error error)
    | .ok (.linkEvent event) => receive {link with inboundEvents := link.inboundEvents ++ [event]} rest
    | .ok .disconnect => ({link with connected := false},.error (.transport .disconnected))
    | .ok (.linkState watermark) =>
      receive {link with remoteWatermark := some ((link.remoteWatermark.map (max · watermark)).getD watermark)} rest
    | .ok .hello => receive link rest

def scheduledCycle (link : RemoteLink) (event : LinkEvent) : Nat :=
  let baseCycle := saturatingAdd event.completedCycle remoteRxDelayCycles
  (link.nextRxDeliveryCycle.map (max baseCycle)).getD baseCycle

def allowedCycle (link : RemoteLink) : Nat := saturatingAdd (link.remoteWatermark.getD 0) maxRemoteLeadCycles

-- `deliver_due_events`, with the count of delivered bytes.
def deliverChecked (localCycle : Nat) : List LinkEvent → Nat → RemoteLink → Emulator → Except String (RemoteLink × Emulator)
  | [],_,link,emulator => .ok ({link with inboundEvents := []},emulator)
  | event::rest,delivered,link,emulator =>
    if link.scheduledCycle event ≤ localCycle then
      if maxRxDeliveriesPerPoll ≤ delivered then do
        let byteTime ← checkedByteCycles event.baudBps
        return ({link with
          inboundEvents := event::rest
          nextRxDeliveryCycle := some (saturatingAdd localCycle byteTime)},emulator)
      else do
        let byteTime ← checkedByteCycles event.baudBps
        deliverChecked localCycle rest (delivered + 1)
          {link with
            nextRxDeliveryCycle := some (saturatingAdd localCycle byteTime)
            recordedReplayEvents := link.recordedReplayEvents ++
              [.wonderSwanLink emulator.frameCount emulator.cpuCycles
                (.remoteByte event.generation event.baudBps event.byte)]}
          (emulator.receiveLinkByte event.byte)
    else .ok ({link with inboundEvents := event::rest},emulator)

def deliverDueChecked (link : RemoteLink) (emulator : Emulator) : Except String (RemoteLink × Emulator) :=
  deliverChecked (link.localSessionCycle emulator) link.inboundEvents 0 link emulator

/-- How many completed bytes are taken and how many of them sent, up to a send that is refused. -/
def sendEvents (link : RemoteLink) (refused : Option (Nat × LinkSessionError)) :
    List TxEvent → Nat → Nat → Except String (Nat × Nat × Except LinkSessionError Unit)
  | [],taken,sent => .ok (taken,sent,.ok ())
  | event::rest,taken,sent =>
    match link.localEpochCycle with
    | none => sendEvents link refused rest (taken + 1) sent
    | some epoch =>
      if event.completedCycle ≤ epoch then sendEvents link refused rest (taken + 1) sent
      else do
        let _ ← checkedSub event.completedCycle epoch "attempt to subtract with overflow"
        match refused with
        | some (place,error) =>
          if place = sent then .ok (taken + 1,sent,.error error) else sendEvents link refused rest (taken + 1) (sent + 1)
        | none => sendEvents link refused rest (taken + 1) (sent + 1)

def sendMark (link : RemoteLink) (emulator : Emulator) (refused : Option (Nat × LinkSessionError)) (sent : Nat) :
    RemoteLink × Except LinkSessionError Unit :=
  match link.sendWatermark emulator with
  | ([],_) => (link,.ok ())
  | (_::_,marked) =>
    match refused with
    | some (place,error) => if place = sent then (link,.error error) else (marked,.ok ())
    | none => (marked,.ok ())

/-- The part of a poll behind the first delivery. -/
def sendAndReceive (link : RemoteLink) (emulator : Emulator) (occasion : Occasion) :
    Except String (RemoteLink × Emulator × Except LinkSessionError Unit) := do
  let (taken,sent,done) ← link.sendEvents occasion.refused emulator.uart.completedTxEvents 0 0
  let emulator := emulator.dropLinkTxEvents taken
  match done with
  | .error error => return (link,emulator,.error error)
  | .ok () =>
    match link.sendMark emulator occasion.refused sent with
    | (link,.error error) => return (link,emulator,.error error)
    | (link,.ok ()) =>
      let (link,drained) := link.receive occasion.second
      return (link,emulator,drained)

/-- `poll_emulator`. -/
def poll (link : RemoteLink) (emulator : Emulator) (occasion : Occasion) :
    Except String (RemoteLink × Emulator × Except LinkSessionError Unit) :=
  if !link.connected then .ok (link,emulator,.error (.transport .disconnected))
  else
    let (link,emulator) := link.initializeEpoch emulator
    match link.receive occasion.first with
    | (link,.error error) => .ok (link,emulator,.error error)
    | (link,.ok ()) => do
      let (link,emulator) ← link.deliverDueChecked emulator
      match ← link.sendAndReceive emulator occasion with
      | (link,emulator,.error error) => return (link,emulator,.error error)
      | (link,emulator,.ok ()) =>
        let (link,emulator) ← link.deliverDueChecked emulator
        return (link,emulator,.ok ())

/-- A delivery pass divides by baud rates other than zero: by that of the first event, if it is due, and by that of
the one behind it, if the first takes no time. -/
def Payable (link : RemoteLink) (localCycle : Nat) : Prop :=
  ∀ event rest, link.inboundEvents = event::rest → link.scheduledCycle event ≤ localCycle →
    event.baudBps ≠ 0 ∧
    ∀ next later, rest = next::later → saturatingAdd localCycle (byteCycles event.baudBps) ≤ localCycle →
      saturatingAdd next.completedCycle remoteRxDelayCycles ≤ localCycle → next.baudBps ≠ 0

/-- Both delivery passes of a poll, as far as it gets. -/
def PollPayable (link : RemoteLink) (emulator : Emulator) (occasion : Occasion) : Prop :=
  link.connected = true → ∀ queued, (link.initializeEpoch emulator).1.receive occasion.first = (queued,.ok ()) →
    queued.Payable (queued.localSessionCycle (link.initializeEpoch emulator).2) ∧
    ∀ delivered guest, queued.deliverDueChecked (link.initializeEpoch emulator).2 = .ok (delivered,guest) →
      ∀ later machine, delivered.sendAndReceive guest occasion = .ok (later,machine,.ok ()) →
        later.Payable (later.localSessionCycle machine)

theorem checkedByteCycles_eq {baudBps : UInt32} (nonzero : baudBps ≠ 0) : checkedByteCycles baudBps = .ok (byteCycles baudBps) := by
  have positive : baudBps.toNat ≠ 0 := fun none => nonzero (UInt32.toNat_inj.mp none)
  have small : cpuClockHz / baudBps.toNat ≤ cpuClockHz := Nat.div_le_self _ _
  have fits : cpuClockHz / baudBps.toNat * 10 < 2^64 := by
    unfold cpuClockHz at small ⊢
    omega
  simp only [checkedByteCycles,checkedDiv,positive,if_false,ok_bind]
  exact checkedMul_pos fits _

theorem checkedByteCycles_zero : checkedByteCycles 0 = .error "attempt to divide by zero" := rfl

theorem checkedByteCycles_iff (baudBps : UInt32) : (∃ cycles, checkedByteCycles baudBps = .ok cycles) ↔ baudBps ≠ 0 := by
  constructor
  · intro ⟨cycles,paid⟩ zero
    rw [zero,checkedByteCycles_zero] at paid
    cases paid
  · intro nonzero
    exact ⟨_,checkedByteCycles_eq nonzero⟩

theorem deliverChecked_one (localCycle : Nat) (events : List LinkEvent) (link : RemoteLink) (emulator : Emulator) :
    (∃ result, deliverChecked localCycle events 1 link emulator = .ok result) ↔
      ∀ next later, events = next::later → link.scheduledCycle next ≤ localCycle → next.baudBps ≠ 0 := by
  cases events with
  | nil => simp [deliverChecked]
  | cons next later =>
    rw [deliverChecked]
    by_cases due : link.scheduledCycle next ≤ localCycle
    · rw [if_pos due,if_pos (show maxRxDeliveriesPerPoll ≤ 1 from le_rfl)]
      constructor
      · intro ⟨result,deferred⟩ _ _ same _
        cases same
        obtain ⟨cycles,paid,_⟩ := bind_ok.mp deferred
        exact (checkedByteCycles_iff _).mp ⟨cycles,paid⟩
      · intro payable
        rw [checkedByteCycles_eq (payable next later rfl due)]
        exact ⟨_,rfl⟩
    · rw [if_neg due]
      exact ⟨fun _ _ _ same soon => absurd (by cases same; exact soon) due,fun _ => ⟨_,rfl⟩⟩

theorem deliverDueChecked_iff (link : RemoteLink) (emulator : Emulator) :
    (∃ result, link.deliverDueChecked emulator = .ok result) ↔ link.Payable (link.localSessionCycle emulator) := by
  unfold deliverDueChecked Payable
  cases queue : link.inboundEvents with
  | nil => simp [deliverChecked]
  | cons event rest =>
    rw [deliverChecked]
    by_cases due : link.scheduledCycle event ≤ link.localSessionCycle emulator
    · rw [if_pos due,if_neg (show ¬maxRxDeliveriesPerPoll ≤ 0 by decide)]
      constructor
      · intro ⟨result,delivered⟩ _ _ same _
        cases same
        obtain ⟨cycles,paid,behind⟩ := bind_ok.mp delivered
        have nonzero := (checkedByteCycles_iff _).mp ⟨cycles,paid⟩
        rw [checkedByteCycles_eq nonzero,Except.ok.injEq] at paid
        refine ⟨nonzero,fun next later same instant soon => ?_⟩
        refine (deliverChecked_one _ _ _ _).mp ⟨result,behind⟩ next later same ?_
        rw [← paid]
        exact max_le soon instant
      · intro payable
        obtain ⟨nonzero,behind⟩ := payable event rest rfl due
        rw [checkedByteCycles_eq nonzero]
        refine (deliverChecked_one _ _ _ _).mpr fun next later same due => ?_
        exact behind next later same ((le_max_right _ _).trans due) ((le_max_left _ _).trans due)
    · rw [if_neg due]
      refine ⟨fun _ _ _ same soon => ?_,fun _ => ⟨_,rfl⟩⟩
      cases same
      exact absurd soon due

theorem sendEvents_ok (link : RemoteLink) (refused : Option (Nat × LinkSessionError)) (events : List TxEvent) (taken sent : Nat) :
    ∃ result, link.sendEvents refused events taken sent = .ok result := by
  induction events generalizing taken sent with
  | nil => exact ⟨_,rfl⟩
  | cons event rest ih =>
    unfold sendEvents
    split
    · exact ih _ _
    · split
      · exact ih _ _
      · rename_i epoch _ ahead
        rw [checkedSub_pos (show epoch ≤ event.completedCycle by omega)]
        split
        · split
          · exact ⟨_,rfl⟩
          · exact ih _ _
        · exact ih _ _

theorem sendAndReceive_ok (link : RemoteLink) (emulator : Emulator) (occasion : Occasion) :
    ∃ result, link.sendAndReceive emulator occasion = .ok result := by
  obtain ⟨⟨taken,sent,done⟩,sends⟩ := link.sendEvents_ok occasion.refused emulator.uart.completedTxEvents 0 0
  unfold sendAndReceive
  rw [sends,ok_bind]
  dsimp only
  split
  · exact ⟨_,rfl⟩
  · split <;> exact ⟨_,rfl⟩

theorem poll_iff (link : RemoteLink) (emulator : Emulator) (occasion : Occasion) :
    (∃ result, link.poll emulator occasion = .ok result) ↔ link.PollPayable emulator occasion := by
  unfold poll PollPayable
  cases live : link.connected with
  | false => simp
  | true =>
    simp only [Bool.not_true,Bool.false_eq_true,if_false,forall_const]
    rcases link.initializeEpoch emulator with ⟨opened,started⟩
    dsimp only
    rcases opened.receive occasion.first with ⟨queued,drained⟩
    cases drained with
    | error error => exact ⟨fun _ _ same => (by cases same),fun _ => ⟨_,rfl⟩⟩
    | ok _ =>
      dsimp only
      constructor
      · intro ⟨result,polled⟩ _ same
        cases same
        obtain ⟨⟨delivered,guest⟩,first,rest⟩ := bind_ok.mp polled
        refine ⟨(deliverDueChecked_iff _ _).mp ⟨_,first⟩,fun _ _ again later machine passed => ?_⟩
        cases first.symm.trans again
        dsimp only at rest
        rw [passed,ok_bind] at rest
        obtain ⟨_,second,_⟩ := bind_ok.mp rest
        exact (deliverDueChecked_iff _ _).mp ⟨_,second⟩
      · intro payable
        obtain ⟨first,second⟩ := payable queued rfl
        obtain ⟨⟨delivered,guest⟩,passed⟩ := (deliverDueChecked_iff _ _).mpr first
        obtain ⟨⟨later,machine,done⟩,sent⟩ := delivered.sendAndReceive_ok guest occasion
        rw [passed,ok_bind]
        dsimp only
        rw [sent,ok_bind]
        cases done with
        | error error => exact ⟨_,rfl⟩
        | ok _ =>
          obtain ⟨⟨link,emulator⟩,ends⟩ := (deliverDueChecked_iff _ _).mpr (second delivered guest passed later machine sent)
          dsimp only
          rw [ends]
          exact ⟨_,rfl⟩

/-- What happens to a link: polls, at whatever the guest has done since, and the calls of the frontend. -/
inductive Step
  | poll (emulator : Emulator) (occasion : Occasion)
  | takeReplayEvents
  | disconnect

def take (link : RemoteLink) : Step → Except String RemoteLink
  | .poll emulator occasion => (link.poll emulator occasion).map Prod.fst
  | .takeReplayEvents => .ok {link with recordedReplayEvents := []}
  | .disconnect => .ok {link with connected := false}

/-- A step comes back, and the cycles that deliveries and the guest wait for are machine words. -/
structure Robust (link : RemoteLink) (step : Step) : Prop where
  returns : ∃ next, link.take step = .ok next
  scheduled : ∀ event, link.scheduledCycle event ≤ u64Max
  allowed : link.allowedCycle ≤ u64Max

def StepPayable (link : RemoteLink) : Step → Prop
  | .poll emulator occasion => link.PollPayable emulator occasion
  | _ => True

def Along (holds : RemoteLink → Step → Prop) : RemoteLink → List Step → Prop
  | _,[] => True
  | link,step::rest => holds link step ∧ ∀ next, link.take step = .ok next → Along holds next rest

def Worded (link : RemoteLink) : Prop := ∀ cycle, link.nextRxDeliveryCycle = some cycle → cycle ≤ u64Max

theorem Worded.scheduled {link : RemoteLink} (worded : link.Worded) (event : LinkEvent) : link.scheduledCycle event ≤ u64Max := by
  unfold scheduledCycle
  cases next : link.nextRxDeliveryCycle with
  | none => exact saturatingAdd_le
  | some cycle => exact max_le saturatingAdd_le (worded cycle next)

variable {link later : RemoteLink} {emulator guest : Emulator}

theorem Worded.congr (worded : link.Worded) (same : later.nextRxDeliveryCycle = link.nextRxDeliveryCycle) :
    later.Worded := fun cycle next => worded cycle (same.symm.trans next)

theorem receive_next (link : RemoteLink) (arrivals : List Arrival) :
    (link.receive arrivals).1.nextRxDeliveryCycle = link.nextRxDeliveryCycle := by
  fun_induction receive link arrivals with
  | case1 => rfl
  | case2 => rfl
  | case3 => rfl
  | case4 link kind payload rest event read ih => exact ih
  | case5 => rfl
  | case6 link kind payload rest watermark read ih => exact ih
  | case7 link kind payload rest read ih => exact ih

theorem initializeEpoch_next (link : RemoteLink) (emulator : Emulator) :
    (link.initializeEpoch emulator).1.nextRxDeliveryCycle = link.nextRxDeliveryCycle := by
  unfold initializeEpoch
  split <;> rfl

theorem sendWatermark_cases (link : RemoteLink) (emulator : Emulator) :
    link.sendWatermark emulator = ([],link) ∨
      ∃ message, link.sendWatermark emulator =
        ([message],{link with lastSentWatermark := some (link.localSessionCycle emulator)}) := by
  unfold sendWatermark
  dsimp only
  split
  · exact .inr ⟨_,rfl⟩
  · split
    · exact .inr ⟨_,rfl⟩
    · exact .inl rfl

theorem sendWatermark_next (link : RemoteLink) (emulator : Emulator) :
    (link.sendWatermark emulator).2.nextRxDeliveryCycle = link.nextRxDeliveryCycle := by
  obtain same | ⟨message,same⟩ := link.sendWatermark_cases emulator <;> rw [same]

theorem sendMark_next (link : RemoteLink) (emulator : Emulator) (refused : Option (Nat × LinkSessionError)) (sent : Nat) :
    (link.sendMark emulator refused sent).1.nextRxDeliveryCycle = link.nextRxDeliveryCycle := by
  unfold sendMark
  split
  · rfl
  · rename_i marked marking
    have same := link.sendWatermark_next emulator
    rw [marking] at same
    split
    · split
      · rfl
      · exact same
    · exact same

theorem Worded.deliver {localCycle : Nat} {events : List LinkEvent} {delivered : Nat}
    (worded : link.Worded)
    (passed : deliverChecked localCycle events delivered link emulator = .ok (later,guest)) : later.Worded := by
  have rescheduled {link : RemoteLink} {byteTime : Nat} (set : link.nextRxDeliveryCycle = some (saturatingAdd localCycle byteTime)) :
      link.Worded := by
    intro cycle next
    cases set.symm.trans next
    exact saturatingAdd_le
  induction events generalizing delivered link emulator with
  | nil =>
    cases passed
    exact worded
  | cons event rest ih =>
    rw [deliverChecked] at passed
    split at passed
    · split at passed
      · obtain ⟨byteTime,_,deferred⟩ := bind_ok.mp passed
        cases deferred
        exact rescheduled rfl
      · obtain ⟨byteTime,_,goesOn⟩ := bind_ok.mp passed
        exact ih (rescheduled rfl) goesOn
    · cases passed
      exact worded

theorem Worded.sent {occasion : Occasion}
    {result : Except LinkSessionError Unit} (worded : link.Worded)
    (passed : link.sendAndReceive emulator occasion = .ok (later,guest,result)) : later.Worded := by
  obtain ⟨⟨taken,sent,done⟩,_,rest⟩ := bind_ok.mp passed
  dsimp only at rest
  split at rest
  · cases rest
    exact worded
  · have marks := link.sendMark_next (emulator.dropLinkTxEvents taken) occasion.refused sent
    split at rest
    · rename_i marked error marking
      rw [marking] at marks
      cases rest
      exact worded.congr marks
    · rename_i marked marking
      rw [marking] at marks
      cases rest
      exact (worded.congr marks).congr (receive_next _ _)

theorem Worded.polled {occasion : Occasion}
    {result : Except LinkSessionError Unit} (worded : link.Worded)
    (passed : link.poll emulator occasion = .ok (later,guest,result)) : later.Worded := by
  unfold poll at passed
  split at passed
  · cases passed
    exact worded
  · have opened := worded.congr (link.initializeEpoch_next emulator)
    have drained := opened.congr (receive_next (link.initializeEpoch emulator).1 occasion.first)
    dsimp only at passed
    split at passed
    · rename_i queued error draining
      rw [draining] at drained
      cases passed
      exact drained
    · rename_i queued draining
      rw [draining] at drained
      obtain ⟨⟨delivered,machine⟩,first,rest⟩ := bind_ok.mp passed
      dsimp only at rest
      obtain ⟨⟨sent,after,done⟩,sending,final⟩ := bind_ok.mp rest
      have half := (Worded.deliver drained first).sent sending
      cases done with
      | error error =>
        cases final
        exact half
      | ok _ =>
        obtain ⟨⟨ends,last⟩,second,same⟩ := bind_ok.mp final
        cases same
        exact Worded.deliver half second

theorem Worded.taken (worded : link.Worded) {step : Step} (taken : link.take step = .ok later) :
    later.Worded := by
  cases step with
  | poll emulator occasion =>
    obtain ⟨⟨next,guest,result⟩,polled,same⟩ := map_eq_ok.mp taken
    cases same
    exact worded.polled polled
  | takeReplayEvents =>
    cases taken
    exact worded
  | disconnect =>
    cases taken
    exact worded

theorem returns_iff (link : RemoteLink) (step : Step) : (∃ next, link.take step = .ok next) ↔ link.StepPayable step := by
  cases step with
  | poll emulator occasion =>
    refine Iff.trans ⟨?_,?_⟩ (link.poll_iff emulator occasion)
    · intro ⟨next,taken⟩
      obtain ⟨result,polled,_⟩ := map_eq_ok.mp taken
      exact ⟨result,polled⟩
    · intro ⟨result,polled⟩
      exact ⟨result.1,map_eq_ok.mpr ⟨result,polled,rfl⟩⟩
  | takeReplayEvents => exact ⟨fun _ => trivial,fun _ => ⟨_,rfl⟩⟩
  | disconnect => exact ⟨fun _ => trivial,fun _ => ⟨_,rfl⟩⟩

theorem Worded.along {link : RemoteLink} (worded : link.Worded) (steps : List Step) :
    Along Robust link steps ↔ Along StepPayable link steps := by
  induction steps generalizing link with
  | nil => exact Iff.rfl
  | cons step rest ih =>
    constructor
    · intro ⟨robust,later⟩
      exact ⟨(link.returns_iff step).mp robust.returns,fun next taken => (ih (worded.taken taken)).mp (later next taken)⟩
    · intro ⟨payable,later⟩
      exact ⟨⟨(link.returns_iff step).mpr payable,worded.scheduled,saturatingAdd_le⟩,
        fun next taken => (ih (worded.taken taken)).mpr (later next taken)⟩

theorem link_is_robust_iff (steps : List Step) : Along Robust new steps ↔ Along StepPayable new steps :=
  Worded.along (fun _ none => by cases none) steps

def silentByte : Step :=
  .poll .powered ⟨[.ok (.linkEvent,encodeLinkEvent ⟨0,0,0,0x42⟩)],none,[]⟩

def dueLater : Step := .poll ⟨3200,0,0,0,.empty,by simp [Uart.empty]⟩ ⟨[],none,[]⟩

theorem zero_baud_divides : ¬∀ steps, Along Robust new steps := by
  intro robust
  have queued : new.take silentByte = .ok ⟨true,some 0,some 0,none,[⟨0,0,0,0x42⟩],none,[]⟩ := rfl
  obtain ⟨next,taken⟩ := ((robust [silentByte,dueLater]).2 _ queued).1.returns
  have faulted : take ⟨true,some 0,some 0,none,[⟨0,0,0,0x42⟩],none,[]⟩ dueLater = .error "attempt to divide by zero" := rfl
  cases faulted.symm.trans taken

end RemoteLink
end ZeffBoy.Link.WonderSwan
