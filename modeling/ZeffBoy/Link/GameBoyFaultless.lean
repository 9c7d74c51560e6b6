import ZeffBoy.Link.GameBoyExchange

/-! What a turn of one side does to the exchanges of both, and what holds in every run. -/
namespace ZeffBoy.Link.GameBoy
open Library Netplay Replay List

theorem startOf_start {bytes : Bytes} {transferId tick : UInt64} {action : GameBoyLinkAction}
    (read : eventOf bytes = some (.masterStart transferId tick action)) :
    startOf bytes = some (transferId,action) ∧ replyOf bytes = none := by
  rw [startOf,replyOf,read]
  exact ⟨rfl,rfl⟩

theorem replyOf_reply {bytes : Bytes} {transferId tick : UInt64} {reply : GameBoyLinkReply}
    (read : eventOf bytes = some (.transferReply transferId tick reply)) :
    startOf bytes = none ∧ replyOf bytes = some (transferId,reply.outByte) := by
  rw [startOf,replyOf,read]
  exact ⟨rfl,rfl⟩

namespace Endpoint

variable {endpoint : Endpoint} {outcome : Outcome} {packet : Option Bytes} {packets : List Bytes}

theorem arrival_head {arrived : Bool} {bytes : Bytes} (taken : endpoint.arrival arrived = some bytes) :
    endpoint.inbox = bytes::endpoint.inbox.tail := by
  unfold arrival at taken
  split at taken
  · exact (List.cons_head?_tail taken).symm
  · cases taken

variable {peer : Endpoint}

theorem arrival_expected (own : endpoint.Side) (outward : Lane endpoint peer)
    (inward : Lane peer endpoint) {bytes : Bytes} (first : endpoint.inbox = bytes::endpoint.inbox.tail) :
    Expected endpoint bytes := by
  obtain ⟨event,read⟩ := own.wire bytes (by rw [first]; exact mem_cons_self)
  cases event with
  | masterStart transferId tick action =>
    have member : (transferId,action) ∈ endpoint.inbox.filterMap startOf := by
      rw [first,filterMap_cons_some (startOf_start read).1]
      exact mem_cons_self
    exact .inl ⟨transferId,tick,action,read,inward.periods _ member⟩
  | transferReply transferId tick reply =>
    have replies : endpoint.inbox.filterMap replyOf = (transferId,reply.outByte)::endpoint.inbox.tail.filterMap replyOf := by
      rw [first,filterMap_cons_some (replyOf_reply read).2]
      rfl
    cases outward.exchange with
    | settled _ _ _ silent => simp [replies] at silent
    | asked _ _ _ _ silent => simp [replies] at silent
    | answered transfer byte held logged last _ one =>
      rw [replies] at one
      obtain ⟨same,_⟩ := List.cons.inj one
      obtain ⟨rfl,_⟩ := Prod.mk.inj same
      refine .inr ⟨_,tick,reply,transfer,read,held,rfl,?_⟩
      rw [logged,List.getLast?_map,last]
      rfl

theorem polled_side (own : endpoint.Side) (packet : Option Bytes) (stage : Stage)
    (kept : Kept endpoint outcome) : (endpoint.polled packet stage outcome).Side := by
  refine ⟨kept.connected,kept.system,kept.clock ▸ own.clock,fun _ => kept.present,kept.coherent,kept.answered,?_⟩
  intro bytes member
  unfold polled at member
  dsimp only at member
  split at member
  · exact own.wire bytes (mem_of_mem_tail member)
  · exact own.wire bytes member

theorem Turn.spoken (turn : Turn endpoint outcome packet) :
    ∀ bytes ∈ outcome.sent, ∃ event, eventOf bytes = some event := by
  cases turn with
  | quiet _ _ _ _ silent => simp [silent]
  | start _ _ _ _ _ _ _ _ _ answer sent _ _ spoken => simp [sent,spoken]
  | reply _ _ _ _ _ _ _ _ silent => simp [silent]
  | announce _ _ _ _ _ _ packet sent _ spoken => simp [sent,spoken]

theorem receive_side (own : endpoint.Side)
    (spoken : ∀ bytes ∈ packets, ∃ event, eventOf bytes = some event) : (endpoint.receive packets).Side := by
  refine ⟨own.connected,own.system,own.clock,own.linked,own.coherent,own.answered,?_⟩
  intro bytes member
  rcases mem_append.mp member with member | member
  · exact own.wire bytes member
  · exact spoken bytes member

@[simp] theorem receive_nil (endpoint : Endpoint) : endpoint.receive [] = endpoint := by
  simp [receive]

theorem Lane.receive_responder {master responder : Endpoint} (lane : Lane master responder)
    (quiet : packets.filterMap startOf = []) : Lane master (responder.receive packets) := by
  refine lane.keep_responder rfl ?_
  rw [receive,filterMap_append,quiet,append_nil]

theorem Lane.receive_master {master responder : Endpoint} (own : master.Side) (lane : Lane master responder)
    (silent : packets.filterMap replyOf = []) : Lane (master.receive packets) responder := by
  refine lane.keep_master own rfl rfl ?_ (.inl rfl) (.inl rfl)
  rw [receive,filterMap_append,silent,append_nil]

theorem shiftedBy_holds {link : RemoteLink} {emulator : Emulator}
    (holds : endpoint.emulator.serial.pendingLinkByte.isSome → emulator.serial.pendingLinkByte ≠ none) :
    endpoint.shiftedBy link emulator = endpoint.shifted := by
  rw [shiftedBy,if_neg]
  rintro ⟨held,gone⟩
  exact holds held gone

theorem turn_outward (own : endpoint.Side) (lane : Lane endpoint peer)
    (turn : Turn endpoint outcome packet) (stage : Stage)
    (first : ∀ bytes, packet = some bytes → endpoint.inbox = bytes::endpoint.inbox.tail) :
    Lane (endpoint.polled packet stage outcome) (peer.receive outcome.sent) := by
  cases turn with
  | quiet pending announced response holds silent =>
    rw [silent,receive_nil]
    exact lane.keep_master own pending announced rfl (.inl response) (.inl (shiftedBy_holds holds))
  | start bytes transferId tick action read pending announced response holds answer sent answerTick reply spoken honest =>
    rw [sent]
    have kept : Lane (endpoint.polled (some bytes) stage outcome) peer := by
      refine lane.keep_master own pending announced ?_ (.inl response) (.inl (shiftedBy_holds holds))
      rw [first bytes rfl,filterMap_cons_none (startOf_start read).2]
      rfl
    exact kept.receive_responder (filterMap_cons_none (replyOf_reply spoken).1)
  | reply bytes transferId tick reply read pending announced taken silent =>
    rw [silent,receive_nil]
    have replies : endpoint.inbox.filterMap replyOf = (transferId,reply.outByte)::endpoint.inbox.tail.filterMap replyOf := by
      rw [first bytes rfl,filterMap_cons_some (replyOf_reply read).2]
      rfl
    cases lane.exchange with
    | settled _ _ _ empty => simp [replies] at empty
    | asked _ _ _ _ empty => simp [replies] at empty
    | answered transfer byte held logged last quiet one =>
      rw [replies] at one
      obtain ⟨same,rest⟩ := List.cons.inj one
      obtain ⟨rfl,rfl⟩ := Prod.mk.inj same
      have place := Lane.last_logged logged last
      refine ⟨.settled pending (announced.trans logged) quiet rest,lane.periods,?_,?_⟩
      · intro byte response
        rcases taken with ⟨now,_⟩ | ⟨now,_⟩
        · cases now.symm.trans response
          exact ⟨_,last⟩
        · cases now.symm.trans response
      · intro index byte member
        change (index,byte) ∈ endpoint.shiftedBy outcome.link outcome.emulator at member
        change ∃ transferId, outcome.link.announced[index]? = some transferId ∧ _
        rw [announced]
        unfold shiftedBy at member
        split at member
        · rename_i gone
          rcases mem_append.mp member with member | member
          · exact lane.shifted index byte member
          · obtain ⟨rfl,rfl⟩ := Prod.mk.inj (mem_singleton.mp member)
            rcases taken with ⟨_,holds⟩ | ⟨_,_,byte⟩
            · exact absurd gone.2 holds
            · rw [announced,byte]
              exact ⟨_,place⟩
        · exact lane.shifted index byte member
  | announce waited transfer pending announced response holds packet sent tick spoken positive short =>
    rw [sent]
    cases lane.exchange with
    | asked open_ held _ _ _ => cases waited.symm.trans held
    | answered open_ _ held _ _ _ _ => cases waited.symm.trans held
    | settled _ logged quiet silent =>
      have starts : (peer.receive [packet]).inbox.filterMap startOf = [(transfer.id,transfer.action)] := by
        rw [receive,filterMap_append,quiet,filterMap_cons_some (startOf_start spoken).1]
        rfl
      refine ⟨.asked transfer pending ?_ starts silent,?_,?_,?_⟩
      · exact announced.trans (congrArg (· ++ _) logged)
      · rw [starts]
        intro start member
        rw [mem_singleton.mp member]
        exact ⟨positive,short⟩
      · intro byte held
        cases response.symm.trans held
      · intro index byte member
        change (index,byte) ∈ endpoint.shiftedBy outcome.link outcome.emulator at member
        rw [shiftedBy_holds (fun _ => holds)] at member
        obtain ⟨transferId,place,handled⟩ := lane.shifted index byte member
        refine ⟨transferId,?_,handled⟩
        change outcome.link.announced[index]? = _
        obtain ⟨bound,_⟩ := List.getElem?_eq_some_iff.mp place
        rw [announced,List.getElem?_append_left bound]
        exact place

theorem turn_inward (other : peer.Side) (lane : Lane peer endpoint)
    (turn : Turn endpoint outcome packet) (stage : Stage)
    (first : ∀ bytes, packet = some bytes → endpoint.inbox = bytes::endpoint.inbox.tail) :
    Lane (peer.receive outcome.sent) (endpoint.polled packet stage outcome) := by
  cases turn with
  | quiet pending announced response holds silent =>
    rw [silent,receive_nil]
    exact lane.keep_responder (append_nil _) rfl
  | start bytes transferId tick action read pending announced response holds answer sent answerTick reply spoken honest =>
    rw [sent]
    have starts : endpoint.inbox.filterMap startOf = (transferId,action)::endpoint.inbox.tail.filterMap startOf := by
      rw [first bytes rfl,filterMap_cons_some (startOf_start read).1]
      rfl
    have handled : (endpoint.polled (some bytes) stage outcome).handled = endpoint.handled ++ [(transferId,reply.outByte)] := by
      rw [polled,Option.bind_some,(startOf_start read).1,honest]
      rfl
    cases lane.exchange with
    | settled _ _ empty _ => simp [starts] at empty
    | answered _ _ _ _ _ empty _ => simp [starts] at empty
    | asked transfer held logged one silent =>
      rw [starts] at one
      obtain ⟨same,rest⟩ := List.cons.inj one
      obtain ⟨rfl,rfl⟩ := Prod.mk.inj same
      refine ⟨.answered transfer reply.outByte held ?_ ?_ rest ?_,?_,?_,?_⟩
      · rw [handled,map_append]
        exact logged
      · rw [handled,List.getLast?_append_of_ne_nil _ (by simp)]
        rfl
      · rw [receive,filterMap_append,silent,filterMap_cons_some (replyOf_reply spoken).2]
        rfl
      · intro start member
        have none : (endpoint.polled (some bytes) stage outcome).inbox.filterMap startOf = [] := rest
        rw [none] at member
        cases member
      · intro byte response
        have waits := (other.coherent.awaits (by rw [held]; rfl)).2.2
        cases waits.symm.trans response
      · intro index byte member
        obtain ⟨transferId,place,answered⟩ := lane.shifted index byte member
        refine ⟨transferId,place,?_⟩
        obtain ⟨bound,_⟩ := List.getElem?_eq_some_iff.mp answered
        rw [handled,List.getElem?_append_left bound]
        exact answered
  | reply bytes transferId tick reply read pending announced taken silent =>
    rw [silent,receive_nil]
    refine lane.keep_responder ?_ ?_
    · rw [polled,Option.bind_some,(replyOf_reply read).1]
      exact append_nil _
    · rw [first bytes rfl,filterMap_cons_none (replyOf_reply read).1]
      rfl
  | announce waited transfer pending announced response holds packet sent tick spoken positive short =>
    rw [sent]
    have kept : Lane peer (endpoint.polled none stage outcome) := lane.keep_responder (append_nil _) rfl
    exact kept.receive_master other (filterMap_cons_none (startOf_start spoken).2)

end Endpoint

namespace Pair

/-- Each side keeps its own facts, and each is a master the other one answers. -/
def Honest (pair : Pair) : Prop :=
  ∀ side, (pair.get side).Side ∧ Endpoint.Lane (pair.get side) (pair.get (other side))

def Allowed (pair : Pair) (side : Player) (act : Act) : Prop := pair.Timely side act ∧ pair.Patient side act

theorem honest_of_sides {pair : Pair} (side : Player) (own : (pair.get side).Side) (peer : (pair.get (other side)).Side)
    (outward : Endpoint.Lane (pair.get side) (pair.get (other side)))
    (inward : Endpoint.Lane (pair.get (other side)) (pair.get side)) : pair.Honest := by
  intro which
  by_cases same : which = side
  · rw [same]
    exact ⟨own,outward⟩
  · have opposite : which = other side := by cases which <;> cases side <;> simp_all [other]
    rw [opposite,other_other]
    exact ⟨peer,inward⟩

theorem initial_honest (endpoints : UInt8 × UInt8) {one two : Emulator} (first : one.Unlinked) (second : two.Unlinked) :
    (initial endpoints one two).Honest :=
  honest_of_sides .one (Endpoint.initial_side _ first) (Endpoint.initial_side _ second) (Endpoint.initial_lane first)
    (Endpoint.initial_lane second)

theorem Honest.set {pair : Pair} (honest : pair.Honest) (side : Player) {next : Endpoint} (own : next.Side)
    (outward : Endpoint.Lane next (pair.get (other side))) (handled : next.handled = (pair.get side).handled)
    (inbox : next.inbox = (pair.get side).inbox) : Honest (pair.set side next) := by
  obtain ⟨peer,inward⟩ := honest (other side)
  rw [other_other] at inward
  apply honest_of_sides side
  · rw [Ports.get_set_self]
    exact own
  · rw [Ports.get_set,if_neg (other_ne side)]
    exact peer
  · rw [Ports.get_set_self,Ports.get_set,if_neg (other_ne side)]
    exact outward
  · rw [Ports.get_set_self,Ports.get_set,if_neg (other_ne side)]
    exact inward.keep_responder handled (congrArg _ inbox)

theorem Honest.poll {pair : Pair} (honest : pair.Honest) (side : Player) (arrived : Bool) :
    ∃ next, pair.poll side arrived = .ok next ∧ next.Honest := by
  obtain ⟨own,outward⟩ := honest side
  obtain ⟨peer,inward⟩ := honest (other side)
  rw [other_other] at inward
  have first : ∀ bytes, (pair.get side).arrival arrived = some bytes → (pair.get side).inbox = bytes::(pair.get side).inbox.tail :=
    fun _ => Endpoint.arrival_head
  obtain ⟨stage,outcome,polled,kept,turn⟩ := Endpoint.pollStage_turn own arrived
    (fun bytes taken => Endpoint.arrival_expected own outward inward (first bytes taken))
  refine ⟨_,by rw [Pair.poll,polled]; rfl,?_⟩
  apply honest_of_sides side
  · rw [Ports.get_set,if_neg (other_ne side).symm,Ports.get_set_self]
    exact Endpoint.polled_side own _ stage kept
  · rw [Ports.get_set_self]
    exact Endpoint.receive_side peer turn.spoken
  · rw [Ports.get_set,if_neg (other_ne side).symm,Ports.get_set_self,Ports.get_set_self]
    exact Endpoint.turn_outward own outward turn stage first
  · rw [Ports.get_set_self,Ports.get_set,if_neg (other_ne side).symm,Ports.get_set_self]
    exact Endpoint.turn_inward peer inward turn stage first

theorem step_honest {before after : Pair} (honest : before.Honest) (step : Step Allowed before after) : after.Honest := by
  obtain ⟨side,act,⟨timely,patient⟩,performed⟩ := step
  obtain ⟨own,lane⟩ := honest side
  cases act with
  | writeSb value =>
    cases performed
    exact honest.set side (Endpoint.writeSb_side own value) (lane.keep_master own rfl rfl rfl (.inl rfl) (.inl rfl)) rfl rfl
  | writeSc value =>
    cases performed
    have next : Endpoint.Lane ((before.get side).writeSc value) (before.get (other side)) :=
      lane.keep_master own rfl rfl rfl (Endpoint.writeSc_response _ value) (.inl rfl)
    exact honest.set side (Endpoint.writeSc_side own value patient) next rfl rfl
  | step cycles device =>
    cases performed
    have passed := (own.coherent.stepSerial cycles device).2
    have next : Endpoint.Lane ((before.get side).step cycles device) (before.get (other side)) :=
      lane.keep_master own rfl rfl rfl passed.response (Endpoint.step_shifted own cycles device)
    exact honest.set side (Endpoint.step_side own cycles device timely.2) next rfl rfl
  | poll arrived =>
    obtain ⟨next,polled,kept⟩ := honest.poll side arrived
    cases polled.symm.trans performed
    exact kept

theorem run_honest {endpoints : UInt8 × UInt8} {one two : Emulator} (first : one.Unlinked) (second : two.Unlinked) {finish : Pair}
    (run : Run Allowed (initial endpoints one two) finish) : finish.Honest :=
  invariant_of_run (initial_honest endpoints first second) (fun _ _ => step_honest) run

/-- No poll faults, every applied reply is for the transfer announced last, and a byte that is shifted in
is what the peer held when it handled the start of that transfer. -/
structure Faultless (pair : Pair) : Prop where
  polls : ∀ side arrived, ∃ next, pair.poll side arrived = .ok next
  answered : ∀ side, Answered (pair.get side).link.recordedReplayEvents
  shifted : ∀ side index byte, (index,byte) ∈ (pair.get side).shifted →
    ∃ transferId, (pair.get side).link.announced[index]? = some transferId ∧
      (pair.get (other side)).handled[index]? = some (transferId,byte)

/-- Two links whose guests wait for their replies stay faultless. -/
theorem run_faultless (endpoints : UInt8 × UInt8) (one two : Emulator) (first : one.Unlinked) (second : two.Unlinked)
    (finish : Pair) (run : Run Allowed (initial endpoints one two) finish) : finish.Faultless := by
  have honest := run_honest first second run
  refine ⟨?_,fun side => (honest side).1.answered,fun side => (honest side).2.shifted⟩
  intro side arrived
  obtain ⟨next,polled,_⟩ := honest.poll side arrived
  exact ⟨next,polled⟩

def powered : Emulator := ⟨.new,0,0,false⟩

theorem powered_unlinked : powered.Unlinked := ⟨rfl,rfl,by decide⟩

def silent : Device := ⟨id,none⟩

/-- A whole exchange: the guest of the one side starts a transfer, the other side answers, the byte is shifted in. -/
theorem run_faultless_exchanged : ∃ pair : Pair, pair.Faultless ∧ (pair.get .one).shifted = [(0,0x37)] := by
  refine ⟨_,run_faultless (1,2) powered powered powered_unlinked powered_unlinked _
    (.tail (.tail (.tail (.tail (.tail (.tail (.tail (.tail (.tail (.tail (.tail (.tail .refl
      ⟨.one,.writeSc 0x81,⟨rfl,fun cleared => absurd cleared (by decide)⟩,rfl⟩) ⟨.two,.writeSb 0x37,⟨rfl,trivial⟩,rfl⟩)
      ⟨.one,.poll false,⟨trivial,trivial⟩,rfl⟩) ⟨.one,.poll false,⟨trivial,trivial⟩,rfl⟩)
      ⟨.one,.poll false,⟨trivial,trivial⟩,rfl⟩) ⟨.one,.poll false,⟨trivial,trivial⟩,rfl⟩)
      ⟨.one,.step 5000 silent,⟨⟨rfl,by decide⟩,trivial⟩,rfl⟩)
      ⟨.two,.poll false,⟨trivial,trivial⟩,rfl⟩) ⟨.two,.poll true,⟨trivial,trivial⟩,rfl⟩)
      ⟨.two,.poll true,⟨trivial,trivial⟩,rfl⟩)
      ⟨.one,.poll false,⟨trivial,trivial⟩,rfl⟩) ⟨.one,.poll true,⟨trivial,trivial⟩,rfl⟩),rfl⟩

/-- A guest that abandons its announced transfer makes the next poll fault, and so does a start handled when the
clock is about to leave its 64 bits. -/
theorem not_faultless_abandoned : (∃ finish, Run Timely (initial (1,2) powered powered) finish ∧
    finish.poll .one true = .error .malformedPacketPayload) ∧
    ∃ finish, Run Patient (initial (1,2) powered powered) finish ∧ finish.poll .two true = .error .malformedPacketPayload := by
  constructor
  · refine ⟨_,.tail (.tail (.tail (.tail (.tail (.tail (.tail (.tail (.tail .refl
      ⟨.one,.writeSc 0x81,rfl,rfl⟩)
      ⟨.one,.poll false,trivial,rfl⟩) ⟨.one,.poll false,trivial,rfl⟩) ⟨.one,.poll false,trivial,rfl⟩)
      ⟨.one,.poll false,trivial,rfl⟩) ⟨.one,.writeSc 0,rfl,rfl⟩)
      ⟨.two,.poll false,trivial,rfl⟩) ⟨.two,.poll true,trivial,rfl⟩)
      ⟨.one,.poll false,trivial,rfl⟩,rfl⟩
  · refine ⟨_,.tail (.tail (.tail (.tail (.tail (.tail (.tail .refl
      ⟨.one,.writeSc 0x81,fun cleared => absurd cleared (by decide),rfl⟩)
      ⟨.one,.poll false,trivial,rfl⟩) ⟨.one,.poll false,trivial,rfl⟩) ⟨.one,.poll false,trivial,rfl⟩)
      ⟨.two,.writeSc 0x80,fun cleared => absurd cleared (by decide),rfl⟩)
      ⟨.two,.step 0xFFFFFFFFFFFFF000 silent,trivial,rfl⟩)
      ⟨.two,.poll false,trivial,rfl⟩,rfl⟩

end Pair
end ZeffBoy.Link.GameBoy
