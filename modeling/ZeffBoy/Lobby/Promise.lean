import ZeffBoy.Lobby.Runs

/-! The end of the signalling, and what the lobby promises over every run. -/
namespace ZeffBoy.Lobby
open Library List Function

theorem signals_append_complete (channel : Channel) :
    Channel.signals { channel with sent := channel.sent ++ [.complete] } = channel.signals := by
  unfold Channel.signals
  rw [filterMap_append]
  simp

theorem complete_both {channels : Channels} {first second : Nat} (apart : first ≠ second)
    (openFirst : (channels first).closed = false) (openSecond : (channels second).closed = false)
    (even : (channels first).full = (channels second).full) :
    send (send channels second .complete) first .complete = channels ∨
      send (send channels second .complete) first .complete =
        update (update channels second
          { channels second with sent := (channels second).sent ++ [.complete] }) first
          { channels first with sent := (channels first).sent ++ [.complete] } := by
  cases full : (channels second).full with
  | true =>
    rw [full] at even
    rw [send_full full,send_full even]
    exact .inl rfl
  | false =>
    rw [full] at even
    have kept : send channels second .complete first = channels first := send_other apart
    have space : (send channels second .complete first).full = false := by rw [kept]; exact even
    have isOpen : (send channels second .complete first).closed = false := by rw [kept]; exact openFirst
    rw [send_room isOpen space,kept,send_room openSecond full]
    exact .inr rfl

namespace World
variable {config : Config} {world : World} {code : String} {room : Room} {guest sender other : Member} {side : Bool}

theorem Inv.completes (inv : world.Inv config) (found : world.lobby.rooms.get? code = some room)
    (joined : room.guest = some guest) (seats : room.seats guest side = (sender,other)) (finished : other.finished = true)
    (even : (world.lobby.channels sender.id).full = (world.lobby.channels other.id).full)
    (old : (world.connections sender.id).phase ≠ .fresh) : ({ world with lobby := ⟨world.lobby.rooms.erase code,
      send (send world.lobby.channels other.id .complete) sender.id .complete⟩ }.change sender.id
      { world.connections sender.id with finished := true }).Inv config := by
  have seated := inv.seated found joined seats
  have left := complete_both seated.apart seated.sits.marked.isOpen seated.across.marked.isOpen even
  unfold change
  dsimp only
  generalize send (send world.lobby.channels other.id .complete) sender.id .complete = channels at left ⊢
  generalize changed : update world.connections sender.id _ = connections
  have own : connections sender.id = { world.connections sender.id with finished := true } := by
    rw [← changed,update_self]
  have others {id : Nat} (apart : id ≠ sender.id) : connections id = world.connections id := by
    rw [← changed,update_of_ne apart]
  have away := others seated.apart.symm
  have ended : (world.connections other.id).finished = true := seated.across.marked.finished.symm.trans finished
  have queues {id : Nat} (first : id ≠ sender.id) (second : id ≠ other.id) : channels id = world.lobby.channels id := by
    rcases left with same | both
    · rw [same]
    · rw [both,update_of_ne first,update_of_ne second]
  have signals : (channels sender.id).signals = (world.lobby.channels sender.id).signals ∧
      (channels other.id).signals = (world.lobby.channels other.id).signals := by
    rcases left with same | both
    · rw [same]
      exact ⟨rfl,rfl⟩
    · rw [both,update_self,update_of_ne seated.apart.symm,update_self]
      exact ⟨signals_append_complete _,signals_append_complete _⟩
  have complete : .complete ∈ (channels sender.id).sent ↔ .complete ∈ (channels other.id).sent := by
    rcases left with same | both
    · rw [same]
      exact iff_of_false seated.sits.marked.going seated.across.marked.going
    · rw [both,update_self,update_of_ne seated.apart.symm,update_self]
      exact iff_of_true (mem_append_right _ (mem_singleton_self _))
        (mem_append_right _ (mem_singleton_self _))
  have senderStanding : Standing connections channels sender.id := by
    refine ⟨?_,?_,?_,?_⟩
    · intro new
      rw [own] at new
      exact absurd new old
    · intro unpaired
      rw [own] at unpaired
      cases unpaired.symm.trans seated.back.back
    · intro membership member
      rw [own] at member ⊢
      exact (inv.standing sender.id).tally membership member
    · intro peer paired
      rw [own] at paired
      obtain rfl := Option.some.inj (paired.symm.trans seated.back.back)
      refine ⟨?_,⟨code,side,?_⟩,?_,?_,?_,complete.mp⟩
      · rw [away]
        exact seated.paired.back
      · rw [own,away]
        exact ⟨seated.sits.seat,seated.across.seat⟩
      · rw [signals.1,away]
        exact seated.paired.signals
      · rw [own,away]
        exact seated.paired.answered
      · rw [own,away]
        exact fun _ => ⟨rfl,ended⟩
  have otherStanding : Standing connections channels other.id := by
    refine ⟨?_,?_,?_,?_⟩
    · intro new
      rw [away] at new
      have seat := seated.across.seat
      rw [((inv.standing other.id).fresh new).1] at seat
      cases seat
    · intro unpaired
      rw [away] at unpaired
      cases unpaired.symm.trans seated.paired.back
    · intro membership member
      rw [away] at member ⊢
      exact (inv.standing other.id).tally membership member
    · intro peer paired
      rw [away] at paired
      obtain rfl := Option.some.inj (paired.symm.trans seated.paired.back)
      refine ⟨?_,⟨code,!side,?_⟩,?_,?_,?_,complete.mpr⟩
      · rw [own]
        exact seated.back.back
      · rw [own,away,Bool.not_not]
        exact ⟨seated.across.seat,seated.sits.seat⟩
      · rw [signals.2,own]
        exact seated.back.signals
      · rw [own,away]
        exact seated.back.answered
      · rw [own,away]
        exact fun _ => ⟨ended,rfl⟩
  apply inv.between sender.id other.id
  · exact le_trans (AssocMap.size_erase_le _ _) inv.few
  · exact fun id first second => ⟨others first,queues first second⟩
  · exact fun id => inv.peers_between seated
  · exact ⟨senderStanding,otherStanding⟩
  · intro key value holds
    dsimp only at holds
    rw [AssocMap.get?_erase] at holds
    split at holds
    · cases holds
    · rename_i apart
      exact .inr ⟨holds,inv.elsewhere found joined seats holds apart⟩

variable {message : ClientMessage} {id : Nat} {next : World}

theorem Inv.entered (inv : world.Inv config) {id now : Nat} (fresh : (world.connections id).phase = .fresh)
    {ice : Option (List IceServer)} {result : Except ErrorCode (Membership × ServerMessage) × Rooms}
    (enters : Rooms.Enters config world.lobby now id ice message result) : (world.entered id message result).Inv config := by
  cases enters with
  | refused error =>
    exact inv.gone id (le_refl _) (fun _ _ found => ⟨found,inv.outside fresh found⟩) (fun _ => .refl _)
      (fun _ _ _ _ _ => rfl) (fun _ _ _ => rfl)
  | withdrawn version token identity requested code lobby asked trusted current placed missing => exact inv.withdrawn fresh placed
  | entered version token identity requested code lobby welcome asked placed =>
    unfold World.entered
    simp only [asked,Option.map_some]
    cases placed with
    | created _ few free => exact inv.created fresh code identity few free
    | joined _ room found single same =>
      have host : hostOf ⟨world.lobby.rooms.insert code { room with guest := some { id := id } },
          update world.lobby.channels room.host.id { world.lobby.channels room.host.id with
            sent := (world.lobby.channels room.host.id).sent ++ [ServerMessage.peerJoined] }⟩
          ⟨code,(some code).isSome⟩ = some room.host.id := by
        simp [hostOf,AssocMap.get?_insert]
      have apart : room.host.id ≠ id := by
        intro here
        have outside := inv.outside fresh found
        rw [← here,hasMember_host] at outside
        cases outside
      have result := inv.joined fresh code room found single
      rw [host]
      dsimp only
      rw [update_of_ne apart,← same]
      exact result

theorem safe_signal (safe : (Step.signal id message).Safe config world)
    (found : world.lobby.rooms.get? code = some room) (joined : room.guest = some guest)
    (seats : room.seats guest side = (sender,other)) (caller : sender.id = id) (unfinished : sender.finished = false) :
    (∀ sdp, message = .signal (.offer sdp) → validSdp sdp = true → side = false → sender.description = false →
      (world.lobby.channels other.id).full = false) ∧
    (message = .finish → sender.description = true ∧ other.description = true → other.finished = true →
      (world.lobby.channels sender.id).full = (world.lobby.channels other.id).full) := by
  obtain ⟨offers,ends⟩ := safe code room guest found joined
  cases side with
  | false =>
    obtain ⟨rfl,rfl⟩ := Prod.mk.inj seats
    refine ⟨fun sdp asked valid _ free => offers sdp asked valid caller unfinished free,?_⟩
    intro asked described finished
    exact ends asked ⟨described.1,described.2,.inl ⟨caller,unfinished,finished⟩⟩
  | true =>
    obtain ⟨rfl,rfl⟩ := Prod.mk.inj seats
    constructor
    · intro sdp asked valid host
      cases host
    · intro asked described finished
      exact (ends asked ⟨described.2,described.1,.inr ⟨caller,unfinished,finished⟩⟩).symm

theorem Inv.signalled (inv : world.Inv config) {membership : Membership}
    {result : Except ErrorCode Unit × Rooms} (active : (world.connections id).phase = .active)
    (safe : (Step.signal id message).Safe config world) (signals : Rooms.Signals world.lobby membership id message result) :
    (world.signalled id message result).Inv config := by
  have old : (world.connections id).phase ≠ .fresh := by
    rw [active]
    intro fresh
    cases fresh
  cases signals with
  | refused error => exact inv.phased id .ending (fun fresh => by cases fresh)
  | limited room guest sender other marked signal found joined seats caller unfinished asked valid marks full =>
    subst caller asked
    have isOpen := (inv.seated found joined seats).across.marked.isOpen
    have notOffer : signal.isOffer = false := by
      cases signal with
      | offer sdp =>
        obtain ⟨_,_,_,_,_,offer,_⟩ := mark_marks (inv.seated found joined seats).sits.marked.few marks
        obtain ⟨host,free⟩ := offer rfl
        have space := (safe_signal safe found joined seats rfl unfinished).1 sdp rfl valid host free
        cases space.symm.trans (trySend_none full isOpen)
      | _ => rfl
    exact inv.limited found joined seats marks notOffer
  | sent room guest sender other marked signal found joined seats caller unfinished asked valid marks =>
    subst caller asked
    exact inv.sent found joined seats marks valid old
  | finishes room guest sender other found joined seats caller asked =>
    subst caller asked
    exact inv.finishes found joined seats old
  | completes room guest sender other found joined seats caller unfinished asked described finished =>
    subst caller asked
    have even := (safe_signal safe found joined seats rfl unfinished).2 rfl described finished
    exact inv.completes found joined seats finished even old

theorem Inv.start (config : Config) : World.start.Inv config where
  few := Nat.zero_le _
  standing := by
    intro id
    refine ⟨fun _ => ⟨rfl,rfl⟩,fun _ => ⟨rfl,rfl,not_mem_nil⟩,?_,?_⟩
    · intro membership member
      cases member
    · intro peer paired
      cases paired
  kept := by
    intro code room found
    cases found

theorem inv_step (inv : world.Inv config) (step : Step) (safe : step.Safe config world)
    (taken : world.step config step = some next) : next.Inv config := by
  cases step with
  | enter id now entropy ice message =>
    simp only [World.step] at taken
    split at taken
    · rename_i fresh
      obtain rfl := Option.some.inj taken
      have swept := inv.swept now
      have enters := Rooms.enter_enters config world.lobby now entropy ice id message swept.ready
      exact swept.entered fresh enters
    · cases taken
  | signal id message =>
    simp only [World.step] at taken
    split at taken
    · rename_i active
      obtain ⟨membership,_,rfl⟩ := Option.map_eq_some_iff.mp taken
      exact inv.signalled active safe (Rooms.signal_signals world.lobby membership id message)
    · cases taken
  | leave id =>
    simp only [World.step] at taken
    split at taken
    · obtain rfl := Option.some.inj taken
      exact inv.phased id .ending (fun fresh => by cases fresh)
    · cases taken
  | remove id =>
    simp only [World.step] at taken
    split at taken
    · obtain ⟨membership,seat,rfl⟩ := Option.map_eq_some_iff.mp taken
      exact inv.removed seat
    · cases taken
  | expire now =>
    obtain rfl := Option.some.inj taken
    exact inv.swept now
  | receive id =>
    obtain rfl := Option.some.inj taken
    exact inv.received id

theorem reachable_inv (reached : Reachable config world) : world.Inv config := by
  induction reached with
  | start => exact .start config
  | step _ step safe taken ih => exact inv_step ih step safe taken

theorem local_intro {step : Step} (caller : step.caller = some id)
    (found : ∀ code room, (step.found config world).rooms.get? code = some room →
      room.hasMember id = true ∨ next.lobby.rooms.get? code = some room ∨
        step.Joins code room (next.lobby.rooms.get? code))
    (absent : ∀ code room, (step.found config world).rooms.get? code = none → next.lobby.rooms.get? code = some room →
      room.host.id = id ∧ room.guest = none) : step.Local config world next := by
  intro other same code
  obtain rfl := Option.some.inj (caller.symm.trans same)
  cases before : (step.found config world).rooms.get? code with
  | none => exact fun room after => absent code room before after
  | some room => exact found code room before

theorem entered_rooms (world : World) (id : Nat) (message : ClientMessage)
    (result : Except ErrorCode (Membership × ServerMessage) × Rooms) :
    (world.entered id message result).lobby.rooms = result.2.rooms := by
  obtain ⟨answer,lobby⟩ := result
  cases answer with
  | error error => rfl
  | ok welcome =>
    simp only [World.entered]
    split <;> rfl

theorem request_join {version : UInt16} {token code : String} {identity : SessionIdentity}
    (asked : Rooms.request message = some (version,token,identity,some code)) :
    message = .join version token code identity := by
  cases message with
  | join =>
    simp only [Rooms.request,Option.some.injEq,Prod.mk.injEq] at asked
    obtain ⟨rfl,rfl,rfl,rfl⟩ := asked
    rfl
  | create =>
    simp only [Rooms.request,Option.some.injEq,Prod.mk.injEq] at asked
    cases asked.2.2.2
  | signal => cases asked
  | finish => cases asked

theorem local_enter (inv : world.Inv config) (id now : Nat) (entropy : Nat → Option (List.Vector UInt8 12))
    (ice : Option (List IceServer)) (message : ClientMessage) (safe : (Step.enter id now entropy ice message).Safe config world) :
    (Step.enter id now entropy ice message).Local config world
      (world.entered id message (world.lobby.enter config now entropy ice id message)) := by
  have enters := Rooms.enter_enters config world.lobby now entropy ice id message (inv.swept now).ready
  apply local_intro rfl
  all_goals
    rw [entered_rooms]
    generalize world.lobby.enter config now entropy ice id message = result at enters ⊢
    change ∀ code room, (world.lobby.expire config now).rooms.get? code = _ → _
    intro code room
  · intro before
    cases enters with
    | refused error => exact .inr (.inl before)
    | withdrawn version token identity requested placedCode lobby asked trusted current placed missing =>
      cases placed with
      | created _ few free =>
        rw [Rooms.remove_insert (hasMember_host _)]
        dsimp only
        rw [AssocMap.get?_erase_insert]
        split
        · rename_i same
          rw [same,free] at before
          cases before
        · exact .inr (.inl before)
      | joined _ host found single same =>
        rw [Rooms.remove_insert (hasMember_joined _ { id := id })]
        dsimp only
        rw [AssocMap.get?_erase_insert]
        split
        · rename_i here
          subst here
          obtain rfl := Option.some.inj (found.symm.trans before)
          subst same current
          exact absurd missing (safe token code _ (request_join asked) trusted before single)
        · exact .inr (.inl before)
    | entered version token identity requested placedCode lobby welcome asked placed =>
      cases placed with
      | created _ few free =>
        dsimp only
        rw [AssocMap.get?_insert]
        split
        · rename_i same
          rw [same,free] at before
          cases before
        · exact .inr (.inl before)
      | joined _ host found single same =>
        dsimp only
        rw [AssocMap.get?_insert]
        split
        · rename_i here
          subst here
          obtain rfl := Option.some.inj (found.symm.trans before)
          subst same
          exact .inr (.inr ⟨single,⟨version,token,request_join asked⟩,rfl⟩)
        · exact .inr (.inl before)
  · intro before after
    cases enters with
    | refused error => cases before.symm.trans after
    | withdrawn version token identity requested placedCode lobby asked trusted current placed missing =>
      have gone : (lobby.remove placedCode id).rooms.get? code ≠ some room := by
        cases placed with
        | created _ few free =>
          rw [Rooms.remove_insert (hasMember_host _)]
          dsimp only
          rw [AssocMap.get?_erase_insert,before,ite_self]
          exact fun absent => by cases absent
        | joined _ host found single same =>
          rw [Rooms.remove_insert (hasMember_joined _ { id := id })]
          dsimp only
          rw [AssocMap.get?_erase_insert,before,ite_self]
          exact fun absent => by cases absent
      exact absurd after gone
    | entered version token identity requested placedCode lobby welcome asked placed =>
      cases placed with
      | created _ few free =>
        dsimp only at after
        rw [AssocMap.get?_insert,before] at after
        split at after
        · obtain rfl := Option.some.inj after
          exact ⟨rfl,rfl⟩
        · cases after
      | joined _ host found single same =>
        dsimp only at after
        rw [AssocMap.get?_insert,before] at after
        split at after
        · rename_i here
          rw [here,found] at before
          cases before
        · cases after

theorem local_room {step : Step} {code : String} {room : Room} (caller : step.caller = some id)
    (swept : step.found config world = world.lobby) (found : world.lobby.rooms.get? code = some room)
    (member : room.hasMember id = true)
    (same : ∀ other, other ≠ code → next.lobby.rooms.get? other = world.lobby.rooms.get? other) :
    step.Local config world next := by
  apply local_intro caller
  · rw [swept]
    intro other others before
    by_cases here : other = code
    · subst here
      obtain rfl := Option.some.inj (found.symm.trans before)
      exact .inl member
    · rw [same other here]
      exact .inr (.inl before)
  · rw [swept]
    intro other others before after
    by_cases here : other = code
    · subst here
      cases before.symm.trans found
    · rw [same other here,before] at after
      cases after

theorem local_nothing {step : Step} (caller : step.caller = some id)
    (swept : step.found config world = world.lobby) (same : next.lobby.rooms = world.lobby.rooms) :
    step.Local config world next := by
  apply local_intro caller
  · rw [swept,same]
    exact fun _ _ before => .inr (.inl before)
  · rw [swept,same]
    intro _ _ before after
    cases before.symm.trans after

theorem local_signal (id : Nat) (message : ClientMessage) (membership : Membership) :
    (Step.signal id message).Local config world
      (world.signalled id message (world.lobby.signal membership id message)) := by
  have signals := Rooms.signal_signals world.lobby membership id message
  generalize world.lobby.signal membership id message = result at signals ⊢
  have written (room : Room) (other : String) (apart : other ≠ membership.code) :
      (world.lobby.rooms.insert membership.code room).get? other = world.lobby.rooms.get? other := by
    rw [AssocMap.get?_insert,if_neg apart]
  cases signals with
  | refused error => exact local_nothing rfl rfl rfl
  | limited room guest sender other marked signal found joined seats caller =>
    subst caller
    exact local_room rfl rfl found (seats_member joined seats).1 (written _)
  | sent room guest sender other marked signal found joined seats caller =>
    subst caller
    exact local_room rfl rfl found (seats_member joined seats).1 (written _)
  | finishes room guest sender other found joined seats caller =>
    subst caller
    exact local_room rfl rfl found (seats_member joined seats).1 (written _)
  | completes room guest sender other found joined seats caller =>
    subst caller
    apply local_room rfl rfl found (seats_member joined seats).1
    intro key apart
    change (world.lobby.rooms.erase membership.code).get? key = _
    rw [AssocMap.get?_erase,if_neg apart]

theorem local_remove (id : Nat) (membership : Membership) :
    (Step.remove id).Local config world ({ world with lobby := close (world.lobby.remove membership.code id) id }.change id
      { world.connections id with phase := .gone }) := by
  rcases Rooms.remove_cases world.lobby membership.code id with ⟨same,_⟩ | ⟨room,found,member,taken⟩
  · rw [same]
    exact local_nothing rfl rfl rfl
  · rw [taken]
    apply local_room rfl rfl found member
    intro other apart
    change (world.lobby.rooms.erase membership.code).get? other = _
    rw [AssocMap.get?_erase,if_neg apart]

theorem step_local (inv : world.Inv config) (step : Step) (safe : step.Safe config world)
    (taken : world.step config step = some next) : step.Local config world next := by
  cases step with
  | enter id now entropy ice message =>
    simp only [World.step] at taken
    split at taken
    · obtain rfl := Option.some.inj taken
      exact local_enter inv id now entropy ice message safe
    · cases taken
  | signal id message =>
    simp only [World.step] at taken
    split at taken
    · obtain ⟨membership,_,rfl⟩ := Option.map_eq_some_iff.mp taken
      exact local_signal id message membership
    · cases taken
  | remove id =>
    simp only [World.step] at taken
    split at taken
    · obtain ⟨membership,_,rfl⟩ := Option.map_eq_some_iff.mp taken
      exact local_remove id membership
    · cases taken
  | leave id =>
    intro caller absent
    cases absent
  | expire now =>
    intro caller absent
    cases absent
  | receive id =>
    intro caller absent
    cases absent

def run (config : Config) : World → List Step → Option World
  | world,[] => some world
  | world,step::steps => do (← world.step config step).run config steps

-- The queues of every pair have space for an event, and the relay credentials of a call are at hand.
def roomy (world : World) : Bool := world.lobby.rooms.entries.all (fun entry => match entry.2.guest with
  | none => true
  | some guest => (world.lobby.channels entry.2.host.id).full = false ∧ (world.lobby.channels guest.id).full = false)

def credited : Step → Bool
  | .enter _ _ _ ice _ => ice.isSome
  | _ => true

def roomyRun (config : Config) : World → List Step → Bool
  | _,[] => true
  | world,step::steps =>
    world.roomy && credited step && (world.step config step).all (fun next => next.roomyRun config steps)

theorem roomy_safe (space : world.roomy = true) (step : Step) (paid : credited step = true) : step.Safe config world := by
  cases step with
  | enter id now entropy ice message => exact fun _ _ _ _ _ _ _ => Option.isSome_iff_ne_none.mp paid
  | signal id message =>
    intro code room guest found joined
    have entry := all_eq_true.mp space _ ((world.lobby.rooms.get?_eq_some code room).mp found)
    simp only [joined,decide_eq_true_eq] at entry
    obtain ⟨host,queue⟩ := entry
    exact ⟨fun _ _ _ _ _ _ => queue,fun _ _ => host.trans queue.symm⟩
  | _ => trivial

theorem run_reachable (reached : Reachable config world) (steps : List Step) {last : World}
    (ran : world.run config steps = some last) (space : world.roomyRun config steps = true) : Reachable config last := by
  induction steps generalizing world with
  | nil =>
    obtain rfl := Option.some.inj ran
    exact reached
  | cons step steps ih =>
    obtain ⟨next,taken,rest⟩ := Option.bind_eq_some_iff.mp ran
    simp only [roomyRun,taken,Option.all_some,Bool.and_eq_true] at space
    exact ih (.step reached step (roomy_safe space.1.1 step space.1.2) taken) rest space.2

/-- In a run of safe steps the lobby keeps its promise in every state, and every call keeps to the rooms of its caller. -/
theorem reachable_correct {config : Config} {world : World} (reached : Reachable config world) :
    world.Correct config ∧ ∀ step next, step.Safe config world → world.step config step = some next →
      step.Local config world next := by
  have inv := reachable_inv reached
  exact ⟨inv.correct,fun step _ safe taken => step_local inv step safe taken⟩

def pocket : SessionIdentity where
  core := "pocket"
  contentHash := "0123456789abcdef0123456789abcdef0123456789abcdef0123456789abcdef"
  compatibilityHash := "0123456789abcdef0123456789abcdef0123456789abcdef0123456789abcdef"
  mode := .linkedDevices

def single : Config := ⟨1,600,fun _ => true,false⟩

-- A host and its guest with an offer and an answer.
def meeting : List Step :=
  let entropy := fun _ => some (.replicate 12 0)
  [.enter 1 0 entropy (some []) (.create 1 "" pocket),
    .enter 2 0 entropy (some []) (.join 1 "" "000000000000000000000000" pocket),
    .signal 1 (.signal (.offer "offer")),.signal 2 (.signal (.answer "answer")),.receive 1,.receive 1]

def uncredited : Step := .enter 2 0 (fun _ => none) none (.join 1 "" "000000000000000000000000" pocket)

theorem reachable_correct_meeting : ∃ world, start.run single (meeting ++ [.signal 2 .finish,.signal 1 .finish]) = some world ∧
    (.complete ∈ (world.lobby.channels 1).sent ∧ .complete ∈ (world.lobby.channels 2).sent) ∧
    world.Correct single ∧ ∀ step next, step.Safe single world → world.step single step = some next →
      step.Local single world next := by
  obtain ⟨world,ran⟩ : ∃ world, start.run single (meeting ++ [.signal 2 .finish,.signal 1 .finish]) = some world :=
    Option.isSome_iff_exists.mp (by decide +kernel)
  have ends : (start.run single (meeting ++ [.signal 2 .finish,.signal 1 .finish])).all (fun world =>
    .complete ∈ (world.lobby.channels 1).sent ∧ .complete ∈ (world.lobby.channels 2).sent) = true := by decide +kernel
  rw [ran] at ends
  exact ⟨world,ran,by simpa using ends,reachable_correct (run_reachable .start _ ran (by decide +kernel))⟩

/-- The guest has not read eight candidates of the host when the host finishes last, so the end reaches the host alone.
An offer that is refused behind eight candidates still lets the guest answer. And a guest without relay credentials takes
the room of the host down with it. -/
theorem full_queue_breaks_promise :
    (∃ world, start.run single (meeting ++ .signal 2 .finish::.receive 2::
        List.replicate 8 (.signal 1 (.signal (.candidate "candidate" none none))) ++ [.signal 1 .finish]) = some world ∧
      ¬ world.Correct single) ∧
    (∃ world, start.run single (meeting.take 2 ++
        List.replicate 8 (.signal 1 (.signal (.candidate "candidate" none none))) ++
        [.signal 1 (.signal (.offer "offer")),.signal 2 (.signal (.answer "answer"))]) = some world ∧
      ¬ world.Correct single) ∧
    ∃ world next, start.run single (meeting.take 1) = some world ∧ world.step single uncredited = some next ∧
      ¬ uncredited.Local single world next := by
  refine ⟨?_,?_,?_⟩
  · generalize run : start.run single _ = outcome
    have ends : outcome.any (fun world => (world.connections 1).peer = some 2 ∧
        .complete ∈ (world.lobby.channels 1).sent ∧ .complete ∉ (world.lobby.channels 2).sent) = true := by
      rw [← run]
      decide +kernel
    cases outcome with
    | none => cases ends
    | some world =>
      obtain ⟨paired,own,other⟩ := of_decide_eq_true ends
      exact ⟨world,rfl,fun correct => other (correct.complete 1 2 paired own)⟩
  · generalize run : start.run single _ = outcome
    have answers : outcome.any (fun world => (world.connections 2).peer = some 1 ∧
        (∃ signal ∈ (world.connections 2).accepted, signal.isAnswer = true) ∧
        ¬ ∃ signal ∈ (world.connections 1).accepted, signal.isOffer = true) = true := by
      rw [← run]
      decide +kernel
    cases outcome with
    | none => cases answers
    | some world =>
      obtain ⟨paired,own,other⟩ := of_decide_eq_true answers
      exact ⟨world,rfl,fun correct => other (correct.answered 2 1 paired own)⟩
  · refine ⟨_,_,rfl,rfl,fun kept => ?_⟩
    obtain member | same | ⟨_,_,joined⟩ := kept 2 rfl "000000000000000000000000"
    · cases member
    · cases same
    · cases joined

end World

end ZeffBoy.Lobby
