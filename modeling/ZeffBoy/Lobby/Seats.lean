import ZeffBoy.Lobby.Invariant

/-! The steps of a member that signals: a mark on the sender with an event for the other member, and the end of a room. -/
namespace ZeffBoy.Lobby
open Library List Function

def Room.seats (room : Room) (guest : Member) : Bool → Member × Member
  | true => (guest,room.host)
  | false => (room.host,guest)

theorem signals_append (channel : Channel) (added : List Signal) :
    Channel.signals { channel with sent := channel.sent ++ added.map .signal } = channel.signals ++ added := by
  unfold Channel.signals
  rw [filterMap_append,filterMap_map]
  congr 1
  exact filterMap_some

theorem complete_append (sent : List ServerMessage) (added : List Signal) :
    .complete ∈ sent ++ added.map .signal ↔ .complete ∈ sent := by
  simp

theorem seats_member {room : Room} {guest sender other : Member} {side : Bool} (joined : room.guest = some guest)
    (seats : room.seats guest side = (sender,other)) :
    room.hasMember sender.id = true ∧ room.hasMember other.id = true := by
  cases side with
  | false =>
    obtain ⟨rfl,rfl⟩ := Prod.mk.inj seats
    exact ⟨hasMember_host room,hasMember_guest joined⟩
  | true =>
    obtain ⟨rfl,rfl⟩ := Prod.mk.inj seats
    exact ⟨hasMember_guest joined,hasMember_host room⟩

namespace World

/-- What the invariant says of the two members of a room, whichever of them is the sender. -/
structure Seated (world : World) (code : String) (identity : SessionIdentity) (side : Bool) (sender other : Member) :
    Prop where
  apart : sender.id ≠ other.id
  sits : Sits world.connections world.lobby.channels code identity side sender
  across : Sits world.connections world.lobby.channels code identity (!side) other
  paired : Paired world.connections world.lobby.channels sender.id other.id
  back : Paired world.connections world.lobby.channels other.id sender.id

variable {config : Config} {world : World} {code : String} {room : Room} {guest sender other : Member} {side : Bool}

theorem Inv.seated (inv : world.Inv config) (found : world.lobby.rooms.get? code = some room)
    (joined : room.guest = some guest) (seats : room.seats guest side = (sender,other)) :
    world.Seated code room.identity side sender other := by
  have host := (inv.kept code room found).host
  obtain ⟨sits,apart,peer⟩ := (inv.kept code room found).guest guest joined
  have paired := (inv.standing room.host.id).paired guest.id peer
  have back := (inv.standing guest.id).paired room.host.id paired.back
  cases side with
  | false =>
    obtain ⟨rfl,rfl⟩ := Prod.mk.inj seats
    exact ⟨apart.symm,host,sits,paired,back⟩
  | true =>
    obtain ⟨rfl,rfl⟩ := Prod.mk.inj seats
    exact ⟨apart,sits,host,back,paired⟩

theorem Inv.peers_between (inv : world.Inv config) {identity : SessionIdentity}
    (seated : world.Seated code identity side sender other) {id : Nat}
    (peer : (world.connections id).peer = some sender.id ∨ (world.connections id).peer = some other.id) :
    id = sender.id ∨ id = other.id := by
  rcases peer with peer | peer
  · have back := ((inv.standing id).paired _ peer).back
    exact .inr (Option.some.inj (back.symm.trans seated.back.back))
  · have back := ((inv.standing id).paired _ peer).back
    exact .inl (Option.some.inj (back.symm.trans seated.paired.back))

theorem Inv.elsewhere (inv : world.Inv config) (found : world.lobby.rooms.get? code = some room)
    (joined : room.guest = some guest) (seats : room.seats guest side = (sender,other)) {away : String} {others : Room}
    (foundAway : world.lobby.rooms.get? away = some others) (apart : away ≠ code) :
    others.hasMember sender.id = false ∧ others.hasMember other.id = false := by
  obtain ⟨first,second⟩ := seats_member joined seats
  rw [Bool.eq_false_iff,Bool.eq_false_iff]
  exact ⟨fun member => apart (inv.room_unique foundAway found member first),
    fun member => apart (inv.room_unique foundAway found member second)⟩

/-- What a step of the sender writes: its marks, its connection and what the other member is sent. -/
structure Writes (world : World) (side : Bool) (sender other marked : Member) (added : List Signal)
    (connection : Connection) : Prop where
  same : marked.id = sender.id
  phase : connection.phase ≠ .fresh
  membership : connection.membership = (world.connections sender.id).membership
  identity : connection.identity = (world.connections sender.id).identity
  peer : connection.peer = (world.connections sender.id).peer
  accepted : connection.accepted = (world.connections sender.id).accepted ++ added
  tally : Tally side connection.accepted
  marks : Marked marked connection (world.lobby.channels sender.id)
  offered : side = false → marked.description = true → ∃ signal ∈ connection.accepted, signal.isOffer = true
  answered : (∃ signal ∈ connection.accepted, signal.isAnswer = true) →
    ∃ signal ∈ (world.connections other.id).accepted, signal.isOffer = true

/-- The sender is marked, and what it had accepted is on the queue of the other member. -/
def marking (world : World) (code : String) (room : Room) (side : Bool) (marked other : Member) (added : List Signal)
    (connection : Connection) : World where
  lobby.rooms := world.lobby.rooms.insert code (Rooms.withSender room side marked)
  lobby.channels := update world.lobby.channels other.id
    { world.lobby.channels other.id with sent := (world.lobby.channels other.id).sent ++ added.map .signal }
  connections := update world.connections marked.id connection

theorem Kept.withSender {connections after : Nat → Connection} {channels later : Channels} {marked : Member}
    (kept : Kept connections channels code room) (joined : room.guest = some guest)
    (seats : room.seats guest side = (sender,other)) (same : marked.id = sender.id)
    (sender : Sits after later code room.identity side marked) (other : Sits after later code room.identity (!side) other)
    (peer : ∀ id, (after id).peer = (connections id).peer)
    (accepted : ∀ id, ∃ added, (after id).accepted = (connections id).accepted ++ added)
    (offered : side = false → marked.description = true → ∃ signal ∈ (after marked.id).accepted, signal.isOffer = true) :
    Kept after later code (Rooms.withSender room side marked) := by
  obtain ⟨_,apart,paired⟩ := kept.guest guest joined
  cases side with
  | false =>
    obtain ⟨rfl,rfl⟩ := Prod.mk.inj seats
    refine ⟨sender,offered rfl,?_,?_⟩
    · intro single
      cases single.symm.trans joined
    · intro found sat
      obtain rfl := Option.some.inj (joined.symm.trans sat)
      refine ⟨other,?_,?_⟩
      · change guest.id ≠ marked.id
        rw [same]
        exact apart
      · change (after marked.id).peer = some guest.id
        rw [same,peer]
        exact paired
  | true =>
    obtain ⟨rfl,rfl⟩ := Prod.mk.inj seats
    refine ⟨other,?_,?_,?_⟩
    · intro described
      obtain ⟨added,more⟩ := accepted room.host.id
      obtain ⟨signal,inside,is⟩ := kept.offered described
      change ∃ signal ∈ (after room.host.id).accepted, signal.isOffer = true
      rw [more]
      exact ⟨signal,mem_append_left _ inside,is⟩
    · intro single
      cases single
    · intro found sat
      obtain rfl := Option.some.inj sat
      refine ⟨sender,?_,?_⟩
      · change marked.id ≠ room.host.id
        rw [same]
        exact apart
      · change (after room.host.id).peer = some marked.id
        rw [same,peer]
        exact paired

theorem Inv.marking (inv : world.Inv config) (found : world.lobby.rooms.get? code = some room)
    (joined : room.guest = some guest) (seats : room.seats guest side = (sender,other)) {marked : Member}
    {connection : Connection} {added : List Signal} (writes : world.Writes side sender other marked added connection) :
    (world.marking code room side marked other added connection).Inv config := by
  have seated := inv.seated found joined seats
  obtain ⟨same,phase,membership,identity,peer,accepted,tally,marks,offered,answered⟩ := writes
  unfold World.marking
  rw [same]
  generalize changed : update world.connections sender.id connection = connections
  have own : connections sender.id = connection := by rw [← changed,update_self]
  have others {id : Nat} (apart : id ≠ sender.id) : connections id = world.connections id := by
    rw [← changed,update_of_ne apart]
  generalize put : update world.lobby.channels other.id _ = channels
  have queue : channels other.id =
      { world.lobby.channels other.id with sent := (world.lobby.channels other.id).sent ++ added.map .signal } := by
    rw [← put,update_self]
  have queues {id : Nat} (apart : id ≠ other.id) : channels id = world.lobby.channels id := by
    rw [← put,update_of_ne apart]
  have peers (id : Nat) : (connections id).peer = (world.connections id).peer := by
    by_cases caller : id = sender.id
    · rw [caller,own,peer]
    · rw [others caller]
  have more (id : Nat) : ∃ added, (connections id).accepted = (world.connections id).accepted ++ added := by
    by_cases caller : id = sender.id
    · exact ⟨added,by rw [caller,own,accepted]⟩
    · exact ⟨[],by rw [others caller,append_nil]⟩
  have away := others seated.apart.symm
  have ownQueue := queues seated.apart
  have going : .complete ∉ (channels other.id).sent := by
    rw [queue,complete_append]
    exact seated.across.marked.going
  have senderSits : Sits connections channels code room.identity side marked := by
    refine ⟨?_,?_,?_⟩
    · rw [same,own,membership]
      exact seated.sits.seat
    · rw [same,own,identity]
      exact seated.sits.identity
    · rw [same,own,ownQueue]
      exact marks
  have otherSits : Sits connections channels code room.identity (!side) other := by
    refine ⟨?_,?_,?_⟩
    · rw [away]
      exact seated.across.seat
    · rw [away]
      exact seated.across.identity
    · obtain ⟨finished,candidates,few,undescribed,_,isOpen⟩ := seated.across.marked
      rw [away]
      exact ⟨finished,candidates,few,undescribed,going,by rw [queue]; exact isOpen⟩
  have senderStanding : Standing connections channels sender.id := by
    refine ⟨?_,?_,?_,?_⟩
    · intro new
      rw [own] at new
      exact absurd new phase
    · intro unpaired
      rw [peers,seated.back.back] at unpaired
      cases unpaired
    · intro seat member
      rw [own,membership,seated.sits.seat] at member
      obtain rfl := Option.some.inj member
      rw [own]
      exact tally
    · intro partner partnered
      rw [peers,seated.back.back] at partnered
      obtain rfl := Option.some.inj partnered
      have notEnded := seated.sits.marked.going
      refine ⟨?_,⟨code,side,?_⟩,?_,?_,?_,?_⟩
      · rw [away]
        exact seated.paired.back
      · rw [own,membership,away]
        exact ⟨seated.sits.seat,seated.across.seat⟩
      · rw [ownQueue,away]
        exact seated.paired.signals
      · rw [own,away]
        exact answered
      · rw [ownQueue]
        exact fun ended => absurd ended notEnded
      · rw [ownQueue]
        exact fun ended => absurd ended notEnded
  have otherStanding : Standing connections channels other.id := by
    refine ⟨?_,?_,?_,?_⟩
    · intro new
      rw [away] at new
      have unused := ((inv.standing other.id).fresh new).1
      have seat := seated.across.seat
      rw [unused] at seat
      cases seat
    · intro unpaired
      rw [peers,seated.paired.back] at unpaired
      cases unpaired
    · intro seat member
      rw [away] at member ⊢
      exact (inv.standing other.id).tally seat member
    · intro partner partnered
      rw [peers,seated.paired.back] at partnered
      obtain rfl := Option.some.inj partnered
      refine ⟨?_,⟨code,!side,?_⟩,?_,?_,?_,?_⟩
      · rw [peers]
        exact seated.back.back
      · rw [away,own,membership,Bool.not_not]
        exact ⟨seated.across.seat,seated.sits.seat⟩
      · rw [queue,signals_append,own,accepted,seated.back.signals]
      · intro answers
        rw [away] at answers
        obtain ⟨signal,inside,is⟩ := seated.back.answered answers
        rw [own,accepted]
        exact ⟨signal,mem_append_left _ inside,is⟩
      · exact fun ended => absurd ended going
      · exact fun ended => absurd ended going
  refine inv.between sender.id other.id ?_ ?_ (fun id => inv.peers_between seated) ⟨senderStanding,otherStanding⟩ ?_
  · exact le_trans (AssocMap.size_insert_present _ _ _ _ found) inv.few
  · exact fun id left right => ⟨others left,queues right⟩
  · intro key value holds
    rw [AssocMap.get?_insert] at holds
    by_cases equal : key = code
    · subst equal
      rw [if_pos rfl] at holds
      obtain rfl := Option.some.inj holds
      apply Or.inl
      apply Kept.withSender (inv.kept key room found) joined seats same senderSits otherSits peers more
      intro host described
      rw [same,own]
      exact offered host described
    · rw [if_neg equal] at holds
      exact .inr ⟨holds,inv.elsewhere found joined seats holds equal⟩

end World

end ZeffBoy.Lobby
