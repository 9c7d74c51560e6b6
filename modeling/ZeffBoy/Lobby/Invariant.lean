import ZeffBoy.Lobby.Queues

/-! The invariant of the lobby: what holds of each connection with its peer, and of each room with its members.
A step is judged on the connections and the room that it touches; the others are framed. -/
namespace ZeffBoy.Lobby
open Library

/-- What the marks of a member say about its connection. -/
structure Marked (member : Member) (connection : Connection) (channel : Channel) : Prop where
  finished : member.finished = connection.finished
  candidates : connection.accepted.countP Signal.isCandidate ≤ member.candidates
  few : member.candidates ≤ maxCandidates
  undescribed : member.description = false →
    connection.accepted.countP Signal.isOffer = 0 ∧ connection.accepted.countP Signal.isAnswer = 0
  going : .complete ∉ channel.sent
  isOpen : channel.closed = false

section
variable (connections : Nat → Connection) (channels : Channels)

/-- What a connection shares with its peer. -/
structure Paired (id peer : Nat) : Prop where
  back : (connections peer).peer = some id
  seats : ∃ code side, (connections id).membership = some ⟨code,side⟩ ∧
    (connections peer).membership = some ⟨code,!side⟩
  signals : (channels id).signals = (connections peer).accepted
  answered : (∃ signal ∈ (connections id).accepted, signal.isAnswer = true) →
    ∃ signal ∈ (connections peer).accepted, signal.isOffer = true
  finished : .complete ∈ (channels id).sent → (connections id).finished = true ∧ (connections peer).finished = true
  complete : .complete ∈ (channels id).sent → .complete ∈ (channels peer).sent

structure Standing (id : Nat) : Prop where
  fresh : (connections id).phase = .fresh → connections id = {} ∧ channels id = {}
  alone : (connections id).peer = none →
    (channels id).signals = [] ∧ (connections id).accepted = [] ∧ .complete ∉ (channels id).sent
  tally : ∀ membership, (connections id).membership = some membership →
    Tally membership.guest (connections id).accepted
  paired : ∀ peer, (connections id).peer = some peer → Paired connections channels id peer

/-- What holds of a member that sits in a room. -/
structure Sits (code : String) (identity : SessionIdentity) (side : Bool) (member : Member) : Prop where
  seat : (connections member.id).membership = some ⟨code,side⟩
  identity : (connections member.id).identity = some identity
  marked : Marked member (connections member.id) (channels member.id)

structure Kept (code : String) (room : Room) : Prop where
  host : Sits connections channels code room.identity false room.host
  offered : room.host.description = true → ∃ signal ∈ (connections room.host.id).accepted, signal.isOffer = true
  lonely : room.guest = none → (channels room.host.id).sent = [] ∧ room.host = { id := room.host.id } ∧
    (connections room.host.id).peer = none
  guest : ∀ guest, room.guest = some guest → Sits connections channels code room.identity true guest ∧
    guest.id ≠ room.host.id ∧ (connections room.host.id).peer = some guest.id

end

structure World.Inv (config : Config) (world : World) : Prop where
  few : world.lobby.rooms.size ≤ config.maxRooms
  standing : ∀ id, Standing world.connections world.lobby.channels id
  kept : ∀ code room, world.lobby.rooms.get? code = some room → Kept world.connections world.lobby.channels code room

section
variable {connections after : Nat → Connection} {channels later : Channels}

def Connection.Alike (connection before : Connection) : Prop := connection = { before with phase := connection.phase }

theorem Connection.Alike.refl (connection : Connection) : connection.Alike connection := rfl

theorem Standing.frame {id : Nat} (standing : Standing connections channels id)
    (fresh : (after id).phase = .fresh → (connections id).phase = .fresh ∧ later id = channels id)
    (same : ∀ other, other = id ∨ (connections id).peer = some other →
      (after other).Alike (connections other) ∧ (later other).Alike (channels other)) : Standing after later id := by
  obtain ⟨own,ownQueue⟩ := same id (.inl rfl)
  refine ⟨?_,?_,?_,?_⟩
  · intro new
    obtain ⟨old,queue⟩ := fresh new
    obtain ⟨unused,empty⟩ := standing.fresh old
    refine ⟨?_,queue.trans empty⟩
    rw [own,new,unused]
  · intro unpaired
    rw [own] at unpaired ⊢
    obtain ⟨signals,accepted,ended⟩ := standing.alone unpaired
    exact ⟨ownQueue.1.trans signals,accepted,fun there => ended (ownQueue.2.mp there)⟩
  · intro membership member
    rw [own] at member ⊢
    exact standing.tally membership member
  · intro peer paired
    rw [own] at paired
    obtain ⟨other,otherQueue⟩ := same peer (.inr paired)
    obtain ⟨back,seats,signals,answered,finished,complete⟩ := standing.paired peer paired
    refine ⟨?_,?_,?_,?_,?_,?_⟩
    · rw [other]
      exact back
    · rw [own,other]
      exact seats
    · rw [ownQueue.1,other]
      exact signals
    · rw [own,other]
      exact answered
    · rw [own,other,ownQueue.2]
      exact finished
    · rw [ownQueue.2,otherQueue.2]
      exact complete

theorem Sits.frame {code : String} {identity : SessionIdentity} {side : Bool} {member : Member}
    (sits : Sits connections channels code identity side member)
    (connection : (after member.id).Alike (connections member.id))
    (queue : (later member.id).closed = (channels member.id).closed ∧ (later member.id).sent = (channels member.id).sent) :
    Sits after later code identity side member := by
  obtain ⟨seat,named,finished,candidates,few,undescribed,going,isOpen⟩ := sits
  refine ⟨?_,?_,?_,?_,few,?_,?_,?_⟩
  · rw [connection]
    exact seat
  · rw [connection]
    exact named
  · rw [connection]
    exact finished
  · rw [connection]
    exact candidates
  · rw [connection]
    exact undescribed
  · rw [queue.2]
    exact going
  · rw [queue.1]
    exact isOpen

theorem Kept.frame {code : String} {room : Room} (kept : Kept connections channels code room)
    (same : ∀ id, room.hasMember id = true → (after id).Alike (connections id) ∧
      (later id).closed = (channels id).closed ∧ (later id).sent = (channels id).sent) : Kept after later code room := by
  obtain ⟨connection,queue⟩ := same room.host.id (hasMember_host room)
  refine ⟨kept.host.frame connection queue,?_,?_,?_⟩
  · rw [connection]
    exact kept.offered
  · intro single
    rw [connection,queue.2]
    exact kept.lonely single
  · intro guest joined
    obtain ⟨sits,apart,paired⟩ := kept.guest guest joined
    obtain ⟨guestConnection,guestQueue⟩ := same guest.id (hasMember_guest joined)
    refine ⟨sits.frame guestConnection guestQueue,apart,?_⟩
    rw [connection]
    exact paired

theorem Kept.seat {code : String} {room : Room} (kept : Kept connections channels code room) {id : Nat}
    (member : room.hasMember id = true) : ∃ side, (connections id).membership = some ⟨code,side⟩ := by
  simp only [Room.hasMember,decide_eq_true_eq] at member
  rcases member with rfl | ⟨guest,joined,rfl⟩
  · exact ⟨false,kept.host.seat⟩
  · exact ⟨true,(kept.guest guest joined).1.seat⟩

end

namespace World
variable {config : Config} {world : World}

theorem Inv.correct (inv : world.Inv config) : world.Correct config where
  few := inv.few
  host := fun code room found => ⟨(inv.kept code room found).host.seat,(inv.kept code room found).host.identity⟩
  guest := by
    intro code room guest found joined
    obtain ⟨sits,apart,paired⟩ := (inv.kept code room found).guest guest joined
    exact ⟨sits.seat,sits.identity,apart,paired⟩
  peers := fun id peer paired => ⟨((inv.standing id).paired peer paired).back,((inv.standing id).paired peer paired).seats⟩
  signals := fun id peer paired => ((inv.standing id).paired peer paired).signals
  alone := fun id unpaired => ⟨((inv.standing id).alone unpaired).1,((inv.standing id).alone unpaired).2.1⟩
  tally := fun id => (inv.standing id).tally
  answered := fun id peer paired => ((inv.standing id).paired peer paired).answered
  finished := by
    intro id ended
    cases paired : (world.connections id).peer with
    | none => exact absurd ended ((inv.standing id).alone paired).2.2
    | some peer =>
      obtain ⟨own,other⟩ := ((inv.standing id).paired peer paired).finished ended
      exact ⟨own,peer,rfl,other⟩
  complete := fun id peer paired => ((inv.standing id).paired peer paired).complete

theorem Inv.room_unique (inv : world.Inv config) {id : Nat} {code other : String} {room others : Room}
    (found : world.lobby.rooms.get? code = some room) (foundOther : world.lobby.rooms.get? other = some others)
    (member : room.hasMember id = true) (memberOther : others.hasMember id = true) : code = other := by
  obtain ⟨_,first⟩ := (inv.kept code room found).seat member
  obtain ⟨_,second⟩ := (inv.kept other others foundOther).seat memberOther
  exact congrArg Membership.code (Option.some.inj (first.symm.trans second))

theorem Inv.outside (inv : world.Inv config) {id : Nat} (fresh : (world.connections id).phase = .fresh) {code : String}
    {room : Room} (found : world.lobby.rooms.get? code = some room) : room.hasMember id = false := by
  rw [Bool.eq_false_iff]
  intro member
  obtain ⟨_,seat⟩ := (inv.kept code room found).seat member
  rw [((inv.standing id).fresh fresh).1] at seat
  cases seat

theorem Inv.unpaired (inv : world.Inv config) {id other : Nat} (fresh : (world.connections id).phase = .fresh)
    (paired : (world.connections other).peer = some id) : False := by
  have back := ((inv.standing other).paired id paired).back
  rw [((inv.standing id).fresh fresh).1] at back
  cases back

theorem Inv.quiet (inv : world.Inv config) {next : World} (size : next.lobby.rooms.size ≤ world.lobby.rooms.size)
    (rooms : ∀ code room, next.lobby.rooms.get? code = some room → world.lobby.rooms.get? code = some room)
    (alike : ∀ id, (next.lobby.channels id).Alike (world.lobby.channels id))
    (kept : ∀ code room id, next.lobby.rooms.get? code = some room → room.hasMember id = true →
      (next.lobby.channels id).closed = (world.lobby.channels id).closed ∧
        (next.lobby.channels id).sent = (world.lobby.channels id).sent)
    (connections : ∀ id, (next.connections id).Alike (world.connections id))
    (fresh : ∀ id, (next.connections id).phase = .fresh →
      (world.connections id).phase = .fresh ∧ next.lobby.channels id = world.lobby.channels id) : next.Inv config where
  few := le_trans size inv.few
  standing := fun id => (inv.standing id).frame (fresh id) (fun other _ => ⟨connections other,alike other⟩)
  kept := fun code room found => (inv.kept code room (rooms code room found)).frame
    (fun id member => ⟨connections id,kept code room id found member⟩)

theorem Inv.between (inv : world.Inv config) {next : World} (first second : Nat)
    (size : next.lobby.rooms.size ≤ config.maxRooms)
    (apart : ∀ id, id ≠ first → id ≠ second →
      next.connections id = world.connections id ∧ next.lobby.channels id = world.lobby.channels id)
    (peers : ∀ id, (world.connections id).peer = some first ∨ (world.connections id).peer = some second →
      id = first ∨ id = second)
    (standing : Standing next.connections next.lobby.channels first ∧
      Standing next.connections next.lobby.channels second)
    (rooms : ∀ code room, next.lobby.rooms.get? code = some room → Kept next.connections next.lobby.channels code room ∨
      world.lobby.rooms.get? code = some room ∧ room.hasMember first = false ∧ room.hasMember second = false) :
    next.Inv config where
  few := size
  standing := by
    intro id
    by_cases left : id = first
    · subst left
      exact standing.1
    · by_cases right : id = second
      · subst right
        exact standing.2
      · have away : ∀ other, other = id ∨ (world.connections id).peer = some other → other ≠ first ∧ other ≠ second := by
          rintro other (rfl | paired)
          · exact ⟨left,right⟩
          · constructor
            · rintro rfl
              exact (peers id (.inl paired)).elim left right
            · rintro rfl
              exact (peers id (.inr paired)).elim left right
        apply (inv.standing id).frame
        · intro new
          rw [(apart id left right).1] at new
          exact ⟨new,(apart id left right).2⟩
        · intro other near
          obtain ⟨connection,queue⟩ := apart other (away other near).1 (away other near).2
          rw [connection,queue]
          exact ⟨.refl _,.refl _⟩
  kept := by
    intro code room found
    rcases rooms code room found with kept | ⟨old,left,right⟩
    · exact kept
    · apply (inv.kept code room old).frame
      intro id member
      have away : id ≠ first ∧ id ≠ second := by
        constructor
        · rintro rfl
          cases member.symm.trans left
        · rintro rfl
          cases member.symm.trans right
      obtain ⟨connection,queue⟩ := apart id away.1 away.2
      rw [connection,queue]
      exact ⟨.refl _,rfl,rfl⟩

end World

end ZeffBoy.Lobby
