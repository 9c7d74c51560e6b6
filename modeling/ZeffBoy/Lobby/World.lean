import ZeffBoy.Lobby.Rooms

/-! The lobby under its connections: any order of their calls, of the sweeps and of the reads from the queues,
and what the connections may rely on. -/
namespace ZeffBoy.Lobby
open Library

/-- A connection enters once, signals until it ends or gets an error, and is removed then. -/
inductive Phase
  | fresh
  | active
  | ending
  | gone
deriving DecidableEq

/-- A connection and what it has done: the membership it was given, the peer it was paired with,
and the signals and the end of signalling that it had accepted. -/
structure Connection where
  phase : Phase := .fresh
  membership : Option Membership := none
  identity : Option SessionIdentity := none
  peer : Option Nat := none
  accepted : List Signal := []
  finished : Bool := false
deriving DecidableEq

structure World where
  lobby : Rooms
  connections : Nat → Connection

inductive Step
  | enter (id now : Nat) (entropy : Nat → Option (List.Vector UInt8 12)) (ice : Option (List IceServer))
      (message : ClientMessage)
  | signal (id : Nat) (message : ClientMessage)
  | leave (id : Nat)
  | remove (id : Nat)
  | expire (now : Nat)
  | receive (id : Nat)

def Channel.receive (channel : Channel) : Channel :=
  if channel.received < channel.sent.length then { channel with received := channel.received + 1 } else channel

namespace World

def start : World := ⟨⟨.empty,fun _ => {}⟩,fun _ => {}⟩

def change (world : World) (id : Nat) (connection : Connection) : World :=
  { world with connections := Function.update world.connections id connection }

-- The reader of a queue lets go of it when its connection is gone.
def close (lobby : Rooms) (id : Nat) : Rooms :=
  { lobby with channels := Function.update lobby.channels id { lobby.channels id with closed := true } }

def hostOf (lobby : Rooms) (membership : Membership) : Option Nat :=
  if membership.guest then (lobby.rooms.get? membership.code).map (fun room => room.host.id) else none

def entered (world : World) (id : Nat) (message : ClientMessage) :
    Except ErrorCode (Membership × ServerMessage) × Rooms → World
  | (.error _,lobby) => { world with lobby := close lobby id }.change id { world.connections id with phase := .gone }
  | (.ok (membership,_),lobby) =>
    let identity := (Rooms.request message).map (fun asked => asked.2.2.1)
    let host := hostOf lobby membership
    let world : World := ⟨lobby,Function.update world.connections id
      { world.connections id with phase := .active, membership := some membership, identity := identity, peer := host }⟩
    match host with
    | none => world
    | some host => world.change host { world.connections host with peer := some id }

def signalled (world : World) (id : Nat) (message : ClientMessage) : Except ErrorCode Unit × Rooms → World
  | (.error _,lobby) => { world with lobby := lobby }.change id { world.connections id with phase := .ending }
  | (.ok (),lobby) =>
    let connection := world.connections id
    { world with lobby := lobby }.change id (match message with
      | .signal signal => { connection with accepted := connection.accepted ++ [signal] }
      | _ => { connection with finished := true })

/-- One step, unless the connection does not make this call now. -/
def step (config : Config) (world : World) : Step → Option World
  | .enter id now entropy ice message =>
    if (world.connections id).phase = .fresh then
      some (world.entered id message (world.lobby.enter config now entropy ice id message))
    else none
  | .signal id message =>
    if (world.connections id).phase = .active then
      (world.connections id).membership.map (fun membership =>
        world.signalled id message (world.lobby.signal membership id message))
    else none
  | .leave id =>
    if (world.connections id).phase = .active then some (world.change id { world.connections id with phase := .ending })
    else none
  | .remove id =>
    if (world.connections id).phase = .active ∨ (world.connections id).phase = .ending then
      (world.connections id).membership.map (fun membership =>
        { world with lobby := close (world.lobby.remove membership.code id) id }.change id
          { world.connections id with phase := .gone })
    else none
  | .expire now => some { world with lobby := world.lobby.expire config now }
  | .receive id =>
    some { world with lobby :=
      { world.lobby with channels := Function.update world.lobby.channels id (world.lobby.channels id).receive } }

end World

def Channel.signals (channel : Channel) : List Signal :=
  channel.sent.filterMap (fun message => match message with
    | .signal signal => some signal
    | _ => none)

def Signal.isOffer : Signal → Bool
  | .offer _ => true
  | _ => false

def Signal.isAnswer : Signal → Bool
  | .answer _ => true
  | _ => false

def Signal.isCandidate : Signal → Bool
  | .candidate .. => true
  | _ => false

/-- What a connection has had accepted on its side of a room. -/
structure Tally (guest : Bool) (accepted : List Signal) : Prop where
  offers : accepted.countP Signal.isOffer ≤ if guest then 0 else 1
  answers : accepted.countP Signal.isAnswer ≤ if guest then 1 else 0
  candidates : accepted.countP Signal.isCandidate ≤ maxCandidates
  valid : ∀ signal ∈ accepted, signal.valid = true

/-- What the lobby promises in every state: rooms of one host and at most one guest of the same identity, and no more
than allowed; on every queue exactly the signals that the peer had accepted; and the end to both of a room or to none. -/
structure World.Correct (config : Config) (world : World) : Prop where
  few : world.lobby.rooms.size ≤ config.maxRooms
  host : ∀ code room, world.lobby.rooms.get? code = some room →
    (world.connections room.host.id).membership = some ⟨code,false⟩ ∧
      (world.connections room.host.id).identity = some room.identity
  guest : ∀ code room guest, world.lobby.rooms.get? code = some room → room.guest = some guest →
    (world.connections guest.id).membership = some ⟨code,true⟩ ∧
      (world.connections guest.id).identity = some room.identity ∧ guest.id ≠ room.host.id ∧
      (world.connections room.host.id).peer = some guest.id
  peers : ∀ id peer, (world.connections id).peer = some peer → (world.connections peer).peer = some id ∧
    ∃ code guest, (world.connections id).membership = some ⟨code,guest⟩ ∧
      (world.connections peer).membership = some ⟨code,!guest⟩
  signals : ∀ id peer, (world.connections id).peer = some peer →
    (world.lobby.channels id).signals = (world.connections peer).accepted
  alone : ∀ id, (world.connections id).peer = none →
    (world.lobby.channels id).signals = [] ∧ (world.connections id).accepted = []
  tally : ∀ id membership, (world.connections id).membership = some membership →
    Tally membership.guest (world.connections id).accepted
  answered : ∀ id peer, (world.connections id).peer = some peer →
    (∃ signal ∈ (world.connections id).accepted, signal.isAnswer = true) →
      ∃ signal ∈ (world.connections peer).accepted, signal.isOffer = true
  finished : ∀ id, .complete ∈ (world.lobby.channels id).sent → (world.connections id).finished = true ∧
    ∃ peer, (world.connections id).peer = some peer ∧ (world.connections peer).finished = true
  complete : ∀ id peer, (world.connections id).peer = some peer → .complete ∈ (world.lobby.channels id).sent →
    .complete ∈ (world.lobby.channels peer).sent

/-- The connection that makes a call. -/
def Step.caller : Step → Option Nat
  | .enter id .. => some id
  | .signal id _ => some id
  | .remove id => some id
  | _ => none

def Step.found (config : Config) (world : World) : Step → Rooms
  | .enter _ now .. => world.lobby.expire config now
  | .expire now => world.lobby.expire config now
  | _ => world.lobby

/-- A call that a connection joins a room with. -/
def Step.Joins (code : String) (room : Room) (after : Option Room) : Step → Prop
  | .enter id _ _ _ message => room.guest = none ∧
    (∃ clientVersion token, message = .join clientVersion token code room.identity) ∧
    after = some { room with guest := some { id := id } }
  | _ => False

/-- A call changes no room but those of its caller. -/
def Step.Local (config : Config) (world next : World) (step : Step) : Prop :=
  ∀ id, step.caller = some id → ∀ code,
    match (step.found config world).rooms.get? code with
    | some room => room.hasMember id = true ∨ next.lobby.rooms.get? code = some room ∨
        step.Joins code room (next.lobby.rooms.get? code)
    | none => ∀ room, next.lobby.rooms.get? code = some room → room.host.id = id ∧ room.guest = none

/-- A call that completes the signalling of a room: the caller finishes after its peer. -/
def Room.Completes (room : Room) (guest : Member) (id : Nat) : Prop :=
  room.host.description = true ∧ guest.description = true ∧
    (room.host.id = id ∧ room.host.finished = false ∧ guest.finished = true ∨
      guest.id = id ∧ guest.finished = false ∧ room.host.finished = true)

/-- The steps on which the lobby keeps its promise. A guest does not join without relay credentials, which would take
the room down with it; an offer is not refused for a full queue, which would leave its mark and let the guest answer it;
and the end does not find room on the queue of one member alone. -/
def Step.Safe (config : Config) (world : World) : Step → Prop
  | .enter _ now _ ice message => ∀ token code room, message = .join version token code room.identity →
    config.authenticated token = true → (world.lobby.expire config now).rooms.get? code = some room → room.guest = none →
    ice ≠ none
  | .signal id message => ∀ code room guest, world.lobby.rooms.get? code = some room → room.guest = some guest →
    (∀ sdp, message = .signal (.offer sdp) → validSdp sdp = true → room.host.id = id → room.host.finished = false →
      room.host.description = false → (world.lobby.channels guest.id).full = false) ∧
    (message = .finish → room.Completes guest id →
      (world.lobby.channels room.host.id).full = (world.lobby.channels guest.id).full)
  | _ => True

/-- The states of the runs whose steps are all safe. -/
inductive World.Reachable (config : Config) : World → Prop
  | start : Reachable config .start
  | step {world next : World} (reached : Reachable config world) (step : Step) (safe : step.Safe config world)
      (taken : world.step config step = some next) : Reachable config next

end ZeffBoy.Lobby
