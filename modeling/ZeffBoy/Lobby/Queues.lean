import ZeffBoy.Lobby.World

/-! What the sends of the lobby do to the queues. The messages besides the signals and the end change neither
the signals that a queue carries nor whether it carries the end. -/
namespace ZeffBoy.Lobby
open Library

namespace Channel

def Alike (channel other : Channel) : Prop :=
  channel.signals = other.signals ∧ (.complete ∈ channel.sent ↔ .complete ∈ other.sent)

theorem Alike.refl (channel : Channel) : channel.Alike channel := ⟨rfl,Iff.rfl⟩

theorem Alike.trans {first second third : Channel} (left : first.Alike second) (right : second.Alike third) :
    first.Alike third := ⟨left.1.trans right.1,left.2.trans right.2⟩

end Channel

def ServerMessage.Quiet (message : ServerMessage) : Prop := (∀ signal, message ≠ .signal signal) ∧ message ≠ .complete

theorem quiet_error (code : ErrorCode) : (ServerMessage.error code).Quiet := ⟨fun _ => by simp,by simp⟩
theorem quiet_peerLeft : ServerMessage.peerLeft.Quiet := ⟨fun _ => by simp,by simp⟩
theorem quiet_peerJoined : ServerMessage.peerJoined.Quiet := ⟨fun _ => by simp,by simp⟩

theorem signals_append_quiet (channel : Channel) (message : ServerMessage) (quiet : message.Quiet) :
    Channel.Alike { channel with sent := channel.sent ++ [message] } channel := by
  constructor
  · rw [Channel.signals,Channel.signals,List.filterMap_append]
    cases message with
    | signal signal => exact absurd rfl (quiet.1 signal)
    | _ => simp
  · simp [Ne.symm quiet.2]

theorem send_cases (channels : Channels) (id : Nat) (message : ServerMessage) :
    send channels id message = channels ∨
      send channels id message = Function.update channels id { channels id with sent := (channels id).sent ++ [message] } := by
  unfold send trySend Channel.trySend
  split
  · exact .inl rfl
  · exact .inr rfl

theorem send_alike {channels : Channels} {id : Nat} {message : ServerMessage} (quiet : message.Quiet) (other : Nat) :
    (send channels id message other).Alike (channels other) := by
  rcases send_cases channels id message with same | added
  · rw [same]
    exact .refl _
  · rw [added]
    by_cases here : other = id
    · subst here
      rw [Function.update_self]
      exact signals_append_quiet _ message quiet
    · rw [Function.update_of_ne here]
      exact .refl _

theorem send_other {channels : Channels} {id : Nat} {message : ServerMessage} {other : Nat} (apart : other ≠ id) :
    send channels id message other = channels other := by
  rcases send_cases channels id message with same | added
  · rw [same]
  · rw [added,Function.update_of_ne apart]

theorem notify_alike {room : Room} {channels : Channels} {message : ServerMessage} (quiet : message.Quiet) (other : Nat) :
    (room.notify channels message other).Alike (channels other) := by
  cases joined : room.guest with
  | none =>
    simp only [Room.notify,joined]
    exact send_alike quiet other
  | some guest =>
    simp only [Room.notify,joined]
    exact (send_alike quiet other).trans (send_alike quiet other)

theorem hasMember_host (room : Room) : room.hasMember room.host.id = true := by simp [Room.hasMember]

theorem hasMember_guest {room : Room} {guest : Member} (joined : room.guest = some guest) :
    room.hasMember guest.id = true := by simp [Room.hasMember,joined]

theorem hasMember_joined (room : Room) (guest : Member) : Room.hasMember { room with guest := some guest } guest.id = true :=
  hasMember_guest rfl

theorem notify_other {room : Room} {channels : Channels} {message : ServerMessage} {other : Nat}
    (apart : room.hasMember other = false) : room.notify channels message other = channels other := by
  have host : other ≠ room.host.id := by
    rintro rfl
    rw [hasMember_host] at apart
    cases apart
  cases joined : room.guest with
  | none =>
    simp only [Room.notify,joined]
    exact send_other host
  | some guest =>
    have away : other ≠ guest.id := by
      rintro rfl
      rw [hasMember_guest joined] at apart
      cases apart
    simp only [Room.notify,joined]
    rw [send_other away,send_other host]

namespace Rooms

theorem expire_alike (config : Config) (now : Nat) (lobby : Rooms) (other : Nat) :
    ((lobby.expire config now).channels other).Alike (lobby.channels other) := by
  unfold expire
  dsimp only
  generalize lobby.channels = channels
  induction lobby.rooms.entries generalizing channels with
  | nil => exact .refl _
  | cons entry entries ih =>
    rw [List.foldl_cons]
    apply (ih _).trans
    split
    · exact .refl _
    · exact notify_alike (quiet_error _) other

theorem expire_other (config : Config) (now : Nat) (lobby : Rooms) (other : Nat)
    (apart : ∀ code room, lobby.rooms.get? code = some room → alive config now room = false → room.hasMember other = false) :
    (lobby.expire config now).channels other = lobby.channels other := by
  have each : ∀ entry ∈ lobby.rooms.entries, alive config now entry.2 = false → entry.2.hasMember other = false :=
    fun entry member => apart entry.1 entry.2 ((lobby.rooms.get?_eq_some _ _).mpr member)
  unfold expire
  dsimp only
  generalize lobby.channels = channels
  revert each
  generalize lobby.rooms.entries = entries
  intro each
  induction entries generalizing channels with
  | nil => rfl
  | cons entry entries ih =>
    obtain ⟨first,others⟩ := List.forall_mem_cons.mp each
    rw [List.foldl_cons,ih _ others]
    split
    · rfl
    · rename_i dead
      exact notify_other (first (by simpa using dead))

theorem get?_expire (config : Config) (now : Nat) (lobby : Rooms) (code : String) (room : Room) :
    (lobby.expire config now).rooms.get? code = some room ↔
      lobby.rooms.get? code = some room ∧ alive config now room = true := by
  rw [expire]
  dsimp only
  rw [AssocMap.get?_retain,Option.filter_eq_some_iff]

end Rooms

end ZeffBoy.Lobby
