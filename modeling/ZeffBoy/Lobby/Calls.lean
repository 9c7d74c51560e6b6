import ZeffBoy.Lobby.Seats

/-! What a call can do to the lobby: every way in which a connection enters, and every outcome of a signal. -/
namespace ZeffBoy.Lobby
open Library

variable {message : ServerMessage} {channels : Channels}

theorem trySend_some {channels after : Channels} {id : Nat}
    (sent : trySend channels id message = some after) :
    after = Function.update channels id { channels id with sent := (channels id).sent ++ [message] } := by
  unfold trySend Channel.trySend at sent
  split at sent
  · cases sent
  · exact (Option.some.inj sent).symm

theorem trySend_none {id : Nat} (sent : trySend channels id message = none)
    (isOpen : (channels id).closed = false) : (channels id).full = true := by
  unfold trySend Channel.trySend at sent
  split at sent
  · rename_i refused
    rw [isOpen] at refused
    simpa using refused
  · cases sent

theorem send_room {id : Nat} (isOpen : (channels id).closed = false)
    (room : (channels id).full = false) : send channels id message =
      Function.update channels id { channels id with sent := (channels id).sent ++ [message] } := by
  simp [send,trySend,Channel.trySend,isOpen,room]

theorem send_full {id : Nat} (full : (channels id).full = true) :
    send channels id message = channels := by
  simp [send,trySend,Channel.trySend,full]

namespace Rooms

theorem drawCode_free (rooms : AssocMap String Room) (entropy : Nat → Option (List.Vector UInt8 12)) (attempts : Nat)
    (last code : String) (drawn : drawCode rooms entropy attempts last = some code) : rooms.get? code = none := by
  induction attempts generalizing last with
  | zero =>
    simp only [drawCode] at drawn
    split at drawn
    · cases drawn
    · rename_i absent
      obtain rfl := Option.some.inj drawn
      simpa using absent
  | succ attempts ih =>
    simp only [drawCode,Option.bind_eq_bind,Option.bind_eq_some_iff] at drawn
    obtain ⟨bytes,_,drawn⟩ := drawn
    split at drawn
    · exact ih _ drawn
    · rename_i absent
      obtain rfl := Option.some.inj drawn
      simpa using absent

/-- The ways in which a connection is placed in a room, where every lonely host can be told of its peer. -/
inductive Placed (config : Config) (lobby : Rooms) (now id : Nat) (identity : SessionIdentity) :
    Option String → Except ErrorCode String × Rooms → Prop
  | refused (requested : Option String) (error : ErrorCode) : Placed config lobby now id identity requested (.error error,lobby)
  | created (code : String) (few : lobby.rooms.size < config.maxRooms) (free : lobby.rooms.get? code = none) :
    Placed config lobby now id identity none
      (.ok code,{ lobby with rooms := lobby.rooms.insert code ⟨identity,now,{ id := id },none⟩ })
  | joined (code : String) (room : Room) (found : lobby.rooms.get? code = some room) (single : room.guest = none)
      (same : room.identity = identity) : Placed config lobby now id identity (some code)
      (.ok code,⟨lobby.rooms.insert code { room with guest := some { id := id } },
        Function.update lobby.channels room.host.id { lobby.channels room.host.id with
          sent := (lobby.channels room.host.id).sent ++ [.peerJoined] }⟩)

theorem place_placed (config : Config) (lobby : Rooms) (now : Nat) (entropy : Nat → Option (List.Vector UInt8 12))
    (id : Nat) (identity : SessionIdentity) (requested : Option String)
    (ready : ∀ code room, lobby.rooms.get? code = some room → room.guest = none →
      trySend lobby.channels room.host.id .peerJoined ≠ none) :
    Placed config lobby now id identity requested (lobby.place config now entropy id identity requested) := by
  cases requested with
  | none =>
    change Placed config lobby now id identity none (lobby.create config now entropy id identity)
    unfold create
    split
    · exact .refused _ _
    · rename_i few
      split
      · exact .refused _ _
      · rename_i code drawn
        exact .created code (by omega) (drawCode_free _ _ _ _ _ drawn)
  | some code =>
    change Placed config lobby now id identity (some code) (lobby.join id identity code)
    unfold join
    split
    · cases found : lobby.rooms.get? code with
      | none => exact .refused _ _
      | some room =>
        dsimp only
        split
        · exact .refused _ _
        · rename_i single
          have single : room.guest = none := by simpa using single
          split
          · exact .refused _ _
          · rename_i same
            cases told : trySend lobby.channels room.host.id .peerJoined with
            | none => exact absurd told (ready code room found single)
            | some channels =>
              obtain rfl := trySend_some told
              exact .joined code room found single (by simpa using same)
    · exact .refused _ _

/-- A connection enters, is refused, or is placed and taken out again for want of relay credentials. -/
inductive Enters (config : Config) (swept : Rooms) (now id : Nat) (ice : Option (List IceServer)) (message : ClientMessage) :
    Except ErrorCode (Membership × ServerMessage) × Rooms → Prop
  | refused (error : ErrorCode) : Enters config swept now id ice message (.error error,swept)
  | withdrawn (version : UInt16) (token : String) (identity : SessionIdentity) (requested : Option String) (code : String)
      (lobby : Rooms) (asked : request message = some (version,token,identity,requested))
      (trusted : config.authenticated token = true) (current : version = Lobby.version)
      (placed : Placed config swept now id identity requested (.ok code,lobby)) (missing : ice = none) :
    Enters config swept now id ice message (.error .unavailable,lobby.remove code id)
  | entered (version : UInt16) (token : String) (identity : SessionIdentity) (requested : Option String) (code : String)
      (lobby : Rooms) (welcome : ServerMessage) (asked : request message = some (version,token,identity,requested))
      (placed : Placed config swept now id identity requested (.ok code,lobby)) :
    Enters config swept now id ice message (.ok (⟨code,requested.isSome⟩,welcome),lobby)

theorem enter_enters (config : Config) (lobby : Rooms) (now : Nat) (entropy : Nat → Option (List.Vector UInt8 12))
    (ice : Option (List IceServer)) (id : Nat) (message : ClientMessage)
    (ready : ∀ code room, (lobby.expire config now).rooms.get? code = some room → room.guest = none →
      trySend (lobby.expire config now).channels room.host.id .peerJoined ≠ none) :
    Enters config (lobby.expire config now) now id ice message (lobby.enter config now entropy ice id message) := by
  unfold enter
  generalize lobby.expire config now = swept at ready ⊢
  dsimp only
  cases asked : request message with
  | none => exact .refused _
  | some found =>
    obtain ⟨version,token,identity,requested⟩ := found
    dsimp only
    split
    · exact .refused _
    rename_i trusted
    split
    · exact .refused _
    rename_i current
    split
    · exact .refused _
    have placed := place_placed config swept now entropy id identity requested ready
    generalize swept.place config now entropy id identity requested = result at placed ⊢
    obtain ⟨outcome,after⟩ := result
    cases outcome with
    | error error =>
      cases placed
      exact .refused error
    | ok code =>
      cases ice with
      | none =>
        have trusted := by simpa using trusted
        exact .withdrawn version token identity requested code after asked trusted (not_ne_iff.mp current) placed rfl
      | some servers => exact .entered version token identity requested code after _ asked placed

/-- The outcomes of a signal. A refused event leaves the marks of its sender behind. -/
inductive Signals (lobby : Rooms) (membership : Membership) (id : Nat) (message : ClientMessage) :
    Except ErrorCode Unit × Rooms → Prop
  | refused (error : ErrorCode) : Signals lobby membership id message (.error error,lobby)
  | limited (room : Room) (guest sender other marked : Member) (signal : Signal)
      (found : lobby.rooms.get? membership.code = some room) (joined : room.guest = some guest)
      (seats : room.seats guest membership.guest = (sender,other)) (caller : sender.id = id)
      (unfinished : sender.finished = false) (asked : message = .signal signal) (valid : signal.valid = true)
      (marks : mark sender other membership.guest signal = some marked)
      (full : trySend lobby.channels other.id (.signal signal) = none) :
    Signals lobby membership id message
      (.error .rateLimited,⟨lobby.rooms.insert membership.code (withSender room membership.guest marked),lobby.channels⟩)
  | sent (room : Room) (guest sender other marked : Member) (signal : Signal)
      (found : lobby.rooms.get? membership.code = some room) (joined : room.guest = some guest)
      (seats : room.seats guest membership.guest = (sender,other)) (caller : sender.id = id)
      (unfinished : sender.finished = false) (asked : message = .signal signal) (valid : signal.valid = true)
      (marks : mark sender other membership.guest signal = some marked) :
    Signals lobby membership id message
      (.ok (),⟨lobby.rooms.insert membership.code (withSender room membership.guest marked),
        Function.update lobby.channels other.id { lobby.channels other.id with
          sent := (lobby.channels other.id).sent ++ [.signal signal] }⟩)
  | finishes (room : Room) (guest sender other : Member) (found : lobby.rooms.get? membership.code = some room)
      (joined : room.guest = some guest) (seats : room.seats guest membership.guest = (sender,other))
      (caller : sender.id = id) (asked : message = .finish) :
    Signals lobby membership id message
      (.ok (),⟨lobby.rooms.insert membership.code (withSender room membership.guest { sender with finished := true }),
        lobby.channels⟩)
  | completes (room : Room) (guest sender other : Member) (found : lobby.rooms.get? membership.code = some room)
      (joined : room.guest = some guest) (seats : room.seats guest membership.guest = (sender,other))
      (caller : sender.id = id) (unfinished : sender.finished = false) (asked : message = .finish)
      (described : sender.description = true ∧ other.description = true) (finished : other.finished = true) :
    Signals lobby membership id message
      (.ok (),⟨lobby.rooms.erase membership.code,send (send lobby.channels other.id .complete) sender.id .complete⟩)

theorem signal_signals (lobby : Rooms) (membership : Membership) (id : Nat) (message : ClientMessage) :
    Signals lobby membership id message (lobby.signal membership id message) := by
  unfold signal
  cases found : lobby.rooms.get? membership.code with
  | none => exact .refused _
  | some room =>
    dsimp only
    cases joined : room.guest with
    | none => exact .refused _
    | some guest =>
      dsimp only
      have seats : room.seats guest membership.guest =
          if membership.guest then (guest,room.host) else (room.host,guest) := by
        cases membership.guest <;> rfl
      generalize (if membership.guest then (guest,room.host) else (room.host,guest)) = pair at seats ⊢
      obtain ⟨sender,other⟩ := pair
      dsimp only
      split
      · exact .refused _
      rename_i allowed
      obtain ⟨caller,unfinished⟩ : sender.id = id ∧ sender.finished = false := by simpa using allowed
      cases message with
      | signal event =>
        dsimp only
        split
        · exact .refused _
        rename_i valid
        have valid : event.valid = true := by simpa using valid
        cases marks : mark sender other membership.guest event with
        | none => exact .refused _
        | some marked =>
          dsimp only
          cases told : trySend lobby.channels other.id (.signal event) with
          | none => exact .limited room guest sender other marked event found joined seats caller unfinished rfl valid marks told
          | some channels =>
            obtain rfl := trySend_some told
            exact .sent room guest sender other marked event found joined seats caller unfinished rfl valid marks
      | finish =>
        dsimp only
        split
        · rename_i described
          split
          · rename_i finished
            exact .completes room guest sender other found joined seats caller unfinished rfl described finished
          · exact .finishes room guest sender other found joined seats caller rfl
        · exact .refused _
      | create => exact .refused _
      | join => exact .refused _

end Rooms

end ZeffBoy.Lobby
