import ZeffBoy.Library.AssocMap
import ZeffBoy.Library.Bytes

/-! The rooms of the lobby: what a call answers, and what it does to the rooms and to the event queues.
The clock, the random codes, the check of the access token and the relay credentials come from outside. -/
namespace ZeffBoy.Lobby
open Library

def version : UInt16 := 1
def maxSdpBytes : Nat := 32 * 1024
def maxCandidateBytes : Nat := 2048
def maxCandidates : Nat := 64

inductive SessionMode
  | sharedConsole
  | linkedDevices
deriving DecidableEq

structure SessionIdentity where
  core : String
  contentHash : String
  compatibilityHash : String
  mode : SessionMode
deriving DecidableEq

-- The length and every byte of a lower-case hexadecimal text.
def validHex (value : String) (len : Nat) : Bool :=
  (utf8 value).length = len ∧ (utf8 value).all (fun byte => (48 ≤ byte ∧ byte ≤ 57) ∨ (97 ≤ byte ∧ byte ≤ 102))

def coreByte (byte : UInt8) : Bool :=
  (48 ≤ byte ∧ byte ≤ 57) ∨ (65 ≤ byte ∧ byte ≤ 90) ∨ (97 ≤ byte ∧ byte ≤ 122) ∨ byte = 45 ∨ byte = 95 ∨ byte = 46

def SessionIdentity.valid (identity : SessionIdentity) : Bool :=
  utf8 identity.core ≠ [] ∧ (utf8 identity.core).length ≤ 64 ∧ (utf8 identity.core).all coreByte ∧
    validHex identity.contentHash 64 ∧ validHex identity.compatibilityHash 64

inductive Role
  | host
  | guest
deriving DecidableEq

structure IceServer where
  urls : List String
  username : Option String
  credential : Option String
deriving DecidableEq

inductive Signal
  | offer (sdp : String)
  | answer (sdp : String)
  | candidate (candidate : String) (sdpMid : Option String) (sdpMLineIndex : Option UInt16)
deriving DecidableEq

def validSdp (sdp : String) : Bool := utf8 sdp ≠ [] ∧ (utf8 sdp).length ≤ maxSdpBytes ∧ 0 ∉ utf8 sdp

def Signal.valid : Signal → Bool
  | .offer sdp => validSdp sdp
  | .answer sdp => validSdp sdp
  | .candidate text sdpMid _ =>
    (utf8 text).length ≤ maxCandidateBytes ∧ (∀ mid ∈ sdpMid, (utf8 mid).length ≤ 32) ∧ 0 ∉ utf8 text

inductive ClientMessage
  | create (version : UInt16) (accessToken : String) (identity : SessionIdentity)
  | join (version : UInt16) (accessToken room : String) (identity : SessionIdentity)
  | signal (signal : Signal)
  | finish
deriving DecidableEq

inductive ErrorCode
  | unauthorized
  | version
  | invalid
  | full
  | unavailable
  | incompatible
  | rateLimited
  | expired
deriving DecidableEq

inductive ServerMessage
  | welcome (version : UInt16) (room : String) (role : Role) (iceServers : List IceServer) (relayAllowed : Bool)
  | peerJoined
  | signal (signal : Signal)
  | complete
  | peerLeft
  | error (code : ErrorCode)
deriving DecidableEq

/-- The queue of a connection: everything ever put on it, and how much of it the reader has taken. -/
structure Channel where
  sent : List ServerMessage := []
  received : Nat := 0
  closed : Bool := false
deriving DecidableEq

def capacity : Nat := 8

def Channel.full (channel : Channel) : Bool := capacity ≤ channel.sent.length - channel.received

def Channel.trySend (channel : Channel) (message : ServerMessage) : Option Channel :=
  if channel.closed ∨ channel.full then none else some { channel with sent := channel.sent ++ [message] }

abbrev Channels := Nat → Channel

-- The sender half of a queue is the id of the connection that made the queue.
def trySend (channels : Channels) (id : Nat) (message : ServerMessage) : Option Channels :=
  ((channels id).trySend message).map (Function.update channels id)

-- A send whose failure is ignored.
def send (channels : Channels) (id : Nat) (message : ServerMessage) : Channels := (trySend channels id message).getD channels

structure Membership where
  code : String
  guest : Bool
deriving DecidableEq

structure Member where
  id : Nat
  candidates : Nat := 0
  description : Bool := false
  finished : Bool := false
deriving DecidableEq

structure Room where
  identity : SessionIdentity
  created : Nat
  host : Member
  guest : Option Member
deriving DecidableEq

structure Config where
  maxRooms : Nat
  roomTtl : Nat
  authenticated : String → Bool
  turn : Bool

structure Rooms where
  rooms : AssocMap String Room
  channels : Channels

namespace Room

def notify (room : Room) (channels : Channels) (message : ServerMessage) : Channels :=
  let channels := send channels room.host.id message
  match room.guest with
  | none => channels
  | some guest => send channels guest.id message

def hasMember (room : Room) (id : Nat) : Bool := room.host.id = id ∨ ∃ guest ∈ room.guest, guest.id = id

end Room

namespace Rooms

def alive (config : Config) (now : Nat) (room : Room) : Bool := now - room.created < config.roomTtl

def expire (config : Config) (now : Nat) (lobby : Rooms) : Rooms where
  rooms := lobby.rooms.retain (fun _ room => alive config now room)
  channels := lobby.rooms.entries.foldl (fun channels entry =>
    if alive config now entry.2 then channels else entry.2.notify channels (.error .expired)) lobby.channels

def remove (lobby : Rooms) (code : String) (id : Nat) : Rooms :=
  match lobby.rooms.get? code with
  | none => lobby
  | some room =>
    if room.hasMember id then ⟨lobby.rooms.erase code,room.notify lobby.channels .peerLeft⟩ else lobby

def hexDigit (value : Nat) : Char := (Nat.toDigits 16 value).headD '0'

def hexCode (entropy : List.Vector UInt8 12) : String :=
  String.ofList (entropy.toList.flatMap (fun byte => [hexDigit (byte.toNat / 16),hexDigit (byte.toNat % 16)]))

-- The draws that are left, and the code of the last one.
def drawCode (rooms : AssocMap String Room) (entropy : Nat → Option (List.Vector UInt8 12)) : Nat → String → Option String
  | 0,code => if (rooms.get? code).isSome then none else some code
  | attempts + 1,_ => do
    let drawn ← entropy attempts
    let code := hexCode drawn
    if (rooms.get? code).isSome then drawCode rooms entropy attempts code else some code

def create (config : Config) (lobby : Rooms) (now : Nat) (entropy : Nat → Option (List.Vector UInt8 12)) (id : Nat)
    (identity : SessionIdentity) : Except ErrorCode String × Rooms :=
  if config.maxRooms ≤ lobby.rooms.size then (.error .full,lobby)
  else
    match drawCode lobby.rooms entropy 4 "" with
    | none => (.error .unavailable,lobby)
    | some code => (.ok code,{ lobby with rooms := lobby.rooms.insert code ⟨identity,now,{ id := id },none⟩ })

def join (lobby : Rooms) (id : Nat) (identity : SessionIdentity) (code : String) : Except ErrorCode String × Rooms :=
  if validHex code 24 then
    match lobby.rooms.get? code with
    | none => (.error .unavailable,lobby)
    | some room =>
      if room.guest.isSome then (.error .full,lobby)
      else if room.identity ≠ identity then (.error .incompatible,lobby)
      else
        match trySend lobby.channels room.host.id .peerJoined with
        | none => (.error .unavailable,{ lobby with rooms := lobby.rooms.erase code })
        | some channels => (.ok code,⟨lobby.rooms.insert code { room with guest := some { id := id } },channels⟩)
  else (.error .invalid,lobby)

/-- What a first message asks for: its version, token and identity, and the room to join. -/
def request : ClientMessage → Option (UInt16 × String × SessionIdentity × Option String)
  | .create version accessToken identity => some (version,accessToken,identity,none)
  | .join version accessToken room identity => some (version,accessToken,identity,some room)
  | _ => none

def place (config : Config) (lobby : Rooms) (now : Nat) (entropy : Nat → Option (List.Vector UInt8 12)) (id : Nat)
    (identity : SessionIdentity) : Option String → Except ErrorCode String × Rooms
  | some code => lobby.join id identity code
  | none => lobby.create config now entropy id identity

def enter (config : Config) (lobby : Rooms) (now : Nat) (entropy : Nat → Option (List.Vector UInt8 12))
    (ice : Option (List IceServer)) (id : Nat) (message : ClientMessage) :
    Except ErrorCode (Membership × ServerMessage) × Rooms :=
  let lobby := lobby.expire config now
  match request message with
  | none => (.error .invalid,lobby)
  | some (clientVersion,token,identity,requested) =>
    if config.authenticated token = false then (.error .unauthorized,lobby)
    else if clientVersion ≠ version then (.error .version,lobby)
    else if identity.valid = false then (.error .invalid,lobby)
    else
      match lobby.place config now entropy id identity requested with
      | (.error error,lobby) => (.error error,lobby)
      | (.ok code,lobby) =>
        match ice with
        | none => (.error .unavailable,lobby.remove code id)
        | some iceServers =>
          let guest := requested.isSome
          (.ok (⟨code,guest⟩,.welcome version code (if guest then .guest else .host) iceServers config.turn),lobby)

/-- The marks that a signal leaves on its sender, unless the sender may not send it. -/
def mark (sender other : Member) (guest : Bool) : Signal → Option Member
  | .offer _ => if guest = false ∧ sender.description = false then some { sender with description := true } else none
  | .answer _ =>
    if guest = true ∧ sender.description = false ∧ other.description = true then some { sender with description := true }
    else none
  | .candidate .. =>
    if sender.candidates < maxCandidates then some { sender with candidates := sender.candidates + 1 } else none

def withSender (room : Room) (guest : Bool) (sender : Member) : Room :=
  if guest then { room with guest := some sender } else { room with host := sender }

/-- A signal or the end of the signalling. The marks are left before the event is put on the queue. -/
def signal (lobby : Rooms) (membership : Membership) (id : Nat) (message : ClientMessage) : Except ErrorCode Unit × Rooms :=
  match lobby.rooms.get? membership.code with
  | none => (.error .expired,lobby)
  | some room =>
    match room.guest with
    | none => (.error .unavailable,lobby)
    | some guest =>
      let (sender,other) := if membership.guest then (guest,room.host) else (room.host,guest)
      if sender.id ≠ id ∨ sender.finished = true then (.error .invalid,lobby)
      else
        match message with
        | .signal signal =>
          if signal.valid = false then (.error .invalid,lobby)
          else
            match mark sender other membership.guest signal with
            | none => (.error .invalid,lobby)
            | some sender =>
              let rooms := lobby.rooms.insert membership.code (withSender room membership.guest sender)
              match trySend lobby.channels other.id (.signal signal) with
              | none => (.error .rateLimited,{ lobby with rooms := rooms })
              | some channels => (.ok (),⟨rooms,channels⟩)
        | .finish =>
          if sender.description = true ∧ other.description = true then
            if other.finished then
              (.ok (),⟨lobby.rooms.erase membership.code,send (send lobby.channels other.id .complete) sender.id .complete⟩)
            else
              let room := withSender room membership.guest { sender with finished := true }
              (.ok (),{ lobby with rooms := lobby.rooms.insert membership.code room })
          else (.error .invalid,lobby)
        | _ => (.error .invalid,lobby)

end Rooms

end ZeffBoy.Lobby
