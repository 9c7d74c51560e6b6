import ZeffBoy.Library.Transition
import ZeffBoy.Wire.Codec

/-! Streams of packets between two codecs.
What one side encodes the other decodes, packet by packet; a packet out of its place, of
the own role or of another transcript is refused, and a refusal is final. -/
namespace ZeffBoy.Wire
open Library Netplay List

namespace Messages

theorem decode_encode (c : PacketCodec) (message : Message) (fits : message.Fits)
    (allowed : c.checkMessage message = .ok ()) :
    ∃ kind payload, encode message = kind::payload ∧ decode kind payload c.player = .ok message := by
  cases message with
  | chat text =>
    change validateChat text = .ok () at allowed
    refine ⟨8,utf8 text,rfl,?_⟩
    change (context (fromUtf8 (utf8 text)) _ >>= _) = _
    rw [fromUtf8_utf8]
    change (validateChat text >>= _) = _
    rw [allowed]
    rfl
  | input player frame buttons =>
    obtain rfl := ensure_ok.mp allowed
    refine ⟨1,_,rfl,?_⟩
    have word : slice (role c.player::(beBytes 8 frame ++ beBytes 2 buttons.toNat)) 1 9 = beBytes 8 frame := by
      simp [slice_cons_skip,slice_front]
    have half : slice (role c.player::(beBytes 8 frame ++ beBytes 2 buttons.toNat)) 9 11 = beBytes 2 buttons.toNat := by
      simp [slice_cons_skip,slice_skip,slice_all]
    change (ensure _ _ >>= _) = _
    rw [ensure_pos (by simp),ok_bind,ensure_pos (by simp),ok_bind,word,half,beValue_word64 frame fits,beValue_word16]
    rfl
  | checkpoint frame logical video audio persistent =>
    refine ⟨2,_,rfl,?_⟩
    change (ensure _ _ >>= _) = _
    rw [ensure_pos (by simp),ok_bind]
    simp [slice_skip,slice_front,slice_all,context,beValue_word64 frame fits]
  | close frame =>
    refine ⟨3,_,rfl,?_⟩
    change (ensure _ _ >>= _) = _
    rw [ensure_pos (by simp),ok_bind,beValue_word64 frame fits]
    rfl
  | pause frame paused =>
    refine ⟨4,_,rfl,?_⟩
    change (ensure _ _ >>= _) = _
    have last : byteAt (beBytes 8 frame ++ [flag paused]) 8 = flag paused := by simp [byteAt_skip]
    rw [ensure_pos (by simp),ok_bind,last,ensure_pos (flag_le paused),ok_bind,slice_front _ _ 8 (by simp),
      beValue_word64 frame fits,flag_eq_one]
    rfl
  | progress frame confirmed =>
    refine ⟨5,_,rfl,?_⟩
    change (ensure _ _ >>= _) = _
    have first : slice (beBytes 8 frame ++ beBytes 8 confirmed) 0 8 = beBytes 8 frame := slice_front _ _ 8 (by simp)
    have second : slice (beBytes 8 frame ++ beBytes 8 confirmed) 8 16 = beBytes 8 confirmed := by
      simp [slice_skip,slice_all]
    rw [ensure_pos (by simp),ok_bind]
    dsimp only
    rw [first,second,beValue_word64 frame fits.1,beValue_word64 confirmed fits.2,
      ensure_pos (ensure_ok.mp allowed),ok_bind]
    rfl
  | pauseChange request frame paused =>
    refine ⟨6,_,rfl,?_⟩
    change (ensure _ _ >>= _) = _
    have first : slice (beBytes 8 request ++ (beBytes 8 frame ++ [flag paused])) 0 8 = beBytes 8 request :=
      slice_front _ _ 8 (by simp)
    have second : slice (beBytes 8 request ++ (beBytes 8 frame ++ [flag paused])) 8 16 = beBytes 8 frame := by
      simp [slice_skip,slice_front]
    have last : byteAt (beBytes 8 request ++ (beBytes 8 frame ++ [flag paused])) 16 = flag paused := by
      simp [byteAt_skip]
    rw [ensure_pos (by simp),ok_bind]
    dsimp only
    rw [first,second,last,beValue_word64 request fits.1,beValue_word64 frame fits.2,
      ensure_pos (ensure_ok.mp allowed),ok_bind,ensure_pos (flag_le paused),ok_bind,flag_eq_one]
    rfl
  | pauseAck request =>
    refine ⟨7,_,rfl,?_⟩
    change (ensure _ _ >>= _) = _
    rw [ensure_pos (by simp),ok_bind]
    dsimp only
    rw [beValue_word64 request fits,ensure_pos (ensure_ok.mp allowed),ok_bind]
    rfl

end Messages

namespace PacketCodec
variable (hmac : Digest → Bytes → Digest)

-- The packet of a message at the place of the codec's send counter.
def sealed (c : PacketCodec) (message : Message) : Bytes :=
  c.packetBody message ++ (hmac c.secret (packetDomain ++ c.packetBody message)).toList

theorem encodeInner_ok (c : PacketCodec) (message : Message) (packet : Bytes) (next : PacketCodec)
    (ok : c.encodeInner hmac message = .ok (packet,next)) :
    c.terminal = false ∧ c.sentClose = false ∧ (c.receivedClose → message.isClose) ∧
    c.checkMessage message = .ok () ∧ c.sent + 1 < 2^64 ∧ (c.packetBody message).length + tagLen ≤ maxPacket ∧
    packet = c.sealed hmac message ∧ next = {c with sent := c.sent + 1, sentClose := message.isClose} := by
  unfold encodeInner at ok
  obtain ⟨_,live,ok⟩ := bind_ok.mp ok
  obtain ⟨_,answer,ok⟩ := bind_ok.mp ok
  obtain ⟨_,allowed,ok⟩ := bind_ok.mp ok
  obtain ⟨_,count,ok⟩ := bind_ok.mp ok
  obtain ⟨_,size,ok⟩ := bind_ok.mp ok
  rw [ensure_ok] at live answer size
  obtain ⟨room,rfl⟩ := checkedAdd_ok.mp count
  obtain ⟨rfl,rfl⟩ := Prod.mk.inj (Except.ok.inj ok)
  simp only [Bool.and_eq_true,Bool.not_eq_true'] at live
  refine ⟨live.1,live.2,fun closed => ?_,allowed,room,size,rfl,rfl⟩
  simpa [closed] using answer

section Layout
variable (c : PacketCodec) (message : Message)

theorem body_magic : slice (c.packetBody message) 0 4 = magic := slice_front _ _ 4 rfl

theorem body_version : slice (c.packetBody message) 4 6 = beBytes 2 version := by
  simp [packetBody,slice_skip,slice_front]

theorem body_transcript : slice (c.packetBody message) 6 38 = c.transcript.toList := by
  simp [packetBody,slice_skip,slice_front]

theorem body_role : byteAt (c.packetBody message) 38 = role c.player := by
  simp [packetBody,byteAt_skip]

theorem body_sequence (fits : c.sent < 2^64) : beValue (slice (c.packetBody message) 39 47) = c.sent := by
  have word : slice (c.packetBody message) 39 47 = beBytes 8 c.sent := by
    simp [packetBody,slice_skip,slice_cons_skip,slice_front]
  rw [word,beValue_word64 c.sent fits]

theorem body_message (kind : UInt8) (payload : Bytes) (encoded : Messages.encode message = kind::payload) :
    byteAt (c.packetBody message) 47 = kind ∧ (c.packetBody message).drop headerLen = payload ∧
    headerLen ≤ (c.packetBody message).length := by
  have front : c.packetBody message =
      (magic ++ beBytes 2 version ++ c.transcript.toList ++ [role c.player] ++ beBytes 8 c.sent) ++ kind::payload := by
    simp [packetBody,encoded]
  refine ⟨?_,?_,?_⟩
  · rw [front,byteAt_skip (by simp)]
    simp
  · rw [front,drop_append]
    simp [headerLen]
  · rw [front]
    simp [headerLen]
    omega

theorem sealed_split : (c.sealed hmac message).take ((c.sealed hmac message).length - tagLen) = c.packetBody message ∧
    (c.sealed hmac message).drop ((c.sealed hmac message).length - tagLen) =
      (hmac c.secret (packetDomain ++ c.packetBody message)).toList := by
  simp [sealed,tagLen]

end Layout

section Decode
variable (a b : PacketCodec) (message : Message)

theorem decodeInner_sealed (small : a.sent < 2^64) (result : Message × PacketCodec)
    (ok : b.decodeInner hmac (a.sealed hmac message) = .ok result) :
    (b.transcript = a.transcript ∧ a.player = other b.player ∧ b.received = a.sent) ∧
    b.terminal = false ∧ b.receivedClose = false ∧
    ∃ decoded, Messages.decode (byteAt (a.packetBody message) 47) ((a.packetBody message).drop headerLen) a.player =
      .ok decoded ∧ result = (decoded,{b with received := b.received + 1, receivedClose := decoded.isClose}) := by
  obtain ⟨body,_⟩ := sealed_split hmac a message
  unfold decodeInner at ok
  obtain ⟨_,live,ok⟩ := bind_ok.mp ok
  obtain ⟨_,_,ok⟩ := bind_ok.mp ok
  dsimp only at ok
  rw [body] at ok
  obtain ⟨_,_,ok⟩ := bind_ok.mp ok
  obtain ⟨_,session,ok⟩ := bind_ok.mp ok
  obtain ⟨_,sender,ok⟩ := bind_ok.mp ok
  obtain ⟨_,place,ok⟩ := bind_ok.mp ok
  obtain ⟨_,_,ok⟩ := bind_ok.mp ok
  obtain ⟨decoded,read,ok⟩ := bind_ok.mp ok
  obtain ⟨_,_,ok⟩ := bind_ok.mp ok
  obtain ⟨_,count,ok⟩ := bind_ok.mp ok
  obtain ⟨_,rfl⟩ := checkedAdd_ok.mp count
  rw [ensure_ok] at live session sender place
  rw [body_transcript] at session
  rw [body_role] at sender
  rw [body_sequence a message small] at place
  simp only [Bool.and_eq_true,Bool.not_eq_true'] at live
  have facing := role_injective sender
  exact ⟨⟨(List.Vector.toList_injective session).symm,facing,place.symm⟩,live.1,live.2,decoded,facing ▸ read,
    (Except.ok.inj ok).symm⟩

theorem decodeInner_next (fits : message.Fits) (allowed : a.checkMessage message = .ok ()) (room : a.sent + 1 < 2^64)
    (size : (a.packetBody message).length + tagLen ≤ maxPacket) (facing : a.player = other b.player)
    (secret : b.secret = a.secret) (transcript : b.transcript = a.transcript) (place : b.received = a.sent)
    (live : b.terminal = false) (open_ : b.receivedClose = false) (listens : b.sentClose → message.isClose) :
    b.decodeInner hmac (a.sealed hmac message) =
      .ok (message,{b with received := b.received + 1, receivedClose := message.isClose}) := by
  obtain ⟨body,signature⟩ := sealed_split hmac a message
  obtain ⟨kind,payload,encoded,decoded⟩ := Messages.decode_encode a message fits allowed
  obtain ⟨kind_eq,payload_eq,long⟩ := body_message a message kind payload encoded
  have length : (a.sealed hmac message).length = (a.packetBody message).length + tagLen := by simp [sealed,tagLen]
  unfold decodeInner
  rw [ensure_pos (by simp [live,open_]),ok_bind,ensure_pos (by rw [length]; omega),ok_bind]
  dsimp only
  rw [body,signature,ensure_pos ⟨body_magic a message,body_version a message⟩,ok_bind,
    ensure_pos (by rw [body_transcript,transcript]),ok_bind,ensure_pos (by rw [body_role,facing]),ok_bind,
    ensure_pos (by rw [body_sequence a message (by omega),place]),ok_bind,verify,secret,ensure_pos rfl,ok_bind,
    kind_eq,payload_eq,← facing,decoded,ok_bind,ensure_pos (by cases closed : b.sentClose <;> simp_all),ok_bind,
    checkedAdd_pos (by rw [place]; exact room),ok_bind]
  rfl

end Decode

theorem encode_ok (c : PacketCodec) (message : Message) (packet : Bytes) (next : PacketCodec) :
    c.encode hmac message = (.ok packet,next) ↔ c.encodeInner hmac message = .ok (packet,next) := by
  unfold encode finish
  cases c.encodeInner hmac message <;> simp [Prod.ext_iff]

theorem decode_ok (c : PacketCodec) (packet : Bytes) (message : Message) (next : PacketCodec) :
    c.decode hmac packet = (.ok message,next) ↔ c.decodeInner hmac packet = .ok (message,next) := by
  unfold decode finish
  cases c.decodeInner hmac packet <;> simp [Prod.ext_iff]

def Refuses (c : PacketCodec) (packet : Bytes) : Prop := ∃ error, (c.decode hmac packet).1 = .error error

theorem refuses_of_sealed (a b : PacketCodec) (message : Message) (small : a.sent < 2^64)
    (misplaced : ¬ (b.transcript = a.transcript ∧ a.player = other b.player ∧ b.received = a.sent)) :
    b.Refuses hmac (a.sealed hmac message) := by
  unfold Refuses decode finish
  cases outcome : b.decodeInner hmac (a.sealed hmac message) with
  | error error => exact ⟨error,rfl⟩
  | ok result => exact absurd (decodeInner_sealed hmac a b message small result outcome).1 misplaced

def encodeAll (c : PacketCodec) : List Message → Except String (List Bytes × PacketCodec)
  | [] => .ok ([],c)
  | message::rest => do
    let (packet,c) ← attempt (c.encode hmac message)
    let (packets,c) ← c.encodeAll rest
    return (packet::packets,c)

def decodeAll (c : PacketCodec) : List Bytes → Except String (List Message × PacketCodec)
  | [] => .ok ([],c)
  | packet::rest => do
    let (message,c) ← attempt (c.decode hmac packet)
    let (messages,c) ← c.decodeAll rest
    return (message::messages,c)

/-- The receiver `b` stands where the sender `a` does. -/
structure Facing (a b : PacketCodec) : Prop where
  players : a.player = other b.player
  secret : b.secret = a.secret
  transcript : b.transcript = a.transcript
  place : b.received = a.sent
  live : b.terminal = false
  closed : b.receivedClose = a.sentClose
  listens : b.sentClose = false

theorem Facing.step {a b : PacketCodec} (f : Facing a b) (message : Message) (fits : message.Fits) (packet : Bytes)
    (next : PacketCodec) (ok : a.encodeInner hmac message = .ok (packet,next)) :
    ∃ after, b.decodeInner hmac packet = .ok (message,after) ∧ Facing next after := by
  obtain ⟨_,open_,_,allowed,room,size,rfl,rfl⟩ := encodeInner_ok hmac a message packet next ok
  refine ⟨_,decodeInner_next hmac a b message fits allowed room size f.players f.secret f.transcript f.place f.live
    (f.closed.trans open_) (by simp [f.listens]),?_⟩
  exact ⟨f.players,f.secret,f.transcript,by rw [f.place],f.live,rfl,f.listens⟩

theorem Facing.decodeAll {a b : PacketCodec} (f : Facing a b) (messages : List Message)
    (fits : ∀ message ∈ messages, message.Fits) (packets : List Bytes) (last : PacketCodec)
    (ok : a.encodeAll hmac messages = .ok (packets,last)) :
    ∃ after, b.decodeAll hmac packets = .ok (messages,after) := by
  induction messages generalizing a b packets with
  | nil =>
    obtain ⟨rfl,rfl⟩ := Prod.mk.inj (Except.ok.inj ok)
    exact ⟨b,rfl⟩
  | cons message rest ih =>
    obtain ⟨⟨packet,next⟩,encoded,ok⟩ := bind_ok.mp ok
    obtain ⟨⟨more,final⟩,others,ok⟩ := bind_ok.mp ok
    obtain ⟨rfl,rfl⟩ := Prod.mk.inj (Except.ok.inj ok)
    rw [attempt_ok,encode_ok] at encoded
    obtain ⟨received,decoded,facing⟩ := f.step hmac message (fits message (by simp)) packet next encoded
    obtain ⟨after,remaining⟩ := ih facing (fun m member => fits m (by simp [member])) more others
    refine ⟨after,?_⟩
    have taken := attempt_ok.mpr ((decode_ok hmac b packet message received).mpr decoded)
    simp only [PacketCodec.decodeAll,taken,ok_bind,remaining]
    rfl

-- Calls of a codec in any order, with whether each one was accepted.
inductive Use
  | encode (message : Message)
  | decode (packet : Bytes)

def use (c : PacketCodec) : Use → Bool × PacketCodec
  | .encode message => ((c.encode hmac message).1.isOk,(c.encode hmac message).2)
  | .decode packet => ((c.decode hmac packet).1.isOk,(c.decode hmac packet).2)

def outcomes (c : PacketCodec) : List Use → List Bool
  | [] => []
  | call::rest => (c.use hmac call).1::(c.use hmac call).2.outcomes rest

theorem use_refused (c : PacketCodec) (call : Use) (refused : (c.use hmac call).1 = false) :
    (c.use hmac call).2 = {c with terminal := true} := by
  cases call with
  | encode message =>
    unfold use encode finish at *
    cases outcome : c.encodeInner hmac message <;> simp_all [Except.isOk,Except.toBool]
  | decode packet =>
    unfold use decode finish at *
    cases outcome : c.decodeInner hmac packet <;> simp_all [Except.isOk,Except.toBool]

theorem use_terminal (c : PacketCodec) (dead : c.terminal) (call : Use) :
    (c.use hmac call).1 = false := by
  cases call with
  | encode message => simp [use,encode,finish,encodeInner,ensure,dead,bind,Except.bind,Except.isOk,Except.toBool]
  | decode packet => simp [use,decode,finish,decodeInner,ensure,dead,bind,Except.bind,Except.isOk,Except.toBool]

theorem outcomes_terminal (c : PacketCodec) (dead : c.terminal) (calls : List Use) :
    ∀ outcome ∈ c.outcomes hmac calls, outcome = false := by
  induction calls generalizing c with
  | nil => simp [outcomes]
  | cons call rest ih =>
    have refused := c.use_terminal hmac dead call
    intro outcome member
    rcases mem_cons.mp member with rfl | later
    · exact refused
    · exact ih _ (by rw [c.use_refused hmac call refused]) outcome later

end PacketCodec

/-- Both codecs of a session, the packets and messages each side has encoded, and the messages each side has decoded. -/
structure Conversation where
  codecs : Ports PacketCodec
  packets : Ports (List Bytes)
  said : Ports (List Message)
  heard : Ports (List Message)

namespace Conversation
variable (hmac : Digest → Bytes → Digest) (secret transcript : Digest)

def initial : Conversation where
  codecs := ⟨.new .one secret transcript,.new .two secret transcript⟩
  packets := .both []
  said := .both []
  heard := .both []

inductive Step : Conversation → Conversation → Prop
  | send (x : Conversation) (player : Player) (message : Message) (packet : Bytes) (next : PacketCodec)
    (fits : message.Fits) (ok : (x.codecs.get player).encode hmac message = (.ok packet,next)) :
    Step x {x with
      codecs := x.codecs.set player next
      packets := x.packets.set player (x.packets.get player ++ [packet])
      said := x.said.set player (x.said.get player ++ [message])}
  | hear (x : Conversation) (player : Player) (packet : Bytes) (message : Message) (next : PacketCodec)
    (arrived : packet ∈ x.packets.get (other player))
    (ok : (x.codecs.get player).decode hmac packet = (.ok message,next)) :
    Step x {x with
      codecs := x.codecs.set player next
      heard := x.heard.set player (x.heard.get player ++ [message])}
  | refuse (x : Conversation) (player : Player) (call : PacketCodec.Use)
    (refused : ((x.codecs.get player).use hmac call).1 = false) :
    Step x {x with codecs := x.codecs.set player ((x.codecs.get player).use hmac call).2}

def Reachable (x : Conversation) : Prop := Relation.ReflTransGen (Step hmac) (initial secret transcript) x

-- The codec of a player at a place of its stream.
def place (player : Player) (index : Nat) : PacketCodec := {PacketCodec.new player secret transcript with sent := index}

/-- A codec with the messages it has encoded and their packets. -/
structure Voice (player : Player) (c : PacketCodec) (packets : List Bytes) (said : List Message) : Prop where
  owner : c.player = player
  keyed : c.secret = secret ∧ c.transcript = transcript
  encoded : packets = said.mapIdx fun index message => (place secret transcript player index).sealed hmac message
  sent : c.sent = said.length
  small : said.length < 2^64
  valid : ∀ index message, said[index]? = some message → message.Fits ∧
    (place secret transcript player index).checkMessage message = .ok () ∧ index + 1 < 2^64 ∧
    ((place secret transcript player index).packetBody message).length + tagLen ≤ maxPacket
  final : ∀ index message, said[index]? = some message → message.isClose → index + 1 = said.length ∧ c.sentClose

/-- A codec with the part of the peer's messages it has decoded. -/
structure Ear (c peer : PacketCodec) (said heard : List Message) : Prop where
  decoded : heard = said.take c.received
  behind : c.received ≤ said.length
  closed : c.receivedClose → peer.sentClose ∧ c.received = said.length

structure Sound (x : Conversation) : Prop where
  voice : ∀ player, Voice hmac secret transcript player (x.codecs.get player) (x.packets.get player) (x.said.get player)
  ear : ∀ player, Ear (x.codecs.get player) (x.codecs.get (other player)) (x.said.get (other player)) (x.heard.get player)

theorem voice_new (player : Player) : Voice hmac secret transcript player (.new player secret transcript) [] [] where
  owner := rfl
  keyed := ⟨rfl,rfl⟩
  encoded := rfl
  sent := rfl
  small := by decide
  valid := by simp
  final := by simp

theorem ear_new (player : Player) : Ear (.new player secret transcript) (.new (other player) secret transcript) [] [] where
  decoded := rfl
  behind := le_rfl
  closed := by simp [PacketCodec.new]

theorem sound_initial : Sound hmac secret transcript (initial secret transcript) where
  voice := by
    rintro (_ | _)
    · exact voice_new hmac secret transcript .one
    · exact voice_new hmac secret transcript .two
  ear := by
    rintro (_ | _)
    · exact ear_new secret transcript .one
    · exact ear_new secret transcript .two

section
variable {hmac : Digest → Bytes → Digest} {secret transcript : Digest} {x : Conversation} {player : Player}
  {c peer : PacketCodec} {packets : List Bytes} {said heard : List Message}

theorem Voice.send (v : Voice hmac secret transcript player c packets said) (message : Message) (fits : message.Fits)
    (packet : Bytes) (next : PacketCodec) (ok : c.encodeInner hmac message = .ok (packet,next)) :
    Voice hmac secret transcript player next (packets ++ [packet]) (said ++ [message]) ∧ c.sentClose = false ∧
    next.received = c.received ∧ next.receivedClose = c.receivedClose := by
  obtain ⟨_,open_,_,allowed,room,size,rfl,rfl⟩ := PacketCodec.encodeInner_ok hmac c message packet next ok
  obtain ⟨rfl,⟨rfl,rfl⟩,rfl,sent,_,valid,final⟩ := v
  refine ⟨⟨rfl,⟨rfl,rfl⟩,?_,by simp [sent],by simp; omega,?_,?_⟩,open_,rfl,rfl⟩
  · rw [mapIdx_concat,← sent]
    rfl
  · intro index spoken found
    rcases lt_or_ge index said.length with old | new
    · rw [List.getElem?_append_left old] at found
      exact valid index spoken found
    · rw [List.getElem?_append_right new] at found
      obtain ⟨within,rfl⟩ := List.getElem?_eq_some_iff.mp found
      simp only [length_cons,length_nil] at within
      obtain rfl : index = c.sent := by omega
      simp only [getElem_singleton]
      exact ⟨fits,allowed,room,size⟩
  · intro index spoken found close
    rcases lt_or_ge index said.length with old | new
    · rw [List.getElem?_append_left old] at found
      have closed := (final index spoken found close).2
      rw [open_] at closed
      contradiction
    · rw [List.getElem?_append_right new] at found
      obtain ⟨within,rfl⟩ := List.getElem?_eq_some_iff.mp found
      simp only [length_cons,length_nil] at within
      simp only [getElem_singleton] at close
      refine ⟨?_,close⟩
      rw [length_append,length_singleton]
      omega

theorem Voice.packet_at (v : Voice hmac secret transcript player c packets said) (index : Nat) (packet : Bytes)
    (found : packets[index]? = some packet) :
    ∃ message, said[index]? = some message ∧ packet = (place secret transcript player index).sealed hmac message := by
  rw [v.encoded,List.getElem?_mapIdx] at found
  obtain ⟨message,spoken,same⟩ := Option.map_eq_some_iff.mp found
  exact ⟨message,spoken,same.symm⟩

theorem Voice.accepted (v : Voice hmac secret transcript (other player) peer packets said) (index : Nat) (packet : Bytes)
    (found : packets[index]? = some packet) (message : Message) (next : PacketCodec)
    (ok : c.decodeInner hmac packet = .ok (message,next)) :
    c.received = index ∧ c.receivedClose = false ∧ said[index]? = some message ∧
    next = {c with received := index + 1, receivedClose := message.isClose} := by
  obtain ⟨spoken,at_,rfl⟩ := v.packet_at index packet found
  obtain ⟨fits,allowed,room,_⟩ := v.valid index spoken at_
  obtain ⟨⟨_,_,rfl⟩,_,open_,decoded,read,result⟩ :=
    PacketCodec.decodeInner_sealed hmac _ c spoken (Nat.lt_of_succ_lt room) _ ok
  obtain ⟨kind,payload,encoded,back⟩ := Messages.decode_encode _ spoken fits allowed
  obtain ⟨kind_eq,payload_eq,_⟩ := PacketCodec.body_message (place secret transcript (other player) c.received) spoken kind payload encoded
  rw [kind_eq,payload_eq] at read
  obtain rfl := Except.ok.inj (read.symm.trans back)
  obtain ⟨rfl,rfl⟩ := Prod.mk.inj result
  exact ⟨rfl,open_,at_,rfl⟩

theorem Ear.hear (e : Ear c peer said heard) (message : Message) (spoken : said[c.received]? = some message)
    (final : message.isClose → c.received + 1 = said.length ∧ peer.sentClose) :
    Ear {c with received := c.received + 1, receivedClose := message.isClose} peer said (heard ++ [message]) where
  decoded := by
    rw [e.decoded]
    dsimp only
    rw [take_add_one,spoken]
    rfl
  behind := (List.getElem?_eq_some_iff.mp spoken).1
  closed := fun close => ⟨(final close).2,(final close).1⟩

theorem Sound.send (s : Sound hmac secret transcript x) (player : Player) (message : Message) (packet : Bytes)
    (next : PacketCodec) (fits : message.Fits) (ok : (x.codecs.get player).encodeInner hmac message = .ok (packet,next)) :
    Sound hmac secret transcript {x with
      codecs := x.codecs.set player next
      packets := x.packets.set player (x.packets.get player ++ [packet])
      said := x.said.set player (x.said.get player ++ [message])} := by
  obtain ⟨voice,open_,received,closed⟩ := (s.voice player).send message fits packet next ok
  refine ⟨fun reader => ?_,fun reader => ?_⟩
  · rcases eq_or_other player reader with rfl | rfl
    · simpa using voice
    · simpa [Ports.get_set,other_ne] using s.voice (other player)
  · rcases eq_or_other player reader with rfl | rfl
    · have ear := s.ear reader
      simp only [Ports.get_set,if_true,other_ne,if_false]
      exact ⟨by rw [received]; exact ear.decoded,by rw [received]; exact ear.behind,
        by rw [received,closed]; exact ear.closed⟩
    · have ear := s.ear (other player)
      rw [other_other] at ear
      simp only [other_other,Ports.get_set,other_ne,if_true,if_false]
      have behind := ear.behind
      refine ⟨?_,by rw [length_append]; omega,fun close => ?_⟩
      · rw [take_append_of_le_length ear.behind]
        exact ear.decoded
      · have sealed_ := (ear.closed close).1
        rw [open_] at sealed_
        contradiction

theorem Sound.hear (s : Sound hmac secret transcript x) (player : Player) (packet : Bytes) (message : Message)
    (next : PacketCodec) (arrived : packet ∈ x.packets.get (other player))
    (ok : (x.codecs.get player).decodeInner hmac packet = .ok (message,next)) :
    Sound hmac secret transcript {x with
      codecs := x.codecs.set player next
      heard := x.heard.set player (x.heard.get player ++ [message])} := by
  obtain ⟨index,found⟩ := List.mem_iff_getElem?.mp arrived
  obtain ⟨rfl,_,spoken,rfl⟩ := (s.voice (other player)).accepted index packet found message next ok
  have final := (s.voice (other player)).final _ message spoken
  refine ⟨fun reader => ?_,fun reader => ?_⟩
  · rcases eq_or_other player reader with rfl | rfl
    · have voice := s.voice reader
      simp only [Ports.get_set_self]
      exact ⟨voice.owner,voice.keyed,voice.encoded,voice.sent,voice.small,voice.valid,voice.final⟩
    · simpa [Ports.get_set,other_ne] using s.voice (other player)
  · rcases eq_or_other player reader with rfl | rfl
    · simpa [Ports.get_set,other_ne] using (s.ear reader).hear message spoken final
    · have ear := s.ear (other player)
      rw [other_other] at ear
      simp only [other_other,Ports.get_set,other_ne,if_true,if_false]
      exact ⟨ear.decoded,ear.behind,ear.closed⟩

theorem Sound.refuse (s : Sound hmac secret transcript x) (player : Player) :
    Sound hmac secret transcript {x with
      codecs := x.codecs.set player {x.codecs.get player with terminal := true}} := by
  refine ⟨fun reader => ?_,fun reader => ?_⟩
  · rcases eq_or_other player reader with rfl | rfl
    · have voice := s.voice reader
      simp only [Ports.get_set_self]
      exact ⟨voice.owner,voice.keyed,voice.encoded,voice.sent,voice.small,voice.valid,voice.final⟩
    · simpa [Ports.get_set,other_ne] using s.voice (other player)
  · have ear := s.ear reader
    rcases eq_or_other player reader with rfl | rfl
    · simp only [Ports.get_set,if_true,other_ne,if_false]
      exact ⟨ear.decoded,ear.behind,ear.closed⟩
    · rw [other_other] at ear ⊢
      simp only [Ports.get_set,if_true,other_ne,if_false]
      exact ⟨ear.decoded,ear.behind,ear.closed⟩

theorem Sound.step (s : Sound hmac secret transcript x) (after : Conversation) (step : Step hmac x after) :
    Sound hmac secret transcript after := by
  cases step with
  | send player message packet next fits ok =>
    exact s.send player message packet next fits ((PacketCodec.encode_ok hmac _ _ _ _).mp ok)
  | hear player packet message next arrived ok =>
    exact s.hear player packet message next arrived ((PacketCodec.decode_ok hmac _ _ _ _).mp ok)
  | refuse player call refused =>
    rw [PacketCodec.use_refused hmac _ call refused]
    exact s.refuse player

theorem Reachable.sound (reach : Reachable hmac secret transcript x) : Sound hmac secret transcript x :=
  invariant_of_run (sound_initial hmac secret transcript) (fun _ after s step => s.step after step) reach

theorem Sound.next (s : Sound hmac secret transcript x) (player : Player) (packet : Bytes)
    (found : (x.packets.get (other player))[(x.heard.get player).length]? = some packet)
    (live : (x.codecs.get player).terminal = false) :
    ∃ message, (x.said.get (other player))[(x.heard.get player).length]? = some message ∧
      (((x.codecs.get player).sentClose → message.isClose) →
        ((x.codecs.get player).decode hmac packet).1 = .ok message) := by
  have voice := s.voice (other player)
  have own := s.voice player
  have ear := s.ear player
  have place : (x.heard.get player).length = (x.codecs.get player).received := by
    rw [ear.decoded,length_take,min_eq_left ear.behind]
  rw [place] at found ⊢
  obtain ⟨message,spoken,rfl⟩ := voice.packet_at _ packet found
  obtain ⟨fits,allowed,room,size⟩ := voice.valid _ message spoken
  refine ⟨message,spoken,fun listens => ?_⟩
  have open_ : (x.codecs.get player).receivedClose = false := by
    by_contra closed
    have whole := (ear.closed (by simpa using closed)).2
    have inside := (List.getElem?_eq_some_iff.mp spoken).1
    omega
  have decoded := PacketCodec.decodeInner_next hmac (Conversation.place secret transcript (other player) _)
    (x.codecs.get player) message fits allowed room size (by rw [own.owner]; rfl) own.keyed.1 own.keyed.2 rfl live open_ listens
  rw [(PacketCodec.decode_ok hmac _ _ _ _).mpr decoded]

theorem Sound.misplaced (s : Sound hmac secret transcript x) (player : Player) (index : Nat) (packet : Bytes)
    (found : (x.packets.get (other player))[index]? = some packet) (elsewhere : index ≠ (x.heard.get player).length) :
    (x.codecs.get player).Refuses hmac packet := by
  have voice := s.voice (other player)
  have ear := s.ear player
  obtain ⟨message,spoken,rfl⟩ := voice.packet_at _ packet found
  have room := (voice.valid _ message spoken).2.2.1
  refine PacketCodec.refuses_of_sealed hmac _ _ message (Nat.lt_of_succ_lt room) ?_
  rintro ⟨_,_,at_⟩
  rw [ear.decoded,length_take,min_eq_left ear.behind] at elsewhere
  exact elsewhere at_.symm

theorem Sound.reflected (s : Sound hmac secret transcript x) (player : Player) (packet : Bytes)
    (own : packet ∈ x.packets.get player) : (x.codecs.get player).Refuses hmac packet := by
  have voice := s.voice player
  obtain ⟨index,found⟩ := List.mem_iff_getElem?.mp own
  obtain ⟨message,spoken,rfl⟩ := voice.packet_at _ packet found
  have room := (voice.valid _ message spoken).2.2.1
  refine PacketCodec.refuses_of_sealed hmac _ _ message (Nat.lt_of_succ_lt room) ?_
  rintro ⟨_,facing,_⟩
  rw [voice.owner] at facing
  exact other_ne player facing.symm

theorem Sound.foreign (s : Sound hmac secret transcript x) (player : Player) (stranger : PacketCodec) (message : Message)
    (packet : Bytes) (after : PacketCodec) (elsewhere : stranger.transcript ≠ transcript)
    (ok : stranger.encode hmac message = (.ok packet,after)) : (x.codecs.get player).Refuses hmac packet := by
  obtain ⟨_,_,_,_,room,_,rfl,_⟩ :=
    PacketCodec.encodeInner_ok hmac _ _ _ _ ((PacketCodec.encode_ok hmac _ _ _ _).mp ok)
  refine PacketCodec.refuses_of_sealed hmac _ _ message (Nat.lt_of_succ_lt room) ?_
  rintro ⟨session,_,_⟩
  exact elsewhere (session.symm.trans (s.voice player).keyed.2)

end

/-- Packet streams: what one side encodes the other decodes in order; in every state of a session, whatever was sent and
refused before, a packet that is not the next one of the peer is refused; and a refusal is final. -/
theorem packet_streams (hmac : Digest → Bytes → Digest) (secret transcript : Digest) :
    (∀ player messages packets last, (∀ message ∈ messages, message.Fits) →
      (PacketCodec.new player secret transcript).encodeAll hmac messages = .ok (packets,last) →
      ∃ after, (PacketCodec.new (other player) secret transcript).decodeAll hmac packets = .ok (messages,after)) ∧
    (∀ x, Reachable hmac secret transcript x → ∀ player,
      x.heard.get player <+: x.said.get (other player) ∧
      (∀ packet, (x.packets.get (other player))[(x.heard.get player).length]? = some packet →
        (x.codecs.get player).terminal = false →
        ∃ message, (x.said.get (other player))[(x.heard.get player).length]? = some message ∧
          (((x.codecs.get player).sentClose → message.isClose) →
            ((x.codecs.get player).decode hmac packet).1 = .ok message)) ∧
      (∀ index packet, (x.packets.get (other player))[index]? = some packet → index ≠ (x.heard.get player).length →
        (x.codecs.get player).Refuses hmac packet) ∧
      (∀ packet ∈ x.packets.get player, (x.codecs.get player).Refuses hmac packet) ∧
      ∀ (stranger : PacketCodec) message packet after, stranger.transcript ≠ transcript →
        stranger.encode hmac message = (.ok packet,after) → (x.codecs.get player).Refuses hmac packet) ∧
    ∀ (c : PacketCodec) (call : PacketCodec.Use), (c.use hmac call).1 = false →
      ∀ later, ∀ outcome ∈ (c.use hmac call).2.outcomes hmac later, outcome = false := by
  refine ⟨fun player messages packets last fits ok => ?_,fun x reach player => ?_,fun c call refused later => ?_⟩
  · have facing : PacketCodec.Facing (.new player secret transcript) (.new (other player) secret transcript) :=
      ⟨(other_other player).symm,rfl,rfl,rfl,rfl,rfl,rfl⟩
    exact facing.decodeAll hmac messages fits packets last ok
  · have s := reach.sound
    refine ⟨?_,s.next player,s.misplaced player,s.reflected player,s.foreign player⟩
    rw [(s.ear player).decoded]
    exact take_prefix _ _
  · rw [c.use_refused hmac call refused]
    exact PacketCodec.outcomes_terminal hmac _ rfl later

theorem packet_streams_goodbye : ∃ packets last after,
    (PacketCodec.new .one (List.Vector.replicate 32 0) (List.Vector.replicate 32 1)).encodeAll
      (fun secret _ => secret) [.pauseAck 1,.close 3] = .ok (packets,last) ∧
    (PacketCodec.new .two (List.Vector.replicate 32 0) (List.Vector.replicate 32 1)).decodeAll
      (fun secret _ => secret) packets = .ok ([.pauseAck 1,.close 3],after) := by
  obtain ⟨after,decoded⟩ := (packet_streams (fun secret _ => secret) (List.Vector.replicate 32 0)
    (List.Vector.replicate 32 1)).1 .one [.pauseAck 1,.close 3] _ _ (by simp [Message.Fits]) rfl
  exact ⟨_,_,after,rfl,decoded⟩

end Conversation
end ZeffBoy.Wire
