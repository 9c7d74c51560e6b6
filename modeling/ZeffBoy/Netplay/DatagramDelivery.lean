import ZeffBoy.Library.Transition
import ZeffBoy.Netplay.Datagram

/-! Delivery over a network that loses, repeats, delays and reorders datagrams.
Every packet ever sent stays deliverable, so what a packet promises has to survive
everything that happens after it: it is bounded by counters that only grow. -/
namespace ZeffBoy.Netplay
open Library Wire List

namespace InputChannel
variable (hmac : Digest → Bytes → Digest)

theorem chunks_flatMap (buttons : List UInt16) :
    chunks (buttons.flatMap (fun value => beBytes inputBytes value.toNat)) = buttons := by
  induction buttons with
  | nil => rfl
  | cons value rest ih =>
    rw [flatMap_cons]
    have pair : beBytes inputBytes value.toNat = [UInt8.ofNat (value.toNat / 256),UInt8.ofNat value.toNat] := rfl
    have whole := beValue_word16 value
    change UInt16.ofNat (beValue (beBytes inputBytes value.toNat)) = value at whole
    rw [pair] at whole ⊢
    simp only [cons_append,nil_append,chunks]
    rw [whole,ih]

theorem length_flatMap (buttons : List UInt16) :
    (buttons.flatMap (fun value => beBytes inputBytes value.toNat)).length = buttons.length * inputBytes := by
  simp [List.length_flatMap,mul_comm]

@[simp] theorem length_inputMagic : inputMagic.length = 4 := by decide

-- A packet as the other side reads it.
def sealed (codec : PacketCodec) (player : Player) (ack first : Nat) (buttons : List UInt16) : Bytes :=
  packetBody codec player ack first buttons ++
    (codec.authenticateDatagram hmac (packetBody codec player ack first buttons)).toList

section Layout
variable (codec : PacketCodec) (player : Player) (ack first : Nat) (buttons : List UInt16)

theorem body_front : packetBody codec player ack first buttons =
    (inputMagic ++ codec.transcript.toList ++ [role player] ++ beBytes 8 ack ++ beBytes 8 first) ++
      UInt8.ofNat buttons.length::buttons.flatMap (fun value => beBytes inputBytes value.toNat) := by
  simp [packetBody]

theorem body_length : (packetBody codec player ack first buttons).length = header + buttons.length * inputBytes := by
  simp only [packetBody,length_append,length_flatMap]
  simp [header]
  omega

theorem body_session : slice (packetBody codec player ack first buttons) 0 4 = inputMagic ∧
    slice (packetBody codec player ack first buttons) 4 36 = codec.transcript.toList :=
  ⟨slice_front _ _ 4 (by simp),by simp [packetBody,slice_skip,slice_front]⟩

theorem body_author : byteAt (packetBody codec player ack first buttons) 36 = role player := by
  simp [packetBody,byteAt_skip]

theorem body_ack (fits : ack < 2^64) : beValue (slice (packetBody codec player ack first buttons) 37 45) = ack := by
  have word : slice (packetBody codec player ack first buttons) 37 45 = beBytes 8 ack := by
    simp [packetBody,slice_skip,slice_cons_skip,slice_front]
  rw [word,beValue_word64 ack fits]

theorem body_first (fits : first < 2^64) : beValue (slice (packetBody codec player ack first buttons) 45 53) = first := by
  have word : slice (packetBody codec player ack first buttons) 45 53 = beBytes 8 first := by
    simp [packetBody,slice_skip,slice_cons_skip,slice_front]
  rw [word,beValue_word64 first fits]

theorem body_count (short : buttons.length ≤ batch) :
    (byteAt (packetBody codec player ack first buttons) 53).toNat = buttons.length := by
  rw [body_front,byteAt_skip (by simp)]
  simp only [batch] at short
  simp
  omega

theorem body_inputs : chunks ((packetBody codec player ack first buttons).drop header) = buttons := by
  have rest : (packetBody codec player ack first buttons).drop header =
      buttons.flatMap (fun value => beBytes inputBytes value.toNat) := by
    rw [body_front,drop_append]
    simp [header]
  rw [rest,chunks_flatMap]

theorem sealed_split : (sealed hmac codec player ack first buttons).take
      ((sealed hmac codec player ack first buttons).length - signatureLen) = packetBody codec player ack first buttons ∧
    (sealed hmac codec player ack first buttons).drop
      ((sealed hmac codec player ack first buttons).length - signatureLen) =
      (codec.authenticateDatagram hmac (packetBody codec player ack first buttons)).toList := by
  simp [sealed,signatureLen]

end Layout

theorem readPacket_sealed (sender reader : PacketCodec) (secret : sender.secret = reader.secret)
    (transcript : sender.transcript = reader.transcript) (player : Player) (ack first : Nat) (buttons : List UInt16)
    (ackFits : ack < 2^64) (firstFits : first < 2^64) (short : buttons.length ≤ batch) :
    readPacket hmac player reader (sealed hmac sender (other player) ack first buttons) =
      .ok ⟨ack,first,buttons.length,buttons⟩ := by
  obtain ⟨body,signature⟩ := sealed_split hmac sender (other player) ack first buttons
  have length := body_length sender (other player) ack first buttons
  have total : (sealed hmac sender (other player) ack first buttons).length =
      header + buttons.length * inputBytes + signatureLen := by
    rw [sealed,length_append,length,length_digest]
    rfl
  have verified : reader.verifyDatagram hmac (packetBody sender (other player) ack first buttons)
      (sender.authenticateDatagram hmac (packetBody sender (other player) ack first buttons)).toList = .ok () := by
    rw [PacketCodec.verifyDatagram,PacketCodec.authenticateDatagram,secret,transcript]
    exact ensure_pos rfl _
  have bound : buttons.length * inputBytes ≤ batch * inputBytes := Nat.mul_le_mul_right _ short
  unfold readPacket
  rw [ensure_pos (by rw [total]; omega),ok_bind]
  dsimp only
  rw [body,signature,ensure_pos (transcript ▸ body_session sender (other player) ack first buttons),ok_bind,
    ensure_pos (body_author _ _ _ _ _),ok_bind,verified,ok_bind,body_count _ _ _ _ _ short,ensure_pos ⟨short,length⟩,
    ok_bind,body_ack _ _ _ _ _ ackFits,body_first _ _ _ _ _ firstFits,body_inputs]
  rfl

section Inbox
variable (value : Nat → UInt16)

-- Every stored input is the one value of its frame.
def Holds (map : OrderedMap UInt16) : Prop := ∀ frame buttons, map.get? frame = some buttons → buttons = value frame

theorem merge_ok (c : InputChannel) (known : Holds value c.history) (waiting : OrderedMap UInt16)
    (held : Holds value waiting) (frame count : Nat) :
    ∃ next, c.merge waiting frame ((List.range' frame count).map value) = .ok next ∧
    ∀ f, next.get? f = if c.received ≤ f ∧ frame ≤ f ∧ f < frame + count then some (value f) else waiting.get? f := by
  induction count generalizing frame waiting with
  | zero =>
    refine ⟨waiting,rfl,fun f => ?_⟩
    rw [if_neg (by omega)]
  | succ count ih =>
    have repeated : ((c.history.get? frame).or (waiting.get? frame)).all (fun previous => value frame = previous) := by
      cases old : c.history.get? frame with
      | some buttons => simp [known frame buttons old]
      | none =>
        cases early : waiting.get? frame with
        | some buttons => simp [held frame buttons early]
        | none => simp
    have stored (f : Nat) : (if c.received ≤ frame then waiting.insert frame (value frame) else waiting).get? f =
        if c.received ≤ f ∧ f = frame then some (value f) else waiting.get? f := by
      by_cases same : f = frame
      · subst same
        split <;> simp_all
      · split <;> simp [OrderedMap.get?_insert,same]
    obtain ⟨next,merged,lookup⟩ := ih (if c.received ≤ frame then waiting.insert frame (value frame) else waiting)
      (fun f buttons found => by
        rw [stored] at found
        split at found
        · exact (Option.some.inj found).symm
        · exact held f buttons found) (frame + 1)
    refine ⟨next,?_,fun f => ?_⟩
    · rw [List.range'_succ,map_cons,merge,ensure_pos repeated,ok_bind]
      exact merged
    · rw [lookup,stored]
      by_cases same : f = frame
      · subst same
        by_cases fresh : c.received ≤ f <;> simp [fresh]
      · have shift : (frame + 1 ≤ f ∧ f < frame + 1 + count) ↔ (frame ≤ f ∧ f < frame + (count + 1)) := by omega
        simp only [same,and_false,if_false,shift]

/-- The inputs a channel has gathered of those that were pushed below `stop`. -/
structure Gathered (first stop : Nat) (c : InputChannel) : Prop where
  low : first ≤ c.received
  high : c.received ≤ stop
  known : Holds value c.history
  past : ∀ frame, (c.history.get? frame).isSome → first ≤ frame ∧ frame < stop
  held : Holds value c.waiting
  inside : ∀ frame, (c.waiting.get? frame).isSome → c.received ≤ frame ∧ frame < c.received + window ∧ frame < stop

theorem Gathered.congr {value : Nat → UInt16} {first stop : Nat} {c : InputChannel} (inbox : Gathered value first stop c)
    (next : InputChannel) (received : next.received = c.received) (history : next.history = c.history)
    (waiting : next.waiting = c.waiting) : Gathered value first stop next where
  low := received ▸ inbox.low
  high := received ▸ inbox.high
  known := history ▸ inbox.known
  past := history ▸ inbox.past
  held := waiting ▸ inbox.held
  inside := by
    rw [received,waiting]
    exact inbox.inside

theorem drain_ok (turns first stop : Nat) (fits : stop < 2^64) (c : InputChannel) (inbox : Gathered value first stop c) :
    ∃ count after, drain turns c =
      (.ok ((List.range' c.received count).map (fun frame => .input (other c.player) frame (value frame))),after) ∧
    Gathered value first stop after ∧ after.received = c.received + count ∧
    after = {c with waiting := after.waiting, received := after.received, history := after.history} := by
  induction turns generalizing c with
  | zero => exact ⟨0,c,rfl,inbox,rfl,rfl⟩
  | succ turns ih =>
    obtain ⟨low,high,known,past,held,inside⟩ := inbox
    unfold drain
    cases found : c.waiting.get? c.received with
    | none => exact ⟨0,c,rfl,⟨low,high,known,past,held,inside⟩,rfl,rfl⟩
    | some buttons =>
      obtain ⟨_,_,below⟩ := inside c.received (by simp [found])
      obtain rfl := held c.received buttons found
      dsimp only
      rw [checkedAdd_pos (by omega)]
      dsimp only
      have next : Gathered value first stop {c with
          waiting := c.waiting.erase c.received
          received := c.received + 1
          history := c.history.insert c.received (value c.received)} := by
        refine ⟨Nat.le_succ_of_le low,below,?_,?_,?_,?_⟩
        · intro frame buttons at_
          rw [OrderedMap.get?_insert] at at_
          split at at_
          · rename_i same
            rw [same]
            exact (Option.some.inj at_).symm
          · exact known frame buttons at_
        · intro frame present
          rw [OrderedMap.get?_insert] at present
          split at present
          · omega
          · exact past frame present
        · intro frame buttons at_
          rw [OrderedMap.get?_erase] at at_
          split at at_
          · contradiction
          · exact held frame buttons at_
        · intro frame present
          rw [OrderedMap.get?_erase] at present
          split at present
          · contradiction
          · have bounds := inside frame present
            dsimp only
            omega
      obtain ⟨count,after,drained,kept,received,rest⟩ := ih _ next
      refine ⟨count + 1,after,?_,kept,?_,rest⟩
      · rw [drained,List.range'_succ]
        rfl
      · rw [received]
        dsimp only
        omega

theorem trimHistory_some (turns : Nat) (history : OrderedMap UInt16) (frame : Nat) (buttons : UInt16)
    (found : (trimHistory turns history).get? frame = some buttons) : history.get? frame = some buttons := by
  induction turns generalizing history with
  | zero => exact found
  | succ turns ih =>
    unfold trimHistory at found
    split at found
    · have kept := ih _ found
      rw [OrderedMap.get?_eq_some] at kept ⊢
      exact mem_of_mem_tail kept
    · exact found

end Inbox

/-- What a channel can rely on in a packet of its peer, whenever the packet was sent. -/
structure Promise (first stop ack start count : Nat) : Prop where
  begun : first ≤ ack
  short : count ≤ batch
  idle : count = 0 → start = 0
  within : count ≠ 0 → first ≤ start ∧ start + count ≤ stop

section Receive
variable {value : Nat → UInt16} {first stop : Nat}

theorem accept_ok (c : InputChannel) (inbox : Gathered value first stop c) (own : c.first = first) (ack start count : Nat)
    (promise : Promise first stop ack start count) (sent : ack ≤ c.sent) (fits : stop < 2^64)
    (near : count ≠ 0 → start + count ≤ c.received + window) (room : c.received + window < 2^64) :
    ∃ waiting, c.accept ⟨ack,start,count,(List.range' start count).map value⟩ = .ok waiting ∧
      Gathered value first stop {c with waiting := waiting} := by
  obtain ⟨low,high,known,past,held,inside⟩ := inbox
  obtain ⟨waiting,merged,lookup⟩ := merge_ok value c known c.waiting held start count
  have bounds (frame : Nat) (present : (waiting.get? frame).isSome) :
      c.received ≤ frame ∧ frame < c.received + window ∧ frame < stop := by
    rw [lookup] at present
    split at present
    · rename_i new
      have filled : count ≠ 0 := by omega
      have placed := promise.within filled
      have close := near filled
      omega
    · exact inside frame present
  have ended : start + count < 2^64 := by
    by_cases empty : count = 0
    · rw [promise.idle empty,empty]
      decide
    · have placed := promise.within empty
      omega
  refine ⟨waiting,?_,low,high,known,past,?_,bounds⟩
  · unfold accept
    rw [ensure_pos ⟨own ▸ promise.begun,sent⟩,ok_bind,ensure_pos (or_iff_not_imp_left.mpr (fun none => promise.idle (not_not.mp none))),ok_bind,
      checkedAdd_pos ended,ok_bind,checkedAdd_pos room,ok_bind,
      ensure_pos (fun filled => ⟨own ▸ (promise.within filled).1,near filled⟩),ok_bind,merged,ok_bind,
      ensure_pos (waiting.size_le_of_keys c.received window (fun frame present => by
        have bound := bounds frame present
        omega)),ok_bind]
    rfl
  · intro frame buttons found
    rw [lookup] at found
    split at found
    · exact (Option.some.inj found).symm
    · exact held frame buttons found

theorem receive_ok (c : InputChannel) (inbox : Gathered value first stop c) (own : c.first = first) (codec : PacketCodec)
    (bytes : Bytes) (ack start count : Nat)
    (read : readPacket hmac c.player codec bytes = .ok ⟨ack,start,count,(List.range' start count).map value⟩)
    (promise : Promise first stop ack start count) (sent : ack ≤ c.sent) (fits : stop < 2^64)
    (near : count ≠ 0 → start + count ≤ c.received + window) (room : c.received + window < 2^64) :
    ∃ taken after, c.receive hmac codec bytes =
      (.ok ((List.range' c.received taken).map (fun frame => .input (other c.player) frame (value frame))),after) ∧
    Gathered value first stop after ∧ after.received = c.received + taken ∧ after.player = c.player ∧
    after.first = c.first ∧ after.sent = c.sent ∧ after.acknowledged = max c.acknowledged ack ∧
    after.pending = c.pending.retain (fun frame _ => max c.acknowledged ack ≤ frame) := by
  obtain ⟨waiting,accepted,merged⟩ := accept_ok c inbox own ack start count promise sent fits near room
  obtain ⟨taken,drained,ran,kept,received,rest⟩ := drain_ok value waiting.size first stop fits {c with
      waiting := waiting
      acknowledged := max c.acknowledged ack
      pending := c.pending.retain (fun frame _ => max c.acknowledged ack ≤ frame)} (merged.congr _ rfl rfl rfl)
  obtain ⟨low,high,known,past,held,inside⟩ := kept
  refine ⟨taken,{drained with
    history := trimHistory drained.history.size drained.history
    ackDirty := drained.ackDirty || count ≠ 0},?_,
    ⟨low,high,fun frame buttons found => known frame buttons (trimHistory_some _ _ frame buttons found),fun frame present => ?_,
      held,inside⟩,received,?_,?_,?_,?_,?_⟩
  · unfold receive
    rw [read,ok_bind,accepted,ok_bind]
    dsimp only [pure,Except.pure]
    rw [ran]
  · obtain ⟨buttons,found⟩ := Option.isSome_iff_exists.mp present
    exact past frame (by simp [trimHistory_some _ _ frame buttons found])
  all_goals
    rw [rest]

theorem receive_unread (c : InputChannel) (codec : PacketCodec) (bytes : Bytes) (error : String)
    (read : readPacket hmac c.player codec bytes = .error error) : c.receive hmac codec bytes = (.error error,c) := by
  unfold receive
  rw [read]
  rfl

theorem receive_full (c : InputChannel) (codec : PacketCodec) (bytes : Bytes) (full : ¬ c.received + window < 2^64) :
    ∃ error, c.receive hmac codec bytes = (.error error,c) := by
  cases read : readPacket hmac c.player codec bytes with
  | error error => exact ⟨error,receive_unread hmac c codec bytes error read⟩
  | ok packet =>
    cases accepted : c.accept packet with
    | error error =>
      refine ⟨error,?_⟩
      unfold receive
      rw [read,ok_bind,accepted]
      rfl
    | ok waiting =>
      unfold accept at accepted
      obtain ⟨_,_,accepted⟩ := bind_ok.mp accepted
      obtain ⟨_,_,accepted⟩ := bind_ok.mp accepted
      obtain ⟨_,_,accepted⟩ := bind_ok.mp accepted
      obtain ⟨_,sum,_⟩ := bind_ok.mp accepted
      exact absurd (checkedAdd_ok.mp sum).1 full

theorem readPacket_genuine (player : Player) (codec : PacketCodec) (bytes : Bytes) (packet : InputPacket)
    (read : readPacket hmac player codec bytes = .ok packet) :
    codec.verifyDatagram hmac (bytes.take (bytes.length - signatureLen)) (bytes.drop (bytes.length - signatureLen)) = .ok () ∧
    byteAt (bytes.take (bytes.length - signatureLen)) 36 = role (other player) := by
  unfold readPacket at read
  obtain ⟨_,_,read⟩ := bind_ok.mp read
  dsimp only at read
  obtain ⟨_,_,read⟩ := bind_ok.mp read
  obtain ⟨_,author,read⟩ := bind_ok.mp read
  obtain ⟨_,verified,_⟩ := bind_ok.mp read
  exact ⟨verified,ensure_ok.mp author⟩

end Receive

end InputChannel

open InputChannel

/-- Two channels, what each side has pushed, every packet each side has sent, and what each side has been handed. -/
structure Network where
  channels : Ports InputChannel
  pushed : Ports (List UInt16)
  packets : Ports (List Bytes)
  given : Ports (List Message)

namespace Network

def initial (first : Nat) : Network where
  channels := ⟨.new .one first,.new .two first⟩
  pushed := .both []
  packets := .both []
  given := .both []

def handed (call : Call InputChannel (List Message)) : List Message := call.1.toOption.getD []

variable (hmac : Digest → Bytes → Digest) (secret transcript : Digest)

def codec (player : Player) : PacketCodec := .new player secret transcript

def Authentic (player : Player) (bytes : Bytes) : Prop :=
  (codec secret transcript player).verifyDatagram hmac (bytes.take (bytes.length - signatureLen))
    (bytes.drop (bytes.length - signatureLen)) = .ok ()

/-- The network hands any bytes to either side at any time; under the session's tag there are only packets of the two
sides. -/
inductive Step : Network → Network → Prop
  | push (x : Network) (player : Player) (frame : Nat) (buttons : UInt16) (next : InputChannel)
    (ok : (x.channels.get player).push frame buttons = (.ok (),next)) :
    Step x {x with
      channels := x.channels.set player next
      pushed := x.pushed.set player (x.pushed.get player ++ [buttons])}
  | encode (x : Network) (player : Player) (packet : Bytes) (next : InputChannel)
    (ok : (x.channels.get player).encode hmac (codec secret transcript player) = (.ok (some packet),next)) :
    Step x {x with
      channels := x.channels.set player next
      packets := x.packets.set player (x.packets.get player ++ [packet])}
  | deliver (x : Network) (player : Player) (bytes : Bytes)
    (genuine : Authentic hmac secret transcript player bytes → ∃ sender, bytes ∈ x.packets.get sender) :
    Step x {x with
      channels := x.channels.set player ((x.channels.get player).receive hmac (codec secret transcript player) bytes).2
      given := x.given.set player (x.given.get player ++
        handed ((x.channels.get player).receive hmac (codec secret transcript player) bytes))}

def Reachable (first : Nat) (x : Network) : Prop := Relation.ReflTransGen (Step hmac secret transcript) (initial first) x

def valueAt (first : Nat) (pushed : List UInt16) (frame : Nat) : UInt16 := pushed.getD (frame - first) 0

-- Pushed inputs as messages of their frames.
def messages (first : Nat) (player : Player) (pushed : List UInt16) : List Message :=
  pushed.mapIdx (fun index buttons => .input player (first + index) buttons)

/-- One direction: the sender `a` of the player and the receiver `b`. -/
structure Flow (first : Nat) (player : Player) (a b : InputChannel) (pushed : List UInt16) (packets : List Bytes)
    (given : List Message) : Prop where
  owner : a.player = player
  origin : a.first = first
  sent : a.sent = first + pushed.length
  fits : a.sent < 2^64
  begun : first ≤ a.acknowledged
  acked : a.acknowledged ≤ b.received
  window : a.sent ≤ a.acknowledged + window
  pending : a.pending = .ofRange a.acknowledged (a.sent - a.acknowledged) (valueAt first pushed)
  inbox : Gathered (valueAt first pushed) first a.sent b
  given : given = (List.range' first (b.received - first)).map (fun frame => .input player frame (valueAt first pushed frame))
  packets : ∀ packet ∈ packets, ∃ ack start count,
    packet = sealed hmac (codec secret transcript player) player ack start
      ((List.range' start count).map (valueAt first pushed)) ∧
    Promise first a.sent ack start count ∧ ack ≤ a.received ∧
    (count ≠ 0 → start + count ≤ a.acknowledged + InputChannel.window)

structure Sound (first : Nat) (x : Network) : Prop where
  flow : ∀ player, Flow hmac secret transcript first player (x.channels.get player) (x.channels.get (other player))
    (x.pushed.get player) (x.packets.get player) (x.given.get (other player))

theorem sound_initial (first : Nat) (small : first < 2^64) : Sound hmac secret transcript first (initial first) := by
  have flow (player : Player) : Flow hmac secret transcript first player (.new player first) (.new (other player) first)
      [] [] [] := {
    owner := rfl
    origin := rfl
    sent := rfl
    fits := small
    begun := le_rfl
    acked := le_rfl
    window := Nat.le_add_right _ _
    pending := by simp [InputChannel.new,OrderedMap.ofRange,OrderedMap.empty]
    inbox := ⟨le_rfl,le_rfl,fun _ _ found => by simp [InputChannel.new] at found,
      fun _ present => by simp [InputChannel.new] at present,fun _ _ found => by simp [InputChannel.new] at found,
      fun _ present => by simp [InputChannel.new] at present⟩
    given := by simp [InputChannel.new]
    packets := by simp }
  refine ⟨fun player => ?_⟩
  cases player
  · exact flow .one
  · exact flow .two

section
variable {hmac : Digest → Bytes → Digest} {secret transcript : Digest} {first : Nat} {player : Player}
  {a b : InputChannel} {pushed : List UInt16} {packets : List Bytes} {given : List Message} {x : Network}

theorem valueAt_append (pushed : List UInt16) (buttons : UInt16) (frame : Nat) (low : first ≤ frame)
    (old : frame < first + pushed.length) : valueAt first (pushed ++ [buttons]) frame = valueAt first pushed frame := by
  rw [valueAt,valueAt,getD_eq_getElem?_getD,List.getElem?_append_left (by omega),← getD_eq_getElem?_getD]

theorem valueAt_last (pushed : List UInt16) (buttons : UInt16) :
    valueAt first (pushed ++ [buttons]) (first + pushed.length) = buttons := by
  simp [valueAt]

theorem map_valueAt_append {α : Type} (buttons : UInt16) (start count : Nat) (low : first ≤ start)
    (old : start + count ≤ first + pushed.length) (build : Nat → UInt16 → α) :
    (List.range' start count).map (fun frame => build frame (valueAt first (pushed ++ [buttons]) frame)) =
      (List.range' start count).map (fun frame => build frame (valueAt first pushed frame)) := by
  apply map_congr_left
  intro frame member
  obtain ⟨above,below⟩ := List.mem_range'_1.mp member
  rw [valueAt_append pushed buttons frame (by omega) (by omega)]

theorem gathered_append (buttons : UInt16) (inbox : Gathered (valueAt first pushed) first (first + pushed.length) b) :
    Gathered (valueAt first (pushed ++ [buttons])) first (first + pushed.length + 1) b where
  low := inbox.low
  high := Nat.le_succ_of_le inbox.high
  known := by
    intro frame value found
    obtain ⟨low,high⟩ := inbox.past frame (by simp [found])
    rw [valueAt_append pushed buttons frame low high]
    exact inbox.known frame value found
  past := fun frame present => ⟨(inbox.past frame present).1,Nat.lt_succ_of_lt (inbox.past frame present).2⟩
  held := by
    intro frame value found
    obtain ⟨low,_,high⟩ := inbox.inside frame (by simp [found])
    rw [valueAt_append pushed buttons frame (inbox.low.trans low) high]
    exact inbox.held frame value found
  inside := by
    intro frame present
    obtain ⟨low,near,high⟩ := inbox.inside frame present
    exact ⟨low,near,Nat.lt_succ_of_lt high⟩

theorem push_ok (c : InputChannel) (frame : Nat) (buttons : UInt16) (next : InputChannel)
    (ok : c.push frame buttons = (.ok (),next)) :
    frame = c.sent ∧ c.pending.size < InputChannel.window ∧ c.sent + 1 < 2^64 ∧
    next = {c with pending := c.pending.insert c.sent buttons, sent := c.sent + 1} := by
  unfold push at ok
  dsimp only at ok
  split at ok
  · exact absurd (congrArg Prod.fst ok) (by simp)
  · rename_i count checked
    obtain ⟨_,contiguous,checked⟩ := bind_ok.mp checked
    obtain ⟨_,room,checked⟩ := bind_ok.mp checked
    rw [ensure_ok] at contiguous room
    obtain ⟨fits,rfl⟩ := checkedAdd_ok.mp checked
    subst contiguous
    exact ⟨rfl,room,fits,(congrArg Prod.snd ok).symm⟩

theorem size_ofRange (start count : Nat) (value : Nat → UInt16) : (OrderedMap.ofRange start count value).size = count := by
  simp [OrderedMap.ofRange,OrderedMap.size]

theorem Flow.push (f : Flow hmac secret transcript first player a b pushed packets given) (frame : Nat)
    (buttons : UInt16) (next : InputChannel) (ok : a.push frame buttons = (.ok (),next)) :
    Flow hmac secret transcript first player next b (pushed ++ [buttons]) packets given := by
  obtain ⟨_,room,fits,rfl⟩ := push_ok a frame buttons next ok
  have sent := f.sent
  have begun := f.begun
  have acked := f.acked
  have high := f.inbox.high
  have inbox := f.inbox
  rw [f.pending,size_ofRange] at room
  rw [sent] at inbox
  refine {
    owner := f.owner
    origin := f.origin
    sent := by simp [sent,add_assoc]
    fits := fits
    begun := begun
    acked := acked
    window := by dsimp only; omega
    pending := ?_
    inbox := by simpa [sent] using gathered_append buttons inbox
    given := ?_
    packets := ?_ }
  · apply OrderedMap.ext
    intro key
    dsimp only
    rw [OrderedMap.get?_insert,f.pending,OrderedMap.get?_ofRange,OrderedMap.get?_ofRange]
    by_cases last : key = a.sent
    · rw [if_pos last,if_pos (by omega),last,sent,valueAt_last]
    · rw [if_neg last]
      by_cases inside : a.acknowledged ≤ key ∧ key < a.acknowledged + (a.sent - a.acknowledged)
      · rw [if_pos inside,if_pos (by omega),valueAt_append pushed buttons key (by omega) (by omega)]
      · rw [if_neg inside,if_neg (by omega)]
  · have low := f.inbox.low
    rw [f.given,map_valueAt_append buttons first (b.received - first) le_rfl (by omega) (Message.input player)]
  · intro packet member
    obtain ⟨ack,start,count,rfl,promise,received,near⟩ := f.packets packet member
    refine ⟨ack,start,count,?_,⟨promise.begun,promise.short,promise.idle,fun filled => ?_⟩,received,near⟩
    · by_cases empty : count = 0
      · simp [empty]
      · have within := promise.within empty
        rw [map_valueAt_append buttons start count within.1 (by omega) (fun _ value => value)]
    · have within := promise.within filled
      dsimp only
      omega

theorem Flow.receiver (f : Flow hmac secret transcript first player a b pushed packets given) (next : InputChannel)
    (received : next.received = b.received) (history : next.history = b.history) (waiting : next.waiting = b.waiting) :
    Flow hmac secret transcript first player a next pushed packets given where
  owner := f.owner
  origin := f.origin
  sent := f.sent
  fits := f.fits
  begun := f.begun
  acked := received ▸ f.acked
  window := f.window
  pending := f.pending
  inbox := f.inbox.congr next received history waiting
  given := received ▸ f.given
  packets := f.packets

theorem batch_ofRange (start count limit : Nat) (value : Nat → UInt16) (within : limit ≤ count) :
    (limit ≠ 0 → ((OrderedMap.ofRange start count value).first?.map Prod.fst).getD 0 = start) ∧
    (count = 0 → ((OrderedMap.ofRange start count value).first?.map Prod.fst).getD 0 = 0) ∧
    (OrderedMap.ofRange start count value).values.take limit =
      (List.range' (((OrderedMap.ofRange start count value).first?.map Prod.fst).getD 0) limit).map value := by
  cases count with
  | zero =>
    obtain rfl := Nat.le_zero.mp within
    simp [OrderedMap.ofRange,OrderedMap.first?]
  | succ count =>
    have head : ((OrderedMap.ofRange start (count + 1) value).first?.map Prod.fst).getD 0 = start := by
      simp [OrderedMap.ofRange,OrderedMap.first?,List.range'_succ]
    refine ⟨fun _ => head,fun none => absurd none (Nat.succ_ne_zero _),?_⟩
    rw [head]
    simp only [OrderedMap.ofRange,OrderedMap.values,map_map,← map_take]
    rw [List.take_range'_of_length_ge within]
    rfl

theorem Flow.encode (f : Flow hmac secret transcript first player a b pushed packets given) (packet : Bytes)
    (next : InputChannel) (reached : first ≤ a.received)
    (ok : a.encode hmac (codec secret transcript player) = (.ok (some packet),next)) :
    next = {a with ackDirty := false} ∧
    Flow hmac secret transcript first player next b pushed (packets ++ [packet]) given := by
  unfold InputChannel.encode at ok
  split at ok
  · exact absurd (congrArg Prod.fst ok) (by simp)
  · obtain ⟨body,rfl⟩ := Prod.mk.inj ok
    simp only [Except.ok.injEq,Option.some.injEq] at body
    refine ⟨rfl,{f with packets := fun old member => ?_}⟩
    rcases mem_append.mp member with known | last
    · exact f.packets old known
    · obtain rfl : old = packet := by simpa using last
      have size : a.pending.size = a.sent - a.acknowledged := by rw [f.pending,size_ofRange]
      have acked := f.acked
      have begun := f.begun
      have high := f.inbox.high
      have wide := f.window
      obtain ⟨filled,idle,values⟩ := batch_ofRange a.acknowledged (a.sent - a.acknowledged)
        (min (a.sent - a.acknowledged) batch) (valueAt first pushed) (min_le_left _ _)
      rw [← f.pending] at filled idle values
      refine ⟨a.received,(a.pending.first?.map Prod.fst).getD 0,min (a.sent - a.acknowledged) batch,?_,
        ⟨reached,min_le_right _ _,fun empty => ?_,fun some => ?_⟩,le_rfl,fun some => ?_⟩
      · rw [← body,f.owner,size,← values]
        rfl
      · apply idle
        simp only [batch] at empty
        omega
      · rw [filled some]
        dsimp only
        omega
      · rw [filled some]
        dsimp only
        omega

theorem Flow.take (f : Flow hmac secret transcript first player a b pushed packets given) (after : InputChannel)
    (taken : Nat) (inbox : Gathered (valueAt first pushed) first a.sent after)
    (received : after.received = b.received + taken) :
    Flow hmac secret transcript first player a after pushed packets
      (given ++ (List.range' b.received taken).map (fun frame => .input player frame (valueAt first pushed frame))) where
  owner := f.owner
  origin := f.origin
  sent := f.sent
  fits := f.fits
  begun := f.begun
  acked := f.acked.trans (by omega)
  window := f.window
  pending := f.pending
  inbox := inbox
  given := by
    have low := f.inbox.low
    have split : after.received - first = (b.received - first) + taken := by omega
    have middle : first + 1 * (b.received - first) = b.received := by omega
    rw [f.given,split,← List.range'_append,map_append,middle]
  packets := f.packets

theorem Flow.acknowledge (f : Flow hmac secret transcript first player a b pushed packets given) (after : InputChannel)
    (ack : Nat) (known : ack ≤ b.received) (grown : a.received ≤ after.received) (owner : after.player = a.player)
    (origin : after.first = a.first) (sent : after.sent = a.sent) (acked : after.acknowledged = max a.acknowledged ack)
    (pending : after.pending = a.pending.retain (fun frame _ => max a.acknowledged ack ≤ frame)) :
    Flow hmac secret transcript first player after b pushed packets given where
  owner := owner.trans f.owner
  origin := origin.trans f.origin
  sent := sent.trans f.sent
  fits := sent ▸ f.fits
  begun := by
    have begun := f.begun
    omega
  acked := by
    have acked' := f.acked
    omega
  window := by
    have wide := f.window
    omega
  pending := by
    apply OrderedMap.ext
    intro key
    have high := f.inbox.high
    have old := f.acked
    rw [pending,OrderedMap.get?_retain_key,f.pending,OrderedMap.get?_ofRange,OrderedMap.get?_ofRange,acked,sent]
    by_cases above : max a.acknowledged ack ≤ key
    · rw [if_pos (by simpa using above)]
      by_cases below : key < a.sent
      · rw [if_pos (by omega),if_pos (by omega)]
      · rw [if_neg (by omega),if_neg (by omega)]
    · rw [if_neg (by simpa using above),if_neg (by omega)]
  inbox := sent ▸ f.inbox
  given := f.given
  packets := by
    intro packet member
    obtain ⟨ack',start,count,rfl,promise,received,near⟩ := f.packets packet member
    refine ⟨ack',start,count,rfl,sent ▸ promise,received.trans grown,fun filled => ?_⟩
    have bound := near filled
    omega

theorem Sound.receive (s : Sound hmac secret transcript first x) (player : Player) (bytes : Bytes)
    (member : bytes ∈ x.packets.get (other player))
    (room : (x.channels.get player).received + InputChannel.window < 2^64) :
    ∃ ack taken after, ack ≤ (x.channels.get (other player)).received ∧
    (x.channels.get player).receive hmac (codec secret transcript player) bytes =
      (.ok ((List.range' (x.channels.get player).received taken).map (fun frame =>
        .input (other player) frame (valueAt first (x.pushed.get (other player)) frame))),after) ∧
    Gathered (valueAt first (x.pushed.get (other player))) first (x.channels.get (other player)).sent after ∧
    after.received = (x.channels.get player).received + taken ∧ after.player = (x.channels.get player).player ∧
    after.first = (x.channels.get player).first ∧ after.sent = (x.channels.get player).sent ∧
    after.acknowledged = max (x.channels.get player).acknowledged ack ∧
    after.pending = (x.channels.get player).pending.retain
      (fun frame _ => max (x.channels.get player).acknowledged ack ≤ frame) := by
  have own := s.flow player
  have peer := s.flow (other player)
  rw [other_other] at peer
  obtain ⟨ack,start,count,rfl,promise,known,near⟩ := peer.packets bytes member
  have seen := own.inbox.high
  have small := own.fits
  have fits := peer.fits
  have acked := peer.acked
  have startFits : start < 2^64 := by
    by_cases empty : count = 0
    · rw [promise.idle empty]
      decide
    · have within := promise.within empty
      omega
  have read := readPacket_sealed hmac (codec secret transcript (other player)) (codec secret transcript player) rfl rfl
    player ack start ((List.range' start count).map (valueAt first (x.pushed.get (other player)))) (by omega) startFits
    (by simpa using promise.short)
  rw [length_map,length_range'] at read
  obtain ⟨taken,after,received⟩ := receive_ok hmac (x.channels.get player) peer.inbox own.origin
    (codec secret transcript player) _ ack start count (by rw [own.owner]; exact read) promise (by omega) fits
    (fun filled => by have bound := near filled; omega) room
  rw [own.owner] at received
  exact ⟨ack,taken,after,known,received.1,received.2.1,received.2.2.1,received.2.2.2.1.trans own.owner.symm,
    received.2.2.2.2.1,received.2.2.2.2.2.1,received.2.2.2.2.2.2.1,received.2.2.2.2.2.2.2⟩

theorem Sound.authored (s : Sound hmac secret transcript first x) (player : Player) (bytes : Bytes) (packet : InputPacket)
    (genuine : Authentic hmac secret transcript player bytes → ∃ sender, bytes ∈ x.packets.get sender)
    (read : readPacket hmac player (codec secret transcript player) bytes = .ok packet) :
    bytes ∈ x.packets.get (other player) := by
  obtain ⟨verified,author⟩ := readPacket_genuine hmac player (codec secret transcript player) bytes packet read
  obtain ⟨sender,member⟩ := genuine verified
  rcases eq_or_other player sender with rfl | rfl
  · obtain ⟨ack,start,count,rfl,_⟩ := (s.flow sender).packets bytes member
    rw [(sealed_split hmac (codec secret transcript sender) sender ack start _).1,body_author] at author
    exact absurd (role_injective author).symm (other_ne sender)
  · exact member

theorem Sound.push (s : Sound hmac secret transcript first x) (player : Player) (frame : Nat) (buttons : UInt16)
    (next : InputChannel) (ok : (x.channels.get player).push frame buttons = (.ok (),next)) :
    Sound hmac secret transcript first {x with
      channels := x.channels.set player next
      pushed := x.pushed.set player (x.pushed.get player ++ [buttons])} := by
  have own := (s.flow player).push frame buttons next ok
  obtain ⟨_,_,_,rfl⟩ := push_ok _ frame buttons next ok
  refine ⟨fun reader => ?_⟩
  rcases eq_or_other player reader with rfl | rfl
  · simpa [Ports.get_set,other_ne] using own
  · have peer := s.flow (other player)
    rw [other_other] at peer
    simpa [Ports.get_set,other_ne] using peer.receiver {x.channels.get player with
      pending := (x.channels.get player).pending.insert (x.channels.get player).sent buttons
      sent := (x.channels.get player).sent + 1} rfl rfl rfl

theorem Sound.encode (s : Sound hmac secret transcript first x) (player : Player) (packet : Bytes) (next : InputChannel)
    (ok : (x.channels.get player).encode hmac (codec secret transcript player) = (.ok (some packet),next)) :
    Sound hmac secret transcript first {x with
      channels := x.channels.set player next
      packets := x.packets.set player (x.packets.get player ++ [packet])} := by
  have peer := s.flow (other player)
  rw [other_other] at peer
  obtain ⟨rfl,own⟩ := (s.flow player).encode packet next peer.inbox.low ok
  refine ⟨fun reader => ?_⟩
  rcases eq_or_other player reader with rfl | rfl
  · simpa [Ports.get_set,other_ne] using own
  · simpa [Ports.get_set,other_ne] using peer.receiver {x.channels.get player with ackDirty := false} rfl rfl rfl

theorem Sound.deliver (s : Sound hmac secret transcript first x) (player : Player) (bytes : Bytes)
    (genuine : Authentic hmac secret transcript player bytes → ∃ sender, bytes ∈ x.packets.get sender) :
    Sound hmac secret transcript first {x with
      channels := x.channels.set player ((x.channels.get player).receive hmac (codec secret transcript player) bytes).2
      given := x.given.set player (x.given.get player ++
        handed ((x.channels.get player).receive hmac (codec secret transcript player) bytes))} := by
  have own := s.flow player
  have peer := s.flow (other player)
  rw [other_other] at peer
  have refused (error : String)
      (unchanged : (x.channels.get player).receive hmac (codec secret transcript player) bytes =
        (.error error,x.channels.get player)) :
      Sound hmac secret transcript first {x with
        channels := x.channels.set player ((x.channels.get player).receive hmac (codec secret transcript player) bytes).2
        given := x.given.set player (x.given.get player ++
          handed ((x.channels.get player).receive hmac (codec secret transcript player) bytes))} := by
    rw [unchanged]
    simpa [handed,Except.toOption] using s
  cases read : readPacket hmac player (codec secret transcript player) bytes with
  | error error => exact refused error (receive_unread hmac _ _ bytes error (by rw [own.owner]; exact read))
  | ok packet =>
    by_cases room : (x.channels.get player).received + InputChannel.window < 2^64
    · obtain ⟨ack,taken,after,known,received,inbox,count,owner,origin,sent,acked,pending⟩ :=
        s.receive player bytes (s.authored player bytes packet genuine read) room
      refine ⟨fun reader => ?_⟩
      rw [received]
      rcases eq_or_other player reader with rfl | rfl
      · have kept := own.acknowledge after ack known (by omega) owner origin sent acked pending
        simpa [Ports.get_set,other_ne] using kept
      · have kept := peer.take after taken inbox count
        simpa [Ports.get_set,other_ne,handed,Except.toOption] using kept
    · obtain ⟨error,unchanged⟩ := receive_full hmac (x.channels.get player) (codec secret transcript player) bytes room
      exact refused error unchanged

theorem Sound.step (s : Sound hmac secret transcript first x) (after : Network)
    (step : Step hmac secret transcript x after) : Sound hmac secret transcript first after := by
  cases step with
  | push player frame buttons next ok => exact s.push player frame buttons next ok
  | encode player packet next ok => exact s.encode player packet next ok
  | deliver player bytes genuine => exact s.deliver player bytes genuine

theorem Flow.given_prefix (f : Flow hmac secret transcript first player a b pushed packets given) :
    given <+: messages first player pushed := by
  have high := f.inbox.high
  have sent := f.sent
  have low := f.inbox.low
  have taken : given = (messages first player pushed).take (b.received - first) := by
    rw [f.given]
    apply ext_getElem?
    intro index
    rw [List.getElem?_take,messages,List.getElem?_mapIdx]
    by_cases inside : index < b.received - first
    · have within : index < pushed.length := by omega
      simp [inside,valueAt,List.getElem?_eq_getElem within]
    · rw [if_neg inside,List.getElem?_eq_none (by simp; omega)]
  rw [taken]
  exact take_prefix _ _

/-- In every reachable state a side has been handed a prefix of what the other side pushed, and takes every packet the
other side ever sent while its receive window fits in a word. -/
theorem reachable_delivery (small : first < 2^64) (reach : Reachable hmac secret transcript first x) (player : Player) :
    x.given.get player <+: messages first (other player) (x.pushed.get (other player)) ∧
    ∀ bytes ∈ x.packets.get (other player), (x.channels.get player).received + 64 < 2^64 →
      ∃ inputs, ((x.channels.get player).receive hmac (codec secret transcript player) bytes).1 = .ok inputs := by
  have s : Sound hmac secret transcript first x :=
    invariant_of_run (sound_initial hmac secret transcript first small) (fun _ after s step => s.step after step) reach
  refine ⟨?_,fun bytes member room => ?_⟩
  · have peer := s.flow (other player)
    rw [other_other] at peer
    exact peer.given_prefix
  · obtain ⟨_,_,_,_,received,_⟩ := s.receive player bytes member room
    exact ⟨_,congrArg Prod.fst received⟩

end

-- One input pushed by player one and sent, under a tag that is the secret itself.
def openSecret (secret : Digest) (_ : Bytes) : Digest := secret

def zeros : Digest := List.Vector.replicate 32 0

theorem reachable_delivery_first_input : ∃ x bytes, Reachable openSecret zeros zeros 2 x ∧ bytes ∈ x.packets.one ∧
    ∃ inputs, (x.channels.two.receive openSecret (codec zeros zeros .two) bytes).1 = .ok inputs := by
  have pushed := Relation.ReflTransGen.refl.tail (@Step.push openSecret zeros zeros (initial 2) .one 2 5 _ rfl)
  have sent := pushed.tail (Step.encode _ .one _ _ rfl)
  exact ⟨_,_,sent,mem_singleton_self _,(reachable_delivery (by decide) sent .two).2 _ (mem_singleton_self _) (by decide)⟩

theorem last_frames_refused : ∃ x bytes, Reachable openSecret zeros zeros (2^64 - 20) x ∧ bytes ∈ x.packets.one ∧
    (x.channels.two.receive openSecret (codec zeros zeros .two) bytes).1 = .error "input frame overflow" := by
  have pushed := Relation.ReflTransGen.refl.tail
    (@Step.push openSecret zeros zeros (initial (2^64 - 20)) .one (2^64 - 20) 5 _ rfl)
  have sent := pushed.tail (Step.encode _ .one _ _ rfl)
  exact ⟨_,_,sent,mem_singleton_self _,rfl⟩

end Network
end ZeffBoy.Netplay
