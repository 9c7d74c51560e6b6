import ZeffBoy.Netplay.Datagram

/-! What an input channel keeps whatever its peer sends: a call that fails changes nothing, and the windows bound the memory. -/
namespace ZeffBoy.Netplay
open Library Wire List

namespace InputChannel

variable (hmac : Digest → Bytes → Digest)

/-- A call on a channel; any bytes at all may be received. -/
inductive Step : InputChannel → InputChannel → Prop
  | push (c : InputChannel) (frame : Nat) (buttons : UInt16) : Step c (c.push frame buttons).2
  | encode (c : InputChannel) (codec : PacketCodec) : Step c (c.encode hmac codec).2
  | receive (c : InputChannel) (codec : PacketCodec) (bytes : Bytes) : Step c (c.receive hmac codec bytes).2

def Reachable (c : InputChannel) : Prop :=
  ∃ player first, first < 2^64 ∧ Relation.ReflTransGen (Step hmac) (new player first) c

/-- The counters are in order and each map lies within its window. -/
structure Bounded (c : InputChannel) : Prop where
  word : c.received < 2^64
  ordered : c.acknowledged ≤ c.sent
  pending : c.pending.size ≤ window
  inside : ∀ frame, (c.waiting.get? frame).isSome → c.received ≤ frame ∧ frame < c.received + window
  history : c.history.size ≤ window

/-- The counters only grow. -/
structure Grows (c next : InputChannel) : Prop where
  acknowledged : c.acknowledged ≤ next.acknowledged
  received : c.received ≤ next.received
  sent : c.sent ≤ next.sent

theorem Grows.refl (c : InputChannel) : Grows c c := ⟨le_rfl,le_rfl,le_rfl⟩

theorem bounded_new (player : Player) (first : Nat) (small : first < 2^64) : (new player first).Bounded :=
  ⟨small,Nat.le_refl first,Nat.zero_le _,(fun _ absent => nomatch absent),Nat.zero_le _⟩

variable {c : InputChannel}

theorem Bounded.push (bounded : c.Bounded) (frame : Nat) (buttons : UInt16) :
    (c.push frame buttons).2.Bounded ∧ Grows c (c.push frame buttons).2 := by
  unfold InputChannel.push
  dsimp only
  split
  · exact ⟨bounded,Grows.refl c⟩
  · rename_i next checked
    obtain ⟨contiguous,checked⟩ := check_bind_ok.mp checked
    obtain ⟨room,counted⟩ := check_bind_ok.mp checked
    have contiguous := ensure_ok.mp contiguous
    have room := ensure_ok.mp room
    obtain ⟨_,rfl⟩ := checkedAdd_ok.mp counted
    have grown := c.pending.size_insert_le frame buttons
    have ordered := bounded.ordered
    refine ⟨⟨bounded.word,?_,?_,bounded.inside,bounded.history⟩,⟨le_rfl,le_rfl,?_⟩⟩
    all_goals dsimp only
    all_goals omega

theorem Bounded.encode (bounded : c.Bounded) (codec : PacketCodec) :
    (c.encode hmac codec).2.Bounded ∧ Grows c (c.encode hmac codec).2 := by
  unfold InputChannel.encode
  split
  · exact ⟨bounded,Grows.refl c⟩
  · exact ⟨⟨bounded.word,bounded.ordered,bounded.pending,bounded.inside,bounded.history⟩,le_rfl,le_rfl,
      le_rfl⟩

theorem merge_inside (c : InputChannel) (waiting next : OrderedMap UInt16) (frame stop : Nat) (buttons : List UInt16)
    (inside : ∀ frame, (waiting.get? frame).isSome → c.received ≤ frame ∧ frame < stop)
    (within : frame + buttons.length ≤ stop) (merged : c.merge waiting frame buttons = .ok next) :
    ∀ frame, (next.get? frame).isSome → c.received ≤ frame ∧ frame < stop := by
  induction buttons generalizing waiting frame with
  | nil =>
    cases merged
    exact inside
  | cons value rest ih =>
    rw [length_cons] at within
    obtain ⟨_,merged⟩ := check_bind_ok.mp merged
    refine ih _ (frame + 1) ?_ (by omega) merged
    intro other present
    split at present
    · rw [OrderedMap.get?_insert] at present
      split at present
      · omega
      · exact inside other present
    · exact inside other present

theorem length_chunks (bytes : Bytes) : (chunks bytes).length = bytes.length / inputBytes := by
  induction bytes using chunks.induct with
  | case1 high low rest ih =>
    rw [chunks,length_cons,ih,length_cons,length_cons,inputBytes]
    omega
  | case2 bytes short =>
    match bytes,short with
    | [],_ => rfl
    | [_],_ => simp [chunks,inputBytes]
    | high::low::rest,short => exact absurd rfl (short high low rest)

theorem readPacket_count (player : Player) (codec : PacketCodec) (bytes : Bytes) (packet : InputPacket)
    (read : readPacket hmac player codec bytes = .ok packet) : packet.buttons.length = packet.count := by
  obtain ⟨_,read⟩ := check_bind_ok.mp read
  obtain ⟨_,read⟩ := check_bind_ok.mp read
  obtain ⟨_,read⟩ := check_bind_ok.mp read
  obtain ⟨_,read⟩ := check_bind_ok.mp read
  obtain ⟨sized,read⟩ := check_bind_ok.mp read
  obtain ⟨_,whole⟩ := ensure_ok.mp sized
  cases read
  rw [length_chunks,length_drop,whole,Nat.add_sub_cancel_left,Nat.mul_div_cancel _ (by decide)]

theorem Bounded.accept (bounded : c.Bounded) (packet : InputPacket)
    (counted : packet.buttons.length = packet.count) (waiting : OrderedMap UInt16) (accepted : c.accept packet = .ok waiting) :
    packet.ack ≤ c.sent ∧ c.received + window < 2^64 ∧
      ∀ frame, (waiting.get? frame).isSome → c.received ≤ frame ∧ frame < c.received + window := by
  obtain ⟨acked,accepted⟩ := check_bind_ok.mp accepted
  obtain ⟨_,accepted⟩ := check_bind_ok.mp accepted
  obtain ⟨stop,reached,accepted⟩ := bind_ok.mp accepted
  obtain ⟨upper,spanned,accepted⟩ := bind_ok.mp accepted
  obtain ⟨fitting,accepted⟩ := check_bind_ok.mp accepted
  obtain ⟨merged,merging,accepted⟩ := bind_ok.mp accepted
  obtain ⟨_,accepted⟩ := check_bind_ok.mp accepted
  cases accepted
  obtain ⟨_,rfl⟩ := checkedAdd_ok.mp reached
  obtain ⟨room,rfl⟩ := checkedAdd_ok.mp spanned
  refine ⟨(ensure_ok.mp acked).2,room,?_⟩
  by_cases idle : packet.count = 0
  · have empty : packet.buttons = [] := length_eq_zero_iff.mp (counted.trans idle)
    rw [empty] at merging
    cases merging
    exact bounded.inside
  · obtain ⟨_,within⟩ := ensure_ok.mp fitting idle
    exact merge_inside c c.waiting _ packet.first (c.received + window) packet.buttons bounded.inside
      (by rw [counted]; exact within) merging

theorem drain_consecutive (turns stop : Nat) (fits : stop < 2^64) (c : InputChannel) (word : c.received < 2^64)
    (inside : ∀ frame, (c.waiting.get? frame).isSome → c.received ≤ frame ∧ frame < stop) :
    ∃ (inputs : List UInt16) (after : InputChannel), drain turns c =
        (.ok (inputs.mapIdx fun index buttons => .input (other c.player) (c.received + index) buttons),after) ∧
      after.received = c.received + inputs.length ∧ after.received < 2^64 ∧
      (∀ frame, (after.waiting.get? frame).isSome → after.received ≤ frame ∧ frame < stop) ∧
      after = {c with waiting := after.waiting, received := after.received, history := after.history} := by
  induction turns generalizing c with
  | zero => exact ⟨[],c,rfl,rfl,word,inside,rfl⟩
  | succ turns ih =>
    unfold drain
    cases found : c.waiting.get? c.received with
    | none => exact ⟨[],c,rfl,rfl,word,inside,rfl⟩
    | some buttons =>
      obtain ⟨_,below⟩ := inside c.received (by simp [found])
      dsimp only
      rw [checkedAdd_pos (by omega)]
      dsimp only
      obtain ⟨inputs,after,drained,received,small,kept,rest⟩ := ih {c with
          waiting := c.waiting.erase c.received
          received := c.received + 1
          history := c.history.insert c.received buttons} (by dsimp only; omega) (by
        intro frame present
        rw [OrderedMap.get?_erase] at present
        split at present
        · contradiction
        · have bounds := inside frame present
          dsimp only
          omega)
      refine ⟨buttons::inputs,after,?_,?_,small,kept,rest⟩
      · rw [drained,mapIdx_cons]
        have shift : (fun (index : Nat) (value : UInt16) => Message.input (other c.player) (c.received + 1 + index) value) =
            fun index value => Message.input (other c.player) (c.received + (index + 1)) value := by
          funext index value
          rw [add_assoc,add_comm 1 index]
        dsimp only
        rw [shift]
        rfl
      · rw [received,length_cons]
        dsimp only
        omega

theorem size_trimHistory (turns : Nat) (history : OrderedMap UInt16) (enough : history.size ≤ turns + window) :
    (trimHistory turns history).size ≤ window := by
  induction turns generalizing history with
  | zero => rwa [zero_add] at enough
  | succ turns ih =>
    unfold trimHistory
    split
    · exact ih history.popFirst (by rw [OrderedMap.size_popFirst]; omega)
    · omega

theorem Bounded.receive (bounded : c.Bounded) (codec : PacketCodec) (bytes : Bytes) :
    (∃ error, c.receive hmac codec bytes = (.error error,c)) ∨
      ∃ (inputs : List UInt16) (next : InputChannel), c.receive hmac codec bytes =
          (.ok (inputs.mapIdx fun index buttons => .input (other c.player) (c.received + index) buttons),next) ∧
        next.received = c.received + inputs.length ∧ next.Bounded ∧ Grows c next := by
  unfold InputChannel.receive
  dsimp only
  split
  · rename_i error _
    exact .inl ⟨error,rfl⟩
  · rename_i packet waiting checked
    obtain ⟨read,readable,checked⟩ := bind_ok.mp checked
    obtain ⟨stored,accepted,checked⟩ := bind_ok.mp checked
    cases checked
    have counted := readPacket_count hmac c.player codec bytes packet readable
    obtain ⟨acked,room,inside⟩ := bounded.accept packet counted waiting accepted
    have ordered := bounded.ordered
    have trimmed := (c.pending.size_retain_le (fun frame _ => decide (max c.acknowledged packet.ack ≤ frame))).trans bounded.pending
    obtain ⟨inputs,after,drained,received,small,kept,rest⟩ := drain_consecutive waiting.size (c.received + window) room
      {c with
        waiting := waiting
        acknowledged := max c.acknowledged packet.ack
        pending := c.pending.retain (fun frame _ => max c.acknowledged packet.ack ≤ frame)} bounded.word inside
    rw [drained]
    dsimp only at received rest ⊢
    refine .inr ⟨inputs,_,rfl,received,?_,?_⟩
    · refine ⟨small,?_,?_,?_,size_trimHistory _ _ (Nat.le_add_right _ _)⟩
      · rw [rest]
        exact max_le ordered acked
      · rw [rest]
        exact trimmed
      · intro frame present
        have bounds := kept frame present
        dsimp only
        omega
    · rw [rest]
      exact ⟨le_max_left _ _,by dsimp only; omega,le_rfl⟩

theorem Step.bounded {c next : InputChannel} (step : Step hmac c next) (bounded : c.Bounded) : next.Bounded ∧ Grows c next := by
  cases step with
  | push frame buttons => exact bounded.push frame buttons
  | encode codec => exact bounded.encode hmac codec
  | receive codec bytes =>
    rcases bounded.receive hmac codec bytes with ⟨error,failed⟩ | ⟨inputs,next,received,_,kept,grown⟩
    · rw [failed]
      exact ⟨bounded,Grows.refl c⟩
    · rw [received]
      exact ⟨kept,grown⟩

theorem Reachable.bounded (reach : Reachable hmac c) : c.Bounded := by
  obtain ⟨player,first,small,run⟩ := reach
  induction run with
  | refl => exact bounded_new player first small
  | tail _ step ih => exact (step.bounded hmac ih).1

/-- In every reachable state of a channel its maps lie within their windows and it has acknowledged no more than it sent, no
call takes a counter back, and receiving any bytes either fails without a change or hands out the next inputs. -/
theorem reachable_receive (c : InputChannel) (reach : Reachable hmac c) :
    (c.acknowledged ≤ c.sent ∧ c.pending.size ≤ window ∧ c.waiting.size ≤ window ∧ c.history.size ≤ window) ∧
    (∀ next, Step hmac c next → c.acknowledged ≤ next.acknowledged ∧ c.received ≤ next.received ∧ c.sent ≤ next.sent) ∧
    ∀ codec bytes,
      (∀ error, (c.receive hmac codec bytes).1 = .error error → (c.receive hmac codec bytes).2 = c) ∧
      ∀ messages, (c.receive hmac codec bytes).1 = .ok messages → ∃ inputs : List UInt16,
        messages = inputs.mapIdx (fun index buttons => .input (other c.player) (c.received + index) buttons) ∧
        (c.receive hmac codec bytes).2.received = c.received + inputs.length := by
  have bounded := reach.bounded
  refine ⟨⟨bounded.ordered,bounded.pending,c.waiting.size_le_of_keys c.received window bounded.inside,bounded.history⟩,?_,?_⟩
  · intro next step
    obtain ⟨_,grown⟩ := step.bounded hmac bounded
    exact ⟨grown.acknowledged,grown.received,grown.sent⟩
  · intro codec bytes
    rcases bounded.receive hmac codec bytes with ⟨error,failed⟩ | ⟨inputs,next,received,counted,_⟩
    · rw [failed]
      exact ⟨fun _ _ => rfl,fun _ ok => by contradiction⟩
    · rw [received]
      refine ⟨fun _ failed => by contradiction,?_⟩
      intro messages ok
      cases ok
      exact ⟨inputs,rfl,counted⟩

-- A tag that is the secret itself, and the packet of a peer that has pushed one input.
def keyTag (secret : Digest) (_ : Bytes) : Digest := secret

def pairCodec (player : Player) : PacketCodec := .new player (List.Vector.replicate 32 0) (List.Vector.replicate 32 0)

def firstPacket : Bytes :=
  ((((new .two 7).push 7 5).2.encode keyTag (pairCodec .two)).1.toOption.bind id).getD []

theorem reachable_receive_first_packet : ∃ inputs : List UInt16,
    [Message.input .two 7 5] = inputs.mapIdx (fun index buttons => .input (other .one) (7 + index) buttons) ∧
      ((new .one 7).receive keyTag (pairCodec .one) firstPacket).2.received = 7 + inputs.length :=
  ((reachable_receive keyTag (new .one 7) ⟨.one,7,by decide,.refl⟩).2.2 (pairCodec .one) firstPacket).2 _ rfl

end InputChannel
end ZeffBoy.Netplay
