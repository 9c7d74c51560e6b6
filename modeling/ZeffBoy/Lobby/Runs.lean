import ZeffBoy.Lobby.Steps

/-! The signals and the end of signalling keep the invariant, and with them every step of a run does. -/
namespace ZeffBoy.Lobby
open Library List

/-- The marks that an accepted signal leaves, and who may send it. -/
structure Marks (sender other : Member) (side : Bool) (signal : Signal) (marked : Member) : Prop where
  same : marked.id = sender.id
  finished : marked.finished = sender.finished
  few : marked.candidates ≤ maxCandidates
  candidates : marked.candidates = sender.candidates + [signal].countP Signal.isCandidate
  described : marked.description = true ↔ sender.description = true ∨ signal.isCandidate = false
  offer : signal.isOffer = true → side = false ∧ sender.description = false
  answer : signal.isAnswer = true → side = true ∧ sender.description = false ∧ other.description = true

theorem mark_marks {sender other marked : Member} {side : Bool} {signal : Signal} (few : sender.candidates ≤ maxCandidates)
    (marks : Rooms.mark sender other side signal = some marked) : Marks sender other side signal marked := by
  cases signal with
  | offer sdp =>
    simp only [Rooms.mark] at marks
    split at marks
    · rename_i allowed
      obtain rfl := Option.some.inj marks
      exact ⟨rfl,rfl,few,rfl,by simp [Signal.isCandidate],fun _ => allowed,(fun answer => by cases answer)⟩
    · cases marks
  | answer sdp =>
    simp only [Rooms.mark] at marks
    split at marks
    · rename_i allowed
      obtain rfl := Option.some.inj marks
      exact ⟨rfl,rfl,few,rfl,by simp [Signal.isCandidate],(fun offer => by cases offer),fun _ => allowed⟩
    · cases marks
  | candidate text sdpMid line =>
    simp only [Rooms.mark] at marks
    split at marks
    · rename_i allowed
      obtain rfl := Option.some.inj marks
      exact ⟨rfl,rfl,allowed,rfl,by simp [Signal.isCandidate],(fun offer => by cases offer),(fun answer => by cases answer)⟩
    · cases marks

theorem countP_append_one (accepted : List Signal) (signal : Signal) (kind : Signal → Bool) :
    (accepted ++ [signal]).countP kind = accepted.countP kind + if kind signal then 1 else 0 := by
  simp [countP_append,countP_singleton]

theorem kind_cases (signal : Signal) : signal.isCandidate = false → signal.isOffer = true ∨ signal.isAnswer = true := by
  cases signal <;> simp [Signal.isCandidate,Signal.isOffer,Signal.isAnswer]

theorem Tally.more {sender other marked : Member} {side : Bool} {signal : Signal} {accepted : List Signal}
    (tally : Tally side accepted) (marks : Marks sender other side signal marked) (valid : signal.valid = true)
    (candidates : accepted.countP Signal.isCandidate ≤ sender.candidates)
    (undescribed : sender.description = false →
      accepted.countP Signal.isOffer = 0 ∧ accepted.countP Signal.isAnswer = 0) : Tally side (accepted ++ [signal]) where
  offers := by
    rw [countP_append_one]
    split
    · rename_i offer
      obtain ⟨rfl,free⟩ := marks.offer offer
      rw [(undescribed free).1]
      exact le_rfl
    · exact tally.offers
  answers := by
    rw [countP_append_one]
    split
    · rename_i answer
      obtain ⟨rfl,free,_⟩ := marks.answer answer
      rw [(undescribed free).2]
      exact le_rfl
    · exact tally.answers
  candidates := by
    have bound := marks.few
    rw [marks.candidates] at bound
    rw [countP_append]
    omega
  valid := by
    intro other inside
    rcases mem_append.mp inside with old | new
    · exact tally.valid other old
    · obtain rfl := mem_singleton.mp new
      exact valid

namespace World
variable {config : Config} {world : World} {code : String} {room : Room} {guest sender other : Member} {side : Bool}

theorem seats_host (seats : room.seats guest false = (sender,other)) : sender = room.host ∧ other = guest :=
  ⟨(congrArg Prod.fst seats).symm,(congrArg Prod.snd seats).symm⟩

theorem seats_guest (seats : room.seats guest true = (sender,other)) : sender = guest ∧ other = room.host :=
  ⟨(congrArg Prod.fst seats).symm,(congrArg Prod.snd seats).symm⟩

theorem Inv.offered (inv : world.Inv config) (found : world.lobby.rooms.get? code = some room)
    (seats : room.seats guest side = (sender,other)) :
    (side = false → sender.description = true →
      ∃ signal ∈ (world.connections sender.id).accepted, signal.isOffer = true) ∧
    (side = true → other.description = true →
      ∃ signal ∈ (world.connections other.id).accepted, signal.isOffer = true) := by
  have host := (inv.kept code room found).offered
  constructor
  · rintro rfl
    rw [(seats_host seats).1]
    exact host
  · rintro rfl
    rw [(seats_guest seats).2]
    exact host

theorem Inv.limited (inv : world.Inv config) (found : world.lobby.rooms.get? code = some room)
    (joined : room.guest = some guest) (seats : room.seats guest side = (sender,other)) {marked : Member} {signal : Signal}
    (marks : Rooms.mark sender other side signal = some marked) (notOffer : signal.isOffer = false) :
    ({ world with lobby.rooms := world.lobby.rooms.insert code (Rooms.withSender room side marked) }.change sender.id
      { world.connections sender.id with phase := .ending }).Inv config := by
  have seated := inv.seated found joined seats
  obtain ⟨offered,_⟩ := inv.offered found seats
  obtain ⟨finished,candidates,few,undescribed,going,isOpen⟩ := seated.sits.marked
  have spec := mark_marks few marks
  have writes : world.Writes side sender other marked [] { world.connections sender.id with phase := .ending } := by
    refine ⟨spec.same,?_,rfl,rfl,rfl,(append_nil _).symm,?_,⟨?_,?_,spec.few,?_,going,isOpen⟩,?_,?_⟩
    · intro new
      cases new
    · exact (inv.standing sender.id).tally _ seated.sits.seat
    · exact spec.finished.trans finished
    · rw [spec.candidates]
      exact le_trans candidates (Nat.le_add_right _ _)
    · intro clear
      apply undescribed
      rw [Bool.eq_false_iff] at clear ⊢
      exact fun described => clear (spec.described.mpr (.inl described))
    · intro host described
      rcases spec.described.mp described with old | kind
      · exact offered host old
      · rcases kind_cases signal kind with offer | answer
        · cases notOffer.symm.trans offer
        · cases host.symm.trans (spec.answer answer).1
    · exact seated.paired.answered
  have result := inv.marking found joined seats writes
  unfold World.marking at result
  rw [map_nil,append_nil,Function.update_eq_self,spec.same] at result
  exact result

theorem Inv.sent (inv : world.Inv config) (found : world.lobby.rooms.get? code = some room)
    (joined : room.guest = some guest) (seats : room.seats guest side = (sender,other)) {marked : Member} {signal : Signal}
    (marks : Rooms.mark sender other side signal = some marked) (valid : signal.valid = true)
    (old : (world.connections sender.id).phase ≠ .fresh) :
    ({ world with lobby := ⟨world.lobby.rooms.insert code (Rooms.withSender room side marked),
      Function.update world.lobby.channels other.id { world.lobby.channels other.id with
        sent := (world.lobby.channels other.id).sent ++ [ServerMessage.signal signal] }⟩ }.change sender.id
      { world.connections sender.id with accepted := (world.connections sender.id).accepted ++ [signal] }).Inv config := by
  have seated := inv.seated found joined seats
  obtain ⟨offered,answered⟩ := inv.offered found seats
  obtain ⟨finished,candidates,few,undescribed,going,isOpen⟩ := seated.sits.marked
  have spec := mark_marks few marks
  have writes : world.Writes side sender other marked [signal]
      { world.connections sender.id with accepted := (world.connections sender.id).accepted ++ [signal] } := by
    refine ⟨spec.same,old,rfl,rfl,rfl,rfl,?_,⟨?_,?_,spec.few,?_,going,isOpen⟩,?_,?_⟩
    · exact ((inv.standing sender.id).tally _ seated.sits.seat).more spec valid candidates undescribed
    · exact spec.finished.trans finished
    · rw [spec.candidates,countP_append]
      exact Nat.add_le_add_right candidates _
    · intro clear
      rw [Bool.eq_false_iff,Ne,spec.described,not_or] at clear
      have kind : signal.isCandidate = true := by simpa using clear.2
      obtain ⟨offers,answers⟩ := undescribed (by simpa using clear.1)
      dsimp only
      rw [countP_append_one,countP_append_one,offers,answers]
      cases signal with
      | candidate text sdpMid line => exact ⟨rfl,rfl⟩
      | _ => cases kind
    · intro host described
      rcases spec.described.mp described with old | kind
      · obtain ⟨offer,inside,is⟩ := offered host old
        exact ⟨offer,mem_append_left _ inside,is⟩
      · rcases kind_cases signal kind with offer | answer
        · exact ⟨signal,mem_append_right _ (mem_singleton_self _),offer⟩
        · cases host.symm.trans (spec.answer answer).1
    · rintro ⟨reply,inside,is⟩
      rcases mem_append.mp inside with old | new
      · exact seated.paired.answered ⟨reply,old,is⟩
      · obtain rfl := mem_singleton.mp new
        obtain ⟨guests,_,described⟩ := spec.answer is
        exact answered guests described
  have result := inv.marking found joined seats writes
  unfold World.marking at result
  rw [spec.same] at result
  exact result

theorem Inv.finishes (inv : world.Inv config) (found : world.lobby.rooms.get? code = some room)
    (joined : room.guest = some guest) (seats : room.seats guest side = (sender,other))
    (old : (world.connections sender.id).phase ≠ .fresh) :
    ({ world with
      lobby.rooms := world.lobby.rooms.insert code (Rooms.withSender room side { sender with finished := true }) }.change
        sender.id { world.connections sender.id with finished := true }).Inv config := by
  have seated := inv.seated found joined seats
  obtain ⟨offered,_⟩ := inv.offered found seats
  obtain ⟨_,candidates,few,undescribed,going,isOpen⟩ := seated.sits.marked
  have writes : world.Writes side sender other { sender with finished := true } []
      { world.connections sender.id with finished := true } :=
    ⟨rfl,old,rfl,rfl,rfl,(append_nil _).symm,(inv.standing sender.id).tally _ seated.sits.seat,
      ⟨rfl,candidates,few,undescribed,going,isOpen⟩,offered,seated.paired.answered⟩
  have result := inv.marking found joined seats writes
  unfold World.marking at result
  rw [map_nil,append_nil,Function.update_eq_self] at result
  exact result

end World

end ZeffBoy.Lobby
