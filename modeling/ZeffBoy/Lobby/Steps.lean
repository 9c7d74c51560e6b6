import ZeffBoy.Lobby.Calls

/-! The invariant survives each call: the sweep, the ways in and out of a room, and the signals. -/
namespace ZeffBoy.Lobby
open Library List Function

namespace Rooms

theorem remove_cases (lobby : Rooms) (code : String) (id : Nat) :
    lobby.remove code id = lobby ∧ (∀ room, lobby.rooms.get? code = some room → room.hasMember id = false) ∨
      ∃ room, lobby.rooms.get? code = some room ∧ room.hasMember id = true ∧
        lobby.remove code id = ⟨lobby.rooms.erase code,room.notify lobby.channels .peerLeft⟩ := by
  unfold remove
  cases found : lobby.rooms.get? code with
  | none => exact .inl ⟨rfl,fun _ absent => by cases absent⟩
  | some room =>
    dsimp only
    split
    · rename_i member
      exact .inr ⟨room,rfl,member,rfl⟩
    · rename_i outside
      refine .inl ⟨rfl,?_⟩
      intro other same
      obtain rfl := Option.some.inj same
      simpa using outside

theorem remove_insert {rooms : AssocMap String Room} {channels : Channels} {code : String} {room : Room} {id : Nat}
    (member : room.hasMember id = true) : Rooms.remove ⟨rooms.insert code room,channels⟩ code id =
      ⟨(rooms.insert code room).erase code,room.notify channels .peerLeft⟩ := by
  simp [Rooms.remove,AssocMap.get?_insert,member]

end Rooms

theorem update_alike (channels : Channels) (id : Nat) (channel : Channel) (alike : channel.Alike (channels id)) (other : Nat) :
    (update channels id channel other).Alike (channels other) := by
  by_cases here : other = id
  · subst here
    rw [update_self]
    exact alike
  · rw [update_of_ne here]
    exact .refl _

namespace World

@[simp] theorem change_lobby (world : World) (id : Nat) (connection : Connection) :
    (world.change id connection).lobby = world.lobby := rfl

theorem change_alike (world : World) (id : Nat) (connection : Connection)
    (alike : connection.Alike (world.connections id)) (other : Nat) :
    ((world.change id connection).connections other).Alike (world.connections other) := by
  unfold change
  dsimp only
  by_cases here : other = id
  · subst here
    rw [update_self]
    exact alike
  · rw [update_of_ne here]
    exact .refl _

theorem change_other {world : World} {id : Nat} {connection : Connection} {other : Nat} (apart : other ≠ id) :
    (world.change id connection).connections other = world.connections other := update_of_ne apart _ _

theorem change_self (world : World) (id : Nat) (connection : Connection) :
    (world.change id connection).connections id = connection := update_self _ _ _

theorem close_other (lobby : Rooms) (id : Nat) {other : Nat} (apart : other ≠ id) :
    (close lobby id).channels other = lobby.channels other := update_of_ne apart _ _

theorem close_alike (lobby : Rooms) (id other : Nat) : ((close lobby id).channels other).Alike (lobby.channels other) :=
  update_alike lobby.channels id { lobby.channels id with closed := true } ⟨rfl,Iff.rfl⟩ other

variable {config : Config} {world : World}

theorem Inv.swept (inv : world.Inv config) (now : Nat) :
    Inv config { world with lobby := world.lobby.expire config now } := by
  apply inv.quiet
  · exact AssocMap.size_retain_le _ _
  · exact fun code room found => ((Rooms.get?_expire config now world.lobby code room).mp found).1
  · exact Rooms.expire_alike config now world.lobby
  · intro code room id found member
    obtain ⟨before,alive⟩ := (Rooms.get?_expire config now world.lobby code room).mp found
    have same : (world.lobby.expire config now).channels id = world.lobby.channels id := by
      apply Rooms.expire_other
      intro other others foundOther dead
      rw [Bool.eq_false_iff]
      intro memberOther
      obtain rfl := inv.room_unique before foundOther member memberOther
      obtain rfl := Option.some.inj (before.symm.trans foundOther)
      cases alive.symm.trans dead
    rw [same]
    exact ⟨rfl,rfl⟩
  · exact fun _ => .refl _
  · exact fun id fresh => ⟨fresh,Rooms.expire_other _ _ _ _ (fun _ _ found _ => inv.outside fresh found)⟩

theorem Inv.received (inv : world.Inv config) (id : Nat) : Inv config { world with lobby :=
    { world.lobby with channels := update world.lobby.channels id (world.lobby.channels id).receive } } := by
  have same (channel : Channel) : channel.receive.sent = channel.sent ∧ channel.receive.closed = channel.closed := by
    unfold Channel.receive
    split <;> exact ⟨rfl,rfl⟩
  have alike (channel : Channel) : channel.receive.Alike channel := by
    unfold Channel.Alike Channel.signals
    rw [(same channel).1]
    exact ⟨rfl,Iff.rfl⟩
  apply inv.quiet
  · exact le_refl _
  · exact fun _ _ found => found
  · exact update_alike _ _ _ (alike _)
  · intro _ _ other _ _
    dsimp only
    by_cases here : other = id
    · subst here
      rw [update_self]
      exact ⟨(same _).2,(same _).1⟩
    · rw [update_of_ne here]
      exact ⟨rfl,rfl⟩
  · exact fun _ => .refl _
  · intro other fresh
    refine ⟨fresh,?_⟩
    have empty := ((inv.standing other).fresh fresh).2
    dsimp only
    by_cases here : other = id
    · subst here
      rw [update_self,empty]
      rfl
    · rw [update_of_ne here]

theorem Inv.phased (inv : world.Inv config) (id : Nat) (phase : Phase) (old : phase ≠ .fresh) :
    (world.change id { world.connections id with phase := phase }).Inv config := by
  apply inv.quiet
  · exact le_refl _
  · exact fun _ _ found => found
  · exact fun _ => .refl _
  · exact fun _ _ _ _ _ => ⟨rfl,rfl⟩
  · exact change_alike world id _ rfl
  · intro other fresh
    by_cases here : other = id
    · subst here
      rw [change_self] at fresh
      exact absurd fresh old
    · rw [change_other here] at fresh
      exact ⟨fresh,rfl⟩

theorem Inv.gone (inv : world.Inv config) {lobby : Rooms} (id : Nat) (size : lobby.rooms.size ≤ world.lobby.rooms.size)
    (rooms : ∀ code room, lobby.rooms.get? code = some room →
      world.lobby.rooms.get? code = some room ∧ room.hasMember id = false)
    (alike : ∀ other, (lobby.channels other).Alike (world.lobby.channels other))
    (kept : ∀ code room other, lobby.rooms.get? code = some room → room.hasMember other = true →
      lobby.channels other = world.lobby.channels other)
    (fresh : ∀ other, other ≠ id → (world.connections other).phase = .fresh →
      lobby.channels other = world.lobby.channels other) :
    ({ world with lobby := close lobby id }.change id { world.connections id with phase := .gone }).Inv config := by
  apply inv.quiet
  · exact size
  · exact fun code room found => (rooms code room found).1
  · exact fun other => (close_alike lobby id other).trans (alike other)
  · intro code room other found member
    have apart : other ≠ id := by
      rintro rfl
      cases member.symm.trans (rooms code room found).2
    rw [change_lobby]
    dsimp only
    rw [close_other _ _ apart,kept code room other found member]
    exact ⟨rfl,rfl⟩
  · exact change_alike { world with lobby := close lobby id } id _ rfl
  · intro other new
    have apart : other ≠ id := by
      rintro rfl
      rw [change_self] at new
      cases new
    rw [change_other apart] at new
    rw [change_lobby]
    dsimp only
    rw [close_other _ _ apart]
    exact ⟨new,fresh other apart new⟩

theorem Inv.removed (inv : world.Inv config) {id : Nat} {membership : Membership}
    (seat : (world.connections id).membership = some membership) :
    ({ world with lobby := close (world.lobby.remove membership.code id) id }.change id
      { world.connections id with phase := .gone }).Inv config := by
  have home {code : String} {room : Room} (found : world.lobby.rooms.get? code = some room)
      (member : room.hasMember id = true) : code = membership.code := by
    obtain ⟨_,same⟩ := (inv.kept code room found).seat member
    exact (congrArg Membership.code (Option.some.inj (seat.symm.trans same))).symm
  rcases Rooms.remove_cases world.lobby membership.code id with ⟨same,outside⟩ | ⟨room,found,member,taken⟩
  · rw [same]
    apply inv.gone
    · exact le_refl _
    · intro code room found
      refine ⟨found,?_⟩
      rw [Bool.eq_false_iff]
      intro inside
      obtain rfl := home found inside
      cases inside.symm.trans (outside room found)
    · exact fun _ => .refl _
    · exact fun _ _ _ _ _ => rfl
    · exact fun _ _ _ => rfl
  · rw [taken]
    have left {code : String} {other : Room} (holds : (world.lobby.rooms.erase membership.code).get? code = some other) :
        code ≠ membership.code ∧ world.lobby.rooms.get? code = some other := by
      rw [AssocMap.get?_erase] at holds
      split at holds
      · cases holds
      · rename_i apart
        exact ⟨apart,holds⟩
    apply inv.gone
    · exact AssocMap.size_erase_le _ _
    · intro code other holds
      refine ⟨(left holds).2,?_⟩
      rw [Bool.eq_false_iff]
      exact fun inside => (left holds).1 (home (left holds).2 inside)
    · exact fun other => notify_alike quiet_peerLeft other
    · intro code others other holds inside
      apply notify_other
      rw [Bool.eq_false_iff]
      intro insideToo
      exact (left holds).1 (inv.room_unique (left holds).2 found inside insideToo)
    · intro other _ fresh
      exact notify_other (inv.outside fresh found)

theorem Inv.ready (inv : world.Inv config) (code : String) (room : Room) (found : world.lobby.rooms.get? code = some room)
    (single : room.guest = none) : trySend world.lobby.channels room.host.id .peerJoined ≠ none := by
  obtain ⟨empty,_,_⟩ := (inv.kept code room found).lonely single
  have isOpen := (inv.kept code room found).host.marked.isOpen
  intro refused
  have full := trySend_none refused isOpen
  rw [Channel.full,empty] at full
  simp [capacity] at full

theorem Inv.created (inv : world.Inv config) {id now : Nat} (fresh : (world.connections id).phase = .fresh) (code : String)
    (identity : SessionIdentity) (few : world.lobby.rooms.size < config.maxRooms)
    (free : world.lobby.rooms.get? code = none) : ({ world with
      lobby.rooms := world.lobby.rooms.insert code ⟨identity,now,{ id := id },none⟩ }.change id { world.connections id with
        phase := .active, membership := some ⟨code,false⟩, identity := some identity, peer := none }).Inv config := by
  obtain ⟨unused,empty⟩ := (inv.standing id).fresh fresh
  rw [unused]
  apply inv.between id id
  · exact le_trans (AssocMap.size_insert_le _ _ _) few
  · exact fun other apart _ => ⟨change_other apart,rfl⟩
  · exact fun other paired => (inv.unpaired fresh (paired.elim (fun peer => peer) (fun peer => peer))).elim
  · have standing : Standing (update world.connections id
        { phase := .active, membership := some ⟨code,false⟩, identity := some identity, peer := none })
        world.lobby.channels id := by
      refine ⟨?_,?_,?_,?_⟩
      · intro new
        rw [update_self] at new
        cases new
      · intro _
        rw [update_self,empty]
        exact ⟨rfl,rfl,not_mem_nil⟩
      · intro membership _
        rw [update_self]
        exact ⟨Nat.zero_le _,Nat.zero_le _,Nat.zero_le _,fun _ inside => (not_mem_nil inside).elim⟩
      · intro peer paired
        rw [update_self] at paired
        cases paired
    exact ⟨standing,standing⟩
  · intro key room found
    rw [change_lobby] at found
    dsimp only at found
    rw [AssocMap.get?_insert] at found
    by_cases here : key = code
    · subst here
      rw [if_pos rfl] at found
      obtain rfl := Option.some.inj found
      apply Or.inl
      refine ⟨⟨?_,?_,?_⟩,?_,?_,?_⟩
      · rw [change_self]
      · rw [change_self]
      · rw [change_self,change_lobby]
        dsimp only
        rw [empty]
        exact ⟨rfl,le_rfl,Nat.zero_le _,fun _ => ⟨rfl,rfl⟩,not_mem_nil,rfl⟩
      · intro described
        cases described
      · intro _
        rw [change_self,change_lobby]
        dsimp only
        rw [empty]
        exact ⟨rfl,rfl,rfl⟩
      · intro guest joined
        cases joined
    · rw [if_neg here] at found
      have away := inv.outside fresh found
      exact .inr ⟨found,away,away⟩

theorem Inv.joined (inv : world.Inv config) {id : Nat} (fresh : (world.connections id).phase = .fresh) (code : String)
    (room : Room) (found : world.lobby.rooms.get? code = some room) (single : room.guest = none) :
    (({ world with lobby := ⟨world.lobby.rooms.insert code { room with guest := some { id := id } },
        update world.lobby.channels room.host.id { world.lobby.channels room.host.id with
          sent := (world.lobby.channels room.host.id).sent ++ [ServerMessage.peerJoined] }⟩ }.change id
      { world.connections id with
        phase := .active, membership := some ⟨code,true⟩, identity := some room.identity, peer := some room.host.id }).change room.host.id { world.connections room.host.id with peer := some id }).Inv
      config := by
  obtain ⟨unused,empty⟩ := (inv.standing id).fresh fresh
  obtain ⟨host,offered,lonely,_⟩ := inv.kept code room found
  obtain ⟨quiet,unmarked,alone⟩ := lonely single
  have standing := inv.standing room.host.id
  obtain ⟨silent,unaccepted,_⟩ := standing.alone alone
  have apart : room.host.id ≠ id := by
    intro same
    have outside := inv.outside fresh found
    rw [← same,hasMember_host] at outside
    cases outside
  unfold change
  dsimp only
  generalize changed : update (update world.connections id _) room.host.id _ = connections
  have hostSelf : connections room.host.id = { world.connections room.host.id with peer := some id } := by
    rw [← changed,update_self]
  have guestSelf : connections id =
      { phase := .active, membership := some ⟨code,true⟩, identity := some room.identity, peer := some room.host.id } := by
    rw [← changed,update_of_ne apart.symm,update_self,unused]
  generalize put : update world.lobby.channels room.host.id _ = channels
  have hostQueue : channels room.host.id = { world.lobby.channels room.host.id with sent := [.peerJoined] } := by
    rw [← put,update_self,quiet]
    rfl
  have guestQueue : channels id = {} := by
    rw [← put,update_of_ne apart.symm,empty]
  have hostSits : Sits connections channels code room.identity false room.host := by
    refine ⟨?_,?_,?_⟩
    · rw [hostSelf]
      exact host.seat
    · rw [hostSelf]
      exact host.identity
    · rw [hostSelf,hostQueue]
      exact ⟨host.marked.finished,host.marked.candidates,host.marked.few,host.marked.undescribed,by simp,host.marked.isOpen⟩
  have guestSits : Sits connections channels code room.identity true { id := id } := by
    refine ⟨?_,?_,?_⟩
    · rw [guestSelf]
    · rw [guestSelf]
    · rw [guestSelf,guestQueue]
      exact ⟨rfl,le_rfl,Nat.zero_le _,fun _ => ⟨rfl,rfl⟩,not_mem_nil,rfl⟩
  have hostStanding : Standing connections channels room.host.id := by
    refine ⟨?_,?_,?_,?_⟩
    · intro new
      rw [hostSelf] at new
      have seat := host.seat
      rw [(standing.fresh new).1] at seat
      cases seat
    · intro unpaired
      rw [hostSelf] at unpaired
      cases unpaired
    · intro membership member
      rw [hostSelf] at member ⊢
      exact standing.tally membership member
    · intro peer paired
      rw [hostSelf] at paired
      obtain rfl := Option.some.inj paired
      refine ⟨?_,⟨code,false,?_⟩,?_,?_,?_,?_⟩
      · rw [guestSelf]
      · rw [hostSelf,guestSelf]
        exact ⟨host.seat,rfl⟩
      · rw [hostQueue,guestSelf]
        rfl
      · rw [hostSelf]
        dsimp only
        rw [unaccepted]
        rintro ⟨_,inside,_⟩
        exact (not_mem_nil inside).elim
      · rw [hostQueue]
        simp
      · rw [hostQueue]
        simp
  have guestStanding : Standing connections channels id := by
    refine ⟨?_,?_,?_,?_⟩
    · intro new
      rw [guestSelf] at new
      cases new
    · intro unpaired
      rw [guestSelf] at unpaired
      cases unpaired
    · intro membership _
      rw [guestSelf]
      exact ⟨Nat.zero_le _,Nat.zero_le _,Nat.zero_le _,fun _ inside => (not_mem_nil inside).elim⟩
    · intro peer paired
      rw [guestSelf] at paired
      obtain rfl := Option.some.inj paired
      refine ⟨?_,⟨code,true,?_⟩,?_,?_,?_,?_⟩
      · rw [hostSelf]
      · rw [hostSelf,guestSelf]
        exact ⟨rfl,host.seat⟩
      · rw [guestQueue,hostSelf]
        exact unaccepted.symm
      · rw [guestSelf]
        rintro ⟨_,inside,_⟩
        exact (not_mem_nil inside).elim
      · rw [guestQueue]
        exact fun ended => (not_mem_nil ended).elim
      · rw [guestQueue]
        exact fun ended => (not_mem_nil ended).elim
  apply inv.between id room.host.id
  · exact le_trans (AssocMap.size_insert_present _ _ _ _ found) inv.few
  · intro other first second
    dsimp only
    rw [← changed,← put,update_of_ne second,update_of_ne first,update_of_ne second]
    exact ⟨rfl,rfl⟩
  · rintro other (paired | paired)
    · exact (inv.unpaired fresh paired).elim
    · have back := ((inv.standing other).paired _ paired).back
      cases back.symm.trans alone
  · exact ⟨guestStanding,hostStanding⟩
  · intro key value holds
    dsimp only at holds
    rw [AssocMap.get?_insert] at holds
    by_cases here : key = code
    · subst here
      rw [if_pos rfl] at holds
      obtain rfl := Option.some.inj holds
      apply Or.inl
      refine ⟨hostSits,?_,?_,?_⟩
      · intro described
        dsimp only
        rw [hostSelf]
        exact offered described
      · intro none
        cases none
      · intro guest joined
        obtain rfl := Option.some.inj joined
        refine ⟨guestSits,apart.symm,?_⟩
        dsimp only
        rw [hostSelf]
    · rw [if_neg here] at holds
      refine .inr ⟨holds,inv.outside fresh holds,?_⟩
      rw [Bool.eq_false_iff]
      exact fun member => here (inv.room_unique holds found member (hasMember_host room))

theorem Inv.withdrawn (inv : world.Inv config) {id now : Nat} (fresh : (world.connections id).phase = .fresh)
    {identity : SessionIdentity} {requested : Option String} {code : String} {lobby : Rooms}
    (placed : Rooms.Placed config world.lobby now id identity requested (.ok code,lobby)) :
    ({ world with lobby := close (lobby.remove code id) id }.change id { world.connections id with phase := .gone }).Inv
      config := by
  cases placed with
  | created _ few free =>
    have own : Room.hasMember ⟨identity,now,{ id := id },none⟩ id = true := hasMember_host _
    rw [Rooms.remove_insert own]
    apply inv.gone
    · exact AssocMap.size_erase_insert_le _ _ _
    · intro key room found
      dsimp only at found
      rw [AssocMap.get?_erase_insert] at found
      split at found
      · cases found
      · exact ⟨found,inv.outside fresh found⟩
    · exact fun other => send_alike quiet_peerLeft other
    · intro key room other found member
      dsimp only at found
      rw [AssocMap.get?_erase_insert] at found
      split at found
      · cases found
      · apply send_other
        rintro rfl
        cases member.symm.trans (inv.outside fresh found)
    · exact fun other apart _ => send_other apart
  | joined _ room found single same =>
    generalize told : update world.lobby.channels room.host.id _ = channels
    have quiet (other : Nat) : (channels other).Alike (world.lobby.channels other) := by
      rw [← told]
      exact update_alike _ _ _ (signals_append_quiet _ _ quiet_peerJoined) other
    have own : Room.hasMember { room with guest := some { id := id } } id = true := hasMember_joined room { id := id }
    have members {other : Nat} (host : other ≠ room.host.id) (guest : other ≠ id) :
        Room.notify { room with guest := some { id := id } } channels .peerLeft other = world.lobby.channels other := by
      rw [notify_other (by simp [Room.hasMember,host.symm,guest.symm]),← told,update_of_ne host]
    rw [Rooms.remove_insert own]
    apply inv.gone
    · exact AssocMap.size_erase_insert_le _ _ _
    · intro key other holds
      dsimp only at holds
      rw [AssocMap.get?_erase_insert] at holds
      split at holds
      · cases holds
      · exact ⟨holds,inv.outside fresh holds⟩
    · exact fun other => (notify_alike quiet_peerLeft other).trans (quiet other)
    · intro key others other holds member
      dsimp only at holds
      rw [AssocMap.get?_erase_insert] at holds
      split at holds
      · cases holds
      · rename_i away
        apply members
        · rintro rfl
          exact away (inv.room_unique holds found member (hasMember_host room))
        · rintro rfl
          cases member.symm.trans (inv.outside fresh holds)
    · intro other apart new
      apply members _ apart
      rintro rfl
      cases (inv.outside new found).symm.trans (hasMember_host room)

end World

end ZeffBoy.Lobby
