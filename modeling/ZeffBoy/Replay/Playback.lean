import ZeffBoy.Replay.Limits

/-! Playing a replay: the driver takes the events at the cursor and advances by batches of frames. -/
namespace ZeffBoy.Replay
open Library List

/-- The events up to the cursor, of which those exactly at it are delivered, and how many of them there are. -/
def scanEvents (cursor : Nat) : List ReplayEvent → List ReplayEvent × Nat
  | [] => ([],0)
  | event::events =>
    if cursor < event.frame.toNat then ([],0)
    else
      let (later,count) := scanEvents cursor events
      (if event.frame.toNat = cursor ∧ event.isFrameBoundaryEvent then event::later else later,count + 1)

namespace ReplayPlayer

def cursorFrame (player : ReplayPlayer) : Nat := min player.cursor (2^64 - 1)

def takeEventsAtCursor (player : ReplayPlayer) : List ReplayEvent × ReplayPlayer :=
  let (events,count) := scanEvents player.cursorFrame (player.metadata.events.drop player.eventCursor)
  (events,{player with eventCursor := player.eventCursor + count})

def framesUntilNextEvent (player : ReplayPlayer) (maxFrames : Nat) : Nat :=
  match (player.metadata.events.drop player.eventCursor).find? ReplayEvent.isFrameBoundaryEvent with
  | none => maxFrames
  | some event =>
    if event.frame.toNat ≤ player.cursorFrame then 0 else min maxFrames (event.frame.toNat - player.cursorFrame)

def advanceFrames (player : ReplayPlayer) (count : Nat) : ReplayPlayer :=
  {player with cursor := min (min (player.cursor + count) (2^64 - 1)) player.frames.length}

def isFinished (player : ReplayPlayer) : Prop := player.frames.length ≤ player.cursor

/-- What a driver delivers, with the cursor of each delivery: it advances no further than it is told to, and takes the
events once more at the end. -/
inductive Drive : ReplayPlayer → List (Nat × List ReplayEvent) → Prop
  | finished (player : ReplayPlayer) (done : player.isFinished) :
      Drive player [(player.cursor,player.takeEventsAtCursor.1)]
  | take (player : ReplayPlayer) (deliveries : List (Nat × List ReplayEvent))
      (rest : Drive player.takeEventsAtCursor.2 deliveries) :
      Drive player ((player.cursor,player.takeEventsAtCursor.1)::deliveries)
  | advance (player : ReplayPlayer) (maxFrames count : Nat) (deliveries : List (Nat × List ReplayEvent))
      (within : count ≤ player.framesUntilNextEvent maxFrames) (rest : Drive (player.advanceFrames count) deliveries) :
      Drive player deliveries

def upcoming (player : ReplayPlayer) : List ReplayEvent := player.metadata.events.drop player.eventCursor

/-- No boundary event lies behind the cursor or beyond the frames. -/
structure OnTime (player : ReplayPlayer) : Prop where
  word : player.cursor < 2^64
  ordered : player.metadata.events.Pairwise (fun left right => left.frame ≤ right.frame)
  ahead : ∀ event ∈ player.upcoming, event.isFrameBoundaryEvent → player.cursor ≤ event.frame.toNat
  inside : ∀ event ∈ player.metadata.events, event.isFrameBoundaryEvent → event.frame.toNat ≤ player.frames.length

end ReplayPlayer

theorem scanEvents_spec (cursor : Nat) (events : List ReplayEvent)
    (ordered : events.Pairwise (fun left right => left.frame ≤ right.frame))
    (ahead : ∀ event ∈ events, event.isFrameBoundaryEvent → cursor ≤ event.frame.toNat) :
    (scanEvents cursor events).1 ++ (events.drop (scanEvents cursor events).2).filter ReplayEvent.isFrameBoundaryEvent =
        events.filter ReplayEvent.isFrameBoundaryEvent ∧
      (∀ event ∈ (scanEvents cursor events).1, event.frame.toNat = cursor) ∧
      ∀ event ∈ events.drop (scanEvents cursor events).2, cursor < event.frame.toNat := by
  induction events with
  | nil => exact ⟨rfl,fun _ absent => (not_mem_nil absent).elim,fun _ absent => (not_mem_nil absent).elim⟩
  | cons event events ih =>
    obtain ⟨first,ordered⟩ := pairwise_cons.mp ordered
    obtain ⟨delivered,at_cursor,beyond⟩ := ih ordered (fun other member => ahead other (mem_cons_of_mem _ member))
    by_cases later : cursor < event.frame.toNat
    · rw [scanEvents,if_pos later]
      refine ⟨rfl,fun _ absent => (not_mem_nil absent).elim,?_⟩
      intro other member
      rcases mem_cons.mp member with rfl | member
      · exact later
      · exact later.trans_le (UInt64.le_iff_toNat_le.mp (first other member))
    · rw [scanEvents,if_neg later]
      dsimp only
      rw [drop_succ_cons]
      by_cases boundary : event.isFrameBoundaryEvent
      · have here : event.frame.toNat = cursor := le_antisymm (by omega) (ahead event mem_cons_self boundary)
        rw [if_pos ⟨here,boundary⟩,cons_append,delivered,filter_cons_of_pos boundary]
        exact ⟨rfl,forall_mem_cons.mpr ⟨here,at_cursor⟩,beyond⟩
      · rw [if_neg (fun both => boundary both.2),delivered,filter_cons_of_neg boundary]
        exact ⟨rfl,at_cursor,beyond⟩

namespace ReplayPlayer

variable {player : ReplayPlayer}

theorem OnTime.cursorFrame (onTime : player.OnTime) : player.cursorFrame = player.cursor := by
  have word := onTime.word
  rw [ReplayPlayer.cursorFrame]
  omega

theorem OnTime.upcoming_ordered (onTime : player.OnTime) :
    player.upcoming.Pairwise (fun left right => left.frame ≤ right.frame) :=
  onTime.ordered.sublist (drop_sublist ..)

theorem OnTime.takeEvents (onTime : player.OnTime) :
    player.takeEventsAtCursor.1 ++ player.takeEventsAtCursor.2.upcoming.filter ReplayEvent.isFrameBoundaryEvent =
        player.upcoming.filter ReplayEvent.isFrameBoundaryEvent ∧
      (∀ event ∈ player.takeEventsAtCursor.1, event.frame.toNat = player.cursor) ∧
      (∀ event ∈ player.takeEventsAtCursor.2.upcoming, player.cursor < event.frame.toNat) ∧
      player.takeEventsAtCursor.2.OnTime := by
  obtain ⟨delivered,here,beyond⟩ := scanEvents_spec player.cursor player.upcoming onTime.upcoming_ordered onTime.ahead
  have left : player.takeEventsAtCursor.2.upcoming = player.upcoming.drop (scanEvents player.cursor player.upcoming).2 := by
    rw [upcoming,upcoming,takeEventsAtCursor,onTime.cursorFrame,drop_drop]
  have taken : player.takeEventsAtCursor.1 = (scanEvents player.cursor player.upcoming).1 := by
    rw [takeEventsAtCursor,onTime.cursorFrame,upcoming]
  rw [left,taken]
  exact ⟨delivered,here,beyond,onTime.word,onTime.ordered,
    fun event member _ => (beyond event (left ▸ member)).le,onTime.inside⟩

theorem OnTime.advanceFrames (onTime : player.OnTime) (maxFrames count : Nat)
    (within : count ≤ player.framesUntilNextEvent maxFrames) : (player.advanceFrames count).OnTime := by
  refine ⟨?_,onTime.ordered,?_,onTime.inside⟩
  · rw [ReplayPlayer.advanceFrames]
    dsimp only
    omega
  · intro event member boundary
    have behind := onTime.ahead event member boundary
    have ordered := onTime.upcoming_ordered
    have word := event.frame.toNat_lt
    rw [framesUntilNextEvent,onTime.cursorFrame] at within
    rw [ReplayPlayer.advanceFrames]
    dsimp only
    cases next : player.upcoming.find? ReplayEvent.isFrameBoundaryEvent with
    | none =>
      have absent := List.find?_eq_none.mp next event member
      contradiction
    | some first =>
      have near : first.frame.toNat ≤ event.frame.toNat := by
        obtain ⟨_,front,back,split,passed⟩ := List.find?_eq_some_iff_append.mp next
        have member : event ∈ front ++ first::back := split ▸ member
        rw [split] at ordered
        rcases mem_append.mp member with earlier | member
        · have inner := passed event earlier
          rw [boundary] at inner
          contradiction
        · rcases mem_cons.mp member with rfl | later
          · exact le_rfl
          · have rest := (pairwise_append.mp ordered).2.1
            exact UInt64.le_iff_toNat_le.mp ((pairwise_cons.mp rest).1 event later)
      rw [upcoming] at next
      rw [next] at within
      dsimp only at within
      split at within
      · omega
      · omega

theorem Drive.deliveries {player : ReplayPlayer} {deliveries : List (Nat × List ReplayEvent)}
    (drive : Drive player deliveries) (onTime : player.OnTime) :
    deliveries.flatMap Prod.snd = player.upcoming.filter ReplayEvent.isFrameBoundaryEvent ∧
      ∀ delivery ∈ deliveries, ∀ event ∈ delivery.2, event.frame.toNat = delivery.1 := by
  induction drive with
  | finished player done =>
    obtain ⟨delivered,here,beyond,_⟩ := onTime.takeEvents
    have empty : player.takeEventsAtCursor.2.upcoming.filter ReplayEvent.isFrameBoundaryEvent = [] := by
      rw [filter_eq_nil_iff]
      intro event member boundary
      have inside := onTime.inside event (mem_of_mem_drop member) boundary
      exact absurd (beyond event member) (not_lt.mpr (inside.trans done))
    rw [empty,append_nil] at delivered
    refine ⟨?_,?_⟩
    · rw [flatMap_cons,flatMap_nil,append_nil,delivered]
    · intro delivery member
      rw [mem_singleton.mp member]
      exact here
  | take player deliveries rest ih =>
    obtain ⟨delivered,here,_,onTime⟩ := onTime.takeEvents
    obtain ⟨later,timed⟩ := ih onTime
    refine ⟨?_,forall_mem_cons.mpr ⟨here,timed⟩⟩
    rw [flatMap_cons,later,delivered]
  | advance player maxFrames count deliveries within rest ih => exact ih (onTime.advanceFrames maxFrames count within)

end ReplayPlayer

theorem ReplayMetadata.decode_canonical (bytes : Bytes) (metadata : ReplayMetadata)
    (ok : ReplayMetadata.decode bytes = .ok metadata) : ReplayEvent.Canonical metadata.events := by
  obtain ⟨⟨_,left⟩,read,rfl⟩ := map_eq_ok.mp ok
  have yields : ReplayMetadata.decodeFields.Yields fun metadata => ReplayEvent.Canonical metadata.events := by
    repeat refine .bind fun _ => ?_
    exact .pure (ReplayEvent.sortCanonical_pairwise _)
  exact yields _ _ _ read

theorem ReplayEvent.Canonical.frames {events : List ReplayEvent} (canonical : ReplayEvent.Canonical events) :
    events.Pairwise (fun left right => left.frame ≤ right.frame) := by
  refine canonical.imp ?_
  intro left right related
  have ordered := (ReplayEvent.canonicalCmp_ne_gt left right).mp related
  exact UInt64.le_iff_toNat_le.mpr (Prod.Lex.monotone_fst _ _ ordered)

theorem ReplayPlayer.decode_start (bytes : Bytes) (limits : Option ReplayLoadLimits) (player : ReplayPlayer)
    (ok : ReplayPlayer.decode bytes limits = .ok player) : player.OnTime ∧ player.eventCursor = 0 := by
  cases decode_decoded ok with
  | legacy saveState input frames short decoded =>
    exact ⟨⟨Nat.two_pow_pos 64,.nil,fun _ absent => (not_mem_nil absent).elim,
      fun _ absent => (not_mem_nil absent).elim⟩,rfl⟩
  | current saveState block input frames metadata version required read validated short decoded padded =>
    have canonical := ReplayMetadata.decode_canonical block metadata read
    have frames := fun (event : ReplayEvent) (member : event ∈ metadata.events) (boundary : event.isFrameBoundaryEvent) =>
      padFrames_reach frames metadata event.frame.toNat (mem_append_left _ (mem_filterMap.mpr
        ⟨event,member,by rw [ReplayEvent.requiredFrameCount,if_pos boundary]⟩))
    exact ⟨⟨Nat.two_pow_pos 64,canonical.frames,fun _ _ _ => Nat.zero_le _,frames⟩,rfl⟩

/-- A driver that stops at every event and goes to the end of a decoded replay is given each boundary event once, in order,
when the cursor stands at its frame. -/
theorem ReplayPlayer.drive_boundary_events (bytes : Bytes) (limits : Option ReplayLoadLimits) (player : ReplayPlayer)
    (ok : ReplayPlayer.decode bytes limits = .ok player) (deliveries : List (Nat × List ReplayEvent))
    (drive : Drive player deliveries) :
    deliveries.flatMap Prod.snd = player.metadata.events.filter ReplayEvent.isFrameBoundaryEvent ∧
      ∀ delivery ∈ deliveries, ∀ event ∈ delivery.2, event.frame.toNat = delivery.1 := by
  obtain ⟨onTime,start⟩ := decode_start bytes limits player ok
  have whole : player.upcoming = player.metadata.events := by rw [upcoming,start,drop_zero]
  rw [← whole]
  exact drive.deliveries onTime

/-- The player of a recording whose disk is turned after its last frame. -/
def cameraPlayer : ReplayPlayer := {
  saveState := [7]
  frames := padFramesToMetadataEvents cameraRecorder.frames cameraRecorder.metadata
  cursor := 0
  metadata := cameraRecorder.metadata
  eventCursor := 0
  version := 3 }

theorem drive_boundary_events_camera :
    [(0,[]),(3,[ReplayEvent.fdsDiskSide 3 1])].flatMap Prod.snd =
        cameraPlayer.metadata.events.filter ReplayEvent.isFrameBoundaryEvent ∧
      ∀ delivery ∈ [(0,[]),(3,[ReplayEvent.fdsDiskSide 3 1])], ∀ event ∈ delivery.2, event.frame.toNat = delivery.1 := by
  have decoded : ReplayPlayer.decode cameraFile none = .ok cameraPlayer := by decide +kernel
  have drive : ReplayPlayer.Drive cameraPlayer [(0,[]),(3,[.fdsDiskSide 3 1])] :=
    .take cameraPlayer _ (.advance _ 2 2 _ (by decide) (.advance _ 5 1 _ (by decide) (.finished _ (Nat.le_refl 3))))
  exact ReplayPlayer.drive_boundary_events cameraFile none cameraPlayer decoded _ drive

/-- Where a recording loads, its boundary events are delivered: each once, in the canonical order, and at its frame. -/
theorem recorded_events_delivered (recorder : ReplayRecorder) (bytes : Bytes) (written : recorder.intoBytes = .ok bytes)
    (player : ReplayPlayer) (loaded : ReplayPlayer.load bytes = .ok player) (deliveries : List (Nat × List ReplayEvent))
    (drive : ReplayPlayer.Drive player deliveries) :
    deliveries.flatMap Prod.snd =
        (ReplayEvent.sortCanonical recorder.metadata.events).filter ReplayEvent.isFrameBoundaryEvent ∧
      ∀ delivery ∈ deliveries, ∀ event ∈ delivery.2, event.frame.toNat = delivery.1 := by
  obtain ⟨onTime,start⟩ := ReplayPlayer.decode_start bytes none player loaded
  obtain ⟨metadata,frames,encoded,short,state,count,_,_,rfl⟩ := intoBytes_ok recorder bytes written
  have known : recorder.padded.version = 1 ∨ recorder.padded.version = v2Version ∨ recorder.padded.version = Replay.version := by
    rw [ReplayRecorder.version]
    split
    · exact .inr (.inr rfl)
    · exact .inr (.inl rfl)
  rw [load_written metadata (metadata_not_legacy _ _ encoded) short recorder.saveState state recorder.padded.version known,
    decodeInputFrames_encoded _ _ count] at loaded
  obtain ⟨decoded,read,loaded⟩ := bind_ok.mp loaded
  obtain ⟨_,_,loaded⟩ := bind_ok.mp loaded
  cases loaded
  obtain ⟨_,_,_,rfl⟩ := (ReplayMetadata.decode_encode_ok _ _ _ encoded).mp ((mapError_ok _ _ _).mp read)
  have delivered := drive.deliveries onTime
  rwa [ReplayPlayer.upcoming,start,drop_zero] at delivered

theorem recorded_events_delivered_camera :
    [(0,[]),(3,[ReplayEvent.fdsDiskSide 3 1])].flatMap Prod.snd =
        (ReplayEvent.sortCanonical cameraRecorder.metadata.events).filter ReplayEvent.isFrameBoundaryEvent ∧
      ∀ delivery ∈ [(0,[]),(3,[ReplayEvent.fdsDiskSide 3 1])], ∀ event ∈ delivery.2, event.frame.toNat = delivery.1 :=
  recorded_events_delivered cameraRecorder cameraFile (by decide +kernel) cameraPlayer (by decide +kernel) _
    (.take cameraPlayer _ (.advance _ 3 3 _ (by decide) (.finished _ (Nat.le_refl 3))))

end ZeffBoy.Replay
