import ZeffBoy.Netplay.RollbackPeers
import ZeffBoy.Netplay.Session

/-! A session publishes one uninterrupted run of its core.
The reference runs the core once, frame after frame, on fixed inputs. Snapshots,
outputs and the emulator of a session are windows into the reference run on the
inputs used so far, and committed frames use the inputs that are fixed for good. -/
namespace ZeffBoy.Netplay
open Library Wire List

section Reference
variable {State Out : Type} (core : Core State Out) (start : State)

def stateAt (ports : Nat → Ports UInt16) : Nat → State
  | 0 => start
  | n + 1 => (core.step (stateAt ports n) (ports n)).1

def outputAt (ports : Nat → Ports UInt16) (n : Nat) : Out := (core.step (stateAt core start ports n) (ports n)).2

def reference (ports : Nat → Ports UInt16) (count : Nat) : List (Published Out) :=
  (List.range count).map (fun i => ⟨i + 1,ports i,outputAt core start ports i⟩)

theorem stateAt_congr (left right : Nat → Ports UInt16) (n : Nat) (same : ∀ f, f < n → left f = right f) :
    stateAt core start left n = stateAt core start right n := by
  induction n with
  | zero => rfl
  | succ n ih =>
    simp only [stateAt]
    rw [ih (fun f below => same f (by omega)),same n (by omega)]

theorem outputAt_congr (left right : Nat → Ports UInt16) (n : Nat) (same : ∀ f, f ≤ n → left f = right f) :
    outputAt core start left n = outputAt core start right n := by
  simp only [outputAt]
  rw [stateAt_congr core start left right n (fun f below => same f (by omega)),same n le_rfl]

theorem reference_congr (left right : Nat → Ports UInt16) (count : Nat) (same : ∀ f, f < count → left f = right f) :
    reference core start left count = reference core start right count := by
  apply map_congr_left
  intro i inside
  rw [mem_range] at inside
  rw [same i inside,outputAt_congr core start left right i (fun f below => same f (by omega))]

end Reference

/-- The emulator, the snapshots and the pending outputs up to a frame, for the inputs used. -/
structure Window {State Out : Type} (core : Core State Out) (start : State) (used : Nat → Ports UInt16)
    (committed frame : Nat) (s : Session State Out) : Prop where
  backend : s.backend = stateAt core start used frame
  snapshots : ∀ k state, s.snapshots.get? k = some state → k ≤ frame ∧ state = stateAt core start used k
  outputs : ∀ k bucket, s.outputs.get? k = some bucket → committed < k ∧ k ≤ frame ∧
    bucket.ports = used (k - 1) ∧ bucket.audio = outputAt core start used (k - 1)
  covered : ∀ k, committed < k → k ≤ frame → (s.outputs.get? k).isSome

namespace Window
variable {State Out : Type} {core : Core State Out} {start : State} {used : Nat → Ports UInt16}
  {committed frame : Nat} {s : Session State Out}

theorem congr (w : Window core start used committed frame s) (next : Nat → Ports UInt16)
    (same : ∀ f, f < frame → used f = next f) : Window core start next committed frame s where
  backend := by rw [w.backend,stateAt_congr core start used next frame same]
  snapshots := by
    intro k state found
    obtain ⟨below,shape⟩ := w.snapshots k state found
    exact ⟨below,by rw [shape,stateAt_congr core start used next k (fun f inside => same f (by omega))]⟩
  outputs := by
    intro k bucket found
    obtain ⟨above,below,ports,audio⟩ := w.outputs k bucket found
    refine ⟨above,below,by rw [ports,same (k - 1) (by omega)],?_⟩
    rw [audio,outputAt_congr core start used next (k - 1) (fun f inside => same f (by omega))]
  covered := w.covered

theorem restore (w : Window core start used committed frame s) (first : Nat) (inside : first ≤ frame)
    (snapshot : State) (found : s.snapshots.get? first = some snapshot) :
    Window core start used committed first {s with
      backend := snapshot
      snapshots := s.snapshots.retain (fun key _ => key ≤ first)
      outputs := s.outputs.retain (fun key _ => key ≤ first)} where
  backend := (w.snapshots first snapshot found).2
  snapshots := by
    intro k state kept
    rw [OrderedMap.get?_retain_key] at kept
    split at kept
    · rename_i low
      exact ⟨by simpa using low,(w.snapshots k state kept).2⟩
    · contradiction
  outputs := by
    intro k bucket kept
    rw [OrderedMap.get?_retain_key] at kept
    split at kept
    · rename_i low
      obtain ⟨above,_,rest⟩ := w.outputs k bucket kept
      exact ⟨above,by simpa using low,rest⟩
    · contradiction
  covered := by
    intro k above below
    rw [OrderedMap.get?_retain_key,if_pos (by simpa using below)]
    exact w.covered k above (by omega)

end Window

namespace Session
variable {State Out : Type} {core : Core State Out} {s : Session State Out}

-- The inputs among the messages sent.
def sentInputs (outbox : List Message) : List (Nat × UInt16) :=
  outbox.filterMap fun
    | .input _ frame buttons => some (frame,buttons)
    | _ => none

/-- The fields of a session that neither the emulator nor the response queue touch. -/
structure Outside (next s : Session State Out) : Prop where
  player : next.player = s.player
  timeline : next.timeline = s.timeline
  committed : next.committed = s.committed
  sampled : next.sampled = s.sampled
  inbox : next.inbox = s.inbox
  sent : sentInputs next.outbox = sentInputs s.outbox
  journal : next.journal = s.journal

theorem Outside.refl (s : Session State Out) : Outside s s := ⟨rfl,rfl,rfl,rfl,rfl,rfl,rfl⟩

theorem Outside.trans {first second third : Session State Out} (left : Outside first second)
    (right : Outside second third) : Outside first third where
  player := left.player.trans right.player
  timeline := left.timeline.trans right.timeline
  committed := left.committed.trans right.committed
  sampled := left.sampled.trans right.sampled
  inbox := left.inbox.trans right.inbox
  sent := left.sent.trans right.sent
  journal := left.journal.trans right.journal

/-- A call that only reports: the emulator and its windows stay as they are, too. -/
structure Reports (next s : Session State Out) : Prop extends Outside next s where
  backend : next.backend = s.backend
  snapshots : next.snapshots = s.snapshots
  outputs : next.outputs = s.outputs

theorem Reports.refl (s : Session State Out) : Reports s s := ⟨.refl s,rfl,rfl,rfl⟩

theorem Reports.trans {first second third : Session State Out} (left : Reports first second)
    (right : Reports second third) : Reports first third where
  toOutside := left.toOutside.trans right.toOutside
  backend := left.backend.trans right.backend
  snapshots := left.snapshots.trans right.snapshots
  outputs := left.outputs.trans right.outputs

theorem reports_send (s : Session State Out) (message : Message) (quiet : sentInputs [message] = []) :
    Reports (s.send message) s := by
  refine ⟨⟨rfl,rfl,rfl,rfl,rfl,?_,rfl⟩,rfl,rfl,rfl⟩
  simpa [send,sentInputs] using quiet

theorem reports_queue (response : Response Out) (next : Session State Out) (ok : s.queue response = .ok next) :
    Reports next s := by
  unfold queue at ok
  obtain ⟨_,_,ok⟩ := bind_ok.mp ok
  obtain rfl := Except.ok.inj ok
  exact ⟨⟨rfl,rfl,rfl,rfl,rfl,rfl,rfl⟩,rfl,rfl,rfl⟩

theorem reports_sendProgress (s : Session State Out) (force : Bool) (clock : Clock) :
    Reports (s.sendProgress force clock) s := by
  unfold sendProgress
  split
  · exact reports_send s _ rfl
  · exact .refl s

theorem reports_reportPause (next : Session State Out) (ok : s.reportPause = .ok next) : Reports next s := by
  unfold reportPause at ok
  dsimp only at ok
  have base : Reports {s with pause := (s.pause.status s.timeline.frame s.timeline.confirmedFrame).1} s :=
    ⟨⟨rfl,rfl,rfl,rfl,rfl,rfl,rfl⟩,rfl,rfl,rfl⟩
  split at ok
  · obtain rfl := Except.ok.inj ok
    exact base
  · exact (reports_queue _ next ok).trans base

theorem reports_networkStats (s : Session State Out) (clock : Clock) : Reports (s.reportNetworkStats clock) s := by
  unfold reportNetworkStats
  split
  · exact ⟨⟨rfl,rfl,rfl,rfl,rfl,rfl,rfl⟩,rfl,rfl,rfl⟩
  · exact .refl s

theorem reports_change (s : Session State Out) (pause : PauseControl) (change : Option Message)
    (quiet : ∀ message, change = some message → sentInputs [message] = []) :
    Reports ((change.map {s with pause := pause}.send).getD {s with pause := pause}) s := by
  have base : Reports {s with pause := pause} s := ⟨⟨rfl,rfl,rfl,rfl,rfl,rfl,rfl⟩,rfl,rfl,rfl⟩
  cases change with
  | none => exact base
  | some message => exact (reports_send _ message (quiet message rfl)).trans base

theorem reconcile_quiet (p : PauseControl) (current : Nat) (next : PauseControl) (change : Option Message)
    (ok : p.reconcile current = .ok (next,change)) (message : Message) (sent : change = some message) :
    sentInputs [message] = [] := by
  rcases p.reconcile_ok current next change ok with ⟨_,none,_⟩ | ⟨_,_,_,_,_,_,shape⟩ | ⟨_,_,_,_,_,_,shape⟩
  · rw [none] at sent
    contradiction
  · obtain rfl := Option.some.inj (sent.symm.trans shape)
    rfl
  · obtain rfl := Option.some.inj (sent.symm.trans shape)
    rfl

theorem handleMessage_ok (message : Message) (chatAllowed : Bool) (next : Session State Out)
    (ok : s.handleMessage core message chatAllowed = .ok next) :
    Reports next s ∨ ∃ player frame buttons value timeline, message = .input player frame buttons ∧
      player ≠ s.player ∧ s.timeline.receiveRemote frame buttons = (.ok value,timeline) ∧
      next = {s with timeline := timeline} := by
  cases message with
  | chat text =>
    simp only [handleMessage] at ok
    split at ok
    · exact Or.inl (reports_queue _ next ok)
    · obtain rfl := Except.ok.inj ok
      exact Or.inl (.refl s)
  | input player frame buttons =>
    obtain ⟨_,peer,ok⟩ := bind_ok.mp ok
    rw [ensure_ok] at peer
    obtain ⟨_,_,ok⟩ := bind_ok.mp ok
    obtain ⟨⟨value,timeline⟩,received,ok⟩ := bind_ok.mp ok
    rw [attempt_ok] at received
    exact Or.inr ⟨player,frame,buttons,value,timeline,rfl,peer,received,(Except.ok.inj ok).symm⟩
  | checkpoint frame logical video audio persistent =>
    obtain ⟨⟨_,hashes⟩,_,ok⟩ := bind_ok.mp ok
    obtain rfl := Except.ok.inj ok
    exact Or.inl ⟨⟨rfl,rfl,rfl,rfl,rfl,rfl,rfl⟩,rfl,rfl,rfl⟩
  | close frame => contradiction
  | pause frame paused => contradiction
  | progress frame confirmed =>
    obtain ⟨_,_,ok⟩ := bind_ok.mp ok
    obtain ⟨_,_,ok⟩ := bind_ok.mp ok
    obtain ⟨_,_,ok⟩ := bind_ok.mp ok
    obtain ⟨_,_,ok⟩ := bind_ok.mp ok
    obtain rfl := Except.ok.inj ok
    exact Or.inl ⟨⟨rfl,rfl,rfl,rfl,rfl,rfl,rfl⟩,rfl,rfl,rfl⟩
  | pauseChange request frame paused =>
    obtain ⟨⟨pause,ack⟩,observed,ok⟩ := bind_ok.mp ok
    obtain ⟨rfl,_⟩ := s.pause.observe_ok _ _ _ _ pause ack observed
    obtain rfl := Except.ok.inj ok
    exact Or.inl (reports_change s pause (some (.pauseAck request)) (by
      intro message same
      obtain rfl := Option.some.inj same
      rfl))
  | pauseAck request =>
    obtain ⟨⟨pause,change⟩,acknowledged,ok⟩ := bind_ok.mp ok
    obtain ⟨_,_,reconciled⟩ := s.pause.acknowledge_ok _ _ pause change acknowledged
    obtain rfl := Except.ok.inj ok
    exact Or.inl (reports_change s pause change (reconcile_quiet _ _ pause change reconciled))

theorem local_quiet (hashes : Hashes) (message : Message) (value : Unit) (next : Hashes)
    (ok : hashes.local_ message = (.ok value,next)) : sentInputs [message] = [] := by
  cases message with
  | input player frame buttons => simp [Hashes.local_,Hashes.periodicFrame] at ok
  | _ => rfl

theorem reports_exchange (frame : Nat) (bucket : FrameBucket Out) (next : Session State Out)
    (ok : s.exchangeCheckpoint frame bucket = .ok next) : Reports next s := by
  unfold exchangeCheckpoint at ok
  split at ok
  · obtain ⟨checkpoint,_,ok⟩ := bind_ok.mp ok
    obtain ⟨⟨value,hashes⟩,recorded,ok⟩ := bind_ok.mp ok
    rw [attempt_ok] at recorded
    obtain rfl := Except.ok.inj ok
    have base : Reports {s with hashes := hashes} s := ⟨⟨rfl,rfl,rfl,rfl,rfl,rfl,rfl⟩,rfl,rfl,rfl⟩
    exact (reports_send _ checkpoint (local_quiet s.hashes checkpoint value hashes recorded)).trans base
  · obtain rfl := Except.ok.inj ok
    exact .refl s

theorem publish_ok (frame : Nat) (bucket : FrameBucket Out) (next : Session State Out)
    (ok : s.publish frame bucket = .ok next) : ∃ middle, Reports middle s ∧
      next = {middle with committed := frame, journal := middle.journal ++ [⟨frame,bucket.ports,bucket.audio⟩]} := by
  unfold publish at ok
  obtain ⟨exchanged,first,ok⟩ := bind_ok.mp ok
  obtain ⟨response,_,ok⟩ := bind_ok.mp ok
  obtain ⟨middle,queued,ok⟩ := bind_ok.mp ok
  exact ⟨middle,(reports_queue response middle queued).trans (reports_exchange frame bucket exchanged first),
    (Except.ok.inj ok).symm⟩

theorem execute_ok (input : FrameInput) (next : Session State Out) (ok : s.execute core input = .ok next) :
    ∃ checkpoint, next = {s with
      backend := (core.step s.backend input.ports).1
      snapshots := s.snapshots.insert (input.frame + 1) (core.step s.backend input.ports).1
      outputs := s.outputs.insert (input.frame + 1) ⟨input.ports,(core.step s.backend input.ports).2,checkpoint⟩} := by
  unfold execute at ok
  obtain ⟨_,_,ok⟩ := bind_ok.mp ok
  obtain ⟨_,_,ok⟩ := bind_ok.mp ok
  obtain ⟨_,_,ok⟩ := bind_ok.mp ok
  obtain ⟨completed,sum,ok⟩ := bind_ok.mp ok
  obtain ⟨_,rfl⟩ := checkedAdd_ok.mp sum
  obtain ⟨_,_,ok⟩ := bind_ok.mp ok
  obtain ⟨checkpoint,_,ok⟩ := bind_ok.mp ok
  exact ⟨checkpoint,(Except.ok.inj ok).symm⟩

end Session

variable {State Out : Type} {core : Core State Out}

theorem Window.execute {start : State} {used : Nat → Ports UInt16}
    {committed frame : Nat} {s : Session State Out} (w : Window core start used committed frame s)
    (inside : committed ≤ frame) (next : Session State Out)
    (ok : s.execute core ⟨frame,used frame⟩ = .ok next) : Window core start used committed (frame + 1) next := by
  obtain ⟨checkpoint,rfl⟩ := Session.execute_ok _ next ok
  dsimp only
  have stepped : (core.step s.backend (used frame)).1 = stateAt core start used (frame + 1) := by
    rw [w.backend]
    rfl
  constructor
  · exact stepped
  · intro k state found
    rw [OrderedMap.get?_insert] at found
    split at found
    · rename_i same
      subst same
      exact ⟨le_rfl,by rw [← Option.some.inj found,stepped]⟩
    · obtain ⟨below,shape⟩ := w.snapshots k state found
      exact ⟨by omega,shape⟩
  · intro k bucket found
    rw [OrderedMap.get?_insert] at found
    split at found
    · rename_i same
      subst same
      rw [← Option.some.inj found]
      refine ⟨by omega,le_rfl,rfl,?_⟩
      simp only [outputAt,Nat.add_sub_cancel]
      rw [w.backend]
    · obtain ⟨above,below,rest⟩ := w.outputs k bucket found
      exact ⟨above,by omega,rest⟩
  · intro k above below
    rw [OrderedMap.get?_insert]
    split
    · rfl
    · exact w.covered k above (by omega)

theorem Session.execute_window (s : Session State Out) (input : FrameInput)
    (next : Session State Out) (ok : s.execute core input = .ok next) :
    next.Outside s := by
  obtain ⟨checkpoint,rfl⟩ := Session.execute_ok input next ok
  exact ⟨rfl,rfl,rfl,rfl,rfl,rfl,rfl⟩

theorem Window.replay {start : State} {used : Nat → Ports UInt16}
    {committed frame : Nat} {s : Session State Out} (w : Window core start used committed frame s)
    (inside : committed ≤ frame) (count : Nat) (next : Session State Out)
    (ok : ((List.range' frame count).map (fun f => (⟨f,used f⟩ : FrameInput))).foldlM (Session.execute core) s = .ok next) :
    Window core start used committed (frame + count) next ∧ next.Outside s := by
  induction count generalizing frame s with
  | zero =>
    obtain rfl := Except.ok.inj ok
    exact ⟨w,.refl s⟩
  | succ count ih =>
    rw [List.range'_succ,map_cons,foldlM_cons] at ok
    obtain ⟨middle,first,rest⟩ := bind_ok.mp ok
    obtain ⟨kept,same⟩ := ih (w.execute inside middle first) (by omega) rest
    rw [add_assoc,add_comm 1 count] at kept
    exact ⟨kept,same.trans (Session.execute_window s _ middle first)⟩

-- The inputs carried by events.
def eventInputs (events : List Event) : List (Nat × UInt16) :=
  events.filterMap fun
    | .message (.input _ frame buttons) _ => some (frame,buttons)
    | _ => none

inductive Operation
  | arrive (event : Event)
  | step (buttons : UInt16) (before after : Clock)
  | poll (clock : Clock)
  | acceptEvent (event : Event) (clock : Clock)
  | requestPause (paused : Bool)
  | sendChat (text : String) (allowed : Bool)

namespace Operation

-- The event an operation brings in.
def event? : Operation → Option Event
  | .arrive event => some event
  | .acceptEvent event _ => some event
  | _ => none

end Operation

/-- The sample that an operation takes: a step samples the frame it is scheduled for, unless a barrier holds it back. -/
def Session.sample? {State Out : Type} (core : Core State Out) (s : Session State Out) : Operation → Option (Nat × UInt16)
  | .step buttons before _ =>
    match s.batch core none before with
    | .ok (s,_) =>
      if s.pause.barrier.any (fun barrier => barrier ≤ s.timeline.frame) then none
      else some (s.timeline.frame + s.timeline.inputDelay.frames,buttons)
    | .error _ => none
  | _ => none

/-- A session whose account of inputs agrees with its own samples, which it has sent, and with the pool of arrived
inputs, whose windows show the reference run on the inputs used, and whose journal is a prefix of it. -/
structure Refines {State Out : Type} (core : Core State Out) (start : State) (player : Player) (delay : InputDelay)
    (pool mine : List (Nat × UInt16)) (history : List (Published Out)) (g : Account) (s : Session State Out) : Prop where
  consistent : s.timeline.Consistent g
  seat : s.player = player
  owner : s.timeline.player = s.player
  lag : s.timeline.inputDelay = delay
  log : Sampled delay s.player mine g s.timeline
  last : s.sampled = mine.getLast?.map Prod.fst
  outbox : Session.sentInputs s.outbox = mine
  primed : ∀ f, f < delay.frames → (g.known f).get (other s.player) = some 0
  heard : ∀ f value, delay.frames ≤ f → (g.known f).get (other s.player) = some value → (f,value) ∈ pool
  window : Window core start g.used s.committed s.timeline.frame s
  committed : s.committed ≤ s.timeline.confirmedFrame
  safe : ∀ x, s.timeline.dirty = some x → s.committed ≤ x
  journal : s.journal = reference core start g.used s.committed
  history : history <+: s.journal
  inbox : ∀ input ∈ eventInputs s.inbox, input ∈ pool

namespace Refines
variable {start : State} {player : Player} {delay : InputDelay}
  {pool mine : List (Nat × UInt16)} {history : List (Published Out)} {g : Account} {s : Session State Out}

theorem reports (r : Refines core start player delay pool mine history g s) (next : Session State Out) (same : next.Reports s) :
    Refines core start player delay pool mine history g next where
  consistent := same.timeline ▸ r.consistent
  seat := same.player.trans r.seat
  owner := by rw [same.timeline,same.player,r.owner]
  lag := by rw [same.timeline,r.lag]
  log := by
    rw [same.timeline,same.player]
    exact r.log
  last := by rw [same.sampled,r.last]
  outbox := same.sent.trans r.outbox
  primed := by
    rw [same.player]
    exact r.primed
  heard := by
    rw [same.player]
    exact r.heard
  window := by
    rw [same.committed,same.timeline]
    exact ⟨by rw [same.backend,r.window.backend],by rw [same.snapshots]; exact r.window.snapshots,
      by rw [same.outputs]; exact r.window.outputs,by rw [same.outputs]; exact r.window.covered⟩
  committed := by
    rw [same.committed,same.timeline]
    exact r.committed
  safe := by
    rw [same.committed,same.timeline]
    exact r.safe
  journal := by rw [same.journal,same.committed,r.journal]
  history := by
    rw [same.journal]
    exact r.history
  inbox := by
    rw [same.inbox]
    exact r.inbox

theorem receive (r : Refines core start player delay pool mine history g s) (frame : Nat) (buttons : UInt16) (value : Bool)
    (timeline : Timeline) (ok : s.timeline.receiveRemote frame buttons = (.ok value,timeline))
    (listed : (frame,buttons) ∈ pool) : ∃ next, Refines core start player delay pool mine history next {s with timeline := timeline} := by
  have c := r.consistent
  obtain ⟨fits,inside⟩ := Timeline.receiveRemote_inside value (congrArg Prod.fst ok)
  by_cases accepted : s.timeline.oldest ≤ frame ∧ (g.known frame).get (other s.timeline.player) = none
  · obtain ⟨fresh,unknown⟩ := accepted
    obtain ⟨kept,same,dirty,_,_⟩ := c.receiveRemote frame buttons fits inside fresh unknown
    have above := c.confirmed_le frame _ unknown
    have committed := r.committed
    simp only [Timeline.confirmedFrame] at committed
    obtain rfl : (s.timeline.receiveRemote frame buttons).2 = timeline := congrArg Prod.snd ok
    rw [r.owner] at kept unknown
    refine ⟨g.fix frame (other s.player) buttons,?_⟩
    exact {
      consistent := kept
      seat := r.seat
      owner := same.player.trans r.owner
      lag := same.inputDelay.trans r.lag
      log := {
        sampled := by
          intro f
          rw [Timeline.fix_known,if_neg (fun both => other_ne _ both.2.symm)]
          exact r.log.sampled f
        numbered := r.log.numbered
        current := by
          simp only [same.frame]
          exact r.log.current
        near := by
          simp only [same.frame]
          exact r.log.near }
      last := r.last
      outbox := r.outbox
      primed := by
        intro f early
        rw [Timeline.fix_known,if_neg]
        · exact r.primed f early
        · rintro ⟨rfl,_⟩
          simp [r.primed f early] at unknown
      heard := by
        intro f fixed late known
        rw [Timeline.fix_known] at known
        split at known
        · rename_i here
          rw [here.1,← Option.some.inj known]
          exact listed
        · exact r.heard f fixed late known
      window := by
        simp only [same.frame]
        exact ⟨r.window.backend,r.window.snapshots,r.window.outputs,r.window.covered⟩
      committed := by
        have grows := same.confirmed
        simp only [Timeline.confirmedFrame,same.frame]
        omega
      safe := by
        intro x set
        rw [dirty] at set
        rcases c.marked_cases frame buttons with ⟨still,_⟩ | ⟨_,_,y,chosen,_,source,_⟩
        · exact r.safe x (still.symm.trans set)
        · obtain rfl := Option.some.inj (chosen.symm.trans set)
          rcases source with rfl | old
          · simp only
            omega
          · exact r.safe y old
      journal := r.journal
      history := r.history
      inbox := r.inbox }
  · have same : (s.timeline.receiveRemote frame buttons).2 = s.timeline := by
      by_cases stale : frame < s.timeline.oldest
      · simp only [Timeline.receiveRemote,checkedAdd,if_pos fits,not_lt.mpr inside,stale,if_false,if_true]
      · cases known : (g.known frame).get (other s.timeline.player) with
        | none => exact absurd ⟨not_lt.mp stale,known⟩ accepted
        | some previous =>
          rw [c.receiveRemote_known frame buttons previous fits inside known]
          split <;> rfl
    rw [ok] at same
    obtain rfl : timeline = s.timeline := same
    exact ⟨g,r⟩

theorem handleEvent (r : Refines core start player delay pool mine history g s) (event : Event) (next : Session State Out)
    (ok : s.handleEvent core event = .ok next) (listed : ∀ input ∈ eventInputs [event], input ∈ pool) :
    ∃ account, Refines core start player delay pool mine history account next := by
  cases event with
  | ready =>
    obtain ⟨_,_,ok⟩ := bind_ok.mp ok
    have base : Session.Reports {s with ready := true} s := ⟨⟨rfl,rfl,rfl,rfl,rfl,rfl,rfl⟩,rfl,rfl,rfl⟩
    exact ⟨g,r.reports next ((Session.reports_queue _ next ok).trans base)⟩
  | failed reason => contradiction
  | message message chatAllowed =>
    obtain ⟨_,_,ok⟩ := bind_ok.mp ok
    rcases Session.handleMessage_ok message chatAllowed next ok with same | ⟨player,frame,buttons,value,timeline,rfl,_,taken,rfl⟩
    · exact ⟨g,r.reports next same⟩
    · exact r.receive frame buttons value timeline taken (listed _ (by simp [eventInputs]))

theorem takeEvent (r : Refines core start player delay pool mine history g s) (event : Event) (rest : List Event)
    (arrived : s.inbox = event::rest) : Refines core start player delay pool mine history g {s with inbox := rest} ∧
      ∀ input ∈ eventInputs [event], input ∈ pool := by
  have inside := r.inbox
  have split : eventInputs (event::rest) = eventInputs [event] ++ eventInputs rest := by
    rw [← singleton_append]
    exact filterMap_append
  rw [arrived,split] at inside
  refine ⟨?_,fun input member => inside input (mem_append_left _ member)⟩
  exact ⟨r.consistent,r.seat,r.owner,r.lag,r.log,r.last,r.outbox,r.primed,r.heard,
    ⟨r.window.backend,r.window.snapshots,r.window.outputs,r.window.covered⟩,r.committed,r.safe,r.journal,r.history,
    fun input member => inside input (mem_append_right _ member)⟩

theorem drain (r : Refines core start player delay pool mine history g s) (budget : Nat) (next : Session State Out)
    (ok : Session.drain core budget s = .ok next) : ∃ account, Refines core start player delay pool mine history account next := by
  induction budget generalizing g s with
  | zero =>
    obtain rfl := Except.ok.inj ok
    exact ⟨g,r⟩
  | succ budget ih =>
    unfold Session.drain at ok
    split at ok
    · obtain rfl := Except.ok.inj ok
      exact ⟨g,r⟩
    · rename_i event rest arrived
      obtain ⟨middle,handled,ok⟩ := bind_ok.mp ok
      obtain ⟨taken,listed⟩ := r.takeEvent event rest arrived
      obtain ⟨account,kept⟩ := taken.handleEvent event middle handled listed
      exact ih kept ok

theorem handleEvents (r : Refines core start player delay pool mine history g s) (first : Option Event) (next : Session State Out)
    (ok : s.handleEvents core first = .ok next) (listed : ∀ input ∈ eventInputs first.toList, input ∈ pool) :
    ∃ account, Refines core start player delay pool mine history account next := by
  cases first with
  | none => exact r.drain _ next ok
  | some event =>
    obtain ⟨middle,handled,ok⟩ := bind_ok.mp ok
    obtain ⟨account,kept⟩ := r.handleEvent event middle handled listed
    exact kept.drain _ next ok

theorem correct (r : Refines core start player delay pool mine history g s) (next : Session State Out) (count : Nat)
    (ok : s.correct core = .ok (next,count)) :
    next.timeline.dirty = none ∧ ∃ account, Refines core start player delay pool mine history account next := by
  have c := r.consistent
  unfold Session.correct at ok
  rw [c.correction] at ok
  obtain ⟨_,same,ok⟩ := bind_ok.mp ok
  obtain rfl := Except.ok.inj same
  cases dirty : s.timeline.dirty with
  | none =>
    have empty : s.timeline.plan = [] := by simp only [Timeline.plan,dirty]
    simp only [empty] at ok
    obtain ⟨rfl,_⟩ := Prod.mk.inj (Except.ok.inj ok)
    exact ⟨dirty,g,r⟩
  | some x =>
    have bound := c.dirty x dirty
    have size : s.timeline.frame - x = (s.timeline.frame - x - 1) + 1 := by omega
    have shape : s.timeline.plan = ⟨x,s.timeline.portsAt x⟩ ::
        ((List.range' (x + 1) (s.timeline.frame - x - 1)).map (fun f => ⟨f,s.timeline.portsAt f⟩)) := by
      simp only [Timeline.plan,dirty]
      rw [size,List.range'_succ,map_cons]
      simp
    have planned : s.timeline.plan = (List.range' x (s.timeline.frame - x)).map
        (fun f => ⟨f,Timeline.replayed g s.timeline f⟩) := by
      simp only [Timeline.plan,Timeline.replayed,dirty]
      apply map_congr_left
      intro f inside
      rw [List.mem_range'_1] at inside
      rw [if_pos (by omega)]
    have agrees (f : Nat) (below : f < x) : g.used f = Timeline.replayed g s.timeline f := by
      simp only [Timeline.replayed,dirty]
      rw [if_neg (by omega)]
    rw [shape] at ok
    dsimp only at ok
    rw [← shape] at ok
    obtain ⟨snapshot,found,ok⟩ := bind_ok.mp ok
    rw [context_ok] at found
    obtain ⟨middle,replayed,ok⟩ := bind_ok.mp ok
    obtain ⟨⟨_,timeline⟩,corrected,ok⟩ := bind_ok.mp ok
    obtain ⟨_,_,ok⟩ := bind_ok.mp ok
    obtain ⟨rfl,_⟩ := Prod.mk.inj (Except.ok.inj ok)
    rw [planned] at replayed
    have restored := (r.window.restore x (by omega) snapshot found).congr _ agrees
    obtain ⟨window,outside⟩ := restored.replay (r.safe x dirty) _ middle replayed
    have same : middle.Outside s := ⟨outside.player,outside.timeline,outside.committed,outside.sampled,outside.inbox,
      outside.sent,outside.journal⟩
    rw [attempt_ok,same.timeline] at corrected
    obtain ⟨_,clean,frame,confirmed,owner,lag,floor,low,kept⟩ := c.corrected
    obtain rfl : (s.timeline.corrected s.timeline.plan).2 = timeline := congrArg Prod.snd corrected
    refine ⟨clean,⟨g.known,Timeline.replayed g s.timeline,floor,low⟩,?_⟩
    exact {
      consistent := kept
      seat := same.player.trans r.seat
      owner := by
        rw [owner,r.owner]
        exact same.player.symm
      lag := lag.trans r.lag
      log := by
        rw [same.player]
        exact ⟨r.log.sampled,r.log.numbered,by rw [frame]; exact r.log.current,by rw [frame]; exact r.log.near⟩
      last := by
        rw [same.sampled]
        exact r.last
      outbox := same.sent.trans r.outbox
      primed := by
        rw [same.player]
        exact r.primed
      heard := by
        rw [same.player]
        exact r.heard
      window := by
        rw [same.committed,frame]
        have reached : x + (s.timeline.frame - x) = s.timeline.frame := by omega
        rw [reached] at window
        exact ⟨window.backend,window.snapshots,window.outputs,window.covered⟩
      committed := by
        rw [same.committed]
        simp only [Timeline.confirmedFrame,frame,confirmed]
        exact r.committed
      safe := by
        intro y set
        rw [clean] at set
        contradiction
      journal := by
        rw [same.committed,same.journal,r.journal]
        apply reference_congr
        intro f below
        have early := r.safe x dirty
        exact agrees f (by omega)
      history := by
        rw [same.journal]
        exact r.history
      inbox := by
        rw [same.inbox]
        exact r.inbox }

theorem first_output (r : Refines core start player delay pool mine history g s) (frame : Nat) (bucket : FrameBucket Out)
    (first : s.outputs.first? = some (frame,bucket)) : frame = s.committed + 1 ∧
      bucket.ports = g.used s.committed ∧ bucket.audio = outputAt core start g.used s.committed := by
  obtain ⟨found,least⟩ := OrderedMap.first?_eq_some _ frame bucket first
  obtain ⟨above,below,ports,audio⟩ := r.window.outputs frame bucket found
  have next := least (s.committed + 1) (r.window.covered (s.committed + 1) (by omega) (by omega))
  obtain rfl : frame = s.committed + 1 := by omega
  exact ⟨rfl,ports,audio⟩

theorem publish (r : Refines core start player delay pool mine history g s) (clean : s.timeline.dirty = none) (frame : Nat)
    (bucket : FrameBucket Out) (first : s.outputs.first? = some (frame,bucket))
    (inside : frame ≤ s.timeline.confirmedFrame) (next : Session State Out)
    (ok : {s with outputs := s.outputs.popFirst}.publish frame bucket = .ok next) :
    next.timeline = s.timeline ∧ next.inbox = s.inbox ∧ Refines core start player delay pool mine history g next := by
  obtain ⟨middle,same,rfl⟩ := Session.publish_ok frame bucket next ok
  obtain ⟨rfl,ports,audio⟩ := r.first_output frame bucket first
  have popped (k : Nat) : middle.outputs.get? k = if k = s.committed + 1 then none else s.outputs.get? k := by
    rw [same.outputs]
    exact OrderedMap.get?_popFirst _ _ _ first k
  refine ⟨same.timeline,same.inbox,?_⟩
  exact {
    consistent := same.timeline ▸ r.consistent
    seat := same.player.trans r.seat
    owner := by
      rw [same.timeline,same.player]
      exact r.owner
    lag := by
      rw [same.timeline]
      exact r.lag
    log := by
      rw [same.timeline,same.player]
      exact r.log
    last := by
      rw [same.sampled]
      exact r.last
    outbox := same.sent.trans r.outbox
    primed := by
      rw [same.player]
      exact r.primed
    heard := by
      rw [same.player]
      exact r.heard
    window := by
      rw [same.timeline]
      dsimp only
      refine ⟨same.backend.trans r.window.backend,?_,?_,?_⟩
      · intro k state found
        rw [same.snapshots] at found
        exact r.window.snapshots k state found
      · intro k pending found
        rw [popped] at found
        split at found
        · contradiction
        · obtain ⟨above,rest⟩ := r.window.outputs k pending found
          exact ⟨by omega,rest⟩
      · intro k above below
        rw [popped,if_neg (by omega)]
        exact r.window.covered k (by omega) below
    committed := by
      rw [same.timeline]
      exact inside
    safe := by
      intro x set
      rw [same.timeline] at set
      simp [clean] at set
    journal := by
      rw [same.journal]
      simp only [r.journal,reference,range_succ,map_append,map_cons,map_nil,ports,audio]
    history := by
      rw [same.journal]
      exact r.history.trans (prefix_append _ _)
    inbox := by
      rw [same.inbox]
      exact r.inbox }

theorem commitLoop (r : Refines core start player delay pool mine history g s) (clean : s.timeline.dirty = none) (fuel : Nat)
    (next : Session State Out) (ok : Session.commitLoop s.timeline.confirmedFrame fuel s = .ok next) :
    next.timeline = s.timeline ∧ Refines core start player delay pool mine history g next := by
  induction fuel generalizing s with
  | zero =>
    obtain rfl := Except.ok.inj ok
    exact ⟨rfl,r⟩
  | succ fuel ih =>
    unfold Session.commitLoop at ok
    split at ok
    · obtain rfl := Except.ok.inj ok
      exact ⟨rfl,r⟩
    · rename_i frame bucket first
      split at ok
      · rename_i inside
        obtain ⟨middle,published,ok⟩ := bind_ok.mp ok
        obtain ⟨still,_,kept⟩ := r.publish clean frame bucket first inside middle published
        rw [← still] at ok
        obtain ⟨same,last⟩ := ih kept (still ▸ clean) ok
        exact ⟨same.trans still,last⟩
      · obtain rfl := Except.ok.inj ok
        exact ⟨rfl,r⟩

theorem commit (r : Refines core start player delay pool mine history g s) (clean : s.timeline.dirty = none) (next : Session State Out)
    (ok : s.commit = .ok next) : next.timeline = s.timeline ∧ Refines core start player delay pool mine history g next := by
  unfold Session.commit at ok
  obtain ⟨middle,looped,ok⟩ := bind_ok.mp ok
  obtain ⟨_,_,ok⟩ := bind_ok.mp ok
  obtain ⟨_,_,ok⟩ := bind_ok.mp ok
  obtain rfl := Except.ok.inj ok
  obtain ⟨same,kept⟩ := r.commitLoop clean _ middle looped
  refine ⟨same,?_⟩
  exact ⟨kept.consistent,kept.seat,kept.owner,kept.lag,kept.log,kept.last,kept.outbox,kept.primed,kept.heard,
    ⟨kept.window.backend,fun k state found => by
      rw [OrderedMap.get?_retain_key] at found
      split at found
      · exact kept.window.snapshots k state found
      · contradiction,kept.window.outputs,kept.window.covered⟩,kept.committed,kept.safe,kept.journal,kept.history,
    kept.inbox⟩

theorem sentInputs_announce (s : Session State Out) (timeline : Timeline) (sample : Nat × UInt16)
    (last : s.sampled = mine.getLast?.map Prod.fst) (outbox : Session.sentInputs s.outbox = mine) :
    Session.sentInputs ({s with timeline := timeline}.announce sample.1 sample.2).outbox = post mine sample ∧
    ({s with timeline := timeline}.announce sample.1 sample.2).sampled = some sample.1 := by
  subst outbox
  unfold Session.announce post
  rw [← last]
  split
  · rename_i again
    exact ⟨rfl,again⟩
  · simp [Session.send,Session.sentInputs]

theorem announce_fields (s : Session State Out) (scheduled : Nat) (value : UInt16) :
    (s.announce scheduled value).player = s.player ∧ (s.announce scheduled value).timeline = s.timeline ∧
    (s.announce scheduled value).backend = s.backend ∧ (s.announce scheduled value).snapshots = s.snapshots ∧
    (s.announce scheduled value).outputs = s.outputs ∧ (s.announce scheduled value).committed = s.committed ∧
    (s.announce scheduled value).inbox = s.inbox ∧ (s.announce scheduled value).journal = s.journal := by
  unfold Session.announce
  split
  · exact ⟨rfl,rfl,rfl,rfl,rfl,rfl,rfl,rfl⟩
  · exact ⟨rfl,rfl,rfl,rfl,rfl,rfl,rfl,rfl⟩

theorem sample (r : Refines core start player delay pool mine history g s) (buttons : UInt16) (sample : Nat × UInt16) (timeline : Timeline)
    (ok : s.timeline.sampleLocal buttons = (.ok sample,timeline)) :
    timeline.dirty = s.timeline.dirty ∧
    (post mine (s.timeline.frame + delay.frames,buttons)).length = timeline.frame + 1 ∧
    ∃ account, Refines core start player delay pool (post mine (s.timeline.frame + delay.frames,buttons)) history account
      ({s with timeline := timeline}.announce sample.1 sample.2) := by
  obtain ⟨shape,kept,same,dirty,_⟩ := r.consistent.sampleLocal_ok buttons sample (congrArg Prod.fst ok)
  obtain rfl : (s.timeline.sampleLocal buttons).2 = timeline := congrArg Prod.snd ok
  rw [r.owner,r.lag] at shape
  rw [r.owner] at kept
  obtain ⟨length,numbered,sampled⟩ := r.log.sample buttons sample.2 (by rw [shape])
  have pair : (s.timeline.frame + delay.frames,sample.2) = sample := by rw [shape]
  have scheduled : sample.1 = s.timeline.frame + delay.frames := by rw [shape]
  rw [← r.log.post_buttons buttons sample.2 (by rw [shape]),pair]
  rw [pair] at length numbered sampled
  rw [← scheduled] at sampled
  obtain ⟨log,last⟩ := sentInputs_announce s (s.timeline.sampleLocal buttons).2 sample r.last r.outbox
  obtain ⟨seat,time,backend,snapshots,outputs,committed,inbox,journal⟩ :=
    announce_fields {s with timeline := (s.timeline.sampleLocal buttons).2} sample.1 sample.2
  refine ⟨dirty,by rw [length,same.frame],g.fix sample.1 s.player sample.2,?_⟩
  exact {
    consistent := time ▸ kept
    seat := seat.trans r.seat
    owner := by
      rw [time,seat]
      exact same.player.trans r.owner
    lag := by
      rw [time]
      exact same.inputDelay.trans r.lag
    log := by
      rw [seat,time]
      refine ⟨sampled,numbered,?_,?_⟩
      · simp only [same.frame]
        omega
      · simp only [same.frame]
        omega
    last := by
      rw [last,numbered.last (by omega),length,scheduled]
      simp [add_comm]
    outbox := log
    primed := by
      intro f early
      rw [seat,Timeline.fix_known,if_neg (fun both => other_ne _ both.2)]
      exact r.primed f early
    heard := by
      intro f value late known
      rw [seat,Timeline.fix_known,if_neg (fun both => other_ne _ both.2)] at known
      exact r.heard f value late known
    window := by
      rw [committed,time]
      simp only [same.frame]
      exact ⟨backend.trans r.window.backend,by rw [snapshots]; exact r.window.snapshots,
        by rw [outputs]; exact r.window.outputs,by rw [outputs]; exact r.window.covered⟩
    committed := by
      have bound := r.committed
      have grows := same.confirmed
      rw [committed,time]
      simp only [Timeline.confirmedFrame,same.frame] at bound ⊢
      omega
    safe := by
      intro x set
      rw [time] at set
      rw [committed]
      exact r.safe x (dirty.symm.trans set)
    journal := by
      rw [journal,committed]
      exact r.journal
    history := by
      rw [journal]
      exact r.history
    inbox := by
      rw [inbox]
      exact r.inbox }

theorem advance (r : Refines core start player delay pool mine history g s) (input : FrameInput)
    (logged : mine.length = s.timeline.frame + 1) (executed next : Session State Out)
    (ran : s.execute core input = .ok executed) (timeline : Timeline)
    (ok : executed.timeline.advance input = (.ok (),timeline)) (same : next = {executed with timeline := timeline}) :
    next.timeline.dirty = none ∧ ∃ account, Refines core start player delay pool mine history account next := by
  subst same
  have outside := Session.execute_window s input executed ran
  rw [outside.timeline] at ok
  have done := congrArg Prod.fst ok
  obtain rfl : (s.timeline.advance input).2 = timeline := congrArg Prod.snd ok
  obtain ⟨floor,low,kept⟩ := r.consistent.advance input done
  obtain ⟨frame,confirmed,owner,lag,clean⟩ := Timeline.advance_fields s.timeline input done
  obtain ⟨_,_,shape,_⟩ := Timeline.advance_ok s.timeline input done
  have committed := r.committed
  simp only [Timeline.confirmedFrame] at committed
  have agrees (f : Nat) (below : f < s.timeline.frame) :
      g.used f = Function.update g.used s.timeline.frame input.ports f := by
    rw [Function.update_of_ne (by omega)]
  have this : input = ⟨s.timeline.frame,Function.update g.used s.timeline.frame input.ports s.timeline.frame⟩ := by
    rw [Function.update_self,shape]
  rw [this] at ran
  have window := (r.window.congr _ agrees).execute (by omega) executed ran
  refine ⟨clean,⟨g.known,Function.update g.used s.timeline.frame input.ports,floor,low⟩,?_⟩
  exact {
    consistent := kept
    seat := outside.player.trans r.seat
    owner := by
      rw [owner,r.owner]
      exact outside.player.symm
    lag := lag.trans r.lag
    log := by
      rw [outside.player]
      have current := r.log.current
      have near := r.log.near
      refine ⟨r.log.sampled,r.log.numbered,?_,?_⟩
      · rw [frame]
        omega
      · rw [frame]
        omega
    last := by
      rw [outside.sampled]
      exact r.last
    outbox := outside.sent.trans r.outbox
    primed := by
      rw [outside.player]
      exact r.primed
    heard := by
      rw [outside.player]
      exact r.heard
    window := by
      rw [outside.committed,frame]
      exact ⟨window.backend,window.snapshots,window.outputs,window.covered⟩
    committed := by
      rw [outside.committed]
      simp only [Timeline.confirmedFrame,frame,confirmed]
      omega
    safe := by
      intro x set
      rw [clean] at set
      contradiction
    journal := by
      rw [outside.committed,outside.journal,r.journal]
      apply reference_congr
      intro f below
      exact agrees f (by omega)
    history := by
      rw [outside.journal]
      exact r.history
    inbox := by
      rw [outside.inbox]
      exact r.inbox }

theorem simulate (r : Refines core start player delay pool mine history g s) (clean : s.timeline.dirty = none) (buttons : UInt16)
    (next : Session State Out) (advanced : Bool) (ok : s.simulate core buttons = .ok (next,advanced)) :
    next.timeline.dirty = none ∧ ∃ account, Refines core start player delay pool
      (post mine (s.timeline.frame + s.timeline.inputDelay.frames,buttons)) history account next := by
  rw [r.lag]
  unfold Session.simulate at ok
  obtain ⟨⟨sample,timeline⟩,sampling,ok⟩ := bind_ok.mp ok
  rw [attempt_ok] at sampling
  obtain ⟨steady,logged,account,kept⟩ := r.sample buttons sample timeline sampling
  obtain ⟨_,time,_⟩ := announce_fields {s with timeline := timeline} sample.1 sample.2
  obtain ⟨choice,offered,ok⟩ := bind_ok.mp ok
  cases choice with
  | none =>
    obtain ⟨rfl,_⟩ := Prod.mk.inj (Except.ok.inj ok)
    exact ⟨by rw [time]; exact steady.trans clean,account,kept⟩
  | some input =>
    obtain ⟨executed,ran,ok⟩ := bind_ok.mp ok
    obtain ⟨⟨_,moved⟩,advancing,ok⟩ := bind_ok.mp ok
    rw [attempt_ok] at advancing
    obtain ⟨same,_⟩ := Prod.mk.inj (Except.ok.inj ok)
    exact kept.advance input (by rw [time]; exact logged) executed next ran moved advancing same.symm

theorem batch (r : Refines core start player delay pool mine history g s) (first : Option Event) (clock : Clock)
    (listed : ∀ input ∈ eventInputs first.toList, input ∈ pool) (next : Session State Out) (count : Nat)
    (ok : s.batch core first clock = .ok (next,count)) :
    next.timeline.dirty = none ∧ ∃ account, Refines core start player delay pool mine history account next := by
  unfold Session.batch at ok
  obtain ⟨handled,events,ok⟩ := bind_ok.mp ok
  obtain ⟨_,drained⟩ := r.handleEvents first handled events listed
  obtain ⟨⟨corrected,frames⟩,correcting,ok⟩ := bind_ok.mp ok
  obtain ⟨clean,account,settled⟩ := drained.correct corrected frames correcting
  obtain ⟨choice,_,ok⟩ := bind_ok.mp ok
  dsimp only at ok
  obtain ⟨committed,committing,ok⟩ := bind_ok.mp ok
  obtain ⟨reported,reporting,ok⟩ := bind_ok.mp ok
  obtain ⟨rfl,_⟩ := Prod.mk.inj (Except.ok.inj ok)
  generalize moving : (choice.isSome || corrected.pause.barrier.any
    (fun barrier => barrier ≤ corrected.timeline.confirmedFrame)) = flag at committing
  have base : Session.Reports (if flag then {corrected with stalled := false} else corrected) corrected := by
    cases flag
    · exact .refl corrected
    · exact ⟨⟨rfl,rfl,rfl,rfl,rfl,rfl,rfl⟩,rfl,rfl,rfl⟩
  obtain ⟨same,kept⟩ := (settled.reports _ base).commit (by rw [base.timeline,clean]) committed committing
  have quiet := (Session.reports_networkStats (reported.sendProgress false clock) clock).trans
    ((Session.reports_sendProgress reported false clock).trans (Session.reports_reportPause reported reporting))
  exact ⟨by rw [quiet.timeline,same,base.timeline,clean],account,kept.reports _ quiet⟩

theorem step (r : Refines core start player delay pool mine history g s) (buttons : UInt16) (before after : Clock)
    (next : Session State Out) (ok : s.step core buttons before after = .ok next) :
    next.timeline.dirty = none ∧ ∃ account, Refines core start player delay pool
      ((s.sample? core (.step buttons before after)).elim mine (post mine)) history account next := by
  unfold Session.step at ok
  obtain ⟨_,_,ok⟩ := bind_ok.mp ok
  obtain ⟨_,_,ok⟩ := bind_ok.mp ok
  obtain ⟨_,_,ok⟩ := bind_ok.mp ok
  obtain ⟨⟨batched,count⟩,batching,ok⟩ := bind_ok.mp ok
  obtain ⟨clean,account,settled⟩ := r.batch none before (by simp [eventInputs]) batched count batching
  dsimp only at ok
  obtain ⟨⟨moved,advanced⟩,simulating,ok⟩ := bind_ok.mp ok
  have simulated : moved.timeline.dirty = none ∧ ∃ account, Refines core start player delay pool
      ((s.sample? core (.step buttons before after)).elim mine (post mine)) history account moved := by
    simp only [Session.sample?,batching]
    unfold Session.simulateUnless at simulating
    split at simulating
    · rename_i blocked
      obtain ⟨rfl,_⟩ := Prod.mk.inj (Except.ok.inj simulating)
      rw [if_pos blocked]
      exact ⟨clean,account,settled⟩
    · rename_i free
      rw [if_neg free]
      exact settled.simulate clean buttons moved advanced simulating
  obtain ⟨fresh,current,kept⟩ := simulated
  obtain ⟨committed,committing,ok⟩ := bind_ok.mp ok
  obtain ⟨reported,reporting,ok⟩ := bind_ok.mp ok
  obtain ⟨presented,presenting,ok⟩ := bind_ok.mp ok
  obtain ⟨_,_,ok⟩ := bind_ok.mp ok
  obtain rfl := Except.ok.inj ok
  have base (stalled : Bool) : Session.Reports {moved with stalled := stalled} moved :=
    ⟨⟨rfl,rfl,rfl,rfl,rfl,rfl,rfl⟩,rfl,rfl,rfl⟩
  obtain ⟨flag,flagged⟩ : ∃ stalled, {moved with stalled := stalled}.commit = .ok committed := ⟨_,committing⟩
  obtain ⟨same,last⟩ := (kept.reports _ (base flag)).commit fresh committed flagged
  have quiet := (Session.reports_queue _ presented presenting).trans
    ((Session.reports_sendProgress reported true after).trans (Session.reports_reportPause reported reporting))
  exact ⟨by rw [quiet.timeline,same]; exact fresh,current,last.reports _ quiet⟩

theorem settle (r : Refines core start player delay pool mine history g s) (first : Option Event) (clock : Clock)
    (listed : ∀ input ∈ eventInputs first.toList, input ∈ pool) (next : Session State Out)
    (ok : s.settle core first clock = .ok next) :
    next.timeline.dirty = none ∧ ∃ account, Refines core start player delay pool mine history account next := by
  unfold Session.settle at ok
  obtain ⟨⟨batched,count⟩,batching,ok⟩ := bind_ok.mp ok
  obtain ⟨clean,account,settled⟩ := r.batch first clock listed batched count batching
  obtain ⟨presented,presenting,ok⟩ := bind_ok.mp ok
  obtain rfl := Except.ok.inj ok
  have shown : presented.Reports batched := by
    unfold Session.presentChange at presenting
    split at presenting
    · exact Session.reports_queue _ presented presenting
    · obtain rfl := Except.ok.inj presenting
      exact .refl batched
  have popped : presented.popResponse.Reports presented := ⟨⟨rfl,rfl,rfl,rfl,rfl,rfl,rfl⟩,rfl,rfl,rfl⟩
  have quiet := popped.trans shown
  exact ⟨by rw [quiet.timeline,clean],account,settled.reports _ quiet⟩

end Refines

namespace Session
variable (core : Core State Out)

def perform (s : Session State Out) : Operation → Except String (Session State Out)
  | .arrive event => .ok {s with inbox := s.inbox ++ [event]}
  | .step buttons before after => s.step core buttons before after
  | .poll clock => s.poll core clock
  | .acceptEvent event clock => s.acceptEvent core event clock
  | .requestPause paused => s.requestPause paused
  | .sendChat text allowed => s.sendChat text allowed

def run (s : Session State Out) (operations : List Operation) : Except String (Session State Out) :=
  operations.foldlM (perform core) s

/-- What the session samples along a run. Of several steps at one frame the first counts. -/
def samples (s : Session State Out) (log : List (Nat × UInt16)) : List Operation → List (Nat × UInt16)
  | [] => log
  | operation::rest =>
    match s.perform core operation with
    | .ok next => next.samples ((s.sample? core operation).elim log (post log)) rest
    | .error _ => log

end Session

def arrivedInputs (operations : List Operation) : List (Nat × UInt16) :=
  eventInputs (operations.filterMap Operation.event?)

namespace Refines
variable {start : State} {player : Player} {delay : InputDelay}
  {pool mine : List (Nat × UInt16)} {history : List (Published Out)} {g : Account} {s : Session State Out}

theorem perform (r : Refines core start player delay pool mine history g s) (operation : Operation)
    (listed : ∀ input ∈ arrivedInputs [operation], input ∈ pool) (next : Session State Out)
    (ok : s.perform core operation = .ok next) : ∃ account, Refines core start player delay pool
      ((s.sample? core operation).elim mine (post mine)) history account next := by
  cases operation with
  | arrive event =>
    obtain rfl := Except.ok.inj ok
    refine ⟨g,⟨r.consistent,r.seat,r.owner,r.lag,r.log,r.last,r.outbox,r.primed,r.heard,
      ⟨r.window.backend,r.window.snapshots,r.window.outputs,r.window.covered⟩,r.committed,r.safe,r.journal,r.history,?_⟩⟩
    intro input member
    rw [eventInputs,filterMap_append,mem_append] at member
    rcases member with old | new
    · exact r.inbox input old
    · exact listed input new
  | step buttons before after => exact (r.step buttons before after next ok).2
  | poll clock =>
    obtain ⟨_,_,ok⟩ := bind_ok.mp ok
    split at ok
    · exact (r.settle none clock (by simp [eventInputs]) next ok).2
    · obtain rfl := Except.ok.inj ok
      exact ⟨g,r.reports _ ⟨⟨rfl,rfl,rfl,rfl,rfl,rfl,rfl⟩,rfl,rfl,rfl⟩⟩
  | acceptEvent event clock =>
    obtain ⟨_,_,ok⟩ := bind_ok.mp ok
    exact (r.settle (some event) clock listed next ok).2
  | requestPause paused =>
    obtain ⟨_,_,ok⟩ := bind_ok.mp ok
    obtain ⟨⟨pause,change⟩,requested,ok⟩ := bind_ok.mp ok
    obtain rfl := Except.ok.inj ok
    exact ⟨g,r.reports _ (Session.reports_change s pause change (Session.reconcile_quiet _ _ pause change requested))⟩
  | sendChat text allowed =>
    obtain ⟨_,_,ok⟩ := bind_ok.mp ok
    obtain ⟨_,_,ok⟩ := bind_ok.mp ok
    obtain ⟨_,_,ok⟩ := bind_ok.mp ok
    have base := Session.reports_send s (.chat (trim text)) rfl
    exact ⟨g,r.reports _ ((Session.reports_queue _ next ok).trans base)⟩

theorem run (r : Refines core start player delay pool mine history g s) (operations : List Operation)
    (listed : ∀ input ∈ arrivedInputs operations, input ∈ pool) (next : Session State Out)
    (ok : s.run core operations = .ok next) :
    ∃ account, Refines core start player delay pool (s.samples core mine operations) history account next := by
  induction operations generalizing g s mine with
  | nil =>
    obtain rfl := Except.ok.inj ok
    exact ⟨g,r⟩
  | cons operation rest ih =>
    have split : arrivedInputs (operation::rest) = arrivedInputs [operation] ++ arrivedInputs rest := by
      unfold arrivedInputs eventInputs
      rw [← filterMap_append,← filterMap_append,singleton_append]
    rw [split] at listed
    rw [Session.run,foldlM_cons] at ok
    obtain ⟨middle,first,ok⟩ := bind_ok.mp ok
    obtain ⟨account,kept⟩ := r.perform operation (fun input member => listed input (mem_append_left _ member))
      middle first
    rw [Session.samples,first]
    exact ih kept (fun input member => listed input (mem_append_right _ member)) ok

theorem initial (core : Core State Out) (start : State) (player : Player) (delay : InputDelay) (verification : Bool)
    (s : Session State Out) (ok : Session.start core start player delay verification = .ok s)
    (pool : List (Nat × UInt16)) : Refines core start player delay pool [] [] (Account.initial delay) s := by
  unfold Session.start at ok
  obtain ⟨_,_,ok⟩ := bind_ok.mp ok
  obtain rfl := Except.ok.inj ok
  exact {
    consistent := Timeline.consistent_withDelay player delay
    seat := rfl
    owner := rfl
    lag := rfl
    log := Sampled.initial delay player
    last := rfl
    outbox := rfl
    primed := by
      intro f early
      simp [Account.initial,early]
    heard := by
      intro f value late known
      simp [Account.initial,not_lt.mpr late] at known
    window := by
      refine ⟨rfl,?_,?_,?_⟩
      · intro k state found
        rw [OrderedMap.get?_insert] at found
        split at found
        · rename_i zero
          subst zero
          exact ⟨le_rfl,(Option.some.inj found).symm⟩
        · simp at found
      · intro k bucket found
        simp at found
      · intro k above below
        simp only [Timeline.withDelay] at above below
        omega
    committed := Nat.zero_le _
    safe := fun x set => by simp [Timeline.withDelay] at set
    journal := rfl
    history := prefix_refl _
    inbox := fun input member => by simp [eventInputs] at member }

end Refines

-- The first value a log has for a frame.
def logged (log : List (Nat × UInt16)) (frame : Nat) : UInt16 :=
  ((log.find? (fun entry => entry.1 = frame)).map Prod.snd).getD 0

/-- The inputs of a session's frames: neutral below the delay, then what was sampled and what was received. -/
def sessionPorts (player : Player) (delay : InputDelay) (sent arrived : List (Nat × UInt16)) (frame : Nat) :
    Ports UInt16 :=
  if frame < delay.frames then .both 0
  else ((Ports.both 0).set player (logged sent frame)).set (other player) (logged arrived frame)

theorem logged_of_unique (log : List (Nat × UInt16)) (frame : Nat) (value : UInt16) (member : (frame,value) ∈ log)
    (unique : ∀ left right, (frame,left) ∈ log → (frame,right) ∈ log → left = right) : logged log frame = value := by
  unfold logged
  cases found : log.find? (fun entry => entry.1 = frame) with
  | none =>
    have absent := List.find?_eq_none.mp found (frame,value) member
    simp at absent
  | some entry =>
    have inside := List.mem_of_find?_eq_some found
    have here := List.find?_some found
    simp only [decide_eq_true_eq] at here
    obtain ⟨first,second⟩ := entry
    simp only at here
    subst here
    exact unique _ _ inside member

theorem Numbered.unique {delay : InputDelay} {log : List (Nat × UInt16)} (numbered : Numbered delay log) (frame : Nat)
    (left right : UInt16) (first : (frame,left) ∈ log) (second : (frame,right) ∈ log) : left = right := by
  obtain ⟨i,found⟩ := List.mem_iff_getElem?.mp first
  obtain ⟨j,other⟩ := List.mem_iff_getElem?.mp second
  have low := numbered i _ found
  have high := numbered j _ other
  obtain rfl : i = j := by
    simp only at low high
    omega
  exact congrArg Prod.snd (Option.some.inj (found.symm.trans other))

namespace Refines
variable {start : State} {player : Player} {delay : InputDelay}
  {pool mine : List (Nat × UInt16)} {history : List (Published Out)} {g : Account} {s : Session State Out}

theorem settled (r : Refines core start player delay pool mine history g s) (f : Nat) (below : f < s.committed)
    (player : Player) : (g.known f).get player = some ((g.used f).get player) := by
  have committed := r.committed
  simp only [Timeline.confirmedFrame] at committed
  have complete := (Ports.complete_iff _).mp (r.consistent.complete f (by omega)) player
  obtain ⟨value,known⟩ := Option.isSome_iff_exists.mp complete
  rcases r.consistent.agree f (by omega) player value known with same | ⟨x,dirty,under⟩
  · rw [known,same]
  · have early := r.safe x dirty
    omega

theorem sent (r : Refines core start player delay pool mine history g s) (f : Nat) (late : delay.frames ≤ f)
    (below : f < s.committed) : (f,(g.used f).get s.player) ∈ mine := by
  have known := r.settled f below s.player
  rw [r.log.sampled,stream,if_neg (by omega)] at known
  obtain ⟨message,found,value⟩ := Option.map_eq_some_iff.mp known
  have number := r.log.numbered _ message found
  have member := List.mem_of_getElem? found
  have same : message = (f,(g.used f).get s.player) := Prod.ext (by simp only; omega) value
  exact same ▸ member

theorem used_eq (r : Refines core start player delay pool mine history g s)
    (honest : ∀ f left right, (f,left) ∈ pool → (f,right) ∈ pool → left = right) (f : Nat) (below : f < s.committed) :
    g.used f = sessionPorts s.player delay mine pool f := by
  apply Ports.ext_get
  intro reader
  have known := r.settled f below reader
  unfold sessionPorts
  by_cases early : f < delay.frames
  · rw [if_pos early,Ports.get_both]
    rcases eq_or_other s.player reader with rfl | rfl
    · rw [r.log.sampled,stream,if_pos early] at known
      exact (Option.some.inj known).symm
    · rw [r.primed f early] at known
      exact (Option.some.inj known).symm
  · rw [if_neg early]
    rcases eq_or_other s.player reader with rfl | rfl
    · rw [Ports.get_set,if_neg (other_ne s.player).symm,Ports.get_set_self]
      exact (logged_of_unique _ f _ (r.sent f (by omega) below) (r.log.numbered.unique f)).symm
    · rw [Ports.get_set_self]
      exact (logged_of_unique _ f _ (r.heard f _ (by omega) known) (honest f)).symm

end Refines

end ZeffBoy.Netplay
