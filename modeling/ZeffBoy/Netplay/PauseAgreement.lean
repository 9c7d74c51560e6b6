import ZeffBoy.Library.Transition
import ZeffBoy.Netplay.PauseSync

/-! Agreement on the pause barrier.
Two peers exchange pause messages over ordered channels while their users ask for
pauses and releases at any time and their frames advance below the barriers. A
call of a user or an acknowledgment may fail; an observed vote may not. -/
namespace ZeffBoy.Netplay
open Library Wire

namespace PauseControl

-- A failing acknowledgment leaves what it wrote before the check that failed.
def failedAck (p : PauseControl) (request : Nat) : PauseControl :=
  if request ≠ 0 ∧ request ≤ p.localRequest then {p with localAcked := max p.localAcked request}.finishEpisode else p

/-- The next vote of this peer overflows: its target frame or its request number. -/
def Exhausted (p : PauseControl) (frame : Nat) : Prop := 2^64 ≤ frame + p.lead ∨ 2^64 ≤ p.localRequest + 1

theorem reconcile_fails (p : PauseControl) (current : Nat) (message : String) (held : p.mine.paused → p.mine.target.isSome)
    (failed : p.reconcile current = .error message) : p.Exhausted current := by
  by_contra room
  unfold Exhausted at room
  push Not at room
  obtain ⟨next,change,ok⟩ := p.reconcile_returns current room.1 room.2 held
  cases failed.symm.trans ok

end PauseControl

/-- Two pause controls with their frames, the messages on the way to each peer, and what each user last asked for. -/
structure Exchange where
  controls : Ports PauseControl
  frames : Ports Nat
  queue : Ports (List Message)
  wanted : Ports Bool

namespace Exchange

def initial (delays : Ports InputDelay) : Exchange where
  controls := ⟨.withDelay delays.one,.withDelay delays.two⟩
  frames := .both 0
  queue := .both []
  wanted := .both false

inductive Step : Exchange → Exchange → Prop
  | request (x : Exchange) (player : Player) (paused : Bool) (next : PauseControl) (change : Option Message)
    (ok : (x.controls.get player).request (x.frames.get player) paused = .ok (next,change)) :
    Step x {x with
      controls := x.controls.set player next
      queue := x.queue.set (other player) (x.queue.get (other player) ++ change.toList)
      wanted := x.wanted.set player paused}
  | requestFails (x : Exchange) (player : Player) (paused : Bool) (message : String)
    (failed : (x.controls.get player).request (x.frames.get player) paused = .error message) :
    Step x {x with
      controls := x.controls.set player {x.controls.get player with desired := paused}
      wanted := x.wanted.set player paused}
  | observe (x : Exchange) (player : Player) (number target : Nat) (paused : Bool) (rest : List Message)
    (next : PauseControl) (ack : Message) (arrived : x.queue.get player = .pauseChange number target paused::rest)
    (ok : (x.controls.get player).observe (x.frames.get player) number target paused = .ok (next,ack)) :
    Step x {x with
      controls := x.controls.set player next
      queue := (x.queue.set player rest).set (other player) (x.queue.get (other player) ++ [ack])}
  | acknowledge (x : Exchange) (player : Player) (number : Nat) (rest : List Message) (next : PauseControl)
    (change : Option Message) (arrived : x.queue.get player = .pauseAck number::rest)
    (ok : (x.controls.get player).acknowledge (x.frames.get player) number = .ok (next,change)) :
    Step x {x with
      controls := x.controls.set player next
      queue := (x.queue.set player rest).set (other player) (x.queue.get (other player) ++ change.toList)}
  | acknowledgeFails (x : Exchange) (player : Player) (number : Nat) (rest : List Message) (message : String)
    (arrived : x.queue.get player = .pauseAck number::rest)
    (failed : (x.controls.get player).acknowledge (x.frames.get player) number = .error message) :
    Step x {x with
      controls := x.controls.set player ((x.controls.get player).failedAck number)
      queue := x.queue.set player rest}
  | advance (x : Exchange) (player : Player)
    (below : ∀ barrier, (x.controls.get player).barrier = some barrier → x.frames.get player < barrier) :
    Step x {x with frames := x.frames.set player (x.frames.get player + 1)}

def Reachable (delays : Ports InputDelay) (x : Exchange) : Prop := Relation.ReflTransGen Step (initial delays) x

/-- What one peer keeps on its own: its frame is below its barrier and its vote follows its user, now, at the
next acknowledgment, or not for want of numbers. -/
structure Local (control : PauseControl) (frame : Nat) (wanted : Bool) : Prop where
  below : ∀ barrier, control.episode = some barrier → frame ≤ barrier
  desired : control.desired = wanted
  follows : control.mine.paused = control.desired ∨
    control.desired ∧ control.mine.paused = false ∧ control.localAcked ≠ control.localRequest ∨ control.Exhausted frame

theorem joinTarget_ge (control : PauseControl) (current : Nat) : current ≤ control.joinTarget current := by
  unfold PauseControl.joinTarget
  cases episode : control.episode with
  | none => simp
  | some barrier =>
    by_cases reachable : current ≤ barrier <;> simp [Option.filter,reachable]

theorem lower_ge (episode : Option Nat) (frame target : Nat) (ahead : frame ≤ target)
    (below : ∀ barrier, episode = some barrier → frame ≤ barrier) :
    frame ≤ (episode.map (min · target)).getD target := by
  cases episode with
  | none => exact ahead
  | some old =>
    have bound := below old rfl
    simp only [Option.map_some,Option.getD_some]
    omega

theorem local_reconcile (control : PauseControl) (frame : Nat) (next : PauseControl) (change : Option Message)
    (below : ∀ barrier, control.episode = some barrier → frame ≤ barrier)
    (ok : control.reconcile frame = .ok (next,change)) : Local next frame control.desired := by
  rcases control.reconcile_ok frame next change ok with ⟨rfl,_,idle⟩ | ⟨wish,_,_,_,_,rfl,_⟩ | ⟨wish,_,_,target,_,rfl,_⟩
  · refine ⟨below,rfl,?_⟩
    rcases idle with same | ⟨wish,waiting⟩
    · exact Or.inl same
    · cases vote : next.mine.paused with
      | true => exact Or.inl (by rw [wish])
      | false => exact Or.inr (Or.inl ⟨wish,rfl,waiting⟩)
  · refine ⟨?_,rfl,Or.inl wish.symm⟩
    intro barrier held
    obtain rfl := Option.some.inj held
    exact lower_ge _ _ _ (joinTarget_ge control frame) below
  · have kept (barrier : Nat) (held : (control.releaseAt target).episode = some barrier) :=
      PauseControl.finishEpisode_held {control with mine := ⟨some target,false⟩, localRequest := control.localRequest + 1} barrier held
    refine ⟨fun barrier held => below barrier (kept barrier held),?_,Or.inl ?_⟩
    · simp [PauseControl.releaseAt]
    · simp [PauseControl.releaseAt,wish]

theorem local_failed (control : PauseControl) (frame : Nat) (message : String)
    (below : ∀ barrier, control.episode = some barrier → frame ≤ barrier)
    (held : control.mine.paused → control.mine.target.isSome) (failed : control.reconcile frame = .error message) :
    Local control frame control.desired :=
  ⟨below,rfl,Or.inr (Or.inr (control.reconcile_fails frame message held failed))⟩

structure Sound (x : Exchange) : Prop where
  sync : ∀ player, PauseControl.Sync (x.controls.get player) (x.controls.get (other player)) (x.queue.get player)
    (x.queue.get (other player))
  own : ∀ player, Local (x.controls.get player) (x.frames.get player) (x.wanted.get player)

theorem sync_reconcile {a b : PauseControl} {toA toB : List Message} (s : PauseControl.Sync a b toA toB) (frame : Nat)
    (next : PauseControl) (change : Option Message) (ok : a.reconcile frame = .ok (next,change)) :
    PauseControl.Sync next b toA (toB ++ change.toList) := by
  rcases a.reconcile_ok frame next change ok with
    ⟨rfl,rfl,_⟩ | ⟨_,released,acked,_,_,rfl,rfl⟩ | ⟨_,voted,_,target,held,rfl,rfl⟩
  · rw [Option.toList_none,List.append_nil]
    exact s
  · exact s.pause released acked _
  · exact s.release voted target held

theorem sound_initial (delays : Ports InputDelay) : Sound (initial delays) where
  sync := by
    intro player
    have quiet (a b : InputDelay) : PauseControl.Sync (.withDelay a) (.withDelay b) [] [] := {
      out := ⟨le_rfl,le_rfl,rfl,rfl,rfl,fun _ member => by simp at member⟩
      back := ⟨le_rfl,le_rfl,rfl,rfl,rfl,fun _ member => by simp at member⟩
      settled := ⟨by simp [PauseControl.withDelay],by simp [PauseControl.withDelay]⟩
      peerSettled := ⟨by simp [PauseControl.withDelay],by simp [PauseControl.withDelay]⟩
      mode := Or.inl ⟨rfl,PauseControl.late_quiet _ _ rfl,PauseControl.late_quiet _ _ rfl⟩ }
    cases player
    · exact quiet delays.one delays.two
    · exact quiet delays.two delays.one
  own := by
    intro player
    cases player
    · exact ⟨fun _ held => by simp [initial,Ports.get,PauseControl.withDelay] at held,rfl,Or.inl rfl⟩
    · exact ⟨fun _ held => by simp [initial,Ports.get,PauseControl.withDelay] at held,rfl,Or.inl rfl⟩

section
variable {x : Exchange}

theorem Sound.update (s : Sound x) (player : Player) (next : PauseControl) (rest out : List Message) (wanted : Bool)
    (sync : PauseControl.Sync next (x.controls.get (other player)) rest out)
    (own : Local next (x.frames.get player) wanted) :
    Sound {x with
      controls := x.controls.set player next
      queue := (x.queue.set player rest).set (other player) out
      wanted := x.wanted.set player wanted} where
  sync := by
    intro reader
    rcases eq_or_other player reader with rfl | rfl
    · simpa [Ports.get_set,other_ne,(other_ne reader).symm] using sync
    · simpa [Ports.get_set,other_ne,(other_ne player).symm] using sync.symm
  own := by
    intro reader
    rcases eq_or_other player reader with rfl | rfl
    · simpa [Ports.get_set] using own
    · simpa [Ports.get_set,other_ne] using s.own (other player)

theorem Local.acked {control : PauseControl} {frame : Nat} {wanted : Bool} (own : Local control frame wanted) (number : Nat)
    (barrier : Nat) (held : {control with localAcked := number}.finishEpisode.episode = some barrier) : frame ≤ barrier :=
  own.below barrier (PauseControl.finishEpisode_held {control with localAcked := number} barrier held)

theorem Sound.observe (s : Sound x) {player : Player} {number target : Nat} {paused : Bool} {rest : List Message}
    {next : PauseControl} {ack : Message} (arrived : x.queue.get player = .pauseChange number target paused::rest)
    (ok : (x.controls.get player).observe (x.frames.get player) number target paused = .ok (next,ack)) :
    Sound {x with
      controls := x.controls.set player next
      queue := (x.queue.set player rest).set (other player) (x.queue.get (other player) ++ [ack])} := by
  have own := s.own player
  have sync := s.sync player
  have number_eq := (sync.back.takeChange number target paused rest arrived).1
  obtain ⟨rfl,_,kind⟩ := PauseControl.observe_ok _ _ number target paused next ack ok
  rw [← Ports.set_get x.wanted player]
  rcases kind with ⟨same,_⟩ | ⟨_,rfl,_,ahead,_,rfl⟩ | ⟨_,rfl,_,_,rfl⟩
  · omega
  · apply s.update player _ rest _ _ (sync.observePause number target rest arrived)
    refine ⟨fun barrier held => ?_,own.desired,own.follows⟩
    obtain rfl := Option.some.inj held
    exact lower_ge _ _ _ ahead own.below
  · apply s.update player _ rest _ _ (sync.observeRelease number target rest arrived)
    have kept (barrier : Nat) (held : ((x.controls.get player).peerReleaseAt number target).episode = some barrier) :=
      PauseControl.finishEpisode_held {x.controls.get player with peer := ⟨some target,false⟩, peerRequest := number} barrier held
    refine ⟨fun barrier held => own.below barrier (kept barrier held),?_,?_⟩
    · simpa [PauseControl.peerReleaseAt] using own.desired
    · simpa [PauseControl.peerReleaseAt,PauseControl.Exhausted] using own.follows

theorem Sound.acknowledge (s : Sound x) {player : Player} {number : Nat} {rest : List Message} {next : PauseControl}
    {change : Option Message} (arrived : x.queue.get player = .pauseAck number::rest)
    (ok : (x.controls.get player).acknowledge (x.frames.get player) number = .ok (next,change)) :
    Sound {x with
      controls := x.controls.set player next
      queue := (x.queue.set player rest).set (other player) (x.queue.get (other player) ++ change.toList)} := by
  have own := s.own player
  have sync := s.sync player
  have number_eq := (sync.out.takeAck number rest arrived).1
  obtain ⟨_,_,reconciled⟩ := PauseControl.acknowledge_ok _ _ number next change ok
  rw [max_eq_right (by omega)] at reconciled
  rw [← Ports.set_get x.wanted player]
  apply s.update player next rest _ _ (sync_reconcile (sync.ack number rest arrived) _ next change reconciled)
  have kept := local_reconcile {x.controls.get player with localAcked := number}.finishEpisode _ next change
    (own.acked number) reconciled
  rwa [PauseControl.finishEpisode_desired,own.desired] at kept

theorem Sound.acknowledgeFails (s : Sound x) {player : Player} {number : Nat} {rest : List Message} {message : String}
    (arrived : x.queue.get player = .pauseAck number::rest)
    (failed : (x.controls.get player).acknowledge (x.frames.get player) number = .error message) :
    Sound {x with
      controls := x.controls.set player ((x.controls.get player).failedAck number)
      queue := x.queue.set player rest} := by
  have own := s.own player
  have sync := s.sync player
  obtain ⟨number_eq,seen,_⟩ := sync.out.takeAck number rest arrived
  have observed := sync.out.observed
  have known : number ≠ 0 ∧ number ≤ (x.controls.get player).localRequest := by omega
  have written : (x.controls.get player).failedAck number =
      {x.controls.get player with localAcked := number}.finishEpisode := by
    rw [PauseControl.failedAck,if_pos known,max_eq_right (by omega)]
  have acked := sync.ack number rest arrived
  rw [PauseControl.acknowledge,ensure_pos known,ok_bind,max_eq_right (by omega)] at failed
  have kept := local_failed {x.controls.get player with localAcked := number}.finishEpisode _ message
    (own.acked number) acked.settled.held failed
  rw [PauseControl.finishEpisode_desired,own.desired] at kept
  have sound := s.update player _ rest _ _ acked kept
  rw [Ports.set_get,← written] at sound
  cases player <;> exact sound

theorem Sound.step (s : Sound x) (after : Exchange) (step : Step x after) : Sound after := by
  cases step with
  | request player paused next change ok =>
    have own := s.own player
    have base : PauseControl.Sync {x.controls.get player with desired := paused} (x.controls.get (other player))
        (x.queue.get player) (x.queue.get (other player)) := (s.sync player).congr _ rfl rfl rfl rfl rfl rfl
    have kept := s.update player next (x.queue.get player) _ paused (sync_reconcile base _ next change ok)
      (local_reconcile {x.controls.get player with desired := paused} _ next change own.below ok)
    rwa [Ports.set_get] at kept
  | requestFails player paused message failed =>
    have own := s.own player
    have base : PauseControl.Sync {x.controls.get player with desired := paused} (x.controls.get (other player))
        (x.queue.get player) (x.queue.get (other player)) := (s.sync player).congr _ rfl rfl rfl rfl rfl rfl
    have kept := s.update player _ (x.queue.get player) _ paused base
      (local_failed {x.controls.get player with desired := paused} _ message own.below base.settled.held failed)
    rwa [Ports.set_get,Ports.set_get] at kept
  | observe player number target paused rest next ack arrived ok => exact s.observe arrived ok
  | acknowledge player number rest next change arrived ok => exact s.acknowledge arrived ok
  | acknowledgeFails player number rest message arrived failed => exact s.acknowledgeFails arrived failed
  | advance player below =>
    refine ⟨s.sync,fun reader => ?_⟩
    rcases eq_or_other player reader with rfl | rfl
    · have own := s.own reader
      simp only [Ports.get_set_self]
      refine ⟨fun barrier held => below barrier held,own.desired,own.follows.imp_right (Or.imp_right (Or.imp_left fun far => ?_))⟩
      omega
    · simpa [Ports.get_set,other_ne] using s.own (other player)

theorem Reachable.sound {delays : Ports InputDelay} (reach : Reachable delays x) : Sound x :=
  invariant_of_run (sound_initial delays) (fun _ after s step => s.step after step) reach

/-- A frame never passes its barrier, and with no pause message in flight both peers hold the same barrier,
record each other's votes, and vote as their users last asked, but for a peer whose next vote overflows. -/
theorem reachable_agreement {delays : Ports InputDelay} (reach : Reachable delays x) :
    (∀ player barrier, (x.controls.get player).barrier = some barrier → x.frames.get player ≤ barrier) ∧
    ((∀ player, x.queue.get player = []) →
      x.controls.one.barrier = x.controls.two.barrier ∧
      (∀ player, (x.controls.get player).mine = (x.controls.get (other player)).peer) ∧
      ∀ player, (x.controls.get player).mine.paused = x.wanted.get player ∨
        (x.controls.get player).Exhausted (x.frames.get player)) := by
  have s := reach.sound
  refine ⟨fun player => (s.own player).below,fun quiet => ⟨?_,?_,?_⟩⟩
  · have sync := s.sync .one
    rw [quiet,quiet] at sync
    rcases sync.mode with aligned | behind | ahead
    · have agree := aligned.agree
      rw [PauseControl.pending_nil,min_top_right,min_top_right] at agree
      exact PauseControl.ceiling_injective agree
    · obtain ⟨before,after,split,_⟩ := behind.order
      simp at split
    · obtain ⟨before,after,split,_⟩ := ahead.order
      simp at split
  · intro player
    have sync := s.sync player
    rw [quiet,quiet] at sync
    exact sync.out.chain.symm
  · intro player
    have sync := s.sync player
    rw [quiet,quiet] at sync
    obtain ⟨seen,_⟩ := sync.out.seen_of_quiet rfl
    have returned := List.range'_eq_nil_iff.mp sync.out.acks.symm
    have acked := sync.out.acked
    have own := s.own player
    rcases own.follows with same | ⟨_,_,waiting⟩ | exhausted
    · exact Or.inl (by rw [same,own.desired])
    · omega
    · exact Or.inr exhausted

theorem reachable_agreement_first_pause : ∃ x, Reachable (.both ⟨0,by decide⟩) x ∧
    x.controls.one.barrier = some 8 ∧ x.controls.one.barrier = x.controls.two.barrier := by
  have asked := Relation.ReflTransGen.refl.tail (Step.request (initial (.both ⟨0,by decide⟩)) .one true _ _ rfl)
  have seen := asked.tail (Step.observe _ .two 1 8 true [] _ _ rfl rfl)
  have done := seen.tail (Step.acknowledge _ .one 1 [] _ _ rfl rfl)
  refine ⟨_,done,rfl,((reachable_agreement done).2 ?_).1⟩
  intro player
  cases player <;> rfl

theorem reachable_frames (delays : Ports InputDelay) (frames : Nat) :
    Reachable delays {initial delays with frames := ⟨frames,0⟩} := by
  induction frames with
  | zero => exact Relation.ReflTransGen.refl
  | succ frames ih => exact ih.tail (Step.advance _ .one nofun)

/-- At the last frames of a run a request fails with a pause frame overflow, and the vote stays what it was. -/
theorem request_overflows : ¬∀ (delays : Ports InputDelay) (x : Exchange), Reachable delays x →
    (∀ player, x.queue.get player = []) → ∀ player, (x.controls.get player).mine.paused = x.wanted.get player := by
  intro follows
  have late := reachable_frames (.both ⟨0,by decide⟩) (2^64 - 8)
  have asked := late.tail (Step.requestFails _ .one true "pause frame overflow" rfl)
  cases follows _ _ asked (fun player => by cases player <;> rfl) .one

end
end Exchange
end ZeffBoy.Netplay
