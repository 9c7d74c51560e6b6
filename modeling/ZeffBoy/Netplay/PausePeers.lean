import ZeffBoy.Netplay.PauseAgreement
import ZeffBoy.Netplay.RollbackPeers

/-! Pause requests between two peers that also exchange inputs.
Inputs and pause messages share one ordered channel each way. How far a peer can
run before a request reaches it is bounded by the inputs sent ahead of the
request, which is what the pause lead has to cover. -/
namespace ZeffBoy.Netplay
open Library Wire List

/-- Two sessions as the pause protocol sees them. The last sent input is not sent again; else the logs of sent
inputs and the counts of delivered ones only describe the run. -/
structure Duo where
  timelines : Ports Timeline
  controls : Ports PauseControl
  queue : Ports (List Message)
  sent : Ports (List (Nat × UInt16))
  delivered : Ports Nat

namespace Duo

def initial (delay : InputDelay) : Duo where
  timelines := ⟨.withDelay .one delay,.withDelay .two delay⟩
  controls := .both (.withDelay delay)
  queue := .both []
  sent := .both []
  delivered := .both 0

inductive Action
  | step (player : Player) (buttons : UInt16)
  | settle (player : Player)
  | deliver (player : Player)
  | request (player : Player) (paused : Bool)
deriving DecidableEq

-- A new sample is sent behind everything sent before.
def announce (d : Duo) (player : Player) (sample : Nat × UInt16) : Duo :=
  if (d.sent.get player).getLast?.map Prod.fst = some sample.1 then d
  else {d with
    sent := d.sent.set player (d.sent.get player ++ [sample])
    queue := d.queue.set (other player) (d.queue.get (other player) ++ [.input player sample.1 sample.2])}

def settle (d : Duo) (player : Player) : Except String Duo := do
  let t ← (d.timelines.get player).correct
  return {d with timelines := d.timelines.set player t}

/-- A step of a session: held back at the barrier, else a turn of the timeline. -/
def step (d : Duo) (player : Player) (buttons : UInt16) : Except String Duo :=
  if (d.controls.get player).barrier.any (fun barrier => barrier ≤ (d.timelines.get player).frame) then d.settle player
  else do
    let (sample,t) ← (d.timelines.get player).tick buttons
    return {d with timelines := d.timelines.set player t}.announce player sample

def reply (d : Duo) (player : Player) (control : PauseControl) (rest : List Message) (answer : Option Message) : Duo :=
  {d with
    controls := d.controls.set player control
    queue := (d.queue.set player rest).set (other player) (d.queue.get (other player) ++ answer.toList)}

def deliver (d : Duo) (player : Player) : Except String Duo :=
  match d.queue.get player with
  | .input _ frame buttons::rest => do
    let (_,t) ← attempt ((d.timelines.get player).receiveRemote frame buttons)
    return {d with
      timelines := d.timelines.set player t
      queue := d.queue.set player rest
      delivered := d.delivered.set player (d.delivered.get player + 1)}
  | .pauseChange number target paused::rest => do
    let (control,ack) ← (d.controls.get player).observe (d.timelines.get player).frame number target paused
    return d.reply player control rest (some ack)
  | .pauseAck number::rest => do
    let (control,change) ← (d.controls.get player).acknowledge (d.timelines.get player).frame number
    return d.reply player control rest change
  | _ => .ok d

def request (d : Duo) (player : Player) (paused : Bool) : Except String Duo := do
  let (control,change) ← (d.controls.get player).request (d.timelines.get player).frame paused
  return d.reply player control (d.queue.get player) change

def perform (d : Duo) : Action → Except String Duo
  | .step player buttons => d.step player buttons
  | .settle player => d.settle player
  | .deliver player => d.deliver player
  | .request player paused => d.request player paused

def run (d : Duo) (actions : List Action) : Except String Duo := actions.foldlM perform d

/-- The next message of the player's queue, if it belongs to the pause protocol, is taken. -/
def Accepts (d : Duo) (player : Player) : Prop :=
  (∀ number target paused rest, d.queue.get player = .pauseChange number target paused::rest →
    ∃ next ack, (d.controls.get player).observe (d.timelines.get player).frame number target paused = .ok (next,ack)) ∧
  ∀ number rest, d.queue.get player = .pauseAck number::rest →
    ∃ next change, (d.controls.get player).acknowledge (d.timelines.get player).frame number = .ok (next,change)

-- No counter of the pause protocol is about to wrap.
def Roomy (d : Duo) : Prop :=
  ∀ player, (d.timelines.get player).frame + 2 * (d.controls.get player).lead < 2^64 ∧
    (d.controls.get player).localRequest + 1 < 2^64

def link (d : Duo) : Link := ⟨d.timelines,d.sent,d.delivered⟩

def inputs (queue : List Message) : List (Nat × UInt16) :=
  queue.filterMap fun
    | .input _ frame buttons => some (frame,buttons)
    | _ => none

end Duo

open PauseControl

/-- Every pause on its way to `a` is ahead of the inputs in front of it by the prediction window,
or joins a barrier that `a` holds. -/
def Lower (base : Nat) (a b : PauseControl) (toA toB : List Message) : Prop :=
  ∀ before number target after, toA = before ++ .pauseChange number target true::after →
    base + (Duo.inputs before).length + predictionWindow ≤ target ∨
    Aligned a b toA toB ∧ ceiling a.episode ≤ (target : WithTop Nat)

def Upper (lead frame : Nat) (toA : List Message) : Prop :=
  ∀ change ∈ changes toA, change.paused → change.target ≤ frame + 2 * lead

def Reach (lead frame : Nat) (a : PauseControl) : Prop :=
  ∀ barrier, a.episode = some barrier → frame ≤ barrier ∧ barrier ≤ frame + 2 * lead

/-- The margins of the pause protocol around the frames of the two peers. -/
structure Margins (lead frameA frameB baseA baseB : Nat) (a b : PauseControl) (toA toB : List Message) : Prop where
  sync : Sync a b toA toB
  reach : Reach lead frameA a
  peerReach : Reach lead frameB b
  upper : Upper lead frameA toA
  peerUpper : Upper lead frameB toB
  lower : Lower baseA a b toA toB
  peerLower : Lower baseB b a toB toA

namespace Margins
variable {lead frameA frameB baseA baseB : Nat} {a b : PauseControl} {toA toB : List Message}

theorem symm (m : Margins lead frameA frameB baseA baseB a b toA toB) :
    Margins lead frameB frameA baseB baseA b a toB toA :=
  ⟨m.sync.symm,m.peerReach,m.reach,m.peerUpper,m.upper,m.peerLower,m.lower⟩

theorem lower_empty {base : Nat} {a b : PauseControl} {toA toB : List Message} (quiet : pending toA = ⊤) :
    Lower base a b toA toB := by
  intro before number target after split
  rw [split,pending_append,pending_pause] at quiet
  have bound := (min_eq_top.mp (min_eq_top.mp quiet).2).1
  simp at bound

theorem lower_mono {base base' : Nat} {a' b' : PauseControl} {toA' toB' : List Message} (low : Lower base a b toA toB)
    (kept : Aligned a b toA toB → Aligned a' b' toA' toB' ∧ ceiling a'.episode ≤ ceiling a.episode)
    (placed : ∀ before number target after, toA' = before ++ .pauseChange number target true::after →
      ∃ front back, toA = front ++ .pauseChange number target true::back ∧
        base' + (Duo.inputs before).length ≤ base + (Duo.inputs front).length) : Lower base' a' b' toA' toB' := by
  intro before number target after split
  obtain ⟨front,back,old,count⟩ := placed before number target after split
  rcases low front number target back old with ahead | ⟨aligned,joined⟩
  · exact Or.inl (by omega)
  · exact Or.inr ⟨(kept aligned).1,(kept aligned).2.trans joined⟩

theorem placed_append (message : Message) (quiet : pending [message] = ⊤) (base : Nat) (toA : List Message)
    (before : List Message) (number target : Nat) (after : List Message)
    (split : toA ++ [message] = before ++ .pauseChange number target true::after) :
    ∃ front back, toA = front ++ .pauseChange number target true::back ∧
      base + (Duo.inputs before).length ≤ base + (Duo.inputs front).length := by
  rcases eq_nil_or_concat after with rfl | ⟨middle,last,rfl⟩
  · obtain ⟨_,same⟩ := append_inj' split rfl
    obtain rfl := (List.cons.inj same).1
    simp at quiet
  · have parts : toA ++ [message] = (before ++ .pauseChange number target true::middle) ++ [last] := by
      rw [split]
      simp
    obtain ⟨old,_⟩ := append_inj' parts rfl
    exact ⟨before,middle,old,le_rfl⟩

theorem placed_tail (message : Message) (rest : List Message) (base : Nat) (before : List Message) (number target : Nat)
    (after : List Message) (split : rest = before ++ .pauseChange number target true::after) :
    ∃ front back, message::rest = front ++ .pauseChange number target true::back ∧
      base + (Duo.inputs before).length ≤ base + (Duo.inputs front).length := by
  refine ⟨message::before,after,by rw [split]; rfl,?_⟩
  have count : (Duo.inputs before).length ≤ (Duo.inputs (message::before)).length := by
    rw [← singleton_append,Duo.inputs,Duo.inputs,filterMap_append,length_append]
    exact Nat.le_add_left _ _
  omega

theorem upper_append {lead frame : Nat} {toA : List Message} {message : Message} (upper : Upper lead frame toA)
    (new : ∀ change ∈ changes [message], change.paused → change.target ≤ frame + 2 * lead) :
    Upper lead frame (toA ++ [message]) := by
  intro change member
  rw [changes_append,mem_append] at member
  rcases member with old | last
  · exact upper change old
  · exact new change last

theorem upper_tail (lead frame : Nat) (message : Message) (rest : List Message) (upper : Upper lead frame (message::rest)) :
    Upper lead frame rest := by
  intro change member
  apply upper change
  rw [← singleton_append,changes_append]
  exact mem_append_right _ member

theorem placed_same (base : Nat) (toA before : List Message) (number target : Nat) (after : List Message)
    (split : toA = before ++ .pauseChange number target true::after) :
    ∃ front back, toA = front ++ .pauseChange number target true::back ∧
      base + (Duo.inputs before).length ≤ base + (Duo.inputs front).length :=
  ⟨before,after,split,le_rfl⟩

theorem advance (m : Margins lead frameA frameB baseA baseB a b toA toB)
    (below : ∀ barrier, a.episode = some barrier → frameA < barrier) :
    Margins lead (frameA + 1) frameB baseA baseB a b toA toB where
  sync := m.sync
  reach := by
    intro barrier held
    have inside := m.reach barrier held
    have ahead := below barrier held
    omega
  peerReach := m.peerReach
  upper := by
    intro change member voted
    have bound := m.upper change member voted
    omega
  peerUpper := m.peerUpper
  lower := m.lower
  peerLower := m.peerLower

theorem joinTarget_cases (m : Margins lead frameA frameB baseA baseB a b toA toB) (released : a.mine.paused = false)
    (acked : a.localAcked = a.localRequest) (leads : a.lead = lead) :
    (a.episode = none ∧ a.joinTarget frameA = frameA + lead) ∨
    (a.episode = some (a.joinTarget frameA) ∧ b.episode = some (a.joinTarget frameA) ∧ Aligned a b toA toB) := by
  cases episode : a.episode with
  | none => exact Or.inl ⟨rfl,by simp [joinTarget,episode,leads]⟩
  | some barrier =>
    have inside := (m.reach barrier episode).1
    have same : a.joinTarget frameA = barrier := by simp [joinTarget,episode,Option.filter,inside]
    obtain ⟨aligned,peer⟩ := m.sync.join released acked (by simp [episode])
    rw [same]
    exact Or.inr ⟨rfl,by rw [← peer,episode],aligned⟩

theorem pause (m : Margins lead frameA frameB baseA baseB a b toA toB) (released : a.mine.paused = false)
    (acked : a.localAcked = a.localRequest) (leads : a.lead = lead)
    (drift : frameA + lead ≤ frameB + 2 * lead)
    (ahead : baseB + (Duo.inputs toB).length + predictionWindow ≤ frameA + lead) :
    Margins lead frameA frameB baseA baseB (a.pauseAt (a.joinTarget frameA)) b toA
      (toB ++ [.pauseChange (a.localRequest + 1) (a.joinTarget frameA) true]) where
  sync := m.sync.pause released acked _
  reach := by
    intro barrier held
    obtain rfl := Option.some.inj held
    rcases m.joinTarget_cases released acked leads with ⟨none,fresh⟩ | ⟨running,_,_⟩
    · simp only [none,fresh,Option.map_none,Option.getD_none]
      omega
    · have inside := m.reach _ running
      rw [running]
      simpa using inside
  peerReach := m.peerReach
  upper := m.upper
  peerUpper := by
    apply upper_append m.peerUpper
    intro change member _
    obtain rfl : change = ⟨a.localRequest + 1,a.joinTarget frameA,true⟩ := by simpa using member
    rcases m.joinTarget_cases released acked leads with ⟨_,fresh⟩ | ⟨_,peer,_⟩
    · simp only [fresh]
      exact drift
    · exact (m.peerReach _ peer).2
  lower := by
    refine lower_mono m.lower (fun aligned => ⟨m.sync.pause_aligned aligned released acked _,?_⟩) (placed_same _ _)
    exact (ceiling_lower a.episode _).le.trans (min_le_left _ _)
  peerLower := by
    intro before number target after split
    rcases eq_nil_or_concat after with rfl | ⟨middle,last,rfl⟩
    · obtain ⟨old,same⟩ := append_inj' split rfl
      have message := (List.cons.inj same).1
      simp only [Message.pauseChange.injEq,and_true] at message
      rcases m.joinTarget_cases released acked leads with ⟨_,fresh⟩ | ⟨_,peer,aligned⟩
      · refine Or.inl ?_
        rw [← old,← message.2,fresh]
        exact ahead
      · refine Or.inr ⟨(m.sync.pause_aligned aligned released acked _).symm,?_⟩
        rw [peer,message.2]
        exact le_rfl
    · have parts : toB ++ [Message.pauseChange (a.localRequest + 1) (a.joinTarget frameA) true] =
          (before ++ .pauseChange number target true::middle) ++ [last] := by
        rw [split]
        simp
      obtain ⟨old,_⟩ := append_inj' parts rfl
      rcases m.peerLower before number target middle old with numeric | ⟨aligned,joined⟩
      · exact Or.inl numeric
      · exact Or.inr ⟨(m.sync.pause_aligned aligned.symm released acked _).symm,joined⟩

theorem release (m : Margins lead frameA frameB baseA baseB a b toA toB) (voted : a.mine.paused) (target : Nat)
    (held : a.mine.target = some target) :
    Margins lead frameA frameB baseA baseB (a.releaseAt target) b toA
      (toB ++ [.pauseChange (a.localRequest + 1) target false]) := by
  have episode : (a.releaseAt target).episode = a.episode := by rw [releaseAt_eq a target m.sync.out]
  refine ⟨m.sync.release voted target held,?_,m.peerReach,m.upper,?_,?_,?_⟩
  · unfold Reach
    rw [episode]
    exact m.reach
  · apply upper_append m.peerUpper
    intro change member paused
    obtain rfl : change = ⟨a.localRequest + 1,target,false⟩ := by simpa using member
    contradiction
  · exact lower_mono m.lower (fun aligned => ⟨m.sync.release_aligned aligned target,by rw [episode]⟩) (placed_same _ _)
  · exact lower_mono m.peerLower (fun aligned => ⟨(m.sync.release_aligned aligned.symm target).symm,le_rfl⟩)
      (placed_append _ rfl _ toB)

theorem ack (m : Margins lead frameA frameB baseA baseB a b toA toB) (number : Nat) (rest : List Message)
    (arrived : toA = .pauseAck number::rest) :
    Margins lead frameA frameB baseA baseB {a with localAcked := number}.finishEpisode b rest toB := by
  have tail := placed_tail (.pauseAck number) rest baseA
  rw [← arrived] at tail
  have lows : Lower baseA {a with localAcked := number}.finishEpisode b rest toB ∧
      Lower baseB b {a with localAcked := number}.finishEpisode toB rest := by
    by_cases aligned : Aligned a b toA toB
    · rcases m.sync.ack_aligned number rest arrived aligned with ⟨kept,same⟩ | ⟨quietA,quietB,_⟩
      · exact ⟨lower_mono m.lower (fun _ => ⟨kept,by rw [same]⟩) tail,
          lower_mono m.peerLower (fun _ => ⟨kept.symm,le_rfl⟩) (placed_same _ _)⟩
      · exact ⟨lower_empty quietA,lower_empty quietB⟩
    · exact ⟨lower_mono m.lower (fun same => absurd same aligned) tail,
        lower_mono m.peerLower (fun same => absurd same.symm aligned) (placed_same _ _)⟩
  refine ⟨m.sync.ack number rest arrived,?_,m.peerReach,?_,m.peerUpper,lows.1,lows.2⟩
  · intro barrier held
    exact m.reach barrier (finishEpisode_held {a with localAcked := number} barrier held)
  · exact upper_tail _ _ (.pauseAck number) rest (arrived ▸ m.upper)

theorem observePause (m : Margins lead frameA frameB baseA baseB a b toA toB) (number target : Nat) (rest : List Message)
    (arrived : toA = .pauseChange number target true::rest) (ahead : frameA ≤ target) :
    Margins lead frameA frameB baseA baseB (a.peerPauseAt number target) b rest (toB ++ [.pauseAck number]) := by
  have tail := placed_tail (.pauseChange number target true) rest baseA
  rw [← arrived] at tail
  have kept := m.sync.observePause_aligned number target rest arrived
  have high := m.upper ⟨number,target,true⟩ (by simp [arrived]) rfl
  refine ⟨m.sync.observePause number target rest arrived,?_,m.peerReach,?_,?_,?_,?_⟩
  · intro barrier held
    obtain rfl := Option.some.inj held
    cases episode : a.episode with
    | none =>
      simp only [Option.map_none,Option.getD_none]
      exact ⟨ahead,high⟩
    | some old =>
      have inside := m.reach old episode
      simp only [Option.map_some,Option.getD_some]
      omega
  · exact upper_tail _ _ (.pauseChange number target true) rest (arrived ▸ m.upper)
  · exact upper_append m.peerUpper (fun change member => by simp at member)
  · exact lower_mono m.lower (fun _ => ⟨kept,(ceiling_lower a.episode _).le.trans (min_le_left _ _)⟩) tail
  · exact lower_mono m.peerLower (fun _ => ⟨kept.symm,le_rfl⟩) (placed_append _ rfl _ toB)

theorem observeRelease (m : Margins lead frameA frameB baseA baseB a b toA toB) (number target : Nat)
    (rest : List Message) (arrived : toA = .pauseChange number target false::rest) :
    Margins lead frameA frameB baseA baseB (a.peerReleaseAt number target) b rest (toB ++ [.pauseAck number]) := by
  have tail := placed_tail (.pauseChange number target false) rest baseA
  rw [← arrived] at tail
  have lows : Lower baseA (a.peerReleaseAt number target) b rest (toB ++ [.pauseAck number]) ∧
      Lower baseB b (a.peerReleaseAt number target) (toB ++ [.pauseAck number]) rest := by
    rcases m.sync.observeRelease_aligned number target rest arrived with ⟨kept,same⟩ | ⟨quietA,quietB,_⟩
    · exact ⟨lower_mono m.lower (fun _ => ⟨kept,by rw [same]⟩) tail,
        lower_mono m.peerLower (fun _ => ⟨kept.symm,le_rfl⟩) (placed_append _ rfl _ toB)⟩
    · exact ⟨lower_empty quietA,lower_empty quietB⟩
  refine ⟨m.sync.observeRelease number target rest arrived,?_,m.peerReach,?_,?_,lows.1,lows.2⟩
  · intro barrier held
    exact m.reach barrier (finishEpisode_held {a with peer := ⟨some target,false⟩, peerRequest := number} barrier held)
  · exact upper_tail _ _ (.pauseChange number target false) rest (arrived ▸ m.upper)
  · exact upper_append m.peerUpper (fun change member => by simp at member)

theorem sendInput (m : Margins lead frameA frameB baseA baseB a b toA toB) (player : Player) (frame : Nat)
    (buttons : UInt16) : Margins lead frameA frameB baseA baseB a b toA (toB ++ [.input player frame buttons]) where
  sync := m.sync.appendNoise rfl rfl
  reach := m.reach
  peerReach := m.peerReach
  upper := m.upper
  peerUpper := upper_append m.peerUpper (fun change member => by simp [changes] at member)
  lower := lower_mono m.lower (fun aligned => ⟨aligned.appendNoise rfl,le_rfl⟩) (placed_same _ _)
  peerLower := lower_mono m.peerLower (fun aligned => ⟨(aligned.symm.appendNoise rfl).symm,le_rfl⟩)
    (placed_append _ rfl _ toB)

theorem takeInput (player : Player) (frame : Nat) (buttons : UInt16) (rest : List Message)
    (m : Margins lead frameA frameB baseA baseB a b (.input player frame buttons::rest) toB) :
    Margins lead frameA frameB (baseA + 1) baseB a b rest toB where
  sync := m.sync.dropNoise rfl rfl
  reach := m.reach
  peerReach := m.peerReach
  upper := upper_tail _ _ _ rest m.upper
  peerUpper := m.peerUpper
  lower := by
    refine lower_mono m.lower (fun aligned => ⟨aligned.dropNoise rfl,le_rfl⟩) ?_
    intro before number target after split
    refine ⟨.input player frame buttons::before,after,by rw [split]; rfl,?_⟩
    simp only [Duo.inputs,filterMap_cons,length_cons]
    omega
  peerLower := lower_mono m.peerLower (fun aligned => ⟨(aligned.symm.dropNoise rfl).symm,le_rfl⟩) (placed_same _ _)

theorem wish (m : Margins lead frameA frameB baseA baseB a b toA toB) (paused : Bool) :
    Margins lead frameA frameB baseA baseB {a with desired := paused} b toA toB where
  sync := m.sync.congr {a with desired := paused} rfl rfl rfl rfl rfl rfl
  reach := m.reach
  peerReach := m.peerReach
  upper := m.upper
  peerUpper := m.peerUpper
  lower := lower_mono m.lower (fun aligned => ⟨⟨aligned.agree,aligned.late,aligned.peerLate⟩,le_rfl⟩) (placed_same _ _)
  peerLower := lower_mono m.peerLower (fun aligned => ⟨⟨aligned.agree,aligned.late,aligned.peerLate⟩,le_rfl⟩)
    (placed_same _ _)

theorem reconcile (m : Margins lead frameA frameB baseA baseB a b toA toB) (leads : a.lead = lead)
    (drift : frameA + lead ≤ frameB + 2 * lead)
    (ahead : baseB + (Duo.inputs toB).length + predictionWindow ≤ frameA + lead)
    (next : PauseControl) (change : Option Message) (ok : a.reconcile frameA = .ok (next,change)) :
    Margins lead frameA frameB baseA baseB next b toA (toB ++ change.toList) := by
  rcases a.reconcile_ok frameA next change ok with
    ⟨rfl,rfl,_⟩ | ⟨_,released,acked,_,_,rfl,rfl⟩ | ⟨_,voted,_,target,held,rfl,rfl⟩
  · rw [Option.toList_none,append_nil]
    exact m
  · exact m.pause released acked leads drift ahead
  · exact m.release voted target held

end Margins

theorem reconcile_lead (a : PauseControl) (frame : Nat) (next : PauseControl) (change : Option Message)
    (ok : a.reconcile frame = .ok (next,change)) : next.lead = a.lead ∧ Duo.inputs change.toList = [] := by
  rcases a.reconcile_ok frame next change ok with ⟨rfl,rfl,_⟩ | ⟨_,_,_,_,_,rfl,rfl⟩ | ⟨_,_,_,target,_,rfl,rfl⟩
  · exact ⟨rfl,rfl⟩
  · exact ⟨rfl,rfl⟩
  · exact ⟨by simp [releaseAt],rfl⟩

namespace Duo

@[simp] theorem inputs_append (left right : List Message) : inputs (left ++ right) = inputs left ++ inputs right :=
  filterMap_append

/-- The invariant of two peers: the link is sound, the inputs in a queue are the undelivered rest of the log, and the
pause protocol keeps its margins. -/
structure Sound (delay : InputDelay) (d : Duo) : Prop where
  linked : d.link.Sound delay
  flight : ∀ player, inputs (d.queue.get player) = (d.sent.get (other player)).drop (d.delivered.get player)
  margins : ∀ player, Margins delay.pauseLead (d.timelines.get player).frame (d.timelines.get (other player)).frame
    (delay.frames + d.delivered.get player) (delay.frames + d.delivered.get (other player))
    (d.controls.get player) (d.controls.get (other player)) (d.queue.get player) (d.queue.get (other player))
  lead : ∀ player, (d.controls.get player).lead = delay.pauseLead

section
variable {delay : InputDelay} {d : Duo}

theorem Sound.drift (s : Sound delay d) (delayed : 1 ≤ delay.frames) (player : Player) :
    (d.timelines.get player).frame + delay.pauseLead ≤ (d.timelines.get (other player)).frame + 2 * delay.pauseLead := by
  have drift := s.linked.drift player
  simp only [link] at drift
  simp only [InputDelay.pauseLead,predictionWindow]
  omega

theorem Sound.ahead (s : Sound delay d) (delayed : 1 ≤ delay.frames) (player : Player) :
    delay.frames + d.delivered.get (other player) + (inputs (d.queue.get (other player))).length + predictionWindow ≤
      (d.timelines.get player).frame + delay.pauseLead := by
  obtain ⟨_,linked⟩ := s.linked.linked player
  have near := linked.near
  have delivered := s.linked.delivered (other player)
  rw [other_other] at delivered
  simp only [link] at near delivered
  rw [s.flight,other_other,length_drop]
  simp only [InputDelay.pauseLead,predictionWindow]
  omega

theorem Sound.frame_le (s : Sound delay d) (player : Player) :
    (d.timelines.get player).frame ≤ delay.frames + d.delivered.get player + predictionWindow := by
  obtain ⟨_,linked⟩ := s.linked.linked player
  have depth := linked.consistent.depth
  have confirmed := linked.confirmed_le
  rw [s.linked.received_length] at confirmed
  simp only [link] at depth confirmed
  omega

theorem sound_of_player (player : Player) (linked : d.link.Sound delay)
    (flight : ∀ player, inputs (d.queue.get player) = (d.sent.get (other player)).drop (d.delivered.get player))
    (margins : Margins delay.pauseLead (d.timelines.get player).frame (d.timelines.get (other player)).frame
      (delay.frames + d.delivered.get player) (delay.frames + d.delivered.get (other player))
      (d.controls.get player) (d.controls.get (other player)) (d.queue.get player) (d.queue.get (other player)))
    (lead : ∀ player, (d.controls.get player).lead = delay.pauseLead) : Sound delay d := by
  refine ⟨linked,flight,fun reader => ?_,lead⟩
  rcases eq_or_other player reader with rfl | rfl
  · exact margins
  · rw [other_other]
    exact margins.symm

theorem sound_initial (delay : InputDelay) : Sound delay (initial delay) where
  linked := Link.sound_initial delay
  flight := by
    intro player
    cases player <;> rfl
  margins := by
    intro player
    have sync := (Exchange.sound_initial (.both delay)).sync .one
    have idle : Reach delay.pauseLead 0 (.withDelay delay) := fun _ held => by simp [withDelay] at held
    have none : Upper delay.pauseLead 0 [] := fun _ member => by simp at member
    have bare (base : Nat) : Lower base (.withDelay delay) (.withDelay delay) [] [] := Margins.lower_empty rfl
    cases player
    · exact ⟨sync,idle,idle,none,none,bare _,bare _⟩
    · exact ⟨sync,idle,idle,none,none,bare _,bare _⟩
  lead := by
    intro player
    cases player <;> rfl

theorem Sound.reply (s : Sound delay d) (player : Player) (control : PauseControl) (rest : List Message)
    (answer : Option Message) (lead : control.lead = delay.pauseLead)
    (kept : inputs rest = inputs (d.queue.get player)) (silent : inputs answer.toList = [])
    (margins : Margins delay.pauseLead (d.timelines.get player).frame (d.timelines.get (other player)).frame
      (delay.frames + d.delivered.get player) (delay.frames + d.delivered.get (other player))
      control (d.controls.get (other player)) rest (d.queue.get (other player) ++ answer.toList)) :
    Sound delay (d.reply player control rest answer) := by
  refine sound_of_player player s.linked (fun reader => ?_) ?_ (fun reader => ?_)
  · rcases eq_or_other player reader with rfl | rfl
    · simpa [Duo.reply,Ports.get_set,other_ne,(other_ne reader).symm,kept] using s.flight reader
    · simpa [Duo.reply,Ports.get_set,silent] using s.flight (other player)
  · simpa [Duo.reply,Ports.get_set,other_ne,(other_ne player).symm] using margins
  · rcases eq_or_other player reader with rfl | rfl
    · simpa [Duo.reply,Ports.get_set] using lead
    · simpa [Duo.reply,Ports.get_set,other_ne] using s.lead (other player)

theorem Sound.settle (s : Sound delay d) (player : Player) (after : Duo) (ok : d.settle player = .ok after) :
    Sound delay after := by
  obtain ⟨t,corrected,ok⟩ := bind_ok.mp ok
  obtain rfl := Except.ok.inj ok
  obtain ⟨_,linked⟩ := s.linked.linked player
  obtain ⟨frame,_⟩ := linked.settle t corrected
  refine sound_of_player player (s.linked.settle player t corrected) s.flight ?_ s.lead
  have margins := s.margins player
  simp only [link] at frame
  simpa [Ports.get_set,other_ne,frame] using margins

theorem announce_fields (d : Duo) (player : Player) (sample : Nat × UInt16) :
    (d.announce player sample).link = {d.link with sent := d.sent.set player (post (d.sent.get player) sample)} ∧
    (d.announce player sample).controls = d.controls ∧
    ((d.announce player sample).queue = d.queue ∧ post (d.sent.get player) sample = d.sent.get player ∨
      (d.announce player sample).queue = d.queue.set (other player)
        (d.queue.get (other player) ++ [.input player sample.1 sample.2]) ∧
      post (d.sent.get player) sample = d.sent.get player ++ [sample]) := by
  unfold announce post
  split
  · exact ⟨by simp [link],rfl,Or.inl ⟨rfl,rfl⟩⟩
  · exact ⟨rfl,rfl,Or.inr ⟨rfl,rfl⟩⟩

theorem Sound.turn_margins (s : Sound delay d) (player : Player) (buttons : UInt16) (sample : Nat × UInt16) (t : Timeline)
    (ok : (d.timelines.get player).tick buttons = .ok (sample,t))
    (below : ∀ barrier, (d.controls.get player).episode = some barrier → (d.timelines.get player).frame < barrier) :
    Margins delay.pauseLead t.frame (d.timelines.get (other player)).frame
      (delay.frames + d.delivered.get player) (delay.frames + d.delivered.get (other player))
      (d.controls.get player) (d.controls.get (other player)) (d.queue.get player) (d.queue.get (other player)) := by
  obtain ⟨_,linked⟩ := s.linked.linked player
  obtain ⟨_,_,_,_,low,high,_⟩ := linked.consistent.tick buttons sample t ok
  simp only [link] at low high
  have margins := s.margins player
  rcases Nat.eq_or_lt_of_le low with same | moved
  · rwa [same] at margins
  · rw [show t.frame = (d.timelines.get player).frame + 1 by omega]
    exact margins.advance below

theorem Sound.turn (s : Sound delay d) (player : Player) (buttons : UInt16) (sample : Nat × UInt16) (t : Timeline)
    (ok : (d.timelines.get player).tick buttons = .ok (sample,t))
    (below : ∀ barrier, (d.controls.get player).episode = some barrier → (d.timelines.get player).frame < barrier) :
    Sound delay ({d with timelines := d.timelines.set player t}.announce player sample) := by
  obtain ⟨links,controls,queues⟩ := announce_fields {d with timelines := d.timelines.set player t} player sample
  have linked := s.linked.tick player buttons sample t ok
  have margins := s.turn_margins player buttons sample t ok below
  have given := s.linked.delivered (other player)
  generalize {d with timelines := d.timelines.set player t}.announce player sample = after at links controls queues ⊢
  obtain ⟨timelines,_,queue,sent,delivered⟩ := after
  obtain ⟨rfl,rfl,rfl⟩ := Link.mk.inj links
  obtain rfl := controls
  rw [other_other] at given
  refine sound_of_player player linked (fun reader => ?_) ?_ s.lead
  · rcases eq_or_other player reader with rfl | rfl
    · rcases queues with ⟨rfl,same⟩ | ⟨rfl,same⟩
      · simpa [Ports.get_set,link,(other_ne reader).symm,other_ne] using s.flight reader
      · simpa [Ports.get_set,link,(other_ne reader).symm,other_ne] using s.flight reader
    · have flight := s.flight (other player)
      rw [other_other] at flight
      rcases queues with ⟨rfl,same⟩ | ⟨rfl,same⟩
      · simpa [Ports.get_set,link,other_other,same] using flight
      · simp only [link] at given
        simp only [Ports.get_set_self,link,other_other,same,inputs_append,flight,drop_append_of_le_length given]
        rfl
  · rcases queues with ⟨rfl,_⟩ | ⟨rfl,_⟩
    · simpa [Ports.get_set,link,other_ne] using margins
    · simpa [Ports.get_set,link,other_ne,(other_ne player).symm] using margins.sendInput player sample.1 sample.2

theorem Sound.step (s : Sound delay d) (player : Player) (buttons : UInt16) (after : Duo)
    (ok : d.step player buttons = .ok after) : Sound delay after := by
  unfold Duo.step at ok
  split at ok
  · exact s.settle player after ok
  · rename_i open_
    obtain ⟨⟨sample,t⟩,ticked,ok⟩ := bind_ok.mp ok
    obtain rfl := Except.ok.inj ok
    apply s.turn player buttons sample t ticked
    intro barrier held
    simpa [held,PauseControl.barrier] using open_

theorem Sound.request (s : Sound delay d) (delayed : 1 ≤ delay.frames) (player : Player) (paused : Bool) (after : Duo)
    (ok : d.request player paused = .ok after) : Sound delay after := by
  obtain ⟨⟨control,change⟩,reconciled,ok⟩ := bind_ok.mp ok
  obtain rfl := Except.ok.inj ok
  obtain ⟨lead,silent⟩ := reconcile_lead _ _ control change reconciled
  apply s.reply player control _ change (lead.trans (s.lead player)) rfl silent
  exact ((s.margins player).wish paused).reconcile (s.lead player) (s.drift delayed player) (s.ahead delayed player)
    control change reconciled

theorem Sound.pause_ahead (s : Sound delay d) (player : Player) (number target : Nat) (rest : List Message)
    (arrived : d.queue.get player = .pauseChange number target true::rest) : (d.timelines.get player).frame ≤ target := by
  have margins := s.margins player
  have bound := s.frame_le player
  rcases margins.lower [] number target rest arrived with ahead | ⟨_,joined⟩
  · simp only [inputs,filterMap_nil,length_nil] at ahead
    omega
  · cases episode : (d.controls.get player).episode with
    | none =>
      rw [episode] at joined
      simp [ceiling] at joined
    | some barrier =>
      rw [episode] at joined
      exact (margins.reach barrier episode).1.trans (by simpa [ceiling] using joined)

theorem Sound.deliver_input (s : Sound delay d) (player sender : Player) (frame : Nat) (buttons : UInt16)
    (rest : List Message) (arrived : d.queue.get player = .input sender frame buttons::rest) (value : Bool) (t : Timeline)
    (ok : (d.timelines.get player).receiveRemote frame buttons = (.ok value,t)) :
    Sound delay {d with
      timelines := d.timelines.set player t
      queue := d.queue.set player rest
      delivered := d.delivered.set player (d.delivered.get player + 1)} := by
  have flight := s.flight player
  rw [arrived] at flight
  change (frame,buttons)::inputs rest = _ at flight
  have next : (d.sent.get (other player))[d.delivered.get player]? = some (frame,buttons) := by
    have head := congrArg List.head? flight
    rw [List.head?_drop] at head
    exact head.symm
  have left : inputs rest = (d.sent.get (other player)).drop (d.delivered.get player + 1) := by
    have tail := congrArg List.tail flight
    rwa [tail_drop] at tail
  have same : t.frame = (d.timelines.get player).frame := by
    obtain ⟨_,linked⟩ := s.linked.linked player
    have fits := (Timeline.receiveRemote_inside value (congrArg Prod.fst ok)).1
    rw [show (d.timelines.get player).inputDelay = delay from linked.lag] at fits
    obtain ⟨_,taken,frames,_⟩ := s.linked.receive_next player (frame,buttons) next fits
    obtain ⟨_,rfl⟩ := Prod.mk.inj (ok.symm.trans taken)
    exact frames
  refine sound_of_player player (s.linked.deliver player (frame,buttons) value t next ok) (fun reader => ?_) ?_ s.lead
  · rcases eq_or_other player reader with rfl | rfl
    · simpa [Ports.get_set] using left
    · simpa [Ports.get_set,other_ne] using s.flight (other player)
  · have margins := s.margins player
    rw [arrived] at margins
    simpa [Ports.get_set,other_ne,same,add_assoc] using margins.takeInput sender frame buttons rest

theorem Sound.deliver (s : Sound delay d) (delayed : 1 ≤ delay.frames) (player : Player) (after : Duo)
    (ok : d.deliver player = .ok after) : Sound delay after := by
  unfold Duo.deliver at ok
  have margins := s.margins player
  split at ok
  · rename_i sender frame buttons rest arrived
    obtain ⟨⟨value,t⟩,received,ok⟩ := bind_ok.mp ok
    obtain rfl := Except.ok.inj ok
    exact s.deliver_input player sender frame buttons rest arrived value t (attempt_ok.mp received)
  · rename_i number target paused rest arrived
    obtain ⟨⟨control,ack⟩,observed,ok⟩ := bind_ok.mp ok
    obtain rfl := Except.ok.inj ok
    obtain ⟨rfl,_,kind⟩ := observe_ok _ _ number target paused control ack observed
    have next := (margins.sync.back.takeChange number target paused rest arrived).1
    have kept : inputs rest = inputs (d.queue.get player) := by rw [arrived]; rfl
    rcases kind with ⟨same,_⟩ | ⟨_,rfl,_,ahead,_,rfl⟩ | ⟨_,rfl,_,_,rfl⟩
    · omega
    · exact s.reply player _ rest _ (s.lead player) kept rfl (margins.observePause number target rest arrived ahead)
    · refine s.reply player _ rest _ ?_ kept rfl (margins.observeRelease number target rest arrived)
      simpa [peerReleaseAt] using s.lead player
  · rename_i number rest arrived
    obtain ⟨⟨control,change⟩,acknowledged,ok⟩ := bind_ok.mp ok
    obtain rfl := Except.ok.inj ok
    obtain ⟨_,_,reconciled⟩ := acknowledge_ok _ _ number control change acknowledged
    have next := (margins.sync.out.takeAck number rest arrived).1
    rw [max_eq_right (by omega)] at reconciled
    obtain ⟨lead,silent⟩ := reconcile_lead _ _ control change reconciled
    have kept : inputs rest = inputs (d.queue.get player) := by rw [arrived]; rfl
    rw [finishEpisode_lead] at lead
    refine s.reply player control rest change (lead.trans (s.lead player)) kept silent ?_
    apply (margins.ack number rest arrived).reconcile _ (s.drift delayed player) (s.ahead delayed player) control change reconciled
    rw [finishEpisode_lead]
    exact s.lead player
  · obtain rfl := Except.ok.inj ok
    exact s

theorem Sound.perform (s : Sound delay d) (delayed : 1 ≤ delay.frames) (action : Action) (after : Duo)
    (ok : d.perform action = .ok after) : Sound delay after := by
  cases action with
  | step player buttons => exact s.step player buttons after ok
  | settle player => exact s.settle player after ok
  | deliver player => exact s.deliver delayed player after ok
  | request player paused => exact s.request delayed player paused after ok

theorem Sound.run (s : Sound delay d) (delayed : 1 ≤ delay.frames) (actions : List Action) (after : Duo)
    (ok : d.run actions = .ok after) : Sound delay after := by
  induction actions generalizing d with
  | nil =>
    obtain rfl := Except.ok.inj ok
    exact s
  | cons action rest ih =>
    obtain ⟨middle,performed,ok⟩ := bind_ok.mp ok
    exact ih (s.perform delayed action middle performed) ok

theorem Sound.accepts (s : Sound delay d) (roomy : d.Roomy) (player : Player) : d.Accepts player := by
  have margins := s.margins player
  obtain ⟨window,room⟩ := roomy player
  refine ⟨fun number target paused rest arrived => ?_,fun number rest arrived => ?_⟩
  · obtain ⟨next,known,_⟩ := margins.sync.back.takeChange number target paused rest arrived
    have chain := margins.sync.back.chain
    rw [arrived,changes_change] at chain
    have counted := (roomy (other player)).2
    refine observe_returns _ _ number target paused next (by omega) ?_ ?_
    · rintro rfl
      have high := margins.upper ⟨number,target,true⟩ (by simp [arrived]) rfl
      rw [← s.lead player] at high
      exact ⟨chain.1,s.pause_ahead player number target rest arrived,high,window⟩
    · rintro rfl
      exact chain.1
  · obtain ⟨next,seen,_⟩ := margins.sync.out.takeAck number rest arrived
    have observed := margins.sync.out.observed
    unfold acknowledge
    rw [ensure_pos (by omega),ok_bind]
    apply reconcile_returns
    · rw [finishEpisode_lead]
      dsimp only
      omega
    · rw [finishEpisode_localRequest]
      exact room
    · rw [finishEpisode_mine]
      exact margins.sync.settled.held

end

-- One peer runs to the end of its window, the other far past it; the target is then behind.
def latePause : List Action :=
  List.replicate 9 (.step .one 0) ++ List.replicate 9 (.deliver .two) ++ List.replicate 17 (.step .two 0) ++
    [.request .one true]

theorem latePause_run : ∃ d, (initial ⟨0,by decide⟩).run latePause = .ok d ∧ d.Roomy ∧ ¬ d.Accepts .two := by
  refine ⟨_,rfl,?_,?_⟩
  · intro player
    cases player <;> decide
  · rintro ⟨observed,_⟩
    obtain ⟨next,ack,ok⟩ := observed 1 16 true [] rfl
    contradiction

/-- Pause messages between honest peers are taken in every reachable state exactly when inputs are delayed. -/
theorem accepts_iff_delayed (delay : InputDelay) :
    (∀ actions d, (initial delay).run actions = .ok d → d.Roomy → ∀ player, d.Accepts player) ↔ 1 ≤ delay.frames := by
  refine ⟨fun always => ?_,fun delayed actions d ok roomy player => ?_⟩
  · by_contra zero
    obtain rfl : delay = ⟨0,by decide⟩ := by
      obtain ⟨frames,_⟩ := delay
      simpa using zero
    obtain ⟨d,ok,roomy,refused⟩ := latePause_run
    exact refused (always latePause d ok roomy .two)
  · exact ((sound_initial delay).run delayed actions d ok).accepts roomy player

/-- Without an input delay a pause request is refused. -/
theorem undelayed_pause_refused : ∃ d, (initial ⟨0,by decide⟩).run latePause = .ok d ∧
    d.queue.two = [.pauseChange 1 16 true] ∧
    d.controls.two.observe d.timelines.two.frame 1 16 true = .error "peer pause target exceeds window" :=
  ⟨_,rfl,rfl,rfl⟩

end Duo
end ZeffBoy.Netplay
