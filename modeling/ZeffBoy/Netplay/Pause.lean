import ZeffBoy.Wire.Message

/-! The pause barrier of one peer.
A vote is a wish to stop at a target frame. The episode is the barrier that both
votes of one pause agree on; it ends when neither side votes and every local
change is acknowledged. A failed call ends the session, so it leaves no state. -/
namespace ZeffBoy.Netplay
open Library Wire

structure Vote where
  target : Option Nat
  paused : Bool
deriving DecidableEq, Repr

structure PauseControl where
  lead : Nat
  mine : Vote
  peer : Vote
  episode : Option Nat
  reported : Option (Bool × Bool)
  localRequest : Nat
  localAcked : Nat
  peerRequest : Nat
  desired : Bool
deriving DecidableEq, Repr

namespace PauseControl

def withDelay (delay : InputDelay) : PauseControl where
  lead := delay.pauseLead
  mine := ⟨none,false⟩
  peer := ⟨none,false⟩
  episode := none
  reported := none
  localRequest := 0
  localAcked := 0
  peerRequest := 0
  desired := false

def barrier (p : PauseControl) : Option Nat := p.episode

def finishEpisode (p : PauseControl) : PauseControl :=
  if !p.mine.paused && !p.peer.paused && p.localAcked = p.localRequest then {p with episode := none} else p

def updateEpisode (p : PauseControl) (target : Nat) (paused : Bool) : PauseControl :=
  if paused then {p with episode := some ((p.episode.map (min · target)).getD target)} else p.finishEpisode

/-- The frame a new vote stops at: the running barrier when it is not yet passed, else a fresh lead. -/
def requestTarget (p : PauseControl) (current : Nat) : Except String Nat := do
  let fresh ← checkedAdd current p.lead "pause frame overflow"
  return (p.barrier.filter (current ≤ ·)).getD fresh

def reconcile (p : PauseControl) (current : Nat) : Except String (PauseControl × Option Message) :=
  let paused := p.desired
  if p.mine.paused = paused ∨ (paused ∧ p.localAcked ≠ p.localRequest) then return (p,none)
  else do
    let target ← if paused then p.requestTarget current else context p.mine.target "missing local pause target"
    let request ← checkedAdd p.localRequest 1 "pause request ID exhausted"
    let p := {p with mine := ⟨some target,paused⟩, localRequest := request}
    return (p.updateEpisode target paused,some (.pauseChange request target paused))

def request (p : PauseControl) (current : Nat) (paused : Bool) : Except String (PauseControl × Option Message) :=
  reconcile {p with desired := paused} current

def observe (p : PauseControl) (current request target : Nat) (paused : Bool) :
    Except String (PauseControl × Message) := do
  ensure (request ≠ 0) "invalid peer pause request ID"
  if p.peerRequest = request then
    ensure (p.peer.target = some target ∧ p.peer.paused = paused) "peer rewrote a pause request"
    return (p,.pauseAck request)
  let next ← checkedAdd p.peerRequest 1 "peer pause request ID exhausted"
  ensure (request = next) "out-of-order peer pause request"
  ensure (p.peer.paused ≠ paused) "peer pause request did not change state"
  if paused then
    ensure (!p.peer.paused) "peer changed an active pause target"
    ensure (current ≤ target) "peer pause target exceeds window"
    let upper ← checkedAdd current (2 * p.lead) "pause frame overflow"
    ensure (target ≤ upper) "peer pause target exceeds window"
  else
    ensure (p.peer.target = some target) "peer released a different pause target"
  let p := {p with peer := ⟨some target,paused⟩, peerRequest := request}
  return (p.updateEpisode target paused,.pauseAck request)

def acknowledge (p : PauseControl) (current request : Nat) : Except String (PauseControl × Option Message) := do
  ensure (request ≠ 0 ∧ request ≤ p.localRequest) "unknown pause acknowledgment"
  reconcile {p with localAcked := max p.localAcked request}.finishEpisode current

/-- What is to be reported of the pause, with the memory of the last report. -/
def status (p : PauseControl) (frame confirmed : Nat) : PauseControl × Option (Bool × Bool) :=
  let flags := (p.mine.paused,p.peer.paused)
  let report :=
    if p.reported = some flags then (p,none)
    else ({p with reported := if flags = (false,false) then none else some flags},some flags)
  match p.barrier with
  | some barrier =>
    if frame < barrier then ({p with reported := none},p.reported.map (fun _ => (false,false)))
    else if confirmed < barrier then (p,none)
    else if flags = (false,false) then (p,none)
    else report
  | none => if p.reported = none then (p,none) else report

-- A new pause vote and a released one, as the rest of the development reads them.
def pauseAt (p : PauseControl) (target : Nat) : PauseControl :=
  {p with
    mine := ⟨some target,true⟩
    localRequest := p.localRequest + 1
    episode := some ((p.episode.map (min · target)).getD target)}

def releaseAt (p : PauseControl) (target : Nat) : PauseControl :=
  finishEpisode {p with mine := ⟨some target,false⟩, localRequest := p.localRequest + 1}

def joinTarget (p : PauseControl) (current : Nat) : Nat := (p.episode.filter (current ≤ ·)).getD (current + p.lead)

theorem reconcile_ok (p : PauseControl) (current : Nat) (next : PauseControl) (change : Option Message)
    (ok : p.reconcile current = .ok (next,change)) :
    (next = p ∧ change = none ∧ (p.mine.paused = p.desired ∨ p.desired ∧ p.localAcked ≠ p.localRequest)) ∨
    (p.desired ∧ p.mine.paused = false ∧ p.localAcked = p.localRequest ∧ current + p.lead < 2^64 ∧
      p.localRequest + 1 < 2^64 ∧ next = p.pauseAt (p.joinTarget current) ∧
      change = some (.pauseChange (p.localRequest + 1) (p.joinTarget current) true)) ∨
    (p.desired = false ∧ p.mine.paused ∧ p.localRequest + 1 < 2^64 ∧ ∃ target, p.mine.target = some target ∧
      next = p.releaseAt target ∧ change = some (.pauseChange (p.localRequest + 1) target false)) := by
  unfold reconcile at ok
  dsimp only at ok
  split at ok
  · rename_i idle
    obtain ⟨rfl,rfl⟩ := Prod.mk.inj (Except.ok.inj ok)
    exact Or.inl ⟨rfl,rfl,by simpa using idle⟩
  · rename_i busy
    rw [not_or] at busy
    refine Or.inr ?_
    cases desired : p.desired with
    | true =>
      simp only [desired,if_true] at ok busy
      obtain ⟨target,found,ok⟩ := bind_ok.mp ok
      obtain ⟨fresh,sum,found⟩ := bind_ok.mp found
      obtain ⟨fits,rfl⟩ := checkedAdd_ok.mp sum
      obtain rfl := Except.ok.inj found
      obtain ⟨request,counted,ok⟩ := bind_ok.mp ok
      obtain ⟨room,rfl⟩ := checkedAdd_ok.mp counted
      obtain ⟨rfl,rfl⟩ := Prod.mk.inj (Except.ok.inj ok)
      exact Or.inl ⟨rfl,by simpa using busy.1,by simpa using busy.2,fits,room,
        by simp [updateEpisode,pauseAt,joinTarget,barrier,desired],rfl⟩
    | false =>
      simp only [desired,Bool.false_eq_true,if_false] at ok busy
      obtain ⟨target,found,ok⟩ := bind_ok.mp ok
      obtain ⟨request,counted,ok⟩ := bind_ok.mp ok
      obtain ⟨room,rfl⟩ := checkedAdd_ok.mp counted
      obtain ⟨rfl,rfl⟩ := Prod.mk.inj (Except.ok.inj ok)
      exact Or.inr ⟨rfl,by simpa using busy.1,room,target,context_ok.mp found,
        by simp [updateEpisode,releaseAt,desired],rfl⟩

-- A peer vote as it is observed.
def peerPauseAt (p : PauseControl) (request target : Nat) : PauseControl :=
  {p with
    peer := ⟨some target,true⟩
    peerRequest := request
    episode := some ((p.episode.map (min · target)).getD target)}

def peerReleaseAt (p : PauseControl) (request target : Nat) : PauseControl :=
  finishEpisode {p with peer := ⟨some target,false⟩, peerRequest := request}

theorem observe_ok (p : PauseControl) (current request target : Nat) (paused : Bool) (next : PauseControl)
    (ack : Message) (ok : p.observe current request target paused = .ok (next,ack)) :
    ack = .pauseAck request ∧ request ≠ 0 ∧
    ((p.peerRequest = request ∧ next = p) ∨
      (request = p.peerRequest + 1 ∧ paused ∧ p.peer.paused = false ∧ current ≤ target ∧
        target ≤ current + 2 * p.lead ∧ next = p.peerPauseAt request target) ∨
      (request = p.peerRequest + 1 ∧ paused = false ∧ p.peer.paused ∧ p.peer.target = some target ∧
        next = p.peerReleaseAt request target)) := by
  unfold observe at ok
  obtain ⟨_,nonzero,ok⟩ := bind_ok.mp ok
  rw [ensure_ok] at nonzero
  dsimp only at ok
  split at ok
  · rename_i same
    obtain ⟨_,_,ok⟩ := bind_ok.mp ok
    obtain ⟨rfl,rfl⟩ := Prod.mk.inj (Except.ok.inj ok)
    exact ⟨rfl,nonzero,Or.inl ⟨same,rfl⟩⟩
  · obtain ⟨_,sum,ok⟩ := bind_ok.mp ok
    obtain ⟨_,rfl⟩ := checkedAdd_ok.mp sum
    obtain ⟨_,order,ok⟩ := bind_ok.mp ok
    rw [ensure_ok] at order
    obtain ⟨_,changed,ok⟩ := bind_ok.mp ok
    rw [ensure_ok] at changed
    cases paused with
    | true =>
      simp only [if_true] at ok
      obtain ⟨_,_,ok⟩ := bind_ok.mp ok
      obtain ⟨_,low,ok⟩ := bind_ok.mp ok
      rw [ensure_ok] at low
      obtain ⟨_,upper,ok⟩ := bind_ok.mp ok
      obtain ⟨_,rfl⟩ := checkedAdd_ok.mp upper
      obtain ⟨_,high,ok⟩ := bind_ok.mp ok
      rw [ensure_ok] at high
      obtain ⟨rfl,rfl⟩ := Prod.mk.inj (Except.ok.inj ok)
      exact ⟨rfl,nonzero,Or.inr (Or.inl ⟨order,rfl,by simpa using changed,low,high,
        by simp [updateEpisode,peerPauseAt]⟩)⟩
    | false =>
      simp only [Bool.false_eq_true,if_false] at ok
      obtain ⟨_,same,ok⟩ := bind_ok.mp ok
      rw [ensure_ok] at same
      obtain ⟨rfl,rfl⟩ := Prod.mk.inj (Except.ok.inj ok)
      exact ⟨rfl,nonzero,Or.inr (Or.inr ⟨order,rfl,by simpa using changed,same,
        by simp [updateEpisode,peerReleaseAt]⟩)⟩

theorem reconcile_returns (p : PauseControl) (current : Nat) (fits : current + p.lead < 2^64)
    (room : p.localRequest + 1 < 2^64) (held : p.mine.paused → p.mine.target.isSome) :
    ∃ next change, p.reconcile current = .ok (next,change) := by
  unfold reconcile
  dsimp only
  split
  · exact ⟨_,_,rfl⟩
  · rename_i busy
    rw [not_or] at busy
    cases desired : p.desired with
    | true =>
      simp only [if_true,requestTarget,checkedAdd,if_pos fits,if_pos room]
      exact ⟨_,_,rfl⟩
    | false =>
      have voted : p.mine.paused := by simpa [desired] using busy.1
      obtain ⟨target,found⟩ := Option.isSome_iff_exists.mp (held voted)
      simp only [Bool.false_eq_true,if_false,found,context,checkedAdd,if_pos room]
      exact ⟨_,_,rfl⟩

theorem observe_returns (p : PauseControl) (current request target : Nat) (paused : Bool)
    (next : request = p.peerRequest + 1) (room : request < 2^64)
    (pause : paused → p.peer.paused = false ∧ current ≤ target ∧ target ≤ current + 2 * p.lead ∧
      current + 2 * p.lead < 2^64)
    (release : paused = false → p.peer = ⟨some target,true⟩) :
    ∃ after ack, p.observe current request target paused = .ok (after,ack) := by
  subst next
  have fresh : p.peerRequest ≠ p.peerRequest + 1 := by omega
  unfold observe
  rw [ensure_pos (Nat.succ_ne_zero _),ok_bind,if_neg fresh,checkedAdd_pos room,ok_bind,ensure_pos rfl,ok_bind]
  cases paused with
  | true =>
    obtain ⟨released,low,high,fits⟩ := pause rfl
    rw [ensure_pos (by simp [released]),ok_bind,if_pos rfl,ensure_pos (by simp [released]),ok_bind,ensure_pos low,
      ok_bind,checkedAdd_pos fits,ok_bind,ensure_pos high,ok_bind]
    exact ⟨_,_,rfl⟩
  | false =>
    have vote := release rfl
    rw [ensure_pos (by simp [vote]),ok_bind,if_neg (by simp),ensure_pos (by rw [vote]),ok_bind]
    exact ⟨_,_,rfl⟩

theorem acknowledge_ok (p : PauseControl) (current request : Nat) (next : PauseControl) (change : Option Message)
    (ok : p.acknowledge current request = .ok (next,change)) :
    request ≠ 0 ∧ request ≤ p.localRequest ∧
    {p with localAcked := max p.localAcked request}.finishEpisode.reconcile current = .ok (next,change) := by
  unfold acknowledge at ok
  obtain ⟨_,known,ok⟩ := bind_ok.mp ok
  rw [ensure_ok] at known
  exact ⟨known.1,known.2,ok⟩

end PauseControl
end ZeffBoy.Netplay
