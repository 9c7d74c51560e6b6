import ZeffBoy.Library.Transition
import ZeffBoy.Netplay.RollbackArrival

/-! Two peers that exchange their sampled inputs.
Each peer corrects, samples and simulates; its samples reach the other peer in
order, late and possibly more than once. -/
namespace ZeffBoy.Netplay
open Library List

namespace Timeline

def correct (t : Timeline) : Except String Timeline := do
  let plan ← t.correction
  if plan.isEmpty then return t
  let (_,t) ← attempt (t.corrected plan)
  return t

/-- One turn of a peer: correction, local sample, and simulation unless the window is full. -/
def tick (t : Timeline) (buttons : UInt16) : Except String ((Nat × UInt16) × Timeline) := do
  let t ← t.correct
  let (sample,t) ← attempt (t.sampleLocal buttons)
  match ← t.nextFrame with
  | none => return (sample,t)
  | some input => do
    let (_,t) ← attempt (t.advance input)
    return (sample,t)

section Turn
variable {g : Account} {t : Timeline}

theorem Consistent.correct (c : Consistent g t) : ∃ next, t.correct = .ok next ∧ next.dirty = none ∧
    next.frame = t.frame ∧ next.confirmed = t.confirmed ∧ next.player = t.player ∧ next.inputDelay = t.inputDelay ∧
    ∃ floor low, Consistent ⟨g.known,replayed g t,floor,low⟩ next := by
  cases dirty : t.dirty with
  | none =>
    have empty : t.plan = [] := by simp only [plan,dirty]
    have used : replayed g t = g.used := by
      funext f
      simp only [replayed,dirty]
    refine ⟨t,?_,dirty,rfl,rfl,rfl,rfl,g.floor,g.low,used ▸ c⟩
    simp only [Timeline.correct,c.correction,empty]
    rfl
  | some x =>
    have bound := c.dirty x dirty
    have filled : t.plan.isEmpty = false := by
      simp only [plan,dirty,isEmpty_eq_false_iff,ne_eq,map_eq_nil_iff,List.range'_eq_nil_iff]
      omega
    obtain ⟨ok,clean,frame,confirmed,player,delay,kept⟩ := c.corrected
    refine ⟨(t.corrected t.plan).2,?_,clean,frame,confirmed,player,delay,kept⟩
    have done := attempt_ok.mpr (Prod.ext ok rfl)
    simp only [Timeline.correct,c.correction,bind,Except.bind,filled,done,Bool.false_eq_true,if_false]
    rfl

theorem Consistent.correct_cases (c : Consistent g t) (next : Timeline) (ok : t.correct = .ok next) :
    next = t ∨ next = t.apply (.corrected t.plan) := by
  unfold Timeline.correct at ok
  rw [c.correction] at ok
  obtain ⟨_,same,ok⟩ := bind_ok.mp ok
  obtain rfl := Except.ok.inj same
  split at ok
  · exact Or.inl (Except.ok.inj ok).symm
  · obtain ⟨⟨value,after⟩,corrected,ok⟩ := bind_ok.mp ok
    obtain rfl := Except.ok.inj ok
    rw [attempt_ok] at corrected
    exact Or.inr (congrArg Prod.snd corrected).symm

theorem sampleLocal_fits (t : Timeline) (buttons : UInt16) (sample : Nat × UInt16)
    (ok : (t.sampleLocal buttons).1 = .ok sample) : t.frame + t.inputDelay.frames < 2^64 := by
  by_contra full
  have refused : checkedAdd t.frame t.inputDelay.frames "frame overflow" = .error "frame overflow" := if_neg full
  simp [Timeline.sampleLocal,refused] at ok

theorem Consistent.sampleLocal_ok (c : Consistent g t) (buttons : UInt16) (sample : Nat × UInt16)
    (ok : (t.sampleLocal buttons).1 = .ok sample) :
    sample = (t.frame + t.inputDelay.frames,((g.known (t.frame + t.inputDelay.frames)).get t.player).getD buttons) ∧
    Consistent (g.fix sample.1 t.player sample.2) (t.sampleLocal buttons).2 ∧
    Extends t (t.sampleLocal buttons).2 ∧ (t.sampleLocal buttons).2.dirty = t.dirty ∧
    ¬ ((g.fix sample.1 t.player sample.2).known (t.sampleLocal buttons).2.confirmed).complete := by
  obtain ⟨kept,same,dirty,outcome⟩ := c.sampleLocal buttons (sampleLocal_fits t buttons sample ok) _ rfl
  rcases outcome with ⟨done,halted⟩ | ⟨failed,_⟩
  · obtain rfl := Except.ok.inj (done.symm.trans ok)
    exact ⟨rfl,kept,same,dirty,halted⟩
  · rw [failed] at ok
    contradiction

theorem advance_fields (t : Timeline) (input : FrameInput) (ok : (t.advance input).1 = .ok ()) :
    (t.advance input).2.frame = t.frame + 1 ∧ (t.advance input).2.confirmed = t.confirmed ∧
    (t.advance input).2.player = t.player ∧ (t.advance input).2.inputDelay = t.inputDelay ∧
    (t.advance input).2.dirty = none := by
  obtain ⟨clean,_,_,stepped⟩ := advance_ok t input ok
  rw [stepped]
  exact ⟨rfl,rfl,rfl,rfl,clean⟩

theorem advance_next (t : Timeline) (input : FrameInput) (next : t.nextFrame = .ok (some input))
    (fits : t.frame + 1 < 2^64) : (t.advance input).1 = .ok () := by
  simp only [Timeline.advance,next,if_true,checkedAdd,if_pos fits]

theorem Consistent.tick (c : Consistent g t) (buttons : UInt16) (sample : Nat × UInt16) (next : Timeline)
    (ok : t.tick buttons = .ok (sample,next)) :
    sample = (t.frame + t.inputDelay.frames,((g.known (t.frame + t.inputDelay.frames)).get t.player).getD buttons) ∧
    next.player = t.player ∧ next.inputDelay = t.inputDelay ∧ next.dirty = none ∧
    t.frame ≤ next.frame ∧ next.frame ≤ t.frame + 1 ∧
    (t.frame < next.confirmed + predictionWindow → next.frame = t.frame + 1) ∧
    ∃ account, Consistent account next ∧ account.known = (g.fix sample.1 t.player sample.2).known ∧
      ¬ (account.known next.confirmed).complete := by
  obtain ⟨settled,corrected,clean,frame,_,player,delay,floor,low,kept⟩ := c.correct
  rw [Timeline.tick] at ok
  obtain ⟨_,first,ok⟩ := bind_ok.mp ok
  obtain rfl := Except.ok.inj (corrected.symm.trans first)
  obtain ⟨⟨taken,after⟩,sampling,ok⟩ := bind_ok.mp ok
  have call := attempt_ok.mp sampling
  obtain ⟨rfl,sampled,same,dirty,halted⟩ := kept.sampleLocal_ok buttons taken (congrArg Prod.fst call)
  obtain rfl : (settled.sampleLocal buttons).2 = after := congrArg Prod.snd call
  have here := same.frame.trans frame
  rw [frame,delay,player] at sampled halted
  rw [frame,delay,player] at ok
  obtain ⟨choice,offered,ok⟩ := bind_ok.mp ok
  obtain ⟨_,shape⟩ := (nextFrame_ok _ _).mp offered
  cases choice with
  | none =>
    obtain ⟨rfl,rfl⟩ := Prod.mk.inj (Except.ok.inj ok)
    split at shape
    · rename_i full
      refine ⟨rfl,same.player.trans player,same.inputDelay.trans delay,dirty.trans clean,by omega,by omega,
        fun room => ?_,_,sampled,rfl,halted⟩
      simp only [predictionWindow] at full room
      omega
    · contradiction
  | some input =>
    obtain ⟨⟨_,moved⟩,advancing,ok⟩ := bind_ok.mp ok
    obtain ⟨rfl,rfl⟩ := Prod.mk.inj (Except.ok.inj ok)
    have call := attempt_ok.mp advancing
    have done := congrArg Prod.fst call
    obtain ⟨ahead,steady,owner,lag,fresh⟩ := advance_fields _ input done
    obtain ⟨floor',low',advanced⟩ := sampled.advance input done
    obtain rfl : ((settled.sampleLocal buttons).2.advance input).2 = moved := congrArg Prod.snd call
    refine ⟨rfl,owner.trans (same.player.trans player),lag.trans (same.inputDelay.trans delay),fresh,by omega,by omega,
      fun _ => by omega,_,advanced,rfl,?_⟩
    rw [steady]
    exact halted

theorem Consistent.tick_returns (c : Consistent g t) (buttons : UInt16)
    (fits : t.frame + t.inputDelay.frames + 1 < 2^64) : ∃ sample next, t.tick buttons = .ok (sample,next) := by
  obtain ⟨settled,corrected,clean,frame,_,player,delay,floor,low,kept⟩ := c.correct
  obtain ⟨sampled,same,dirty,outcome⟩ := kept.sampleLocal buttons (by rw [frame,delay]; omega) _ rfl
  have here := same.frame.trans frame
  have offered := (nextFrame_ok _ _).mpr ⟨dirty.trans clean,rfl⟩
  rcases outcome with ⟨done,_⟩ | ⟨_,f,full,complete⟩
  · have taken := attempt_ok.mpr (Prod.ext done rfl)
    by_cases wait : predictionWindow ≤ (settled.sampleLocal buttons).2.frame - (settled.sampleLocal buttons).2.confirmed
    · rw [if_pos wait] at offered
      simp only [Timeline.tick,corrected,bind,Except.bind,taken,offered]
      exact ⟨_,_,rfl⟩
    · rw [if_neg wait] at offered
      have moved := advance_next _ _ offered (by rw [here]; omega)
      have stepped := attempt_ok.mpr (Prod.ext moved rfl)
      simp only [Timeline.tick,corrected,bind,Except.bind,taken,offered,stepped]
      exact ⟨_,_,rfl⟩
  · have near := sampled.ahead f ((Ports.complete_iff _).mp complete _)
    rw [same.frame,same.inputDelay,frame,delay] at near
    omega

theorem rooted_of_known (c : Consistent g t) (player : Player) (known : ((g.known 0).get player).isSome) :
    t.Rooted := by
  cases found : t.inputs.get? 0 with
  | some entry => exact Or.inr (Or.inr (by simp [found]))
  | none =>
    rcases c.missing 0 found with empty | retired
    · simp [empty] at known
    · exact Or.inr (Or.inl (lt_of_lt_of_le retired c.floor_le.1))

end Turn
end Timeline

-- The inputs a log fixes: neutral ones below the delay, then one logged value a frame.
def stream (delay : InputDelay) (log : List (Nat × UInt16)) (frame : Nat) : Option UInt16 :=
  if frame < delay.frames then some 0 else (log[frame - delay.frames]?).map Prod.snd

def Numbered (delay : InputDelay) (log : List (Nat × UInt16)) : Prop :=
  ∀ i message, log[i]? = some message → message.1 = delay.frames + i

-- A sample of a frame that was sent before is not sent again.
def post (log : List (Nat × UInt16)) (sample : Nat × UInt16) : List (Nat × UInt16) :=
  if log.getLast?.map Prod.fst = some sample.1 then log else log ++ [sample]

theorem post_prefix (log : List (Nat × UInt16)) (sample : Nat × UInt16) : log <+: post log sample := by
  unfold post
  split
  · exact prefix_refl _
  · exact prefix_append _ _

theorem stream_isSome (delay : InputDelay) (log : List (Nat × UInt16)) (frame : Nat) :
    (stream delay log frame).isSome ↔ frame < delay.frames + log.length := by
  unfold stream
  split
  · simp only [Option.isSome_some,true_iff]
    omega
  · simp only [Option.isSome_map,Option.isSome_iff_ne_none,ne_eq,List.getElem?_eq_none_iff]
    omega

theorem stream_append (delay : InputDelay) (log : List (Nat × UInt16)) (sample : Nat × UInt16) (frame : Nat) :
    stream delay (log ++ [sample]) frame =
      if frame = delay.frames + log.length then some sample.2 else stream delay log frame := by
  unfold stream
  by_cases last : frame = delay.frames + log.length
  · subst last
    simp
  · simp only [last,if_false]
    split
    · rfl
    · by_cases inside : frame - delay.frames < log.length
      · rw [List.getElem?_append_left inside]
      · rw [List.getElem?_eq_none (by simp; omega),List.getElem?_eq_none (by omega)]

theorem stream_message (delay : InputDelay) (log : List (Nat × UInt16)) (numbered : Numbered delay log) (i : Nat)
    (message : Nat × UInt16) (found : log[i]? = some message) : stream delay log message.1 = some message.2 := by
  rw [numbered i message found]
  simp [stream,found]

variable {delay : InputDelay}

theorem Numbered.append {log : List (Nat × UInt16)} (numbered : Numbered delay log)
    (sample : Nat × UInt16) (next : sample.1 = delay.frames + log.length) : Numbered delay (log ++ [sample]) := by
  intro i message found
  rcases Nat.lt_trichotomy i log.length with inside | rfl | outside
  · rw [List.getElem?_append_left inside] at found
    exact numbered i message found
  · simp only [List.getElem?_concat_length,Option.some.injEq] at found
    exact found ▸ next
  · rw [List.getElem?_eq_none (by simp; omega)] at found
    contradiction

theorem Numbered.last {log : List (Nat × UInt16)} (numbered : Numbered delay log)
    (filled : 0 < log.length) : log.getLast?.map Prod.fst = some (delay.frames + (log.length - 1)) := by
  rw [List.getLast?_eq_getElem?]
  cases found : log[log.length - 1]? with
  | none =>
    rw [List.getElem?_eq_none_iff] at found
    omega
  | some message => simp [numbered _ message found]

/-- The log of a peer's own samples: one value a frame, up to the current frame. -/
structure Sampled (delay : InputDelay) (player : Player) (mine : List (Nat × UInt16)) (g : Account)
    (t : Timeline) : Prop where
  sampled : ∀ f, (g.known f).get player = stream delay mine f
  numbered : Numbered delay mine
  current : t.frame ≤ mine.length
  near : mine.length ≤ t.frame + 1

theorem Sampled.initial (delay : InputDelay) (player : Player) :
    Sampled delay player [] (Account.initial delay) (Timeline.withDelay player delay) where
  sampled := by
    intro f
    by_cases primed : f < delay.frames <;> simp [Account.initial,stream,primed]
  numbered := fun i message found => by simp at found
  current := Nat.zero_le _
  near := Nat.zero_le _

theorem Sampled.sample {player : Player} {mine : List (Nat × UInt16)} {g : Account} {t : Timeline}
    (l : Sampled delay player mine g t) (buttons value : UInt16)
    (fixed : value = ((g.known (t.frame + delay.frames)).get player).getD buttons) :
    (post mine (t.frame + delay.frames,value)).length = t.frame + 1 ∧
    Numbered delay (post mine (t.frame + delay.frames,value)) ∧
    ∀ f, ((g.fix (t.frame + delay.frames) player value).known f).get player =
      stream delay (post mine (t.frame + delay.frames,value)) f := by
  have current := l.current
  have near := l.near
  by_cases repeated : mine.length = t.frame + 1
  · have last := l.numbered.last (by omega)
    have again : post mine (t.frame + delay.frames,value) = mine := by
      unfold post
      rw [last,if_pos]
      simp only [Option.some.injEq]
      omega
    have known : stream delay mine (t.frame + delay.frames) = some value := by
      have some := (stream_isSome delay mine (t.frame + delay.frames)).mpr (by omega)
      obtain ⟨old,found⟩ := Option.isSome_iff_exists.mp some
      rw [l.sampled,found,Option.getD_some] at fixed
      rw [found,fixed]
    rw [again]
    refine ⟨repeated,l.numbered,fun f => ?_⟩
    rw [Timeline.fix_known]
    split
    · rename_i same
      rw [same.1,known]
    · exact l.sampled f
  · have length : mine.length = t.frame := by omega
    have fresh : post mine (t.frame + delay.frames,value) = mine ++ [(t.frame + delay.frames,value)] := by
      unfold post
      apply if_neg
      cases log : mine with
      | nil => simp
      | cons head tail =>
        have filled : 0 < mine.length := by simp [log]
        rw [← log,l.numbered.last filled,Option.some.injEq]
        omega
    rw [fresh]
    refine ⟨by simp [length],l.numbered.append _ (by simp only; omega),fun f => ?_⟩
    rw [Timeline.fix_known,stream_append,length,add_comm delay.frames]
    simp only [and_true]
    split
    · rfl
    · exact l.sampled f

theorem Sampled.post_buttons {player : Player} {mine : List (Nat × UInt16)} {g : Account} {t : Timeline}
    (l : Sampled delay player mine g t) (buttons value : UInt16)
    (fixed : value = ((g.known (t.frame + delay.frames)).get player).getD buttons) :
    post mine (t.frame + delay.frames,value) = post mine (t.frame + delay.frames,buttons) := by
  have current := l.current
  have near := l.near
  by_cases repeated : mine.length = t.frame + 1
  · have last := l.numbered.last (by omega)
    have again : some (delay.frames + (mine.length - 1)) = some (t.frame + delay.frames) := by
      rw [Option.some.injEq]
      omega
    simp only [post,last,again,if_true]
  · have fresh : stream delay mine (t.frame + delay.frames) = none := by
      rw [← Option.not_isSome_iff_eq_none,stream_isSome]
      omega
    rw [l.sampled,fresh,Option.getD_none] at fixed
    rw [fixed]

/-- One peer with the samples it has sent and the samples of the other peer it has been given. -/
structure Linked (delay : InputDelay) (player : Player) (mine theirs : List (Nat × UInt16)) (g : Account)
    (t : Timeline) : Prop extends Sampled delay player mine g t where
  consistent : t.Consistent g
  rooted : t.Rooted
  owner : t.player = player
  lag : t.inputDelay = delay
  settled : ¬ (g.known t.confirmed).complete
  received : ∀ f, (g.known f).get (other player) = stream delay theirs f

namespace Linked
variable {player : Player} {mine theirs : List (Nat × UInt16)} {g : Account} {t : Timeline}

theorem initial (delay : InputDelay) (player : Player) :
    Linked delay player [] [] (Account.initial delay) (Timeline.withDelay player delay) where
  toSampled := Sampled.initial delay player
  consistent := Timeline.consistent_withDelay player delay
  rooted := by
    by_cases zero : delay.frames = 0
    · exact Or.inl (by simp [Timeline.withDelay,OrderedMap.ofRange,zero])
    · exact Or.inr (Or.inl (pos_of_ne_zero zero))
  owner := rfl
  lag := rfl
  settled := by simp [Account.initial,Timeline.withDelay,Ports.complete,Ports.both]
  received := by
    intro f
    by_cases primed : f < delay.frames <;> simp [Account.initial,stream,primed]

theorem confirmed_le (l : Linked delay player mine theirs g t) :
    t.confirmed ≤ delay.frames + theirs.length := by
  apply l.consistent.confirmed_le (delay.frames + theirs.length) (other player)
  rw [l.received,← Option.not_isSome_iff_eq_none,stream_isSome]
  omega

theorem le_confirmed (l : Linked delay player mine theirs g t) :
    delay.frames + min mine.length theirs.length ≤ t.confirmed := by
  by_contra below
  apply l.settled
  rw [Ports.complete_iff]
  intro reader
  rcases eq_or_other player reader with rfl | rfl
  · rw [l.sampled,stream_isSome]
    omega
  · rw [l.received,stream_isSome]
    omega

theorem tick (l : Linked delay player mine theirs g t) (buttons : UInt16) (sample : Nat × UInt16) (next : Timeline)
    (ok : t.tick buttons = .ok (sample,next)) :
    (post mine sample).length = t.frame + 1 ∧
    (t.frame < delay.frames + theirs.length + predictionWindow → next.frame = t.frame + 1) ∧
    ∃ account, Linked delay player (post mine sample) theirs account next := by
  have owner := l.owner
  have lag := l.lag
  subst owner lag
  obtain ⟨rfl,owner,lag,_,low,high,moves,account,kept,known,halted⟩ := l.consistent.tick buttons sample next ok
  obtain ⟨length,numbered,sampled⟩ := l.toSampled.sample buttons _ rfl
  have linked : Linked t.inputDelay t.player (post mine (t.frame + t.inputDelay.frames,
      ((g.known (t.frame + t.inputDelay.frames)).get t.player).getD buttons)) theirs account next := {
    consistent := kept
    rooted := by
      apply Timeline.rooted_of_known kept t.player
      rw [known,sampled,stream_isSome]
      omega
    owner := owner
    lag := lag
    settled := halted
    sampled := by
      rw [known]
      exact sampled
    received := by
      intro f
      rw [known,Timeline.fix_known,if_neg (fun same => other_ne _ same.2)]
      exact l.received f
    numbered := numbered
    current := by omega
    near := by omega }
  refine ⟨length,fun room => moves ?_,account,linked⟩
  have reached := linked.le_confirmed
  simp only [length,predictionWindow] at reached room ⊢
  omega

theorem settle (l : Linked delay player mine theirs g t) (next : Timeline) (ok : t.correct = .ok next) :
    next.frame = t.frame ∧ ∃ account, Linked delay player mine theirs account next := by
  obtain ⟨settled,corrected,_,frame,confirmed,owner,lag,floor,low,kept⟩ := l.consistent.correct
  obtain rfl := Except.ok.inj (corrected.symm.trans ok)
  refine ⟨frame,⟨g.known,Timeline.replayed g t,floor,low⟩,?_⟩
  exact {
    consistent := kept
    rooted := by
      rcases l.consistent.correct_cases settled ok with rfl | rfl
      · exact l.rooted
      · exact l.rooted.apply l.consistent (.corrected t.plan) (fun _ _ stored => by simp [Timeline.storedFrame] at stored)
    owner := owner.trans l.owner
    lag := lag.trans l.lag
    settled := by
      rw [confirmed]
      exact l.settled
    sampled := l.sampled
    received := l.received
    numbered := l.numbered
    current := by
      rw [frame]
      exact l.current
    near := by
      rw [frame]
      exact l.near }

theorem receive (l : Linked delay player mine theirs g t) (buttons : UInt16)
    (fits : t.frame + delay.lookahead < 2^64)
    (inside : delay.frames + theirs.length ≤ t.frame + delay.lookahead) :
    ∃ next, t.receiveRemote (delay.frames + theirs.length) buttons = (.ok true,next) ∧ next.frame = t.frame ∧
    ∃ account, Linked delay player mine (theirs ++ [(delay.frames + theirs.length,buttons)]) account next := by
  have unknown : (g.known (delay.frames + theirs.length)).get (other t.player) = none := by
    rw [l.owner,l.received,← Option.not_isSome_iff_eq_none,stream_isSome]
    omega
  have open_ := l.consistent.confirmed_le _ _ unknown
  have fresh : t.oldest ≤ delay.frames + theirs.length := by
    by_contra stale
    rcases l.rooted.oldest with started | zero
    · have below := l.consistent.stale_confirmed _ (not_le.mp stale) started
      omega
    · omega
  obtain ⟨kept,same,_,ok,halted⟩ := l.consistent.receiveRemote (delay.frames + theirs.length) buttons
    (l.lag ▸ fits) (l.lag ▸ inside) fresh unknown
  have received (f : Nat) : ((g.fix (delay.frames + theirs.length) (other player) buttons).known f).get (other player) =
      stream delay (theirs ++ [(delay.frames + theirs.length,buttons)]) f := by
    rw [Timeline.fix_known,stream_append]
    simp only [and_true]
    split
    · rfl
    · exact l.received f
  refine ⟨_,Prod.ext ok rfl,same.frame,g.fix (delay.frames + theirs.length) (other t.player) buttons,?_⟩
  exact {
    consistent := kept
    rooted := by
      apply Timeline.rooted_of_known kept (other t.player)
      rw [l.owner,received,stream_isSome]
      simp only [length_append,length_singleton]
      omega
    owner := same.player.trans l.owner
    lag := same.inputDelay.trans l.lag
    settled := halted
    sampled := by
      intro f
      rw [Timeline.fix_known,if_neg (by rw [l.owner]; exact fun h => other_ne player h.2.symm)]
      exact l.sampled f
    received := by
      rw [l.owner]
      exact received
    numbered := l.numbered
    current := by
      rw [same.frame]
      exact l.current
    near := by
      rw [same.frame]
      exact l.near }

theorem receive_again (l : Linked delay player mine theirs g t) (numbered : Numbered delay theirs) (i : Nat)
    (message : Nat × UInt16) (found : theirs[i]? = some message) (fits : t.frame + delay.lookahead < 2^64)
    (inside : message.1 ≤ t.frame + delay.lookahead) :
    t.receiveRemote message.1 message.2 = (.ok false,t) := by
  have known : (g.known message.1).get (other t.player) = some message.2 := by
    rw [l.owner,l.received]
    exact stream_message delay theirs numbered i message found
  rw [l.consistent.receiveRemote_known message.1 message.2 message.2 (l.lag ▸ fits) (l.lag ▸ inside) known,
    if_pos (Or.inr rfl)]

end Linked

/-- Two peers, what each of them has sent, and how much of the other's log each of them has been given. -/
structure Link where
  peers : Ports Timeline
  sent : Ports (List (Nat × UInt16))
  delivered : Ports Nat

namespace Link

def initial (delay : InputDelay) : Link where
  peers := ⟨Timeline.withDelay .one delay,Timeline.withDelay .two delay⟩
  sent := .both []
  delivered := .both 0

inductive Step : Link → Link → Prop
  | tick (l : Link) (player : Player) (buttons : UInt16) (sample : Nat × UInt16) (t : Timeline)
    (ok : (l.peers.get player).tick buttons = .ok (sample,t)) :
    Step l {l with
      peers := l.peers.set player t
      sent := l.sent.set player (post (l.sent.get player) sample)}
  | settle (l : Link) (player : Player) (t : Timeline) (ok : (l.peers.get player).correct = .ok t) :
    Step l {l with peers := l.peers.set player t}
  | deliver (l : Link) (player : Player) (message : Nat × UInt16) (value : Bool) (t : Timeline)
    (next : (l.sent.get (other player))[l.delivered.get player]? = some message)
    (ok : (l.peers.get player).receiveRemote message.1 message.2 = (.ok value,t)) :
    Step l {l with
      peers := l.peers.set player t
      delivered := l.delivered.set player (l.delivered.get player + 1)}
  | duplicate (l : Link) (player : Player) (i : Nat) (message : Nat × UInt16) (value : Bool) (t : Timeline)
    (old : i < l.delivered.get player) (found : (l.sent.get (other player))[i]? = some message)
    (ok : (l.peers.get player).receiveRemote message.1 message.2 = (.ok value,t)) :
    Step l {l with peers := l.peers.set player t}

def Reachable (delay : InputDelay) (l : Link) : Prop := Relation.ReflTransGen Step (initial delay) l

/-- A message the network may hand to the player: the next one of the other's log, or an earlier one again. -/
def Honest (l : Link) (player : Player) (message : Nat × UInt16) : Prop :=
  ∃ i, i ≤ l.delivered.get player ∧ (l.sent.get (other player))[i]? = some message

structure Sound (delay : InputDelay) (l : Link) : Prop where
  linked : ∀ player, ∃ g, Linked delay player (l.sent.get player)
    ((l.sent.get (other player)).take (l.delivered.get player)) g (l.peers.get player)
  delivered : ∀ player, l.delivered.get player ≤ (l.sent.get (other player)).length

theorem sound_initial (delay : InputDelay) : Sound delay (initial delay) where
  linked := by
    intro player
    cases player
    · exact ⟨_,Linked.initial delay .one⟩
    · exact ⟨_,Linked.initial delay .two⟩
  delivered := by
    intro player
    simp [initial]

section
variable {l : Link}

theorem Sound.numbered (s : Sound delay l) (player : Player) : Numbered delay (l.sent.get player) :=
  (s.linked player).choose_spec.numbered

theorem Sound.received_length (s : Sound delay l) (player : Player) :
    ((l.sent.get (other player)).take (l.delivered.get player)).length = l.delivered.get player := by
  rw [length_take,min_eq_left (s.delivered player)]

theorem Sound.drift (s : Sound delay l) (player : Player) :
    (l.peers.get player).frame ≤ (l.peers.get (other player)).frame + delay.frames + 9 := by
  obtain ⟨g,linked⟩ := s.linked player
  obtain ⟨_,peer⟩ := s.linked (other player)
  have depth := linked.consistent.depth
  have confirmed := linked.confirmed_le
  have sent := peer.near
  have delivered := s.delivered player
  rw [s.received_length] at confirmed
  simp only [predictionWindow] at depth
  omega

theorem Sound.honest_frame (s : Sound delay l) (player : Player) (message : Nat × UInt16)
    (honest : l.Honest player message) : message.1 ≤ (l.peers.get player).frame + delay.lookahead := by
  obtain ⟨i,_,found⟩ := honest
  obtain ⟨_,peer⟩ := s.linked (other player)
  have number := s.numbered (other player) i message found
  have inside := (List.getElem?_eq_some_iff.mp found).1
  have drift := s.drift (other player)
  have near := peer.near
  rw [other_other] at drift
  simp only [InputDelay.lookahead,InputDelay.pauseLead,predictionWindow]
  omega

theorem Sound.receive_next (s : Sound delay l) (player : Player) (message : Nat × UInt16)
    (next : (l.sent.get (other player))[l.delivered.get player]? = some message)
    (fits : (l.peers.get player).frame + delay.lookahead < 2^64) :
    ∃ t, (l.peers.get player).receiveRemote message.1 message.2 = (.ok true,t) ∧
    t.frame = (l.peers.get player).frame ∧
    ∃ g, Linked delay player (l.sent.get player)
      ((l.sent.get (other player)).take (l.delivered.get player + 1)) g t := by
  obtain ⟨g,linked⟩ := s.linked player
  have number := s.numbered (other player) _ message next
  have length := s.received_length player
  have inside := s.honest_frame player message ⟨_,le_rfl,next⟩
  have frame : message.1 = delay.frames + ((l.sent.get (other player)).take (l.delivered.get player)).length := by
    rw [length,number]
  obtain ⟨t,ok,same,account,kept⟩ := linked.receive message.2 fits (frame ▸ inside)
  rw [← frame] at ok kept
  refine ⟨t,ok,same,account,?_⟩
  rw [take_add_one,next]
  exact kept

theorem Sound.receive_old (s : Sound delay l) (player : Player) (i : Nat) (message : Nat × UInt16)
    (old : i < l.delivered.get player) (found : (l.sent.get (other player))[i]? = some message)
    (fits : (l.peers.get player).frame + delay.lookahead < 2^64) :
    (l.peers.get player).receiveRemote message.1 message.2 = (.ok false,l.peers.get player) := by
  obtain ⟨g,linked⟩ := s.linked player
  have inside := s.honest_frame player message ⟨i,by omega,found⟩
  refine linked.receive_again (fun j other at_ => ?_) i message ?_ fits inside
  · rw [List.getElem?_take] at at_
    split at at_
    · exact s.numbered _ j other at_
    · contradiction
  · rw [List.getElem?_take_of_lt old]
    exact found

theorem Sound.tick (s : Sound delay l) (player : Player) (buttons : UInt16) (sample : Nat × UInt16) (t : Timeline)
    (ok : (l.peers.get player).tick buttons = .ok (sample,t)) :
    Sound delay {l with
      peers := l.peers.set player t
      sent := l.sent.set player (post (l.sent.get player) sample)} := by
  obtain ⟨g,linked⟩ := s.linked player
  obtain ⟨length,_,account,kept⟩ := linked.tick buttons sample t ok
  have near := linked.near
  obtain ⟨more,grows⟩ := post_prefix (l.sent.get player) sample
  constructor
  · intro reader
    rcases eq_or_other player reader with rfl | rfl
    · simp only [Ports.get_set_self,Ports.get_set,other_ne,if_false]
      exact ⟨account,kept⟩
    · obtain ⟨peer,still⟩ := s.linked (other player)
      have bound := s.delivered (other player)
      simp only [Ports.get_set_self,Ports.get_set,other_ne,if_false,other_other] at still bound ⊢
      rw [← grows,take_append_of_le_length bound]
      exact ⟨peer,still⟩
  · intro reader
    have bound := s.delivered reader
    rcases eq_or_other player reader with rfl | rfl
    · simpa only [Ports.get_set,other_ne,if_false] using bound
    · simp only [other_other,Ports.get_set_self] at bound ⊢
      omega

theorem Sound.settle (s : Sound delay l) (player : Player) (t : Timeline)
    (ok : (l.peers.get player).correct = .ok t) : Sound delay {l with peers := l.peers.set player t} := by
  obtain ⟨g,linked⟩ := s.linked player
  obtain ⟨_,account,kept⟩ := linked.settle t ok
  refine ⟨fun reader => ?_,s.delivered⟩
  rcases eq_or_other player reader with rfl | rfl
  · simp only [Ports.get_set_self]
    exact ⟨account,kept⟩
  · simp only [Ports.get_set,other_ne,if_false]
    exact s.linked (other player)

theorem Sound.deliver (s : Sound delay l) (player : Player) (message : Nat × UInt16) (value : Bool) (t : Timeline)
    (next : (l.sent.get (other player))[l.delivered.get player]? = some message)
    (ok : (l.peers.get player).receiveRemote message.1 message.2 = (.ok value,t)) :
    Sound delay {l with
      peers := l.peers.set player t
      delivered := l.delivered.set player (l.delivered.get player + 1)} := by
  obtain ⟨g,linked⟩ := s.linked player
  have fits := (Timeline.receiveRemote_inside value (congrArg Prod.fst ok)).1
  rw [linked.lag] at fits
  obtain ⟨_,same,_,account,kept⟩ := s.receive_next player message next fits
  obtain ⟨_,rfl⟩ := Prod.mk.inj (ok.symm.trans same)
  constructor
  · intro reader
    rcases eq_or_other player reader with rfl | rfl
    · simp only [Ports.get_set_self]
      exact ⟨account,kept⟩
    · simp only [Ports.get_set,other_ne,if_false]
      exact s.linked (other player)
  · intro reader
    rcases eq_or_other player reader with rfl | rfl
    · simp only [Ports.get_set_self]
      exact (List.getElem?_eq_some_iff.mp next).1
    · simp only [Ports.get_set,other_ne,if_false]
      exact s.delivered (other player)

theorem Sound.step (s : Sound delay l) (after : Link) (step : Step l after) : Sound delay after := by
  cases step with
  | tick player buttons sample t ok => exact s.tick player buttons sample t ok
  | settle player t ok => exact s.settle player t ok
  | deliver player message value t next ok => exact s.deliver player message value t next ok
  | duplicate player i message value t old found ok =>
    obtain ⟨g,linked⟩ := s.linked player
    have fits := (Timeline.receiveRemote_inside value (congrArg Prod.fst ok)).1
    rw [linked.lag] at fits
    obtain ⟨_,rfl⟩ := Prod.mk.inj (ok.symm.trans (s.receive_old player i message old found fits))
    rw [Ports.set_get]
    exact s

theorem Reachable.sound (reach : Reachable delay l) : Sound delay l :=
  invariant_of_run (sound_initial delay) (fun _ after s step => s.step after step) reach

/-- In every reachable state the windows hold: honest inputs are taken, the peers stay within
the delay and nine frames of each other, predictions stay within the window, and the executed
queue still holds every frame a correction replays. -/
theorem reachable_windows (reach : Reachable delay l) (player : Player) :
    (∀ message, l.Honest player message → (l.peers.get player).frame + delay.lookahead < 2^64 →
      ∃ value, ((l.peers.get player).receiveRemote message.1 message.2).1 = .ok value) ∧
    (l.peers.get player).frame ≤ (l.peers.get (other player)).frame + delay.frames + 9 ∧
    (l.peers.get player).predictionDepth ≤ predictionWindow ∧
    (∃ plan, (l.peers.get player).correction = .ok plan ∧ ((l.peers.get player).corrected plan).1 = .ok ()) ∧
    ∀ dirty, (l.peers.get player).dirty = some dirty → ∀ f, dirty ≤ f → f < (l.peers.get player).frame →
      ∃ used ∈ (l.peers.get player).executed, used.frame = f := by
  have s := reach.sound
  obtain ⟨g,linked⟩ := s.linked player
  have c := linked.consistent
  have depth := c.depth
  refine ⟨?_,s.drift player,?_,⟨_,c.correction,c.corrected.1⟩,?_⟩
  · intro message honest fits
    obtain ⟨i,bound,found⟩ := honest
    rcases Nat.lt_or_eq_of_le bound with old | rfl
    · exact ⟨false,by rw [s.receive_old player i message old found fits]⟩
    · obtain ⟨t,ok,_⟩ := s.receive_next player message found fits
      exact ⟨true,by rw [ok]⟩
  · simp only [Timeline.predictionDepth]
    omega
  · intro dirty set f above below
    have bound := c.dirty dirty set
    exact ⟨⟨f,g.used f⟩,(c.executed_mem _).mpr ⟨by simp only; omega,below,rfl⟩,rfl⟩

theorem Reachable.advance (reach : Reachable delay l) (player : Player)
    (given : l.delivered.get player = (l.peers.get player).frame)
    (fits : (l.peers.get player).frame + delay.frames + 1 < 2^64) :
    ∃ after, Reachable delay after ∧ after.delivered = l.delivered ∧
    (after.peers.get player).frame = (l.peers.get player).frame + 1 ∧
    (after.sent.get player).length = (l.peers.get player).frame + 1 ∧
    after.peers.get (other player) = l.peers.get (other player) ∧
    after.sent.get (other player) = l.sent.get (other player) := by
  obtain ⟨g,linked⟩ := reach.sound.linked player
  obtain ⟨sample,t,ok⟩ := linked.consistent.tick_returns 0 (by rw [linked.lag]; exact fits)
  obtain ⟨length,moves,_⟩ := linked.tick 0 sample t ok
  rw [reach.sound.received_length,given] at moves
  refine ⟨_,reach.tail (Step.tick l player 0 sample t ok),rfl,?_,?_,?_,?_⟩
  · rw [Ports.get_set_self]
    exact moves (by simp only [predictionWindow]; omega)
  · rw [Ports.get_set_self]
    exact length
  · rw [Ports.get_set,if_neg (other_ne player)]
  · rw [Ports.get_set,if_neg (other_ne player)]

theorem Reachable.give (reach : Reachable delay l) (player : Player)
    (waiting : l.delivered.get player < (l.sent.get (other player)).length)
    (fits : (l.peers.get player).frame + delay.lookahead < 2^64) :
    ∃ after, Reachable delay after ∧ after.sent = l.sent ∧
    after.delivered = l.delivered.set player (l.delivered.get player + 1) ∧
    ∀ reader, (after.peers.get reader).frame = (l.peers.get reader).frame := by
  have next := List.getElem?_eq_getElem waiting
  obtain ⟨t,ok,frame,_⟩ := reach.sound.receive_next player _ next fits
  refine ⟨_,reach.tail (Step.deliver l player _ true t next ok),rfl,rfl,fun reader => ?_⟩
  rcases eq_or_other player reader with rfl | rfl
  · rw [Ports.get_set_self,frame]
  · rw [Ports.get_set,if_neg (other_ne player)]

-- Both peers at the same frame with every sample delivered.
def Level (l : Link) (n : Nat) : Prop :=
  ∀ player, (l.peers.get player).frame = n ∧ (l.sent.get player).length = n ∧ l.delivered.get player = n

theorem Reachable.round (reach : Reachable delay l) (n : Nat) (level : l.Level n) (fits : n + delay.frames + 1 < 2^64) :
    ∃ after, Reachable delay after ∧ ∀ player, (after.peers.get player).frame = n + 1 ∧
      (after.sent.get player).length = n + 1 ∧ after.delivered.get player = n := by
  obtain ⟨frame,_,given⟩ := level .one
  obtain ⟨middle,first,same,moved,length,peers,sent⟩ := reach.advance .one (by omega) (by omega)
  obtain ⟨peer,_,waiting⟩ := level .two
  change middle.peers.get .two = l.peers.get .two at peers
  obtain ⟨after,second,same',moved',length',peers',sent'⟩ := first.advance .two (by rw [same,peers]; omega)
    (by rw [peers]; omega)
  change after.peers.get .one = middle.peers.get .one at peers'
  change after.sent.get .one = middle.sent.get .one at sent'
  refine ⟨after,second,fun player => ?_⟩
  rw [same',same]
  cases player with
  | one =>
    rw [peers',sent']
    exact ⟨by omega,by omega,given⟩
  | two =>
    rw [peers] at moved' length'
    exact ⟨by omega,by omega,waiting⟩

theorem level_reachable (delay : InputDelay) (n : Nat) (fits : n + delay.lookahead < 2^64) :
    ∃ l, Reachable delay l ∧ l.Level n := by
  induction n with
  | zero => exact ⟨initial delay,.refl,fun player => by cases player <;> exact ⟨rfl,rfl,rfl⟩⟩
  | succ n ih =>
    obtain ⟨l,reach,level⟩ := ih (by omega)
    have bound : delay.frames + 1 ≤ delay.lookahead := by
      simp only [InputDelay.lookahead,InputDelay.pauseLead]
      omega
    obtain ⟨ahead,moved,state⟩ := reach.round n level (by omega)
    obtain ⟨middle,first,sent,delivered,frames⟩ := moved.give .one
      (by rw [(state .one).2.2,(state _).2.1]; omega) (by rw [(state .one).1]; omega)
    have others : middle.delivered.get .two = n := by
      rw [delivered]
      exact (state .two).2.2
    obtain ⟨after,second,sent',delivered',frames'⟩ := first.give .two
      (by rw [others,sent,(state _).2.1]; omega) (by rw [frames,(state .two).1]; omega)
    refine ⟨after,second,fun player => ⟨?_,?_,?_⟩⟩
    · rw [frames',frames,(state player).1]
    · rw [sent',sent,(state player).2.1]
    · rw [delivered',others,delivered]
      cases player with
      | one => exact congrArg (· + 1) (state .one).2.2
      | two => rfl

theorem reachable_windows_first_input : ∃ l message, Reachable ⟨2,by decide⟩ l ∧ l.Honest .two message ∧
    ∃ value, ((l.peers.get .two).receiveRemote message.1 message.2).1 = .ok value := by
  obtain ⟨l,reach,level⟩ := level_reachable ⟨2,by decide⟩ 0 (by decide)
  obtain ⟨after,moved,state⟩ := reach.round 0 level (by decide)
  obtain ⟨frame,_,given⟩ := state .two
  have waiting : after.delivered.get .two < (after.sent.get (other .two)).length := by
    rw [given,(state _).2.1]
    decide
  have honest : after.Honest .two _ := ⟨_,le_rfl,List.getElem?_eq_getElem waiting⟩
  exact ⟨after,_,moved,honest,(reachable_windows moved .two).1 _ honest (by rw [frame]; decide)⟩

theorem honest_input_overflows : ¬ ∀ delay l, Reachable delay l → ∀ player message, l.Honest player message →
    ∃ value, ((l.peers.get player).receiveRemote message.1 message.2).1 = .ok value := by
  intro accepts
  obtain ⟨l,reach,level⟩ := level_reachable ⟨0,by decide⟩ (2^64 - 10) (by decide)
  obtain ⟨after,moved,state⟩ := reach.round (2^64 - 10) level (by decide)
  obtain ⟨frame,_,given⟩ := state .one
  have waiting : after.delivered.get .one < (after.sent.get (other .one)).length := by
    rw [given,(state _).2.1]
    omega
  obtain ⟨value,ok⟩ := accepts _ after moved .one _ ⟨_,le_rfl,List.getElem?_eq_getElem waiting⟩
  have fits := (Timeline.receiveRemote_inside value ok).1
  obtain ⟨g,linked⟩ := moved.sound.linked .one
  rw [linked.lag,frame] at fits
  exact absurd fits (by decide)

end
end Link
end ZeffBoy.Netplay
