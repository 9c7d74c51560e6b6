import ZeffBoy.Netplay.Pause

/-! Synchronisation of two pause controls over ordered channels.
Each peer keeps a barrier until nobody votes for it and its own changes are
acknowledged. Acknowledgments travel in the same channel as votes, so the peer
that clears its barrier late meets the final acknowledgment before any vote of
the next pause. -/
namespace ZeffBoy.Netplay.PauseControl
open Library Wire List

structure Change where
  number : Nat
  target : Nat
  paused : Bool
deriving DecidableEq

def changes (queue : List Message) : List Change :=
  queue.filterMap fun
    | .pauseChange number target paused => some ⟨number,target,paused⟩
    | _ => none

def acks (queue : List Message) : List Nat :=
  queue.filterMap fun
    | .pauseAck number => some number
    | _ => none

-- A missing barrier is above every frame.
def ceiling : Option Nat → WithTop Nat
  | none => ⊤
  | some frame => (frame : WithTop Nat)

def lowest : List Change → WithTop Nat
  | [] => ⊤
  | change::rest => if change.paused then min (change.target : WithTop Nat) (lowest rest) else lowest rest

def pending (queue : List Message) : WithTop Nat := lowest (changes queue)

@[simp] theorem changes_append (left right : List Message) : changes (left ++ right) = changes left ++ changes right :=
  filterMap_append

@[simp] theorem acks_append (left right : List Message) : acks (left ++ right) = acks left ++ acks right :=
  filterMap_append

@[simp] theorem changes_nil : changes [] = [] := rfl

@[simp] theorem acks_nil : acks [] = [] := rfl

@[simp] theorem changes_ack (number : Nat) (rest : List Message) : changes (.pauseAck number::rest) = changes rest := rfl

@[simp] theorem acks_ack (number : Nat) (rest : List Message) :
    acks (.pauseAck number::rest) = number::acks rest := rfl

@[simp] theorem changes_change (number target : Nat) (paused : Bool) (rest : List Message) :
    changes (.pauseChange number target paused::rest) = ⟨number,target,paused⟩::changes rest := rfl

@[simp] theorem acks_change (number target : Nat) (paused : Bool) (rest : List Message) :
    acks (.pauseChange number target paused::rest) = acks rest := rfl

@[simp] theorem ceiling_none : ceiling none = ⊤ := rfl

theorem ceiling_eq_top (barrier : Option Nat) : ceiling barrier = ⊤ ↔ barrier = none := by
  cases barrier with
  | none => simp
  | some frame => simp [ceiling]

theorem ceiling_injective : Function.Injective ceiling := by
  intro left right same
  cases left <;> cases right <;> simp_all [ceiling]

theorem ceiling_lower (barrier : Option Nat) (target : Nat) :
    ceiling (some ((barrier.map (min · target)).getD target)) = min (ceiling barrier) (target : WithTop Nat) := by
  cases barrier with
  | none => simp [ceiling]
  | some frame =>
    simp only [ceiling,Option.map_some,Option.getD_some]
    exact WithTop.coe_min _ _

theorem lowest_append (left right : List Change) : lowest (left ++ right) = min (lowest left) (lowest right) := by
  induction left with
  | nil => simp [lowest]
  | cons change rest ih =>
    simp only [cons_append,lowest,ih]
    split
    · rw [min_assoc]
    · rfl

theorem pending_append (left right : List Message) : pending (left ++ right) = min (pending left) (pending right) := by
  rw [pending,changes_append,lowest_append]
  rfl

@[simp] theorem pending_nil : pending [] = ⊤ := rfl

@[simp] theorem pending_ack (number : Nat) (rest : List Message) : pending (.pauseAck number::rest) = pending rest := rfl

@[simp] theorem pending_pause (number target : Nat) (rest : List Message) :
    pending (.pauseChange number target true::rest) = min (target : WithTop Nat) (pending rest) := rfl

@[simp] theorem pending_release (number target : Nat) (rest : List Message) :
    pending (.pauseChange number target false::rest) = pending rest := rfl

theorem pending_released (queue : List Message) (released : ∀ change ∈ changes queue, change.paused = false) :
    pending queue = ⊤ := by
  unfold pending
  generalize changes queue = flight at released ⊢
  induction flight with
  | nil => rfl
  | cons change rest ih =>
    rw [forall_mem_cons] at released
    rw [lowest,if_neg (by simp [released.1])]
    exact ih released.2

theorem pending_quiet (queue : List Message) (quiet : changes queue = []) : pending queue = ⊤ := by
  rw [pending,quiet]
  rfl

/-- The votes in flight lead from the vote the receiver has recorded to the sender's current vote. -/
def Chain (recorded current : Vote) : List Change → Prop
  | [] => recorded = current
  | ⟨_,target,true⟩::rest => recorded.paused = false ∧ Chain ⟨some target,true⟩ current rest
  | ⟨_,target,false⟩::rest => recorded = ⟨some target,true⟩ ∧ Chain ⟨some target,false⟩ current rest

theorem Chain.pause {recorded current : Vote} {flight : List Change} (chain : Chain recorded current flight)
    (open_ : current.paused = false) (number target : Nat) :
    Chain recorded ⟨some target,true⟩ (flight ++ [⟨number,target,true⟩]) := by
  induction flight generalizing recorded with
  | nil =>
    obtain rfl : recorded = current := chain
    exact ⟨open_,rfl⟩
  | cons change rest ih =>
    obtain ⟨_,_,paused⟩ := change
    cases paused with
    | true => exact ⟨chain.1,ih chain.2⟩
    | false => exact ⟨chain.1,ih chain.2⟩

theorem Chain.release {recorded : Vote} {target : Nat} {flight : List Change}
    (chain : Chain recorded ⟨some target,true⟩ flight) (number : Nat) :
    Chain recorded ⟨some target,false⟩ (flight ++ [⟨number,target,false⟩]) := by
  induction flight generalizing recorded with
  | nil =>
    obtain rfl : recorded = ⟨some target,true⟩ := chain
    exact ⟨rfl,rfl⟩
  | cons change rest ih =>
    obtain ⟨_,_,paused⟩ := change
    cases paused with
    | true => exact ⟨chain.1,ih chain.2⟩
    | false => exact ⟨chain.1,ih chain.2⟩

/-- The changes of `a` on their way to `b`, and their acknowledgments on the way back. -/
structure Direction (a b : PauseControl) (toA toB : List Message) : Prop where
  acked : a.localAcked ≤ b.peerRequest
  observed : b.peerRequest ≤ a.localRequest
  acks : acks toA = List.range' (a.localAcked + 1) (b.peerRequest - a.localAcked)
  numbers : (changes toB).map Change.number = List.range' (b.peerRequest + 1) (a.localRequest - b.peerRequest)
  chain : Chain b.peer a.mine (changes toB)
  first : ∀ change ∈ changes toB, change.paused → change.number = a.localAcked + 1

/-- A barrier is held exactly while somebody votes or a change is unacknowledged. -/
structure Settled (a : PauseControl) : Prop where
  idle : a.episode = none ↔ a.mine.paused = false ∧ a.peer.paused = false ∧ a.localAcked = a.localRequest
  held : a.mine.paused → a.mine.target.isSome

def Late (a : PauseControl) (toA : List Message) : Prop :=
  ∀ before after, toA = before ++ .pauseAck a.localRequest::after → a.mine.paused = false → pending after = ⊤

structure Aligned (a b : PauseControl) (toA toB : List Message) : Prop where
  agree : min (ceiling a.episode) (pending toA) = min (ceiling b.episode) (pending toB)
  late : Late a toA
  peerLate : Late b toB

/-- Only `b` has cleared the pause that ended; `a` will at the final acknowledgment, ahead of new votes. -/
structure Behind (a b : PauseControl) (toA : List Message) : Prop where
  released : a.mine.paused = false
  unpaused : a.peer.paused = false
  waiting : a.localAcked < a.localRequest
  seen : b.peerRequest = a.localRequest
  cleared : ceiling b.episode = pending toA
  order : ∃ before after, toA = before ++ .pauseAck a.localRequest::after ∧ changes before = []

structure Sync (a b : PauseControl) (toA toB : List Message) : Prop where
  out : Direction a b toA toB
  back : Direction b a toB toA
  settled : Settled a
  peerSettled : Settled b
  mode : Aligned a b toA toB ∨ Behind a b toA ∨ Behind b a toB

theorem Sync.symm {a b : PauseControl} {toA toB : List Message} (s : Sync a b toA toB) : Sync b a toB toA where
  out := s.back
  back := s.out
  settled := s.peerSettled
  peerSettled := s.settled
  mode := by
    rcases s.mode with aligned | behind | ahead
    · exact Or.inl ⟨aligned.agree.symm,aligned.peerLate,aligned.late⟩
    · exact Or.inr (Or.inr behind)
    · exact Or.inr (Or.inl ahead)

section Facts
variable {a b : PauseControl} {toA toB : List Message}

theorem Direction.quiet (d : Direction a b toA toB) (seen : b.peerRequest = a.localRequest) :
    changes toB = [] ∧ b.peer = a.mine := by
  have numbers := d.numbers
  rw [seen,Nat.sub_self,List.range'_zero,map_eq_nil_iff] at numbers
  have chain := d.chain
  rw [numbers] at chain
  exact ⟨numbers,chain⟩

theorem Direction.quiet_acked (d : Direction a b toA toB) (settled : a.localAcked = a.localRequest) :
    changes toB = [] ∧ b.peer = a.mine := by
  have acked := d.acked
  have observed := d.observed
  exact d.quiet (by omega)

theorem Direction.ack_le (d : Direction a b toA toB) (number : Nat) (member : number ∈ PauseControl.acks toA) :
    a.localAcked < number ∧ number ≤ b.peerRequest := by
  rw [d.acks,List.mem_range'_1] at member
  have acked := d.acked
  omega

theorem Direction.seen_of_quiet (d : Direction a b toA toB) (quiet : changes toB = []) :
    b.peerRequest = a.localRequest ∧ b.peer = a.mine := by
  have numbers := d.numbers
  have observed := d.observed
  rw [quiet,map_nil] at numbers
  have size := List.range'_eq_nil_iff.mp numbers.symm
  exact ⟨by omega,(d.quiet (by omega)).2⟩

theorem Direction.next_pause (d : Direction a b toA toB) (unpaused : b.peer.paused = false)
    (quiet : pending toB = ⊤) : changes toB = [] := by
  have chain := d.chain
  cases flight : changes toB with
  | nil => rfl
  | cons change rest =>
    obtain ⟨number,target,paused⟩ := change
    rw [flight] at chain
    cases paused with
    | true =>
      rw [pending,flight,lowest,if_pos rfl] at quiet
      have bound := (min_eq_top.mp quiet).1
      simp at bound
    | false =>
      have recorded := chain.1
      rw [recorded] at unpaused
      contradiction

end Facts

section Finish
variable (a : PauseControl)

@[simp] theorem finishEpisode_lead : a.finishEpisode.lead = a.lead := by unfold finishEpisode; split <;> rfl

@[simp] theorem finishEpisode_mine : a.finishEpisode.mine = a.mine := by unfold finishEpisode; split <;> rfl

@[simp] theorem finishEpisode_peer : a.finishEpisode.peer = a.peer := by unfold finishEpisode; split <;> rfl

@[simp] theorem finishEpisode_localRequest : a.finishEpisode.localRequest = a.localRequest := by
  unfold finishEpisode; split <;> rfl

@[simp] theorem finishEpisode_localAcked : a.finishEpisode.localAcked = a.localAcked := by
  unfold finishEpisode; split <;> rfl

@[simp] theorem finishEpisode_peerRequest : a.finishEpisode.peerRequest = a.peerRequest := by
  unfold finishEpisode; split <;> rfl

@[simp] theorem finishEpisode_desired : a.finishEpisode.desired = a.desired := by unfold finishEpisode; split <;> rfl

theorem finishEpisode_cases :
    (a.mine.paused = false ∧ a.peer.paused = false ∧ a.localAcked = a.localRequest ∧ a.finishEpisode.episode = none) ∨
    (¬ (a.mine.paused = false ∧ a.peer.paused = false ∧ a.localAcked = a.localRequest) ∧ a.finishEpisode = a) := by
  unfold finishEpisode
  by_cases done : a.mine.paused = false ∧ a.peer.paused = false ∧ a.localAcked = a.localRequest
  · obtain ⟨mine,peer,acked⟩ := done
    exact Or.inl ⟨mine,peer,acked,by simp [mine,peer,acked]⟩
  · refine Or.inr ⟨done,if_neg ?_⟩
    simpa [and_assoc] using done

theorem finishEpisode_held (barrier : Nat) (held : a.finishEpisode.episode = some barrier) :
    a.episode = some barrier := by
  rcases a.finishEpisode_cases with ⟨_,_,_,clear⟩ | ⟨_,same⟩
  · rw [clear] at held
    contradiction
  · rwa [same] at held

theorem settled_finish (held : a.mine.paused → a.mine.target.isSome)
    (busy : ¬ (a.mine.paused = false ∧ a.peer.paused = false ∧ a.localAcked = a.localRequest) → a.episode ≠ none) :
    Settled a.finishEpisode where
  idle := by
    simp only [finishEpisode_mine,finishEpisode_peer,finishEpisode_localAcked,finishEpisode_localRequest]
    rcases finishEpisode_cases a with ⟨mine,peer,acked,clear⟩ | ⟨open_,same⟩
    · exact ⟨fun _ => ⟨mine,peer,acked⟩,fun _ => clear⟩
    · rw [same]
      exact ⟨fun none => absurd none (busy open_),fun done => absurd done open_⟩
  held := by
    rw [finishEpisode_mine]
    exact held

end Finish

section Directions
variable {a b : PauseControl} {toA toB : List Message}

theorem Direction.congr (d : Direction a b toA toB) (a' b' : PauseControl) (acked : a'.localAcked = a.localAcked)
    (request : a'.localRequest = a.localRequest) (mine : a'.mine = a.mine) (observed : b'.peerRequest = b.peerRequest)
    (peer : b'.peer = b.peer) : Direction a' b' toA toB where
  acked := by rw [acked,observed]; exact d.acked
  observed := by rw [request,observed]; exact d.observed
  acks := by rw [acked,observed]; exact d.acks
  numbers := by rw [request,observed]; exact d.numbers
  chain := by rw [mine,peer]; exact d.chain
  first := by rw [acked]; exact d.first

theorem Direction.sendChange (d : Direction a b toA toB) (vote : Vote) (target : Nat) (paused : Bool)
    (chain : Chain b.peer vote (changes toB ++ [⟨a.localRequest + 1,target,paused⟩]))
    (fresh : paused → a.localAcked = a.localRequest) :
    Direction {a with mine := vote, localRequest := a.localRequest + 1} b toA
      (toB ++ [.pauseChange (a.localRequest + 1) target paused]) where
  acked := d.acked
  observed := d.observed.trans (Nat.le_succ _)
  acks := d.acks
  numbers := by
    have observed := d.observed
    have size : a.localRequest + 1 - b.peerRequest = (a.localRequest - b.peerRequest) + 1 := by omega
    have last : b.peerRequest + 1 + 1 * (a.localRequest - b.peerRequest) = a.localRequest + 1 := by omega
    simp only [changes_append,changes_change,changes_nil,map_append,d.numbers,map_cons,map_nil]
    rw [size,List.range'_concat,last]
  chain := by
    rw [changes_append]
    exact chain
  first := by
    intro change member voted
    rw [changes_append,mem_append] at member
    rcases member with old | new
    · exact d.first change old voted
    · obtain rfl : change = ⟨a.localRequest + 1,target,paused⟩ := by simpa using new
      exact congrArg (· + 1) (fresh voted).symm

theorem Direction.besideChange (d : Direction a b toA toB) (number target : Nat) (paused : Bool) :
    Direction a b (toA ++ [.pauseChange number target paused]) toB := by
  have same : PauseControl.acks (toA ++ [.pauseChange number target paused]) = PauseControl.acks toA := by
    rw [acks_append,acks_change,acks_nil,append_nil]
  exact ⟨d.acked,d.observed,same.trans d.acks,d.numbers,d.chain,d.first⟩

theorem Direction.takeAck (d : Direction a b toA toB) (number : Nat) (rest : List Message)
    (arrived : toA = .pauseAck number::rest) : number = a.localAcked + 1 ∧ number ≤ b.peerRequest ∧
      Direction {a with localAcked := number} b rest toB := by
  have acks := d.acks
  rw [arrived,acks_ack] at acks
  have acked := d.acked
  cases size : b.peerRequest - a.localAcked with
  | zero => simp [size] at acks
  | succ count =>
    rw [size,List.range'_succ] at acks
    obtain ⟨rfl,tail⟩ := List.cons.inj acks
    refine ⟨rfl,by omega,?_⟩
    exact {
      acked := by simp only; omega
      observed := d.observed
      acks := by
        rw [tail]
        congr 1
        simp only
        omega
      numbers := d.numbers
      chain := d.chain
      first := by
        intro change member voted
        -- The pause that was acknowledged is no longer in flight.
        have number := d.first change member voted
        have inside : change.number ∈ (changes toB).map Change.number := mem_map_of_mem member
        rw [d.numbers,List.mem_range'_1] at inside
        omega }

theorem Direction.besideAck (d : Direction a b toA toB) (number : Nat) :
    Direction a b toA (toB ++ [.pauseAck number]) := by
  have same : changes (toB ++ [.pauseAck number]) = changes toB := by
    rw [changes_append,changes_ack,changes_nil,append_nil]
  exact ⟨d.acked,d.observed,d.acks,same ▸ d.numbers,same ▸ d.chain,same ▸ d.first⟩

theorem Direction.dropAck (d : Direction a b toA toB) (number : Nat) (rest : List Message)
    (arrived : toB = .pauseAck number::rest) : Direction a b toA rest := by
  have same : changes toB = changes rest := by rw [arrived,changes_ack]
  exact ⟨d.acked,d.observed,d.acks,same ▸ d.numbers,same ▸ d.chain,same ▸ d.first⟩

theorem Direction.dropChange (d : Direction a b toA toB) (number target : Nat) (paused : Bool) (rest : List Message)
    (arrived : toA = .pauseChange number target paused::rest) : Direction a b rest toB := by
  have same : PauseControl.acks toA = PauseControl.acks rest := by rw [arrived,acks_change]
  exact ⟨d.acked,d.observed,same ▸ d.acks,d.numbers,d.chain,d.first⟩

theorem Direction.takeChange (d : Direction a b toA toB) (number target : Nat) (paused : Bool) (rest : List Message)
    (arrived : toB = .pauseChange number target paused::rest) :
    number = b.peerRequest + 1 ∧ number ≤ a.localRequest ∧
    Direction a {b with peer := ⟨some target,paused⟩, peerRequest := number} (toA ++ [.pauseAck number]) rest := by
  have numbers := d.numbers
  have chain := d.chain
  have acked := d.acked
  rw [arrived,changes_change] at numbers chain
  rw [map_cons] at numbers
  cases size : a.localRequest - b.peerRequest with
  | zero => simp [size] at numbers
  | succ count =>
    rw [size,List.range'_succ] at numbers
    obtain ⟨same,tail⟩ := List.cons.inj numbers
    simp only at same
    subst same
    refine ⟨rfl,by omega,?_⟩
    exact {
      acked := by simp only; omega
      observed := by simp only; omega
      acks := by
        have count : b.peerRequest + 1 - a.localAcked = (b.peerRequest - a.localAcked) + 1 := by omega
        have last : a.localAcked + 1 + 1 * (b.peerRequest - a.localAcked) = b.peerRequest + 1 := by omega
        simp only [acks_append,acks_ack,acks_nil,d.acks]
        rw [count,List.range'_concat,last]
      numbers := by
        rw [tail]
        congr 1
        simp only
        omega
      chain := by
        cases paused with
        | true => exact chain.2
        | false => exact chain.2
      first := by
        intro change member voted
        exact d.first change (by rw [arrived,changes_change]; exact mem_cons_of_mem _ member) voted }

end Directions

theorem Sync.congr {a b : PauseControl} {toA toB : List Message} (s : Sync a b toA toB) (a' : PauseControl)
    (mine : a'.mine = a.mine) (peer : a'.peer = a.peer) (episode : a'.episode = a.episode)
    (request : a'.localRequest = a.localRequest) (acked : a'.localAcked = a.localAcked)
    (observed : a'.peerRequest = a.peerRequest) : Sync a' b toA toB where
  out := s.out.congr a' b acked request mine rfl rfl
  back := s.back.congr b a' rfl rfl rfl observed peer
  settled := by
    refine ⟨?_,by rw [mine]; exact s.settled.held⟩
    rw [mine,peer,episode,request,acked]
    exact s.settled.idle
  peerSettled := s.peerSettled
  mode := by
    rcases s.mode with aligned | behind | ahead
    · refine Or.inl ⟨by rw [episode]; exact aligned.agree,?_,aligned.peerLate⟩
      intro before after
      rw [request,mine]
      exact aligned.late before after
    · refine Or.inr (Or.inl ⟨?_,?_,?_,?_,behind.cleared,?_⟩)
      · rw [mine]; exact behind.released
      · rw [peer]; exact behind.unpaused
      · rw [request,acked]; exact behind.waiting
      · rw [request]; exact behind.seen
      · rw [request]; exact behind.order
    · refine Or.inr (Or.inr ⟨ahead.released,ahead.unpaused,ahead.waiting,?_,?_,ahead.order⟩)
      · rw [observed]; exact ahead.seen
      · rw [episode]; exact ahead.cleared

theorem late_append {a : PauseControl} {toA : List Message} (late : Late a toA) (message : Message)
    (quiet : pending [message] = ⊤) : Late a (toA ++ [message]) := by
  intro before after split released
  rcases eq_nil_or_concat after with rfl | ⟨front,last,rfl⟩
  · rfl
  · have parts : toA ++ [message] = (before ++ .pauseAck a.localRequest::front) ++ [last] := by
      rw [split]
      simp
    obtain ⟨old,same⟩ := append_inj' parts rfl
    obtain rfl := List.cons.inj same |>.1
    rw [concat_eq_append,pending_append,late before front old released,quiet,min_self]

theorem late_quiet (a : PauseControl) (toA : List Message) (quiet : changes toA = []) : Late a toA := by
  intro before after split _
  rw [split,changes_append,changes_ack,append_eq_nil_iff] at quiet
  exact pending_quiet after quiet.2

theorem split_ack (queue : List Message) (number : Nat) (member : number ∈ acks queue) :
    ∃ before after, queue = before ++ .pauseAck number::after := by
  obtain ⟨message,inside,shape⟩ := mem_filterMap.mp member
  cases message with
  | pauseAck other =>
    obtain rfl := Option.some.inj shape
    exact append_of_mem inside
  | _ => simp at shape

theorem late_tail {a : PauseControl} {message : Message} {rest : List Message} (late : Late a (message::rest)) :
    Late a rest := by
  intro before after split released
  exact late (message::before) after (by rw [split]; rfl) released

theorem late_vacuous (a : PauseControl) (toA : List Message) (absent : a.localRequest ∉ acks toA) : Late a toA := by
  intro before after split
  apply absurd _ absent
  rw [split]
  simp

section Actions
variable {a b : PauseControl} {toA toB : List Message}

theorem Sync.pause_late (s : Sync a b toA toB) (aligned : Aligned a b toA toB) (released : a.mine.paused = false)
    (acked : a.localAcked = a.localRequest) (released' : b.mine.paused = false) : b.localRequest ∉ acks toB := by
  intro member
  obtain ⟨waiting,seen⟩ := s.back.ack_le _ member
  have observed := s.back.observed
  obtain ⟨quiet,same⟩ := s.back.quiet (by omega)
  obtain ⟨_,_⟩ := s.out.quiet_acked acked
  have unpaused : a.peer.paused = false := by rw [same,released']
  have none := s.settled.idle.mpr ⟨released,unpaused,acked⟩
  have agree := aligned.agree
  rw [none,ceiling_none,pending_quiet toA quiet,min_self] at agree
  have clear := (ceiling_eq_top _).mp (min_eq_top.mp agree.symm).1
  have idle := (s.peerSettled.idle.mp clear).2.2
  omega

theorem Sync.pause_aligned (s : Sync a b toA toB) (aligned : Aligned a b toA toB) (released : a.mine.paused = false)
    (acked : a.localAcked = a.localRequest) (target : Nat) :
    Aligned (a.pauseAt target) b toA (toB ++ [.pauseChange (a.localRequest + 1) target true]) where
  agree := by
    have lower : ceiling (a.pauseAt target).episode = min (ceiling a.episode) (target : WithTop Nat) :=
      ceiling_lower a.episode target
    rw [lower,pending_append,pending_pause,pending_nil,min_top_right,← min_assoc,← aligned.agree,min_assoc,
      min_comm (target : WithTop Nat),← min_assoc]
  late := by
    intro before after split voted
    simp [pauseAt] at voted
  peerLate := by
    intro before after split quiet
    have absent := s.pause_late aligned released acked quiet
    have member : b.localRequest ∈ acks (toB ++ [.pauseChange (a.localRequest + 1) target true]) := by
      rw [split]
      simp
    rw [acks_append,acks_change,acks_nil,append_nil] at member
    exact absurd member absent

theorem Sync.pause (s : Sync a b toA toB) (released : a.mine.paused = false) (acked : a.localAcked = a.localRequest)
    (target : Nat) : Sync (a.pauseAt target) b toA (toB ++ [.pauseChange (a.localRequest + 1) target true]) where
  out := (s.out.sendChange ⟨some target,true⟩ target true (s.out.chain.pause released _ target) (fun _ => acked)).congr
    (a.pauseAt target) b rfl rfl rfl rfl rfl
  back := (s.back.besideChange _ _ _).congr b (a.pauseAt target) rfl rfl rfl rfl rfl
  settled := by
    refine ⟨⟨fun none => ?_,fun idle => ?_⟩,fun _ => rfl⟩
    · simp [pauseAt] at none
    · simp [pauseAt] at idle
  peerSettled := s.peerSettled
  mode := by
    rcases s.mode with aligned | behind | ahead
    · exact Or.inl (s.pause_aligned aligned released acked target)
    · have waiting := behind.waiting
      omega
    · refine Or.inr (Or.inr ⟨ahead.released,ahead.unpaused,ahead.waiting,ahead.seen,?_,?_⟩)
      · have lower : ceiling (a.pauseAt target).episode = min (ceiling a.episode) (target : WithTop Nat) :=
          ceiling_lower a.episode target
        rw [lower,ahead.cleared,pending_append,pending_pause,pending_nil,min_top_right]
      · obtain ⟨before,after,split,quiet⟩ := ahead.order
        exact ⟨before,after ++ [.pauseChange (a.localRequest + 1) target true],by rw [split]; simp,quiet⟩

theorem releaseAt_eq (a : PauseControl) (target : Nat) (d : Direction a b toA toB) :
    a.releaseAt target = {a with mine := ⟨some target,false⟩, localRequest := a.localRequest + 1} := by
  have acked := d.acked
  have observed := d.observed
  unfold releaseAt finishEpisode
  rw [if_neg]
  simp only [Bool.and_eq_true,decide_eq_true_eq,not_and]
  intro _
  omega

theorem Sync.release_aligned (s : Sync a b toA toB) (aligned : Aligned a b toA toB) (target : Nat) :
    Aligned (a.releaseAt target) b toA (toB ++ [.pauseChange (a.localRequest + 1) target false]) := by
  rw [releaseAt_eq a target s.out]
  refine ⟨?_,?_,late_append aligned.peerLate _ rfl⟩
  · rw [pending_append,pending_release,pending_nil,min_top_right]
    exact aligned.agree
  · apply late_vacuous
    intro member
    have bound := s.out.ack_le _ member
    have observed := s.out.observed
    simp only at bound
    omega

theorem Sync.release (s : Sync a b toA toB) (voted : a.mine.paused) (target : Nat) (held : a.mine.target = some target) :
    Sync (a.releaseAt target) b toA (toB ++ [.pauseChange (a.localRequest + 1) target false]) := by
  have vote : a.mine = ⟨some target,true⟩ := by
    cases mine : a.mine
    simp_all
  have shape := releaseAt_eq a target s.out
  have busy := mt s.settled.idle.mp (by simp [voted] : ¬ (a.mine.paused = false ∧ _))
  have acked := s.out.acked
  have observed := s.out.observed
  refine ⟨?_,?_,?_,s.peerSettled,?_⟩
  · rw [shape]
    exact s.out.sendChange ⟨some target,false⟩ target false ((vote ▸ s.out.chain).release _) (fun h => by simp at h)
  · rw [shape]
    exact (s.back.besideChange _ _ _).congr b _ rfl rfl rfl rfl rfl
  · apply settled_finish
    · simp
    · exact fun _ => busy
  · rcases s.mode with aligned | behind | ahead
    · exact Or.inl (s.release_aligned aligned target)
    · simp [behind.released] at voted
    · rw [shape]
      refine Or.inr (Or.inr ⟨ahead.released,ahead.unpaused,ahead.waiting,ahead.seen,?_,?_⟩)
      · rw [pending_append,pending_release,pending_nil,min_top_right]
        exact ahead.cleared
      · obtain ⟨before,after,split,quiet⟩ := ahead.order
        exact ⟨before,after ++ [.pauseChange (a.localRequest + 1) target false],by rw [split]; simp,quiet⟩

theorem Sync.ack_released (s : Sync a b toA toB) (number : Nat) (rest : List Message)
    (arrived : toA = .pauseAck number::rest) (final : number = a.localRequest) :
    a.localRequest ∉ acks rest ∧ changes toB = [] ∧ b.peer = a.mine := by
  obtain ⟨_,seen,taken⟩ := s.out.takeAck number rest arrived
  have observed := s.out.observed
  obtain ⟨quiet,same⟩ := s.out.quiet (by omega)
  refine ⟨fun member => ?_,quiet,same⟩
  have bound := taken.ack_le _ member
  simp only at bound
  omega

theorem Sync.leave_behind (s : Sync a b toA toB) (next : PauseControl) (queue : List Message)
    (quietA : changes toA = []) (quietB : changes queue = []) (released : b.mine.paused = false)
    (unpaused : b.peer.paused = false) (waiting : b.localAcked ≠ b.localRequest)
    (observed : next.peerRequest = a.peerRequest) (clear : next.episode = none)
    (same : acks queue = acks toB) : Behind b next queue := by
  obtain ⟨seen,_⟩ := s.back.seen_of_quiet quietA
  have acked := s.back.acked
  refine ⟨released,unpaused,by omega,observed.trans seen,?_,?_⟩
  · rw [clear,ceiling_none,pending_quiet queue quietB]
  · have member : b.localRequest ∈ acks queue := by
      rw [same,s.back.acks,List.mem_range'_1]
      omega
    obtain ⟨before,after,split⟩ := split_ack queue _ member
    rw [split,changes_append,append_eq_nil_iff] at quietB
    exact ⟨before,after,split,quietB.1⟩

theorem Sync.ack_aligned (s : Sync a b toA toB) (number : Nat) (rest : List Message)
    (arrived : toA = .pauseAck number::rest) (aligned : Aligned a b toA toB) :
    (Aligned {a with localAcked := number}.finishEpisode b rest toB ∧
      {a with localAcked := number}.finishEpisode.episode = a.episode) ∨
    (pending rest = ⊤ ∧ pending toB = ⊤ ∧
      (Aligned {a with localAcked := number}.finishEpisode b rest toB ∨
        Behind b {a with localAcked := number}.finishEpisode toB)) := by
  have same : pending toA = pending rest := by rw [arrived,pending_ack]
  rcases finishEpisode_cases {a with localAcked := number} with ⟨released,unpaused,final,clear⟩ | ⟨_,shape⟩
  · obtain ⟨absent,quiet,vote⟩ := s.ack_released number rest arrived final
    have after := aligned.late [] rest (by rw [arrived]; exact congrArg (Message.pauseAck · :: rest) final) released
    have still := s.back.next_pause unpaused (same.trans after)
    obtain ⟨seen,peer⟩ := s.back.seen_of_quiet still
    have released' : b.mine.paused = false := by rw [← peer]; exact unpaused
    have unpaused' : b.peer.paused = false := by rw [vote]; exact released
    refine Or.inr ⟨after,pending_quiet toB quiet,?_⟩
    by_cases settled : b.localAcked = b.localRequest
    · have none := s.peerSettled.idle.mpr ⟨released',unpaused',settled⟩
      refine Or.inl ⟨?_,?_,aligned.peerLate⟩
      · rw [clear,none,after,pending_quiet toB quiet]
      · exact late_vacuous _ _ (by rw [finishEpisode_localRequest]; exact absent)
    · exact Or.inr (s.leave_behind _ toB still quiet released' unpaused' settled
        (finishEpisode_peerRequest _) clear rfl)
  · rw [shape]
    refine Or.inl ⟨⟨?_,?_,aligned.peerLate⟩,rfl⟩
    · rw [← same]
      exact aligned.agree
    · intro before after split
      exact aligned.late (.pauseAck number::before) after (by rw [arrived,split]; rfl)

theorem Sync.ack (s : Sync a b toA toB) (number : Nat) (rest : List Message) (arrived : toA = .pauseAck number::rest) :
    Sync {a with localAcked := number}.finishEpisode b rest toB := by
  obtain ⟨next,seen,taken⟩ := s.out.takeAck number rest arrived
  have observed := s.out.observed
  have busy : a.episode ≠ none := by
    intro none
    have settled := (s.settled.idle.mp none).2.2
    omega
  refine ⟨taken.congr _ b (by simp) (by simp) (by simp) rfl rfl,
    (s.back.dropAck number rest arrived).congr b _ rfl rfl rfl (by simp) (by simp),
    settled_finish _ s.settled.held (fun _ => busy),s.peerSettled,?_⟩
  rcases s.mode with aligned | behind | ahead
  · rcases s.ack_aligned number rest arrived aligned with ⟨kept,_⟩ | ⟨_,_,kept | left⟩
    · exact Or.inl kept
    · exact Or.inl kept
    · exact Or.inr (Or.inr left)
  · obtain ⟨before,after,split,quiet⟩ := behind.order
    obtain ⟨still,_⟩ := s.out.quiet behind.seen
    rcases finishEpisode_cases {a with localAcked := number} with ⟨_,_,final,clear⟩ | ⟨open_,shape⟩
    · obtain ⟨absent,_,_⟩ := s.ack_released number rest arrived final
      refine Or.inl ⟨?_,late_vacuous _ _ (by rw [finishEpisode_localRequest]; exact absent),late_quiet b toB still⟩
      have cleared := behind.cleared
      rw [arrived,pending_ack] at cleared
      rw [clear,ceiling_none,pending_quiet toB still,cleared,min_comm]
    · rw [shape]
      have waiting : number < a.localRequest := by
        have different : number ≠ a.localRequest := fun final => open_ ⟨behind.released,behind.unpaused,final⟩
        omega
      refine Or.inr (Or.inl ⟨behind.released,behind.unpaused,waiting,behind.seen,?_,?_⟩)
      · have cleared := behind.cleared
        rw [arrived,pending_ack] at cleared
        exact cleared
      · rw [arrived] at split
        cases before with
        | nil =>
          have head := (List.cons.inj split).1
          simp only [Message.pauseAck.injEq] at head
          omega
        | cons message tail =>
          obtain ⟨rfl,after'⟩ := List.cons.inj split
          exact ⟨tail,after,after',quiet⟩
  · -- The peer behind has nothing in flight and the barrier here is already clear.
    obtain ⟨_,vote⟩ := s.back.quiet ahead.seen
    rcases finishEpisode_cases {a with localAcked := number} with ⟨_,_,final,_⟩ | ⟨_,shape⟩
    · obtain ⟨_,quiet,_⟩ := s.ack_released number rest arrived final
      have cleared := ahead.cleared
      rw [pending_quiet toB quiet,ceiling_eq_top] at cleared
      exact absurd cleared busy
    · rw [shape]
      exact Or.inr (Or.inr ⟨ahead.released,ahead.unpaused,ahead.waiting,ahead.seen,ahead.cleared,ahead.order⟩)

theorem Sync.no_change_behind (s : Sync a b toA toB) (number target : Nat) (paused : Bool) (rest : List Message)
    (arrived : toA = .pauseChange number target paused::rest) : Aligned a b toA toB := by
  rcases s.mode with aligned | behind | ahead
  · exact aligned
  · obtain ⟨before,after,split,quiet⟩ := behind.order
    rw [arrived] at split
    cases before with
    | nil => exact absurd (List.cons.inj split).1 (by simp)
    | cons message tail =>
      obtain ⟨rfl,_⟩ := List.cons.inj split
      simp at quiet
  · have quiet := (s.back.quiet ahead.seen).1
    rw [arrived] at quiet
    simp at quiet

theorem Sync.observePause_aligned (s : Sync a b toA toB) (number target : Nat) (rest : List Message)
    (arrived : toA = .pauseChange number target true::rest) :
    Aligned (a.peerPauseAt number target) b rest (toB ++ [.pauseAck number]) := by
  have aligned := s.no_change_behind number target true rest arrived
  have lower : ceiling (a.peerPauseAt number target).episode = min (ceiling a.episode) (target : WithTop Nat) :=
    ceiling_lower a.episode target
  refine ⟨?_,?_,late_append aligned.peerLate _ rfl⟩
  · have agree := aligned.agree
    rw [arrived,pending_pause,← min_assoc] at agree
    rw [lower,agree,pending_append,pending_ack,pending_nil,min_top_right]
  · intro before after split
    exact aligned.late (.pauseChange number target true::before) after (by rw [arrived,split]; rfl)

theorem Sync.observePause (s : Sync a b toA toB) (number target : Nat) (rest : List Message)
    (arrived : toA = .pauseChange number target true::rest) :
    Sync (a.peerPauseAt number target) b rest (toB ++ [.pauseAck number]) where
  out := ((s.out.dropChange number target true rest arrived).besideAck number).congr _ b rfl rfl rfl rfl rfl
  back := (s.back.takeChange number target true rest arrived).2.2.congr b _ rfl rfl rfl rfl rfl
  settled := by
    refine ⟨⟨fun none => ?_,fun idle => ?_⟩,s.settled.held⟩
    · simp [peerPauseAt] at none
    · simp [peerPauseAt] at idle
  peerSettled := s.peerSettled
  mode := Or.inl (s.observePause_aligned number target rest arrived)

theorem Sync.observeRelease_aligned (s : Sync a b toA toB) (number target : Nat) (rest : List Message)
    (arrived : toA = .pauseChange number target false::rest) :
    (Aligned (a.peerReleaseAt number target) b rest (toB ++ [.pauseAck number]) ∧
      (a.peerReleaseAt number target).episode = a.episode) ∨
    (pending rest = ⊤ ∧ pending (toB ++ [.pauseAck number]) = ⊤ ∧
      Behind b (a.peerReleaseAt number target) (toB ++ [.pauseAck number])) := by
  have aligned := s.no_change_behind number target false rest arrived
  obtain ⟨next,sent,taken⟩ := s.back.takeChange number target false rest arrived
  have flight : pending (toB ++ [.pauseAck number]) = pending toB := by
    rw [pending_append,pending_ack,pending_nil,min_top_right]
  rcases finishEpisode_cases {a with peer := ⟨some target,false⟩, peerRequest := number} with
    ⟨released,_,final,clear⟩ | ⟨_,shape⟩
  · obtain ⟨quiet,vote⟩ := s.out.quiet_acked final
    have acked := s.back.acked
    -- A pause behind the release would have waited for the acknowledgment of the release.
    have last : pending rest = ⊤ := by
      apply pending_released
      intro change member
      by_contra voted
      have first := taken.first change member (by simpa using voted)
      have inside : change.number ∈ (changes rest).map Change.number := mem_map_of_mem member
      rw [taken.numbers,List.mem_range'_1] at inside
      simp only at inside
      omega
    have still := taken.next_pause rfl last
    obtain ⟨seen,peer⟩ := taken.seen_of_quiet still
    simp only at seen peer
    refine Or.inr ⟨last,flight.trans (pending_quiet toB quiet),?_⟩
    refine ⟨by rw [← peer],by rw [vote]; exact released,by omega,?_,?_,toB,[],by rw [seen],quiet⟩
    · rw [peerReleaseAt,finishEpisode_peerRequest]
      exact seen
    · rw [peerReleaseAt,clear,ceiling_none,flight,pending_quiet toB quiet]
  · rw [peerReleaseAt,shape]
    refine Or.inl ⟨⟨?_,?_,late_append aligned.peerLate _ rfl⟩,rfl⟩
    · have agree := aligned.agree
      rw [arrived,pending_release] at agree
      rw [flight]
      exact agree
    · intro before after split
      exact aligned.late (.pauseChange number target false::before) after (by rw [arrived,split]; rfl)

theorem Sync.observeRelease (s : Sync a b toA toB) (number target : Nat) (rest : List Message)
    (arrived : toA = .pauseChange number target false::rest) :
    Sync (a.peerReleaseAt number target) b rest (toB ++ [.pauseAck number]) where
  out := ((s.out.dropChange number target false rest arrived).besideAck number).congr _ b (by simp [peerReleaseAt])
    (by simp [peerReleaseAt]) (by simp [peerReleaseAt]) rfl rfl
  back := (s.back.takeChange number target false rest arrived).2.2.congr b _ rfl rfl rfl (by simp [peerReleaseAt])
    (by simp [peerReleaseAt])
  settled := by
    apply settled_finish
    · exact s.settled.held
    · have chain := s.back.chain
      rw [arrived,changes_change] at chain
      intro _ none
      have idle := (s.settled.idle.mp none).2.1
      rw [chain.1] at idle
      contradiction
  peerSettled := s.peerSettled
  mode := by
    rcases s.observeRelease_aligned number target rest arrived with ⟨kept,_⟩ | ⟨_,_,left⟩
    · exact Or.inl kept
    · exact Or.inr (Or.inr left)

theorem Sync.join (s : Sync a b toA toB) (released : a.mine.paused = false) (acked : a.localAcked = a.localRequest)
    (running : a.episode ≠ none) : Aligned a b toA toB ∧ a.episode = b.episode := by
  have voted : a.peer.paused := by
    by_contra unpaused
    exact running (s.settled.idle.mpr ⟨released,by simpa using unpaused,acked⟩)
  have aligned : Aligned a b toA toB := by
    rcases s.mode with aligned | behind | ahead
    · exact aligned
    · have waiting := behind.waiting
      omega
    · have vote := (s.back.quiet ahead.seen).2
      rw [vote,ahead.released] at voted
      contradiction
  obtain ⟨quiet,_⟩ := s.out.quiet_acked acked
  -- The recorded vote stands, so only its release can be on the way.
  have last : pending toA = ⊤ := by
    apply pending_released
    intro change member
    by_contra paused
    have first := s.back.first change member (by simpa using paused)
    have numbers := s.back.numbers
    have chain := s.back.chain
    have bound := s.back.acked
    cases flight : changes toA with
    | nil => simp [flight] at member
    | cons head rest =>
      rw [flight] at numbers chain member
      rw [map_cons] at numbers
      cases size : b.localRequest - a.peerRequest with
      | zero => simp [size] at numbers
      | succ count =>
        rw [size,List.range'_succ] at numbers
        obtain ⟨here,tail⟩ := List.cons.inj numbers
        rcases mem_cons.mp member with rfl | later
        · obtain ⟨number,target,flag⟩ := change
          cases flag with
          | true =>
            rw [chain.1] at voted
            contradiction
          | false => simp at paused
        · have inside : change.number ∈ rest.map Change.number := mem_map_of_mem later
          rw [tail,List.mem_range'_1] at inside
          omega
  have agree := aligned.agree
  rw [last,pending_quiet toB quiet,min_top_right,min_top_right] at agree
  exact ⟨aligned,ceiling_injective agree⟩

end Actions

section Noise
variable {a b : PauseControl} {toA toB : List Message} {message : Message}

theorem Aligned.symm (aligned : Aligned a b toA toB) : Aligned b a toB toA :=
  ⟨aligned.agree.symm,aligned.peerLate,aligned.late⟩

theorem pending_noise (quiet : changes [message] = []) : pending [message] = ⊤ := pending_quiet _ quiet

theorem Aligned.appendNoise (aligned : Aligned a b toA toB) (quiet : changes [message] = []) :
    Aligned a b toA (toB ++ [message]) where
  agree := by
    rw [pending_append,pending_noise quiet,min_top_right]
    exact aligned.agree
  late := aligned.late
  peerLate := late_append aligned.peerLate message (pending_noise quiet)

theorem Sync.appendNoise (s : Sync a b toA toB) (quiet : changes [message] = []) (silent : acks [message] = []) :
    Sync a b toA (toB ++ [message]) where
  out := by
    have same : changes (toB ++ [message]) = changes toB := by rw [changes_append,quiet,append_nil]
    exact ⟨s.out.acked,s.out.observed,s.out.acks,same ▸ s.out.numbers,same ▸ s.out.chain,same ▸ s.out.first⟩
  back := by
    have same : acks (toB ++ [message]) = acks toB := by rw [acks_append,silent,append_nil]
    exact ⟨s.back.acked,s.back.observed,same.trans s.back.acks,s.back.numbers,s.back.chain,s.back.first⟩
  settled := s.settled
  peerSettled := s.peerSettled
  mode := by
    rcases s.mode with aligned | behind | ahead
    · exact Or.inl (aligned.appendNoise quiet)
    · exact Or.inr (Or.inl behind)
    · refine Or.inr (Or.inr ⟨ahead.released,ahead.unpaused,ahead.waiting,ahead.seen,?_,?_⟩)
      · rw [pending_append,pending_noise quiet,min_top_right]
        exact ahead.cleared
      · obtain ⟨before,after,split,still⟩ := ahead.order
        exact ⟨before,after ++ [message],by rw [split]; simp,still⟩

theorem changes_noise (quiet : changes [message] = []) (rest : List Message) : changes (message::rest) = changes rest := by
  rw [← singleton_append,changes_append,quiet,nil_append]

theorem acks_noise (silent : acks [message] = []) (rest : List Message) : acks (message::rest) = acks rest := by
  rw [← singleton_append,acks_append,silent,nil_append]

theorem Aligned.dropNoise {rest : List Message} (aligned : Aligned a b (message::rest) toB)
    (quiet : changes [message] = []) : Aligned a b rest toB where
  agree := by
    have agree := aligned.agree
    rw [pending,changes_noise quiet] at agree
    exact agree
  late := late_tail aligned.late
  peerLate := aligned.peerLate

theorem Sync.dropNoise {rest : List Message} (s : Sync a b (message::rest) toB) (quiet : changes [message] = [])
    (silent : acks [message] = []) : Sync a b rest toB where
  out := by
    have acks := s.out.acks
    rw [acks_noise silent] at acks
    exact ⟨s.out.acked,s.out.observed,acks,s.out.numbers,s.out.chain,s.out.first⟩
  back := by
    have same := changes_noise quiet rest
    exact ⟨s.back.acked,s.back.observed,s.back.acks,same ▸ s.back.numbers,same ▸ s.back.chain,same ▸ s.back.first⟩
  settled := s.settled
  peerSettled := s.peerSettled
  mode := by
    rcases s.mode with aligned | behind | ahead
    · exact Or.inl (aligned.dropNoise quiet)
    · refine Or.inr (Or.inl ⟨behind.released,behind.unpaused,behind.waiting,behind.seen,?_,?_⟩)
      · have cleared := behind.cleared
        rw [pending,changes_noise quiet] at cleared
        exact cleared
      · obtain ⟨before,after,split,still⟩ := behind.order
        cases before with
        | nil =>
          have head := (List.cons.inj split).1
          rw [head] at silent
          simp at silent
        | cons first tail =>
          obtain ⟨rfl,later⟩ := List.cons.inj split
          rw [changes_noise quiet] at still
          exact ⟨tail,after,later,still⟩
    · exact Or.inr (Or.inr ahead)

end Noise
end ZeffBoy.Netplay.PauseControl
