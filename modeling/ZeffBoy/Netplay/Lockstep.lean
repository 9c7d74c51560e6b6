import ZeffBoy.Netplay.Rollback

/-! Lockstep confirmation of two button streams. Submissions arrive for either
player and any frame of a moving window; a frame is confirmed once both ports
are known. A run keeps the submissions that were accepted and the inputs that
were confirmed, and the confirmed inputs are a function of the former alone. -/
namespace ZeffBoy.Netplay
open Library List

structure ConfirmedInput where
  frame : Nat
  ports : Ports UInt8
deriving DecidableEq, Repr

structure Lockstep where
  frame : Nat
  pending : OrderedMap (Ports (Option UInt8))
  history : List ConfirmedInput
  closed : Bool

namespace Lockstep

def inputDelay : Nat := 2

def maxAhead : Nat := 8

def historyLimit : Nat := 120

def new : Lockstep where
  frame := 0
  pending := .ofRange 0 inputDelay (fun _ => .both (some 0))
  history := []
  closed := false

def ensureOpen (l : Lockstep) : Except String Unit := ensure (l.closed = false) "lockstep session is closed"

def entry (l : Lockstep) (frame : Nat) : Ports (Option UInt8) := (l.pending.get? frame).getD (.both none)

def submit (l : Lockstep) (player : Player) (frame : Nat) (buttons : UInt8) : Call Lockstep Bool :=
  match l.ensureOpen with
  | .error message => (.error message,l)
  | .ok () =>
    if frame < inputDelay ∧ buttons ≠ 0 then (.error "bootstrap input must be neutral",l)
    else if frame < l.frame then
      match l.history.find? (fun input => input.frame == frame) with
      | some input =>
        if input.ports.get player ≠ buttons then (.error "input conflicts with confirmed history",l) else (.ok false,l)
      | none => (.ok false,l)
    else if frame - l.frame > maxAhead then (.error "input exceeds the pending frame window",l)
    else
      let ports := l.entry frame
      let entered := {l with pending := l.pending.insert frame ports}
      match ports.get player with
      | some existing => if existing ≠ buttons then (.error "input conflicts with pending input",entered)
        else (.ok false,entered)
      | none => (.ok true,{l with pending := l.pending.insert frame (ports.set player (some buttons))})

def retire (history : List ConfirmedInput) : List ConfirmedInput :=
  if history.length > historyLimit then history.tail else history

def advance (l : Lockstep) : Call Lockstep (Option ConfirmedInput) :=
  match l.ensureOpen with
  | .error message => (.error message,l)
  | .ok () =>
    match l.pending.get? l.frame with
    | some ⟨some one,some two⟩ =>
      match checkedAdd l.frame 1 "frame counter overflow" with
      | .error message => (.error message,l)
      | .ok next =>
        let input : ConfirmedInput := ⟨l.frame,⟨one,two⟩⟩
        (.ok (some input),{l with
          pending := l.pending.erase l.frame, frame := next, history := retire (l.history ++ [input])})
    | _ => (.ok none,l)

def close (l : Lockstep) : Lockstep := {l with closed := true, pending := .empty}

def hold (l : Lockstep) (player : Player) (frame : Nat) (buttons : UInt8) : Lockstep :=
  {l with pending := l.pending.insert frame ((l.entry frame).set player (some buttons))}

def confirm (l : Lockstep) (ports : Ports UInt8) : Lockstep where
  frame := l.frame + 1
  pending := l.pending.erase l.frame
  history := retire (l.history ++ [⟨l.frame,ports⟩])
  closed := l.closed

theorem submit_cases (l : Lockstep) (player : Player) (frame : Nat) (buttons : UInt8) :
    (∃ outcome, outcome ≠ .ok true ∧ l.submit player frame buttons = (outcome,l)) ∨
    (l.closed = false ∧ (frame < inputDelay → buttons = 0) ∧ l.frame ≤ frame ∧ frame ≤ l.frame + maxAhead ∧
      (l.entry frame).get player = none ∧
      l.submit player frame buttons = (.ok true,l.hold player frame buttons)) := by
  unfold submit ensureOpen ensure
  by_cases opened : l.closed = false
  · rw [if_pos opened]
    by_cases loud : frame < inputDelay ∧ buttons ≠ 0
    · simp only [if_pos loud]
      exact .inl ⟨_,by simp,rfl⟩
    by_cases stale : frame < l.frame
    · simp only [if_neg loud,if_pos stale]
      cases l.history.find? (fun input => input.frame == frame) with
      | none => exact .inl ⟨_,by simp,rfl⟩
      | some input =>
        by_cases conflict : input.ports.get player ≠ buttons
        · simp only [if_pos conflict]
          exact .inl ⟨_,by simp,rfl⟩
        · simp only [if_neg conflict]
          exact .inl ⟨_,by simp,rfl⟩
    by_cases far : frame - l.frame > maxAhead
    · simp only [if_neg loud,if_neg stale,if_pos far]
      exact .inl ⟨_,by simp,rfl⟩
    simp only [if_neg loud,if_neg stale,if_neg far]
    cases held : (l.entry frame).get player with
    | none =>
      refine .inr ⟨opened,fun early => ?_,by omega,by omega,rfl,rfl⟩
      exact Classical.byContradiction fun pressed => loud ⟨early,pressed⟩
    | some existing =>
      have entered : l.pending.insert frame (l.entry frame) = l.pending := by
        cases present : l.pending.get? frame with
        | none => simp [entry,present] at held
        | some ports =>
          apply OrderedMap.ext
          intro key
          rw [OrderedMap.get?_insert]
          split
          · rename_i same
            rw [same,entry,present,Option.getD_some]
          · rfl
      rw [entered]
      by_cases conflict : existing ≠ buttons
      · simp only [if_pos conflict]
        exact .inl ⟨_,by simp,rfl⟩
      · simp only [if_neg conflict]
        exact .inl ⟨_,by simp,rfl⟩
  · rw [if_neg opened]
    exact .inl ⟨_,by simp,rfl⟩

theorem advance_cases (l : Lockstep) :
    (∃ outcome, (∀ input, outcome ≠ .ok (some input)) ∧ l.advance = (outcome,l)) ∨
    (∃ one two, l.closed = false ∧ l.pending.get? l.frame = some ⟨some one,some two⟩ ∧
      l.advance = (.ok (some ⟨l.frame,⟨one,two⟩⟩),l.confirm ⟨one,two⟩)) := by
  unfold advance ensureOpen ensure
  by_cases opened : l.closed = false
  · rw [if_pos opened]
    rcases l.pending.get? l.frame with _ | ⟨one | one,two | two⟩
    · exact .inl ⟨_,by simp,rfl⟩
    · exact .inl ⟨_,by simp,rfl⟩
    · exact .inl ⟨_,by simp,rfl⟩
    · exact .inl ⟨_,by simp,rfl⟩
    · by_cases fits : l.frame + 1 < 2^64
      · exact .inr ⟨one,two,opened,rfl,by simp only [checkedAdd_pos fits,confirm]⟩
      · exact .inl ⟨.error "frame counter overflow",by simp,by simp only [checkedAdd,if_neg fits]⟩
  · rw [if_neg opened]
    exact .inl ⟨_,by simp,rfl⟩

structure Submission where
  player : Player
  frame : Nat
  buttons : UInt8
deriving DecidableEq, Repr

inductive Operation
  | submit (player : Player) (frame : Nat) (buttons : UInt8)
  | advance
  | close

/-- A session with the submissions it accepted and the inputs it confirmed. -/
structure Trace where
  lockstep : Lockstep
  accepted : List Submission
  confirmed : List ConfirmedInput

def Trace.start : Trace := ⟨new,[],[]⟩

def Trace.step (trace : Trace) : Operation → Trace
  | .submit player frame buttons =>
    match trace.lockstep.submit player frame buttons with
    | (.ok true,lockstep) => {trace with lockstep, accepted := trace.accepted ++ [⟨player,frame,buttons⟩]}
    | (_,lockstep) => {trace with lockstep}
  | .advance =>
    match trace.lockstep.advance with
    | (.ok (some input),lockstep) => {trace with lockstep, confirmed := trace.confirmed ++ [input]}
    | (_,lockstep) => {trace with lockstep}
  | .close => {trace with lockstep := trace.lockstep.close}

def run (operations : List Operation) : Trace := operations.foldl Trace.step .start

/-- Where the buttons of a port come from: neutral at first, then a submission. -/
def Sourced (accepted : List Submission) (player : Player) (frame : Nat) (buttons : UInt8) : Prop :=
  if frame < inputDelay then buttons = 0 else ⟨player,frame,buttons⟩ ∈ accepted

def Single (accepted : List Submission) : Prop :=
  ∀ first ∈ accepted, ∀ second ∈ accepted, first.player = second.player → first.frame = second.frame → first = second

/-- The books of a trace: what is confirmed or held was accepted, and what was
accepted is held until its frame is confirmed. -/
structure Accounts (trace : Trace) : Prop where
  counted : trace.confirmed.length = trace.lockstep.frame
  recent : trace.lockstep.history = trace.confirmed.drop (trace.lockstep.frame - historyLimit)
  numbered : ∀ frame (input : ConfirmedInput), trace.confirmed[frame]? = some input → input.frame = frame
  sourced : ∀ frame (input : ConfirmedInput), trace.confirmed[frame]? = some input →
    ∀ player, Sourced trace.accepted player frame (input.ports.get player)
  window : ∀ frame, (trace.lockstep.pending.get? frame).isSome →
    trace.lockstep.frame ≤ frame ∧ frame ≤ trace.lockstep.frame + maxAhead
  held : ∀ frame player buttons, (trace.lockstep.entry frame).get player = some buttons →
    Sourced trace.accepted player frame buttons
  bootstrap : trace.lockstep.closed = false → ∀ frame, trace.lockstep.frame ≤ frame → frame < inputDelay →
    ∀ player, (trace.lockstep.entry frame).get player = some 0
  kept : trace.lockstep.closed = false → ∀ submission ∈ trace.accepted, trace.lockstep.frame ≤ submission.frame →
    (trace.lockstep.entry submission.frame).get submission.player = some submission.buttons
  late : ∀ submission ∈ trace.accepted, inputDelay ≤ submission.frame
  single : Single trace.accepted

theorem Sourced.mono {accepted more : List Submission} {player : Player} {frame : Nat} {buttons : UInt8}
    (sourced : Sourced accepted player frame buttons) (extends_ : accepted ⊆ more) :
    Sourced more player frame buttons := by
  unfold Sourced at *
  split
  · rename_i early
    rwa [if_pos early] at sourced
  · rename_i due
    rw [if_neg due] at sourced
    exact extends_ sourced

theorem entry_hold (l : Lockstep) (player reader : Player) (frame other : Nat) (buttons : UInt8) :
    ((l.hold player frame buttons).entry other).get reader =
      if other = frame ∧ reader = player then some buttons else (l.entry other).get reader := by
  simp only [hold]
  rw [entry,OrderedMap.get?_insert]
  by_cases there : other = frame
  · rw [if_pos there,Option.getD_some,Ports.get_set,there]
    simp
  · rw [if_neg there,if_neg (fun both => there both.1)]
    rfl

theorem entry_confirm (l : Lockstep) (ports : Ports UInt8) (other : Nat) (later : l.frame + 1 ≤ other) :
    (l.confirm ports).entry other = l.entry other := by
  simp only [confirm,entry,OrderedMap.get?_erase]
  rw [if_neg (by omega)]

theorem retire_drop (confirmed : List ConfirmedInput) (input : ConfirmedInput) :
    retire (confirmed.drop (confirmed.length - historyLimit) ++ [input]) =
      (confirmed ++ [input]).drop (confirmed.length + 1 - historyLimit) := by
  unfold retire
  rw [length_append,length_drop,length_singleton]
  split
  · rename_i full
    have enough : historyLimit ≤ confirmed.length := by omega
    have next : confirmed.length + 1 - historyLimit = (confirmed.length - historyLimit) + 1 := by omega
    rw [next,← drop_append_of_le_length (by omega),tail_drop]
  · rename_i short
    have nothing : confirmed.length + 1 - historyLimit = 0 := by omega
    have neither : confirmed.length - historyLimit = 0 := by omega
    rw [nothing,neither,drop_zero,drop_zero]

theorem accounts_start : Accounts .start := by
  have initial (frame : Nat) : (Trace.start.lockstep.pending.get? frame) =
      if frame < inputDelay then some (.both (some 0)) else none := by
    simp [Trace.start,new,OrderedMap.get?_ofRange]
  constructor
  case window =>
    intro frame present
    rw [initial] at present
    split at present
    · rename_i early
      have : inputDelay < maxAhead := by decide
      exact ⟨Nat.zero_le _,by simp only [Trace.start,new]; omega⟩
    · simp at present
  case held =>
    intro frame player buttons found
    rw [entry,initial] at found
    unfold Sourced
    split
    · rename_i early
      rw [if_pos early] at found
      simpa using found.symm
    · rename_i due
      rw [if_neg due] at found
      simp at found
  case bootstrap =>
    intro _ frame _ early player
    rw [entry,initial,if_pos early]
    simp
  all_goals simp [Trace.start,new,Single]

theorem accounts_submit (trace : Trace) (accounts : Accounts trace) (player : Player) (frame : Nat) (buttons : UInt8) :
    Accounts (trace.step (.submit player frame buttons)) := by
  rcases submit_cases trace.lockstep player frame buttons with
    ⟨outcome,refused,result⟩ | ⟨opened,quiet,current,near,free,result⟩
  · have same : trace.step (.submit player frame buttons) = trace := by
      simp only [Trace.step,result]
    rwa [same]
  · have due : inputDelay ≤ frame := by
      by_contra early
      have preset := accounts.bootstrap opened frame current (by omega) player
      rw [free] at preset
      contradiction
    have next : trace.step (.submit player frame buttons) =
        ⟨trace.lockstep.hold player frame buttons,trace.accepted ++ [⟨player,frame,buttons⟩],trace.confirmed⟩ := by
      simp only [Trace.step,result]
    have grown : trace.accepted ⊆ trace.accepted ++ [⟨player,frame,buttons⟩] := subset_append_left _ _
    have fresh : ∀ submission ∈ trace.accepted, submission.player = player → submission.frame = frame → False := by
      intro submission member who whither
      have present := accounts.kept opened submission member (by omega)
      rw [who,whither,free] at present
      contradiction
    rw [next]
    refine ⟨accounts.counted,accounts.recent,accounts.numbered,?_,?_,?_,?_,?_,?_,?_⟩
    case refine_1 => exact fun at_ input found reader => (accounts.sourced at_ input found reader).mono grown
    case refine_2 =>
      intro other present
      simp only [hold,OrderedMap.get?_insert] at present
      split at present
      · rename_i there
        subst there
        exact ⟨current,near⟩
      · exact accounts.window other present
    case refine_3 =>
      intro other reader found present
      rw [entry_hold] at present
      split at present
      · rename_i there
        obtain rfl := Option.some.inj present
        rw [Sourced,if_neg (by omega)]
        simp [there]
      · exact (accounts.held other reader found present).mono grown
    case refine_4 =>
      intro _ other later early reader
      rw [entry_hold,if_neg (by omega)]
      exact accounts.bootstrap opened other later early reader
    case refine_5 =>
      intro _ submission member later
      rw [entry_hold]
      rcases mem_append.mp member with old | new
      · rw [if_neg (fun both => fresh submission old both.2 both.1)]
        exact accounts.kept opened submission old later
      · obtain rfl := mem_singleton.mp new
        rw [if_pos ⟨rfl,rfl⟩]
    case refine_6 =>
      intro submission member
      rcases mem_append.mp member with old | new
      · exact accounts.late submission old
      · obtain rfl := mem_singleton.mp new
        exact due
    case refine_7 =>
      intro first inFirst second inSecond who whither
      rcases mem_append.mp inFirst with old | new
      · rcases mem_append.mp inSecond with older | newer
        · exact accounts.single first old second older who whither
        · obtain rfl := mem_singleton.mp newer
          exact (fresh first old who whither).elim
      · obtain rfl := mem_singleton.mp new
        rcases mem_append.mp inSecond with older | newer
        · exact (fresh second older who.symm whither.symm).elim
        · exact (mem_singleton.mp newer).symm

theorem accounts_advance (trace : Trace) (accounts : Accounts trace) : Accounts (trace.step .advance) := by
  rcases advance_cases trace.lockstep with ⟨outcome,refused,result⟩ | ⟨one,two,opened,ready,result⟩
  · have same : trace.step .advance = trace := by
      simp only [Trace.step,result]
    rwa [same]
  · have next : trace.step .advance =
        ⟨trace.lockstep.confirm ⟨one,two⟩,trace.accepted,trace.confirmed ++ [⟨trace.lockstep.frame,⟨one,two⟩⟩]⟩ := by
      simp only [Trace.step,result]
    have added (frame : Nat) (input : ConfirmedInput)
        (found : (trace.confirmed ++ [⟨trace.lockstep.frame,⟨one,two⟩⟩])[frame]? = some input) :
        trace.confirmed[frame]? = some input ∨ frame = trace.lockstep.frame ∧ input = ⟨frame,⟨one,two⟩⟩ := by
      rw [List.getElem?_append] at found
      split at found
      · exact .inl found
      · rename_i beyond
        rw [accounts.counted] at beyond found
        obtain ⟨at_,rfl⟩ := List.getElem?_eq_some_iff.mp found
        simp only [length_singleton] at at_
        have here : frame = trace.lockstep.frame := by omega
        exact .inr ⟨here,by simp [here]⟩
    have current (player : Player) :
        (trace.lockstep.entry trace.lockstep.frame).get player = some (Ports.get ⟨one,two⟩ player) := by
      rw [entry,ready]
      cases player <;> rfl
    rw [next]
    refine ⟨?_,?_,?_,?_,?_,?_,?_,?_,accounts.late,accounts.single⟩
    case refine_1 => simp [confirm,accounts.counted]
    case refine_2 =>
      simp only [confirm]
      rw [accounts.recent,← accounts.counted]
      exact retire_drop trace.confirmed _
    case refine_3 =>
      intro frame input found
      rcases added frame input found with old | ⟨here,rfl⟩
      · exact accounts.numbered frame input old
      · rfl
    case refine_4 =>
      intro frame input found player
      rcases added frame input found with old | ⟨here,rfl⟩
      · exact accounts.sourced frame input old player
      · subst here
        exact accounts.held _ player _ (current player)
    case refine_5 =>
      intro frame present
      simp only [confirm,OrderedMap.get?_erase] at present ⊢
      split at present
      · simp at present
      · have inside := accounts.window frame present
        omega
    case refine_6 =>
      intro frame player buttons found
      by_cases here : frame = trace.lockstep.frame
      · simp [confirm,entry,OrderedMap.get?_erase,here] at found
      · refine accounts.held frame player buttons ?_
        simpa [confirm,entry,OrderedMap.get?_erase,here] using found
    case refine_7 =>
      intro _ frame later early player
      rw [entry_confirm _ _ frame later]
      exact accounts.bootstrap opened frame (Nat.le_of_succ_le later) early player
    case refine_8 =>
      intro _ submission member later
      rw [entry_confirm _ _ submission.frame later]
      exact accounts.kept opened submission member (Nat.le_of_succ_le later)

theorem accounts_close (trace : Trace) (accounts : Accounts trace) : Accounts (trace.step .close) := by
  have nothing (frame : Nat) : entry trace.lockstep.close frame = .both none := by simp [entry,close]
  refine ⟨accounts.counted,accounts.recent,accounts.numbered,accounts.sourced,?_,?_,?_,?_,accounts.late,accounts.single⟩
  case refine_1 => simp [Trace.step,close]
  case refine_2 =>
    intro frame player buttons found
    simp only [Trace.step,nothing,Ports.get_both] at found
    contradiction
  all_goals simp [Trace.step,close]

theorem accounts_step (trace : Trace) (accounts : Accounts trace) (operation : Operation) :
    Accounts (trace.step operation) := by
  cases operation with
  | submit player frame buttons => exact accounts_submit trace accounts player frame buttons
  | advance => exact accounts_advance trace accounts
  | close => exact accounts_close trace accounts

theorem accounts_run (operations : List Operation) : Accounts (run operations) := by
  unfold run
  induction operations using List.reverseRecOn with
  | nil => exact accounts_start
  | append_singleton earlier operation ih =>
    rw [foldl_append]
    exact accounts_step _ ih operation

def chosen (accepted : List Submission) (player : Player) (frame : Nat) : UInt8 :=
  ((accepted.find? (fun submission => submission.player == player && submission.frame == frame)).map
    Submission.buttons).getD 0

def agreed (accepted : List Submission) (frame : Nat) : ConfirmedInput :=
  ⟨frame,if frame < inputDelay then .both 0 else ⟨chosen accepted .one frame,chosen accepted .two frame⟩⟩

theorem chosen_of_mem (accepted : List Submission) (single : Single accepted) (submission : Submission)
    (member : submission ∈ accepted) : chosen accepted submission.player submission.frame = submission.buttons := by
  cases found : accepted.find?
      (fun other => other.player == submission.player && other.frame == submission.frame) with
  | none =>
    have missed := List.find?_eq_none.mp found submission member
    simp at missed
  | some other =>
    have matched := List.find?_some found
    simp only [Bool.and_eq_true,beq_iff_eq] at matched
    have same := single other (List.mem_of_find?_eq_some found) submission member matched.1 matched.2
    rw [chosen,found,same]
    rfl

theorem get_agreed (accepted : List Submission) (frame : Nat) (player : Player) :
    (agreed accepted frame).ports.get player = if frame < inputDelay then 0 else chosen accepted player frame := by
  unfold agreed
  split
  · exact Ports.get_both 0 player
  · cases player <;> rfl

theorem agreed_of_sourced (accepted : List Submission) (single : Single accepted) (frame : Nat)
    (input : ConfirmedInput) (numbered : input.frame = frame)
    (sourced : ∀ player, Sourced accepted player frame (input.ports.get player)) :
    agreed accepted frame = input := by
  subst numbered
  have ports : (agreed accepted input.frame).ports = input.ports := by
    apply Ports.ext_get
    intro player
    have origin := sourced player
    unfold Sourced at origin
    rw [get_agreed]
    split at origin
    · rename_i early
      rw [if_pos early,origin]
    · rename_i due
      rw [if_neg due]
      exact chosen_of_mem accepted single _ origin
  cases input
  exact congrArg (ConfirmedInput.mk _) ports

theorem Accounts.confirmed_agreed {trace : Trace} (accounts : Accounts trace) {accepted : List Submission}
    (single : Single accepted) (same : ∀ submission, submission ∈ trace.accepted ↔ submission ∈ accepted) :
    trace.confirmed = (List.range trace.confirmed.length).map (agreed accepted) := by
  apply ext_getElem (by simp)
  intro frame within _
  have found := List.getElem?_eq_getElem within
  have numbered := accounts.numbered frame _ found
  have sourced (player : Player) := (accounts.sourced frame _ found player).mono (fun other => (same other).mp)
  rw [getElem_map,getElem_range]
  exact (agreed_of_sourced accepted single frame _ numbered sourced).symm

theorem Accounts.agreed_accepted {trace : Trace} (accounts : Accounts trace) {accepted : List Submission}
    (single : Single accepted) (same : ∀ submission, submission ∈ trace.accepted ↔ submission ∈ accepted)
    (frame : Nat) (due : inputDelay ≤ frame) (passed : frame < trace.confirmed.length) (player : Player) :
    ⟨player,frame,(agreed accepted frame).ports.get player⟩ ∈ trace.accepted := by
  have found : trace.confirmed[frame]? = some (agreed accepted frame) := by
    rw [accounts.confirmed_agreed single same]
    simp [passed]
  have sourced := accounts.sourced frame _ found player
  rwa [Sourced,if_neg (by omega)] at sourced

/-- Sessions that accepted the same submissions, in any order and with any
advances between, confirm prefixes of one sequence. Refused calls change
nothing, the history is the recent past and held frames stay in the window. -/
theorem confirmation_order_independent (first second : List Operation)
    (same : ∀ submission, submission ∈ (run first).accepted ↔ submission ∈ (run second).accepted) :
    (∃ stream : Nat → ConfirmedInput, (∀ frame, (stream frame).frame = frame) ∧
      (∀ frame < inputDelay, (stream frame).ports = .both 0) ∧
      (∀ submission ∈ (run first).accepted, inputDelay ≤ submission.frame ∧
        (stream submission.frame).ports.get submission.player = submission.buttons) ∧
      ∀ trace ∈ [run first,run second],
        trace.confirmed = (List.range trace.confirmed.length).map stream ∧
        ∀ frame, inputDelay ≤ frame → frame < trace.confirmed.length → ∀ player,
          ⟨player,frame,(stream frame).ports.get player⟩ ∈ trace.accepted) ∧
    (∀ trace ∈ [run first,run second],
      trace.confirmed.length = trace.lockstep.frame ∧
      trace.lockstep.history.length = min historyLimit trace.lockstep.frame ∧
      trace.lockstep.history = trace.confirmed.drop (trace.confirmed.length - min historyLimit trace.lockstep.frame) ∧
      ∀ frame, (trace.lockstep.pending.get? frame).isSome →
        trace.lockstep.frame ≤ frame ∧ frame ≤ trace.lockstep.frame + maxAhead) ∧
    (∀ (l : Lockstep) (player : Player) (frame : Nat) (buttons : UInt8),
      (l.submit player frame buttons).1 ≠ .ok true → (l.submit player frame buttons).2 = l) ∧
    ∀ l : Lockstep, (∀ input, l.advance.1 ≠ .ok (some input)) → l.advance.2 = l := by
  have books := accounts_run first
  refine ⟨⟨agreed (run first).accepted,fun _ => rfl,fun frame early => if_pos early,?_,?_⟩,?_,?_,?_⟩
  case refine_1 =>
    intro submission member
    have due := books.late submission member
    refine ⟨due,?_⟩
    rw [get_agreed,if_neg (by omega)]
    exact chosen_of_mem _ books.single submission member
  case refine_2 =>
    intro trace member
    have inspected : Accounts trace ∧ ∀ submission, submission ∈ trace.accepted ↔ submission ∈ (run first).accepted := by
      rcases mem_pair.mp member with rfl | rfl
      · exact ⟨books,fun _ => Iff.rfl⟩
      · exact ⟨accounts_run second,fun submission => (same submission).symm⟩
    obtain ⟨accounts,shared⟩ := inspected
    exact ⟨accounts.confirmed_agreed books.single shared,accounts.agreed_accepted books.single shared⟩
  case refine_3 =>
    intro trace member
    have accounts : Accounts trace := by
      rcases mem_pair.mp member with rfl | rfl
      · exact books
      · exact accounts_run second
    have skipped : trace.confirmed.length - min historyLimit trace.lockstep.frame =
        trace.lockstep.frame - historyLimit := by
      rw [accounts.counted]
      omega
    refine ⟨accounts.counted,?_,?_,accounts.window⟩
    · rw [accounts.recent,length_drop,accounts.counted]
      omega
    · rw [skipped]
      exact accounts.recent
  case refine_4 =>
    intro l player frame buttons refused
    rcases submit_cases l player frame buttons with ⟨outcome,_,result⟩ | ⟨_,_,_,_,_,result⟩
    · rw [result]
    · exact absurd (congrArg Prod.fst result) refused
  case refine_5 =>
    intro l idle
    rcases advance_cases l with ⟨outcome,_,result⟩ | ⟨one,two,_,_,result⟩
    · rw [result]
    · exact absurd (congrArg Prod.fst result) (idle _)

/-- Two orders of two submissions, the second session one frame behind. -/
theorem confirmation_order_independent_two : ∃ stream : Nat → ConfirmedInput,
    (run [.submit .one 2 5,.advance,.submit .two 2 7,.advance,.advance]).confirmed = (List.range 3).map stream ∧
    (run [.advance,.submit .two 2 7,.submit .one 2 5,.advance]).confirmed = (List.range 2).map stream := by
  obtain ⟨⟨stream,_,_,_,prefixes⟩,_⟩ := confirmation_order_independent
    [.submit .one 2 5,.advance,.submit .two 2 7,.advance,.advance]
    [.advance,.submit .two 2 7,.submit .one 2 5,.advance] (by
      have left : (run [.submit .one 2 5,.advance,.submit .two 2 7,.advance,.advance]).accepted =
          [⟨.one,2,5⟩,⟨.two,2,7⟩] := by decide
      have right : (run [.advance,.submit .two 2 7,.submit .one 2 5,.advance]).accepted =
          [⟨.two,2,7⟩,⟨.one,2,5⟩] := by decide
      intro submission
      rw [left,right,mem_pair,mem_pair]
      exact or_comm)
  exact ⟨stream,(prefixes _ (by simp)).1,(prefixes _ (by simp)).1⟩

end Lockstep
end ZeffBoy.Netplay
