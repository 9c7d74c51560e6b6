import ZeffBoy.Netplay.RollbackInvariant

/-! Arrival of remote inputs in any order.
A run is any sequence of calls on one timeline, failing calls included. The
staleness test of an arrival compares with the first entry of the sparse map; a
map whose first entry is above the confirmation point loses inputs. -/
namespace ZeffBoy.Netplay.Timeline
open Library

inductive Request
  | sampleLocal (buttons : UInt16)
  | receiveRemote (frame : Nat) (buttons : UInt16)
  | advance (input : FrameInput)
  | corrected (replayed : List FrameInput)
deriving DecidableEq

def apply (t : Timeline) : Request → Timeline
  | .sampleLocal buttons => (t.sampleLocal buttons).2
  | .receiveRemote frame buttons => (t.receiveRemote frame buttons).2
  | .advance input => (t.advance input).2
  | .corrected replayed => (t.corrected replayed).2

def run (t : Timeline) (calls : List Request) : Timeline := calls.foldl apply t

-- The frame whose remote input a call fixes, if it accepts one.
def acceptedBy (t : Timeline) : Request → Option Nat
  | .receiveRemote frame buttons => if (t.receiveRemote frame buttons).1 = .ok true then some frame else none
  | _ => none

def acceptedFrames (t : Timeline) : List Request → List Nat
  | [] => []
  | call::rest => (t.acceptedBy call).toList ++ acceptedFrames (t.apply call) rest

/-- The remote input of the frame is neutral by the delay or was accepted before. -/
def Fixed (t : Timeline) (calls : List Request) (frame : Nat) : Prop :=
  frame < t.inputDelay.frames ∨ frame ∈ t.acceptedFrames calls

-- The frame a call stores an entry for, if it gets past its range checks.
def storedFrame (t : Timeline) : Request → Option Nat
  | .sampleLocal _ => some (t.frame + t.inputDelay.frames)
  | .receiveRemote frame _ => if frame ≤ t.frame + t.inputDelay.lookahead then some frame else none
  | _ => none

def Anchored (t : Timeline) (call : Request) : Prop :=
  t.inputs.entries = [] → ∀ frame, t.storedFrame call = some frame → frame = 0

theorem acceptedFrames_append (t : Timeline) (before after : List Request) :
    t.acceptedFrames (before ++ after) = t.acceptedFrames before ++ (t.run before).acceptedFrames after := by
  induction before generalizing t with
  | nil => rfl
  | cons call rest ih => simp [acceptedFrames,ih,run]

theorem run_append (t : Timeline) (before after : List Request) :
    t.run (before ++ after) = (t.run before).run after := by
  simp [run]

theorem advance_failed (t : Timeline) (input : FrameInput) (failed : (t.advance input).1 ≠ .ok ()) :
    (t.advance input).2 = t := by
  unfold Timeline.advance at failed ⊢
  repeat' split
  all_goals simp_all

theorem receiveRemote_inside {t : Timeline} {frame : Nat} {buttons : UInt16} (value : Bool)
    (ok : (t.receiveRemote frame buttons).1 = .ok value) :
    t.frame + t.inputDelay.lookahead < 2^64 ∧ frame ≤ t.frame + t.inputDelay.lookahead := by
  unfold Timeline.receiveRemote checkedAdd at ok
  by_cases fits : t.frame + t.inputDelay.lookahead < 2^64
  · refine ⟨fits,?_⟩
    by_contra outside
    simp only [if_pos fits,not_le.mp outside,if_true] at ok
    contradiction
  · simp only [if_neg fits] at ok
    contradiction

theorem corrected_cases (t : Timeline) (replayed : List FrameInput) :
    (∃ executed, (t.corrected replayed).2 = {t with executed := executed}) ∨
    ∃ executed, (t.corrected replayed).2 = retire {t with executed := executed, dirty := none} := by
  unfold Timeline.corrected
  cases t.correction with
  | error message => exact Or.inl ⟨t.executed,rfl⟩
  | ok plan =>
    by_cases same : replayed = plan
    · simp only [same,if_true]
      rcases replaceAll plan t.executed with ⟨result,executed⟩
      cases result with
      | error message => exact Or.inl ⟨executed,rfl⟩
      | ok value => exact Or.inr ⟨executed,rfl⟩
    · simp only [same,if_false]
      exact Or.inl ⟨t.executed,rfl⟩

theorem updateConfirmation_inputs (t : Timeline) : t.updateConfirmation.2.inputs = t.inputs := rfl

theorem sampleLocal_shape (t : Timeline) (buttons : UInt16) (fits : t.frame + t.inputDelay.frames < 2^64) :
    (t.sampleLocal buttons).2 = (t.record (t.frame + t.inputDelay.frames) t.player
      (((t.entry (t.frame + t.inputDelay.frames)).get t.player).getD buttons) t.dirty).updateConfirmation.2 := by
  simp only [Timeline.sampleLocal,checkedAdd,if_pos fits]

theorem receiveRemote_shape (t : Timeline) (frame : Nat) (buttons : UInt16)
    (fits : t.frame + t.inputDelay.lookahead < 2^64) (inside : frame ≤ t.frame + t.inputDelay.lookahead)
    (fresh : t.oldest ≤ frame) (unknown : (t.entry frame).get (other t.player) = none) :
    (t.receiveRemote frame buttons).2 =
      (t.record frame (other t.player) buttons (t.marked frame buttons)).updateConfirmation.2 := by
  simp only [Timeline.receiveRemote,checkedAdd,if_pos fits,not_lt.mpr inside,not_lt.mpr fresh,if_false,
    unknown,marked]

theorem apply_inputs (t : Timeline) (call : Request) :
    (t.apply call).inputs = t.inputs ∨
    (∃ frame entry, t.storedFrame call = some frame ∧ (t.apply call).inputs = t.inputs.insert frame entry) ∨
    (t.apply call).inputs = t.inputs.retain (fun frame _ => (t.apply call).confirmedFrame - retainedInputs ≤ frame) := by
  cases call with
  | sampleLocal buttons =>
    by_cases fits : t.frame + t.inputDelay.frames < 2^64
    · exact Or.inr (Or.inl ⟨_,_,rfl,by rw [apply,sampleLocal_shape t buttons fits,updateConfirmation_inputs,record]⟩)
    · exact Or.inl (by simp only [apply,Timeline.sampleLocal,checkedAdd,if_neg fits])
  | receiveRemote frame buttons =>
    by_cases fits : t.frame + t.inputDelay.lookahead < 2^64
    · by_cases inside : frame ≤ t.frame + t.inputDelay.lookahead
      · by_cases stale : frame < t.oldest
        · exact Or.inl (by simp only [apply,Timeline.receiveRemote,checkedAdd,if_pos fits,stale,
            not_lt.mpr inside,if_false,if_true])
        · cases known : (t.entry frame).get (other t.player) with
          | some previous =>
            refine Or.inl ?_
            simp only [apply,Timeline.receiveRemote,checkedAdd,if_pos fits,stale,not_lt.mpr inside,if_false,known]
            split <;> rfl
          | none =>
            have shape := receiveRemote_shape t frame buttons fits inside (not_lt.mp stale) known
            exact Or.inr (Or.inl ⟨frame,_,if_pos inside,by rw [apply,shape,updateConfirmation_inputs,record]⟩)
      · exact Or.inl (by simp only [apply,Timeline.receiveRemote,checkedAdd,if_pos fits,not_le.mp inside,if_true])
    · exact Or.inl (by simp only [apply,Timeline.receiveRemote,checkedAdd,if_neg fits])
  | advance input =>
    by_cases ok : (t.advance input).1 = .ok ()
    · obtain ⟨_,_,_,stepped⟩ := advance_ok t input ok
      refine Or.inr (Or.inr ?_)
      simp only [apply,stepped]
      rfl
    · exact Or.inl (by rw [apply,advance_failed t input ok])
  | corrected replayed =>
    rcases corrected_cases t replayed with ⟨executed,shape⟩ | ⟨executed,shape⟩
    · exact Or.inl (by rw [apply,shape])
    · refine Or.inr (Or.inr ?_)
      simp only [apply,shape]
      rfl

section Step
variable {g : Account} {t : Timeline}

theorem Consistent.corrected_failed (c : Consistent g t) (replayed : List FrameInput)
    (different : replayed ≠ t.plan) : (t.corrected replayed).2 = t := by
  simp only [Timeline.corrected,c.correction,different,if_false]

theorem Consistent.apply (c : Consistent g t) (call : Request) :
    (t.apply call).player = t.player ∧ (t.apply call).inputDelay = t.inputDelay ∧
    t.confirmed ≤ (t.apply call).confirmed ∧
    ∃ next, Consistent next (t.apply call) ∧ ∀ f, ((next.known f).get (other t.player)).isSome ↔
      ((g.known f).get (other t.player)).isSome ∨ t.acceptedBy call = some f := by
  have unchanged (call : Request) (same : t.apply call = t) (none : t.acceptedBy call = none) :
      (t.apply call).player = t.player ∧ (t.apply call).inputDelay = t.inputDelay ∧
      t.confirmed ≤ (t.apply call).confirmed ∧
      ∃ next, Consistent next (t.apply call) ∧ ∀ f, ((next.known f).get (other t.player)).isSome ↔
        ((g.known f).get (other t.player)).isSome ∨ t.acceptedBy call = some f := by
    rw [same]
    exact ⟨rfl,rfl,le_rfl,g,c,fun f => by simp [none]⟩
  cases call with
  | sampleLocal buttons =>
    by_cases fits : t.frame + t.inputDelay.frames < 2^64
    · obtain ⟨kept,same,_⟩ := c.sampleLocal buttons fits _ rfl
      refine ⟨same.player,same.inputDelay,same.confirmed,_,kept,fun f => ?_⟩
      simp [fix_known,other_ne,acceptedBy]
    · exact unchanged _ (by simp only [Timeline.apply,Timeline.sampleLocal,checkedAdd,if_neg fits]) rfl
  | receiveRemote frame buttons =>
    by_cases fits : t.frame + t.inputDelay.lookahead < 2^64
    · by_cases inside : frame ≤ t.frame + t.inputDelay.lookahead
      · cases known : (g.known frame).get (other t.player) with
        | some previous =>
          have shape := c.receiveRemote_known frame buttons previous fits inside known
          apply unchanged
          · simp only [Timeline.apply,shape]
            split <;> rfl
          · simp only [acceptedBy,shape]
            split <;> simp
        | none =>
          by_cases fresh : t.oldest ≤ frame
          · obtain ⟨kept,same,_,ok,_⟩ := c.receiveRemote frame buttons fits inside fresh known
            refine ⟨same.player,same.inputDelay,same.confirmed,_,kept,fun f => ?_⟩
            simp only [fix_known,and_true,acceptedBy,ok,if_true,Option.some.injEq]
            by_cases same : f = frame
            · simp [same]
            · simp [same,Ne.symm same]
          · have shape : t.receiveRemote frame buttons = (.ok false,t) := by
              simp only [Timeline.receiveRemote,checkedAdd,if_pos fits,not_lt.mpr inside,
                not_le.mp fresh,if_false,if_true]
            apply unchanged
            · simp only [Timeline.apply,shape]
            · simp [acceptedBy,shape]
      · have shape : t.receiveRemote frame buttons = (.error "remote input exceeds prediction window",t) := by
          simp only [Timeline.receiveRemote,checkedAdd,if_pos fits,not_le.mp inside,if_true]
        apply unchanged
        · simp only [Timeline.apply,shape]
        · simp [acceptedBy,shape]
    · have shape : t.receiveRemote frame buttons = (.error "frame overflow",t) := by
        simp only [Timeline.receiveRemote,checkedAdd,if_neg fits]
      apply unchanged
      · simp only [Timeline.apply,shape]
      · simp [acceptedBy,shape]
  | advance input =>
    by_cases ok : (t.advance input).1 = .ok ()
    · obtain ⟨floor,low,kept⟩ := c.advance input ok
      obtain ⟨_,_,_,stepped⟩ := advance_ok t input ok
      have fields : (t.advance input).2.player = t.player ∧ (t.advance input).2.inputDelay = t.inputDelay ∧
          t.confirmed ≤ (t.advance input).2.confirmed := by
        rw [stepped]
        exact ⟨rfl,rfl,le_rfl⟩
      exact ⟨fields.1,fields.2.1,fields.2.2,_,kept,fun f => by simp [acceptedBy]⟩
    · exact unchanged _ (advance_failed t input ok) rfl
  | corrected replayed =>
    by_cases same : replayed = t.plan
    · subst same
      obtain ⟨_,_,_,confirmed,player,delay,floor,low,kept⟩ := c.corrected
      exact ⟨player,delay,confirmed.ge,_,kept,fun f => by simp [acceptedBy]⟩
    · exact unchanged _ (c.corrected_failed replayed same) rfl

end Step

def Rooted (t : Timeline) : Prop :=
  t.inputs.entries = [] ∨ 0 < t.confirmed ∨ (t.inputs.get? 0).isSome

variable {t : Timeline} {g : Account}

theorem Rooted.apply (rooted : t.Rooted) (c : Consistent g t) (call : Request)
    (anchored : t.Anchored call) : (t.apply call).Rooted := by
  have grows := (c.apply call).2.2.1
  by_cases started : 0 < (t.apply call).confirmed
  · exact Or.inr (Or.inl started)
  · have zero : (t.apply call).confirmedFrame = 0 := by
      simp only [confirmedFrame]
      omega
    rcases apply_inputs t call with same | ⟨frame,entry,stored,same⟩ | same
    · rcases rooted with empty | early | root
      · exact Or.inl (same ▸ empty)
      · omega
      · exact Or.inr (Or.inr (same ▸ root))
    · rcases rooted with empty | early | root
      · obtain rfl := anchored empty frame stored
        exact Or.inr (Or.inr (by simp [same]))
      · omega
      · refine Or.inr (Or.inr ?_)
        rw [same,OrderedMap.get?_insert]
        split
        · rfl
        · exact root
    · rcases rooted with empty | early | root
      · refine Or.inl ?_
        simp [same,OrderedMap.retain,empty]
      · omega
      · refine Or.inr (Or.inr ?_)
        rw [same,OrderedMap.get?_retain_key,if_pos (by simp [zero])]
        exact root

/-- What holds after a run: the calls accepted so far are exactly the fixed remote inputs. -/
def Tracked (player : Player) (delay : InputDelay) (calls : List Request) : Prop :=
  ((withDelay player delay).run calls).player = player ∧
  ((withDelay player delay).run calls).inputDelay = delay ∧
  ∃ g, Consistent g ((withDelay player delay).run calls) ∧
    ∀ f, ((g.known f).get (other player)).isSome ↔ (withDelay player delay).Fixed calls f

theorem tracked (player : Player) (delay : InputDelay) (calls : List Request) : Tracked player delay calls := by
  induction calls using List.reverseRecOn with
  | nil =>
    refine ⟨rfl,rfl,_,consistent_withDelay player delay,fun f => ?_⟩
    by_cases primed : f < delay.frames <;>
      simp [Account.initial,Fixed,acceptedFrames,withDelay,primed]
  | append_singleton calls call ih =>
    obtain ⟨owner,lag,g,c,fixed⟩ := ih
    obtain ⟨player',delay',_,next,kept,known⟩ := c.apply call
    have stepped : (withDelay player delay).run (calls ++ [call]) =
        ((withDelay player delay).run calls).apply call := by
      rw [run_append]
      rfl
    rw [Tracked,stepped]
    refine ⟨player'.trans owner,delay'.trans lag,next,kept,fun f => ?_⟩
    rw [owner] at known
    rw [known,fixed]
    simp only [Fixed,acceptedFrames_append,acceptedFrames,List.append_nil,List.mem_append,Option.mem_toList,or_assoc]

theorem Rooted.oldest (rooted : t.Rooted) : 0 < t.confirmed ∨ t.oldest = 0 := by
  rcases rooted with empty | started | root
  · exact Or.inr (by simp [Timeline.oldest,OrderedMap.first?,empty])
  · exact Or.inl started
  · refine Or.inr ?_
    cases first : t.inputs.first? with
    | none => simp [Timeline.oldest,first]
    | some pair =>
      have least := (OrderedMap.first?_eq_some _ pair.1 pair.2 first).2 0 root
      simp only [Timeline.oldest,first,Option.map_some,Option.getD_some]
      omega

theorem Consistent.stale_known (c : Consistent g t) (rooted : t.Rooted) (frame : Nat)
    (buttons : UInt16) (stale : (t.receiveRemote frame buttons).1 = .ok false) :
    ((g.known frame).get (other t.player)).isSome := by
  cases known : (g.known frame).get (other t.player) with
  | some previous => rfl
  | none =>
    obtain ⟨fits,inside⟩ := receiveRemote_inside false stale
    by_cases fresh : t.oldest ≤ frame
    · have accepted := (c.receiveRemote frame buttons fits inside fresh known).2.2.2.1
      simp [accepted] at stale
    · have above := c.confirmed_le frame (other t.player) known
      rcases rooted.oldest with started | zero
      · have below := c.stale_confirmed frame (by omega) started
        omega
      · omega

def Lossless (t : Timeline) (calls : List Request) : Prop :=
  ∀ before, before <+: calls → ∀ frame buttons,
    ((t.run before).receiveRemote frame buttons).1 = .ok false → t.Fixed before frame

def AnchoredRun (t : Timeline) (calls : List Request) : Prop :=
  ∀ before call, before ++ [call] <+: calls → (t.run before).Anchored call

theorem AnchoredRun.rooted {player : Player} {delay : InputDelay} {calls : List Request}
    (anchored : (withDelay player delay).AnchoredRun calls) : ((withDelay player delay).run calls).Rooted := by
  induction calls using List.reverseRecOn with
  | nil =>
    by_cases zero : delay.frames = 0
    · exact Or.inl (by simp [run,withDelay,OrderedMap.ofRange,zero])
    · exact Or.inr (Or.inl (pos_of_ne_zero zero))
  | append_singleton calls call ih =>
    obtain ⟨_,_,g,c,_⟩ := tracked player delay calls
    have rooted := ih fun before call inside => anchored before call (inside.trans (List.prefix_append _ _))
    rw [run_append]
    exact rooted.apply c call (anchored calls call (List.prefix_refl _))

theorem Consistent.store_empty (c : Consistent g t) (call : Request)
    (empty : t.inputs.entries = []) (frame : Nat) (stored : t.storedFrame call = some frame) :
    g.floor = 0 ∧ t.frame ≤ predictionWindow ∧ (t.apply call).frame = t.frame ∧
    (t.apply call).inputDelay = t.inputDelay ∧ ∃ entry, (t.apply call).inputs = t.inputs.insert frame entry := by
  have floors := c.floor_le
  have absent (key : Nat) : t.inputs.get? key = none := by
    rw [OrderedMap.get?,empty]
    rfl
  have confirmed : t.confirmed = 0 := by
    by_contra started
    have present := c.present g.floor le_rfl (by omega)
    simp [absent] at present
  have depth := c.depth
  have limit := t.inputDelay.bounded
  have root : t.oldest = 0 := by simp [Timeline.oldest,OrderedMap.first?,empty]
  refine ⟨by omega,by omega,?_⟩
  simp only [predictionWindow] at depth
  cases call with
  | sampleLocal buttons =>
    have shape := sampleLocal_shape t buttons (by omega)
    rw [Timeline.apply,shape,← Option.some.inj stored]
    exact ⟨rfl,rfl,_,rfl⟩
  | receiveRemote late buttons =>
    simp only [storedFrame,Option.ite_none_right_eq_some,Option.some.injEq] at stored
    obtain ⟨inside,rfl⟩ := stored
    have fits : t.frame + t.inputDelay.lookahead < 2^64 := by
      simp only [InputDelay.lookahead,InputDelay.pauseLead,predictionWindow]
      omega
    have shape := receiveRemote_shape t late buttons fits inside (by omega) (by simp [entry,absent])
    rw [Timeline.apply,shape]
    exact ⟨rfl,rfl,_,rfl⟩
  | advance input => simp [storedFrame] at stored
  | corrected replayed => simp [storedFrame] at stored

theorem Consistent.unanchored_lost (c : Consistent g t) (call : Request)
    (empty : t.inputs.entries = []) (frame : Nat) (stored : t.storedFrame call = some frame) (later : frame ≠ 0)
    (buttons : UInt16) :
    ((t.apply call).receiveRemote 0 buttons).1 = .ok false ∧ (g.known 0).get (other t.player) = none ∧
    t.acceptedBy call ≠ some 0 := by
  obtain ⟨floor,depth,same,delay,entry,inputs⟩ := c.store_empty call empty frame stored
  have limit := t.inputDelay.bounded
  have fits : (t.apply call).frame + (t.apply call).inputDelay.lookahead < 2^64 := by
    simp only [same,delay,InputDelay.lookahead,InputDelay.pauseLead,predictionWindow] at depth ⊢
    omega
  have stale : 0 < (t.apply call).oldest := by
    simp only [Timeline.oldest,inputs,OrderedMap.first?,OrderedMap.insert,empty,OrderedMap.insertEntry,
      List.head?_cons,Option.map_some,Option.getD_some]
    exact pos_of_ne_zero later
  have unknown : g.known 0 = .both none := by
    rcases c.missing 0 (by rw [OrderedMap.get?,empty]; rfl) with none | retired
    · exact none
    · omega
  refine ⟨?_,by simp [unknown],?_⟩
  · simp only [Timeline.receiveRemote,checkedAdd,if_pos fits,Nat.not_lt_zero,stale,if_false,if_true]
  · intro accepted
    cases call with
    | receiveRemote late value =>
      simp only [acceptedBy,Option.ite_none_right_eq_some,Option.some.injEq] at accepted
      simp only [storedFrame,Option.ite_none_right_eq_some,Option.some.injEq] at stored
      omega
    | sampleLocal value => simp [acceptedBy] at accepted
    | advance input => simp [acceptedBy] at accepted
    | corrected replayed => simp [acceptedBy] at accepted

/-- A timeline discards no open remote input exactly when the first entry it ever stores is that of frame zero:
with a positive delay always, and without delay as long as no call stores a later frame into the empty map. -/
theorem lossless_iff_anchored (player : Player) (delay : InputDelay) (calls : List Request) :
    (withDelay player delay).Lossless calls ↔ (withDelay player delay).AnchoredRun calls := by
  constructor
  · intro lossless before call inside empty frame stored
    by_contra later
    obtain ⟨owner,_,g,c,fixed⟩ := tracked player delay before
    obtain ⟨lost,unknown,refused⟩ := c.unanchored_lost call empty frame stored later 0
    have closed := lossless (before ++ [call]) inside 0 0 (by rw [run_append]; exact lost)
    have known := (fixed 0).mpr (by
      simpa [Fixed,acceptedFrames_append,acceptedFrames,refused] using closed)
    rw [owner] at unknown
    simp [unknown] at known
  · intro anchored before inside frame buttons stale
    obtain ⟨owner,_,g,c,fixed⟩ := tracked player delay before
    have rooted := AnchoredRun.rooted fun shorter call within => anchored shorter call (within.trans inside)
    have known := c.stale_known rooted frame buttons stale
    rw [owner] at known
    exact (fixed frame).mp known

theorem withDelay_zero_discards :
    ¬ (∀ player delay calls, (withDelay player delay).Lossless calls) := by
  intro lossless
  have lost := lossless .one ⟨0,by decide⟩ [.receiveRemote 3 5] _ (List.prefix_refl _) 0 7 (by decide)
  rcases lost with primed | accepted
  · exact absurd primed (by decide)
  · exact absurd accepted (by decide)

end ZeffBoy.Netplay.Timeline
