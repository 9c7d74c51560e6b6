import ZeffBoy.Tas.DigitalTransform
import ZeffBoy.Tas.PatternTiling

/-! What the digital transforms do frame by frame.
Every transform pushes segments that cover the pattern without gaps, each with the one input
its frames shall have, so the result shows that input at every frame. -/
namespace ZeffBoy.Tas
open Library Spans List

def TasControllerInput.control (controller : TasControllerInput) (pad : Bool) (bit : Fin 8) : Bool :=
  (if pad then controller.dpad else controller.buttons).toBitVec.getLsbD bit

def TasInputFrame.control (input : TasInputFrame) (player : Fin 5) (pad : Bool) (bit : Fin 8) : Bool :=
  (input.players.get player).control pad bit

def TasDigitalInputMask.selects (mask : TasDigitalInputMask) (player : Fin 5) (pad : Bool) (bit : Fin 8) : Bool :=
  (mask.players.get player).control pad bit

/-- The selected controls are those of the source, the others and all other fields are kept. -/
structure Edited (selects source : Fin 5 → Bool → Fin 8 → Bool) (old new : TasInputFrame) : Prop where
  controls : ∀ player pad bit, new.control player pad bit =
    if selects player pad bit then source player pad bit else old.control player pad bit
  others : new = { old with players := new.players }

theorem controller_ext (left right : TasControllerInput) (same : ∀ pad bit, left.control pad bit = right.control pad bit) :
    left = right := by
  have buttons : left.buttons = right.buttons := by
    apply UInt8.toBitVec_inj.mp
    apply BitVec.eq_of_getLsbD_eq
    intro bit below
    exact same false ⟨bit,below⟩
  have dpad : left.dpad = right.dpad := by
    apply UInt8.toBitVec_inj.mp
    apply BitVec.eq_of_getLsbD_eq
    intro bit below
    exact same true ⟨bit,below⟩
  cases left
  cases right
  simp only at buttons dpad
  rw [buttons,dpad]

theorem frame_ext (left right : TasInputFrame) (others : left = { right with players := left.players })
    (same : ∀ player pad bit, left.control player pad bit = right.control player pad bit) : left = right := by
  have players : left.players = right.players := by
    apply List.Vector.ext
    intro player
    apply controller_ext
    exact same player
  rw [others,players]

theorem Edited.back {selects source source' : Fin 5 → Bool → Fin 8 → Bool} {old middle new : TasInputFrame}
    (first : Edited selects source old middle) (second : Edited selects source' middle new)
    (restored : ∀ player pad bit, selects player pad bit = true → source' player pad bit = old.control player pad bit) :
    new = old := by
  apply frame_ext
  · rw [second.others,first.others]
  · intro player pad bit
    have changed := second.controls player pad bit
    have earlier := first.controls player pad bit
    by_cases selected : selects player pad bit = true
    · rw [if_pos selected,restored player pad bit selected] at changed
      exact changed
    · rw [if_neg selected] at changed earlier
      exact changed.trans earlier

theorem edited_clearChannels (input : TasInputFrame) (mask : TasDigitalInputMask) :
    Edited mask.selects (fun _ _ _ => false) input (clearChannels input mask) := by
  refine ⟨fun player pad bit => ?_,rfl⟩
  simp only [TasInputFrame.control,TasDigitalInputMask.selects,TasControllerInput.control,clearChannels,mapPlayers,
    List.Vector.get_ofFn]
  cases pad <;> simp <;> grind

theorem clearChannels_neutral (mask : TasDigitalInputMask) : clearChannels {} mask = {} := by
  apply frame_ext _ _ (edited_clearChannels {} mask).others
  intro player pad bit
  have quiet : ({} : TasInputFrame).control player pad bit = false := by
    rw [TasInputFrame.control,List.Vector.get_replicate,TasControllerInput.control]
    cases pad <;> simp
  rw [(edited_clearChannels {} mask).controls,quiet,ite_self]

theorem edited_invertChannels (input : TasInputFrame) (mask : TasDigitalInputMask) :
    Edited mask.selects (fun player pad bit => !input.control player pad bit) input (invertChannels input mask) := by
  refine ⟨fun player pad bit => ?_,rfl⟩
  simp only [TasInputFrame.control,TasDigitalInputMask.selects,TasControllerInput.control,invertChannels,mapPlayers,
    List.Vector.get_ofFn]
  cases pad <;> simp <;> grind

theorem edited_selectChannels (input source : TasInputFrame) (mask : TasDigitalInputMask) :
    Edited mask.selects source.control input (selectChannels input source mask) := by
  refine ⟨fun player pad bit => ?_,rfl⟩
  simp only [TasInputFrame.control,TasDigitalInputMask.selects,TasControllerInput.control,selectChannels,mapPlayers,
    List.Vector.get_ofFn]
  cases pad <;> simp <;> grind

def autofireMask (player : Nat) (buttonsMask dpadMask : UInt8) : TasDigitalInputMask :=
  ⟨List.Vector.ofFn (fun index => if index = player then ⟨buttonsMask,dpadMask⟩ else {})⟩

theorem edited_pressChannels (input : TasInputFrame) (player : Nat) (buttonsMask dpadMask : UInt8) (pressed : Bool) :
    Edited (autofireMask player buttonsMask dpadMask).selects (fun _ _ _ => pressed) input
      (pressChannels input player buttonsMask dpadMask pressed) := by
  refine ⟨fun index pad bit => ?_,rfl⟩
  simp only [TasInputFrame.control,TasDigitalInputMask.selects,TasControllerInput.control,pressChannels,mapPlayers,
    autofireMask,List.Vector.get_ofFn]
  by_cases chosen : index = player
  · simp only [if_pos chosen]
    cases pad <;> cases pressed <;> simp <;> grind
  · simp only [if_neg chosen]
    cases pad <;> simp

theorem foldlM_pushActive (runs spans : List TasInputSpan) : runs.foldlM pushActive spans =
    pushSpans spans (runs.filter (fun run => run.value ≠ {})) maxTasInputPatternSpans := by
  induction runs generalizing spans with
  | nil => rfl
  | cons run runs ih =>
    rw [foldlM_cons,pushActive]
    by_cases active : run.value ≠ {}
    · have kept : (run::runs).filter (fun run => run.value ≠ {}) = run::runs.filter (fun run => run.value ≠ {}) :=
        filter_cons_of_pos (decide_eq_true active)
      rw [if_pos active,kept,pushSpans,foldlM_cons]
      exact bind_congr fun spans => ih spans
    · have dropped : (run::runs).filter (fun run => run.value ≠ {}) = runs.filter (fun run => run.value ≠ {}) :=
        filter_cons_of_neg fun holds => active (of_decide_eq_true holds)
      rw [if_neg active,dropped,ok_bind,ih]

theorem foldlM_pushActive_normalize (runs : List TasInputSpan) (ordered : Ordered runs)
    (bound : ∀ run ∈ runs, 0 < run.length ∧ run.stop < 2^64) : runs.foldlM pushActive [] =
      if (normalize {} runs).length ≤ maxTasInputPatternSpans then .ok (normalize {} runs)
      else .error (spanLimitMessage maxTasInputPatternSpans) := by
  have kept : ∀ run ∈ runs.filter (fun run => run.value ≠ {}), run ∈ runs ∧ run.value ≠ {} := by
    intro run member
    obtain ⟨belongs,active⟩ := mem_filter.mp member
    exact ⟨belongs,of_decide_eq_true active⟩
  have orderedKept : Ordered (runs.filter (fun run => run.value ≠ {})) := ordered.sublist filter_sublist
  have same : normalize {} (runs.filter (fun run => run.value ≠ {})) = normalize {} runs := by
    rw [normalize_of_ordered _ _ orderedKept,normalize_of_ordered _ _ ordered,foldl_mergeStep,foldl_mergeStep,
      filter_filter]
    congr 2
    refine filter_congr fun run _ => ?_
    simp only [← Bool.decide_and,decide_eq_decide]
    tauto
  rw [foldlM_pushActive,pushSpans_normalize _ _ orderedKept,same]
  · exact fun run member => ⟨(bound run (kept run member).1).1,(kept run member).2⟩
  · exact fun run member => (bound run (kept run member).1).2

namespace InputSegment

def span (segment : InputSegment) : TasInputSpan := ⟨segment.start,segment.stop - segment.start,segment.input⟩

end InputSegment

/-- Segments that cover the frames from a cursor to an end, one right behind the other. -/
def Complete (cursor length : Nat) : List InputSegment → Prop
  | [] => cursor = length
  | segment::segments => segment.start = cursor ∧ cursor < segment.stop ∧ Complete segment.stop length segments

def Reads (input : Nat → TasInputFrame) (segments : List InputSegment) : Prop :=
  ∀ segment ∈ segments, ∀ frame, segment.start ≤ frame → frame < segment.stop → segment.input = input frame

namespace Complete

variable {segments : List InputSegment} {cursor length : Nat}

theorem le (complete : Complete cursor length segments) :
    cursor ≤ length := by
  induction segments generalizing cursor with
  | nil => exact le_of_eq complete
  | cons segment segments ih => exact (le_of_lt complete.2.1).trans (ih complete.2.2)

theorem inside (complete : Complete cursor length segments) :
    ∀ segment ∈ segments, cursor ≤ segment.start ∧ segment.start < segment.stop ∧ segment.stop ≤ length := by
  induction segments generalizing cursor with
  | nil => exact fun _ member => nomatch member
  | cons segment segments ih =>
    obtain ⟨rfl,filled,rest⟩ := complete
    refine forall_mem_cons.mpr ⟨⟨le_rfl,filled,rest.le⟩,fun other member => ?_⟩
    obtain ⟨after,short,stop⟩ := ih rest other member
    exact ⟨(le_of_lt filled).trans after,short,stop⟩

theorem map (convert : TasInputFrame → TasInputFrame)
    (complete : Complete cursor length segments) :
    Complete cursor length (segments.map (fun segment => ⟨segment.start,segment.stop,convert segment.input⟩)) := by
  induction segments generalizing cursor with
  | nil => exact complete
  | cons segment segments ih => exact ⟨complete.1,complete.2.1,ih complete.2.2⟩

theorem ordered (complete : Complete cursor length segments) :
    Ordered (segments.map InputSegment.span) := by
  induction segments generalizing cursor with
  | nil => exact List.Pairwise.nil
  | cons segment segments ih =>
    obtain ⟨rfl,filled,rest⟩ := complete
    refine pairwise_cons.mpr ⟨fun span member => ?_,ih rest⟩
    obtain ⟨other,belongs,rfl⟩ := mem_map.mp member
    have after := (rest.inside other belongs).1
    simp only [InputSegment.span,Span.stop]
    omega

theorem covers (complete : Complete cursor length segments)
    (frame : Nat) (reached : cursor ≤ frame) (below : frame < length) :
    ∃ segment ∈ segments, segment.start ≤ frame ∧ frame < segment.stop := by
  induction segments generalizing cursor with
  | nil =>
    rw [Complete] at complete
    omega
  | cons segment segments ih =>
    obtain ⟨rfl,filled,rest⟩ := complete
    rcases lt_or_ge frame segment.stop with short | past
    · exact ⟨segment,mem_cons_self,reached,short⟩
    · obtain ⟨other,member,holds⟩ := ih rest past
      exact ⟨other,mem_cons_of_mem _ member,holds⟩

theorem append {cursor middle length : Nat} {front back : List InputSegment} (first : Complete cursor middle front)
    (second : Complete middle length back) : Complete cursor length (front ++ back) := by
  induction front generalizing cursor with
  | nil =>
    rw [Complete] at first
    exact first ▸ second
  | cons segment front ih =>
    obtain ⟨begins,filled,rest⟩ := first
    exact ⟨begins,filled,ih rest⟩

theorem mirrored (complete : Complete cursor length segments)
    (total : Nat) (within : length ≤ total) : Complete (total - length) (total - cursor)
      (segments.reverse.map (fun segment => ⟨total - segment.stop,total - segment.start,segment.input⟩)) := by
  induction segments generalizing cursor with
  | nil =>
    rw [Complete] at complete
    rw [reverse_nil,map_nil,Complete,complete]
  | cons segment segments ih =>
    obtain ⟨rfl,filled,rest⟩ := complete
    rw [reverse_cons,map_append]
    have end_ := rest.le
    exact (ih rest).append ⟨rfl,by dsimp only; omega,rfl⟩

end Complete

theorem Reads.mirrored {input : Nat → TasInputFrame} {length : Nat} {segments : List InputSegment}
    (complete : Complete 0 length segments) (reads : Reads input segments) :
    Reads (fun frame => input (length - 1 - frame))
      (segments.reverse.map (fun segment => ⟨length - segment.stop,length - segment.start,segment.input⟩)) := by
  intro _ member frame begun before
  obtain ⟨segment,belongs,rfl⟩ := mem_map.mp member
  have old := mem_reverse.mp belongs
  have bounds := complete.inside segment old
  dsimp only at begun before ⊢
  exact reads segment old _ (by omega) (by omega)

theorem inputAt_of_segments (length : Nat) (limit : length ≤ maxProjectFrames) (segments : List InputSegment)
    (input : Nat → TasInputFrame) (complete : Complete 0 length segments) (reads : Reads input segments)
    (spans : List TasInputSpan) (pushed : (segments.map InputSegment.span).foldlM pushActive [] = .ok spans)
    (result : TasInputPattern) (built : TasInputPattern.new length spans = .ok result) :
    result.length = length ∧ ∀ frame < length, result.inputAt frame = input frame := by
  have bound : ∀ run ∈ segments.map InputSegment.span, 0 < run.length ∧ run.stop < 2^64 := by
    intro run member
    obtain ⟨segment,belongs,rfl⟩ := mem_map.mp member
    have inside := complete.inside segment belongs
    rw [maxProjectFrames] at limit
    simp only [InputSegment.span,Span.stop]
    omega
  obtain ⟨same,rfl⟩ := (TasInputPattern.new_ok _ _ _).mp built
  rw [foldlM_pushActive_normalize _ complete.ordered bound] at pushed
  split at pushed
  · obtain normal := Except.ok.inj pushed
    refine ⟨same,fun frame below => ?_⟩
    obtain ⟨segment,member,begun,before⟩ := complete.covers frame zero_le below
    rw [TasInputPattern.inputAt,← normal,valueAt_normalize _ _ complete.ordered,← reads segment member frame begun before]
    refine valueAt_of_shows _ _ complete.ordered _ _ ⟨segment.span,mem_map_of_mem member,⟨begun,?_⟩,rfl⟩
    simp only [InputSegment.span,Span.stop]
    omega
  · cases pushed

end ZeffBoy.Tas
