import ZeffBoy.Tas.DigitalFrames

/-! The digital transforms are exact.
Completing a pattern, mirroring it, walking two patterns together and cutting one at the phases
of a period all give segments that cover the frames, each with one input. -/
namespace ZeffBoy.Tas
open Library Spans List

theorem pushSegment_ok {segments result : List InputSegment} {start stop : Nat} {input : TasInputFrame}
    (ok : pushSegment segments start stop input = .ok result) : result = segments ++ [⟨start,stop,input⟩] := by
  obtain ⟨_,ok⟩ := check_bind_ok.mp ok
  exact (Except.ok.inj ok).symm

namespace TasInputPattern

theorem completeFrom_ok (length : Nat) (spans : List TasInputSpan) (segments result : List InputSegment) (cursor : Nat)
    (canonical : Canonical {} spans) (inside : ∀ span ∈ spans, cursor ≤ span.start ∧ span.stop ≤ length)
    (within : cursor ≤ length) (ok : completeFrom length segments cursor spans = .ok result) :
    ∃ added, result = segments ++ added ∧ Complete cursor length added ∧ Reads (valueAt {} spans) added := by
  induction spans generalizing segments cursor with
  | nil =>
    rw [completeFrom,pushGap] at ok
    split at ok
    · rename_i below
      refine ⟨_,pushSegment_ok ok,⟨rfl,below,rfl⟩,?_⟩
      intro segment member frame _ _
      obtain rfl := mem_singleton.mp member
      rfl
    · rename_i past
      obtain rfl := Except.ok.inj ok
      exact ⟨[],(append_nil _).symm,le_antisymm within (Nat.le_of_not_lt past),fun _ member => nomatch member⟩
  | cons span spans ih =>
    obtain ⟨filled,_⟩ := canonical.active span mem_cons_self
    obtain ⟨below,_⟩ := pairwise_cons.mp canonical.ordered
    obtain ⟨⟨reached,stop⟩,others⟩ := forall_mem_cons.mp inside
    rw [completeFrom] at ok
    obtain ⟨gap,gapped,ok⟩ := bind_ok.mp ok
    obtain ⟨pushed,covered,ok⟩ := bind_ok.mp ok
    obtain ⟨later,rfl,complete,reads⟩ := ih pushed span.stop canonical.tail
      (fun other member => ⟨below other member,(others other member).2⟩) stop ok
    obtain rfl := pushSegment_ok covered
    have short : span.start < span.stop := Nat.lt_add_of_pos_right filled
    have behind : Reads (valueAt {} (span::spans)) later := by
      intro segment member frame begun before
      rw [valueAt_cons_past span spans frame (((complete.inside segment member).1).trans begun)]
      exact reads segment member frame begun before
    have own : Reads (valueAt {} (span::spans)) (⟨span.start,span.stop,span.value⟩::later) := by
      refine forall_mem_cons.mpr ⟨fun frame begun before => ?_,behind⟩
      rw [valueAt_cons_covers span spans frame ⟨begun,before⟩]
    rw [pushGap] at gapped
    split at gapped
    · rename_i apart
      obtain rfl := pushSegment_ok gapped
      refine ⟨⟨cursor,span.start,{}⟩::⟨span.start,span.stop,span.value⟩::later,by simp,⟨rfl,apart,rfl,short,complete⟩,?_⟩
      refine forall_mem_cons.mpr ⟨fun frame _ before => ?_,own⟩
      rw [valueAt_cons_before span spans frame before]
    · rename_i touching
      obtain rfl := Except.ok.inj gapped
      have begins : span.start = cursor := le_antisymm (Nat.le_of_not_lt touching) reached
      exact ⟨⟨span.start,span.stop,span.value⟩::later,by simp,⟨begins,begins ▸ short,complete⟩,own⟩

variable (pattern : TasInputPattern)

theorem completeSegments_ok (segments : List InputSegment) (ok : pattern.completeSegments = .ok segments) :
    Complete 0 pattern.length segments ∧ Reads pattern.inputAt segments := by
  obtain ⟨added,rfl,complete,reads⟩ := completeFrom_ok pattern.length pattern.spans [] segments 0 pattern.canonical
    (fun span member => ⟨Nat.zero_le _,pattern.inside span member⟩) zero_le ok
  exact ⟨complete,reads⟩

end TasInputPattern

/-- What is left of a walk over segments: the first one may have been entered. -/
def Remaining (cursor length : Nat) : List InputSegment → Prop
  | [] => cursor = length
  | segment::segments => segment.start ≤ cursor ∧ cursor < segment.stop ∧ Complete segment.stop length segments

variable {segments : List InputSegment} {cursor length : Nat}

theorem Complete.remaining (complete : Complete cursor length segments) :
    Remaining cursor length segments := by
  cases segments with
  | nil => exact complete
  | cons segment segments => exact ⟨le_of_eq complete.1,complete.2⟩

theorem Remaining.head_le (remaining : Remaining cursor length segments)
    (segment : InputSegment) (first : segments.head? = some segment) : segment.start ≤ cursor := by
  cases segments with
  | nil => nomatch first
  | cons other segments =>
    obtain rfl := Option.some.inj first
    exact remaining.1

theorem Remaining.advance {segment : InputSegment}
    (remaining : Remaining cursor length (segment::segments)) (stop : Nat) (moved : cursor < stop)
    (reach : stop ≤ segment.stop) :
    Remaining stop length (if segment.stop = stop then segments else segment::segments) ∧
      (segment.stop = stop → ∀ next, (if segment.stop = stop then segments else segment::segments).head? = some next →
        next.start = stop) := by
  obtain ⟨begun,_,complete⟩ := remaining
  by_cases ended : segment.stop = stop
  · rw [if_pos ended]
    rw [ended] at complete
    refine ⟨complete.remaining,fun _ next first => ?_⟩
    cases segments with
    | nil => nomatch first
    | cons other segments =>
      obtain rfl := Option.some.inj first
      exact complete.1
  · rw [if_neg ended]
    exact ⟨⟨by omega,by omega,complete⟩,fun same => absurd same ended⟩

theorem reads_advance {input : Nat → TasInputFrame} {segment : InputSegment}
    (reads : Reads input (segment::segments)) (stop : Nat) :
    Reads input (if segment.stop = stop then segments else segment::segments) := by
  split
  · exact fun other member => reads other (mem_cons_of_mem _ member)
  · exact reads

theorem mergeSegments_ok (merge : TasInputFrame → TasInputFrame → TasDigitalInputMask → TasInputFrame)
    (mask : TasDigitalInputMask) (length : Nat) (left right : Nat → TasInputFrame) (steps : Nat)
    (spans result : List TasInputSpan) (destinations sources : List InputSegment) (cursor : Nat)
    (first : Remaining cursor length destinations) (second : Remaining cursor length sources)
    (aligned : ∀ destination source, destinations.head? = some destination → sources.head? = some source →
      max destination.start source.start = cursor)
    (readsLeft : Reads left destinations) (readsRight : Reads right sources)
    (ok : mergeSegments merge mask spans steps destinations sources = .ok result) :
    ∃ runs, Complete cursor length runs ∧ Reads (fun frame => merge (left frame) (right frame) mask) runs ∧
      (runs.map InputSegment.span).foldlM pushActive spans = .ok result := by
  induction steps generalizing spans destinations sources cursor with
  | zero =>
    cases destinations with
    | nil =>
      obtain rfl := Except.ok.inj ok
      exact ⟨[],first,fun _ member => (nomatch member),rfl⟩
    | cons destination destinations =>
      cases sources with
      | nil =>
        obtain rfl := Except.ok.inj ok
        exact ⟨[],second,fun _ member => (nomatch member),rfl⟩
      | cons source sources => nomatch ok
  | succ steps ih =>
    cases destinations with
    | nil =>
      obtain rfl := Except.ok.inj ok
      exact ⟨[],first,fun _ member => (nomatch member),rfl⟩
    | cons destination destinations =>
      cases sources with
      | nil =>
        obtain rfl := Except.ok.inj ok
        exact ⟨[],second,fun _ member => (nomatch member),rfl⟩
      | cons source sources =>
        have start : max destination.start source.start = cursor := aligned _ _ rfl rfl
        have moved : cursor < min destination.stop source.stop := lt_min first.2.1 second.2.1
        obtain ⟨firstLeft,touchLeft⟩ := first.advance _ moved (min_le_left _ _)
        obtain ⟨firstRight,touchRight⟩ := second.advance _ moved (min_le_right _ _)
        have alignedNext : ∀ next next', (if destination.stop = min destination.stop source.stop then destinations
            else destination::destinations).head? = some next → (if source.stop = min destination.stop source.stop then
            sources else source::sources).head? = some next' →
            max next.start next'.start = min destination.stop source.stop := by
          intro next next' headLeft headRight
          have begunLeft := firstLeft.head_le next headLeft
          have begunRight := firstRight.head_le next' headRight
          rcases Nat.le_total destination.stop source.stop with shorter | longer
          · have touching := touchLeft (min_eq_left shorter).symm next headLeft
            omega
          · have touching := touchRight (min_eq_right longer).symm next' headRight
            omega
        rw [mergeSegments] at ok
        obtain ⟨pushed,active,ok⟩ := bind_ok.mp ok
        obtain ⟨runs,complete,reads,folded⟩ := ih pushed _ _ _ firstLeft firstRight alignedNext
          (reads_advance readsLeft _) (reads_advance readsRight _) ok
        refine ⟨⟨cursor,min destination.stop source.stop,merge destination.input source.input mask⟩::runs,
          ⟨rfl,moved,complete⟩,forall_mem_cons.mpr ⟨fun frame begun before => ?_,reads⟩,?_⟩
        · have inLeft := readsLeft destination mem_cons_self frame (first.1.trans begun)
            (lt_of_lt_of_le before (min_le_left _ _))
          have inRight := readsRight source mem_cons_self frame (second.1.trans begun)
            (lt_of_lt_of_le before (min_le_right _ _))
          dsimp only
          rw [inLeft,inRight]
        · rw [start] at active
          rw [map_cons,foldlM_cons,InputSegment.span,active,ok_bind,folded]

theorem sourceInput_until (length : Nat) (sources : List TasInputSpan) (ordered : Ordered sources) (cursor : Nat)
    (below : cursor < length) (reach : ∀ span ∈ sources, cursor < span.stop) :
    cursor < (TasInputPattern.sourceInput length cursor sources).2 ∧
      ∀ frame, cursor ≤ frame → frame < (TasInputPattern.sourceInput length cursor sources).2 →
        valueAt {} sources frame = (TasInputPattern.sourceInput length cursor sources).1 := by
  cases sources with
  | nil => exact ⟨below,fun _ _ _ => rfl⟩
  | cons span rest =>
    rw [TasInputPattern.sourceInput]
    split
    · rename_i begun
      refine ⟨reach span mem_cons_self,fun frame reached before => ?_⟩
      exact valueAt_cons_covers span rest frame ⟨begun.trans reached,before⟩
    · rename_i unbegun
      refine ⟨Nat.lt_of_not_le unbegun,fun frame reached before => ?_⟩
      exact valueAt_cons_before span rest frame before

theorem phase_until (length cursor period onFrames : Nat) (filled : 0 < period) (within : onFrames ≤ period)
    (below : cursor < length) :
    cursor < TasInputPattern.patternEnd length cursor period onFrames ∧
      ∀ frame, cursor ≤ frame → frame < TasInputPattern.patternEnd length cursor period onFrames →
        (frame % period < onFrames ↔ cursor % period < onFrames) := by
  have residue := Nat.mod_lt cursor filled
  rw [TasInputPattern.patternEnd]
  split
  · refine ⟨below,fun frame _ _ => ?_⟩
    have other := Nat.mod_lt frame filled
    omega
  · have moved : ∀ frame, cursor ≤ frame → frame < cursor + period - cursor % period →
        frame % period = cursor % period + (frame - cursor) := by
      intro frame reached before
      have split := Nat.div_add_mod' cursor period
      calc frame % period = (cursor % period + (frame - cursor) + cursor / period * period) % period := by
            congr 1
            omega
        _ = (cursor % period + (frame - cursor)) % period := Nat.add_mul_mod_self_right _ _ _
        _ = cursor % period + (frame - cursor) := Nat.mod_eq_of_lt (by omega)
    split
    · refine ⟨by omega,fun frame reached before => ?_⟩
      have := moved frame reached (by omega)
      omega
    · refine ⟨by omega,fun frame reached before => ?_⟩
      have := moved frame reached before
      omega

namespace TasInputPattern
variable (pattern : TasInputPattern)

theorem autofireRuns_ok (player : Nat) (buttonsMask dpadMask : UInt8) (period onFrames : Nat) (filled : 0 < period)
    (within : onFrames ≤ period) (steps : Nat) (spans result sources : List TasInputSpan) (cursor : Nat)
    (ordered : Ordered sources) (reached : cursor ≤ pattern.length)
    (ok : pattern.autofireRuns player buttonsMask dpadMask period onFrames spans sources cursor steps = .ok result) :
    ∃ runs, Complete cursor pattern.length runs ∧ Reads (fun frame =>
      pressChannels (valueAt {} sources frame) player buttonsMask dpadMask (decide (frame % period < onFrames))) runs ∧
      (runs.map InputSegment.span).foldlM pushActive spans = .ok result := by
  induction steps generalizing spans sources cursor with
  | zero =>
    rw [autofireRuns] at ok
    split at ok
    · nomatch ok
    · rename_i past
      obtain rfl := Except.ok.inj ok
      exact ⟨[],le_antisymm reached (Nat.le_of_not_lt past),fun _ member => (nomatch member),rfl⟩
  | succ steps ih =>
    rw [autofireRuns] at ok
    split at ok
    · rename_i below
      have later := ordered.sublist (dropWhile_sublist (fun span : TasInputSpan => span.stop ≤ cursor))
      have reach := stop_of_dropWhile cursor sources ordered
      have same : ∀ frame, cursor ≤ frame → valueAt {} sources frame =
          valueAt {} (sources.dropWhile (fun span => span.stop ≤ cursor)) frame :=
        fun frame begun => (valueAt_dropWhile sources cursor frame begun).symm
      dsimp only at ok
      generalize sources.dropWhile (fun span => span.stop ≤ cursor) = rest at ok later reach same
      obtain ⟨sourceAhead,sourceKept⟩ := sourceInput_until pattern.length rest later cursor below reach
      obtain ⟨phaseAhead,phaseKept⟩ := phase_until pattern.length cursor period onFrames filled within below
      generalize sourceInput pattern.length cursor rest = source at ok sourceAhead sourceKept
      generalize patternEnd pattern.length cursor period onFrames = turn at ok phaseAhead phaseKept
      obtain ⟨pushed,active,ok⟩ := bind_ok.mp ok
      obtain ⟨runs,complete,reads,folded⟩ := ih pushed rest _ later (min_le_right _ _) ok
      have moved : cursor < min (min source.2 turn) pattern.length := lt_min (lt_min sourceAhead phaseAhead) below
      refine ⟨⟨cursor,min (min source.2 turn) pattern.length,
          pressChannels source.1 player buttonsMask dpadMask (decide (cursor % period < onFrames))⟩::runs,
        ⟨rfl,moved,complete⟩,forall_mem_cons.mpr ⟨fun frame begun before => ?_,fun segment member frame begun before => ?_⟩,?_⟩
      · have inSource : frame < source.2 := lt_of_lt_of_le before ((min_le_left _ _).trans (min_le_left _ _))
        have inPhase : frame < turn := lt_of_lt_of_le before ((min_le_left _ _).trans (min_le_right _ _))
        dsimp only at begun ⊢
        rw [same frame begun,sourceKept frame begun inSource,decide_eq_decide.mpr (phaseKept frame begun inPhase)]
      · have after := (complete.inside segment member).1
        have past : cursor ≤ frame := (le_of_lt moved).trans (after.trans begun)
        dsimp only
        rw [same frame past]
        exact reads segment member frame begun before
      · rw [map_cons,foldlM_cons,InputSegment.span,active,ok_bind,folded]
    · rename_i past
      obtain rfl := Except.ok.inj ok
      exact ⟨[],le_antisymm reached (Nat.le_of_not_lt past),fun _ member => (nomatch member),rfl⟩

theorem clearMaskedChannels_inputs (mask : TasDigitalInputMask) (result : TasInputPattern)
    (ok : pattern.clearMaskedChannels mask = .ok result) : result.length = pattern.length ∧
      ∀ frame, result.inputAt frame = clearChannels (pattern.inputAt frame) mask := by
  obtain ⟨spans,pushed,built⟩ := bind_ok.mp ok
  obtain ⟨length,rfl⟩ := (new_ok _ _ _).mp built
  refine ⟨length,fun frame => ?_⟩
  have cleared := pushed
  rw [← foldlM_map (f := fun span : TasInputSpan => (⟨span.start,span.length,clearChannels span.value mask⟩ : TasInputSpan))
    (g := pushActive)] at cleared
  have ordered : Ordered (pattern.spans.map (fun span : TasInputSpan =>
      (⟨span.start,span.length,clearChannels span.value mask⟩ : TasInputSpan))) :=
    pairwise_map.mpr pattern.canonical.ordered
  have bound : ∀ run ∈ pattern.spans.map (fun span : TasInputSpan =>
      (⟨span.start,span.length,clearChannels span.value mask⟩ : TasInputSpan)), 0 < run.length ∧ run.stop < 2^64 := by
    intro run member
    obtain ⟨span,belongs,rfl⟩ := mem_map.mp member
    exact ⟨(pattern.canonical.active span belongs).1,
      lt_of_le_of_lt (pattern.inside span belongs) (word_of_limit pattern.length_le)⟩
  rw [foldlM_pushActive_normalize _ ordered bound] at cleared
  split at cleared
  · have converted := valueAt_map (fun input => clearChannels input mask) {} pattern.spans frame
    rw [clearChannels_neutral] at converted
    rw [inputAt,← Except.ok.inj cleared,valueAt_normalize _ _ ordered,converted,inputAt]
  · cases cleared

theorem invertMaskedChannels_inputs (mask : TasDigitalInputMask) (result : TasInputPattern)
    (ok : pattern.invertMaskedChannels mask = .ok result) : result.length = pattern.length ∧
      ∀ frame < pattern.length, result.inputAt frame = invertChannels (pattern.inputAt frame) mask := by
  obtain ⟨segments,completed,ok⟩ := bind_ok.mp ok
  obtain ⟨spans,pushed,built⟩ := bind_ok.mp ok
  obtain ⟨complete,reads⟩ := pattern.completeSegments_ok segments completed
  refine inputAt_of_segments pattern.length pattern.length_le
    (segments.map (fun segment => ⟨segment.start,segment.stop,invertChannels segment.input mask⟩)) _
    (complete.map (fun input => invertChannels input mask)) ?_ spans ?_ result built
  · intro _ member frame begun before
    obtain ⟨segment,belongs,rfl⟩ := mem_map.mp member
    exact congrArg (fun input => invertChannels input mask) (reads segment belongs frame begun before)
  · rw [map_map,foldlM_map]
    exact pushed

theorem mergeMaskedSegments_inputs (destination source : List InputSegment) (mask : TasDigitalInputMask)
    (merge : TasInputFrame → TasInputFrame → TasDigitalInputMask → TasInputFrame) (left right : Nat → TasInputFrame)
    (first : Complete 0 pattern.length destination) (second : Complete 0 pattern.length source)
    (readsLeft : Reads left destination) (readsRight : Reads right source) (result : TasInputPattern)
    (ok : pattern.mergeMaskedSegments destination source mask merge = .ok result) : result.length = pattern.length ∧
      ∀ frame < pattern.length, result.inputAt frame = merge (left frame) (right frame) mask := by
  obtain ⟨spans,merged,built⟩ := bind_ok.mp ok
  have aligned : ∀ next next', destination.head? = some next → source.head? = some next' →
      max next.start next'.start = 0 := by
    intro next next' headLeft headRight
    have begunLeft := first.remaining.head_le next headLeft
    have begunRight := second.remaining.head_le next' headRight
    omega
  obtain ⟨runs,complete,reads,folded⟩ := mergeSegments_ok merge mask pattern.length left right _ [] spans destination source 0
    first.remaining second.remaining aligned readsLeft readsRight merged
  exact inputAt_of_segments pattern.length pattern.length_le runs _ complete reads spans folded result built

/-- The controls that a transform gives to a frame. -/
def transformed (transform : TasDigitalTransform) (frame : Nat) : Fin 5 → Bool → Fin 8 → Bool :=
  match transform with
  | .clear => fun _ _ _ => false
  | .invert => fun player pad bit => !(pattern.inputAt frame).control player pad bit
  | .reverse => (pattern.inputAt (pattern.length - 1 - frame)).control

theorem withDigitalTransform_edited (mask : TasDigitalInputMask) (transform : TasDigitalTransform) (result : TasInputPattern)
    (ok : pattern.withDigitalTransform mask transform = .ok result) : result.length = pattern.length ∧
      ∀ frame < pattern.length, Edited mask.selects (pattern.transformed transform frame) (pattern.inputAt frame)
        (result.inputAt frame) := by
  obtain ⟨_,ok⟩ := check_bind_ok.mp ok
  cases transform with
  | clear =>
    obtain ⟨length,inputs⟩ := pattern.clearMaskedChannels_inputs mask result ok
    refine ⟨length,fun frame _ => ?_⟩
    rw [inputs]
    exact edited_clearChannels _ mask
  | invert =>
    obtain ⟨length,inputs⟩ := pattern.invertMaskedChannels_inputs mask result ok
    refine ⟨length,fun frame below => ?_⟩
    rw [inputs frame below]
    exact edited_invertChannels _ mask
  | reverse =>
    obtain ⟨segments,completed,ok⟩ := bind_ok.mp ok
    obtain ⟨complete,reads⟩ := pattern.completeSegments_ok segments completed
    have mirrored := complete.mirrored pattern.length le_rfl
    rw [Nat.sub_self,Nat.sub_zero] at mirrored
    obtain ⟨length,inputs⟩ := pattern.mergeMaskedSegments_inputs _ _ mask reverseChannels _ _ complete mirrored reads
      (reads.mirrored complete) result ok
    refine ⟨length,fun frame below => ?_⟩
    rw [inputs frame below]
    exact edited_selectChannels _ _ mask

theorem withDigitalOverlay_edited (source : TasInputPattern) (mask : TasDigitalInputMask) (result : TasInputPattern)
    (ok : pattern.withDigitalOverlay source mask = .ok result) : result.length = pattern.length ∧
      ∀ frame < pattern.length, Edited mask.selects (source.inputAt frame).control (pattern.inputAt frame)
        (result.inputAt frame) := by
  obtain ⟨equal,ok⟩ := check_bind_ok.mp ok
  obtain ⟨_,ok⟩ := check_bind_ok.mp ok
  obtain ⟨destination,first,ok⟩ := bind_ok.mp ok
  obtain ⟨overlay,second,ok⟩ := bind_ok.mp ok
  rw [ensure_ok] at equal
  obtain ⟨complete,reads⟩ := pattern.completeSegments_ok destination first
  obtain ⟨complete',reads'⟩ := source.completeSegments_ok overlay second
  obtain ⟨length,inputs⟩ := pattern.mergeMaskedSegments_inputs _ _ mask overlayChannels _ _ complete (equal ▸ complete')
    reads reads' result ok
  refine ⟨length,fun frame below => ?_⟩
  rw [inputs frame below]
  exact edited_selectChannels _ _ mask

theorem withDigitalAutofire_edited (player : Nat) (buttonsMask dpadMask period onFrames : UInt8) (result : TasInputPattern)
    (ok : pattern.withDigitalAutofire player buttonsMask dpadMask period onFrames = .ok result) :
    result.length = pattern.length ∧ ∀ frame < pattern.length,
      Edited (autofireMask player buttonsMask dpadMask).selects
        (fun _ _ _ => decide (frame % period.toNat < onFrames.toNat)) (pattern.inputAt frame) (result.inputAt frame) := by
  obtain ⟨_,ok⟩ := check_bind_ok.mp ok
  obtain ⟨timed,ok⟩ := check_bind_ok.mp ok
  obtain ⟨spans,fired,built⟩ := bind_ok.mp ok
  rw [ensure_ok,not_or,not_not,UInt8.le_iff_toNat_le,UInt8.le_iff_toNat_le,UInt8.lt_iff_toNat_lt] at timed
  obtain ⟨⟨filled,_⟩,within⟩ := timed
  obtain ⟨runs,complete,reads,folded⟩ := pattern.autofireRuns_ok player buttonsMask dpadMask period.toNat onFrames.toNat
    filled (Nat.le_of_not_lt within) _ [] spans pattern.spans 0 pattern.canonical.ordered zero_le fired
  obtain ⟨length,inputs⟩ := inputAt_of_segments pattern.length pattern.length_le runs _ complete reads spans folded result built
  refine ⟨length,fun frame below => ?_⟩
  rw [inputs frame below]
  exact edited_pressChannels _ player buttonsMask dpadMask _

theorem withDigitalTransform_twice (mask : TasDigitalInputMask) (transform : TasDigitalTransform)
    (returns : transform ≠ .clear) (middle result : TasInputPattern)
    (first : pattern.withDigitalTransform mask transform = .ok middle)
    (second : middle.withDigitalTransform mask transform = .ok result) : result = pattern := by
  obtain ⟨length,edited⟩ := pattern.withDigitalTransform_edited mask transform middle first
  obtain ⟨length',edited'⟩ := middle.withDigitalTransform_edited mask transform result second
  refine eq_of_inputAt result pattern (length'.trans length) fun frame below => ?_
  have inside : frame < pattern.length := by omega
  refine (edited frame inside).back (edited' frame (by omega)) fun player pad bit selected => ?_
  cases transform with
  | clear => exact absurd rfl returns
  | invert =>
    have flipped := (edited frame inside).controls player pad bit
    rw [if_pos selected] at flipped
    simp only [transformed] at flipped ⊢
    rw [flipped,Bool.not_not]
  | reverse =>
    have mirrored := (edited (pattern.length - 1 - frame) (by omega)).controls player pad bit
    rw [if_pos selected] at mirrored
    have position : pattern.length - 1 - (pattern.length - 1 - frame) = frame := by omega
    simp only [transformed,position] at mirrored ⊢
    rw [length,mirrored]

/-- The digital transforms keep the length and edit each frame on its own, and those that take nothing away
undo themselves. -/
theorem digital_transforms (mask : TasDigitalInputMask) :
    (∀ (transform : TasDigitalTransform) (result : TasInputPattern),
      pattern.withDigitalTransform mask transform = .ok result → result.length = pattern.length ∧
        ∀ frame < pattern.length, Edited mask.selects (pattern.transformed transform frame) (pattern.inputAt frame)
          (result.inputAt frame)) ∧
    (∀ source result : TasInputPattern, pattern.withDigitalOverlay source mask = .ok result →
      result.length = pattern.length ∧ ∀ frame < pattern.length,
        Edited mask.selects (source.inputAt frame).control (pattern.inputAt frame) (result.inputAt frame)) ∧
    (∀ (player : Nat) (buttonsMask dpadMask period onFrames : UInt8) (result : TasInputPattern),
      pattern.withDigitalAutofire player buttonsMask dpadMask period onFrames = .ok result →
        result.length = pattern.length ∧ ∀ frame < pattern.length,
          Edited (autofireMask player buttonsMask dpadMask).selects
            (fun _ _ _ => decide (frame % period.toNat < onFrames.toNat)) (pattern.inputAt frame) (result.inputAt frame)) ∧
    (∀ (transform : TasDigitalTransform) (middle result : TasInputPattern), transform ≠ .clear →
      pattern.withDigitalTransform mask transform = .ok middle →
        middle.withDigitalTransform mask transform = .ok result → result = pattern) :=
  ⟨pattern.withDigitalTransform_edited mask,fun source => pattern.withDigitalOverlay_edited source mask,
    pattern.withDigitalAutofire_edited,fun transform middle result returns =>
      pattern.withDigitalTransform_twice mask transform returns middle result⟩

def firstButton : TasDigitalInputMask := ⟨⟨[⟨1,0⟩,{},{},{},{}],rfl⟩⟩

def invertedPattern : TasInputPattern := ⟨4,[⟨0,1,invertChannels { tiltXBits := 1 } firstButton⟩,
  ⟨1,2,invertChannels {} firstButton⟩,⟨3,1,invertChannels { tiltXBits := 1 } firstButton⟩],by decide⟩

def firedPattern : TasInputPattern := ⟨4,[⟨0,1,pressChannels { tiltXBits := 1 } 0 1 0 true⟩,⟨1,1,pressChannels {} 0 1 0 true⟩,
  ⟨3,1,pressChannels { tiltXBits := 1 } 0 1 0 false⟩],by decide⟩

theorem digital_transforms_small :
    (smallPattern.withDigitalTransform firstButton .invert = .ok invertedPattern ∧ invertedPattern.length = 4 ∧
      ∃ result, invertedPattern.withDigitalTransform firstButton .invert = .ok result ∧ result = smallPattern) ∧
    (∃ result, smallPattern.withDigitalOverlay invertedPattern firstButton = .ok result ∧ result.length = 4) ∧
    smallPattern.withDigitalAutofire 0 1 0 4 2 = .ok firedPattern ∧ firedPattern.length = 4 := by
  obtain ⟨edited,overlaid,fired,restored⟩ := digital_transforms smallPattern firstButton
  have first : smallPattern.withDigitalTransform firstButton .invert = .ok invertedPattern := rfl
  have second : invertedPattern.withDigitalTransform firstButton .invert = .ok smallPattern := rfl
  have overlay : smallPattern.withDigitalOverlay invertedPattern firstButton = .ok invertedPattern := rfl
  have autofire : smallPattern.withDigitalAutofire 0 1 0 4 2 = .ok firedPattern := rfl
  exact ⟨⟨first,(edited .invert _ first).1,_,second,restored .invert _ _ (by decide) first second⟩,
    ⟨_,overlay,(overlaid _ _ overlay).1⟩,autofire,(fired 0 1 0 4 2 _ autofire).1⟩

end TasInputPattern

end ZeffBoy.Tas
