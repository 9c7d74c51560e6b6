import ZeffBoy.Tas.PatternReplacement

/-! Repeating a pattern up to a length.
The pushed spans are copies of the spans of the pattern, one cycle behind the other and cut
off at the length, so the tiling shows at a frame what the pattern shows in its cycle. -/
namespace ZeffBoy.Tas
open Library Spans List

theorem foldlM_pushSpans {ι : Type} (pushed : ι → List TasInputSpan) (maxSpans : Nat) (cycles : List ι)
    (spans : List TasInputSpan) : cycles.foldlM (fun spans cycle => pushSpans spans (pushed cycle) maxSpans) spans =
      pushSpans spans (cycles.flatMap pushed) maxSpans := by
  induction cycles generalizing spans with
  | nil => rfl
  | cons cycle cycles ih =>
    rw [foldlM_cons,flatMap_cons,pushSpans_append]
    exact bind_congr fun spans => ih spans

theorem cycle_eq_clipAll (length cycleStart : Nat) (reached : cycleStart ≤ length) (spans : List TasInputSpan)
    (ordered : Ordered spans) :
    (spans.take (partitionPoint spans (fun span => span.start < length - cycleStart))).map (fun span =>
      (⟨cycleStart + span.start,min (cycleStart + span.start + span.length) length - (cycleStart + span.start),span.value⟩ :
        TasInputSpan)) = clipAll length (spans.map (Span.move cycleStart)) := by
  induction spans with
  | nil => rfl
  | cons span spans ih =>
    obtain ⟨below,later⟩ := pairwise_cons.mp ordered
    by_cases begun : span.start < length - cycleStart
    · have counted : partitionPoint (span::spans) (fun span => span.start < length - cycleStart) =
          partitionPoint spans (fun span => span.start < length - cycleStart) + 1 :=
        partitionPoint_cons_pos (decide_eq_true begun)
      have cut : clip length (span.move cycleStart) = some ⟨cycleStart + span.start,
          min (cycleStart + span.start + span.length) length - (cycleStart + span.start),span.value⟩ := by
        refine clip_some.mpr ⟨by rw [Span.move_start]; omega,?_⟩
        simp only [Span.move_start,Span.move_length,Span.move_value,Span.mk.injEq,true_and,and_true]
        omega
      rw [counted,take_succ_cons,map_cons,ih later,map_cons,clipAll,clipAll,filterMap_cons_some cut]
    · have beyond : ∀ other ∈ (span::spans).map (Span.move cycleStart), length ≤ other.start := by
        have first := Nat.le_of_not_lt begun
        intro other member
        obtain ⟨old,belongs,rfl⟩ := mem_map.mp member
        have apart : span.start ≤ old.start := by
          rcases mem_cons.mp belongs with rfl | belongs
          · exact le_rfl
          · exact (Nat.le_add_right _ _).trans (below old belongs)
        rw [Span.move_start]
        omega
      rw [partitionPoint_cons_neg (by simpa using begun),clipAll_beyond _ _ beyond]
      rfl

theorem partitionPoint_all {α : Type} (test : α → Bool) (values : List α) (all : ∀ value ∈ values, test value = true) :
    partitionPoint values test = values.length := by
  rw [partitionPoint,takeWhile_eq_self_iff.mpr all]

namespace TasInputPattern
variable (pattern : TasInputPattern)

def tiles (length : Nat) : List TasInputSpan :=
  clipAll length (copies pattern.length (length / pattern.length + if length % pattern.length ≠ 0 then 1 else 0) pattern.spans)

theorem tileCycle_eq (length cycleStart : Nat) (reached : cycleStart ≤ length) (limit : length ≤ maxProjectFrames)
    (tiled : List TasInputSpan) :
    tileCycle length cycleStart tiled
      (pattern.spans.take (partitionPoint pattern.spans (fun span => span.start < length - cycleStart))) =
      pushSpans tiled (clipAll length (pattern.spans.map (Span.move cycleStart))) maxTasInputPatternSpans := by
  rw [← cycle_eq_clipAll length cycleStart reached _ pattern.canonical.ordered,pushSpans,foldlM_map,tileCycle]
  refine foldlM_congr_mem _ _ ?_
  intro span member tiled
  have stop := pattern.inside span (mem_of_mem_take member)
  have bound := pattern.length_le
  rw [Span.stop] at stop
  rw [maxProjectFrames] at limit bound
  rw [checkedAdd_pos (by omega),ok_bind,checkedAdd_pos (by omega),ok_bind]

theorem tiles_ordered (length : Nat) : Ordered (pattern.tiles length) := by
  refine ordered_filterMap _ _ (ordered_copies _ _ _ pattern.canonical.ordered pattern.inside) ?_
  intro span piece cut
  obtain ⟨_,rfl⟩ := clip_some.mp cut
  simp only [Span.stop]
  omega

theorem tiles_bound (length : Nat) (span : TasInputSpan) (member : span ∈ pattern.tiles length) :
    (0 < span.length ∧ span.value ≠ {}) ∧ span.stop ≤ length := by
  refine ⟨?_,(mem_clipAll member).1⟩
  obtain ⟨copy,belongs,cut⟩ := mem_filterMap.mp member
  obtain ⟨begun,rfl⟩ := clip_some.mp cut
  obtain ⟨_,_,old,inside,rfl⟩ := mem_copies.mp belongs
  obtain ⟨filled,active⟩ := pattern.canonical.active old inside
  rw [Span.move_start] at begun
  refine ⟨?_,active⟩
  simp only [Span.move_length,Span.move_start]
  omega

theorem lt_cycles (length frame : Nat) (below : frame < length) :
    frame < (length / pattern.length + if length % pattern.length ≠ 0 then 1 else 0) * pattern.length := by
  have split := Nat.div_add_mod' length pattern.length
  have residue := Nat.mod_lt length pattern.length_pos
  rw [add_mul]
  split <;> omega

theorem shows_tiles (length frame : Nat) (below : frame < length) (value : TasInputFrame) :
    Shows (pattern.tiles length) frame value ↔ Shows pattern.spans (frame % pattern.length) value := by
  rw [tiles,shows_clipAll,and_iff_right below,
    shows_copies _ _ _ pattern.inside frame (pattern.lt_cycles length frame below)]

theorem tileCycles_fold (length : Nat) (limit : length ≤ maxProjectFrames) :
    (List.range (length / pattern.length + if length % pattern.length ≠ 0 then 1 else 0)).foldlM (fun tiled cycle => do
      let cycleStart ← checkedMul cycle pattern.length "TAS input pattern tiling offset overflows"
      let spanCount := if cycle < length / pattern.length then pattern.spans.length
        else partitionPoint pattern.spans (fun span => span.start < length % pattern.length)
      tileCycle length cycleStart tiled (pattern.spans.take spanCount)) [] =
      pushSpans [] (pattern.tiles length) maxTasInputPatternSpans := by
  have split := Nat.div_add_mod' length pattern.length
  have residue := Nat.mod_lt length pattern.length_pos
  rw [tiles,copies,clipAll,filterMap_flatMap,← foldlM_pushSpans]
  refine foldlM_congr_mem _ _ ?_
  intro cycle member tiled
  have counted := mem_range.mp member
  have full : cycle ≤ length / pattern.length := by
    split at counted <;> omega
  have reached : cycle * pattern.length ≤ length := by
    have := Nat.mul_le_mul_right pattern.length full
    omega
  have spanCount : (if cycle < length / pattern.length then pattern.spans.length
      else partitionPoint pattern.spans (fun span => span.start < length % pattern.length)) =
      partitionPoint pattern.spans (fun span => span.start < length - cycle * pattern.length) := by
    split
    · rename_i before
      refine (partitionPoint_all _ _ fun span inside => decide_eq_true ?_).symm
      have whole := Nat.mul_le_mul_right pattern.length before
      have stop := pattern.inside span inside
      have filled := (pattern.canonical.active span inside).1
      rw [Nat.succ_mul] at whole
      rw [Span.stop] at stop
      omega
    · rename_i last
      obtain rfl : cycle = length / pattern.length := by omega
      rw [show length - length / pattern.length * pattern.length = length % pattern.length by omega]
  rw [maxProjectFrames] at limit
  rw [checkedMul_pos (by omega),ok_bind]
  dsimp only
  rw [spanCount,pattern.tileCycle_eq length _ reached limit,clipAll]

theorem tileCycles_eq (length : Nat) (limit : length ≤ maxProjectFrames) (steps : Nat)
    (counted : steps = length / pattern.length * pattern.spans.length +
      partitionPoint pattern.spans (fun span => span.start < length % pattern.length))
    (fits : steps ≤ maxTasInputPatternTileSteps) : pattern.tileCycles length =
      if (normalize {} (pattern.tiles length)).length ≤ maxTasInputPatternSpans then
        new length (normalize {} (pattern.tiles length))
      else .error (spanLimitMessage maxTasInputPatternSpans) := by
  have bound := pattern.tiles_bound length
  have pushed := pushSpans_normalize (pattern.tiles length) maxTasInputPatternSpans (pattern.tiles_ordered length)
    (fun span member => (bound span member).1)
    (fun span member => lt_of_le_of_lt (bound span member).2 (word_of_limit limit))
  have folded := pattern.tileCycles_fold length limit
  rw [pushed] at folded
  rw [maxTasInputPatternTileSteps] at fits
  rw [tileCycles]
  dsimp only
  rw [checkedMul_pos (by omega),ok_bind,checkedAdd_pos (by omega),ok_bind,← counted,
    ensure_pos (by rw [maxTasInputPatternTileSteps]; omega),ok_bind,folded]
  split <;> rfl

theorem tileCycles_ok (length : Nat) (limit : length ≤ maxProjectFrames) (result : TasInputPattern)
    (ok : pattern.tileCycles length = .ok result) :
    result.length = length ∧ result.spans = normalize {} (pattern.tiles length) := by
  have tiled := ok
  rw [tileCycles] at ok
  obtain ⟨steps,multiplied,ok⟩ := bind_ok.mp ok
  obtain ⟨candidateSteps,summed,ok⟩ := bind_ok.mp ok
  obtain ⟨fits,_⟩ := check_bind_ok.mp ok
  obtain ⟨_,rfl⟩ := checkedMul_ok.mp multiplied
  obtain ⟨_,rfl⟩ := checkedAdd_ok.mp summed
  rw [ensure_ok] at fits
  rw [pattern.tileCycles_eq length limit _ rfl fits] at tiled
  split at tiled
  · exact (new_ok _ _ _).mp tiled
  · nomatch tiled

theorem tileCycles_inputAt (length : Nat) (limit : length ≤ maxProjectFrames) (result : TasInputPattern)
    (ok : pattern.tileCycles length = .ok result) (frame : Nat) (below : frame < length) :
    result.inputAt frame = pattern.inputAt (frame % pattern.length) := by
  obtain ⟨_,spans⟩ := pattern.tileCycles_ok length limit result ok
  have ordered := pattern.tiles_ordered length
  rw [inputAt,spans,valueAt_normalize _ _ ordered,inputAt]
  refine valueAt_congr ordered pattern.canonical.ordered _ _ fun value _ => ?_
  exact pattern.shows_tiles length frame below value

theorem normalize_tiles_self : normalize {} (pattern.tiles pattern.length) = pattern.spans := by
  have ordered := pattern.tiles_ordered pattern.length
  refine normalize_eq {} _ _ ordered pattern.canonical fun frame => ?_
  refine valueAt_congr ordered pattern.canonical.ordered _ _ fun value _ => ?_
  by_cases below : frame < pattern.length
  · rw [pattern.shows_tiles pattern.length frame below,Nat.mod_eq_of_lt below]
  · constructor
    · intro shown
      exact absurd ((shows_clipAll _ _ _ _).mp shown).1 below
    · rintro ⟨span,member,⟨_,before⟩,_⟩
      exact absurd (lt_of_lt_of_le before (pattern.inside span member)) below

theorem tileCycles_self : pattern.tileCycles pattern.length = .ok pattern := by
  have whole := Nat.div_self pattern.length_pos
  have few := pattern.spans_length_le
  have steps : pattern.spans.length = pattern.length / pattern.length * pattern.spans.length +
      partitionPoint pattern.spans (fun span => span.start < pattern.length % pattern.length) := by
    have none_ : partitionPoint pattern.spans (fun span => span.start < pattern.length % pattern.length) = 0 := by
      rw [Nat.mod_self]
      cases pattern.spans with
      | nil => rfl
      | cons span spans => exact partitionPoint_cons_neg (by simp)
    rw [whole,none_,one_mul]
    rfl
  rw [pattern.tileCycles_eq pattern.length pattern.length_le _ steps (few.trans (by decide)),pattern.normalize_tiles_self,
    if_pos few]
  exact (new_ok _ _ _).mpr ⟨rfl,rfl⟩

theorem wholeSpan_some (span : TasInputSpan) (whole : pattern.wholeSpan = some span) :
    pattern.spans = [span] ∧ span.start = 0 ∧ span.length = pattern.length := by
  rw [wholeSpan] at whole
  split at whole
  · rename_i only single
    split at whole
    · rename_i covers
      obtain rfl := Option.some.inj whole
      exact ⟨single,covers⟩
    · nomatch whole
  · nomatch whole

theorem wholeSpan_inputAt (span : TasInputSpan) (whole : pattern.wholeSpan = some span) (frame : Nat)
    (below : frame < pattern.length) : pattern.inputAt frame = span.value := by
  obtain ⟨single,begins,length⟩ := pattern.wholeSpan_some span whole
  rw [inputAt,single]
  exact valueAt_cons_covers span [] frame ⟨begins ▸ Nat.zero_le _,by rw [Span.stop]; omega⟩

theorem constant_ok (length : Nat) (input : TasInputFrame) (active : input ≠ {}) (result : TasInputPattern) :
    constant length input = .ok result ↔ result.length = length ∧ result.spans = [⟨0,length,input⟩] := by
  rw [constant,if_neg active,new_ok]

def smallPattern : TasInputPattern := ⟨4,[⟨0,1,{ tiltXBits := 1 }⟩,⟨3,1,{ tiltXBits := 1 }⟩],by decide⟩

/-- A tiling has the given length and repeats the pattern, and tiling to its own length gives the pattern back. -/
theorem tileToLength_inputs : (∀ (length : Nat) (result : TasInputPattern), pattern.tileToLength length = .ok result →
      result.length = length ∧ ∀ frame < length, result.inputAt frame = pattern.inputAt (frame % pattern.length)) ∧
    pattern.tileToLength pattern.length = .ok pattern := by
  constructor
  · intro length result ok
    obtain ⟨checked,ok⟩ := check_bind_ok.mp ok
    have limit : length ≤ maxProjectFrames := by
      obtain ⟨_,limit⟩ := check_bind_ok.mp checked
      rwa [ensure_ok] at limit
    have residue := fun frame => Nat.mod_lt frame pattern.length_pos
    split at ok
    · rename_i quiet
      obtain ⟨same,spans⟩ := (new_ok _ _ _).mp ok
      refine ⟨same,fun frame _ => ?_⟩
      rw [inputAt,inputAt,spans,quiet]
      rfl
    · split at ok
      · rename_i span whole
        obtain ⟨single,_⟩ := pattern.wholeSpan_some span whole
        have active : span.value ≠ {} := (pattern.canonical.active span (single ▸ mem_singleton_self span)).2
        obtain ⟨same,spans⟩ := (constant_ok length span.value active result).mp ok
        refine ⟨same,fun frame below => ?_⟩
        rw [pattern.wholeSpan_inputAt span whole _ (residue frame),inputAt,spans]
        exact valueAt_cons_covers _ [] frame ⟨Nat.zero_le _,by simp only [Span.stop]; omega⟩
      · exact ⟨(pattern.tileCycles_ok length limit result ok).1,pattern.tileCycles_inputAt length limit result ok⟩
  · have checked : validateLength pattern.length = .ok () := by
      rw [validateLength,ensure_pos (ne_of_gt pattern.length_pos),ok_bind,ensure_pos pattern.length_le]
    rw [tileToLength,checked,ok_bind]
    split
    · rename_i quiet
      exact (new_ok _ _ _).mpr ⟨rfl,quiet⟩
    · split
      · rename_i span whole
        obtain ⟨single,begins,length⟩ := pattern.wholeSpan_some span whole
        have active : span.value ≠ {} := (pattern.canonical.active span (single ▸ mem_singleton_self span)).2
        refine (constant_ok _ _ active pattern).mpr ⟨rfl,?_⟩
        rw [single,← begins,← length]
      · exact pattern.tileCycles_self

theorem tileToLength_inputs_small : ∃ result, smallPattern.tileToLength 9 = .ok result ∧ result.length = 9 ∧
    result.inputAt 8 = smallPattern.inputAt 0 := by
  have tiled : smallPattern.tileToLength 9 = .ok ⟨9,[⟨0,1,{ tiltXBits := 1 }⟩,⟨3,2,{ tiltXBits := 1 }⟩,⟨7,2,{ tiltXBits := 1 }⟩],
    by decide⟩ := rfl
  obtain ⟨length,inputs⟩ := (tileToLength_inputs smallPattern).1 9 _ tiled
  exact ⟨_,tiled,length,inputs 8 (by decide)⟩

end TasInputPattern

end ZeffBoy.Tas
