import ZeffBoy.Tas.Edit
import ZeffBoy.Tas.Validate

/-! What timeline edits do to a movie, frame by frame.
Every span is rebased on its own, so the pieces of all spans show what the spans showed at
the frames they came from; normalizing them changes neither that nor their order. -/
namespace ZeffBoy.Tas
open Library Replay Spans List

theorem findFinIdx?_of_find? {α : Type} (test : α → Bool) (values : List α) (value : α)
    (found : values.find? test = some value) : ∃ index, values.findFinIdx? test = some index ∧
      values.get index = value ∧ ∀ other, test other = true → (values.set index other).find? test = some other := by
  induction values with
  | nil => nomatch found
  | cons head values ih =>
    cases first : test head with
    | true =>
      rw [List.find?_cons_of_pos first] at found
      refine ⟨0,by simp [List.findFinIdx?_cons,first],by simpa using found,?_⟩
      intro other holds
      simp [holds]
    | false =>
      rw [List.find?_cons_of_neg (by simp [first])] at found
      obtain ⟨index,located,same,replaced⟩ := ih found
      refine ⟨index.succ,by simp [List.findFinIdx?_cons,first,located],same,?_⟩
      intro other holds
      simp [first,replaced other holds]

theorem validateSpans_ok (frameCount : Nat) (word : frameCount < 2^64) (assets : List (TasDigest × Bytes))
    (previousEnd : Nat) (previousInput : Option TasInputFrame) (spans : List TasInputSpan) :
    validateSpans frameCount assets previousEnd previousInput spans = .ok () ↔
      (∀ span ∈ spans, (0 < span.length ∧ span.value ≠ {}) ∧ cameraAvailable assets span.value.camera ∧
        span.stop ≤ frameCount) ∧ spans.IsChain Separate ∧
      ∀ first, spans.head? = some first →
        previousEnd ≤ first.start ∧ ¬(first.start = previousEnd ∧ previousInput = some first.value) := by
  induction spans generalizing previousEnd previousInput with
  | nil => simp [validateSpans]
  | cons span spans ih =>
    constructor
    · intro ok
      obtain ⟨filled,ok⟩ := check_bind_ok.mp ok
      obtain ⟨stop,summed,ok⟩ := bind_ok.mp ok
      obtain ⟨_,rfl⟩ := checkedAdd_ok.mp summed
      obtain ⟨inside,ok⟩ := check_bind_ok.mp ok
      obtain ⟨after,ok⟩ := check_bind_ok.mp ok
      obtain ⟨fresh,ok⟩ := check_bind_ok.mp ok
      obtain ⟨active,ok⟩ := check_bind_ok.mp ok
      obtain ⟨camera,ok⟩ := check_bind_ok.mp ok
      obtain ⟨others,chain,next⟩ := (ih _ _).mp ok
      simp only [ensure_ok] at filled inside after fresh active camera
      refine ⟨forall_mem_cons.mpr ⟨⟨⟨pos_of_ne_zero filled,active⟩,camera,inside⟩,others⟩,
        isChain_separate_cons.mpr ⟨next,chain⟩,?_⟩
      rintro _ ⟨⟩
      exact ⟨after,fresh⟩
    · rintro ⟨each,chain,next⟩
      obtain ⟨⟨⟨filled,active⟩,camera,inside⟩,others⟩ := forall_mem_cons.mp each
      obtain ⟨after,fresh⟩ := next span rfl
      have fits : span.start + span.length < 2^64 := lt_of_le_of_lt inside word
      have stop : span.start + span.length ≤ frameCount := inside
      obtain ⟨following,chain⟩ := isChain_separate_cons.mp chain
      have rest := (ih (span.start + span.length) (some span.value)).mpr ⟨others,chain,following⟩
      rw [validateSpans,ensure_pos (ne_of_gt filled),ok_bind,checkedAdd_pos fits,ok_bind,ensure_pos stop,ok_bind,
        ensure_pos after,ok_bind,ensure_pos fresh,ok_bind,ensure_pos active,ok_bind,ensure_pos camera,ok_bind,rest]

theorem validateInputSpans_ok (branch : TasBranch) (word : branch.frameCount < 2^64) (assets : List (TasDigest × Bytes)) :
    validateInputSpans branch assets = .ok () ↔ Canonical {} branch.inputSpans ∧
      ∀ span ∈ branch.inputSpans, cameraAvailable assets span.value.camera ∧ span.stop ≤ branch.frameCount := by
  rw [validateInputSpans,validateSpans_ok _ word]
  exact canonical_of_checked _

theorem dropWhile_saturatingAdd (spans : List TasInputSpan) (inside : ∀ span ∈ spans, span.stop < 2^64) (frame : Nat) :
    spans.dropWhile (fun span => saturatingAdd span.start span.length ≤ frame) =
      spans.dropWhile (fun span => span.stop ≤ frame) := by
  induction spans with
  | nil => rfl
  | cons span spans ih =>
    obtain ⟨short,others⟩ := forall_mem_cons.mp inside
    have unsaturated : saturatingAdd span.start span.length = span.stop := by
      rw [Span.stop] at short
      rw [saturatingAdd,Span.stop]
      omega
    simp only [dropWhile_cons,unsaturated,ih others]

theorem inputAt_eq_valueAt (branch : TasBranch) (inside : ∀ span ∈ branch.inputSpans, span.stop < 2^64) (frame : Nat) :
    branch.inputAt frame = valueAt {} branch.inputSpans frame := by
  rw [TasBranch.inputAt,dropWhile_saturatingAdd branch.inputSpans inside frame,valueAt]

def insertPieces (cursor count : Nat) (span : TasInputSpan) : List TasInputSpan :=
  if span.stop ≤ cursor then [span]
  else if cursor ≤ span.start then [{ span with start := span.start + count }]
  else [{ span with length := cursor - span.start },⟨cursor + count,span.stop - cursor,span.value⟩]

/-- What a deletion leaves of a span. -/
def deletePieces (start stop count : Nat) (span : TasInputSpan) : List TasInputSpan :=
  if span.stop ≤ start then [span]
  else if stop ≤ span.start then [{ span with start := span.start - count }]
  else (if span.start < start then [{ span with length := start - span.start }] else []) ++
    (if stop < span.stop then [⟨stop - count,span.stop - stop,span.value⟩] else [])

theorem insertInputSpan_ok (cursor count : Nat) (span : TasInputSpan) (fits : span.stop + count < 2^64)
    (reach : cursor + count < 2^64) : insertInputSpan cursor count span = .ok (insertPieces cursor count span) := by
  rw [Span.stop] at fits
  have whole : span.start + span.length < 2^64 := by omega
  rw [insertInputSpan,checkedAdd_pos whole,ok_bind,insertPieces,Span.stop]
  by_cases before : span.start + span.length ≤ cursor
  · rw [if_pos before,if_pos before]
    rfl
  · rw [if_neg before,if_neg before]
    by_cases behind : cursor ≤ span.start
    · rw [if_pos behind,if_pos behind,checkedAdd_pos (by omega)]
      rfl
    · rw [if_neg behind,if_neg behind,checkedSub_pos (by omega),ok_bind,checkedAdd_pos reach,ok_bind,
        checkedSub_pos (by omega)]
      rfl

theorem deleteInputSpan_ok (start stop count : Nat) (span : TasInputSpan) (fits : span.stop < 2^64)
    (reach : count ≤ stop) : deleteInputSpan start stop count span = .ok (deletePieces start stop count span) := by
  rw [Span.stop] at fits
  rw [deleteInputSpan,checkedAdd_pos fits,ok_bind,deletePieces,Span.stop]
  by_cases before : span.start + span.length ≤ start
  · rw [if_pos before,if_pos before]
    rfl
  · rw [if_neg before,if_neg before]
    by_cases behind : stop ≤ span.start
    · rw [if_pos behind,if_pos behind,checkedSub_pos (by omega)]
      rfl
    · rw [if_neg behind,if_neg behind,deleteInputSpan.deleteFront,deleteInputSpan.deleteBack]
      by_cases front : span.start < start <;> by_cases back : stop < span.start + span.length
      · rw [if_pos front,if_pos front,if_pos back,if_pos back,checkedSub_pos (by omega),ok_bind,checkedSub_pos reach,
          ok_bind,checkedSub_pos (by omega)]
        rfl
      · rw [if_pos front,if_pos front,if_neg back,if_neg back,checkedSub_pos (by omega)]
        rfl
      · rw [if_neg front,if_neg front,if_pos back,if_pos back,checkedSub_pos reach,ok_bind,checkedSub_pos (by omega)]
        rfl
      · rw [if_neg front,if_neg front,if_neg back,if_neg back]
        rfl

theorem shows_pieces (pieces : TasInputSpan → List TasInputSpan) (spans : List TasInputSpan) (frame : Nat)
    (value : TasInputFrame) : Shows (spans.flatMap pieces) frame value ↔ ∃ span ∈ spans, Shows (pieces span) frame value := by
  simp only [Shows,mem_flatMap]
  constructor
  · rintro ⟨piece,⟨span,member,inside⟩,shown⟩
    exact ⟨span,member,piece,inside,shown⟩
  · rintro ⟨span,member,piece,inside,shown⟩
    exact ⟨piece,⟨span,member,inside⟩,shown⟩

theorem shows_insertPieces (cursor count : Nat) (span : TasInputSpan) (frame : Nat) (value : TasInputFrame) :
    Shows (insertPieces cursor count span) frame value ↔
      (frame < cursor ∧ span.Covers frame ∨ cursor + count ≤ frame ∧ span.Covers (frame - count)) ∧ span.value = value := by
  unfold insertPieces
  split
  · rename_i before
    simp only [Shows,mem_singleton,exists_eq_left,Span.Covers,Span.stop] at before ⊢
    refine and_congr_left fun _ => ?_
    omega
  · split
    · rename_i unfinished behind
      simp only [Shows,mem_singleton,exists_eq_left,Span.Covers,Span.stop] at unfinished ⊢
      refine and_congr_left fun _ => ?_
      omega
    · rename_i unfinished begun
      simp only [Shows,mem_cons,not_mem_nil,or_false,exists_eq_or_imp,exists_eq_left,Span.Covers,Span.stop,
        ← or_and_right] at unfinished ⊢
      refine and_congr_left fun _ => ?_
      omega

theorem shows_deletePieces (start stop count : Nat) (range : stop = start + count) (span : TasInputSpan) (frame : Nat)
    (value : TasInputFrame) : Shows (deletePieces start stop count span) frame value ↔
      (frame < start ∧ span.Covers frame ∨ start ≤ frame ∧ span.Covers (frame + count)) ∧ span.value = value := by
  unfold deletePieces
  split
  · rename_i before
    simp only [Shows,mem_singleton,exists_eq_left,Span.Covers,Span.stop] at before ⊢
    refine and_congr_left fun _ => ?_
    omega
  · split
    · rename_i unfinished behind
      simp only [Shows,mem_singleton,exists_eq_left,Span.Covers,Span.stop] at unfinished ⊢
      refine and_congr_left fun _ => ?_
      omega
    · rename_i unfinished begun
      rw [shows_append]
      have front : Shows (if span.start < start then [{ span with length := start - span.start }] else []) frame value ↔
          (frame < start ∧ span.Covers frame) ∧ span.value = value := by
        split
        · simp only [Shows,mem_singleton,exists_eq_left,Span.Covers,Span.stop] at unfinished ⊢
          refine and_congr_left fun _ => ?_
          omega
        · simp only [not_shows_nil,Span.Covers,Span.stop,false_iff]
          omega
      have back : Shows (if stop < span.stop then [(⟨stop - count,span.stop - stop,span.value⟩ : TasInputSpan)] else [])
          frame value ↔ (start ≤ frame ∧ span.Covers (frame + count)) ∧ span.value = value := by
        split
        · rename_i past
          simp only [Shows,mem_singleton,exists_eq_left,Span.Covers,Span.stop] at past ⊢
          refine and_congr_left fun _ => ?_
          omega
        · rename_i past
          simp only [not_shows_nil,Span.Covers,false_iff]
          omega
      rw [front,back,or_and_right]

theorem ordered_pieces (pieces : TasInputSpan → List TasInputSpan) (begins ends : Nat → Nat)
    (apart : ∀ stop start, stop ≤ start → ends stop ≤ begins start) (spans : List TasInputSpan) (ordered : Ordered spans)
    (filled : ∀ span ∈ spans, 0 < span.length) (inner : ∀ span, Ordered (pieces span))
    (bounds : ∀ span, 0 < span.length → ∀ piece ∈ pieces span,
      begins span.start ≤ piece.start ∧ piece.stop ≤ ends span.stop) : Ordered (spans.flatMap pieces) := by
  refine pairwise_flatMap.mpr ⟨fun span _ => inner span,ordered.imp_of_mem ?_⟩
  intro left right memberLeft memberRight before first insideLeft second insideRight
  calc first.stop ≤ ends left.stop := (bounds left (filled left memberLeft) first insideLeft).2
    _ ≤ begins right.start := apart _ _ before
    _ ≤ second.start := (bounds right (filled right memberRight) second insideRight).1

theorem ordered_insertPieces (cursor count : Nat) (spans : List TasInputSpan) (ordered : Ordered spans)
    (filled : ∀ span ∈ spans, 0 < span.length) : Ordered (spans.flatMap (insertPieces cursor count)) := by
  refine ordered_pieces _ (fun start => if cursor ≤ start then start + count else start)
    (fun stop => if stop ≤ cursor then stop else stop + count) ?_ spans ordered filled ?_ ?_
  · intro stop start before
    split <;> split <;> omega
  · intro span
    unfold insertPieces Ordered
    split
    · exact pairwise_singleton _ _
    · split
      · exact pairwise_singleton _ _
      · refine pairwise_pair.mpr ?_
        simp only [Span.stop]
        omega
  · intro span some piece member
    unfold insertPieces at member
    split at member
    · obtain rfl := mem_singleton.mp member
      grind [Span.stop]
    · split at member
      · obtain rfl := mem_singleton.mp member
        grind [Span.stop]
      · rcases mem_pair.mp member with rfl | rfl <;> grind [Span.stop]

theorem mem_deletePieces (start stop count : Nat) (range : stop = start + count) (span piece : TasInputSpan)
    (member : piece ∈ deletePieces start stop count span) : piece.value = span.value ∧
      (if span.start < stop then min span.start start else span.start - count) ≤ piece.start ∧
      piece.stop ≤ (if span.stop ≤ start then span.stop else max start (span.stop - count)) := by
  unfold deletePieces at member
  split at member
  · obtain rfl := mem_singleton.mp member
    grind [Span.stop]
  · split at member
    · obtain rfl := mem_singleton.mp member
      grind [Span.stop]
    · rcases mem_append.mp member with front | back
      · split at front
        · obtain rfl := mem_singleton.mp front
          grind [Span.stop]
        · cases front
      · split at back
        · obtain rfl := mem_singleton.mp back
          grind [Span.stop]
        · cases back

theorem ordered_deletePieces (start stop count : Nat) (range : stop = start + count) (spans : List TasInputSpan)
    (ordered : Ordered spans) (filled : ∀ span ∈ spans, 0 < span.length) :
    Ordered (spans.flatMap (deletePieces start stop count)) := by
  refine ordered_pieces _ (fun begun => if begun < stop then min begun start else begun - count)
    (fun ended => if ended ≤ start then ended else max start (ended - count)) ?_ spans ordered filled ?_ ?_
  · intro ended begun before
    split <;> split <;> omega
  · intro span
    unfold deletePieces Ordered
    split
    · exact pairwise_singleton _ _
    · split
      · exact pairwise_singleton _ _
      · refine pairwise_append.mpr ⟨?_,?_,?_⟩
        · split <;> simp
        · split <;> simp
        · intro front memberFront back memberBack
          split at memberFront
          · split at memberBack
            · obtain rfl := mem_singleton.mp memberFront
              obtain rfl := mem_singleton.mp memberBack
              simp only [Span.stop]
              omega
            · cases memberBack
          · cases memberFront
  · exact fun span _ piece member => (mem_deletePieces start stop count range span piece member).2

theorem word_of_limit {count : Nat} (limit : count ≤ maxProjectFrames) : count < 2^64 := by
  rw [maxProjectFrames] at limit
  omega

/-- The input spans after an edit: valid, and at every frame what the old spans showed at the frames it came from. -/
structure Rebased (branch changed : TasBranch) (assets : List (TasDigest × Bytes)) (source : Nat → Option Nat) : Prop where
  valid : validateInputSpans changed assets = .ok ()
  inputAt : ∀ frame, changed.inputAt frame = match source frame with
    | some old => branch.inputAt old
    | none => {}

theorem rebased_of_pieces (branch changed : TasBranch) (assets : List (TasDigest × Bytes))
    (pieces : TasInputSpan → List TasInputSpan) (source : Nat → Option Nat)
    (limit : branch.frameCount ≤ maxProjectFrames) (limit' : changed.frameCount ≤ maxProjectFrames)
    (valid : validateInputSpans branch assets = .ok ())
    (spans : changed.inputSpans = normalizeSpans (branch.inputSpans.flatMap pieces))
    (ordered : Ordered (branch.inputSpans.flatMap pieces))
    (inside : ∀ span ∈ branch.inputSpans, span.stop ≤ branch.frameCount → ∀ piece ∈ pieces span,
      piece.value = span.value ∧ piece.stop ≤ changed.frameCount)
    (shown : ∀ span frame value, Shows (pieces span) frame value ↔
      (∃ old, source frame = some old ∧ span.Covers old) ∧ span.value = value) :
    Rebased branch changed assets source := by
  have word := word_of_limit limit
  have word' := word_of_limit limit'
  obtain ⟨canonical,kept⟩ := (validateInputSpans_ok branch word assets).mp valid
  have all : ∀ piece ∈ branch.inputSpans.flatMap pieces,
      (cameraAvailable assets piece.value.camera = true) ∧ piece.stop ≤ changed.frameCount := by
    intro piece member
    obtain ⟨span,belongs,within⟩ := mem_flatMap.mp member
    obtain ⟨same,stop⟩ := inside span belongs (kept span belongs).2 piece within
    exact ⟨same ▸ (kept span belongs).1,stop⟩
  have normal := normalize_canonical ({} : TasInputFrame) _ ordered
  have bounded := forall_normalize (fun value : TasInputFrame => cameraAvailable assets value.camera = true) changed.frameCount {} _ all
  have old := inputAt_eq_valueAt branch (fun span member => lt_of_le_of_lt (kept span member).2 word)
  have new := inputAt_eq_valueAt changed (by
    rw [spans]
    exact fun span member => lt_of_le_of_lt (bounded span member).2 word')
  have orderedOld := ordered_of_chain _ canonical.chain
  have orderedNew := ordered_of_chain _ normal.chain
  have moved : ∀ frame value, value ≠ {} → (Shows changed.inputSpans frame value ↔
      ∃ old, source frame = some old ∧ Shows branch.inputSpans old value) := by
    intro frame value active
    rw [spans,normalizeSpans,shows_normalize _ _ _ _ active,shows_pieces]
    simp only [shown]
    constructor
    · rintro ⟨span,member,⟨old,from_,covers⟩,same⟩
      exact ⟨old,from_,span,member,covers,same⟩
    · rintro ⟨old,from_,span,member,covers,same⟩
      exact ⟨span,member,⟨old,from_,covers⟩,same⟩
  refine ⟨(validateInputSpans_ok changed word' assets).mpr ?_,?_⟩
  · rw [spans]
    exact ⟨normal,bounded⟩
  · intro frame
    rw [new]
    cases came : source frame with
    | none =>
      refine valueAt_eq_neutral _ _ (spans ▸ orderedNew) _ ?_
      intro value active shows
      obtain ⟨_,absent,_⟩ := (moved frame value active).mp shows
      rw [came] at absent
      nomatch absent
    | some earlier =>
      simp only [old]
      refine valueAt_congr (spans ▸ orderedNew) orderedOld _ _ ?_
      intro value active
      rw [moved frame value active,came]
      simp

def insertionSource (cursor count frame : Nat) : Option Nat :=
  if frame < cursor then some frame else if frame < cursor + count then none else some (frame - count)

def deletionSource (start count frame : Nat) : Option Nat :=
  if frame < start then some frame else some (frame + count)

theorem insertInputFrames_rebased (branch : TasBranch) (assets : List (TasDigest × Bytes)) (cursor count : Nat)
    (limit : branch.frameCount + count ≤ maxProjectFrames) (inside : cursor ≤ branch.frameCount)
    (valid : validateInputSpans branch assets = .ok ()) :
    ∃ spans, insertInputFrames branch.inputSpans cursor count = .ok spans ∧
      ∀ changed : TasBranch, changed.inputSpans = spans → changed.frameCount = branch.frameCount + count →
        Rebased branch changed assets (insertionSource cursor count) := by
  have within : branch.frameCount ≤ maxProjectFrames := by omega
  have word := word_of_limit limit
  obtain ⟨canonical,kept⟩ := (validateInputSpans_ok branch (word_of_limit within) assets).mp valid
  have filled := fun span member => (canonical.active span member).1
  have each : ∀ span ∈ branch.inputSpans, insertInputSpan cursor count span = .ok (insertPieces cursor count span) := by
    intro span member
    have stop := (kept span member).2
    exact insertInputSpan_ok cursor count span (by omega) (by omega)
  refine ⟨normalizeSpans (branch.inputSpans.flatMap (insertPieces cursor count)),?_,?_⟩
  · rw [insertInputFrames,mapM_of_ok each,ok_bind,flatMap_def]
    rfl
  · intro changed spans frames
    refine rebased_of_pieces branch changed assets _ _ within (frames ▸ limit) valid spans
      (ordered_insertPieces cursor count _ (ordered_of_chain _ canonical.chain) filled) ?_ ?_
    · intro span _ stop piece member
      rw [frames]
      unfold insertPieces at member
      grind [Span.stop]
    · intro span frame value
      rw [shows_insertPieces]
      refine and_congr_left fun _ => ?_
      unfold insertionSource
      grind

theorem deleteInputFrames_rebased (branch : TasBranch) (assets : List (TasDigest × Bytes)) (start count : Nat)
    (limit : branch.frameCount ≤ maxProjectFrames) (inside : start + count ≤ branch.frameCount)
    (valid : validateInputSpans branch assets = .ok ()) :
    ∃ spans, deleteInputFrames branch.inputSpans start (start + count) count = .ok spans ∧
      ∀ changed : TasBranch, changed.inputSpans = spans → changed.frameCount = branch.frameCount - count →
        Rebased branch changed assets (deletionSource start count) := by
  have word := word_of_limit limit
  obtain ⟨canonical,kept⟩ := (validateInputSpans_ok branch word assets).mp valid
  have filled := fun span member => (canonical.active span member).1
  have each : ∀ span ∈ branch.inputSpans,
      deleteInputSpan start (start + count) count span = .ok (deletePieces start (start + count) count span) := by
    intro span member
    have stop := (kept span member).2
    exact deleteInputSpan_ok start (start + count) count span (by omega) (by omega)
  refine ⟨normalizeSpans (branch.inputSpans.flatMap (deletePieces start (start + count) count)),?_,?_⟩
  · rw [deleteInputFrames,mapM_of_ok each,ok_bind,flatMap_def]
    rfl
  · intro changed spans frames
    refine rebased_of_pieces branch changed assets _ _ limit (by omega) valid spans
      (ordered_deletePieces start _ count rfl _ (ordered_of_chain _ canonical.chain) filled) ?_ ?_
    · intro span _ stop piece member
      obtain ⟨same,_,ended⟩ := mem_deletePieces start _ count rfl span piece member
      refine ⟨same,?_⟩
      rw [frames]
      split at ended <;> omega
    · intro span frame value
      rw [shows_deletePieces start _ count rfl]
      refine and_congr_left fun _ => ?_
      unfold deletionSource
      grind

@[simp] theorem setEventFrame_frame (event : ReplayEvent) (frame : UInt64) : (setEventFrame event frame).frame = frame := by
  cases event <;> rfl

@[simp] theorem setEventFrame_rank (event : ReplayEvent) (frame : UInt64) : (setEventFrame event frame).rank = event.rank := by
  cases event <;> rfl

@[simp] theorem setEventFrame_boundary (event : ReplayEvent) (frame : UInt64) :
    (setEventFrame event frame).isFrameBoundaryEvent = event.isFrameBoundaryEvent := by
  cases event <;> rfl

theorem eventInside_iff (event : ReplayEvent) (frameCount : Nat) (word : frameCount < 2^64) :
    eventInside event frameCount = true ↔
      (if event.isFrameBoundaryEvent then event.frame.toNat else event.frame.toNat + 1) ≤ frameCount := by
  rw [eventInside,ReplayEvent.requiredFrameCount]
  split
  · simp
  · split
    · simp
    · rename_i far
      simp only [Option.any_none,Bool.false_eq_true,false_iff]
      omega

theorem frame_le_of_inside (event : ReplayEvent) (frameCount : Nat) (word : frameCount < 2^64)
    (inside : eventInside event frameCount = true) : event.frame.toNat ≤ frameCount := by
  have reached := (eventInside_iff event frameCount word).mp inside
  split at reached <;> omega

theorem canonical_map (move : ReplayEvent → ReplayEvent) (events : List ReplayEvent)
    (rank : ∀ event ∈ events, (move event).rank = event.rank)
    (earlier : ∀ left ∈ events, ∀ right ∈ events, left.frame < right.frame → (move left).frame < (move right).frame)
    (same : ∀ left ∈ events, ∀ right ∈ events, left.frame = right.frame → (move left).frame = (move right).frame)
    (canonical : ReplayEvent.Canonical events) : ReplayEvent.Canonical (events.map move) := by
  refine pairwise_map.mpr (canonical.imp_of_mem ?_)
  intro left right memberLeft memberRight before
  rw [ReplayEvent.canonicalCmp_ne_gt,ReplayEvent.sortKey,ReplayEvent.sortKey,Prod.Lex.toLex_le_toLex] at before ⊢
  rcases before with strictly | ⟨together,ranked⟩
  · exact .inl (earlier left memberLeft right memberRight strictly)
  · refine .inr ⟨congrArg UInt64.toNat (same left memberLeft right memberRight (UInt64.toNat_inj.mp together)),?_⟩
    rw [rank left memberLeft,rank right memberRight]
    exact ranked

/-- The events after an edit: in canonical order and inside the branch. -/
structure EventsKept (events : List ReplayEvent) (frameCount : Nat) : Prop where
  canonical : ReplayEvent.Canonical events
  inside : ∀ event ∈ events, eventInside event frameCount = true

def insertedEvent (cursor count : Nat) (event : ReplayEvent) : ReplayEvent :=
  if cursor ≤ event.frame.toNat then setEventFrame event (UInt64.ofNat (event.frame.toNat + count)) else event

theorem insertEvents_kept (events : List ReplayEvent) (frameCount cursor count : Nat) (word : frameCount + count < 2^64)
    (kept : EventsKept events frameCount) : ∃ inserted, events.mapM (insertEvent cursor count) = .ok inserted ∧
      EventsKept inserted (frameCount + count) := by
  have before : frameCount < 2^64 := by omega
  have reach : ∀ event ∈ events, event.frame.toNat + count < 2^64 := fun event member => by
    have inside := frame_le_of_inside event frameCount before (kept.inside event member)
    omega
  have moved : ∀ event ∈ events, (insertedEvent cursor count event).frame.toNat =
      if cursor ≤ event.frame.toNat then event.frame.toNat + count else event.frame.toNat := by
    intro event member
    unfold insertedEvent
    split
    · rw [setEventFrame_frame,UInt64.toNat_ofNat',Nat.mod_eq_of_lt (reach event member)]
    · rfl
  have each : ∀ event ∈ events, insertEvent cursor count event = .ok (insertedEvent cursor count event) := by
    intro event member
    unfold insertEvent insertedEvent
    split
    · rw [checkedAdd_pos (reach event member)]
      rfl
    · rfl
  refine ⟨events.map (insertedEvent cursor count),mapM_of_ok each,?_,?_⟩
  · refine canonical_map _ _ ?_ ?_ ?_ kept.canonical
    · intro event _
      unfold insertedEvent
      split
      · exact setEventFrame_rank _ _
      · rfl
    · intro left memberLeft right memberRight strictly
      rw [UInt64.lt_iff_toNat_lt] at strictly ⊢
      rw [moved left memberLeft,moved right memberRight]
      split <;> split <;> omega
    · intro left memberLeft right memberRight together
      rw [← UInt64.toNat_inj,moved left memberLeft,moved right memberRight,together]
  · simp only [mem_map,forall_exists_index,and_imp,forall_apply_eq_imp_iff₂]
    intro event member
    have inside := (eventInside_iff event frameCount before).mp (kept.inside event member)
    have boundary : (insertedEvent cursor count event).isFrameBoundaryEvent = event.isFrameBoundaryEvent := by
      unfold insertedEvent
      split
      · exact setEventFrame_boundary _ _
      · rfl
    rw [eventInside_iff _ _ word,boundary,moved event member]
    split at inside <;> split <;> grind

def deletedEvent (stop count : Nat) (event : ReplayEvent) : ReplayEvent :=
  if stop ≤ event.frame.toNat then setEventFrame event (UInt64.ofNat (event.frame.toNat - count)) else event

theorem deleteEvents_kept (events : List ReplayEvent) (frameCount start count : Nat) (word : frameCount < 2^64)
    (room : start + count ≤ frameCount) (kept : EventsKept events frameCount) :
    ∃ deleted, events.mapM (deleteEvent start (start + count) count) = .ok deleted ∧
      EventsKept deleted.reduceOption (frameCount - count) := by
  have each : ∀ event ∈ events, deleteEvent start (start + count) count event =
      .ok (if start ≤ event.frame.toNat ∧ event.frame.toNat < start + count then none
        else some (deletedEvent (start + count) count event)) := by
    intro event _
    unfold deleteEvent deletedEvent
    split
    · rfl
    · split
      · rw [checkedSub_pos (by omega)]
        rfl
      · rfl
  let outside := fun event : ReplayEvent => !decide (start ≤ event.frame.toNat ∧ event.frame.toNat < start + count)
  have survivors : (events.map (fun event => if start ≤ event.frame.toNat ∧ event.frame.toNat < start + count then none
      else some (deletedEvent (start + count) count event))).reduceOption =
        (events.filter outside).map (deletedEvent (start + count) count) := by
    rw [List.reduceOption,filterMap_map,← filterMap_eq_map,filterMap_filter]
    congr 1
    funext event
    simp only [outside,Function.comp]
    split <;> simp_all
  have moved : ∀ event, (deletedEvent (start + count) count event).frame.toNat =
      if start + count ≤ event.frame.toNat then event.frame.toNat - count else event.frame.toNat := by
    intro event
    have range := event.frame.toNat_lt
    unfold deletedEvent
    split
    · rw [setEventFrame_frame,UInt64.toNat_ofNat',Nat.mod_eq_of_lt (by omega)]
    · rfl
  have apart : ∀ event ∈ events.filter outside, event.frame.toNat < start ∨ start + count ≤ event.frame.toNat := by
    intro event member
    have survived := (mem_filter.mp member).2
    simp only [outside,Bool.not_eq_true',decide_eq_false_iff_not] at survived
    omega
  refine ⟨_,mapM_of_ok each,?_⟩
  rw [survivors]
  refine ⟨canonical_map _ _ ?_ ?_ ?_ (kept.canonical.filter _),?_⟩
  · intro event _
    unfold deletedEvent
    split
    · exact setEventFrame_rank _ _
    · rfl
  · intro left memberLeft right memberRight strictly
    have outsideLeft := apart left memberLeft
    have outsideRight := apart right memberRight
    rw [UInt64.lt_iff_toNat_lt] at strictly ⊢
    rw [moved left,moved right]
    split <;> split <;> omega
  · intro left _ right _ together
    rw [← UInt64.toNat_inj,moved left,moved right,together]
  · simp only [mem_map,forall_exists_index,and_imp,forall_apply_eq_imp_iff₂]
    intro event member
    have inside := (eventInside_iff event frameCount word).mp (kept.inside event (mem_filter.mp member).1)
    have survived := apart event member
    have boundary : (deletedEvent (start + count) count event).isFrameBoundaryEvent = event.isFrameBoundaryEvent := by
      unfold deletedEvent
      split
      · exact setEventFrame_boundary _ _
      · rfl
    rw [eventInside_iff _ _ (by omega),boundary,moved event]
    split at inside <;> split <;> grind

/-- What the timeline edits rely on in a validated project. -/
structure Editable (project : TasProject) (branch : TasBranch) : Prop where
  limit : branch.frameCount ≤ maxProjectFrames
  spans : validateInputSpans branch project.assets = .ok ()
  events : EventsKept branch.events branch.frameCount
  markers : ∀ marker ∈ project.markers, marker.branchId = branch.id → marker.cursor ≤ branch.frameCount
  annotations : ∀ annotated ∈ project.annotations, annotated.branchId = branch.id →
    annotated.start + annotated.length ≤ branch.frameCount

theorem validateBranches_ok (project : TasProject) (seen : List String) (inputSpanCount total : Nat)
    (branches : List TasBranch) (ok : validateBranches project seen inputSpanCount branches = .ok total) :
    ∀ branch ∈ branches, branch.frameCount ≤ maxProjectFrames ∧ validateBranchMovie project branch = .ok () := by
  induction branches generalizing seen inputSpanCount with
  | nil => simp
  | cons branch branches ih =>
    obtain ⟨_,ok⟩ := check_bind_ok.mp ok
    obtain ⟨_,ok⟩ := check_bind_ok.mp ok
    obtain ⟨_,ok⟩ := check_bind_ok.mp ok
    obtain ⟨_,ok⟩ := check_bind_ok.mp ok
    obtain ⟨limit,ok⟩ := check_bind_ok.mp ok
    obtain ⟨_,_,ok⟩ := bind_ok.mp ok
    obtain ⟨movie,ok⟩ := check_bind_ok.mp ok
    exact forall_mem_cons.mpr ⟨⟨ensure_ok.mp limit,movie⟩,ih _ _ ok⟩

theorem validateBranchMovie_ok (project : TasProject) (branch : TasBranch)
    (ok : validateBranchMovie project branch = .ok ()) :
    validateInputSpans branch project.assets = .ok () ∧ EventsKept branch.events branch.frameCount := by
  obtain ⟨spans,ok⟩ := check_bind_ok.mp ok
  obtain ⟨_,_,ok⟩ := bind_ok.mp ok
  obtain ⟨decoded,read,ok⟩ := bind_ok.mp ok
  obtain ⟨same,ok⟩ := check_bind_ok.mp ok
  obtain ⟨inside,_⟩ := check_bind_ok.mp ok
  obtain rfl := ensure_ok.mp same
  exact ⟨spans,decodeReplayEventStream_canonical _ _ read,all_eq_true.mp (ensure_ok.mp inside)⟩

theorem validateMarkers_ok (project : TasProject) (seen : List String) (markers : List TasMarker)
    (ok : validateMarkers project seen markers = .ok ()) : ∀ marker ∈ markers,
      ∃ branch, project.branch marker.branchId = some branch ∧ marker.cursor ≤ branch.frameCount := by
  induction markers generalizing seen with
  | nil => simp
  | cons marker markers ih =>
    obtain ⟨_,ok⟩ := check_bind_ok.mp ok
    obtain ⟨_,ok⟩ := check_bind_ok.mp ok
    obtain ⟨_,ok⟩ := check_bind_ok.mp ok
    obtain ⟨branch,found,ok⟩ := bind_ok.mp ok
    obtain ⟨inside,ok⟩ := check_bind_ok.mp ok
    exact forall_mem_cons.mpr ⟨⟨branch,context_ok.mp found,ensure_ok.mp inside⟩,ih _ ok⟩

theorem validateAnnotations_ok (project : TasProject) (seen : List String) (annotations : List TasAnnotation)
    (ok : validateAnnotations project seen annotations = .ok ()) : ∀ annotated ∈ annotations,
      ∃ branch, project.branch annotated.branchId = some branch ∧
        annotated.start + annotated.length ≤ branch.frameCount := by
  induction annotations generalizing seen with
  | nil => simp
  | cons annotated annotations ih =>
    obtain ⟨_,ok⟩ := check_bind_ok.mp ok
    obtain ⟨_,ok⟩ := check_bind_ok.mp ok
    obtain ⟨_,ok⟩ := check_bind_ok.mp ok
    obtain ⟨_,ok⟩ := check_bind_ok.mp ok
    obtain ⟨_,ok⟩ := check_bind_ok.mp ok
    obtain ⟨branch,found,ok⟩ := bind_ok.mp ok
    obtain ⟨stop,summed,ok⟩ := bind_ok.mp ok
    obtain ⟨_,rfl⟩ := checkedAdd_ok.mp summed
    obtain ⟨inside,later⟩ := check_bind_ok.mp ok
    exact forall_mem_cons.mpr ⟨⟨branch,context_ok.mp found,ensure_ok.mp inside⟩,ih _ later⟩

theorem branch_id (project : TasProject) (id : String) (branch : TasBranch) (found : project.branch id = some branch) :
    branch.id = id := by
  have same := List.find?_some found
  exact beq_iff_eq.mp same

theorem editable_of_valid (sha256 : Bytes → TasDigest) (project : TasProject)
    (valid : project.validateEditorState sha256 = .ok ()) (branchId : String) (branch : TasBranch)
    (found : project.branch branchId = some branch) : Editable project branch := by
  have valid := (validateEditorState_ok sha256 project).mp valid
  obtain ⟨_,branches,_⟩ := valid.branches
  have id := branch_id project branchId branch found
  obtain ⟨limit,movie⟩ := validateBranches_ok project [] 0 _ _ branches branch (List.mem_of_find?_eq_some found)
  obtain ⟨spans,events⟩ := validateBranchMovie_ok project branch movie
  refine ⟨limit,spans,events,?_,?_⟩
  · intro marker member same
    obtain ⟨owner,owned,inside⟩ := validateMarkers_ok project [] _ valid.markers marker member
    rw [same,id,found] at owned
    cases owned
    exact inside
  · intro annotated member same
    obtain ⟨owner,owned,inside⟩ := validateAnnotations_ok project [] _ valid.annotations annotated member
    rw [same,id,found] at owned
    cases owned
    exact inside

/-- A branch whose movie moved along with an edit of its frames. -/
structure Moved (project project' : TasProject) (branch branch' : TasBranch) (source : Nat → Option Nat) : Prop where
  rebased : Rebased branch branch' project.assets source
  events : EventsKept branch'.events branch'.frameCount
  assets : project'.assets = project.assets

theorem branchIndex_ok (edit : TasProjectEdit) (branchId : String) (branch : TasBranch)
    (found : edit.project.branch branchId = some branch) : ∃ index, edit.branchIndex branchId = .ok index ∧
      edit.project.branches.get index = branch ∧ ∀ changed : TasBranch, changed.id = branch.id →
        (edit.project.branches.set index changed).find? (fun branch => branch.id == branchId) = some changed := by
  obtain ⟨index,located,same,replaced⟩ := findFinIdx?_of_find? _ _ _ found
  refine ⟨index,by rw [TasProjectEdit.branchIndex,located]; rfl,same,?_⟩
  intro changed kept
  exact replaced changed (beq_iff_eq.mpr (kept.trans (branch_id edit.project branchId branch found)))

theorem insertMarker_exists (branchId : String) (cursor count frameCount : Nat) (word : frameCount + count < 2^64)
    (marker : TasMarker) (inside : marker.branchId = branchId → marker.cursor ≤ frameCount) :
    ∃ moved, insertMarker branchId cursor count marker = .ok moved := by
  unfold insertMarker
  split
  · rename_i own
    have short := inside own.1
    rw [checkedAdd_pos (by omega)]
    exact ⟨_,rfl⟩
  · exact ⟨_,rfl⟩

theorem annotationInserted_exists (branchId : String) (cursor count frameCount : Nat) (word : frameCount + count < 2^64)
    (annotated : TasAnnotation) (inside : annotated.branchId = branchId → annotated.start + annotated.length ≤ frameCount) :
    ∃ moved, annotationInserted branchId cursor count annotated = .ok moved := by
  unfold annotationInserted
  split
  · rename_i own
    have short := inside own
    rw [checkedAdd_pos (by omega),ok_bind]
    split
    · rw [checkedAdd_pos (by omega)]
      exact ⟨_,rfl⟩
    · split
      · rw [checkedAdd_pos (by omega)]
        exact ⟨_,rfl⟩
      · exact ⟨_,rfl⟩
  · exact ⟨_,rfl⟩

theorem deleteCursor_ok (cursor start count : Nat) : deleteCursor cursor start (start + count) count =
    .ok (if cursor ≤ start then cursor else max start (cursor - count)) := by
  unfold deleteCursor
  split
  · rfl
  · split
    · congr 1
      omega
    · rw [checkedSub_pos (by omega)]
      congr 1
      omega

theorem deleteMarker_exists (branchId : String) (start count : Nat) (marker : TasMarker) :
    ∃ moved, deleteMarker branchId start (start + count) count marker = .ok moved := by
  unfold deleteMarker
  split
  · rw [deleteCursor_ok]
    exact ⟨_,rfl⟩
  · exact ⟨_,rfl⟩

theorem annotationDeleted_exists (branchId : String) (start count frameCount : Nat) (word : frameCount < 2^64)
    (annotated : TasAnnotation) (inside : annotated.branchId = branchId → annotated.start + annotated.length ≤ frameCount) :
    ∃ moved, annotationDeleted branchId start (start + count) count annotated = .ok moved := by
  unfold annotationDeleted
  split
  · rename_i own
    have short := inside own
    rw [checkedAdd_pos (by omega),ok_bind,deleteCursor_ok,ok_bind,deleteCursor_ok,ok_bind]
    have monotone : (if annotated.start ≤ start then annotated.start else max start (annotated.start - count)) ≤
        if annotated.start + annotated.length ≤ start then annotated.start + annotated.length
        else max start (annotated.start + annotated.length - count) := by grind
    generalize (if annotated.start ≤ start then annotated.start else max start (annotated.start - count)) = first at *
    generalize (if annotated.start + annotated.length ≤ start then annotated.start + annotated.length
        else max start (annotated.start + annotated.length - count)) = last at *
    split
    · exact ⟨_,rfl⟩
    · rw [checkedSub_pos monotone]
      exact ⟨_,rfl⟩
  · exact ⟨_,rfl⟩

namespace TasProjectEdit

theorem insertFrames_moved (edit : TasProjectEdit) (branchId : String) (branch : TasBranch)
    (found : edit.project.branch branchId = some branch) (editable : Editable edit.project branch) (cursor count : Nat)
    (some_ : 1 ≤ count) (inside : cursor ≤ branch.frameCount) (limit : branch.frameCount + count ≤ maxProjectFrames) :
    ∃ edit' branch', edit.insertFrames branchId cursor count = .ok edit' ∧
      edit'.project.branch branchId = some branch' ∧ branch'.frameCount = branch.frameCount + count ∧
      Moved edit.project edit'.project branch branch' (insertionSource cursor count) := by
  have word := word_of_limit limit
  obtain ⟨index,located,same,replaced⟩ := branchIndex_ok edit branchId branch found
  have id := branch_id edit.project branchId branch found
  obtain ⟨spans,rebuilt,rebased⟩ := insertInputFrames_rebased branch edit.project.assets cursor count limit inside editable.spans
  obtain ⟨events,moved,kept⟩ := insertEvents_kept branch.events branch.frameCount cursor count word editable.events
  obtain ⟨markers,markersMoved⟩ := mapM_exists (insertMarker branchId cursor count) edit.project.markers
    (fun marker member => insertMarker_exists _ _ _ branch.frameCount word marker
      (fun own => editable.markers marker member (own.trans id.symm)))
  obtain ⟨annotations,annotationsMoved⟩ := mapM_exists (annotationInserted branchId cursor count) edit.project.annotations
    (fun annotated member => annotationInserted_exists _ _ _ branch.frameCount word annotated
      (fun own => editable.annotations annotated member (own.trans id.symm)))
  have nonempty : count ≠ 0 := by omega
  rw [insertFrames,ensure_pos nonempty,ok_bind,located,ok_bind,same]
  dsimp only
  rw [ensure_pos inside,ok_bind,checkedAdd_pos word,ok_bind,ensure_pos limit,ok_bind,rebuilt,ok_bind,moved,ok_bind,
    markersMoved,ok_bind,annotationsMoved,ok_bind]
  refine ⟨_,{ branch with inputSpans := spans, events := events, frameCount := branch.frameCount + count },rfl,
    replaced _ rfl,rfl,rebased _ rfl rfl,kept,rfl⟩

theorem deleteFrames_moved (edit : TasProjectEdit) (branchId : String) (branch : TasBranch)
    (found : edit.project.branch branchId = some branch) (editable : Editable edit.project branch) (start count : Nat)
    (some_ : 1 ≤ count) (inside : start + count ≤ branch.frameCount) :
    ∃ edit' branch', edit.deleteFrames branchId start count = .ok edit' ∧
      edit'.project.branch branchId = some branch' ∧ branch'.frameCount = branch.frameCount - count ∧
      Moved edit.project edit'.project branch branch' (deletionSource start count) := by
  have word := word_of_limit editable.limit
  have fits : start + count < 2^64 := by omega
  have enough : count ≤ branch.frameCount := by omega
  obtain ⟨index,located,same,replaced⟩ := branchIndex_ok edit branchId branch found
  have id := branch_id edit.project branchId branch found
  obtain ⟨spans,rebuilt,rebased⟩ :=
    deleteInputFrames_rebased branch edit.project.assets start count editable.limit inside editable.spans
  obtain ⟨events,moved,kept⟩ := deleteEvents_kept branch.events branch.frameCount start count word inside editable.events
  obtain ⟨markers,markersMoved⟩ := mapM_exists (deleteMarker branchId start (start + count) count) edit.project.markers
    (fun marker _ => deleteMarker_exists branchId start count marker)
  obtain ⟨annotations,annotationsMoved⟩ := mapM_exists (annotationDeleted branchId start (start + count) count)
    edit.project.annotations (fun annotated member => annotationDeleted_exists _ _ _ branch.frameCount word annotated
      (fun own => editable.annotations annotated member (own.trans id.symm)))
  have nonempty : count ≠ 0 := by omega
  rw [deleteFrames,ensure_pos nonempty,ok_bind,checkedAdd_pos fits,ok_bind,located,ok_bind,same]
  dsimp only
  rw [ensure_pos inside,ok_bind,rebuilt,ok_bind,moved,ok_bind,checkedSub_pos enough,ok_bind,markersMoved,ok_bind,
    annotationsMoved,ok_bind]
  refine ⟨_,{ branch with
    inputSpans := spans, events := events.reduceOption, frameCount := branch.frameCount - count },rfl,
    replaced _ rfl,rfl,rebased _ rfl rfl,kept,rfl⟩

end TasProjectEdit

/-- The movie after an insertion is the old movie with neutral frames in between; after a
deletion it is the old movie without the deleted frames. Its spans and events stay valid. -/
theorem timeline_edits (sha256 : Bytes → TasDigest) (edit : TasProjectEdit)
    (valid : edit.project.validate sha256 = .ok ()) (branchId : String) (branch : TasBranch)
    (found : edit.project.branch branchId = some branch) :
    (∀ cursor count, cursor ≤ branch.frameCount → 1 ≤ count → branch.frameCount + count ≤ maxProjectFrames →
      ∃ edit' branch', edit.insertFrames branchId cursor count = .ok edit' ∧
        edit'.project.branch branchId = some branch' ∧ branch'.frameCount = branch.frameCount + count ∧
        (∀ frame, branch'.inputAt frame =
          if frame < cursor then branch.inputAt frame
          else if frame < cursor + count then {}
          else branch.inputAt (frame - count)) ∧
        validateInputSpans branch' edit'.project.assets = .ok () ∧ ReplayEvent.Canonical branch'.events ∧
        ∀ event ∈ branch'.events, eventInside event branch'.frameCount = true) ∧
    (∀ start stop, start < stop → stop ≤ branch.frameCount →
      ∃ edit' branch', edit.deleteFrames branchId start (stop - start) = .ok edit' ∧
        edit'.project.branch branchId = some branch' ∧ branch'.frameCount = branch.frameCount - (stop - start) ∧
        (∀ frame, branch'.inputAt frame =
          if frame < start then branch.inputAt frame else branch.inputAt (frame + (stop - start))) ∧
        validateInputSpans branch' edit'.project.assets = .ok () ∧ ReplayEvent.Canonical branch'.events ∧
        ∀ event ∈ branch'.events, eventInside event branch'.frameCount = true) := by
  obtain ⟨editor,_⟩ := check_bind_ok.mp valid
  have editable := editable_of_valid sha256 edit.project editor branchId branch found
  constructor
  · intro cursor count inside nonempty limit
    obtain ⟨edit',branch',ok,found',frames,moved⟩ :=
      edit.insertFrames_moved branchId branch found editable cursor count nonempty inside limit
    refine ⟨edit',branch',ok,found',frames,?_,moved.assets ▸ moved.rebased.valid,moved.events.canonical,moved.events.inside⟩
    intro frame
    rw [moved.rebased.inputAt frame,insertionSource]
    by_cases early : frame < cursor
    · simp only [if_pos early]
    · by_cases fresh : frame < cursor + count
      · simp only [if_neg early,if_pos fresh]
      · simp only [if_neg early,if_neg fresh]
  · intro start stop nonempty inside
    obtain ⟨edit',branch',ok,found',frames,moved⟩ :=
      edit.deleteFrames_moved branchId branch found editable start (stop - start) (by omega) (by omega)
    refine ⟨edit',branch',ok,found',frames,?_,moved.assets ▸ moved.rebased.valid,moved.events.canonical,moved.events.inside⟩
    intro frame
    rw [moved.rebased.inputAt frame,deletionSource]
    by_cases early : frame < start
    · simp only [if_pos early]
    · simp only [if_neg early]

def emptyDigest : TasDigest :=
  ⟨[0xe3,0xb0,0xc4,0x42,0x98,0xfc,0x1c,0x14,0x9a,0xfb,0xf4,0xc8,0x99,0x6f,0xb9,0x24,0x27,0xae,0x41
    ,0xe4,0x64,0x9b,0x93,0x4c,0xa4,0x95,0x99,0x1b,0x78,0x52,0xb8,0x55],rfl⟩

def smallMovie : TasBranch := {
  id := "main", name := "main", frameCount := 4
  inputSpans := [⟨1,2,{ tiltXBits := 1 }⟩]
  events := [.fdsDiskSide 2 1] }

def smallProject : TasProject := {
  projectId := "p", startState := [], replayStart := {}, activeBranchId := "main", branches := [smallMovie], assets := []
  identity := {
    system := "nes", coreFamily := "nes", determinismAbi := "1", sourceMediaSha256 := emptyDigest
    effectiveMediaSha256 := emptyDigest, patches := [], firmware := []
    devices := [⟨"1","pad",emptyDigest⟩], syncConfigSha256 := emptyDigest, persistentState := .absent
    rtcState := .absent, sensorState := .absent, cheats := .absent, stateFormatCompatibilityId := "1"
    startStateSha256 := emptyDigest } }

theorem timeline_edits_small : ∃ edit' branch',
    TasProjectEdit.insertFrames { project := smallProject } "main" 2 3 = .ok edit' ∧
      edit'.project.branch "main" = some branch' ∧ branch'.frameCount = 7 := by
  have valid : smallProject.validate (fun _ => emptyDigest) = .ok () := by decide +kernel
  obtain ⟨edit',branch',inserted,found,frames,_⟩ := (timeline_edits (fun _ => emptyDigest) { project := smallProject } valid
    "main" smallMovie (by decide)).1 2 3 (by decide) (by decide) (by decide)
  exact ⟨edit',branch',inserted,found,frames⟩

end ZeffBoy.Tas
