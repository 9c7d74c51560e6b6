import ZeffBoy.Tas.PatternSpans

/-! Taking a pattern from a branch and putting one into it.
The pieces a replacement pushes are the spans in front of the range, the pattern moved to its
start and the spans behind it, so the branch holds the normal form of these. -/
namespace ZeffBoy.Tas
open Library Spans List

theorem partitionPoint_cons_pos {α : Type} {test : α → Bool} {value : α} {values : List α} (holds : test value = true) :
    partitionPoint (value::values) test = partitionPoint values test + 1 := by
  rw [partitionPoint,takeWhile_cons_of_pos holds,length_cons,partitionPoint]

theorem partitionPoint_cons_neg {α : Type} {test : α → Bool} {value : α} {values : List α} (fails : ¬test value = true) :
    partitionPoint (value::values) test = 0 := by
  rw [partitionPoint,takeWhile_cons_of_neg fails,length_nil]

theorem drop_partitionPoint {α : Type} (test : α → Bool) (values : List α) :
    values.drop (partitionPoint values test) = values.dropWhile test := by
  induction values with
  | nil => rfl
  | cons value values ih =>
    by_cases holds : test value = true
    · rw [partitionPoint_cons_pos holds,drop_succ_cons,ih,dropWhile_cons_of_pos holds]
    · rw [partitionPoint_cons_neg holds,drop_zero,dropWhile_cons_of_neg holds]

theorem front_eq_clipAll (start : Nat) (spans : List TasInputSpan) (ordered : Ordered spans)
    (filled : ∀ span ∈ spans, 0 < span.length) :
    spans.take (partitionPoint spans (fun span => span.stop ≤ start)) ++
      replaceBranchInputPattern.cutFront start (spans[partitionPoint spans (fun span => span.stop ≤ start)]?) =
      clipAll start spans := by
  induction spans with
  | nil => rfl
  | cons span spans ih =>
    obtain ⟨below,ordered⟩ := pairwise_cons.mp ordered
    obtain ⟨long,filled⟩ := forall_mem_cons.mp filled
    by_cases before : span.stop ≤ start
    · have whole : clip start span = some span := by
        rw [Span.stop] at before
        refine clip_some.mpr ⟨by omega,?_⟩
        rw [min_eq_left (by omega)]
      have counted : partitionPoint (span::spans) (fun span => span.stop ≤ start) =
          partitionPoint spans (fun span => span.stop ≤ start) + 1 :=
        partitionPoint_cons_pos (decide_eq_true before)
      rw [counted,take_succ_cons,List.getElem?_cons_succ,
        cons_append,ih ordered filled,clipAll,clipAll,filterMap_cons_some whole]
    · have behind : clipAll start spans = [] :=
        clipAll_beyond _ _ fun other member => (Nat.le_of_not_le before).trans (below other member)
      rw [partitionPoint_cons_neg (by simpa using before),take_zero,List.getElem?_cons_zero,nil_append,
        replaceBranchInputPattern.cutFront]
      by_cases begun : span.start < start
      · have cut : clip start span = some { span with length := start - span.start } := by
          rw [Span.stop] at before
          refine clip_some.mpr ⟨begun,?_⟩
          rw [min_eq_right (by omega)]
        rw [if_pos begun,clipAll,filterMap_cons_some cut,← clipAll,behind]
      · have none_ : clip start span = none := if_pos (Nat.le_of_not_lt begun)
        rw [if_neg begun,clipAll,filterMap_cons_none none_,← clipAll,behind]

theorem restAll_whole (cursor : Nat) (spans : List TasInputSpan)
    (after : ∀ span ∈ spans, cursor ≤ span.start ∧ 0 < span.length) : restAll cursor spans = spans := by
  rw [restAll]
  conv_rhs => rw [← filterMap_some (l := spans)]
  refine filterMap_congr ?_
  intro span member
  obtain ⟨behind,filled⟩ := after span member
  refine rest_some.mpr ⟨by rw [Span.stop]; omega,?_⟩
  rw [max_eq_left behind,Span.stop,Nat.add_sub_cancel_left]

theorem back_eq_restAll (stop : Nat) (spans : List TasInputSpan) (ordered : Ordered spans)
    (filled : ∀ span ∈ spans, 0 < span.length) :
    replaceBranchInputPattern.cutBack stop (if partitionPoint spans (fun span => span.start < stop) = 0 then none
      else spans[partitionPoint spans (fun span => span.start < stop) - 1]?) ++
      spans.drop (partitionPoint spans (fun span => span.start < stop)) = restAll stop spans := by
  induction spans with
  | nil => rfl
  | cons span spans ih =>
    obtain ⟨below,later⟩ := pairwise_cons.mp ordered
    obtain ⟨long,others⟩ := forall_mem_cons.mp filled
    have rest_ := ih later others
    by_cases begun : span.start < stop
    · have counted : partitionPoint (span::spans) (fun span => span.start < stop) =
          partitionPoint spans (fun span => span.start < stop) + 1 :=
        partitionPoint_cons_pos (decide_eq_true begun)
      rw [counted,if_neg (Nat.succ_ne_zero _),Nat.add_sub_cancel,
        drop_succ_cons]
      cases count : partitionPoint spans (fun span => span.start < stop) with
      | zero =>
        rw [count,if_pos rfl,replaceBranchInputPattern.cutBack,nil_append,drop_zero] at rest_
        rw [List.getElem?_cons_zero,drop_zero,replaceBranchInputPattern.cutBack]
        by_cases past : stop < span.stop
        · have cut : rest stop span = some ⟨stop,span.stop - stop,span.value⟩ := by
            refine rest_some.mpr ⟨past,?_⟩
            rw [max_eq_right (le_of_lt begun)]
          rw [if_pos past,restAll,filterMap_cons_some cut,← restAll,← rest_]
          rfl
        · have none_ : rest stop span = none := if_pos (Nat.le_of_not_lt past)
          rw [if_neg past,restAll,filterMap_cons_none none_,← restAll,← rest_]
          rfl
      | succ more =>
        have none_ : rest stop span = none := by
          cases spans with
          | nil => exact absurd count.symm (Nat.succ_ne_zero more)
          | cons next spans =>
            have reached : next.start < stop := by
              by_contra unreached
              rw [partitionPoint_cons_neg (by simpa using unreached)] at count
              exact Nat.succ_ne_zero more count.symm
            exact if_pos ((below next mem_cons_self).trans (le_of_lt reached))
        rw [count,if_neg (Nat.succ_ne_zero _),Nat.add_sub_cancel] at rest_
        rw [List.getElem?_cons_succ,rest_,restAll,restAll,filterMap_cons_none none_]
    · have behind : ∀ other ∈ span::spans, stop ≤ other.start ∧ 0 < other.length := by
        have first := Nat.le_of_not_lt begun
        refine fun other member => ⟨?_,filled other member⟩
        rcases mem_cons.mp member with rfl | later
        · exact first
        · exact first.trans ((Nat.le_add_right _ _).trans (below other later))
      rw [partitionPoint_cons_neg (by simpa using begun),if_pos rfl,replaceBranchInputPattern.cutBack,
        nil_append,drop_zero,restAll_whole stop _ behind]

def replacementPieces (branch : TasBranch) (start : Nat) (pattern : TasInputPattern) : List TasInputSpan :=
  clipAll start branch.inputSpans ++ pattern.spans.map (Span.move start) ++
    restAll (start + pattern.length) branch.inputSpans

theorem pushSpans_moved (start : Nat) (pushed spans : List TasInputSpan)
    (fits : ∀ span ∈ pushed, start + span.start < 2^64) :
    pushed.foldlM (fun spans span => do
      let begins ← checkedAdd start span.start "TAS input pattern offset overflows"
      pushSpan spans { span with start := begins } maxProjectInputSpans) spans =
      pushSpans spans (pushed.map (Span.move start)) maxProjectInputSpans := by
  induction pushed generalizing spans with
  | nil => rfl
  | cons span pushed ih =>
    obtain ⟨first,later⟩ := forall_mem_cons.mp fits
    rw [foldlM_cons,map_cons,pushSpans,foldlM_cons,checkedAdd_pos first,ok_bind]
    refine bind_congr fun spans => ?_
    exact ih spans later

section
variable {branch : TasBranch} {assets : List (TasDigest × Bytes)} (word : branch.frameCount < 2^64)
  (valid : validateInputSpans branch assets = .ok ()) (start : Nat) (pattern : TasInputPattern)
  (inside : start + pattern.length ≤ branch.frameCount)

include word valid

theorem replacementPieces_ordered : Ordered (replacementPieces branch start pattern) := by
  obtain ⟨canonical,_⟩ := (validateInputSpans_ok branch word assets).mp valid
  have front := (clipAll_canonical start branch.inputSpans canonical).ordered
  have middle := ordered_move start pattern.spans pattern.canonical.ordered
  have back := ordered_restAll (start + pattern.length) branch.inputSpans canonical.ordered
  refine ordered_append _ _ (start + pattern.length) (ordered_append _ _ start front middle ?_ ?_) back ?_ ?_
  · exact fun span member => (mem_clipAll member).1
  · intro span member
    obtain ⟨old,_,rfl⟩ := mem_map.mp member
    exact Nat.le_add_right _ _
  · intro span member
    rcases mem_append.mp member with front | middle
    · exact (mem_clipAll front).1.trans (Nat.le_add_right _ _)
    · obtain ⟨old,belongs,rfl⟩ := mem_map.mp middle
      rw [Span.move_stop]
      exact Nat.add_le_add_left (pattern.inside old belongs) start
  · exact fun span member => (mem_restAll _ _ _ member).1

omit word valid in
theorem shows_replacementPieces (frame : Nat) (value : TasInputFrame) :
    Shows (replacementPieces branch start pattern) frame value ↔
      if start ≤ frame ∧ frame < start + pattern.length then Shows pattern.spans (frame - start) value
      else Shows branch.inputSpans frame value := by
  have short : Shows pattern.spans (frame - start) value → frame - start < pattern.length := by
    rintro ⟨span,member,⟨_,before⟩,_⟩
    exact lt_of_lt_of_le before (pattern.inside span member)
  rw [replacementPieces,shows_append,shows_append,shows_clipAll,shows_move,shows_restAll]
  split
  · rename_i within
    constructor
    · rintro ((⟨before,_⟩ | ⟨_,shown⟩) | ⟨after,_⟩)
      · omega
      · exact shown
      · omega
    · exact fun shown => .inl (.inr ⟨within.1,shown⟩)
  · rename_i outside
    constructor
    · rintro ((⟨_,shown⟩ | ⟨reached,shown⟩) | ⟨_,shown⟩)
      · exact shown
      · have := short shown
        omega
      · exact shown
    · intro shown
      rcases lt_or_ge frame start with before | reached
      · exact .inl (.inl ⟨before,shown⟩)
      · exact .inr ⟨by omega,shown⟩

include inside

theorem replacementPieces_bound (span : TasInputSpan) (member : span ∈ replacementPieces branch start pattern) :
    (0 < span.length ∧ span.value ≠ {}) ∧ span.stop ≤ branch.frameCount := by
  obtain ⟨canonical,kept⟩ := (validateInputSpans_ok branch word assets).mp valid
  rcases mem_append.mp member with early | back
  · rcases mem_append.mp early with front | middle
    · refine ⟨(clipAll_canonical start branch.inputSpans canonical).active span front,?_⟩
      obtain ⟨_,old,belongs,stop,_⟩ := mem_clipAll front
      exact stop.trans (kept old belongs).2
    · obtain ⟨old,belongs,rfl⟩ := mem_map.mp middle
      refine ⟨pattern.canonical.active old belongs,?_⟩
      rw [Span.move_stop]
      exact (Nat.add_le_add_left (pattern.inside old belongs) start).trans inside
  · obtain ⟨old,belongs,cut⟩ := mem_filterMap.mp back
    obtain ⟨reaches,rfl⟩ := rest_some.mp cut
    have active := canonical.active old belongs
    have stop := (kept old belongs).2
    simp only [Span.stop] at reaches stop ⊢
    exact ⟨⟨by omega,active.2⟩,by omega⟩

theorem replaceBranchInputPattern_eq : replaceBranchInputPattern branch start pattern =
    if (normalize {} (replacementPieces branch start pattern)).length ≤ maxProjectInputSpans then
      .ok { branch with inputSpans := normalize {} (replacementPieces branch start pattern) }
    else .error (spanLimitMessage maxProjectInputSpans) := by
  obtain ⟨canonical,_⟩ := (validateInputSpans_ok branch word assets).mp valid
  have filled := fun span member => (canonical.active span member).1
  have bound := replacementPieces_bound word valid start pattern inside
  have moved : ∀ span ∈ pattern.spans, start + span.start < 2^64 := by
    intro span member
    have stop := pattern.inside span member
    rw [Span.stop] at stop
    omega
  have front := front_eq_clipAll start branch.inputSpans canonical.ordered filled
  have back := back_eq_restAll (start + pattern.length) branch.inputSpans canonical.ordered filled
  have pieces := pushSpans_normalize (replacementPieces branch start pattern) maxProjectInputSpans
    (replacementPieces_ordered word valid start pattern) (fun span member => (bound span member).1)
    (fun span member => lt_of_le_of_lt (bound span member).2 word)
  rw [replacementPieces,← front,← back,← append_assoc,pushSpans_append,pushSpans_append,pushSpans_append,
    pushSpans_append,front,append_assoc _ _ (List.drop _ _),back,← replacementPieces] at pieces
  have result := congrArg (· >>= fun spans => .ok { branch with inputSpans := spans }) pieces
  simp only [bind_assoc] at result
  rw [replaceBranchInputPattern,checkedAdd_pos (lt_of_le_of_lt inside word),ok_bind,ensure_pos inside,ok_bind]
  simp only [pushSpans_moved start _ _ moved]
  refine result.trans ?_
  split <;> rfl

end

theorem shows_dropWhile (start : Nat) (spans : List TasInputSpan) (frame : Nat) (value : TasInputFrame)
    (reached : start ≤ frame) :
    Shows (spans.dropWhile (fun span => span.stop ≤ start)) frame value ↔ Shows spans frame value := by
  have whole := takeWhile_append_dropWhile (p := fun span : TasInputSpan => span.stop ≤ start) (l := spans)
  conv_rhs => rw [← whole]
  rw [shows_append,or_iff_right]
  rintro ⟨span,member,⟨_,before⟩,_⟩
  have stop : span.stop ≤ start := by simpa using mem_takeWhile_imp member
  omega

theorem stop_of_dropWhile (start : Nat) (spans : List TasInputSpan) (ordered : Ordered spans) :
    ∀ span ∈ spans.dropWhile (fun span => span.stop ≤ start), start < span.stop := by
  induction spans with
  | nil => exact fun _ member => nomatch member
  | cons span spans ih =>
    obtain ⟨below,later⟩ := pairwise_cons.mp ordered
    by_cases before : span.stop ≤ start
    · rw [dropWhile_cons_of_pos (by simpa using before)]
      exact ih later
    · rw [dropWhile_cons_of_neg (by simpa using before)]
      have first := Nat.lt_of_not_le before
      refine forall_mem_cons.mpr ⟨first,fun other member => ?_⟩
      calc start < span.stop := first
        _ ≤ other.start := below other member
        _ ≤ other.stop := Nat.le_add_right _ _

theorem shows_clipSpans (start stop : Nat) (range : start < stop) (remaining spans result : List TasInputSpan)
    (ordered : Ordered remaining) (reach : ∀ span ∈ remaining, start < span.stop)
    (ok : clipSpans start stop spans remaining = .ok result) (frame : Nat) (value : TasInputFrame) :
    Shows result frame value ↔ Shows spans frame value ∨ frame < stop - start ∧ Shows remaining (start + frame) value := by
  induction remaining generalizing spans with
  | nil =>
    obtain rfl := Except.ok.inj ok
    simp [not_shows_nil]
  | cons span remaining ih =>
    obtain ⟨below,ordered⟩ := pairwise_cons.mp ordered
    obtain ⟨reached,reach⟩ := forall_mem_cons.mp reach
    rw [clipSpans] at ok
    by_cases behind : stop ≤ span.start
    · rw [if_pos behind] at ok
      obtain rfl := Except.ok.inj ok
      have hidden : ¬(frame < stop - start ∧ Shows (span::remaining) (start + frame) value) := by
        rintro ⟨before,other,member,⟨begun,_⟩,_⟩
        rcases mem_cons.mp member with rfl | later
        · omega
        · have := below other later
          rw [Span.stop] at this
          omega
      rw [or_iff_left hidden]
    · rw [if_neg behind] at ok
      obtain ⟨_,ok⟩ := check_bind_ok.mp ok
      rw [ih _ ordered reach ok,shows_append,@shows_cons _ span,or_assoc]
      refine or_congr_right ?_
      have piece : Shows [(⟨max span.start start - start,min span.stop stop - max span.start start,span.value⟩ :
          TasInputSpan)] frame value ↔ frame < stop - start ∧ span.Covers (start + frame) ∧ span.value = value := by
        simp only [Shows,mem_singleton,exists_eq_left,Span.Covers,Span.stop] at reached ⊢
        rw [← and_assoc]
        refine and_congr_left fun _ => ?_
        omega
      rw [piece,← and_or_left]

theorem inputPattern_ok (branch : TasBranch) (assets : List (TasDigest × Bytes)) (word : branch.frameCount < 2^64)
    (valid : validateInputSpans branch assets = .ok ()) (start length : Nat) (pattern : TasInputPattern)
    (ok : branch.inputPattern start length = .ok pattern) :
    pattern.length = length ∧ start + length ≤ branch.frameCount ∧
      ∀ frame value, Shows pattern.spans frame value ↔ frame < length ∧ Shows branch.inputSpans (start + frame) value := by
  obtain ⟨canonical,kept⟩ := (validateInputSpans_ok branch word assets).mp valid
  obtain ⟨_,ok⟩ := check_bind_ok.mp ok
  obtain ⟨stop,summed,ok⟩ := bind_ok.mp ok
  obtain ⟨_,rfl⟩ := checkedAdd_ok.mp summed
  obtain ⟨inside,ok⟩ := check_bind_ok.mp ok
  rw [ensure_ok] at inside
  obtain ⟨spans,clipped,ok⟩ := bind_ok.mp ok
  obtain ⟨rfl,rfl⟩ := (TasInputPattern.new_ok _ _ _).mp ok
  have stops := fun span member => lt_of_le_of_lt (kept span member).2 word
  rw [drop_partitionPoint,dropWhile_saturatingAdd _ stops] at clipped
  refine ⟨rfl,inside,fun frame value => ?_⟩
  have reach := stop_of_dropWhile start branch.inputSpans canonical.ordered
  have ordered := canonical.ordered.sublist (dropWhile_sublist (fun span : TasInputSpan => span.stop ≤ start))
  rw [shows_clipSpans start _ (Nat.lt_add_of_pos_right pattern.length_pos) _ _ _ ordered reach clipped,
    or_iff_right (not_shows_nil _ _),Nat.add_sub_cancel_left,shows_dropWhile _ _ _ _ (Nat.le_add_right _ _)]

theorem inputAt_of_valid (branch : TasBranch) (assets : List (TasDigest × Bytes)) (word : branch.frameCount < 2^64)
    (valid : validateInputSpans branch assets = .ok ()) (frame : Nat) :
    branch.inputAt frame = valueAt {} branch.inputSpans frame := by
  obtain ⟨_,kept⟩ := (validateInputSpans_ok branch word assets).mp valid
  exact inputAt_eq_valueAt branch (fun span member => lt_of_le_of_lt (kept span member).2 word) frame

theorem inputSpans_eq_iff (left right : TasBranch) (assets assets' : List (TasDigest × Bytes))
    (word : left.frameCount < 2^64) (validLeft : validateInputSpans left assets = .ok ())
    (validRight : validateInputSpans right assets' = .ok ()) (length : right.frameCount = left.frameCount) :
    left.inputSpans = right.inputSpans ↔ ∀ frame < left.frameCount, left.inputAt frame = right.inputAt frame := by
  obtain ⟨canonicalLeft,insideLeft⟩ := (validateInputSpans_ok left word assets).mp validLeft
  obtain ⟨canonicalRight,insideRight⟩ := (validateInputSpans_ok right (length ▸ word) assets').mp validRight
  have readLeft := inputAt_of_valid left assets word validLeft
  have readRight := inputAt_of_valid right assets' (length ▸ word) validRight
  constructor
  · intro same frame _
    rw [readLeft,readRight,same]
  · intro same
    have clipped : clipAll left.frameCount left.inputSpans = clipAll left.frameCount right.inputSpans := by
      refine clipAll_eq _ _ _ canonicalLeft canonicalRight ?_
      intro frame below
      rw [← readLeft,← readRight,same frame below]
    rw [clipAll_whole fun span member => ⟨(canonicalLeft.active span member).1,(insideLeft span member).2⟩,
      clipAll_whole fun span member =>
        ⟨(canonicalRight.active span member).1,length ▸ (insideRight span member).2⟩] at clipped
    exact clipped

section
variable {branch : TasBranch} {assets : List (TasDigest × Bytes)} (word : branch.frameCount < 2^64)
  (valid : validateInputSpans branch assets = .ok ()) (start : Nat) (pattern : TasInputPattern)
  (inside : start + pattern.length ≤ branch.frameCount)

def replacedBranch (branch : TasBranch) (start : Nat) (pattern : TasInputPattern) : TasBranch :=
  { branch with inputSpans := normalize {} (replacementPieces branch start pattern) }

include word valid inside

theorem replacedBranch_valid : validateInputSpans (replacedBranch branch start pattern) assets = .ok () ↔
    ∀ span ∈ pattern.spans, cameraAvailable assets span.value.camera = true := by
  obtain ⟨canonical,kept⟩ := (validateInputSpans_ok branch word assets).mp valid
  have ordered := replacementPieces_ordered word valid start pattern
  have normal := normalize_canonical {} _ ordered
  rw [validateInputSpans_ok (replacedBranch branch start pattern) word assets]
  constructor
  · rintro ⟨_,available⟩ span member
    have begun : span.Covers span.start := ⟨le_rfl,by
      have := (pattern.canonical.active span member).1
      rw [Span.stop]
      omega⟩
    have bounded := pattern.inside span member
    have shown : Shows (replacementPieces branch start pattern) (start + span.start) span.value := by
      rw [shows_replacementPieces,if_pos ⟨Nat.le_add_right _ _,by have := begun.2; omega⟩,Nat.add_sub_cancel_left]
      exact ⟨span,member,begun,rfl⟩
    obtain ⟨piece,belongs,_,same⟩ := (shows_normalize {} _ _ _ (pattern.canonical.active span member).2).mpr shown
    exact same ▸ (available piece belongs).1
  · intro available
    refine ⟨normal,forall_normalize (fun value : TasInputFrame => cameraAvailable assets value.camera = true) branch.frameCount {} _ ?_⟩
    intro piece member
    refine ⟨?_,(replacementPieces_bound word valid start pattern inside piece member).2⟩
    rcases mem_append.mp member with early | back
    · rcases mem_append.mp early with front | middle
      · obtain ⟨_,old,belongs,_,same⟩ := mem_clipAll front
        exact same ▸ (kept old belongs).1
      · obtain ⟨old,belongs,rfl⟩ := mem_map.mp middle
        exact available old belongs
    · obtain ⟨_,old,belongs,_,same⟩ := mem_restAll _ _ _ back
      exact same ▸ (kept old belongs).1

theorem replacedBranch_inputAt (frame : Nat) : (replacedBranch branch start pattern).inputAt frame =
    if start ≤ frame ∧ frame < start + pattern.length then pattern.inputAt (frame - start) else branch.inputAt frame := by
  obtain ⟨canonical,_⟩ := (validateInputSpans_ok branch word assets).mp valid
  have ordered := replacementPieces_ordered word valid start pattern
  have bound := replacementPieces_bound word valid start pattern inside
  have stops := forall_normalize (fun _ : TasInputFrame => True) branch.frameCount {} (replacementPieces branch start pattern)
    (fun piece member => ⟨trivial,(bound piece member).2⟩)
  rw [inputAt_eq_valueAt (replacedBranch branch start pattern)
      (fun span member => lt_of_le_of_lt (stops span member).2 word),
    replacedBranch,valueAt_normalize _ _ ordered,inputAt_of_valid branch assets word valid]
  split
  · rename_i within
    refine valueAt_congr ordered pattern.canonical.ordered _ _ fun value _ => ?_
    rw [shows_replacementPieces,if_pos within]
  · rename_i outside
    refine valueAt_congr ordered canonical.ordered _ _ fun value _ => ?_
    rw [shows_replacementPieces,if_neg outside]

end

theorem replacedBranch_inputPattern (branch : TasBranch) (assets : List (TasDigest × Bytes)) (word : branch.frameCount < 2^64)
    (valid : validateInputSpans branch assets = .ok ()) (start length : Nat) (pattern : TasInputPattern)
    (taken : branch.inputPattern start length = .ok pattern) : replacedBranch branch start pattern = branch := by
  obtain ⟨rfl,_,shown⟩ := inputPattern_ok branch assets word valid start length pattern taken
  obtain ⟨canonical,_⟩ := (validateInputSpans_ok branch word assets).mp valid
  have ordered := replacementPieces_ordered word valid start pattern
  have same : normalize {} (replacementPieces branch start pattern) = branch.inputSpans := by
    refine normalize_eq {} _ _ ordered canonical fun frame => ?_
    refine valueAt_congr ordered canonical.ordered _ _ fun value _ => ?_
    rw [shows_replacementPieces]
    split
    · rename_i within
      rw [shown,Nat.add_sub_cancel' within.1]
      exact and_iff_right (by omega)
    · rfl
  rw [replacedBranch,same]

/-- Valid input spans are determined by the inputs they show, replacing a range changes the inputs of that
range alone, and putting back what was taken from a range changes nothing. -/
theorem input_span_patterns (branch : TasBranch) (assets : List (TasDigest × Bytes)) (word : branch.frameCount < 2^64)
    (valid : validateInputSpans branch assets = .ok ()) :
    (∀ (other : TasBranch) (assets' : List (TasDigest × Bytes)), validateInputSpans other assets' = .ok () →
      other.frameCount = branch.frameCount → (branch.inputSpans = other.inputSpans ↔
        ∀ frame < branch.frameCount, branch.inputAt frame = other.inputAt frame)) ∧
    (∀ (start : Nat) (pattern : TasInputPattern), start + pattern.length ≤ branch.frameCount →
      ∃ spans : List TasInputSpan,
        replaceBranchInputPattern branch start pattern = (if spans.length ≤ maxProjectInputSpans then
          .ok { branch with inputSpans := spans } else .error (spanLimitMessage maxProjectInputSpans)) ∧
        (validateInputSpans { branch with inputSpans := spans } assets = .ok () ↔
          ∀ span ∈ pattern.spans, cameraAvailable assets span.value.camera = true) ∧
        ∀ frame, ({ branch with inputSpans := spans } : TasBranch).inputAt frame =
          if start ≤ frame ∧ frame < start + pattern.length then pattern.inputAt (frame - start)
          else branch.inputAt frame) ∧
    (∀ (start length : Nat) (pattern : TasInputPattern), branch.inputPattern start length = .ok pattern →
      replaceBranchInputPattern branch start pattern = if branch.inputSpans.length ≤ maxProjectInputSpans then
        .ok branch else .error (spanLimitMessage maxProjectInputSpans)) := by
  refine ⟨?_,?_,?_⟩
  · intro other assets' validOther length
    exact inputSpans_eq_iff branch other assets assets' word valid validOther length
  · intro start pattern inside
    exact ⟨_,replaceBranchInputPattern_eq word valid start pattern inside,
      replacedBranch_valid word valid start pattern inside,replacedBranch_inputAt word valid start pattern inside⟩
  · intro start length pattern taken
    obtain ⟨rfl,inside,_⟩ := inputPattern_ok branch assets word valid start length pattern taken
    have unchanged := replacedBranch_inputPattern branch assets word valid start _ pattern taken
    have spans := congrArg TasBranch.inputSpans unchanged
    have replaced := replaceBranchInputPattern_eq word valid start pattern inside
    simp only [replacedBranch] at spans
    rw [spans] at replaced
    exact replaced

theorem input_span_patterns_small : ∃ pattern, smallMovie.inputPattern 1 3 = .ok pattern ∧
    replaceBranchInputPattern smallMovie 1 pattern = .ok smallMovie := by
  have valid : validateInputSpans smallMovie [] = .ok () := by decide
  obtain ⟨_,_,restored⟩ := input_span_patterns smallMovie [] (by decide) valid
  have taken : smallMovie.inputPattern 1 3 = .ok ⟨3,[⟨0,2,{ tiltXBits := 1 }⟩],by decide⟩ := rfl
  exact ⟨_,taken,restored 1 3 _ taken⟩

def quietMovie : TasBranch := { id := "main", name := "main", frameCount := 1, inputSpans := [], events := [] }

def cameraPattern : TasInputPattern := ⟨1,[⟨0,1,{ camera := .blob emptyDigest }⟩],by decide⟩

theorem pulse_active : ({ tiltXBits := 1 } : TasInputFrame) ≠ {} := by decide

def denseMovie (count : Nat) : TasBranch := {
  id := "main", name := "main", frameCount := 4 * count
  inputSpans := (List.range count).map (fun index => ⟨4 * index,3,{ tiltXBits := 1 }⟩)
  events := [] }

def pausePattern : TasInputPattern := ⟨1,[],by decide⟩

theorem denseMovie_valid (count : Nat) (word : 4 * count < 2^64) : validateInputSpans (denseMovie count) [] = .ok () := by
  refine (validateInputSpans_ok (denseMovie count) word []).mpr ⟨⟨?_,?_⟩,?_⟩
  · intro span member
    obtain ⟨index,_,rfl⟩ := mem_map.mp member
    exact ⟨Nat.succ_pos 2,pulse_active⟩
  · refine List.Pairwise.isChain (pairwise_map.mpr (pairwise_lt_range.imp ?_))
    intro left right before
    simp only [Separate,Span.stop]
    exact ⟨by omega,fun touching => by omega⟩
  · intro span member
    obtain ⟨index,below,rfl⟩ := mem_map.mp member
    have := mem_range.mp below
    refine ⟨rfl,?_⟩
    simp only [Span.stop,denseMovie]
    omega

theorem denseMovie_paused (count : Nat) (word : 4 * (count + 1) < 2^64) :
    (normalize {} (replacementPieces (denseMovie (count + 1)) 1 pausePattern)).length = count + 2 := by
  have valid := denseMovie_valid (count + 1) word
  obtain ⟨canonical,_⟩ := (validateInputSpans_ok _ word []).mp valid
  have split : (denseMovie (count + 1)).inputSpans = ⟨0,3,{ tiltXBits := 1 }⟩::
      (List.range count).map (fun index => ⟨4 * (index + 1),3,{ tiltXBits := 1 }⟩) := by
    simp only [denseMovie,range_succ_eq_map,map_cons,map_map]
    rfl
  have later : ∀ span ∈ (List.range count).map (fun index => (⟨4 * (index + 1),3,{ tiltXBits := 1 }⟩ : TasInputSpan)),
      4 ≤ span.start ∧ 0 < span.length := by
    intro span member
    obtain ⟨index,_,rfl⟩ := mem_map.mp member
    dsimp only
    omega
  have pieces : replacementPieces (denseMovie (count + 1)) 1 pausePattern = ⟨0,1,{ tiltXBits := 1 }⟩::⟨2,1,{ tiltXBits := 1 }⟩::
      (List.range count).map (fun index => ⟨4 * (index + 1),3,{ tiltXBits := 1 }⟩) := by
    have front : clipAll 1 (denseMovie (count + 1)).inputSpans = [⟨0,1,{ tiltXBits := 1 }⟩] := by
      rw [split,clipAll,filterMap_cons_some (clip_some.mpr ⟨Nat.one_pos,rfl⟩),← clipAll,
        clipAll_beyond _ _ fun span member => by have := later span member; omega]
      rfl
    have back : restAll 2 (denseMovie (count + 1)).inputSpans = ⟨2,1,{ tiltXBits := 1 }⟩::
        (List.range count).map (fun index => ⟨4 * (index + 1),3,{ tiltXBits := 1 }⟩) := by
      rw [split,restAll,filterMap_cons_some (rest_some.mpr ⟨by decide,rfl⟩),← restAll,
        restAll_whole _ _ fun span member => by have := later span member; omega]
      rfl
    rw [replacementPieces,front,show 1 + pausePattern.length = 2 from rfl,back]
    rfl
  rw [split] at canonical
  have normal : Canonical {} (replacementPieces (denseMovie (count + 1)) 1 pausePattern) := by
    rw [pieces]
    refine ⟨?_,isChain_cons_cons.mpr ⟨?_,?_⟩⟩
    · intro span member
      rcases mem_cons.mp member with rfl | member
      · exact ⟨by decide,by decide⟩
      · rcases mem_cons.mp member with rfl | member
        · exact ⟨by decide,by decide⟩
        · exact canonical.active span (mem_cons_of_mem _ member)
    · exact ⟨by decide,fun touching => absurd touching (by decide)⟩
    · have apart := isChain_separate_cons.mp canonical.chain
      exact isChain_separate_cons.mpr apart
  rw [normalize_eq {} _ _ normal.ordered normal fun _ => rfl,pieces]
  simp

/-- A replacement does not look for the camera assets, and has no room for a run more than the limit. -/
theorem input_span_patterns_refused :
    (validateInputSpans quietMovie [] = .ok () ∧ 0 + cameraPattern.length ≤ quietMovie.frameCount ∧
      ∃ changed, replaceBranchInputPattern quietMovie 0 cameraPattern = .ok changed ∧
        validateInputSpans changed [] ≠ .ok ()) ∧
    validateInputSpans (denseMovie 1000000) [] = .ok () ∧ 1 + pausePattern.length ≤ (denseMovie 1000000).frameCount ∧
      replaceBranchInputPattern (denseMovie 1000000) 1 pausePattern = .error (spanLimitMessage maxProjectInputSpans) := by
  refine ⟨⟨by decide,by decide,_,rfl,by decide⟩,denseMovie_valid _ (by decide),by decide,?_⟩
  have count := denseMovie_paused 999999 (by decide)
  have valid := denseMovie_valid 1000000 (by decide)
  have replaced := replaceBranchInputPattern_eq (by decide) valid 1 pausePattern (by decide)
  rw [count] at replaced
  exact replaced

end ZeffBoy.Tas
