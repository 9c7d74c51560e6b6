import ZeffBoy.Library.SpanPieces
import ZeffBoy.Tas.TimelineEdits
import ZeffBoy.Tas.InputPattern

/-! The spans of input patterns.
A valid pattern holds the canonical spans of its inputs. Pushing spans one after the other
builds the normal form of what was pushed, as long as that has room. -/
namespace ZeffBoy.Tas
open Library Spans List

theorem validatePatternSpans_ok (length : Nat) (word : length < 2^64) (previousEnd : Nat)
    (previousInput : Option TasInputFrame) (spans : List TasInputSpan) :
    validatePatternSpans length previousEnd previousInput spans = .ok () ↔
      (∀ span ∈ spans, (0 < span.length ∧ span.value ≠ {}) ∧ span.stop ≤ length) ∧ spans.IsChain Separate ∧
      ∀ first, spans.head? = some first →
        previousEnd ≤ first.start ∧ ¬(first.start = previousEnd ∧ previousInput = some first.value) := by
  induction spans generalizing previousEnd previousInput with
  | nil => simp [validatePatternSpans]
  | cons span spans ih =>
    constructor
    · intro ok
      obtain ⟨filled,ok⟩ := check_bind_ok.mp ok
      obtain ⟨active,ok⟩ := check_bind_ok.mp ok
      obtain ⟨stop,summed,ok⟩ := bind_ok.mp ok
      obtain ⟨_,rfl⟩ := checkedAdd_ok.mp summed
      obtain ⟨inside,ok⟩ := check_bind_ok.mp ok
      obtain ⟨after,ok⟩ := check_bind_ok.mp ok
      obtain ⟨fresh,ok⟩ := check_bind_ok.mp ok
      obtain ⟨others,chain,next⟩ := (ih _ _).mp ok
      simp only [ensure_ok] at filled active inside after fresh
      refine ⟨forall_mem_cons.mpr ⟨⟨⟨pos_of_ne_zero filled,active⟩,inside⟩,others⟩,?_,?_⟩
      · exact isChain_separate_cons.mpr ⟨next,chain⟩
      · rintro _ ⟨⟩
        exact ⟨after,fresh⟩
    · rintro ⟨each,chain,next⟩
      obtain ⟨⟨⟨filled,active⟩,inside⟩,others⟩ := forall_mem_cons.mp each
      obtain ⟨after,fresh⟩ := next span rfl
      have fits : span.start + span.length < 2^64 := lt_of_le_of_lt inside word
      have stop : span.start + span.length ≤ length := inside
      obtain ⟨following,rest⟩ := isChain_separate_cons.mp chain
      have later := (ih (span.start + span.length) (some span.value)).mpr ⟨others,rest,following⟩
      rw [validatePatternSpans,ensure_pos (ne_of_gt filled),ok_bind,ensure_pos active,ok_bind,checkedAdd_pos fits,
        ok_bind,ensure_pos stop,ok_bind,ensure_pos after,ok_bind,ensure_pos fresh,ok_bind,later]

theorem validatePattern_ok {length : Nat} {spans : List TasInputSpan} :
    validatePattern length spans = .ok () ↔ (0 < length ∧ length ≤ maxProjectFrames) ∧
      spans.length ≤ maxTasInputPatternSpans ∧ Canonical {} spans ∧ ∀ span ∈ spans, span.stop ≤ length := by
  have checked : validatePattern length spans = .ok () ↔ (0 < length ∧ length ≤ maxProjectFrames) ∧
      spans.length ≤ maxTasInputPatternSpans ∧ validatePatternSpans length 0 none spans = .ok () := by
    simp only [validatePattern,validateLength,check_bind_ok,ensure_ok,Nat.pos_iff_ne_zero]
  rw [checked]
  refine and_congr_right fun bounds => and_congr_right fun _ => ?_
  rw [validatePatternSpans_ok length (word_of_limit bounds.2)]
  exact canonical_of_checked _

namespace TasInputPattern

def inputAt (pattern : TasInputPattern) (frame : Nat) : TasInputFrame := valueAt {} pattern.spans frame

variable (pattern : TasInputPattern)

theorem length_pos : 0 < pattern.length := (validatePattern_ok.mp pattern.valid).1.1

theorem length_le : pattern.length ≤ maxProjectFrames := (validatePattern_ok.mp pattern.valid).1.2

theorem spans_length_le : pattern.spans.length ≤ maxTasInputPatternSpans := (validatePattern_ok.mp pattern.valid).2.1

theorem canonical : Canonical {} pattern.spans := (validatePattern_ok.mp pattern.valid).2.2.1

theorem inside : ∀ span ∈ pattern.spans, span.stop ≤ pattern.length := (validatePattern_ok.mp pattern.valid).2.2.2

theorem new_ok (length : Nat) (spans : List TasInputSpan) (result : TasInputPattern) :
    new length spans = .ok result ↔ result.length = length ∧ result.spans = spans := by
  unfold new
  split
  · rename_i valid
    rw [Except.ok.injEq]
    constructor
    · rintro rfl
      exact ⟨rfl,rfl⟩
    · rintro ⟨rfl,rfl⟩
      rfl
  · rename_i message invalid
    refine ⟨(nomatch ·),?_⟩
    rintro ⟨rfl,rfl⟩
    rw [result.valid] at invalid
    nomatch invalid

theorem eq_of_inputAt (left right : TasInputPattern) (length : left.length = right.length)
    (same : ∀ frame < left.length, left.inputAt frame = right.inputAt frame) : left = right := by
  have spans : left.spans = right.spans := by
    have whole : clipAll left.length left.spans = clipAll left.length right.spans :=
      clipAll_eq _ _ _ left.canonical right.canonical same
    rw [clipAll_whole fun span member => ⟨(left.canonical.active span member).1,left.inside span member⟩,
      clipAll_whole fun span member => ⟨(right.canonical.active span member).1,length ▸ right.inside span member⟩]
      at whole
    exact whole
  cases left
  cases right
  simp only at length spans
  subst length spans
  rfl

end TasInputPattern

def spanLimitMessage (maxSpans : Nat) : String := s!"TAS input pattern output exceeds the limit of {maxSpans} spans"

theorem pushSpan_continued (earlier : List TasInputSpan) (previous span : TasInputSpan) (maxSpans : Nat)
    (continued : previous.stop = span.start ∧ previous.value = span.value) (fits : span.stop < 2^64) :
    pushSpan (earlier ++ [previous]) span maxSpans =
      .ok (earlier ++ [{ previous with length := previous.length + span.length }]) := by
  have sum : previous.length + span.length < 2^64 := by
    have joined := continued.1
    simp only [Span.stop] at joined fits
    omega
  rw [pushSpan,List.getLast?_concat,Option.filter_some,if_pos (decide_eq_true continued)]
  dsimp only
  rw [checkedAdd_pos sum,ok_bind,dropLast_concat]
  rfl

theorem pushSpan_fresh (spans : List TasInputSpan) (span : TasInputSpan) (maxSpans : Nat)
    (fresh : ∀ previous, spans.getLast? = some previous → ¬(previous.stop = span.start ∧ previous.value = span.value)) :
    pushSpan spans span maxSpans =
      if spans.length ≠ maxSpans then .ok (spans ++ [span]) else .error (spanLimitMessage maxSpans) := by
  have none_ : spans.getLast?.filter (fun previous => previous.stop = span.start ∧ previous.value = span.value) = none := by
    rw [Option.filter_eq_none_iff]
    exact fun previous last => by simpa using fresh previous last
  rw [pushSpan,none_]
  dsimp only
  by_cases room : spans.length ≠ maxSpans
  · rw [ensure_pos room,ok_bind,if_pos room]
    rfl
  · rw [if_neg room,ensure,if_neg room]
    rfl

theorem pushSpan_eq (spans : List TasInputSpan) (span : TasInputSpan) (maxSpans : Nat) (room : spans.length ≤ maxSpans)
    (fits : span.stop < 2^64) : pushSpan spans span maxSpans =
      if (extend spans.reverse span).length ≤ maxSpans then .ok (extend spans.reverse span).reverse
      else .error (spanLimitMessage maxSpans) := by
  have grown : ∀ fresh, pushSpan spans span maxSpans =
      if spans.length ≠ maxSpans then .ok (spans ++ [span]) else .error (spanLimitMessage maxSpans) :=
    pushSpan_fresh spans span maxSpans
  have bound : (span::spans.reverse).length ≤ maxSpans ↔ spans.length ≠ maxSpans := by
    rw [length_cons,length_reverse]
    omega
  rcases eq_nil_or_concat spans with rfl | ⟨earlier,previous,rfl⟩
  · rw [grown (by simp),reverse_nil,extend]
    exact if_congr bound.symm rfl rfl
  · rw [concat_eq_append] at room bound grown ⊢
    rw [reverse_append,reverse_singleton,singleton_append] at bound ⊢
    by_cases continued : previous.stop = span.start ∧ previous.value = span.value
    · rw [pushSpan_continued earlier previous span maxSpans continued fits,extend,if_pos continued,if_pos]
      · simp
      · simpa using room
    · rw [grown (by simpa using continued),extend,if_neg continued]
      refine if_congr bound.symm ?_ rfl
      simp

theorem pushSpans_eq (pushed spans : List TasInputSpan) (maxSpans : Nat) (room : spans.length ≤ maxSpans)
    (fits : ∀ span ∈ pushed, span.stop < 2^64) : pushSpans spans pushed maxSpans =
      if (pushed.foldl extend spans.reverse).length ≤ maxSpans then .ok (pushed.foldl extend spans.reverse).reverse
      else .error (spanLimitMessage maxSpans) := by
  induction pushed generalizing spans with
  | nil =>
    have kept : spans.reverse.length ≤ maxSpans := by simpa using room
    rw [foldl_nil,if_pos kept,reverse_reverse]
    rfl
  | cons span pushed ih =>
    obtain ⟨first,later⟩ := forall_mem_cons.mp fits
    have step := pushSpan_eq spans span maxSpans room first
    rw [pushSpans,foldlM_cons,step,foldl_cons]
    by_cases within : (extend spans.reverse span).length ≤ maxSpans
    · have rest := ih (extend spans.reverse span).reverse (by simpa using within) later
      rw [reverse_reverse] at rest
      rw [if_pos within,ok_bind]
      exact rest
    · have exceeded : ¬(pushed.foldl extend (extend spans.reverse span)).length ≤ maxSpans := fun small =>
        within ((length_le_foldl_extend pushed _).trans small)
      rw [if_neg within,if_neg exceeded]
      rfl

theorem pushSpans_append (spans front back : List TasInputSpan) (maxSpans : Nat) :
    pushSpans spans (front ++ back) maxSpans =
      pushSpans spans front maxSpans >>= fun spans => pushSpans spans back maxSpans :=
  foldlM_append

theorem pushSpans_normalize (pushed : List TasInputSpan) (maxSpans : Nat) (ordered : Ordered pushed)
    (active : ∀ span ∈ pushed, 0 < span.length ∧ span.value ≠ {}) (fits : ∀ span ∈ pushed, span.stop < 2^64) :
    pushSpans [] pushed maxSpans =
      if (normalize {} pushed).length ≤ maxSpans then .ok (normalize {} pushed)
      else .error (spanLimitMessage maxSpans) := by
  have all : pushed.filter (fun span => ¬(span.length = 0 ∨ span.value = {})) = pushed := by
    rw [filter_eq_self]
    intro span member
    obtain ⟨filled,valued⟩ := active span member
    exact decide_eq_true (not_or.mpr ⟨ne_of_gt filled,valued⟩)
  have appended := foldl_mergeStep ({} : TasInputFrame) pushed []
  rw [all] at appended
  rw [normalize_of_ordered _ _ ordered,appended,length_reverse]
  exact pushSpans_eq pushed [] maxSpans zero_le fits

end ZeffBoy.Tas
