import ZeffBoy.Patching.OverlayInsert

/-! Patching through an overlay against patching an owned copy. -/
namespace ZeffBoy.Patching
open Library List

variable {content : Bytes} {spans : List OverlaySpan}

theorem overlaid_insertSpan {spans : OrderedMap OverlaySpan} {start : Nat} {bytes : Bytes}
    (filled : bytes ≠ []) (inside : start + bytes.length ≤ content.length) (fit : SpansFit spans content.length) :
    overlaid content (insertSpan spans start bytes).values = overwrite (overlaid content spans.values) start bytes := by
  obtain ⟨fits,shows'⟩ := insertSpan_spec filled inside fit
  have size := length_overlaid content fit.laid
  apply ext_getElem?
  intro position
  rw [getElem?_overlaid content fits.laid,getElem?_overwrite _ _ _ (by rw [size]; exact inside),getElem?_overlaid content fit.laid]
  by_cases within : start ≤ position ∧ position < start + bytes.length
  · have byte := List.getElem?_eq_getElem (show position - start < bytes.length by omega)
    have shown := (fits.shownAt position _).mpr ((shows' position _).mpr (by rw [if_pos within]; exact byte))
    rw [if_pos (by omega),if_pos within,shown,byte]
    rfl
  · have same : shownAt (insertSpan spans start bytes).values position = shownAt spans.values position := by
      ext byte
      rw [fits.shownAt,fit.shownAt,shows',if_neg within]
    rw [if_neg within,same]

namespace PatchOverlayBuilder

theorem insertWrites_fit {maxSpans len : Nat} {writes : List Ppf.Write} {spans inserted : OrderedMap OverlaySpan}
    (inside : ∀ write ∈ writes, write.offset + write.bytes.length ≤ len) (fit : SpansFit spans len)
    (done : insertWrites maxSpans spans writes = .ok inserted) : SpansFit inserted len := by
  induction writes generalizing spans with
  | nil => cases done; exact fit
  | cons write writes ih =>
    obtain ⟨first,others⟩ := forall_mem_cons.mp inside
    rw [insertWrites] at done
    split at done
    · exact ih others fit done
    · rename_i filled
      dsimp only at done
      split at done
      · cases done
      · exact ih others (insertSpan_spec filled first fit).1 done

theorem insertWrites_overlaid {maxSpans : Nat} {content : Bytes} {writes : List Ppf.Write}
    {spans inserted : OrderedMap OverlaySpan}
    (inside : ∀ write ∈ writes, write.offset + write.bytes.length ≤ content.length) (fit : SpansFit spans content.length)
    (done : insertWrites maxSpans spans writes = .ok inserted) :
    overlaid content inserted.values = writes.foldl Ppf.writeImage (overlaid content spans.values) := by
  induction writes generalizing spans with
  | nil => cases done; rfl
  | cons write writes ih =>
    obtain ⟨first,others⟩ := forall_mem_cons.mp inside
    rw [insertWrites] at done
    split at done
    · rename_i empty
      rw [ih others fit done,foldl_cons,Ppf.writeImage,empty,overwrite_empty]
    · rename_i filled
      dsimp only at done
      split at done
      · cases done
      · rw [ih others (insertSpan_spec filled first fit).1 done,foldl_cons,Ppf.writeImage,
          overlaid_insertSpan filled first fit]

end PatchOverlayBuilder

namespace Ppf
variable {patch : Bytes} {targetLen : Nat} {limits : PlanLimits} {read other : Nat → Nat → Except String Bytes}

theorem verifyBlock_of_agree {offset : Nat} {expected : Bytes} (agree : ∀ offset bytes, offset + blockCheckLen ≤ targetLen →
    read offset blockCheckLen = .ok bytes → other offset blockCheckLen = .ok bytes)
    (verified : verifyBlock targetLen offset expected read = .ok ()) :
    verifyBlock targetLen offset expected other = .ok () := by
  obtain ⟨size,verified⟩ := check_bind_ok.mp verified
  obtain ⟨inside,verified⟩ := check_bind_ok.mp verified
  obtain ⟨actual,found,same⟩ := bind_ok.mp verified
  have again := agree offset actual (ensure_ok.mp inside) found
  rw [verifyBlock,size,ok_bind,inside,ok_bind,again,ok_bind,same]

theorem layout_of_agree {area : Layout} (agree : ∀ offset bytes, offset + blockCheckLen ≤ targetLen →
    read offset blockCheckLen = .ok bytes → other offset blockCheckLen = .ok bytes)
    (found : layout patch targetLen read = .ok area) : layout patch targetLen other = .ok area := by
  unfold layout at *
  split
  · rename_i first
    rwa [if_pos first] at found
  · rename_i first
    rw [if_neg first] at found
    split
    · rename_i second
      rw [if_pos second] at found
      obtain ⟨encoding,found⟩ := check_bind_ok.mp found
      obtain ⟨header,found⟩ := check_bind_ok.mp found
      obtain ⟨size,found⟩ := check_bind_ok.mp found
      obtain ⟨verified,found⟩ := check_bind_ok.mp found
      rw [encoding,ok_bind,header,ok_bind]
      dsimp only at size ⊢
      rw [size,ok_bind,verifyBlock_of_agree agree verified,ok_bind]
      exact found
    · rename_i second
      rw [if_neg second] at found
      split
      · rename_i third
        rw [if_pos third] at found
        obtain ⟨header,found⟩ := check_bind_ok.mp found
        obtain ⟨encoding,found⟩ := check_bind_ok.mp found
        obtain ⟨image,found⟩ := check_bind_ok.mp found
        obtain ⟨block,found⟩ := check_bind_ok.mp found
        obtain ⟨undo,found⟩ := check_bind_ok.mp found
        obtain ⟨reserved,found⟩ := check_bind_ok.mp found
        obtain ⟨long,found⟩ := check_bind_ok.mp found
        rw [header,ok_bind,encoding,ok_bind,image,ok_bind,block,ok_bind,undo,ok_bind,reserved,ok_bind]
        dsimp only at long ⊢
        rw [long,ok_bind]
        by_cases checked : byteAt patch 57 ≠ 0
        · simp only [if_pos checked] at found ⊢
          obtain ⟨verified,found⟩ := check_bind_ok.mp found
          rw [verifyBlock_of_agree agree verified,ok_bind]
          exact found
        · simp only [if_neg checked] at found ⊢
          exact found
      · rename_i third
        rw [if_neg third] at found
        cases found

theorem planRecords_unbounded {area : Layout} {fuel cursor : Nat} {before writes : List Write} {replacementBytes : Nat}
    (planned : planRecords patch targetLen limits area fuel cursor before replacementBytes = .ok (.planned writes)) :
    planRecords patch targetLen .unbounded area fuel cursor before replacementBytes = .ok (.planned writes) := by
  induction fuel generalizing cursor before replacementBytes with
  | zero => cases planned
  | succ fuel ih =>
    rw [planRecords] at *
    split
    · rename_i more
      rw [if_pos more] at planned
      obtain ⟨headerEnd,header,planned⟩ := bind_ok.mp planned
      obtain ⟨whole,planned⟩ := check_bind_ok.mp planned
      obtain ⟨dataEnd,data,planned⟩ := bind_ok.mp planned
      obtain ⟨next,undone,planned⟩ := bind_ok.mp planned
      obtain ⟨inside,planned⟩ := check_bind_ok.mp planned
      obtain ⟨targetEnd,reached,planned⟩ := bind_ok.mp planned
      obtain ⟨fits,planned⟩ := check_bind_ok.mp planned
      obtain ⟨recordCount,counted,planned⟩ := bind_ok.mp planned
      split at planned
      · cases planned
      obtain ⟨replaced,added,planned⟩ := bind_ok.mp planned
      split at planned
      · cases planned
      have few := checkedAdd_ok.mp counted
      have small := checkedAdd_ok.mp added
      have records : PlanLimits.unbounded.maxRecords = 2^64 - 1 := rfl
      have replacements : PlanLimits.unbounded.maxReplacementBytes = 2^64 - 1 := rfl
      simp only [header,whole,data,undone,inside,reached,fits,counted,added,ok_bind]
      rw [if_neg (by omega),if_neg (by omega)]
      exact ih planned
    · rename_i done
      rwa [if_neg done] at planned

theorem planPpfPatch_unbounded {writes : List Write} (short : limits.maxPatchBytes < 2^64)
    (planned : planPpfPatch patch targetLen limits read = .ok (.planned writes))
    (agree : ∀ offset bytes, offset + blockCheckLen ≤ targetLen → read offset blockCheckLen = .ok bytes →
      other offset blockCheckLen = .ok bytes) :
    planPpfPatch patch targetLen .unbounded other = .ok (.planned writes) := by
  rw [planPpfPatch] at *
  split at planned
  · cases planned
  obtain ⟨header,planned⟩ := check_bind_ok.mp planned
  obtain ⟨area,found,planned⟩ := bind_ok.mp planned
  obtain ⟨ordered,planned⟩ := check_bind_ok.mp planned
  have bytes : PlanLimits.unbounded.maxPatchBytes = 2^64 - 1 := rfl
  rw [if_neg (by omega),header,ok_bind,layout_of_agree agree found,ok_bind,ordered,ok_bind]
  exact planRecords_unbounded planned

end Ppf

theorem readOverlay_ok {base : CdTrackSource} (holds : base.Holds content)
    (word : content.length < 2^64) (laid : Laid spans content.length) (offset count : Nat) (small : count ≤ cdRawSectorBytes)
    (inside : offset + count ≤ content.length) :
    readOverlay base spans offset count = .ok (slice (overlaid content spans) offset (offset + count)) := by
  rw [readOverlay,checkedEnd_ok (by rw [holds.len]; exact word) (by rw [holds.len]; exact inside),ok_bind,
    holds.read offset count small inside,ok_bind]
  exact congrArg Except.ok (applySpanIter_slice content laid offset count inside)

namespace PatchOverlayBuilder

theorem applyPpf_applied {builder next : PatchOverlayBuilder} {patch : Bytes}
    (applied : builder.applyPpf patch = (.ok .applied,next)) :
    ∃ writes, Ppf.planPpfPatch patch builder.base.len builder.limits.ppf
        (fun offset count => (builder.readCurrent offset count).mapError CdSourceError.display) = .ok (.planned writes) ∧
      ∃ spans replacementBytes, insertWrites builder.limits.maxSpans builder.spans writes = .ok spans ∧
        next = { builder with spans := spans, replacementBytes := replacementBytes } := by
  unfold applyPpf at applied
  split at applied
  · cases applied
  · cases applied
  · rename_i writes planned
    refine ⟨writes,planned,?_⟩
    split at applied
    · cases applied
    · split at applied
      · cases applied
      · split at applied
        · cases applied
        · rename_i spans inserted
          exact ⟨spans,_,inserted,(Prod.mk.inj applied).2.symm⟩

theorem applyPpf_unchanged (builder : PatchOverlayBuilder) (patch : Bytes)
    (refused : (builder.applyPpf patch).1 ≠ .ok .applied) : (builder.applyPpf patch).2 = builder := by
  unfold applyPpf at *
  split
  · rfl
  · rfl
  · split
    · rfl
    · split
      · rfl
      · split
        · rfl
        · simp_all

theorem applyPpf_owned {builder next : PatchOverlayBuilder} {content patch : Bytes} {owned : List Bytes}
    (holds : builder.base.Holds content) (word : content.length < 2^64) (fit : SpansFit builder.spans content.length)
    (limits : builder.limits = .bounded) (image : owned.flatten = overlaid content builder.spans.values)
    (applied : builder.applyPpf patch = (.ok .applied,next)) :
    next.base = builder.base ∧ next.limits = builder.limits ∧ SpansFit next.spans content.length ∧
      ∃ patched, applyPpfPatchSegments owned patch = (.ok (),patched) ∧
        patched.flatten = overlaid content next.spans.values ∧ patched.map List.length = owned.map List.length := by
  obtain ⟨writes,plan,spans,replacementBytes,inserted,rfl⟩ := applyPpf_applied applied
  have size : owned.flatten.length = content.length := by rw [image,length_overlaid content fit.laid]
  have fits := Ppf.planPpfPatch_fits plan
  have blocks : Ppf.blockCheckLen ≤ cdRawSectorBytes := by decide
  have agree : ∀ offset bytes, offset + Ppf.blockCheckLen ≤ builder.base.len →
      (builder.readCurrent offset Ppf.blockCheckLen).mapError CdSourceError.display = .ok bytes →
      Ppf.readSegments owned offset Ppf.blockCheckLen = .ok bytes := by
    intro offset bytes inside read
    rw [holds.len] at inside
    rw [readCurrent,readOverlay_ok holds word fit.laid offset _ blocks inside] at read
    rw [Ppf.readSegments_eq,if_pos (.inr (by rw [size]; exact inside)),image]
    exact read
  have short : builder.limits.ppf.maxPatchBytes < 2^64 := by
    rw [limits]
    change 16 * 1024 * 1024 < 2^64
    norm_num
  have unbounded : Ppf.planPpfPatch patch owned.flatten.length .unbounded (Ppf.readSegments owned) = .ok (.planned writes) := by
    rw [size,← holds.len]
    exact Ppf.planPpfPatch_unbounded short plan agree
  have planned : Ppf.planned owned patch = .ok writes := by
    rw [Ppf.planned,Ppf.totalLen_eq owned 0 (by norm_num),zero_add,if_pos (by rw [size]; exact word),ok_bind,unbounded]
    rfl
  obtain ⟨written,lengths⟩ := Ppf.writeSegments_fold writes owned (Ppf.planned_fits planned)
  rw [holds.len] at fits
  refine ⟨rfl,rfl,insertWrites_fit fits fit inserted,_,applyPpfPatchSegments_planned planned,?_,lengths⟩
  rw [written,image]
  exact (insertWrites_overlaid fits fit inserted).symm

end PatchOverlayBuilder

theorem at?_clipSpan (rangeStart rangeEnd : Nat) (span : OverlaySpan) (position : Nat) (inside : rangeStart + position < rangeEnd) :
    ((clipSpan rangeStart rangeEnd span).bind (fun piece => piece.at? position)) = span.at? (rangeStart + position) := by
  have stops : span.stop = span.start + span.len := rfl
  unfold clipSpan
  dsimp only
  split
  · rw [Option.bind_some,at?_mk,OverlaySpan.at?]
    by_cases covered : span.start ≤ rangeStart + position ∧ rangeStart + position < span.stop
    · rw [if_pos (by omega),if_pos covered]
      congr 1
      omega
    · rw [if_neg (by omega),if_neg covered]
  · rw [OverlaySpan.at?_outside (by omega)]
    rfl

theorem shownAt_clipSpan (rangeStart rangeEnd : Nat) (spans : List OverlaySpan) (position : Nat)
    (inside : rangeStart + position < rangeEnd) :
    shownAt (spans.filterMap (clipSpan rangeStart rangeEnd)) position = shownAt spans (rangeStart + position) := by
  induction spans with
  | nil => rfl
  | cons span spans ih =>
    have first := at?_clipSpan rangeStart rangeEnd span position inside
    rw [shownAt_cons,← first,filterMap_cons]
    cases clipSpan rangeStart rangeEnd span with
    | none => exact ih
    | some piece =>
      dsimp only
      rw [shownAt_cons,ih]
      rfl

theorem clipSpan_some {rangeStart rangeEnd : Nat} {span piece : OverlaySpan} (kept : clipSpan rangeStart rangeEnd span = some piece) :
    piece = ⟨max span.start rangeStart - rangeStart,span.data,span.dataStart + max span.start rangeStart - span.start,
        min span.stop rangeEnd - max span.start rangeStart⟩ ∧ max span.start rangeStart < min span.stop rangeEnd := by
  unfold clipSpan at kept
  dsimp only at kept
  split at kept
  · exact ⟨(Option.some.inj kept).symm,‹_›⟩
  · cases kept

theorem clipSpan_laid {len : Nat} (laid : Laid spans len) (rangeStart rangeEnd : Nat) :
    Laid (spans.filterMap (clipSpan rangeStart rangeEnd)) (rangeEnd - rangeStart) where
  ordered := by
    rw [pairwise_filterMap]
    apply laid.ordered.imp
    intro left right apart first atLeft second atRight
    obtain ⟨rfl,_⟩ := clipSpan_some atLeft
    obtain ⟨rfl,_⟩ := clipSpan_some atRight
    simp only [OverlaySpan.stop] at *
    omega
  filled piece member := by
    obtain ⟨span,_,kept⟩ := mem_filterMap.mp member
    obtain ⟨rfl,some'⟩ := clipSpan_some kept
    exact Nat.sub_pos_of_lt some'
  inside piece member := by
    obtain ⟨span,_,kept⟩ := mem_filterMap.mp member
    obtain ⟨rfl,some'⟩ := clipSpan_some kept
    simp only [OverlaySpan.stop] at *
    omega
  backed piece member := by
    obtain ⟨span,present,kept⟩ := mem_filterMap.mp member
    obtain ⟨rfl,some'⟩ := clipSpan_some kept
    have whole := laid.backed span present
    simp only [OverlaySpan.stop] at *
    omega

theorem overlaid_clipSpan (before content after : Bytes)
    (laid : Laid spans (before ++ (content ++ after)).length) :
    overlaid content (spans.filterMap (clipSpan before.length (before.length + content.length))) =
      slice (overlaid (before ++ (content ++ after)) spans) before.length (before.length + content.length) := by
  apply ext_getElem?
  intro position
  rw [getElem?_overlaid _ (clipSpan_laid laid _ _),getElem?_slice,Nat.add_sub_cancel_left]
  split
  · rename_i inside
    have present : (before ++ (content ++ after))[before.length + position]? = content[position]? := by
      rw [List.getElem?_append_right (Nat.le_add_right _ _),Nat.add_sub_cancel_left,List.getElem?_append_left inside]
    rw [getElem?_overlaid _ laid,if_pos (by simp only [length_append]; omega),present,
      shownAt_clipSpan _ _ _ _ (by omega)]
  · rfl

namespace PatchOverlaySource

/-- A piece that an overlay passes on. -/
def Passes (sectorBytes : Nat) (piece : Bytes) : Prop := piece ≠ [] ∧ piece.length ≤ sectorBytes

theorem foldl_visit_invalid (overlay : PatchOverlaySource) (sectorBytes : Nat) (pieces : List Bytes) (visitor : Visitor)
    (invalid : visitor.invalid = true) : (pieces.foldl (overlay.visit sectorBytes) visitor).invalid = true := by
  induction pieces generalizing visitor with
  | nil => exact invalid
  | cons piece pieces ih =>
    apply ih
    rw [visit,if_pos (.inl invalid)]

section
variable {overlay : PatchOverlaySource} (len : overlay.len = content.length) (word : content.length < 2^64)
  (laid : Laid overlay.spans content.length) (sectorBytes : Nat)

include len word laid

theorem foldl_visit_passes (pieces : List Bytes) (visitor : Visitor) (valid : visitor.invalid = false)
    (rest : pieces.flatten = content.drop visitor.offset) (reached : visitor.offset ≤ content.length)
    (passes : ∀ piece ∈ pieces, Passes sectorBytes piece) :
    (pieces.foldl (overlay.visit sectorBytes) visitor).invalid = false ∧
      (pieces.foldl (overlay.visit sectorBytes) visitor).offset = content.length ∧
      (pieces.foldl (overlay.visit sectorBytes) visitor).pieces.flatten =
        visitor.pieces.flatten ++ (overlaid content overlay.spans).drop visitor.offset := by
  induction pieces generalizing visitor with
  | nil =>
    have last : content.length ≤ visitor.offset := drop_eq_nil_iff.mp rest.symm
    refine ⟨valid,le_antisymm reached last,?_⟩
    rw [foldl_nil,drop_of_length_le (by rw [length_overlaid content laid]; exact last),append_nil]
  | cons piece pieces ih =>
    obtain ⟨first,others⟩ := forall_mem_cons.mp passes
    rw [flatten_cons] at rest
    have total := congrArg List.length rest
    rw [length_append,length_drop] at total
    have here : piece = slice content visitor.offset (visitor.offset + piece.length) := by
      rw [slice,Nat.add_sub_cancel_left,← rest,take_left]
    have step : overlay.visit sectorBytes visitor piece =
        ⟨visitor.offset + piece.length,visitor.invalid,visitor.pieces ++ [applySpans overlay.spans visitor.offset piece]⟩ := by
      rw [visit,if_neg]
      rintro (bad | bad | bad | bad | bad)
      · rw [valid] at bad
        cases bad
      · omega
      · exact first.1 bad
      · exact absurd first.2 (not_le.mpr bad)
      · rw [len] at bad
        omega
    rw [foldl_cons,step]
    have tail : pieces.flatten = content.drop (visitor.offset + piece.length) := by
      rw [← drop_drop,← rest,drop_left]
    obtain ⟨stays,offset,flat⟩ := ih ⟨visitor.offset + piece.length,visitor.invalid,
      visitor.pieces ++ [applySpans overlay.spans visitor.offset piece]⟩ valid tail (by dsimp only; omega) others
    refine ⟨stays,offset,?_⟩
    have applied : applySpans overlay.spans visitor.offset piece =
        slice (overlaid content overlay.spans) visitor.offset (visitor.offset + piece.length) := by
      rw [applySpans_eq laid,here]
      have same : (slice content visitor.offset (visitor.offset + piece.length)).length = piece.length := by rw [← here]
      rw [same]
      exact applySpanIter_slice content laid _ _ (by omega)
    rw [flat,flatten_append,flatten_singleton,append_assoc,applied]
    dsimp only
    rw [← slice_append_drop _ (Nat.le_add_right _ _)]

end

theorem foldl_visit_refuses (overlay : PatchOverlaySource) (sectorBytes : Nat) (pieces : List Bytes) (visitor : Visitor)
    (refused : ∃ piece ∈ pieces, ¬Passes sectorBytes piece) :
    (pieces.foldl (overlay.visit sectorBytes) visitor).invalid = true := by
  obtain ⟨piece,member,fails⟩ := refused
  obtain ⟨before,after,rfl⟩ := append_of_mem member
  rw [foldl_append,foldl_cons]
  apply foldl_visit_invalid
  rw [visit,if_pos]
  unfold Passes at fails
  by_cases empty : piece = []
  · exact .inr (.inr (.inl empty))
  · exact .inr (.inr (.inr (.inl (Nat.lt_of_not_le (fun small => fails ⟨empty,small⟩)))))

end PatchOverlaySource

/-- A visit that an overlay can pass on: a size of sectors that divides the track, and pieces that pass. -/
def CdTrackSource.VisitsSectors (base : CdTrackSource) (sectorBytes : Nat) : Prop :=
  sectorBytes ≠ 0 ∧ sectorBytes ≤ cdRawSectorBytes ∧ base.len % sectorBytes = 0 ∧
    (base.visitPayload sectorBytes).2 = .ok () ∧
    ∀ piece ∈ (base.visitPayload sectorBytes).1, PatchOverlaySource.Passes sectorBytes piece

/-- What the overlay of a track gives: the patched bytes to every read, and to every visit that it can pass on. -/
structure CdTrackSource.Gives (overlay base : CdTrackSource) (patched : Bytes) : Prop where
  holds : overlay.Holds patched
  visits : ∀ sectorBytes, (overlay.visitPayload sectorBytes).2 = .ok () ↔ base.VisitsSectors sectorBytes

namespace PatchOverlaySource
variable {base : CdTrackSource}

theorem visitPayload_ok (holds : base.Holds content) (word : content.length < 2^64) (laid : Laid spans content.length)
    (sectorBytes : Nat) (visits : base.VisitsSectors sectorBytes) :
    ∃ pieces, visitPayload ⟨base,spans,base.len⟩ sectorBytes = (pieces,.ok ()) ∧ pieces.flatten = overlaid content spans := by
  obtain ⟨some',small,whole,ends,passes⟩ := visits
  have visited : base.visitPayload sectorBytes = ((base.visitPayload sectorBytes).1,.ok ()) := by rw [← ends]
  obtain ⟨valid,offset,flat⟩ := foldl_visit_passes
    (show PatchOverlaySource.len ⟨base,spans,base.len⟩ = content.length from holds.len) word laid sectorBytes _ {} rfl
    (holds.visit sectorBytes _ visited) zero_le passes
  have bad : ¬(sectorBytes = 0 ∨ cdRawSectorBytes < sectorBytes ∨ base.len % sectorBytes ≠ 0) := by omega
  refine ⟨_,?_,flat⟩
  rw [visitPayload,if_neg bad,visited]
  dsimp only
  rw [if_neg]
  rw [valid,offset,holds.len]
  simp

theorem visitsSectors_of_ok (sectorBytes : Nat)
    (ok : (visitPayload ⟨base,spans,base.len⟩ sectorBytes).2 = .ok ()) : base.VisitsSectors sectorBytes := by
  rw [visitPayload] at ok
  split at ok
  · cases ok
  rename_i valid
  cases visited : base.visitPayload sectorBytes with
  | mk pieces outcome =>
    rw [visited] at ok
    dsimp only at ok
    split at ok
    · cases ok
    split at ok
    · cases ok
    rename_i passed
    have passes : ∀ piece ∈ pieces, Passes sectorBytes piece := by
      intro piece member
      by_contra refused
      exact passed (.inl (foldl_visit_refuses _ sectorBytes pieces {} ⟨piece,member,refused⟩))
    obtain ⟨some',valid⟩ := not_or.mp valid
    obtain ⟨small,whole⟩ := not_or.mp valid
    refine ⟨some',Nat.le_of_not_lt small,not_not.mp whole,?_,?_⟩
    · rw [visited]
    · rw [visited]
      exact passes

theorem source_gives (holds : base.Holds content) (word : content.length < 2^64) (laid : Laid spans content.length) :
    (source ⟨base,spans,base.len⟩).Gives base (overlaid content spans) := by
  have size := length_overlaid content laid
  have small : base.len < 2^64 := by
    rw [holds.len]
    exact word
  refine ⟨⟨holds.len.trans size.symm,?_,?_⟩,?_⟩
  · intro offset count short inside
    have within : offset + count ≤ base.len := by
      rw [holds.len,← size]
      exact inside
    rw [size] at inside
    simp only [source,checkedEnd_ok small within,ok_bind]
    rw [if_neg (not_lt.mpr short)]
    exact readOverlay_ok holds word laid offset count short inside
  · intro sectorBytes pieces visited
    have ok : (visitPayload ⟨base,spans,base.len⟩ sectorBytes).2 = .ok () := congrArg Prod.snd visited
    obtain ⟨others,same,flat⟩ := visitPayload_ok holds word laid sectorBytes (visitsSectors_of_ok sectorBytes ok)
    obtain ⟨rfl,_⟩ := Prod.mk.inj (same.symm.trans visited)
    exact flat
  · intro sectorBytes
    constructor
    · exact visitsSectors_of_ok sectorBytes
    · intro visits
      obtain ⟨pieces,same,_⟩ := visitPayload_ok holds word laid sectorBytes visits
      exact congrArg Prod.snd same

end PatchOverlaySource

namespace PatchOverlayBuilder

variable {sources : List CdTrackSource}

theorem total_len {contents : List Bytes}
    (hold : List.Forall₂ CdTrackSource.Holds sources contents) (total : Nat)
    (word : total + contents.flatten.length < 2^64) :
    sources.foldlM (fun total source => if total + source.len < 2^64 then some (total + source.len) else none) total =
      some (total + contents.flatten.length) := by
  induction hold generalizing total with
  | nil => rfl
  | @cons source content sources contents holds _ ih =>
    rw [flatten_cons,length_append,← add_assoc,← holds.len] at *
    rw [foldlM_cons,if_pos (by omega)]
    exact ih _ word

theorem finishFrom_gives {spans : List OverlaySpan} {contents : List Bytes}
    (hold : List.Forall₂ CdTrackSource.Holds sources contents) (before : Bytes) (owned : List Bytes)
    (word : (before ++ contents.flatten).length < 2^64) (laid : Laid spans (before ++ contents.flatten).length)
    (lengths : owned.map List.length = contents.map List.length)
    (image : owned.flatten = (overlaid (before ++ contents.flatten) spans).drop before.length) :
    ∃ overlays, finishFrom spans before.length sources = some overlays ∧
      List.Forall₂ (fun overlay track => overlay.Gives track.1 track.2) overlays (sources.zip owned) := by
  induction hold generalizing before owned with
  | nil => exact ⟨[],rfl,.nil⟩
  | @cons source content sources contents holds _ ih =>
    obtain ⟨first,others,rfl,size,rest⟩ := map_eq_cons_iff.mp lengths
    simp only [flatten_cons] at image word laid ⊢
    have joined : before ++ (content ++ contents.flatten) = (before ++ content) ++ contents.flatten := by
      rw [append_assoc]
    have place : (before ++ content).length = before.length + content.length := length_append
    have here : first = slice (overlaid (before ++ (content ++ contents.flatten)) spans) before.length
        (before.length + content.length) := by
      rw [slice,Nat.add_sub_cancel_left,← image,← size,take_left]
    have later : others.flatten = (overlaid ((before ++ content) ++ contents.flatten) spans).drop (before ++ content).length := by
      rw [← joined,place,← drop_drop,← image,← size,drop_left]
    obtain ⟨overlays,finished,give⟩ := ih (before ++ content) others (joined ▸ word) (joined ▸ laid) rest later
    have fits : before.length + content.length < 2^64 := by
      simp only [length_append] at word
      omega
    refine ⟨PatchOverlaySource.source ⟨source,spans.filterMap (clipSpan before.length (before.length + content.length)),
      source.len⟩::overlays,?_,.cons ?_ give⟩
    · rw [finishFrom]
      simp only [holds.len]
      rw [if_pos fits,← place,finished,Option.map_some]
    · rw [here,← overlaid_clipSpan before content contents.flatten laid]
      have local' := clipSpan_laid laid before.length (before.length + content.length)
      rw [Nat.add_sub_cancel_left] at local'
      exact PatchOverlaySource.source_gives holds (by omega) local'

/-- Every patch of a stack is applied. -/
def applyStack (builder : PatchOverlayBuilder) : List Bytes → Option PatchOverlayBuilder
  | [] => some builder
  | patch::patches =>
    match builder.applyPpf patch with
    | (.ok .applied,next) => next.applyStack patches
    | _ => none

/-- The builders that calls can reach from the sources of the tracks, whatever the calls answered. -/
inductive Reachable (sources : List CdTrackSource) : PatchOverlayBuilder → Prop
  | start {builder : PatchOverlayBuilder} (made : forTracks sources = some builder) : Reachable sources builder
  | apply {builder : PatchOverlayBuilder} (patch : Bytes) (reached : Reachable sources builder) :
      Reachable sources (builder.applyPpf patch).2

theorem applyPpf_fit (builder : PatchOverlayBuilder) (patch : Bytes) (fit : SpansFit builder.spans builder.base.len) :
    SpansFit (builder.applyPpf patch).2.spans (builder.applyPpf patch).2.base.len := by
  by_cases applied : (builder.applyPpf patch).1 = .ok .applied
  · have step : builder.applyPpf patch = (.ok .applied,(builder.applyPpf patch).2) := Prod.ext applied rfl
    obtain ⟨writes,plan,spans,replacementBytes,inserted,same⟩ := applyPpf_applied step
    rw [same]
    exact insertWrites_fit (Ppf.planPpfPatch_fits plan) fit inserted
  · rw [applyPpf_unchanged builder patch applied]
    exact fit

theorem reachable_fit {builder : PatchOverlayBuilder} (reached : Reachable sources builder) :
    SpansFit builder.spans builder.base.len := by
  induction reached with
  | start made =>
    obtain ⟨concatenated,_,rfl⟩ := Option.map_eq_some_iff.mp made
    exact spansFit_empty _
  | apply patch _ ih => exact applyPpf_fit _ patch ih

def patchOwned (contents : List Bytes) (patches : List Bytes) : Except String (List Bytes) :=
  patches.foldlM (fun targets patch => (attempt (applyPpfPatchSegments targets patch)).map Prod.snd) contents

theorem applyStack_owned {builder built : PatchOverlayBuilder} {content : Bytes} {owned : List Bytes} (patches : List Bytes)
    (holds : builder.base.Holds content) (word : content.length < 2^64) (fit : SpansFit builder.spans content.length)
    (limits : builder.limits = .bounded) (image : owned.flatten = overlaid content builder.spans.values)
    (applied : builder.applyStack patches = some built) :
    built.base = builder.base ∧ SpansFit built.spans content.length ∧
      ∃ patched, patchOwned owned patches = .ok patched ∧ patched.flatten = overlaid content built.spans.values ∧
        patched.map List.length = owned.map List.length := by
  induction patches generalizing builder owned with
  | nil =>
    cases applied
    exact ⟨rfl,fit,owned,rfl,image,rfl⟩
  | cons patch patches ih =>
    rw [applyStack] at applied
    split at applied
    · rename_i next step
      obtain ⟨base,same,fits,patched,written,reached,lengths⟩ := applyPpf_owned holds word fit limits image step
      obtain ⟨bases,final,result,others,last,sizes⟩ := ih (base ▸ holds) fits (same.trans limits) reached applied
      refine ⟨bases.trans base,final,result,?_,last,sizes.trans lengths⟩
      rw [patchOwned,foldlM_cons,written]
      exact others
    · cases applied

end PatchOverlayBuilder

/-- Patching through an overlay gives what patching owned copies gives; every overlay on the way is laid out in order
inside the image; and a call that does not apply its patch changes nothing. -/
theorem PatchOverlayBuilder.overlay_refines_owned (sources : List CdTrackSource) :
    (∀ contents, List.Forall₂ CdTrackSource.Holds sources contents → ∀ builder, forTracks sources = some builder →
      ∀ patches built, builder.applyStack patches = some built →
        ∃ overlays owned, built.finishTracks sources = some overlays ∧ patchOwned contents patches = .ok owned ∧
          List.Forall₂ (fun overlay track => overlay.Gives track.1 track.2) overlays (sources.zip owned)) ∧
    ∀ builder, Reachable sources builder → Laid builder.spans.values builder.base.len ∧
      ∀ patch, (builder.applyPpf patch).1 ≠ .ok .applied → (builder.applyPpf patch).2 = builder := by
  constructor
  · intro contents hold builder made patches built applied
    obtain ⟨concatenated,joined,rfl⟩ := Option.map_eq_some_iff.mp made
    obtain ⟨holds,word⟩ := ConcatenatedTrackSource.source_holds hold joined
    have len := holds.len
    have fits : contents.flatten.length < 2^64 := len ▸ word
    obtain ⟨base,fit,owned,patched,image,lengths⟩ := applyStack_owned patches holds fits
      (spansFit_empty _) rfl (show contents.flatten = overlaid contents.flatten [] from rfl) applied
    obtain ⟨overlays,finished,give⟩ := finishFrom_gives hold [] owned fits fit.laid lengths image
    refine ⟨overlays,owned,?_,patched,give⟩
    have total : (0 + contents.flatten.length) = built.base.len := by
      rw [base,zero_add]
      exact len.symm
    rw [finishTracks,total_len hold 0 (by rw [zero_add]; exact fits)]
    change (if 0 + contents.flatten.length ≠ built.base.len then none else finishFrom built.spans.values 0 sources) = some overlays
    rw [if_neg (not_not.mpr total)]
    exact finished
  · intro builder reached
    exact ⟨(reachable_fit reached).laid,applyPpf_unchanged builder⟩

/-- Two tracks with an empty one between them, and two patches that overlap across the tracks. -/
def overlayTracks : List Bytes := [[1,2,3],[],[4,5,6]]

def overlayPatch (offset : UInt8) (bytes : Bytes) : Bytes :=
  Ppf.magic 0x31 ++ (0::List.replicate 50 0 ++ ([offset,0,0,0,UInt8.ofNat bytes.length] ++ bytes))

def overlayPatches : List Bytes := [overlayPatch 1 [9,9,9,9],overlayPatch 2 [7,7]]

theorem PatchOverlayBuilder.overlay_refines_owned_tracks : ∃ builder built overlays,
    forTracks (overlayTracks.map byteSource) = some builder ∧ builder.applyStack overlayPatches = some built ∧
      built.finishTracks (overlayTracks.map byteSource) = some overlays ∧
      List.Forall₂ (fun overlay track => overlay.Gives track.1 track.2) overlays
        ((overlayTracks.map byteSource).zip [[1,9,7],[],[7,9,6]]) := by
  have hold : List.Forall₂ CdTrackSource.Holds (overlayTracks.map byteSource) overlayTracks :=
    .cons (byteSource_holds _ (by decide)) (.cons (byteSource_holds _ (by decide)) (.cons (byteSource_holds _ (by decide)) .nil))
  obtain ⟨builder,made⟩ := Option.isSome_iff_exists.mp
    (show (forTracks (overlayTracks.map byteSource)).isSome = true by decide +kernel)
  obtain ⟨built,applied⟩ := Option.isSome_iff_exists.mp (show (builder.applyStack overlayPatches).isSome = true by
    obtain rfl := Option.some.inj made
    decide +kernel)
  obtain ⟨overlays,owned,finished,patched,give⟩ :=
    (overlay_refines_owned (overlayTracks.map byteSource)).1 overlayTracks hold builder made overlayPatches built applied
  have result : patchOwned overlayTracks overlayPatches = .ok [[1,9,7],[],[7,9,6]] := by decide +kernel
  obtain rfl := Except.ok.inj (patched.symm.trans result)
  exact ⟨builder,built,overlays,made,applied,finished,give⟩

theorem FileSliceSource.visitChunks_whole {chunkBytes : Nat} (filled : content ≠ [])
    (fits : content.length ≤ chunkBytes) (fuel : Nat) : visitChunks content chunkBytes (fuel + 1) content.length = [content] := by
  have some' : content.length ≠ 0 := fun empty => filled (eq_nil_of_length_eq_zero empty)
  have done : visitChunks content chunkBytes fuel 0 = [] := by cases fuel <;> rfl
  rw [visitChunks,if_neg some']
  dsimp only
  rw [min_eq_right fits,min_self,Nat.sub_self,zero_add,slice_all content _ rfl,done]

def silentTrack : Bytes := List.replicate 4096 0

/-- The visit of a file source hands over more than a sector at once, which the overlay of the file refuses. -/
theorem PatchOverlayBuilder.overlay_refuses_file : ¬∀ sources contents, List.Forall₂ CdTrackSource.Holds sources contents →
    ∀ builder, forTracks sources = some builder → ∀ patches built, builder.applyStack patches = some built →
      ∃ overlays owned, built.finishTracks sources = some overlays ∧ patchOwned contents patches = .ok owned ∧
        List.Forall₂ (fun overlay track => ∀ sectorBytes pieces, track.1.visitPayload sectorBytes = (pieces,.ok ()) →
          ∃ pieces', overlay.visitPayload sectorBytes = (pieces',.ok ()) ∧ pieces'.flatten = track.2)
          overlays (sources.zip owned) := by
  intro all
  have size : silentTrack.length = 4096 := by rw [silentTrack,length_replicate]
  have hold : (fileSliceSource silentTrack 0 4096 2048).Holds silentTrack := by
    have holds := fileSliceSource_holds silentTrack 0 4096 2048 (by norm_num) (by norm_num) (by norm_num) (by rw [size])
    rwa [slice_all _ _ (by rw [size])] at holds
  have visited : (fileSliceSource silentTrack 0 4096 2048).visitPayload 2048 = ([silentTrack],.ok ()) := by
    have whole : FileSliceSource.visitChunks silentTrack 65536 (4095 + 1) silentTrack.length = [silentTrack] :=
      FileSliceSource.visitChunks_whole (ne_nil_of_length_pos (by rw [size]; norm_num)) (by rw [size]; norm_num) _
    rw [size] at whole
    simp only [fileSliceSource]
    rw [if_neg (by norm_num),zero_add,slice_all _ _ size]
    exact congrArg (fun pieces => (pieces,Except.ok ())) whole
  obtain ⟨builder,made⟩ := Option.isSome_iff_exists.mp
    (show (forTracks [fileSliceSource silentTrack 0 4096 2048]).isSome = true by decide +kernel)
  obtain ⟨overlays,owned,finished,patched,give⟩ := all _ _ (.cons hold .nil) builder made [] builder rfl
  obtain rfl := Except.ok.inj patched
  obtain rfl := Option.some.inj made
  obtain rfl := Option.some.inj finished
  obtain ⟨first,_⟩ := forall₂_cons.mp give
  obtain ⟨pieces,passed,_⟩ := first 2048 _ visited
  obtain ⟨_,_,_,_,passes⟩ := @PatchOverlaySource.visitsSectors_of_ok [] (fileSliceSource silentTrack 0 4096 2048) 2048
    (congrArg Prod.snd passed)
  rw [visited] at passes
  have short := (passes silentTrack mem_cons_self).2
  rw [size] at short
  norm_num at short

end ZeffBoy.Patching
