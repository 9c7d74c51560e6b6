import ZeffBoy.Patching.Primitives

/-! The creation of a UPS patch, and what becomes of it. The patch holds the differences up to the end of the longer file,
and is refused where one of them lies behind the end of the target. -/
namespace ZeffBoy.Patching
open Library List
namespace Ups

def byteOrZero (bytes : Bytes) (i : Nat) : UInt8 := if i < bytes.length then byteAt bytes i else 0

-- The differences up to the next place without one.
def xorRun (source target : Bytes) (maxLen i : Nat) : Bytes :=
  if i < maxLen then
    let xor := byteOrZero source i ^^^ byteOrZero target i
    if xor = 0 then [] else xor::xorRun source target maxLen (i + 1)
  else []
termination_by maxLen - i

def makeRecords (source target : Bytes) (maxLen writeOffset i : Nat) : Bytes :=
  if i < maxLen then
    if byteOrZero source i ≠ byteOrZero target i then
      let skip := i - writeOffset
      let run := xorRun source target maxLen i
      let stop := i + run.length
      encodeVarint (UInt64.ofNat skip) ++ (run ++ 0::makeRecords source target maxLen (stop + 1) (stop + 1))
    else makeRecords source target maxLen writeOffset (i + 1)
  else []
termination_by maxLen - i

def body (source target : Bytes) : Bytes :=
  header ++ (encodeVarint (UInt64.ofNat source.length) ++ (encodeVarint (UInt64.ofNat target.length) ++
    makeRecords source target (max source.length target.length) 0 0))

end Ups

def makeUps (codecs : Codecs) (source target : Bytes) : Bytes := appendPatchCrcs codecs (Ups.body source target) source target

namespace Ups

theorem byteOrZero_eq (bytes : Bytes) (i : Nat) : byteOrZero bytes i = byteAt bytes i := by
  unfold byteOrZero
  split
  · rfl
  · rw [byteAt,getD_eq_getElem?_getD,List.getElem?_eq_none (by omega)]
    rfl

theorem byteAt_beyond {bytes : Bytes} {i : Nat} (beyond : bytes.length ≤ i) : byteAt bytes i = 0 := by
  rw [← byteOrZero_eq,byteOrZero,if_neg (by omega)]

variable {source target patch : Bytes}

/-- The target in front of a position, and the source with the size of the target from there on. -/
def progress (source target : Bytes) (i : Nat) : Bytes := target.take i ++ (resize source target.length).drop i

theorem getElem?_resize (bytes : Bytes) (size j : Nat) :
    (resize bytes size)[j]? = if j < size then some (byteAt bytes j) else none := by
  rw [resize,List.getElem?_append,length_take,List.getElem?_take,List.getElem?_replicate]
  by_cases inside : j < size
  · by_cases stored : j < bytes.length
    · rw [if_pos (by omega),if_pos inside,if_pos inside,byteAt,getD_eq_getElem?_getD,List.getElem?_eq_getElem stored]
      rfl
    · rw [if_neg (by omega),if_pos (by omega),if_pos inside,byteAt_beyond (by omega)]
  · rw [if_neg (by omega),if_neg (by omega),if_neg inside]

theorem getElem?_progress (i j : Nat) : (progress source target i)[j]? =
    if j < target.length then some (if j < i then byteAt target j else byteAt source j) else none := by
  rw [progress,List.getElem?_append,length_take,List.getElem?_take,List.getElem?_drop,getElem?_resize]
  by_cases inside : j < target.length
  · rw [if_pos inside]
    by_cases front : j < i
    · rw [if_pos (by omega),if_pos front,if_pos front,byteAt,getD_eq_getElem?_getD,List.getElem?_eq_getElem inside]
      rfl
    · have place : i + (j - min i target.length) = j := by omega
      rw [if_neg (by omega),if_neg front,place,if_pos inside]
  · rw [if_neg (by omega),if_neg (by omega),if_neg inside]

theorem progress_end {i : Nat} (past : target.length ≤ i) : progress source target i = target := by
  rw [progress,take_of_length_le past,drop_eq_nil_of_le (by rw [length_resize]; exact past),append_nil]

theorem progress_set {i : Nat} (inside : i < target.length) :
    (progress source target i).set i (byteAt target i) = progress source target (i + 1) := by
  apply ext_getElem?
  intro j
  rw [List.getElem?_set,getElem?_progress,getElem?_progress]
  have length : i < (progress source target i).length := by
    rw [progress,length_append,length_take,length_drop,length_resize]
    omega
  by_cases here : i = j
  · subst here
    rw [if_pos rfl,if_pos length,if_pos inside,if_pos (Nat.lt_succ_self i)]
  · have order : j < i ↔ j < i + 1 := by omega
    rw [if_neg here]
    simp only [order]

theorem progress_same {i : Nat} (same : byteAt source i = byteAt target i) :
    progress source target i = progress source target (i + 1) := by
  apply ext_getElem?
  intro j
  rw [getElem?_progress,getElem?_progress]
  by_cases here : j = i
  · subst here
    rw [if_neg (lt_irrefl j),if_pos (Nat.lt_succ_self j),same]
  · have order : j < i ↔ j < i + 1 := by omega
    simp only [order]

theorem xorRun_differs (maxLen i : Nat) : ∀ k < (xorRun source target maxLen i).length,
    byteAt source (i + k) ≠ byteAt target (i + k) := by
  fun_induction xorRun source target maxLen i with
  | case1 i inside xor same => simp
  | case2 i inside xor differ ih =>
    intro k within
    cases k with
    | zero =>
      intro same
      apply differ
      rw [show xor = byteOrZero source i ^^^ byteOrZero target i from rfl,byteOrZero_eq,byteOrZero_eq,UInt8.xor_eq_zero_iff]
      exact same
    | succ k =>
      have next := ih k (Nat.lt_of_succ_lt_succ within)
      rwa [add_assoc,add_comm 1 k] at next
  | case3 i outside => simp

theorem xorRun_stops (maxLen i : Nat) (sourceEnd : source.length ≤ maxLen) (targetEnd : target.length ≤ maxLen) :
    byteAt source (i + (xorRun source target maxLen i).length) = byteAt target (i + (xorRun source target maxLen i).length) := by
  fun_induction xorRun source target maxLen i with
  | case1 i inside xor same =>
    rw [show xor = byteOrZero source i ^^^ byteOrZero target i from rfl,byteOrZero_eq,byteOrZero_eq,UInt8.xor_eq_zero_iff] at same
    exact same
  | case2 i inside xor differ ih =>
    have next : i + (xorRun source target maxLen (i + 1)).length.succ = i + 1 + (xorRun source target maxLen (i + 1)).length := by
      omega
    rw [length_cons,← Nat.succ_eq_add_one,next]
    exact ih
  | case3 i outside =>
    rw [length_nil,add_zero,byteAt_beyond (by omega),byteAt_beyond (by omega)]

theorem recordBytes_run (maxLen i pos dataEnd : Nat) {rest : Bytes}
    (layout : patch.drop pos = xorRun source target maxLen i ++ 0::rest)
    (behind : pos + (xorRun source target maxLen i).length < dataEnd) :
    recordBytes source patch dataEnd target.length ⟨pos,progress source target i,i⟩ =
      if (xorRun source target maxLen i).length = 0 ∨ i + (xorRun source target maxLen i).length ≤ target.length then
        .ok ⟨pos + (xorRun source target maxLen i).length,progress source target (i + (xorRun source target maxLen i).length),
          i + (xorRun source target maxLen i).length⟩
      else .error "UPS target overflow" := by
  fun_induction xorRun source target maxLen i generalizing pos with
  | case1 i inside xor same =>
    rw [recordBytes,if_neg (by rw [(byteAt_of_drop layout).1]; simp),if_pos (.inl rfl)]
    rfl
  | case2 i inside xor differ ih =>
    obtain ⟨byte,next⟩ := byteAt_of_drop layout
    rw [length_cons] at behind ⊢
    have here : pos < dataEnd ∧ byteAt patch pos ≠ 0 := ⟨by omega,by rw [byte]; exact differ⟩
    have written : byteOrZero source i ^^^ xor = byteAt target i := by
      rw [show xor = byteOrZero source i ^^^ byteOrZero target i from rfl,← UInt8.xor_assoc,UInt8.xor_self,UInt8.zero_xor,
        byteOrZero_eq]
    rw [recordBytes,if_pos here]
    by_cases fits : i < target.length
    · have later := ih (pos + 1) next (by omega)
      have place : pos + 1 + (xorRun source target maxLen (i + 1)).length =
          pos + ((xorRun source target maxLen (i + 1)).length + 1) := by omega
      have index : i + 1 + (xorRun source target maxLen (i + 1)).length =
          i + ((xorRun source target maxLen (i + 1)).length + 1) := by omega
      rw [place,index] at later
      rw [ensure_pos fits,ok_bind,byte]
      dsimp only
      change recordBytes source patch dataEnd target.length
        ⟨pos + 1,(progress source target i).set i (byteOrZero source i ^^^ xor),i + 1⟩ = _
      rw [written,progress_set fits,later]
      have same : (xorRun source target maxLen (i + 1)).length = 0 ∨
          i + ((xorRun source target maxLen (i + 1)).length + 1) ≤ target.length ↔
          (xorRun source target maxLen (i + 1)).length + 1 = 0 ∨
            i + ((xorRun source target maxLen (i + 1)).length + 1) ≤ target.length := by omega
      simp only [same]
    · have short : ¬((xorRun source target maxLen (i + 1)).length + 1 = 0 ∨
          i + ((xorRun source target maxLen (i + 1)).length + 1) ≤ target.length) := by omega
      rw [if_neg short,ensure,if_neg fits]
      rfl
  | case3 i outside =>
    rw [recordBytes,if_neg (by rw [(byteAt_of_drop layout).1]; simp),if_pos (.inl rfl)]
    rfl

def Covered (source target : Bytes) (i : Nat) : Prop := ∀ j, i ≤ j → target.length ≤ j → byteAt source j = 0

theorem covered_next {i : Nat} (same : byteAt source i = byteAt target i) :
    Covered source target i ↔ Covered source target (i + 1) := by
  constructor
  · intro covered j from' past
    exact covered j (by omega) past
  · intro covered j from' past
    by_cases here : j = i
    · subst here
      rw [same,byteAt_beyond past]
    · exact covered j (by omega) past

theorem covered_run {maxLen i : Nat} (fits : i + (xorRun source target maxLen i).length ≤ target.length) :
    Covered source target i ↔ Covered source target (i + (xorRun source target maxLen i).length) := by
  constructor
  · intro covered j from' past
    exact covered j (by omega) past
  · intro covered j from' past
    exact covered j (by omega) past

theorem not_covered_run {maxLen i : Nat} (some : (xorRun source target maxLen i).length ≠ 0)
    (past : target.length < i + (xorRun source target maxLen i).length) : ¬Covered source target i := by
  intro covered
  obtain ⟨k,within,place⟩ : ∃ k < (xorRun source target maxLen i).length, target.length ≤ i + k :=
    ⟨(xorRun source target maxLen i).length - 1,by omega,by omega⟩
  apply xorRun_differs maxLen i k within
  rw [covered (i + k) (Nat.le_add_right i k) place,byteAt_beyond place]

theorem records_makeRecords (maxLen writeOffset i pos fuel dataEnd : Nat) {rest : Bytes}
    (sourceEnd : source.length ≤ maxLen) (targetEnd : target.length ≤ maxLen) (small : maxLen < 2^63)
    (behind : writeOffset ≤ i) (layout : patch.drop pos = makeRecords source target maxLen writeOffset i ++ rest)
    (stop : dataEnd = pos + (makeRecords source target maxLen writeOffset i).length)
    (enough : (makeRecords source target maxLen writeOffset i).length ≤ fuel) :
    (Covered source target i → records source patch dataEnd target.length fuel ⟨pos,progress source target i,writeOffset⟩ =
      .ok target) ∧
    (¬Covered source target i → records source patch dataEnd target.length fuel ⟨pos,progress source target i,writeOffset⟩ =
      .error "UPS target overflow") := by
  fun_induction makeRecords source target maxLen writeOffset i generalizing pos fuel with
  | case1 writeOffset i inside differ skip run stop' ih =>
    rw [append_assoc,append_assoc,cons_append] at layout
    have size : (encodeVarint (UInt64.ofNat skip) ++ (run ++ 0::makeRecords source target maxLen (stop' + 1) (stop' + 1))).length =
        (encodeVarint (UInt64.ofNat skip)).length + (run.length + 1 +
          (makeRecords source target maxLen (stop' + 1) (stop' + 1)).length) := by
      simp only [length_append,length_cons]
      omega
    rw [size] at stop enough
    obtain ⟨fuel,rfl⟩ : ∃ more, fuel = more + 1 := ⟨fuel - 1,by omega⟩
    have whole : (UInt64.ofNat skip).toNat = skip := by
      rw [UInt64.toNat_ofNat']
      omega
    have skipped : readVarint patch "UPS" pos = .ok (skip,pos + (encodeVarint (UInt64.ofNat skip)).length) := by
      have encoded := encodedVarint_encodeVarint (UInt64.ofNat skip)
        (run ++ (0::(makeRecords source target maxLen (stop' + 1) (stop' + 1) ++ rest)))
      rw [← layout,whole] at encoded
      exact readVarint_of_encoded encoded (by omega)
    have place : (writeOffset + skip) % 2^64 = i := by omega
    have runLayout : patch.drop (pos + (encodeVarint (UInt64.ofNat skip)).length) =
        run ++ 0::(makeRecords source target maxLen (stop' + 1) (stop' + 1) ++ rest) := by
      rw [← drop_drop,layout,drop_left]
    have written := recordBytes_run maxLen i _ dataEnd runLayout (by change _ + run.length < _; omega)
    rw [show xorRun source target maxLen i = run from rfl] at written
    have start : byteAt source i ≠ byteAt target i := by
      rwa [byteOrZero_eq,byteOrZero_eq] at differ
    have some : run.length ≠ 0 := by
      intro none
      apply start
      have stops := xorRun_stops maxLen i sourceEnd targetEnd
      change byteAt source (i + run.length) = byteAt target (i + run.length) at stops
      rwa [none,add_zero] at stops
    rw [records,if_pos (by dsimp only; omega),skipped,ok_bind]
    dsimp only
    rw [place,written]
    by_cases fits : i + run.length ≤ target.length
    · have stops : byteAt source (i + run.length) = byteAt target (i + run.length) := xorRun_stops maxLen i sourceEnd targetEnd
      have covered := (covered_run fits).trans (covered_next stops)
      have ended : (i + run.length + 1) % 2^64 = i + run.length + 1 := by omega
      rw [if_pos (.inr fits),ok_bind]
      dsimp only
      rw [ensure_pos (by omega),ok_bind]
      change (_ → records _ _ _ _ _ ⟨_,progress source target (i + run.length),(i + run.length + 1) % 2^64⟩ = _) ∧
        (_ → records _ _ _ _ _ ⟨_,progress source target (i + run.length),(i + run.length + 1) % 2^64⟩ = _)
      rw [covered,progress_same stops,ended]
      exact ih _ fuel le_rfl (by rw [(byteAt_of_drop (by
        rw [← drop_drop,runLayout,drop_left])).2]) (by omega) (by omega)
    · rw [if_neg (by omega)]
      exact ⟨fun covered => absurd covered (not_covered_run some (by change _ < i + run.length; omega)),fun _ => rfl⟩
  | case2 writeOffset i inside same ih =>
    rw [ne_eq,not_not,byteOrZero_eq,byteOrZero_eq] at same
    rw [progress_same same,covered_next same]
    exact ih pos fuel (by omega) layout stop enough
  | case3 writeOffset i outside =>
    have covered : Covered source target i := fun j from' _ => byteAt_beyond (by omega)
    refine ⟨fun _ => ?_,fun missed => absurd covered missed⟩
    rw [length_nil,add_zero] at stop
    cases fuel with
    | zero => rw [records,progress_end (by omega)]
    | succ fuel => rw [records,if_neg (by dsimp only; omega),progress_end (by omega)]

theorem applyUpsPatch_records (codecs : Codecs) (source target : Bytes) (sourceFits : source.length < 2^63)
    (targetFits : target.length < 2^63) : ∃ pos rest,
    (makeUps codecs source target).drop pos = makeRecords source target (max source.length target.length) 0 0 ++ rest ∧
    (makeUps codecs source target).length - footerSize =
      pos + (makeRecords source target (max source.length target.length) 0 0).length ∧
    verifyTargetCrc codecs (makeUps codecs source target) target "UPS" = .ok () ∧
    applyUpsPatch codecs source (makeUps codecs source target) = (do
      let output ← records source (makeUps codecs source target) ((makeUps codecs source target).length - footerSize)
        target.length (makeUps codecs source target).length ⟨pos,progress source target 0,0⟩
      verifyTargetCrc codecs (makeUps codecs source target) output "UPS"
      .ok output) := by
  obtain ⟨rest,layout,length,crcs,targetCrc⟩ := appendPatchCrcs_reads codecs (body source target) source target "UPS"
  change makeUps codecs source target = _ at layout
  change (makeUps codecs source target).length = _ at length
  change verifyPatchCrcs codecs (makeUps codecs source target) source "UPS" = _ at crcs
  change verifyTargetCrc codecs (makeUps codecs source target) target "UPS" = _ at targetCrc
  generalize makeUps codecs source target = patch at *
  have four : header.length = 4 := rfl
  simp only [body,append_assoc,length_append,four] at layout length
  have first := readVarint_encodeVarint header (encodeVarint (UInt64.ofNat target.length) ++
    (makeRecords source target (max source.length target.length) 0 0 ++ rest)) "UPS" (UInt64.ofNat source.length)
  have second := readVarint_encodeVarint (header ++ encodeVarint (UInt64.ofNat source.length))
    (makeRecords source target (max source.length target.length) 0 0 ++ rest) "UPS" (UInt64.ofNat target.length)
  rw [← layout,toNat_ofNat_length sourceFits,four] at first
  rw [append_assoc,← layout,toNat_ofNat_length targetFits,length_append,four] at second
  have magic : slice patch 0 4 = header := by
    rw [layout]
    exact slice_front header _ 4 rfl
  refine ⟨4 + (encodeVarint (UInt64.ofNat source.length)).length + (encodeVarint (UInt64.ofNat target.length)).length,rest,
    ?_,by rw [length,footerSize]; omega,targetCrc,?_⟩
  · rw [layout,add_assoc,← four,← drop_drop,drop_left,← drop_drop,drop_left,drop_left]
  · rw [applyUpsPatch,ensure_pos (by rw [length,four,footerSize]; omega),ok_bind,ensure_pos magic,ok_bind,crcs,ok_bind,first,
      ok_bind]
    dsimp only
    rw [second,ok_bind]
    dsimp only
    rw [ensure_pos rfl,ok_bind]
    rfl

theorem applyUpsPatch_brings (codecs : Codecs) (sourceFits : source.length < 2^63) (targetFits : target.length < 2^63)
    (covered : Covered source target 0) : applyUpsPatch codecs source (makeUps codecs source target) = .ok target := by
  obtain ⟨pos,rest,layout,stop,targetCrc,applied⟩ := applyUpsPatch_records codecs source target sourceFits targetFits
  obtain ⟨brings,_⟩ := records_makeRecords (max source.length target.length) 0 0 pos
    (makeUps codecs source target).length _ (by omega) (by omega) (by omega) le_rfl layout stop (by omega)
  rw [applied,brings covered,ok_bind,targetCrc]
  rfl

theorem applyUpsPatch_refuses (codecs : Codecs) (sourceFits : source.length < 2^63) (targetFits : target.length < 2^63)
    (missed : ¬Covered source target 0) :
    applyUpsPatch codecs source (makeUps codecs source target) = .error "UPS target overflow" := by
  obtain ⟨pos,rest,layout,stop,_,applied⟩ := applyUpsPatch_records codecs source target sourceFits targetFits
  obtain ⟨_,refuses⟩ := records_makeRecords (max source.length target.length) 0 0 pos
    (makeUps codecs source target).length _ (by omega) (by omega) (by omega) le_rfl layout stop (by omega)
  rw [applied,refuses missed]
  rfl

theorem covered_iff : Covered source target 0 ↔ ∀ i, target.length ≤ i → i < source.length → byteAt source i = 0 := by
  constructor
  · intro covered i past _
    exact covered i (Nat.zero_le i) past
  · intro zeros i _ past
    by_cases inside : i < source.length
    · exact zeros i past inside
    · exact byteAt_beyond (by omega)

end Ups

/-- A patch brings its target unless the target leaves out a byte of the source that is not zero. -/
theorem applyUpsPatch_makeUps (codecs : Codecs) (source target : Bytes) (sourceFits : source.length < 2^63)
    (targetFits : target.length < 2^63) :
    applyUpsPatch codecs source (makeUps codecs source target) = .ok target ↔
      ∀ i, target.length ≤ i → i < source.length → byteAt source i = 0 := by
  rw [← Ups.covered_iff]
  constructor
  · intro brought
    by_contra missed
    rw [Ups.applyUpsPatch_refuses codecs sourceFits targetFits missed] at brought
    cases brought
  · exact Ups.applyUpsPatch_brings codecs sourceFits targetFits

theorem applyUpsPatch_makeUps_grown : applyUpsPatch checksumOnly [1] (makeUps checksumOnly [1] [2,3]) = .ok [2,3] ↔
    ∀ i, [2,3].length ≤ i → i < [1].length → byteAt [1] i = 0 :=
  applyUpsPatch_makeUps checksumOnly [1] [2,3] (by decide) (by decide)

theorem applyUpsPatch_makeUps_shrunk :
    applyUpsPatch checksumOnly [1] (makeUps checksumOnly [1] []) = .error "UPS target overflow" := by
  apply Ups.applyUpsPatch_refuses _ (by decide) (by decide)
  rw [Ups.covered_iff]
  exact fun zeros => absurd (zeros 0 le_rfl Nat.one_pos) (by decide)

end ZeffBoy.Patching
