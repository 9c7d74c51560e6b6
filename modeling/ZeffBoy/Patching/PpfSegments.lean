import ZeffBoy.Patching.Ppf

/-! A PPF patch sees the segments of its target as one image. -/
namespace ZeffBoy.Patching
open Library List
namespace Ppf

theorem readSegments_eq (targets : List Bytes) (offset want : Nat) : readSegments targets offset want =
    if want = 0 ∨ offset + want ≤ targets.flatten.length then .ok (slice targets.flatten offset (offset + want))
    else .error "PPF source read ends outside target" := by
  induction targets generalizing offset want with
  | nil =>
    rw [readSegments,flatten_nil,length_nil]
    by_cases empty : want = 0
    · subst empty
      rw [ensure_pos rfl,if_pos (.inl rfl),add_zero,slice_empty]
      rfl
    · rw [ensure,if_neg empty,if_neg (by omega)]
      rfl
  | cons target targets ih =>
    rw [readSegments,flatten_cons,length_append]
    by_cases past : target.length ≤ offset
    · have span : offset + want - target.length = offset - target.length + want := by omega
      have same : want = 0 ∨ offset - target.length + want ≤ targets.flatten.length ↔
          want = 0 ∨ offset + want ≤ target.length + targets.flatten.length := by omega
      rw [if_pos past,ih,slice_skip target _ offset _ past,span]
      simp only [same]
    · rw [if_neg past]
      dsimp only
      by_cases fits : want ≤ target.length - offset
      · rw [min_eq_left fits,if_pos rfl,if_pos (by omega),slice_append_front (by omega)]
      · have tail : 0 + (want - (target.length - offset)) = offset + want - target.length := by omega
        have same : want - (target.length - offset) = 0 ∨ offset + want - target.length ≤ targets.flatten.length ↔
            want = 0 ∨ offset + want ≤ target.length + targets.flatten.length := by omega
        rw [min_eq_right (by omega),if_neg (by omega),ih,tail]
        simp only [same]
        split
        · have front : offset + (target.length - offset) = target.length := by omega
          have behind : slice (target ++ targets.flatten) target.length (offset + want) =
              slice targets.flatten 0 (offset + want - target.length) := by
            rw [slice_skip target _ _ _ le_rfl,Nat.sub_self]
          have head : slice (target ++ targets.flatten) offset target.length = slice target offset target.length :=
            slice_append_front le_rfl
          rw [ok_bind,front,← slice_split _ (show offset ≤ target.length by omega) (show target.length ≤ offset + want by omega),
            behind,head]
        · rfl

theorem writeSegments_eq (targets : List Bytes) (offset : Nat) (bytes : Bytes)
    (fits : offset + bytes.length ≤ targets.flatten.length) :
    (writeSegments targets offset bytes).flatten = overwrite targets.flatten offset bytes ∧
      (writeSegments targets offset bytes).map List.length = targets.map List.length := by
  induction targets generalizing offset bytes with
  | nil =>
    have empty : bytes = [] := by
      apply eq_nil_of_length_eq_zero
      rw [flatten_nil,length_nil] at fits
      omega
    rw [empty,overwrite_empty]
    exact ⟨rfl,rfl⟩
  | cons target targets ih =>
    rw [flatten_cons,length_append] at fits
    rw [writeSegments,flatten_cons]
    by_cases past : target.length ≤ offset
    · obtain ⟨written,lengths⟩ := ih (offset - target.length) bytes (by omega)
      rw [if_pos past,flatten_cons,written,overwrite_skip target _ offset bytes past,map_cons,lengths]
      exact ⟨rfl,rfl⟩
    · rw [if_neg past]
      dsimp only
      by_cases short : bytes.length ≤ target.length - offset
      · rw [min_eq_left short,if_pos rfl,take_length,flatten_cons,overwrite_append_front (by omega),map_cons,
          length_overwrite target offset bytes (by omega)]
        exact ⟨rfl,rfl⟩
      · have here : offset + (bytes.take (target.length - offset)).length = target.length := by
          rw [length_take]
          omega
        obtain ⟨written,lengths⟩ := ih 0 (bytes.drop (target.length - offset)) (by rw [length_drop]; omega)
        have joined : overwrite (target ++ targets.flatten) offset
            (bytes.take (target.length - offset) ++ bytes.drop (target.length - offset)) = _ := overwrite_append here
        rw [take_append_drop] at joined
        rw [min_eq_right (by omega),if_neg (by omega),flatten_cons,written,joined,map_cons,lengths,
          length_overwrite target offset _ here.le]
        exact ⟨rfl,rfl⟩

def writeImage (image : Bytes) (write : Write) : Bytes := overwrite image write.offset write.bytes

theorem writeSegments_fold (writes : List Write) (targets : List Bytes)
    (fits : ∀ write ∈ writes, write.offset + write.bytes.length ≤ targets.flatten.length) :
    (writes.foldl (fun targets write => writeSegments targets write.offset write.bytes) targets).flatten =
        writes.foldl writeImage targets.flatten ∧
      (writes.foldl (fun targets write => writeSegments targets write.offset write.bytes) targets).map List.length =
        targets.map List.length := by
  induction writes generalizing targets with
  | nil => exact ⟨rfl,rfl⟩
  | cons write writes ih =>
    obtain ⟨first,others⟩ := forall_mem_cons.mp fits
    obtain ⟨written,lengths⟩ := writeSegments_eq targets write.offset write.bytes first
    have size : (writeSegments targets write.offset write.bytes).flatten.length = targets.flatten.length := by
      rw [written,length_overwrite _ _ _ first]
    obtain ⟨reached,kept⟩ := ih _ (by rwa [size])
    rw [foldl_cons,foldl_cons,reached,kept,written,lengths]
    exact ⟨rfl,rfl⟩

theorem planRecords_fits {patch : Bytes} {targetLen : Nat} {limits : PlanLimits} {area : Layout} {fuel cursor : Nat}
    {before writes : List Write} {replacementBytes : Nat}
    (planned : planRecords patch targetLen limits area fuel cursor before replacementBytes = .ok (.planned writes))
    (fits : ∀ write ∈ before, write.offset + write.bytes.length ≤ targetLen) :
    ∀ write ∈ writes, write.offset + write.bytes.length ≤ targetLen := by
  induction fuel generalizing cursor before replacementBytes with
  | zero => cases planned
  | succ fuel ih =>
    rw [planRecords] at planned
    split at planned
    · obtain ⟨headerEnd,_,planned⟩ := bind_ok.mp planned
      obtain ⟨_,planned⟩ := check_bind_ok.mp planned
      obtain ⟨dataEnd,data,planned⟩ := bind_ok.mp planned
      obtain ⟨next,_,planned⟩ := bind_ok.mp planned
      obtain ⟨_,planned⟩ := check_bind_ok.mp planned
      obtain ⟨targetEnd,reached,planned⟩ := bind_ok.mp planned
      obtain ⟨inside,planned⟩ := check_bind_ok.mp planned
      obtain ⟨recordCount,_,planned⟩ := bind_ok.mp planned
      have stop := (checkedAdd_ok.mp reached).2
      have span := (checkedAdd_ok.mp data).2
      rw [ensure_ok] at inside
      split at planned
      · cases planned
      obtain ⟨replaced,_,planned⟩ := bind_ok.mp planned
      split at planned
      · cases planned
      apply ih planned
      intro write member
      rcases mem_append.mp member with old | new
      · exact fits write old
      · rw [mem_singleton] at new
        subst new
        have length : (slice patch headerEnd dataEnd).length ≤ dataEnd - headerEnd := by
          rw [slice,length_take]
          omega
        dsimp only
        omega
    · obtain ⟨_,planned⟩ := check_bind_ok.mp planned
      cases planned
      exact fits

theorem planPpfPatch_fits {patch : Bytes} {targetLen : Nat} {limits : PlanLimits}
    {readSource : Nat → Nat → Except String Bytes} {writes : List Write}
    (planned : planPpfPatch patch targetLen limits readSource = .ok (.planned writes)) :
    ∀ write ∈ writes, write.offset + write.bytes.length ≤ targetLen := by
  rw [planPpfPatch] at planned
  split at planned
  · cases planned
  obtain ⟨_,planned⟩ := check_bind_ok.mp planned
  obtain ⟨area,_,planned⟩ := bind_ok.mp planned
  obtain ⟨_,planned⟩ := check_bind_ok.mp planned
  exact planRecords_fits planned (by simp)

theorem totalLen_eq (targets : List Bytes) (total : Nat) (start : total < 2^64) :
    targets.foldlM (fun total (target : Bytes) => checkedAdd total target.length "PPF target is too large") total =
      if total + targets.flatten.length < 2^64 then .ok (total + targets.flatten.length)
      else .error "PPF target is too large" := by
  induction targets generalizing total with
  | nil =>
    rw [flatten_nil,length_nil,add_zero,if_pos start]
    rfl
  | cons target targets ih =>
    rw [foldlM_cons,flatten_cons,length_append,← add_assoc]
    by_cases fits : total + target.length < 2^64
    · rw [checkedAdd_pos fits,ok_bind]
      exact ih _ fits
    · rw [checkedAdd,if_neg fits,if_neg (by omega)]
      rfl

theorem planned_flatten (targets : List Bytes) (patch : Bytes) : planned targets patch = planned [targets.flatten] patch := by
  have one : [targets.flatten].flatten = targets.flatten := by simp
  have reads : readSegments targets = readSegments [targets.flatten] := by
    funext offset want
    rw [readSegments_eq,readSegments_eq,one]
  rw [planned,planned,totalLen_eq targets 0 (by norm_num),totalLen_eq [targets.flatten] 0 (by norm_num),one,reads]

theorem planned_fits {targets : List Bytes} {patch : Bytes} {writes : List Write} (plan : planned targets patch = .ok writes) :
    ∀ write ∈ writes, write.offset + write.bytes.length ≤ targets.flatten.length := by
  rw [planned,totalLen_eq targets 0 (by norm_num),zero_add] at plan
  split at plan
  · rw [ok_bind] at plan
    obtain ⟨outcome,made,plan⟩ := bind_ok.mp plan
    cases outcome with
    | planned writes' =>
      cases plan
      exact planPpfPatch_fits made
    | fallback reason => cases plan
  · cases plan

end Ppf

theorem applyPpfPatchSegments_planned {targets : List Bytes} {patch : Bytes} {writes : List Ppf.Write}
    (plan : Ppf.planned targets patch = .ok writes) : applyPpfPatchSegments targets patch =
      (.ok (),writes.foldl (fun targets write => Ppf.writeSegments targets write.offset write.bytes) targets) := by
  rw [applyPpfPatchSegments,plan]

theorem applyPpfPatchSegments_refused {targets : List Bytes} {patch : Bytes} {error : String}
    (plan : Ppf.planned targets patch = .error error) : applyPpfPatchSegments targets patch = (.error error,targets) := by
  rw [applyPpfPatchSegments,plan]

theorem headD_of_lengths {targets : List Bytes} {size : Nat} (one : targets.map List.length = [size]) (default : Bytes) :
    targets.headD default = targets.flatten := by
  obtain ⟨target,rest,rfl,_,none⟩ := map_eq_cons_iff.mp one
  rw [map_eq_nil_iff.mp none]
  simp

theorem applyPpfPatch_planned {target patch : Bytes} {writes : List Ppf.Write}
    (plan : Ppf.planned [target] patch = .ok writes) :
    applyPpfPatch target patch = (.ok (),writes.foldl Ppf.writeImage target) := by
  have one : [target].flatten = target := by simp
  have fits := Ppf.planned_fits plan
  obtain ⟨image,lengths⟩ := Ppf.writeSegments_fold writes [target] fits
  rw [one] at image
  rw [applyPpfPatch,applyPpfPatchSegments_planned plan]
  dsimp only
  rw [headD_of_lengths lengths,image]

theorem applyPpfPatch_refused {target patch : Bytes} {error : String} (plan : Ppf.planned [target] patch = .error error) :
    applyPpfPatch target patch = (.error error,target) := by
  rw [applyPpfPatch,applyPpfPatchSegments_refused plan]
  rfl

/-- The segments are patched as one image, by the writes of the plan, or not at all. -/
theorem applyPpfPatchSegments_eq (targets : List Bytes) (patch : Bytes) :
    (applyPpfPatchSegments targets patch).1 = (applyPpfPatch targets.flatten patch).1 ∧
      ((applyPpfPatchSegments targets patch).1 = .ok () →
        (applyPpfPatchSegments targets patch).2.flatten = (applyPpfPatch targets.flatten patch).2 ∧
        (applyPpfPatchSegments targets patch).2.map List.length = targets.map List.length ∧
        ∃ writes, Ppf.planned targets patch = .ok writes ∧
          (applyPpfPatchSegments targets patch).2.flatten = writes.foldl Ppf.writeImage targets.flatten) ∧
      ∀ error, (applyPpfPatchSegments targets patch).1 = .error error → (applyPpfPatchSegments targets patch).2 = targets := by
  have same := Ppf.planned_flatten targets patch
  cases plan : Ppf.planned targets patch with
  | error error =>
    rw [applyPpfPatchSegments_refused plan,applyPpfPatch_refused (same.symm.trans plan)]
    refine ⟨rfl,?_,fun _ _ => rfl⟩
    intro applied
    cases applied
  | ok writes =>
    obtain ⟨image,lengths⟩ := Ppf.writeSegments_fold writes targets (Ppf.planned_fits plan)
    rw [applyPpfPatchSegments_planned plan,applyPpfPatch_planned (same.symm.trans plan)]
    refine ⟨rfl,fun _ => ⟨image,lengths,writes,rfl,image⟩,?_⟩
    intro error failed
    cases failed

end ZeffBoy.Patching
