import ZeffBoy.Library.Descent
import ZeffBoy.Tas.EditorSession
import ZeffBoy.Tas.Impacts

/-! Deleting a branch with the branches forked from it. -/
namespace ZeffBoy.Tas
open Library Replay List

def TasBranch.parentId (branch : TasBranch) : Option String := branch.parent.map TasBranchOrigin.branchId

def TasProject.Descends (project : TasProject) : String → String → Prop :=
  Descent.Reaches TasBranch.id TasBranch.parentId project.branches

def TasProject.Rooted (project : TasProject) (branch : TasBranch) : Prop :=
  ∃ root ∈ project.branches, root.parent = none ∧ project.Descends branch.id root.id

def TasProject.subtree (project : TasProject) (branchId : String) : List String :=
  deletedSubtree project.branches [branchId] (project.branches.length + 1)

/-- The project less some of its branches, with the markers and annotations on them. -/
def TasProject.without (project : TasProject) (removed : List String) : TasProject := { project with
  branches := project.branches.filter (fun branch => branch.id ∉ removed)
  markers := project.markers.filter (fun marker => marker.branchId ∉ removed)
  annotations := project.annotations.filter (fun annotated => annotated.branchId ∉ removed) }

theorem deleteRound_eq (branches : List TasBranch) (deleted : List String) :
    deleteRound branches deleted = Descent.pass TasBranch.id TasBranch.parentId branches deleted := by
  unfold deleteRound Descent.pass
  congr 1
  funext deleted branch
  simp only [Descent.extend,TasBranch.parentId,Option.any_map]

theorem deletedSubtree_eq (branches : List TasBranch) (deleted : List String) (rounds : Nat) :
    deletedSubtree branches deleted rounds = Descent.close TasBranch.id TasBranch.parentId branches deleted rounds := by
  induction rounds generalizing deleted with
  | zero => rfl
  | succ rounds ih => rw [deletedSubtree,Descent.close,deleteRound_eq,ih]

section
variable {project : TasProject} {removed : List String}

theorem branch_without (id : String) (kept : id ∉ removed) : (project.without removed).branch id = project.branch id := by
  unfold TasProject.branch TasProject.without
  rw [List.find?_filter]
  congr 1
  funext branch
  by_cases same : branch.id = id
  · simp [same,kept]
  · simp [same]

theorem validateBranches_without (seen : List String) (count total : Nat) (branches : List TasBranch)
    (ok : validateBranches project seen count branches = .ok total) (seen' : List String) (fewer : seen' ⊆ seen)
    (count' : Nat) (less : count' ≤ count) : ∃ total', total' ≤ total ∧ validateBranches (project.without removed)
      seen' count' (branches.filter (fun branch => branch.id ∉ removed)) = .ok total' := by
  induction branches generalizing seen count seen' count' with
  | nil =>
    obtain rfl := Except.ok.inj ok
    exact ⟨count',less,rfl⟩
  | cons branch branches ih =>
    obtain ⟨named,ok⟩ := check_bind_ok.mp ok
    obtain ⟨titled,ok⟩ := check_bind_ok.mp ok
    obtain ⟨commented,ok⟩ := check_bind_ok.mp ok
    obtain ⟨fresh,ok⟩ := check_bind_ok.mp ok
    obtain ⟨limit,ok⟩ := check_bind_ok.mp ok
    obtain ⟨sum,counted,ok⟩ := bind_ok.mp ok
    obtain ⟨movie,ok⟩ := check_bind_ok.mp ok
    obtain ⟨word,rfl⟩ := checkedAdd_ok.mp counted
    by_cases kept : branch.id ∈ removed
    · rw [filter_cons_of_neg (by simpa using kept)]
      exact ih _ _ ok seen' (fun id present => mem_cons_of_mem _ (fewer present)) count' (by omega)
    · rw [filter_cons_of_pos (by simpa using kept)]
      obtain ⟨total',bound,rest⟩ := ih _ _ ok (branch.id::seen') (cons_subset_cons _ fewer)
        (count' + branch.inputSpans.length) (by omega)
      refine ⟨total',bound,?_⟩
      have unseen : branch.id ∉ seen' := fun present => ensure_ok.mp fresh (fewer present)
      refine check_bind_ok.mpr ⟨named,?_⟩
      refine check_bind_ok.mpr ⟨titled,?_⟩
      refine check_bind_ok.mpr ⟨commented,?_⟩
      refine check_bind_ok.mpr ⟨ensure_pos unseen _,?_⟩
      refine check_bind_ok.mpr ⟨limit,?_⟩
      refine bind_ok.mpr ⟨_,checkedAdd_pos (by omega) _,?_⟩
      exact check_bind_ok.mpr ⟨movie,rest⟩

theorem validateMarkers_without (seen : List String) (markers : List TasMarker)
    (ok : validateMarkers project seen markers = .ok ()) (seen' : List String) (fewer : seen' ⊆ seen) :
    validateMarkers (project.without removed) seen' (markers.filter (fun marker => marker.branchId ∉ removed)) = .ok () := by
  induction markers generalizing seen seen' with
  | nil => rfl
  | cons marker markers ih =>
    obtain ⟨named,ok⟩ := check_bind_ok.mp ok
    obtain ⟨titled,ok⟩ := check_bind_ok.mp ok
    obtain ⟨fresh,ok⟩ := check_bind_ok.mp ok
    obtain ⟨branch,found,ok⟩ := bind_ok.mp ok
    obtain ⟨inside,ok⟩ := check_bind_ok.mp ok
    by_cases kept : marker.branchId ∈ removed
    · rw [filter_cons_of_neg (by simpa using kept)]
      exact ih _ ok seen' (fun id present => mem_cons_of_mem _ (fewer present))
    · rw [filter_cons_of_pos (by simpa using kept)]
      have unseen : marker.id ∉ seen' := fun present => ensure_ok.mp fresh (fewer present)
      refine check_bind_ok.mpr ⟨named,?_⟩
      refine check_bind_ok.mpr ⟨titled,?_⟩
      refine check_bind_ok.mpr ⟨ensure_pos unseen _,?_⟩
      refine bind_ok.mpr ⟨branch,by rw [branch_without _ kept]; exact found,?_⟩
      exact check_bind_ok.mpr ⟨inside,ih _ ok _ (cons_subset_cons _ fewer)⟩

theorem validateAnnotations_without (seen : List String) (annotations : List TasAnnotation)
    (ok : validateAnnotations project seen annotations = .ok ()) (seen' : List String) (fewer : seen' ⊆ seen) :
    validateAnnotations (project.without removed) seen'
      (annotations.filter (fun annotated => annotated.branchId ∉ removed)) = .ok () := by
  induction annotations generalizing seen seen' with
  | nil => rfl
  | cons annotated annotations ih =>
    obtain ⟨named,ok⟩ := check_bind_ok.mp ok
    obtain ⟨kinded,ok⟩ := check_bind_ok.mp ok
    obtain ⟨written,ok⟩ := check_bind_ok.mp ok
    obtain ⟨nonempty,ok⟩ := check_bind_ok.mp ok
    obtain ⟨fresh,ok⟩ := check_bind_ok.mp ok
    obtain ⟨branch,found,ok⟩ := bind_ok.mp ok
    obtain ⟨stop,summed,ok⟩ := bind_ok.mp ok
    obtain ⟨inside,ok⟩ := check_bind_ok.mp ok
    by_cases kept : annotated.branchId ∈ removed
    · rw [filter_cons_of_neg (by simpa using kept)]
      exact ih _ ok seen' (fun id present => mem_cons_of_mem _ (fewer present))
    · rw [filter_cons_of_pos (by simpa using kept)]
      have unseen : annotated.id ∉ seen' := fun present => ensure_ok.mp fresh (fewer present)
      refine check_bind_ok.mpr ⟨named,?_⟩
      refine check_bind_ok.mpr ⟨kinded,?_⟩
      refine check_bind_ok.mpr ⟨written,?_⟩
      refine check_bind_ok.mpr ⟨nonempty,?_⟩
      refine check_bind_ok.mpr ⟨ensure_pos unseen _,?_⟩
      refine bind_ok.mpr ⟨branch,by rw [branch_without _ kept]; exact found,?_⟩
      refine bind_ok.mpr ⟨stop,summed,?_⟩
      exact check_bind_ok.mpr ⟨inside,ih _ ok _ (cons_subset_cons _ fewer)⟩

def Upward (project : TasProject) (removed : List String) : Prop :=
  ∀ branch ∈ project.branches, branch.id ∉ removed → ∀ parent, branch.parent = some parent → parent.branchId ∉ removed

theorem validateParent_without (upward : Upward project removed) (branch : TasBranch) (member : branch ∈ project.branches)
    (kept : branch.id ∉ removed) (ok : validateParent project branch = .ok ()) :
    validateParent (project.without removed) branch = .ok () := by
  refine (option_forM_ok _ _).mpr fun parent linked => ?_
  have ok := (option_forM_ok _ _).mp ok parent linked
  obtain ⟨named,ok⟩ := check_bind_ok.mp ok
  obtain ⟨known,inside⟩ := check_bind_ok.mp ok
  refine check_bind_ok.mpr ⟨named,check_bind_ok.mpr ⟨ensure_pos ?_ _,inside⟩⟩
  obtain ⟨other,present⟩ := not_or.mp (ensure_ok.mp known)
  refine not_or.mpr ⟨other,not_not.mpr ?_⟩
  obtain ⟨owner,inside,same⟩ := mem_map.mp (not_not.mp present)
  have stays : owner.id ∉ removed := by
    rw [same]
    exact upward branch member kept parent linked
  exact mem_map.mpr ⟨owner,mem_filter.mpr ⟨inside,decide_eq_true stays⟩,same⟩

theorem validateAncestry_without (upward : Upward project removed) (visited : List String) (rounds rounds' : Nat)
    (fewer : rounds' ≤ rounds) (current : TasBranch) (member : current ∈ project.branches) (kept : current.id ∉ removed)
    (ok : validateAncestry project visited current rounds = .ok ()) :
    validateAncestry (project.without removed) visited current rounds' = .ok () := by
  induction rounds' generalizing visited rounds current with
  | zero => rfl
  | succ rounds' ih =>
    obtain ⟨rounds,rfl⟩ := Nat.exists_eq_add_of_lt fewer
    rw [validateAncestry] at ok ⊢
    split
    · rfl
    · rename_i parent linked
      simp only [linked] at ok
      obtain ⟨fresh,ok⟩ := check_bind_ok.mp ok
      obtain ⟨next,found,ok⟩ := bind_ok.mp ok
      have stays := upward current member kept parent linked
      have lookup := context_ok.mp found
      refine check_bind_ok.mpr ⟨fresh,bind_ok.mpr ⟨next,by rw [branch_without _ stays]; exact found,?_⟩⟩
      refine ih _ _ (by omega) next (List.mem_of_find?_eq_some lookup) ?_ ok
      rwa [branch_id project _ next lookup]

theorem rooted_of_ancestry (visited : List String) (rounds : Nat) (current : TasBranch)
    (member : current ∈ project.branches) (distinct : visited.Nodup) (known : visited ⊆ project.branches.map TasBranch.id)
    (enough : project.branches.length < visited.length + rounds)
    (ok : validateAncestry project visited current rounds = .ok ()) : project.Rooted current := by
  induction rounds generalizing visited current with
  | zero =>
    have bound := Descent.length_le_of_keys TasBranch.id project.branches visited distinct known
    omega
  | succ rounds ih =>
    rw [validateAncestry] at ok
    split at ok
    · rename_i root
      exact ⟨current,member,root,.refl⟩
    · rename_i parent linked
      obtain ⟨fresh,ok⟩ := check_bind_ok.mp ok
      obtain ⟨next,found,ok⟩ := bind_ok.mp ok
      have lookup := context_ok.mp found
      obtain ⟨root,inside,top,climbs⟩ := ih (current.id::visited) next (List.mem_of_find?_eq_some lookup)
        (nodup_cons.mpr ⟨ensure_ok.mp fresh,distinct⟩)
        (cons_subset.mpr ⟨mem_map_of_mem member,known⟩) (by rw [length_cons]; omega) ok
      have step : Descent.Link TasBranch.id TasBranch.parentId project.branches current.id next.id := by
        refine ⟨current,member,rfl,?_⟩
        rw [TasBranch.parentId,linked,branch_id project _ next lookup]
        rfl
      exact ⟨root,inside,top,.head step climbs⟩

theorem rooted_of_valid (sha256 : Bytes → TasDigest) (valid : project.validateEditorState sha256 = .ok ())
    (branch : TasBranch) (member : branch ∈ project.branches) : project.Rooted branch := by
  have ancestry := ((validateEditorState_ok sha256 project).mp valid).ancestry branch member
  exact rooted_of_ancestry [] _ branch member nodup_nil (nil_subset _) (by rw [length_nil]; omega)
    ancestry

theorem validateEditorState_without (sha256 : Bytes → TasDigest) (valid : project.validateEditorState sha256 = .ok ())
    (upward : Upward project removed) (active : project.activeBranchId ∉ removed) :
    (project.without removed).validateEditorState sha256 = .ok () := by
  have valid := (validateEditorState_ok sha256 project).mp valid
  obtain ⟨spanCount,branches,few⟩ := valid.branches
  obtain ⟨spanCount',bound,branches'⟩ := validateBranches_without [] 0 spanCount project.branches branches
    [] (List.Subset.refl _) 0 (Nat.le_refl 0)
  have shorter : (project.without removed).branches.length ≤ project.branches.length := length_filter_le _ _
  have activeKept : project.activeBranchId ∈ (project.without removed).branches.map TasBranch.id := by
    obtain ⟨branch,member,same⟩ := mem_map.mp valid.active
    have stays : branch.id ∉ removed := by rwa [same]
    exact mem_map.mpr ⟨branch,mem_filter.mpr ⟨member,decide_eq_true stays⟩,same⟩
  refine (validateEditorState_ok sha256 _).mpr ⟨valid.projectId,valid.identity,valid.startState,valid.replayStart,?_,
    (length_filter_le _ _).trans valid.markerCount,(length_filter_le _ _).trans valid.annotationCount,
    valid.assetCount,valid.comment,⟨spanCount',branches',bound.trans few⟩,activeKept,?_,?_,
    validateMarkers_without [] _ valid.markers [] (List.Subset.refl _),
    validateAnnotations_without [] _ valid.annotations [] (List.Subset.refl _),valid.assets⟩
  · obtain ⟨_,some_⟩ := not_or.mp valid.branchCount
    refine not_or.mpr ⟨fun empty => ?_,by omega⟩
    rw [empty] at activeKept
    exact not_mem_nil activeKept
  · intro branch member
    obtain ⟨member,kept⟩ := mem_filter.mp member
    exact validateParent_without upward branch member (of_decide_eq_true kept) (valid.parents branch member)
  · intro branch member
    obtain ⟨member,kept⟩ := mem_filter.mp member
    exact validateAncestry_without upward [] _ _ (by omega) branch member (of_decide_eq_true kept)
      (valid.ancestry branch member)

end

section
variable {project : TasProject} {branchId : String} (named : branchId ∈ project.branches.map TasBranch.id)
include named

theorem mem_subtree (id : String) : id ∈ project.subtree branchId ↔ project.Descends id branchId := by
  rw [TasProject.subtree,deletedSubtree_eq]
  exact Descent.mem_close _ _ _ _ named id

theorem subtree_nodup : (project.subtree branchId).Nodup := by
  rw [TasProject.subtree,deletedSubtree_eq]
  exact Descent.close_nodup _ _ _ _ named

theorem subtree_upward : Upward project (project.subtree branchId) := by
  intro branch member kept parent linked above
  have climbs := (mem_subtree named _).mp above
  refine kept ((mem_subtree named _).mpr (.head ⟨branch,member,rfl,?_⟩ climbs))
  rw [TasBranch.parentId,linked]
  rfl

end

theorem TasEditorSession.editTransaction_failed (packaging : TasPackaging) (session : TasEditorSession)
    (edit : TasProjectEdit → Except String TasProjectEdit) (message : String)
    (failed : session.project.editTransaction packaging.encoding edit = .error message) :
    (session.editTransaction packaging edit).2 = session := by
  unfold editTransaction transact
  split
  · rfl
  · rw [failed]

namespace TasProjectEdit

theorem deleteBranchSubtree_ok (edit : TasProjectEdit) (branchId : String) (result : Nat × TasProjectEdit) :
    edit.deleteBranchSubtree branchId = .ok result ↔
      (∃ branch, edit.project.branch branchId = some branch ∧ branch.parent.isSome) ∧
        edit.project.activeBranchId ∉ edit.project.subtree branchId ∧
        result = ((edit.project.subtree branchId).length,
          { edit with project := edit.project.without (edit.project.subtree branchId) }) := by
  constructor
  · intro ok
    obtain ⟨branch,found,ok⟩ := bind_ok.mp ok
    obtain ⟨forked,ok⟩ := check_bind_ok.mp ok
    obtain ⟨inactive,ok⟩ := check_bind_ok.mp ok
    exact ⟨⟨branch,context_ok.mp found,ensure_ok.mp forked⟩,ensure_ok.mp inactive,
      (Except.ok.inj ok).symm⟩
  · rintro ⟨⟨branch,found,forked⟩,inactive,rfl⟩
    refine bind_ok.mpr ⟨branch,context_ok.mpr found,?_⟩
    refine check_bind_ok.mpr ⟨ensure_pos forked _,?_⟩
    exact check_bind_ok.mpr ⟨ensure_pos inactive _,rfl⟩

theorem editTransaction_error (encoding : TasEncoding) (project : TasProject)
    (edit : TasProjectEdit → Except String TasProjectEdit) (message : String)
    (valid : project.validate encoding.sha256 = .ok ()) (failed : edit { project := project } = .error message) :
    project.editTransaction encoding edit = .error message := by
  rw [TasProject.editTransaction,valid,ok_bind,failed]
  rfl

/-- Deleting a branch removes the branches that come from it, with their markers and annotations, and leaves a
valid project. A root, and an ancestor of the active branch, cannot be deleted. -/
theorem deleteBranchSubtree_exact (packaging : TasPackaging) (project : TasProject) (branchId : String)
    (valid : project.validate packaging.encoding.sha256 = .ok ()) :
    ((∃ message, deleteBranchSubtree { project := project } branchId = .error message) ↔
      project.branch branchId = none ∨ (∃ branch, project.branch branchId = some branch ∧ branch.parent = none) ∨
        project.Descends project.activeBranchId branchId) ∧
    (∀ message, deleteBranchSubtree { project := project } branchId = .error message →
      project.editTransaction packaging.encoding (fun edit => (edit.deleteBranchSubtree branchId).map Prod.snd) =
        .error message ∧
      ∀ session : TasEditorSession, session.project = project →
        (session.editTransaction packaging (fun edit => (edit.deleteBranchSubtree branchId).map Prod.snd)).2 = session) ∧
    ∀ count edited, deleteBranchSubtree { project := project } branchId = .ok (count,edited) → ∃ removed : List String,
      removed.Nodup ∧ (∀ id, id ∈ removed ↔ project.Descends id branchId) ∧ count = removed.length ∧
        edited.project = project.without removed ∧
        edited.project.validateEditorState packaging.encoding.sha256 = .ok () ∧
        ∀ branch ∈ edited.project.branches, edited.project.Rooted branch := by
  obtain ⟨editable,_⟩ := check_bind_ok.mp valid
  have named (branch : TasBranch) (found : project.branch branchId = some branch) :
      branchId ∈ project.branches.map TasBranch.id :=
    mem_map.mpr ⟨branch,List.mem_of_find?_eq_some found,branch_id project branchId branch found⟩
  refine ⟨?_,?_,?_⟩
  · constructor
    · rintro ⟨message,failed⟩
      by_contra passes
      obtain ⟨known,passes⟩ := not_or.mp passes
      obtain ⟨forked,inactive⟩ := not_or.mp passes
      obtain ⟨branch,found⟩ := Option.ne_none_iff_exists'.mp known
      have deletes := (deleteBranchSubtree_ok { project := project } branchId _).mpr
        ⟨⟨branch,found,Option.isSome_iff_ne_none.mpr fun root => forked ⟨branch,found,root⟩⟩,
          fun member => inactive ((mem_subtree (named branch found) _).mp member),rfl⟩
      rw [failed] at deletes
      exact absurd deletes (by simp)
    · intro refused
      cases result : deleteBranchSubtree { project := project } branchId with
      | error message => exact ⟨message,rfl⟩
      | ok pair =>
        obtain ⟨⟨branch,found,forked⟩,inactive,_⟩ := (deleteBranchSubtree_ok _ _ _).mp result
        rcases refused with unknown | ⟨root,same,top⟩ | active
        · rw [unknown] at found
          exact absurd found (by simp)
        · rw [same] at found
          cases found
          rw [top] at forked
          exact absurd forked (by simp)
        · exact absurd ((mem_subtree (named branch found) _).mpr active) inactive
  · intro message failed
    have transaction := editTransaction_error packaging.encoding project
      (fun edit => (edit.deleteBranchSubtree branchId).map Prod.snd) message valid (by rw [failed]; rfl)
    refine ⟨transaction,?_⟩
    rintro session rfl
    exact TasEditorSession.editTransaction_failed packaging session _ message transaction
  · intro count edited deleted
    obtain ⟨⟨branch,found,_⟩,inactive,result⟩ := (deleteBranchSubtree_ok _ _ _).mp deleted
    obtain ⟨rfl,rfl⟩ := Prod.mk.inj result
    have member := named branch found
    have remains := validateEditorState_without packaging.encoding.sha256 editable (subtree_upward member) inactive
    exact ⟨_,subtree_nodup member,mem_subtree member,rfl,rfl,remains,
      rooted_of_valid packaging.encoding.sha256 remains⟩

def forkedProject : TasProject := { smallProject with
  branches := [smallMovie,{ smallMovie with id := "nested", parent := some ⟨"fork",emptyDigest,3⟩ },
    { smallMovie with id := "fork", parent := some ⟨"main",emptyDigest,2⟩ }]
  markers := [⟨"a","main",1,"start"⟩,⟨"b","nested",2,"trick"⟩] }

theorem deleteBranchSubtree_exact_forked : ∃ edited,
    deleteBranchSubtree { project := forkedProject } "fork" = .ok (2,edited) ∧ edited.project.branches = [smallMovie] ∧
      edited.project.markers = [⟨"a","main",1,"start"⟩] ∧ edited.project.Rooted smallMovie := by
  have valid : forkedProject.validate smallEncoding.sha256 = .ok () := by decide +kernel
  obtain ⟨_,_,deletes⟩ := deleteBranchSubtree_exact ⟨smallEncoding,fun _ => [],fun _ => .ok [],fun _ => .error ""⟩
    forkedProject "fork" valid
  have ok : deleteBranchSubtree { project := forkedProject } "fork" = .ok (2,⟨forkedProject.without ["nested","fork"],
    fun _ => none⟩) := rfl
  obtain ⟨_,_,_,_,_,_,rooted⟩ := deletes _ _ ok
  have left : (forkedProject.without ["nested","fork"]).branches = [smallMovie] := by decide
  exact ⟨_,ok,left,by decide,rooted smallMovie (by rw [left]; exact mem_singleton_self _)⟩

end TasProjectEdit

end ZeffBoy.Tas
