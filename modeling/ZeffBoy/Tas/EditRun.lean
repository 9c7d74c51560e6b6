import ZeffBoy.Library.Transition
import ZeffBoy.Tas.Transaction

/-! Runs of operations inside a transaction.
A run remembers for each fork the branch it was taken from. No operation touches the
identity of a project, and only a fork adds a branch. -/
namespace ZeffBoy.Tas
open Library Replay List

/-- A project under edit with the branches its forks were taken from. -/
structure EditTrace where
  edit : TasProjectEdit
  sources : String → Option TasBranch := fun _ => none

/-- What a failed operation may leave behind when its caller goes on: the branches in place with other
movies, and other markers and annotations. -/
def Abandoned (before left : TasProjectEdit) : Prop :=
  ∃ branches markers annotations,
    left.project = { before.project with branches := branches, markers := markers, annotations := annotations } ∧
    List.Forall₂ (fun old new : TasBranch => ∃ frameCount inputSpans events, new =
      { old with frameCount := frameCount, inputSpans := inputSpans, events := events }) before.project.branches branches

def TasOperation.sources (trace : EditTrace) : TasOperation → String → Option TasBranch
  | .forkBranch sourceBranchId _ newBranchId _ =>
    fun id => if id = newBranchId then trace.edit.project.branch sourceBranchId else trace.sources id
  | _ => trace.sources

inductive EditStep (encoding : TasEncoding) : EditTrace → EditTrace → Prop
  | performed (trace : EditTrace) (operation : TasOperation) (next : TasProjectEdit)
      (ok : operation.perform encoding trace.edit = .ok next) : EditStep encoding trace ⟨next,operation.sources trace⟩
  | abandoned (trace : EditTrace) (operation : TasOperation) (message : String) (left : TasProjectEdit)
      (failed : operation.perform encoding trace.edit = .error message) (leaves : Abandoned trace.edit left) :
      EditStep encoding trace ⟨left,trace.sources⟩

/-- The parts of a project that operations other than forks keep. -/
structure Framed (before next : TasProject) : Prop where
  identity : next.identity = before.identity
  startState : next.startState = before.startState
  replayStart : next.replayStart = before.replayStart
  editGeneration : next.editGeneration = before.editGeneration
  rerecordCount : next.rerecordCount = before.rerecordCount
  descends : ∀ branch ∈ next.branches, ∃ old ∈ before.branches, old.id = branch.id ∧ old.parent = branch.parent

theorem Framed.of_branches (before next : TasProject)
    (same : next.identity = before.identity ∧ next.startState = before.startState ∧ next.replayStart = before.replayStart ∧
      next.editGeneration = before.editGeneration ∧ next.rerecordCount = before.rerecordCount)
    (subset : next.branches ⊆ before.branches) : Framed before next :=
  ⟨same.1,same.2.1,same.2.2.1,same.2.2.2.1,same.2.2.2.2,fun branch member => ⟨branch,subset member,rfl,rfl⟩⟩

theorem Framed.trans {first second third : TasProject} (left : Framed first second) (right : Framed second third) :
    Framed first third := by
  refine ⟨right.identity.trans left.identity,right.startState.trans left.startState,
    right.replayStart.trans left.replayStart,right.editGeneration.trans left.editGeneration,
    right.rerecordCount.trans left.rerecordCount,?_⟩
  intro branch member
  obtain ⟨middle,inside,id,parent⟩ := right.descends branch member
  obtain ⟨old,found,oldId,oldParent⟩ := left.descends middle inside
  exact ⟨old,found,oldId.trans id,oldParent.trans parent⟩

section Reworks

/-- An edit that puts another branch in the place of one, with its identifier and parent and other frames. -/
def Reworks (edit next : TasProjectEdit) (branchId : String) (frames : Nat → Nat) : Prop :=
  ∃ index changed markers annotations, edit.branchIndex branchId = .ok index ∧
    next.project = { edit.project with
      branches := edit.project.branches.set index changed, markers := markers, annotations := annotations } ∧
    changed.id = (edit.project.branches.get index).id ∧ changed.parent = (edit.project.branches.get index).parent ∧
    changed.frameCount = frames (edit.project.branches.get index).frameCount

variable {edit next : TasProjectEdit} {branchId : String}

theorem Reworks.framed {frames : Nat → Nat} (reworks : Reworks edit next branchId frames) :
    Framed edit.project next.project := by
  obtain ⟨index,changed,_,_,_,project,id,parent,_⟩ := reworks
  rw [project]
  refine ⟨rfl,rfl,rfl,rfl,rfl,?_⟩
  intro branch member
  rcases mem_or_eq_of_mem_set member with old | rfl
  · exact ⟨branch,old,rfl,rfl⟩
  · exact ⟨_,get_mem _ _,id.symm,parent.symm⟩

theorem insertFrames_reworks {cursor count : Nat} (ok : edit.insertFrames branchId cursor count = .ok next) :
    Reworks edit next branchId (· + count) := by
  obtain ⟨_,ok⟩ := check_bind_ok.mp ok
  obtain ⟨index,indexed,ok⟩ := bind_ok.mp ok
  obtain ⟨_,ok⟩ := check_bind_ok.mp ok
  obtain ⟨total,summed,ok⟩ := bind_ok.mp ok
  obtain ⟨_,ok⟩ := check_bind_ok.mp ok
  obtain ⟨_,_,ok⟩ := bind_ok.mp ok
  obtain ⟨_,_,ok⟩ := bind_ok.mp ok
  obtain ⟨_,_,ok⟩ := bind_ok.mp ok
  obtain ⟨_,_,ok⟩ := bind_ok.mp ok
  obtain rfl := Except.ok.inj ok
  obtain ⟨_,rfl⟩ := checkedAdd_ok.mp summed
  exact ⟨index,_,_,_,indexed,rfl,rfl,rfl,rfl⟩

theorem deleteFrames_reworks {start count : Nat} (ok : edit.deleteFrames branchId start count = .ok next) :
    Reworks edit next branchId (· - count) := by
  obtain ⟨_,ok⟩ := check_bind_ok.mp ok
  obtain ⟨_,_,ok⟩ := bind_ok.mp ok
  obtain ⟨index,indexed,ok⟩ := bind_ok.mp ok
  obtain ⟨_,ok⟩ := check_bind_ok.mp ok
  obtain ⟨_,_,ok⟩ := bind_ok.mp ok
  obtain ⟨_,_,ok⟩ := bind_ok.mp ok
  obtain ⟨total,taken,ok⟩ := bind_ok.mp ok
  obtain ⟨_,_,ok⟩ := bind_ok.mp ok
  obtain ⟨_,_,ok⟩ := bind_ok.mp ok
  obtain rfl := Except.ok.inj ok
  obtain ⟨_,rfl⟩ := checkedSub_ok.mp taken
  exact ⟨index,_,_,_,indexed,rfl,rfl,rfl,rfl⟩

theorem onBranch_reworks (change : TasBranch → Except String TasBranch)
    (keeps : ∀ branch changed, change branch = .ok changed →
      changed.id = branch.id ∧ changed.parent = branch.parent ∧ changed.frameCount = branch.frameCount)
    (ok : edit.onBranch branchId change = .ok next) : Reworks edit next branchId id := by
  obtain ⟨index,indexed,ok⟩ := bind_ok.mp ok
  obtain ⟨changed,done,ok⟩ := bind_ok.mp ok
  obtain rfl := Except.ok.inj ok
  exact ⟨index,changed,_,_,indexed,rfl,keeps _ _ done⟩

theorem replaceBranchInputPattern_keeps (branch changed : TasBranch) (start : Nat) (pattern : TasInputPattern)
    (ok : replaceBranchInputPattern branch start pattern = .ok changed) :
    changed.id = branch.id ∧ changed.parent = branch.parent ∧ changed.frameCount = branch.frameCount := by
  obtain ⟨_,_,ok⟩ := bind_ok.mp ok
  obtain ⟨_,ok⟩ := check_bind_ok.mp ok
  obtain ⟨_,_,ok⟩ := bind_ok.mp ok
  obtain ⟨_,_,ok⟩ := bind_ok.mp ok
  obtain ⟨_,_,ok⟩ := bind_ok.mp ok
  obtain ⟨_,_,ok⟩ := bind_ok.mp ok
  obtain ⟨_,_,ok⟩ := bind_ok.mp ok
  obtain rfl := Except.ok.inj ok
  exact ⟨rfl,rfl,rfl⟩

theorem replaceInputPattern_reworks {start : Nat} {pattern : TasInputPattern}
    (ok : edit.replaceInputPattern branchId start pattern = .ok next) : Reworks edit next branchId id :=
  onBranch_reworks _ (fun branch changed done => replaceBranchInputPattern_keeps branch changed start pattern done) ok

theorem setInputRange_reworks {start length : Nat} {input : TasInputFrame}
    (ok : edit.setInputRange branchId start length input = .ok next) : Reworks edit next branchId id := by
  obtain ⟨pattern,_,ok⟩ := bind_ok.mp ok
  exact replaceInputPattern_reworks ok

theorem replaceBranchEvents_reworks {events : List ReplayEvent} (ok : edit.replaceBranchEvents branchId events = .ok next) :
    Reworks edit next branchId id := by
  obtain ⟨_,_,ok⟩ := bind_ok.mp ok
  obtain ⟨_,_,ok⟩ := bind_ok.mp ok
  refine onBranch_reworks _ ?_ ok
  intro branch changed done
  obtain rfl := Except.ok.inj done
  exact ⟨rfl,rfl,rfl⟩

theorem insertInputPatternWithEvents_steps {cursor : Nat} {pattern : TasInputPattern} {relativeEvents : List ReplayEvent}
    (ok : edit.insertInputPatternWithEvents branchId cursor pattern relativeEvents = .ok next) :
    ∃ longer filled, Reworks edit longer branchId (· + pattern.length) ∧ Reworks longer filled branchId id ∧
      Reworks filled next branchId id := by
  obtain ⟨_,ok⟩ := check_bind_ok.mp ok
  obtain ⟨longer,inserted,ok⟩ := bind_ok.mp ok
  obtain ⟨filled,replaced,ok⟩ := bind_ok.mp ok
  obtain ⟨_,_,ok⟩ := bind_ok.mp ok
  obtain ⟨_,_,ok⟩ := bind_ok.mp ok
  exact ⟨longer,filled,insertFrames_reworks inserted,replaceInputPattern_reworks replaced,replaceBranchEvents_reworks ok⟩

end Reworks

theorem perform_framed (encoding : TasEncoding) (operation : TasOperation) (edit next : TasProjectEdit)
    (ok : operation.perform encoding edit = .ok next) :
    (∃ source forkCursor id name, operation = .forkBranch source forkCursor id name) ∨
      Framed edit.project next.project := by
  cases operation with
  | forkBranch source forkCursor id name => exact .inl ⟨source,forkCursor,id,name,rfl⟩
  | setActiveBranch branchId =>
    obtain ⟨_,ok⟩ := check_bind_ok.mp ok
    obtain rfl := Except.ok.inj ok
    exact .inr (.of_branches _ _ ⟨rfl,rfl,rfl,rfl,rfl⟩ (List.Subset.refl _))
  | deleteBranchSubtree branchId =>
    obtain ⟨⟨count,_⟩,deleted,rfl⟩ := map_eq_ok.mp ok
    obtain ⟨_,_,deleted⟩ := bind_ok.mp deleted
    obtain ⟨_,deleted⟩ := check_bind_ok.mp deleted
    obtain ⟨_,deleted⟩ := check_bind_ok.mp deleted
    obtain ⟨_,rfl⟩ := Prod.mk.inj (Except.ok.inj deleted)
    exact .inr (.of_branches _ _ ⟨rfl,rfl,rfl,rfl,rfl⟩ (filter_subset_self _))
  | setProjectComment comment =>
    obtain rfl := Except.ok.inj ok
    exact .inr (.of_branches _ _ ⟨rfl,rfl,rfl,rfl,rfl⟩ (List.Subset.refl _))
  | renameBranch branchId name =>
    refine .inr (Reworks.framed (onBranch_reworks (fun branch => .ok { branch with name := name }) ?_ ok))
    intro branch changed done
    obtain rfl := Except.ok.inj done
    exact ⟨rfl,rfl,rfl⟩
  | setBranchComment branchId comment =>
    refine .inr (Reworks.framed (onBranch_reworks (fun branch => .ok { branch with comment := comment }) ?_ ok))
    intro branch changed done
    obtain rfl := Except.ok.inj done
    exact ⟨rfl,rfl,rfl⟩
  | replaceMarkers markers =>
    obtain rfl := Except.ok.inj ok
    exact .inr (.of_branches _ _ ⟨rfl,rfl,rfl,rfl,rfl⟩ (List.Subset.refl _))
  | replaceAnnotations annotations =>
    obtain rfl := Except.ok.inj ok
    exact .inr (.of_branches _ _ ⟨rfl,rfl,rfl,rfl,rfl⟩ (List.Subset.refl _))
  | insertCameraAsset bytes =>
    obtain rfl := Except.ok.inj ok
    exact .inr (.of_branches _ _ ⟨rfl,rfl,rfl,rfl,rfl⟩ (List.Subset.refl _))
  | removeCameraAsset digest =>
    obtain rfl := Except.ok.inj ok
    exact .inr (.of_branches _ _ ⟨rfl,rfl,rfl,rfl,rfl⟩ (List.Subset.refl _))
  | insertFrames branchId cursor count => exact .inr (insertFrames_reworks ok).framed
  | deleteFrames branchId start count => exact .inr (deleteFrames_reworks ok).framed
  | setInputRange branchId start length input => exact .inr (setInputRange_reworks ok).framed
  | replaceInputPattern branchId start pattern => exact .inr (replaceInputPattern_reworks ok).framed
  | insertInputPatternWithEvents branchId cursor pattern events =>
    obtain ⟨longer,filled,inserted,replaced,ended⟩ := insertInputPatternWithEvents_steps ok
    exact .inr ((inserted.framed.trans replaced.framed).trans ended.framed)
  | replaceBranchEvents branchId events => exact .inr (replaceBranchEvents_reworks ok).framed

theorem abandoned_framed (before left : TasProjectEdit) (leaves : Abandoned before left) :
    Framed before.project left.project := by
  obtain ⟨branches,markers,annotations,project,moved⟩ := leaves
  rw [project]
  refine ⟨rfl,rfl,rfl,rfl,rfl,?_⟩
  clear project
  dsimp only
  generalize before.project.branches = olds at moved ⊢
  intro branch member
  induction moved with
  | nil => simp at member
  | @cons old new olds news pair _ ih =>
    rcases mem_cons.mp member with rfl | later
    · obtain ⟨_,_,_,rfl⟩ := pair
      exact ⟨old,mem_cons_self,rfl,rfl⟩
    · obtain ⟨found,inside,same⟩ := ih later
      exact ⟨found,mem_cons_of_mem old inside,same⟩

def Records (encoding : TasEncoding) (project : TasProject) (origin : TasBranchOrigin) (source : TasBranch) : Prop :=
  ∃ syncIdentity, encoding.syncIdentitySha256FromValidated project = .ok syncIdentity ∧
    encoding.hashCompleteBranch syncIdentity source = .ok origin.branchMovieSha256

/-- What a run keeps: the frame of the project it began with, and the movie of every fork it made. -/
structure Traced (encoding : TasEncoding) (project : TasProject) (trace : EditTrace) : Prop where
  identity : trace.edit.project.identity = project.identity
  startState : trace.edit.project.startState = project.startState
  replayStart : trace.edit.project.replayStart = project.replayStart
  editGeneration : trace.edit.project.editGeneration = project.editGeneration
  rerecordCount : trace.edit.project.rerecordCount = project.rerecordCount
  forks : ∀ branch ∈ trace.edit.project.branches, project.branch branch.id = none →
    ∃ source origin, trace.sources branch.id = some source ∧ branch.parent = some origin ∧
      (∃ holder : TasProject, holder.validate encoding.sha256 = .ok () ∧ source ∈ holder.branches) ∧
      Records encoding project origin source

theorem Traced.framed {encoding : TasEncoding} {project : TasProject} {trace : EditTrace}
    (traced : Traced encoding project trace) (next : TasProjectEdit) (framed : Framed trace.edit.project next.project) :
    Traced encoding project ⟨next,trace.sources⟩ := by
  refine ⟨framed.identity.trans traced.identity,framed.startState.trans traced.startState,
    framed.replayStart.trans traced.replayStart,framed.editGeneration.trans traced.editGeneration,
    framed.rerecordCount.trans traced.rerecordCount,?_⟩
  intro branch member created
  obtain ⟨old,inside,id,parent⟩ := framed.descends branch member
  rw [← id] at created ⊢
  obtain ⟨source,origin,recorded,from_,kept⟩ := traced.forks old inside created
  exact ⟨source,origin,recorded,parent ▸ from_,kept⟩

theorem syncIdentity_framed (encoding : TasEncoding) (left right : TasProject) (identity : left.identity = right.identity)
    (replayStart : left.replayStart = right.replayStart) :
    encoding.syncIdentitySha256FromValidated left = encoding.syncIdentitySha256FromValidated right := by
  rw [TasEncoding.syncIdentitySha256FromValidated,TasEncoding.syncIdentitySha256FromValidated,identity,replayStart]

theorem traced_fork (encoding : TasEncoding) (project : TasProject) (trace : EditTrace)
    (traced : Traced encoding project trace) (sourceBranchId : String) (forkCursor : Nat) (newBranchId name : String)
    (next : TasProjectEdit) (ok : trace.edit.forkBranch encoding sourceBranchId forkCursor newBranchId name = .ok next) :
    Traced encoding project ⟨next,(TasOperation.forkBranch sourceBranchId forkCursor newBranchId name).sources trace⟩ := by
  obtain ⟨fresh,ok⟩ := check_bind_ok.mp ok
  obtain ⟨source,found,ok⟩ := bind_ok.mp ok
  obtain ⟨_,ok⟩ := check_bind_ok.mp ok
  obtain ⟨sourceHash,hashed,ok⟩ := bind_ok.mp ok
  obtain rfl := Except.ok.inj ok
  have absent := Option.isNone_iff_eq_none.mp (ensure_ok.mp fresh)
  have present := context_ok.mp found
  obtain ⟨valid,hashed⟩ := check_bind_ok.mp hashed
  obtain ⟨again,same,hashed⟩ := bind_ok.mp hashed
  obtain rfl : source = again := Option.some.inj (present.symm.trans (context_ok.mp same))
  obtain ⟨syncIdentity,synced,hashed⟩ := bind_ok.mp hashed
  rw [syncIdentity_framed encoding _ project traced.identity traced.replayStart] at synced
  refine ⟨traced.identity,traced.startState,traced.replayStart,traced.editGeneration,traced.rerecordCount,?_⟩
  intro branch member created
  rcases mem_append.mp member with old | new
  · have other : branch.id ≠ newBranchId := by
      intro same
      have missed := List.find?_eq_none.mp absent branch old
      simp [same] at missed
    simp only [TasOperation.sources,if_neg other]
    exact traced.forks branch old created
  · obtain rfl := mem_singleton.mp new
    refine ⟨source,_,?_,rfl,⟨trace.edit.project,valid,List.mem_of_find?_eq_some present⟩,
      syncIdentity,synced,hashed⟩
    simp only [TasOperation.sources,if_true]
    exact present

theorem sources_framed (operation : TasOperation) (trace : EditTrace)
    (other : ∀ source forkCursor id name, operation ≠ .forkBranch source forkCursor id name) :
    operation.sources trace = trace.sources := by
  cases operation with
  | forkBranch source forkCursor id name => exact absurd rfl (other source forkCursor id name)
  | _ => rfl

theorem traced_step (encoding : TasEncoding) (project : TasProject) (before after : EditTrace)
    (traced : Traced encoding project before) (step : EditStep encoding before after) : Traced encoding project after := by
  cases step with
  | performed operation next ok =>
    by_cases fork : ∃ source forkCursor id name, operation = .forkBranch source forkCursor id name
    · obtain ⟨source,forkCursor,id,name,rfl⟩ := fork
      exact traced_fork encoding project before traced source forkCursor id name next ok
    · rw [sources_framed operation before (fun source forkCursor id name same => fork ⟨source,forkCursor,id,name,same⟩)]
      exact traced.framed next ((perform_framed encoding operation before.edit next ok).resolve_left fork)
  | abandoned operation message left failed leaves => exact traced.framed left (abandoned_framed before.edit left leaves)

theorem traced_run (encoding : TasEncoding) (project : TasProject) (trace : EditTrace)
    (run : Relation.ReflTransGen (EditStep encoding) ⟨{ project := project },fun _ => none⟩ trace) :
    Traced encoding project trace := by
  refine invariant_of_run ?_ (traced_step encoding project) run
  refine ⟨rfl,rfl,rfl,rfl,rfl,fun branch member created => ?_⟩
  have missed := List.find?_eq_none.mp created branch member
  simp at missed

end ZeffBoy.Tas
