import ZeffBoy.Library.SpanPrefix
import ZeffBoy.Replay.EventExact
import ZeffBoy.Tas.EditRun
import ZeffBoy.Tas.TimelineEdits

/-! Edit impacts bound what an edit can change.
In front of the reported cursor both movies have the same inputs and events, so
whatever is derived from that part of a movie stays valid. -/
namespace ZeffBoy.Tas
open Library Replay List

theorem inputAndNextBoundary_reads (spans : List TasInputSpan) (cursor frameCount : Nat) :
    (∀ frame, cursor ≤ frame → frame < (inputAndNextBoundary spans cursor frameCount).2.2 →
      Spans.valueAt {} spans frame = (inputAndNextBoundary spans cursor frameCount).2.1) ∧
    ∀ frame, cursor ≤ frame →
      Spans.valueAt {} (inputAndNextBoundary spans cursor frameCount).1 frame = Spans.valueAt {} spans frame := by
  have same : ∀ frame, cursor ≤ frame → Spans.valueAt {} spans frame =
      Spans.valueAt {} (spans.dropWhile (fun span => span.start + span.length ≤ cursor)) frame :=
    fun frame later => (Spans.valueAt_dropWhile spans cursor frame later).symm
  unfold inputAndNextBoundary
  split
  · rename_i dropped
    rw [dropped] at same
    exact ⟨fun frame later _ => same frame later,fun frame later => (same frame later).symm⟩
  · rename_i span rest dropped
    rw [dropped] at same
    split
    · rename_i begun
      refine ⟨fun frame later before => ?_,fun frame later => (same frame later).symm⟩
      rw [same frame later]
      exact Spans.valueAt_cons_covers span rest frame ⟨begun.trans later,before⟩
    · refine ⟨fun frame later before => ?_,fun frame later => (same frame later).symm⟩
      rw [same frame later]
      exact Spans.valueAt_cons_before span rest frame (lt_of_lt_of_le before (min_le_left _ _))

theorem inputDifferenceFrom_first (before after : List TasInputSpan) (cursor frameCount : Nat) :
    (∀ found, inputDifferenceFrom before after cursor frameCount = some found → found < frameCount) ∧
    ∀ frame, cursor ≤ frame → frame < (inputDifferenceFrom before after cursor frameCount).getD frameCount →
      Spans.valueAt {} before frame = Spans.valueAt {} after frame := by
  induction before,after,cursor using inputDifferenceFrom.induct frameCount with
  | case1 before after cursor inside left right differ =>
    rw [inputDifferenceFrom,dif_pos inside,if_pos differ]
    refine ⟨fun found same => Option.some.inj same ▸ inside,fun frame later before => ?_⟩
    simp only [Option.getD_some] at before
    omega
  | case2 before after cursor inside left right alike ih =>
    rw [inputDifferenceFrom,dif_pos inside,if_neg alike]
    refine ⟨ih.1,fun frame later before_ => ?_⟩
    obtain ⟨readLeft,restLeft⟩ := inputAndNextBoundary_reads before cursor frameCount
    obtain ⟨readRight,restRight⟩ := inputAndNextBoundary_reads after cursor frameCount
    rcases lt_or_ge frame (min left.2.2 right.2.2) with near | far
    · rw [readLeft frame later (lt_of_lt_of_le near (min_le_left _ _)),
        readRight frame later (lt_of_lt_of_le near (min_le_right _ _))]
      exact not_not.mp alike
    · rw [← restLeft frame later,← restRight frame later]
      exact ih.2 frame far before_
  | case3 before after cursor beyond =>
    rw [inputDifferenceFrom,dif_neg beyond]
    refine ⟨by simp,fun frame later before => ?_⟩
    simp only [Option.getD_none] at before
    omega

theorem earliestInputDifference_first (before after : TasBranch) (frame : Nat)
    (front : frame < (earliestInputDifference before after).getD (min before.frameCount after.frameCount)) :
    Spans.valueAt {} before.inputSpans frame = Spans.valueAt {} after.inputSpans frame :=
  (inputDifferenceFrom_first before.inputSpans after.inputSpans 0 _).2 frame zero_le front

def framesBelow (events : List ReplayEvent) (cursor : Nat) : List ReplayEvent :=
  events.filter (fun event => event.frame.toNat < cursor)

theorem frame_le_of_canonical (first event : ReplayEvent) (events : List ReplayEvent)
    (canonical : ReplayEvent.Canonical (first::events)) (member : event ∈ first::events) :
    first.frame.toNat ≤ event.frame.toNat := by
  rcases mem_cons.mp member with rfl | later
  · exact le_rfl
  · have keys := (ReplayEvent.canonicalCmp_ne_gt _ _).mp ((pairwise_cons.mp canonical).1 event later)
    rcases Prod.Lex.le_iff.mp keys with lower | ⟨same,_⟩
    · exact le_of_lt lower
    · exact le_of_eq same

theorem framesBelow_nil (first : ReplayEvent) (events : List ReplayEvent) (cursor : Nat)
    (canonical : ReplayEvent.Canonical (first::events)) (front : cursor ≤ first.frame.toNat) :
    framesBelow (first::events) cursor = [] := by
  rw [framesBelow,filter_eq_nil_iff]
  intro event member
  have behind := frame_le_of_canonical first event events canonical member
  simp only [decide_eq_true_eq]
  omega

theorem earliestEventDifference_cons (event : ReplayEvent) (before after : List ReplayEvent) :
    earliestEventDifference (event::before) (event::after) = earliestEventDifference before after := by
  simp [earliestEventDifference]

theorem earliestEventDifference_first (before after : List ReplayEvent) (cursor : Nat)
    (canonicalBefore : ReplayEvent.Canonical before) (canonicalAfter : ReplayEvent.Canonical after)
    (different : before ≠ after) (front : cursor ≤ earliestEventDifference before after) :
    framesBelow before cursor = framesBelow after cursor := by
  induction before generalizing after with
  | nil =>
    cases after with
    | nil => rfl
    | cons event after => rw [framesBelow_nil event after cursor canonicalAfter front]; rfl
  | cons first before ih =>
    cases after with
    | nil => rw [framesBelow_nil first before cursor canonicalBefore front]; rfl
    | cons second after =>
      by_cases same : first = second
      · subst same
        rw [earliestEventDifference_cons] at front
        have rest := ih after (pairwise_cons.mp canonicalBefore).2 (pairwise_cons.mp canonicalAfter).2
          (fun alike => different (by rw [alike])) front
        simp only [framesBelow,filter_cons] at rest ⊢
        rw [rest]
      · have frames : earliestEventDifference (first::before) (second::after) =
            min first.frame.toNat second.frame.toNat := by
          simp [earliestEventDifference,same]
        rw [frames] at front
        rw [framesBelow_nil first before cursor canonicalBefore (front.trans (min_le_left _ _)),
          framesBelow_nil second after cursor canonicalAfter (front.trans (min_le_right _ _))]

/-- What the validation of a project says about the movie of a branch. -/
structure ValidMovie (branch : TasBranch) : Prop where
  word : branch.frameCount < 2^64
  spans : Spans.Canonical {} branch.inputSpans
  inside : ∀ span ∈ branch.inputSpans, span.stop ≤ branch.frameCount
  canonical : ReplayEvent.Canonical branch.events
  reached : ∀ event ∈ branch.events, event.frame.toNat ≤ branch.frameCount
  encoded : ∃ eventBytes, encodeReplayEventStream branch.events = .ok eventBytes ∧
    encodeCanonicalReplayEventStream branch.events = .ok eventBytes ∧
    decodeReplayEventStream eventBytes = .ok branch.events

theorem validMovie_of_valid (sha256 : Bytes → TasDigest) (project : TasProject)
    (valid : project.validateEditorState sha256 = .ok ()) (branch : TasBranch) (member : branch ∈ project.branches) :
    ValidMovie branch := by
  obtain ⟨_,branches,_⟩ := ((validateEditorState_ok sha256 project).mp valid).branches
  obtain ⟨limit,movie⟩ := validateBranches_ok project [] 0 _ _ branches branch member
  obtain ⟨spans,kept⟩ := validateBranchMovie_ok project branch movie
  obtain ⟨_,movie⟩ := check_bind_ok.mp movie
  obtain ⟨eventBytes,encoded,movie⟩ := bind_ok.mp movie
  obtain ⟨decoded,read,movie⟩ := bind_ok.mp movie
  obtain ⟨same,_⟩ := check_bind_ok.mp movie
  obtain rfl := ensure_ok.mp same
  obtain ⟨canonicalSpans,inside⟩ := (validateInputSpans_ok branch (word_of_limit limit) _).mp spans
  refine ⟨word_of_limit limit,canonicalSpans,fun span inner => (inside span inner).2,kept.canonical,?_,eventBytes,encoded,?_,read⟩
  · exact fun event inner => frame_le_of_inside event _ (word_of_limit limit) (kept.inside event inner)
  · exact (EventStream.encodeCanonical_ok _ _).mpr (EventStream.decodeReplayEventStream_ok _ _ read)

theorem eventsBefore_false (branch : TasBranch) (cursor : Nat) :
    eventsBefore branch cursor false = framesBelow branch.events cursor := by
  simp [eventsBefore,framesBelow]

theorem earliestBranchMovieDifference_first (before after : TasBranch) (validBefore : ValidMovie before)
    (validAfter : ValidMovie after) (cursor : Nat) (front : cursor ≤ (earliestBranchMovieDifference before after).getD 0)
    (insideBefore : cursor ≤ before.frameCount) (insideAfter : cursor ≤ after.frameCount) :
    clippedSpans before cursor = clippedSpans after cursor ∧
      eventsBefore before cursor false = eventsBefore after cursor false := by
  have inputs : cursor ≤ (earliestInputDifference before after).getD (min before.frameCount after.frameCount) := by
    unfold earliestBranchMovieDifference at front
    cases input : earliestInputDifference before after with
    | none => exact Nat.le_min.mpr ⟨insideBefore,insideAfter⟩
    | some found =>
      rw [input] at front
      by_cases different : before.events ≠ after.events
      · rw [if_pos different] at front
        exact front.trans (min_le_left _ _)
      · rw [if_neg different] at front
        exact front
  have events : before.events ≠ after.events → cursor ≤ earliestEventDifference before.events after.events := by
    intro different
    unfold earliestBranchMovieDifference at front
    rw [if_pos different] at front
    cases input : earliestInputDifference before after with
    | none =>
      rw [input] at front
      exact front
    | some found =>
      rw [input] at front
      exact front.trans (min_le_right _ _)
  constructor
  · refine Spans.clipAll_eq cursor _ _ validBefore.spans validAfter.spans ?_
    exact fun frame earlier => earliestInputDifference_first before after frame (lt_of_lt_of_le earlier inputs)
  · rw [eventsBefore_false,eventsBefore_false]
    by_cases same : before.events = after.events
    · rw [same]
    · exact earliestEventDifference_first _ _ cursor validBefore.canonical validAfter.canonical same (events same)

theorem hashBranch_whole (encoding : TasEncoding) (syncIdentity : TasDigest) (branch : TasBranch)
    (valid : ValidMovie branch) : encoding.hashBranch syncIdentity branch branch.frameCount true =
      encoding.hashCompleteBranch syncIdentity branch := by
  have spans : clippedSpans branch branch.frameCount = branch.inputSpans :=
    Spans.clipAll_whole
      (fun span member => ⟨(valid.spans.active span member).1,valid.inside span member⟩)
  have events : eventsBefore branch branch.frameCount true = branch.events := by
    rw [eventsBefore,filter_eq_self]
    intro event member
    simpa [← Nat.le_iff_lt_or_eq] using valid.reached event member
  obtain ⟨eventBytes,encoded,canonical,_⟩ := valid.encoded
  rw [TasEncoding.hashBranch,spans,events,encoded,TasEncoding.hashCompleteBranch,canonical]

theorem leBytes_mod (width value : Nat) : leBytes width value = leBytes width (value % 256^width) := by
  induction width generalizing value with
  | zero => rfl
  | succ width ih =>
    have digit : UInt8.ofNat value = UInt8.ofNat (value % 256^(width + 1)) := by
      apply UInt8.toNat_inj.mp
      rw [UInt8.toNat_ofNat',UInt8.toNat_ofNat',Nat.mod_mod_of_dvd _ (Dvd.intro_left _ (Nat.pow_succ ..).symm)]
    have rest : value % 256^(width + 1) / 256 = value / 256 % 256^width := by
      rw [Nat.pow_succ,mul_comm,Nat.mod_mul_right_div_self]
    rw [leBytes,leBytes,digit,rest,ih]

theorem leBytes_injective (width left right : Nat) (same : leBytes width left = leBytes width right) :
    left % 256^width = right % 256^width := by
  have bound (value : Nat) : value % 256^width < 256^width := Nat.mod_lt _ (Nat.pow_pos (by decide))
  rw [leBytes_mod width left,leBytes_mod width right] at same
  rw [← leValue_leBytes width _ (bound left),same,leValue_leBytes width _ (bound right)]

theorem branchBytes_injective (syncIdentity : TasDigest) (frames frames' : Nat) (inputs inputs' events events' : Bytes)
    (word : frames < 2^64) (word' : frames' < 2^64) (short : events.length < 2^64) (short' : events'.length < 2^64)
    (same : branchBytes syncIdentity frames inputs events = branchBytes syncIdentity frames' inputs' events') :
    frames = frames' ∧ inputs = inputs' ∧ events = events' := by
  unfold branchBytes at same
  have rest := append_cancel_left (append_cancel_left same)
  obtain ⟨counts,rest⟩ := append_inj rest (by simp)
  obtain ⟨lengths,rest⟩ := append_inj rest (by simp)
  have residues := leBytes_injective 8 _ _ lengths
  have totals := congrArg List.length rest
  simp only [length_append,length_leBytes] at totals
  have equal : inputs.length = inputs'.length := by omega
  obtain ⟨inputs,rest⟩ := append_inj rest equal
  obtain ⟨_,events⟩ := append_inj rest (by simp)
  have frames := leBytes_injective 8 _ _ counts
  exact ⟨by omega,inputs,events⟩

def SameMovie (left right : TasBranch) : Prop :=
  left.frameCount = right.frameCount ∧ left.inputSpans = right.inputSpans ∧ left.events = right.events

theorem sameBranchMovie_iff (left right : TasBranch) : sameBranchMovie left right = true ↔ SameMovie left right := by
  simp [sameBranchMovie,SameMovie,and_assoc]

theorem ValidMovie.of_same {left right : TasBranch} (valid : ValidMovie left) (same : SameMovie left right) :
    ValidMovie right := by
  obtain ⟨frames,spans,events⟩ := same
  exact ⟨frames ▸ valid.word,spans ▸ valid.spans,frames ▸ spans ▸ valid.inside,events ▸ valid.canonical,frames ▸ events ▸ valid.reached,
    events ▸ valid.encoded⟩

theorem eventsBefore_encoded (branch : TasBranch) (valid : ValidMovie branch) (cursor : Nat) :
    ∃ eventBytes, encodeReplayEventStream (eventsBefore branch cursor false) = .ok eventBytes := by
  obtain ⟨eventBytes,_,encoded,_⟩ := valid.encoded
  obtain ⟨few,canonical,small,rfl,total⟩ := (EventStream.encodeCanonical_ok _ _).mp encoded
  have sublist : (eventsBefore branch cursor false).Sublist branch.events := filter_sublist
  have fewer := sublist.length_le.trans few
  have sorted : ReplayEvent.Canonical (eventsBefore branch cursor false) := canonical.sublist sublist
  refine ⟨EventStream.header (eventsBefore branch cursor false).length ++
    (eventsBefore branch cursor false).flatMap EventStream.packed,?_⟩
  rw [encodeReplayEventStream,ensure_pos fewer,ok_bind,ReplayEvent.sortCanonical_of_canonical _ sorted]
  refine (EventStream.encodeCanonical_ok _ _).mpr
    ⟨fewer,sorted,fun event member => small event (sublist.subset member),rfl,?_⟩
  have packed := (List.Sublist.flatMap sublist EventStream.packed).length_le
  rw [length_append,EventStream.length_header] at total ⊢
  omega

theorem branch_isSome_iff (project : TasProject) (id : String) :
    (project.branch id).isSome ↔ id ∈ project.branches.map TasBranch.id := by
  simp [TasProject.branch,List.find?_isSome]

theorem mem_branchIds (project : TasProject) (id : String) : id ∈ branchIds project ↔ (project.branch id).isSome := by
  rw [branchIds,mem_mergeSort,mem_dedup,branch_isSome_iff]

theorem branch_none_iff (project : TasProject) (id : String) : project.branch id = none ↔ id ∉ branchIds project := by
  rw [mem_branchIds,Bool.not_eq_true,Option.isSome_eq_false_iff,Option.isNone_iff_eq_none]

theorem forgetVerification_movie (ids : List String) (branch : TasBranch) :
    SameMovie branch (forgetVerification ids branch) ∧ (forgetVerification ids branch).id = branch.id ∧
      (forgetVerification ids branch).parent = branch.parent ∧
      (branch.id ∈ ids → (forgetVerification ids branch).verification = none) := by
  unfold forgetVerification
  split
  · exact ⟨⟨rfl,rfl,rfl⟩,rfl,rfl,fun _ => rfl⟩
  · rename_i kept
    exact ⟨⟨rfl,rfl,rfl⟩,rfl,rfl,fun member => absurd member kept⟩

theorem branch_forgotten (project : TasProject) (ids : List String) (id : String) :
    (project.branches.map (forgetVerification ids)).find? (fun branch => branch.id == id) =
      (project.branch id).map (forgetVerification ids) := by
  rw [List.find?_map]
  have same : ((fun branch : TasBranch => branch.id == id) ∘ forgetVerification ids) = fun branch => branch.id == id := by
    funext branch
    exact congrArg (· == id) (forgetVerification_movie ids branch).2.1
  rw [same]
  rfl

/-- A committed transaction: the edited copy without outdated verifications, under its new counters. -/
structure Committed (encoding : TasEncoding) (project : TasProject) (edited : TasProjectEdit) (changes : BranchChanges)
    (outcome : TasEditOutcome) (project' : TasProject) : Prop where
  valid : project.validate encoding.sha256 = .ok ()
  classified : classifyBranchChangesStructural encoding project edited.project (branchIds project)
    (branchIds edited.project) ((branchIds edited.project).filter (· ∉ branchIds project)) = .ok changes
  identity : project'.identity = edited.project.identity
  startState : project'.startState = edited.project.startState
  replayStart : project'.replayStart = edited.project.replayStart
  branches : project'.branches = edited.project.branches.map (forgetVerification
    ((branchIds edited.project).filter (· ∉ branchIds project) ++ changes.changedExistingIds))
  rerecordCount : project'.rerecordCount = edited.project.rerecordCount +
    if changes.changedExistingIds ≠ [] ∨ changes.divergentForkCreated = true then 1 else 0
  impacts : outcome.branchImpacts = (branchIds edited.project).filterMap (branchImpact project project'
    edited.timelineEarliestCursors ((branchIds edited.project).filter (· ∉ branchIds project)) changes.changedExistingIds)
  committed : project'.validateEditorState encoding.sha256 = .ok ()

theorem bumped_ok (count : Nat) (grows : Bool) (message : String) (result : Nat)
    (ok : bumped count grows message = .ok result) : result = count + if grows then 1 else 0 := by
  cases grows with
  | false => exact (Except.ok.inj ok).symm
  | true => exact (checkedAdd_ok.mp ok).2

theorem editTransaction_committed (encoding : TasEncoding) (project : TasProject)
    (edit : TasProjectEdit → Except String TasProjectEdit) (outcome : TasEditOutcome) (project' : TasProject)
    (ok : project.editTransaction encoding edit = .ok (outcome,project')) :
    ∃ edited changes, edit { project := project } = .ok edited ∧
      Committed encoding project edited changes outcome project' := by
  obtain ⟨valid,ok⟩ := check_bind_ok.mp ok
  obtain ⟨edited,performed,ok⟩ := bind_ok.mp ok
  obtain ⟨changes,classified,ok⟩ := bind_ok.mp ok
  obtain ⟨_,ok⟩ := check_bind_ok.mp ok
  obtain ⟨editGeneration,_,ok⟩ := bind_ok.mp ok
  obtain ⟨rerecordCount,counted,ok⟩ := bind_ok.mp ok
  obtain ⟨committed,ok⟩ := check_bind_ok.mp ok
  obtain ⟨rfl,rfl⟩ := Prod.mk.inj (Except.ok.inj ok)
  have grown := bumped_ok _ _ _ _ counted
  refine ⟨edited,changes,performed,valid,classified,rfl,rfl,rfl,rfl,?_,rfl,committed⟩
  simpa using grown

namespace Committed
variable {encoding : TasEncoding} {project : TasProject} {edited : TasProjectEdit} {changes : BranchChanges}
  {outcome : TasEditOutcome} {project' : TasProject}

theorem changedExisting (committed : Committed encoding project edited changes outcome project') (id : String) :
    id ∈ changes.changedExistingIds ↔ ∃ before after, project.branch id = some before ∧
      edited.project.branch id = some after ∧ ¬SameMovie before after := by
  have ids : changes.changedExistingIds =
      ((branchIds project).filter (· ∈ branchIds edited.project)).filter (movieChanged project edited.project) := by
    have classified := committed.classified
    unfold classifyBranchChangesStructural at classified
    dsimp only at classified
    split at classified
    · rw [← Except.ok.inj classified]
    · obtain ⟨_,_,classified⟩ := bind_ok.mp classified
      obtain ⟨_,_,classified⟩ := bind_ok.mp classified
      rw [← Except.ok.inj classified]
  rw [ids,mem_filter,mem_filter,mem_branchIds,decide_eq_true_eq,mem_branchIds,movieChanged]
  cases project.branch id with
  | none => simp
  | some before =>
    cases edited.project.branch id with
    | none => simp
    | some after => simp [← sameBranchMovie_iff]

theorem branch (committed : Committed encoding project edited changes outcome project') (id : String)
    (after : TasBranch) (found : project'.branch id = some after) : ∃ copy, edited.project.branch id = some copy ∧
      SameMovie copy after ∧ after.id = id ∧ after.parent = copy.parent ∧
      (id ∈ changes.changedExistingIds → after.verification = none) := by
  have name := branch_id project' id after found
  rw [TasProject.branch,committed.branches,branch_forgotten,Option.map_eq_some_iff] at found
  obtain ⟨copy,inside,rfl⟩ := found
  obtain ⟨same,id_,parent,forgotten⟩ := forgetVerification_movie
    ((branchIds edited.project).filter (· ∉ branchIds project) ++ changes.changedExistingIds) copy
  refine ⟨copy,inside,same,name,parent,fun member => forgotten (mem_append_right _ ?_)⟩
  rwa [← id_,name]

theorem kept (committed : Committed encoding project edited changes outcome project') (id : String)
    (copy : TasBranch) (found : edited.project.branch id = some copy) : ∃ after, project'.branch id = some after := by
  rw [TasProject.branch,committed.branches,branch_forgotten,found]
  exact ⟨_,rfl⟩

theorem prefixes (committed : Committed encoding project edited changes outcome project')
    (traced : Traced encoding project ⟨edited,sources⟩) (id : String) (before after : TasBranch)
    (foundBefore : project.branch id = some before) (foundAfter : project'.branch id = some after) (cursor : Nat)
    (insideBefore : cursor ≤ before.frameCount) (insideAfter : cursor ≤ after.frameCount)
    (spans : clippedSpans before cursor = clippedSpans after cursor)
    (events : eventsBefore before cursor false = eventsBefore after cursor false) :
    ∃ digest, encoding.branchPrefixSha256 project id cursor = .ok digest ∧
      encoding.branchPrefixSha256 project' id cursor = .ok digest := by
  obtain ⟨editorState,start⟩ := check_bind_ok.mp committed.valid
  have valid' : project'.validate encoding.sha256 = .ok () := by
    rw [TasProject.validate,committed.committed,ok_bind,committed.startState,committed.identity,traced.startState,
      traced.identity]
    exact start
  have movie := validMovie_of_valid encoding.sha256 project editorState before (List.mem_of_find?_eq_some foundBefore)
  obtain ⟨eventBytes,encoded⟩ := eventsBefore_encoded before movie cursor
  have synced : ∃ syncIdentity, encoding.syncIdentitySha256FromValidated project = .ok syncIdentity := by
    obtain ⟨_,editorState⟩ := check_bind_ok.mp editorState
    obtain ⟨_,editorState⟩ := check_bind_ok.mp editorState
    obtain ⟨_,editorState⟩ := check_bind_ok.mp editorState
    obtain ⟨replayStart,started,_⟩ := bind_ok.mp editorState
    exact ⟨_,by rw [TasEncoding.syncIdentitySha256FromValidated,started,ok_bind]; rfl⟩
  obtain ⟨syncIdentity,synced⟩ := synced
  have synced' : encoding.syncIdentitySha256FromValidated project' = .ok syncIdentity := by
    rw [← synced]
    exact syncIdentity_framed encoding _ _ (committed.identity.trans traced.identity)
      (committed.replayStart.trans traced.replayStart)
  refine ⟨encoding.hashBranchBytes syncIdentity cursor (encoding.inputSpansJson (clippedSpans before cursor)) eventBytes,
    ?_,?_⟩
  · rw [TasEncoding.branchPrefixSha256,committed.valid,ok_bind,TasEncoding.branchPrefixSha256FromValidated,foundBefore,
      context,ok_bind,ensure_pos insideBefore,ok_bind,synced,ok_bind,TasEncoding.hashBranch,encoded]
    rfl
  · rw [TasEncoding.branchPrefixSha256,valid',ok_bind,TasEncoding.branchPrefixSha256FromValidated,foundAfter,
      context,ok_bind,ensure_pos insideAfter,ok_bind,synced',ok_bind,TasEncoding.hashBranch,← events,← spans,encoded]
    rfl

theorem modified (committed : Committed encoding project edited changes outcome project') (id : String)
    (before after : TasBranch) (foundBefore : project.branch id = some before)
    (foundAfter : project'.branch id = some after) (earliestCursor : Nat) :
    ⟨id,.modified earliestCursor⟩ ∈ outcome.branchImpacts ↔ id ∈ changes.changedExistingIds ∧
      ((edited.timelineEarliestCursors id).map (min · ((earliestBranchMovieDifference before after).getD 0))).getD
        ((earliestBranchMovieDifference before after).getD 0) = earliestCursor := by
  obtain ⟨copy,foundCopy,_⟩ := committed.branch id after foundAfter
  have existing : id ∉ (branchIds edited.project).filter (· ∉ branchIds project) := by
    simp [mem_filter,mem_branchIds,foundBefore]
  have listed : id ∈ branchIds edited.project := (mem_branchIds _ _).mpr (by simp [foundCopy])
  have own : ∀ other earliest, branchImpact project project' edited.timelineEarliestCursors
      ((branchIds edited.project).filter (· ∉ branchIds project)) changes.changedExistingIds other =
        some ⟨id,.modified earliest⟩ → other = id := by
    intro other earliest impact
    unfold branchImpact at impact
    split at impact
    · simp at impact
    · split at impact
      · split at impact
        · exact (TasBranchEditImpact.mk.inj (Option.some.inj impact)).1
        · contradiction
      · contradiction
  rw [committed.impacts,mem_filterMap]
  constructor
  · rintro ⟨other,_,impact⟩
    obtain rfl := own other _ impact
    rw [branchImpact,if_neg existing] at impact
    split at impact
    · rename_i changed
      rw [foundBefore,foundAfter] at impact
      exact ⟨changed,TasBranchEditImpactKind.modified.inj (TasBranchEditImpact.mk.inj (Option.some.inj impact)).2⟩
    · contradiction
  · rintro ⟨changed,rfl⟩
    refine ⟨id,listed,?_⟩
    rw [branchImpact,if_neg existing,if_pos changed,foundBefore,foundAfter]

end Committed

theorem divergentFork_ok (encoding : TasEncoding) (syncIdentity : TasDigest) (after : TasProject) (ids : List String)
    (result : Bool) (ok : divergentFork encoding syncIdentity after ids = .ok result) :
    (result = true → ∃ id ∈ ids, ∃ branch parent digest, after.branch id = some branch ∧ branch.parent = some parent ∧
      encoding.hashBranch syncIdentity branch branch.frameCount true = .ok digest ∧ digest ≠ parent.branchMovieSha256) ∧
    (result = false → ∀ id ∈ ids, ∀ branch parent, after.branch id = some branch → branch.parent = some parent →
      encoding.hashBranch syncIdentity branch branch.frameCount true = .ok parent.branchMovieSha256) := by
  induction ids with
  | nil =>
    obtain rfl := Except.ok.inj ok
    exact ⟨by simp,by simp⟩
  | cons id ids ih =>
    obtain ⟨branch,found,ok⟩ := bind_ok.mp ok
    have present := context_ok.mp found
    cases origin : branch.parent with
    | none =>
      rw [origin] at ok
      obtain ⟨diverges,agrees⟩ := ih ok
      refine ⟨fun holds => ?_,fun fails => forall_mem_cons.mpr ⟨?_,agrees fails⟩⟩
      · obtain ⟨other,member,rest⟩ := diverges holds
        exact ⟨other,mem_cons_of_mem id member,rest⟩
      · intro again parent same from_
        obtain rfl := Option.some.inj (present.symm.trans same)
        rw [origin] at from_
        contradiction
    | some parent =>
      rw [origin] at ok
      obtain ⟨digest,hashed,ok⟩ := bind_ok.mp ok
      by_cases differs : digest ≠ parent.branchMovieSha256
      · rw [if_pos differs] at ok
        obtain rfl := Except.ok.inj ok
        exact ⟨fun _ => ⟨id,mem_cons_self,branch,parent,digest,present,origin,hashed,differs⟩,by simp⟩
      · rw [if_neg differs] at ok
        obtain ⟨diverges,agrees⟩ := ih ok
        refine ⟨fun holds => ?_,fun fails => forall_mem_cons.mpr ⟨?_,agrees fails⟩⟩
        · obtain ⟨other,member,rest⟩ := diverges holds
          exact ⟨other,mem_cons_of_mem id member,rest⟩
        · intro again origin' same from_
          obtain rfl := Option.some.inj (present.symm.trans same)
          obtain rfl := Option.some.inj (origin.symm.trans from_)
          rw [hashed,not_not.mp differs]

/-- The branches whose movies a transaction hashes: those it ends with and those its forks were taken from. -/
def Occurs (project' : TasProject) (sources : String → Option TasBranch) (branch : TasBranch) : Prop :=
  branch ∈ project'.branches ∨ ∃ id, sources id = some branch

/-- The byte strings whose digests stand for these movies. -/
def hashedMovies (encoding : TasEncoding) (project project' : TasProject) (sources : String → Option TasBranch) :
    Set Bytes :=
  {bytes | ∃ syncIdentity branch eventBytes, encoding.syncIdentitySha256FromValidated project = .ok syncIdentity ∧
    Occurs project' sources branch ∧ encodeCanonicalReplayEventStream branch.events = .ok eventBytes ∧
    bytes = branchBytes syncIdentity branch.frameCount (encoding.inputSpansJson branch.inputSpans) eventBytes}

theorem length_encodedEvents (branch : TasBranch) (eventBytes : Bytes)
    (encoded : encodeCanonicalReplayEventStream branch.events = .ok eventBytes) : eventBytes.length < 2^64 := by
  obtain ⟨_,_,_,_,total⟩ := (EventStream.encodeCanonical_ok _ _).mp encoded
  have bound : EventStream.maxStreamBytes < 2^64 := by decide
  omega

theorem sameMovie_of_digest (encoding : TasEncoding) (project project' : TasProject)
    (sources : String → Option TasBranch) (syncIdentity digest : TasDigest) (left right : TasBranch)
    (collisionFree : Set.InjOn encoding.sha256 (hashedMovies encoding project project' sources))
    (jsonFaithful : Set.InjOn encoding.inputSpansJson
      {spans | ∃ branch, Occurs project' sources branch ∧ branch.inputSpans = spans})
    (synced : encoding.syncIdentitySha256FromValidated project = .ok syncIdentity)
    (occursLeft : Occurs project' sources left) (occursRight : Occurs project' sources right)
    (validLeft : ValidMovie left) (validRight : ValidMovie right)
    (hashedLeft : encoding.hashCompleteBranch syncIdentity left = .ok digest)
    (hashedRight : encoding.hashCompleteBranch syncIdentity right = .ok digest) : SameMovie left right := by
  obtain ⟨leftBytes,_,encodedLeft,readLeft⟩ := validLeft.encoded
  obtain ⟨rightBytes,_,encodedRight,readRight⟩ := validRight.encoded
  rw [TasEncoding.hashCompleteBranch,encodedLeft] at hashedLeft
  rw [TasEncoding.hashCompleteBranch,encodedRight] at hashedRight
  have bytes := collisionFree ⟨syncIdentity,left,leftBytes,synced,occursLeft,encodedLeft,rfl⟩
    ⟨syncIdentity,right,rightBytes,synced,occursRight,encodedRight,rfl⟩
    ((Except.ok.inj hashedLeft).trans (Except.ok.inj hashedRight).symm)
  obtain ⟨frames,inputs,events⟩ := branchBytes_injective syncIdentity _ _ _ _ _ _ validLeft.word validRight.word
    (length_encodedEvents left leftBytes encodedLeft) (length_encodedEvents right rightBytes encodedRight) bytes
  refine ⟨frames,jsonFaithful ⟨left,occursLeft,rfl⟩ ⟨right,occursRight,rfl⟩ inputs,?_⟩
  subst events
  exact Except.ok.inj (readLeft.symm.trans readRight)

theorem hashCompleteBranch_same (encoding : TasEncoding) (syncIdentity : TasDigest) (left right : TasBranch)
    (same : SameMovie left right) :
    encoding.hashCompleteBranch syncIdentity left = encoding.hashCompleteBranch syncIdentity right := by
  obtain ⟨frames,spans,events⟩ := same
  rw [TasEncoding.hashCompleteBranch,TasEncoding.hashCompleteBranch,frames,spans,events]

namespace Committed
variable {encoding : TasEncoding} {project : TasProject} {edited : TasProjectEdit} {changes : BranchChanges}
  {outcome : TasEditOutcome} {project' : TasProject} {sources : String → Option TasBranch}

theorem created (committed : Committed encoding project edited changes outcome project')
    (traced : Traced encoding project ⟨edited,sources⟩) (id : String) (copy : TasBranch)
    (found : edited.project.branch id = some copy) (fresh : project.branch id = none) :
    ∃ branch, branch ∈ project'.branches ∧ branch.id = id ∧ SameMovie copy branch ∧ ValidMovie branch ∧
      ∃ source origin, sources id = some source ∧ copy.parent = some origin ∧ ValidMovie source ∧
        Records encoding project origin source := by
  have member := List.mem_of_find?_eq_some found
  obtain ⟨same,name,_⟩ := forgetVerification_movie
    ((branchIds edited.project).filter (· ∉ branchIds project) ++ changes.changedExistingIds) copy
  have inside : forgetVerification ((branchIds edited.project).filter (· ∉ branchIds project) ++
      changes.changedExistingIds) copy ∈ project'.branches := by
    rw [committed.branches]
    exact mem_map_of_mem member
  have own := branch_id edited.project id copy found
  obtain ⟨source,origin,recorded,from_,⟨holder,holds,held⟩,records⟩ := traced.forks copy member (by rwa [own])
  obtain ⟨editorState,_⟩ := check_bind_ok.mp holds
  exact ⟨_,inside,name.trans own,same,validMovie_of_valid encoding.sha256 project' committed.committed _ inside,source,
    origin,own ▸ recorded,from_,validMovie_of_valid encoding.sha256 holder editorState source held,records⟩

theorem divergent (committed : Committed encoding project edited changes outcome project')
    (traced : Traced encoding project ⟨edited,sources⟩)
    (collisionFree : Set.InjOn encoding.sha256 (hashedMovies encoding project project' sources))
    (jsonFaithful : Set.InjOn encoding.inputSpansJson
      {spans | ∃ branch, Occurs project' sources branch ∧ branch.inputSpans = spans}) :
    changes.divergentForkCreated = true ↔ ∃ id copy source, edited.project.branch id = some copy ∧
      project.branch id = none ∧ sources id = some source ∧ ¬SameMovie source copy := by
  have createdIds (id : String) : id ∈ (branchIds edited.project).filter (· ∉ branchIds project) ↔
      (∃ copy, edited.project.branch id = some copy) ∧ project.branch id = none := by
    rw [mem_filter,decide_eq_true_eq,← branch_none_iff,mem_branchIds,Option.isSome_iff_exists]
  have classified := committed.classified
  unfold classifyBranchChangesStructural at classified
  dsimp only at classified
  split at classified
  · rename_i none_
    rw [← Except.ok.inj classified]
    simp only [Bool.false_eq_true,false_iff]
    rintro ⟨id,copy,source,found,fresh,_⟩
    have listed := (createdIds id).mpr ⟨⟨copy,found⟩,fresh⟩
    rw [none_] at listed
    simp at listed
  · obtain ⟨syncIdentity,synced,classified⟩ := bind_ok.mp classified
    obtain ⟨result,forked,classified⟩ := bind_ok.mp classified
    obtain ⟨diverges,agrees⟩ := divergentFork_ok encoding syncIdentity edited.project _ result forked
    rw [← Except.ok.inj classified]
    have digests (id : String) (copy : TasBranch) (found : edited.project.branch id = some copy)
        (fresh : project.branch id = none) : ∃ source origin, sources id = some source ∧ copy.parent = some origin ∧
        (SameMovie source copy ↔
          encoding.hashBranch syncIdentity copy copy.frameCount true = .ok origin.branchMovieSha256) := by
      obtain ⟨branch,inside,name,same,valid,source,origin,recorded,from_,validSource,_,synced',hashed⟩ :=
        committed.created traced id copy found fresh
      obtain rfl := Except.ok.inj (synced.symm.trans synced')
      have back : SameMovie branch copy := ⟨same.1.symm,same.2.1.symm,same.2.2.symm⟩
      refine ⟨source,origin,recorded,from_,?_⟩
      rw [hashBranch_whole encoding syncIdentity copy (valid.of_same back)]
      constructor
      · intro alike
        rw [← hashed]
        exact (hashCompleteBranch_same encoding syncIdentity source copy alike).symm
      · intro digest
        rw [hashCompleteBranch_same encoding syncIdentity copy branch same] at digest
        have alike := sameMovie_of_digest encoding project project' sources syncIdentity _ source branch collisionFree
          jsonFaithful synced (.inr ⟨id,recorded⟩) (.inl inside) validSource valid hashed digest
        exact ⟨alike.1.trans back.1,alike.2.1.trans back.2.1,alike.2.2.trans back.2.2⟩
    constructor
    · intro holds
      obtain ⟨id,listed,copy,parent,digest,found,from_,hashed,differs⟩ := diverges holds
      obtain ⟨_,fresh⟩ := (createdIds id).mp listed
      obtain ⟨source,origin,recorded,from',iff_⟩ := digests id copy found fresh
      obtain rfl := Option.some.inj (from_.symm.trans from')
      refine ⟨id,copy,source,found,fresh,recorded,fun alike => differs ?_⟩
      exact Except.ok.inj (hashed.symm.trans (iff_.mp alike))
    · rintro ⟨id,copy,source,found,fresh,recorded,differs⟩
      by_contra fails
      obtain ⟨source',origin,recorded',from_,iff_⟩ := digests id copy found fresh
      obtain rfl := Option.some.inj (recorded.symm.trans recorded')
      have listed := (createdIds id).mpr ⟨⟨copy,found⟩,fresh⟩
      exact differs (iff_.mpr (agrees (Bool.eq_false_iff.mpr fails) id listed copy origin found from_))

end Committed

/-- A branch that is not reported as modified keeps its movie. One that is reported keeps its
inputs, its events and its prefix digests up to the reported cursor, and a changed movie loses
its verification. The rerecord count grows by one when a movie changed or when a branch was
created whose movie is not the one its origin records. -/
theorem editTransaction_impacts (encoding : TasEncoding) (project : TasProject)
    (edit : TasProjectEdit → Except String TasProjectEdit) (sources : String → Option TasBranch)
    (outcome : TasEditOutcome) (project' : TasProject)
    (built : ∀ edited, edit { project := project } = .ok edited →
      Relation.ReflTransGen (EditStep encoding) ⟨{ project := project },fun _ => none⟩ ⟨edited,sources⟩)
    (ok : project.editTransaction encoding edit = .ok (outcome,project'))
    (collisionFree : Set.InjOn encoding.sha256 (hashedMovies encoding project project' sources))
    (jsonFaithful : Set.InjOn encoding.inputSpansJson
      {spans | ∃ branch, Occurs project' sources branch ∧ branch.inputSpans = spans}) :
    (∀ id before after, project.branch id = some before → project'.branch id = some after →
      ((∀ earliestCursor, ⟨id,.modified earliestCursor⟩ ∉ outcome.branchImpacts) →
        after.frameCount = before.frameCount ∧ after.inputSpans = before.inputSpans ∧ after.events = before.events) ∧
      (∀ earliestCursor, ⟨id,.modified earliestCursor⟩ ∈ outcome.branchImpacts → ∀ cursor ≤ earliestCursor,
        cursor ≤ before.frameCount → cursor ≤ after.frameCount →
        clippedSpans before cursor = clippedSpans after cursor ∧
        eventsBefore before cursor false = eventsBefore after cursor false ∧
        ∃ digest, encoding.branchPrefixSha256 project id cursor = .ok digest ∧
          encoding.branchPrefixSha256 project' id cursor = .ok digest) ∧
      (¬SameMovie before after → after.verification = none)) ∧
    (project'.rerecordCount = project.rerecordCount ∨ project'.rerecordCount = project.rerecordCount + 1) ∧
    (project'.rerecordCount = project.rerecordCount + 1 ↔
      (∃ id before after, project.branch id = some before ∧ project'.branch id = some after ∧ ¬SameMovie before after) ∨
      ∃ id after source, project'.branch id = some after ∧ project.branch id = none ∧ sources id = some source ∧
        ¬SameMovie source after) := by
  obtain ⟨edited,changes,performed,committed⟩ := editTransaction_committed encoding project edit outcome project' ok
  have traced := traced_run encoding project _ (built edited performed)
  obtain ⟨editorState,_⟩ := check_bind_ok.mp committed.valid
  have changed (id : String) (before after : TasBranch) (foundBefore : project.branch id = some before)
      (foundAfter : project'.branch id = some after) :
      id ∈ changes.changedExistingIds ↔ ¬SameMovie before after := by
    obtain ⟨copy,foundCopy,same,_⟩ := committed.branch id after foundAfter
    rw [committed.changedExisting]
    obtain ⟨frames,spans,events⟩ := same
    simp only [foundBefore,foundCopy,Option.some.injEq,exists_and_left,exists_eq_left',SameMovie,frames,spans,events]
  refine ⟨?_,?_,?_⟩
  · intro id before after foundBefore foundAfter
    obtain ⟨_,_,_,_,_,forgotten⟩ := committed.branch id after foundAfter
    have modified := committed.modified id before after foundBefore foundAfter
    refine ⟨?_,?_,fun differs => forgotten ((changed id before after foundBefore foundAfter).mpr differs)⟩
    · intro unreported
      have kept : SameMovie before after := by
        by_contra differs
        exact unreported _ ((modified _).mpr ⟨(changed id before after foundBefore foundAfter).mpr differs,rfl⟩)
      exact ⟨kept.1.symm,kept.2.1.symm,kept.2.2.symm⟩
    · intro earliestCursor reported cursor front insideBefore insideAfter
      obtain ⟨_,earliest⟩ := (modified earliestCursor).mp reported
      have compared : cursor ≤ (earliestBranchMovieDifference before after).getD 0 := by
        refine front.trans (earliest ▸ ?_)
        cases edited.timelineEarliestCursors id with
        | none => exact le_rfl
        | some timeline => exact min_le_right _ _
      obtain ⟨spans,events⟩ := earliestBranchMovieDifference_first before after
        (validMovie_of_valid encoding.sha256 project editorState before (List.mem_of_find?_eq_some foundBefore))
        (validMovie_of_valid encoding.sha256 project' committed.committed after (List.mem_of_find?_eq_some foundAfter))
        cursor compared insideBefore insideAfter
      exact ⟨spans,events,committed.prefixes traced id before after foundBefore foundAfter cursor insideBefore insideAfter
        spans events⟩
  · rw [committed.rerecordCount,traced.rerecordCount]
    split
    · exact .inr rfl
    · exact .inl rfl
  · have existing : changes.changedExistingIds ≠ [] ↔
        ∃ id before after, project.branch id = some before ∧ project'.branch id = some after ∧ ¬SameMovie before after := by
      constructor
      · intro some_
        obtain ⟨id,member⟩ := exists_mem_of_ne_nil _ some_
        obtain ⟨before,copy,foundBefore,foundCopy,_⟩ := (committed.changedExisting id).mp member
        obtain ⟨after,foundAfter⟩ := committed.kept id copy foundCopy
        exact ⟨id,before,after,foundBefore,foundAfter,(changed id before after foundBefore foundAfter).mp member⟩
      · rintro ⟨id,before,after,foundBefore,foundAfter,differs⟩
        exact ne_nil_of_mem ((changed id before after foundBefore foundAfter).mpr differs)
    have created : changes.divergentForkCreated = true ↔ ∃ id after source, project'.branch id = some after ∧
        project.branch id = none ∧ sources id = some source ∧ ¬SameMovie source after := by
      rw [committed.divergent traced collisionFree jsonFaithful]
      constructor
      · rintro ⟨id,copy,source,found,fresh,recorded,differs⟩
        obtain ⟨after,foundAfter⟩ := committed.kept id copy found
        obtain ⟨copy',found',same,_⟩ := committed.branch id after foundAfter
        obtain rfl := Option.some.inj (found.symm.trans found')
        exact ⟨id,after,source,foundAfter,fresh,recorded,fun alike => differs
          ⟨alike.1.trans same.1.symm,alike.2.1.trans same.2.1.symm,alike.2.2.trans same.2.2.symm⟩⟩
      · rintro ⟨id,after,source,foundAfter,fresh,recorded,differs⟩
        obtain ⟨copy,found,same,_⟩ := committed.branch id after foundAfter
        exact ⟨id,copy,source,found,fresh,recorded,fun alike => differs
          ⟨alike.1.trans same.1,alike.2.1.trans same.2.1,alike.2.2.trans same.2.2⟩⟩
    rw [committed.rerecordCount,traced.rerecordCount,← existing,← created]
    split
    · rename_i grows
      exact ⟨fun _ => grows,fun _ => rfl⟩
    · rename_i same
      exact ⟨fun grown => absurd grown (by simp),fun grows => absurd grows same⟩

def smallEncoding : TasEncoding where
  sha256 := fun _ => emptyDigest
  identityJson := fun _ => []
  inputSpansJson := fun _ => utf8 "[]"

def smallRetilted : TasBranch := { smallMovie with
  inputSpans := [⟨1,2,{ tiltXBits := 1 }⟩,⟨3,1,{ tiltXBits := 2 }⟩] }

def smallCommitted : TasProject := { smallProject with
  branches := [smallRetilted], editGeneration := 1, rerecordCount := 1 }

theorem editTransaction_impacts_small : clippedSpans smallMovie 3 = clippedSpans smallRetilted 3 ∧
    smallRetilted.verification = none ∧ smallCommitted.rerecordCount = smallProject.rerecordCount + 1 := by
  have ok : smallProject.editTransaction smallEncoding (fun edit => edit.setInputRange "main" 3 1 { tiltXBits := 2 }) =
      .ok (⟨true,1,1,[⟨"main",.modified 3⟩]⟩,smallCommitted) := by
    decide +kernel
  have built : ∀ edited, TasProjectEdit.setInputRange { project := smallProject } "main" 3 1 { tiltXBits := 2 } = .ok edited →
      Relation.ReflTransGen (EditStep smallEncoding) ⟨{ project := smallProject },fun _ => none⟩
        ⟨edited,fun _ => none⟩ := fun edited done =>
    .single (.performed ⟨{ project := smallProject },fun _ => none⟩ (.setInputRange "main" 3 1 { tiltXBits := 2 }) edited done)
  have single : ∀ branch, Occurs smallCommitted (fun _ => none) branch → branch = smallRetilted := by
    rintro branch (member | ⟨id,none_⟩)
    · simpa [smallCommitted] using member
    · contradiction
  obtain ⟨impacts,_,counted⟩ := editTransaction_impacts smallEncoding smallProject
    (fun edit => edit.setInputRange "main" 3 1 { tiltXBits := 2 }) (fun _ => none) _ _ built ok
    (by
      rintro left ⟨sync,branch,events,synced,occurs,encoded,rfl⟩ right ⟨sync',branch',events',synced',occurs',encoded',rfl⟩ _
      obtain rfl := single branch occurs
      obtain rfl := single branch' occurs'
      obtain rfl := Except.ok.inj (synced.symm.trans synced')
      rw [Except.ok.inj (encoded.symm.trans encoded')])
    (by
      rintro left ⟨branch,occurs,rfl⟩ right ⟨branch',occurs',rfl⟩ _
      rw [single branch occurs,single branch' occurs'])
  have differs : ¬SameMovie smallMovie smallRetilted := fun same => absurd same.2.1 (by decide +kernel)
  obtain ⟨_,modified,forgotten⟩ := impacts "main" smallMovie smallRetilted rfl rfl
  exact ⟨(modified 3 (by simp) 3 (Nat.le_refl 3) (by decide) (by decide)).1,forgotten differs,
    counted.mpr (.inl ⟨"main",smallMovie,smallRetilted,rfl,rfl,differs⟩)⟩

end ZeffBoy.Tas
