import ZeffBoy.Replay.RoundTrip

/-! The limits of bounded replay decoding. -/
namespace ZeffBoy.Replay
open Library List

def cameraBytes (frames : List ReplayJoypadFrame) : Nat :=
  (frames.map (fun frame => cameraLength frame.cameraFrame)).sum

@[simp] theorem cameraBytes_nil : cameraBytes [] = 0 := rfl

@[simp] theorem cameraBytes_cons (frame : ReplayJoypadFrame) (frames : List ReplayJoypadFrame) :
    cameraBytes (frame::frames) = cameraLength frame.cameraFrame + cameraBytes frames := by
  rw [cameraBytes,map_cons,sum_cons]
  rfl

theorem cameraBytes_append (front back : List ReplayJoypadFrame) :
    cameraBytes (front ++ back) = cameraBytes front + cameraBytes back := by
  rw [cameraBytes,map_append,sum_append]
  rfl

theorem cameraBytes_replicate (count : Nat) (frame : ReplayJoypadFrame) :
    cameraBytes (List.replicate count frame) = count * cameraLength frame.cameraFrame := by
  rw [cameraBytes,map_replicate,sum_replicate,smul_eq_mul]

/-- A replay event lies within some frames: a boundary event may stand after the last one. -/
def ReplayEvent.Within (event : ReplayEvent) (frameCount : Nat) : Prop :=
  if event.isFrameBoundaryEvent then event.frame.toNat ≤ frameCount else event.frame.toNat < frameCount

theorem ReplayEvent.within_of_required (event : ReplayEvent) (required frameCount : Nat)
    (counted : event.requiredFrameCount = some required) (enough : required ≤ frameCount) : event.Within frameCount := by
  unfold ReplayEvent.requiredFrameCount at counted
  unfold ReplayEvent.Within
  split at counted
  · rename_i boundary
    cases counted
    rwa [if_pos boundary]
  · rename_i inner
    rw [if_neg inner]
    split at counted
    · cases counted
      omega
    · contradiction

theorem foldlM_max_ok {α : Type} (measure : α → Except String Nat) (message : String) (limit : Nat) (values : List α)
    (start result : Nat) (ok : values.foldlM (fun running value => do
      let measured ← measure value
      ensure (measured ≤ limit) message
      return max running measured) start = .ok result) :
    start ≤ result ∧ (start ≤ limit → result ≤ limit) ∧
      ∀ value ∈ values, ∃ measured, measure value = .ok measured ∧ measured ≤ result := by
  induction values generalizing start with
  | nil =>
    cases ok
    exact ⟨le_rfl,id,fun _ absent => (not_mem_nil absent).elim⟩
  | cons value values ih =>
    rw [foldlM_cons] at ok
    obtain ⟨next,first,rest⟩ := bind_ok.mp ok
    obtain ⟨measured,found,first⟩ := bind_ok.mp first
    obtain ⟨inside,first⟩ := check_bind_ok.mp first
    cases first
    have small := ensure_ok.mp inside
    obtain ⟨grown,bounded,each⟩ := ih (max start measured) rest
    refine ⟨le_trans (le_max_left _ _) grown,fun low => bounded (max_le low small),?_⟩
    exact forall_mem_cons.mpr ⟨⟨measured,found,le_trans (le_max_right _ _) grown⟩,each⟩

theorem validateBoundedMetadataFrames_ok (metadata : ReplayMetadata) (maxFrames required : Nat)
    (ok : validateBoundedMetadataFrames metadata maxFrames = .ok required) :
    required ≤ maxFrames ∧
      (∀ event ∈ metadata.events, ∃ count, event.requiredFrameCount = some count ∧ count ≤ required) ∧
      ∀ checkpoint ∈ metadata.checkpoints, checkpoint.frame.toNat ≤ required := by
  obtain ⟨events,first,second⟩ := bind_ok.mp ok
  obtain ⟨_,eventsFit,each⟩ := foldlM_max_ok _ _ _ _ _ _ first
  obtain ⟨grown,fits,checkpoints⟩ := foldlM_max_ok (fun checkpoint : ReplayCheckpoint => .ok checkpoint.frame.toNat)
    _ _ _ _ _ second
  refine ⟨fits (eventsFit zero_le),?_,?_⟩
  · intro event member
    obtain ⟨count,counted,small⟩ := each event member
    exact ⟨count,context_ok.mp counted,le_trans small grown⟩
  · intro checkpoint member
    obtain ⟨_,same,small⟩ := checkpoints checkpoint member
    cases same
    exact small

theorem requiredFrames_le (metadata : ReplayMetadata) (required padded : Nat)
    (events : ∀ event ∈ metadata.events, ∃ count, event.requiredFrameCount = some count ∧ count ≤ required)
    (checkpoints : ∀ checkpoint ∈ metadata.checkpoints, checkpoint.frame.toNat ≤ required)
    (found : requiredFrames metadata = some padded) : padded ≤ required := by
  have member := (List.max?_eq_some_iff.mp found).1
  rcases mem_append.mp member with member | member
  · obtain ⟨event,inside,counted⟩ := mem_filterMap.mp member
    obtain ⟨count,same,small⟩ := events event inside
    rw [counted] at same
    cases same
    exact small
  · obtain ⟨checkpoint,inside,rfl⟩ := mem_map.mp member
    exact checkpoints checkpoint inside

theorem padFrames_reach (frames : List ReplayJoypadFrame) (metadata : ReplayMetadata) (count : Nat)
    (member : count ∈ metadata.events.filterMap ReplayEvent.requiredFrameCount ++
      metadata.checkpoints.map (fun checkpoint => checkpoint.frame.toNat)) :
    count ≤ (padFramesToMetadataEvents frames metadata).length := by
  unfold padFramesToMetadataEvents
  cases found : requiredFrames metadata with
  | none =>
    rw [requiredFrames,List.max?_eq_none_iff] at found
    rw [found] at member
    contradiction
  | some required =>
    have small := (List.max?_eq_some_iff.mp found).2 count member
    dsimp only
    split
    · omega
    · rw [length_append,length_replicate]
      omega

theorem foldlM_cameraBytes (frames : List ReplayJoypadFrame) (message : String) (start result : Nat)
    (ok : frames.foldlM (fun total frame => checkedAdd total (cameraLength frame.cameraFrame) message) start = .ok result) :
    result = start + cameraBytes frames := by
  induction frames generalizing start with
  | nil => cases ok; rfl
  | cons frame frames ih =>
    rw [foldlM_cons] at ok
    obtain ⟨total,first,rest⟩ := bind_ok.mp ok
    obtain ⟨_,rfl⟩ := checkedAdd_ok.mp first
    rw [ih _ rest,cameraBytes_cons,add_assoc]

theorem validateBoundedPadding_ok (frames : List ReplayJoypadFrame) (required maxDecodedCameraBytes : Nat)
    (ok : validateBoundedPadding frames required maxDecodedCameraBytes = .ok ()) : required ≤ frames.length ∨
    cameraBytes frames + (required - frames.length) * cameraLength (frames.getLast?.bind ReplayJoypadFrame.cameraFrame) ≤
      maxDecodedCameraBytes := by
  unfold validateBoundedPadding at ok
  split at ok
  · exact .inl ‹_›
  · obtain ⟨total,summed,ok⟩ := bind_ok.mp ok
    obtain ⟨_,ok⟩ := check_bind_ok.mp ok
    obtain ⟨padded,added,ok⟩ := bind_ok.mp ok
    obtain ⟨_,rfl⟩ := checkedAdd_ok.mp added
    have counted := foldlM_cameraBytes _ _ _ _ summed
    have small := ensure_ok.mp ok
    rw [zero_add] at counted
    exact .inr (counted ▸ small)

theorem cameraLength_last (frames : List ReplayJoypadFrame) : cameraLength (frames.getLast?.getD {}).cameraFrame =
    cameraLength (frames.getLast?.bind ReplayJoypadFrame.cameraFrame) := by
  cases frames.getLast? <;> rfl

theorem padFrames_limits (frames : List ReplayJoypadFrame) (metadata : ReplayMetadata)
    (required maxFrames maxDecodedCameraBytes : Nat)
    (enough : ∀ padded, requiredFrames metadata = some padded → padded ≤ required) (allowed : required ≤ maxFrames)
    (few : frames.length ≤ maxFrames) (small : cameraBytes frames ≤ maxDecodedCameraBytes)
    (checked : validateBoundedPadding frames required maxDecodedCameraBytes = .ok ()) :
    (padFramesToMetadataEvents frames metadata).length ≤ maxFrames ∧
      cameraBytes (padFramesToMetadataEvents frames metadata) ≤ maxDecodedCameraBytes := by
  unfold padFramesToMetadataEvents
  cases found : requiredFrames metadata with
  | none => exact ⟨few,small⟩
  | some padded =>
    have below := enough padded found
    dsimp only
    split
    · exact ⟨few,small⟩
    · rename_i short
      rw [length_append,length_replicate,cameraBytes_append,cameraBytes_replicate,cameraLength_last]
      refine ⟨by omega,?_⟩
      rcases validateBoundedPadding_ok _ _ _ checked with reached | bounded
      · omega
      · have fewer := Nat.mul_le_mul_right (cameraLength (frames.getLast?.bind ReplayJoypadFrame.cameraFrame))
          (Nat.sub_le_sub_right below frames.length)
        omega

theorem decodeFrames_limits (version : UInt32) (limits : ReplayLoadLimits) (count index : Nat) (previous : Option Bytes)
    (decoded : Nat) (input left : Bytes) (frames : List ReplayJoypadFrame) (low : decoded ≤ limits.maxDecodedCameraBytes)
    (ok : decodeFrames version (some limits) index previous decoded count input = .ok (frames,left)) :
    decoded + cameraBytes frames ≤ limits.maxDecodedCameraBytes := by
  induction count generalizing index previous decoded input frames with
  | zero => cases ok; exact low
  | succ count ih =>
    obtain ⟨chunk,_,_,ok⟩ := Reader.bind_eq_ok.mp ok
    obtain ⟨_,_,_,ok⟩ := Reader.bind_eq_ok.mp ok
    obtain ⟨⟨camera,next⟩,_,_,ok⟩ := Reader.bind_eq_ok.mp ok
    obtain ⟨total,_,added,ok⟩ := Reader.bind_eq_ok.mp ok
    obtain ⟨_,_,inside,ok⟩ := Reader.bind_eq_ok.mp ok
    obtain ⟨frame,_,read,ok⟩ := Reader.bind_eq_ok.mp ok
    obtain ⟨others,_,later,ok⟩ := Reader.bind_eq_ok.mp ok
    cases ok
    obtain ⟨_,rfl⟩ := checkedAdd_ok.mp (Reader.lift_eq_ok.mp added).1
    have kept : cameraLength frame.cameraFrame = cameraLength camera :=
      congrArg cameraLength (decodeChunk_camera _ _ _ _ (Reader.lift_eq_ok.mp read).1)
    have bounded : decoded + cameraLength camera ≤ limits.maxDecodedCameraBytes := by
      rcases ensure_ok.mp (Reader.lift_eq_ok.mp inside).1 with absent | within
      · rw [absent]
        exact low
      · exact within limits rfl
    rw [cameraBytes_cons,kept,← add_assoc]
    exact ih _ _ _ _ others bounded later

theorem decodeInputFrames_limits (input : Bytes) (version : UInt32) (limits : ReplayLoadLimits)
    (frames : List ReplayJoypadFrame) (ok : decodeInputFrames input version (some limits) = .ok frames) :
    frames.length ≤ limits.maxFrames ∧ cameraBytes frames ≤ limits.maxDecodedCameraBytes := by
  obtain ⟨_,ok⟩ := check_bind_ok.mp ok
  obtain ⟨few,ok⟩ := check_bind_ok.mp ok
  obtain ⟨⟨read,left⟩,decoded,ok⟩ := bind_ok.mp ok
  obtain ⟨_,ok⟩ := check_bind_ok.mp ok
  cases ok
  constructor
  · rw [decodeFrames_length decoded]
    exact ensure_ok.mp few limits rfl
  · have total := decodeFrames_limits _ _ _ _ _ _ _ _ _ zero_le decoded
    rwa [zero_add] at total

theorem legacyChunks_frames (input : Bytes) :
    (legacyChunks input).length ≤ input.length / 2 ∧ cameraBytes (legacyChunks input) = 0 := by
  fun_induction legacyChunks input with
  | case1 buttons dpad rest ih =>
    rw [length_cons,length_cons,length_cons,cameraBytes_cons,ih.2]
    exact ⟨by omega,rfl⟩
  | case2 => exact ⟨Nat.zero_le _,rfl⟩

theorem decodeLegacyV1InputFrames_limits (input : Bytes) (limits : ReplayLoadLimits) (frames : List ReplayJoypadFrame)
    (ok : decodeLegacyV1InputFrames input (some limits) = .ok frames) :
    frames.length ≤ limits.maxFrames ∧ cameraBytes frames ≤ limits.maxDecodedCameraBytes := by
  obtain ⟨_,ok⟩ := check_bind_ok.mp ok
  obtain ⟨few,ok⟩ := check_bind_ok.mp ok
  cases ok
  obtain ⟨short,dark⟩ := legacyChunks_frames input
  have allowed : input.length / 2 ≤ limits.maxFrames := ensure_ok.mp few limits rfl
  exact ⟨le_trans short allowed,dark ▸ Nat.zero_le _⟩

/-- What bounded decoding promises of a player. -/
structure ReplayPlayer.Bounded (player : ReplayPlayer) (limits : ReplayLoadLimits) : Prop where
  saveState : player.saveState.length ≤ limits.maxStateBytes
  frames : player.frames.length ≤ limits.maxFrames
  cameras : cameraBytes player.frames ≤ limits.maxDecodedCameraBytes
  events : ∀ event ∈ player.metadata.events, event.Within player.frames.length
  checkpoints : ∀ checkpoint ∈ player.metadata.checkpoints, checkpoint.frame.toNat ≤ player.frames.length

theorem ReplayPlayer.bounded_of_validated (saveState : Bytes) (frames : List ReplayJoypadFrame)
    (metadata : ReplayMetadata) (version : UInt32) (limits : ReplayLoadLimits) (required : Nat)
    (state : saveState.length ≤ limits.maxStateBytes) (few : frames.length ≤ limits.maxFrames)
    (small : cameraBytes frames ≤ limits.maxDecodedCameraBytes)
    (validated : validateBoundedMetadataFrames metadata limits.maxFrames = .ok required)
    (checked : validateBoundedPadding frames required limits.maxDecodedCameraBytes = .ok ()) :
    ReplayPlayer.Bounded ⟨saveState,padFramesToMetadataEvents frames metadata,0,metadata,0,version⟩ limits := by
  obtain ⟨allowed,events,checkpoints⟩ := validateBoundedMetadataFrames_ok _ _ _ validated
  obtain ⟨length,cameras⟩ := padFrames_limits frames metadata required _ _
    (fun padded => requiredFrames_le metadata required padded events checkpoints) allowed few small checked
  refine ⟨state,length,cameras,?_,?_⟩
  · intro event member
    obtain ⟨count,counted,_⟩ := events event member
    exact event.within_of_required count _ counted
      (padFrames_reach frames metadata count (mem_append_left _ (mem_filterMap.mpr ⟨event,member,counted⟩)))
  · intro checkpoint member
    exact padFrames_reach frames metadata _ (mem_append_right _ (mem_map.mpr ⟨checkpoint,member,rfl⟩))

theorem readFile_ok {count : Nat} {input front rest : Bytes} (ok : readFile count input = .ok (front,rest)) :
    front.length = count := ((Reader.exact_eq_ok _ _ _ _ _).mp ok).1

/-- What a replay file gives: the frames of a legacy file, or those of a file with metadata. -/
inductive ReplayPlayer.Decoded (limits : Option ReplayLoadLimits) : ReplayPlayer → Prop where
  | legacy (saveState input : Bytes) (frames : List ReplayJoypadFrame)
      (short : within limits ReplayLoadLimits.maxStateBytes saveState.length)
      (decoded : decodeLegacyV1InputFrames input limits = .ok frames) : Decoded limits ⟨saveState,frames,0,{},0,1⟩
  | current (saveState block input : Bytes) (frames : List ReplayJoypadFrame) (metadata : ReplayMetadata) (version : UInt32)
      (required : Option Nat) (read : ReplayMetadata.decode block = .ok metadata)
      (validated : limits.mapM (fun limit => validateBoundedMetadataFrames metadata limit.maxFrames) = .ok required)
      (short : within limits ReplayLoadLimits.maxStateBytes saveState.length)
      (decoded : decodeInputFrames input version limits = .ok frames)
      (padded : ∀ limit count, limits = some limit → required = some count →
        validateBoundedPadding frames count limit.maxDecodedCameraBytes = .ok ()) :
      Decoded limits ⟨saveState,padFramesToMetadataEvents frames metadata,0,metadata,0,version⟩

theorem ReplayPlayer.decodeFile_decoded {limits : Option ReplayLoadLimits} {bytes left : Bytes} {player : ReplayPlayer}
    (ok : ReplayPlayer.decodeFile limits bytes = .ok (player,left)) : player.Decoded limits := by
  obtain ⟨_,_,_,ok⟩ := Reader.bind_eq_ok.mp ok
  obtain ⟨_,_,_,ok⟩ := Reader.bind_eq_ok.mp ok
  obtain ⟨version,_,_,ok⟩ := Reader.bind_eq_ok.mp ok
  obtain ⟨_,_,_,ok⟩ := Reader.bind_eq_ok.mp ok
  obtain ⟨firstLen,_,_,ok⟩ := Reader.bind_eq_ok.mp ok
  obtain ⟨_,_,_,ok⟩ := Reader.bind_eq_ok.mp ok
  obtain ⟨firstBlock,_,block,ok⟩ := Reader.bind_eq_ok.mp ok
  split at ok
  · obtain ⟨_,_,state,ok⟩ := Reader.bind_eq_ok.mp ok
    obtain ⟨input,_,_,ok⟩ := Reader.bind_eq_ok.mp ok
    obtain ⟨frames,_,decoded,ok⟩ := Reader.bind_eq_ok.mp ok
    cases ok
    have short := ensure_ok.mp (Reader.lift_eq_ok.mp state).1
    exact .legacy firstBlock input frames (readFile_ok block ▸ short) (Reader.lift_eq_ok.mp decoded).1
  · obtain ⟨_,_,_,ok⟩ := Reader.bind_eq_ok.mp ok
    obtain ⟨metadata,_,read,ok⟩ := Reader.bind_eq_ok.mp ok
    obtain ⟨required,_,validated,ok⟩ := Reader.bind_eq_ok.mp ok
    obtain ⟨stateLen,_,_,ok⟩ := Reader.bind_eq_ok.mp ok
    obtain ⟨_,_,state,ok⟩ := Reader.bind_eq_ok.mp ok
    obtain ⟨saveState,_,saved,ok⟩ := Reader.bind_eq_ok.mp ok
    obtain ⟨input,_,_,ok⟩ := Reader.bind_eq_ok.mp ok
    obtain ⟨frames,_,decoded,ok⟩ := Reader.bind_eq_ok.mp ok
    have short := ensure_ok.mp (Reader.lift_eq_ok.mp state).1
    have padded : (∀ limit count, limits = some limit → required = some count →
        validateBoundedPadding frames count limit.maxDecodedCameraBytes = .ok ()) ∧
        player = ⟨saveState,padFramesToMetadataEvents frames metadata,0,metadata,0,version⟩ := by
      split at ok
      · obtain ⟨_,_,checked,ok⟩ := Reader.bind_eq_ok.mp ok
        cases ok
        refine ⟨?_,rfl⟩
        rintro _ _ ⟨⟩ ⟨⟩
        exact (Reader.lift_eq_ok.mp checked).1
      · rename_i lacking
        cases ok
        exact ⟨fun limit count limited counted => (lacking limit count limited counted).elim,rfl⟩
    obtain ⟨padded,rfl⟩ := padded
    exact .current saveState firstBlock input frames metadata version required
      ((mapError_ok _ _ _).mp (Reader.lift_eq_ok.mp read).1) (Reader.lift_eq_ok.mp validated).1
      (readFile_ok saved ▸ short) (Reader.lift_eq_ok.mp decoded).1 padded

theorem ReplayPlayer.decode_decoded {bytes : Bytes} {limits : Option ReplayLoadLimits} {player : ReplayPlayer}
    (ok : ReplayPlayer.decode bytes limits = .ok player) : player.Decoded limits := by
  obtain ⟨⟨_,left⟩,read,rfl⟩ := map_eq_ok.mp ok
  exact decodeFile_decoded read

/-- A player from a bounded load keeps every limit, and all its events and checkpoints lie within its frames. -/
theorem ReplayPlayer.decodeBounded_limits (bytes : Bytes) (limits : ReplayLoadLimits) (player : ReplayPlayer)
    (ok : ReplayPlayer.decodeBounded bytes limits = .ok player) : player.Bounded limits := by
  obtain ⟨_,ok⟩ := check_bind_ok.mp ok
  cases decode_decoded ok with
  | legacy saveState input frames short decoded =>
    obtain ⟨few,small⟩ := decodeLegacyV1InputFrames_limits _ _ _ decoded
    exact ⟨short limits rfl,few,small,fun _ absent => (not_mem_nil absent).elim,
      fun _ absent => (not_mem_nil absent).elim⟩
  | current saveState block input frames metadata version required read validated short decoded padded =>
    obtain ⟨few,small⟩ := decodeInputFrames_limits _ _ _ _ decoded
    obtain ⟨count,counted,same⟩ := bind_ok.mp validated
    exact bounded_of_validated saveState frames metadata version limits count (short limits rfl) few small counted
      (padded limits count rfl (Except.ok.inj same).symm)

def cameraLimits : ReplayLoadLimits := ⟨1000,1000,1,3,6⟩

theorem decodeBounded_limits_camera : ∃ player, ReplayPlayer.decodeBounded cameraFile cameraLimits = .ok player ∧
    player.Bounded cameraLimits := by
  obtain ⟨player,ok⟩ : ∃ player, ReplayPlayer.decodeBounded cameraFile cameraLimits = .ok player := by
    cases found : ReplayPlayer.decodeBounded cameraFile cameraLimits with
    | ok player => exact ⟨player,rfl⟩
    | error message =>
      have loaded : (ReplayPlayer.decodeBounded cameraFile cameraLimits).isOk = true := by decide +kernel
      rw [found] at loaded
      contradiction
  exact ⟨player,ok,ReplayPlayer.decodeBounded_limits cameraFile cameraLimits player ok⟩

end ZeffBoy.Replay
