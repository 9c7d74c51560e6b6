import ZeffBoy.Replay.Metadata

/-! Metadata through the encoder and the decoder.
What the encoder accepts decodes to itself in canonical order, exactly when the link
states and the continuation inside it pass the decoder's checks. -/
namespace ZeffBoy.Replay
open Library MetadataCursor List

theorem validateStringLen_ok (value : String) : validateStringLen value = .ok () ↔ Fits value := ensure_ok

def ReplayFirmwareManifest.Fits : ReplayFirmwareManifest → Prop
  | external firmwareId variant _ => Replay.Fits firmwareId ∧ ∀ text, variant = some text → Replay.Fits text
  | hle firmwareId implementation _ => Replay.Fits firmwareId ∧ Replay.Fits implementation
  | builtinOpenSource firmwareId implementation _ _ => Replay.Fits firmwareId ∧ Replay.Fits implementation
  | skipped firmwareId _ => Replay.Fits firmwareId

theorem ReplayFirmwareManifest.validateStrings_ok (firmware : ReplayFirmwareManifest) :
    firmware.validateStrings = .ok () ↔ firmware.Fits := by
  cases firmware <;> simp [validateStrings,Fits,check_bind_ok,option_forM_ok,validateStringLen_ok]

theorem ReplayEvent.validateStrings_ok (event : ReplayEvent) : event.validateStrings = .ok () ↔ event.Fits := by
  cases event with
  | media frame sequence event =>
    cases event <;> simp [validateStrings,Fits,MediaEvent.Fits,MediaEvent.slot,check_bind_ok,validateStringLen_ok]
  | _ => simp [validateStrings,Fits]

theorem run_firmware (firmware : ReplayFirmwareManifest) (fits : firmware.Fits) (rest : Bytes) :
    ReplayFirmwareManifest.decode (firmware.encode ++ rest) = .ok (firmware,rest) := by
  cases firmware with
  | external firmwareId variant sha256 =>
    simp [ReplayFirmwareManifest.decode,ReplayFirmwareManifest.encode,fits.1,run_readOptionalString variant fits.2]
  | hle firmwareId implementation compatibilityVersion =>
    simp [ReplayFirmwareManifest.decode,ReplayFirmwareManifest.encode,fits.1,fits.2]
  | builtinOpenSource firmwareId implementation compatibilityVersion sha256 =>
    simp [ReplayFirmwareManifest.decode,ReplayFirmwareManifest.encode,fits.1,fits.2]
  | skipped firmwareId compatibilityVersion =>
    simp [ReplayFirmwareManifest.decode,ReplayFirmwareManifest.encode,show Replay.Fits firmwareId from fits]

@[simp] theorem run_checkpoint (checkpoint : ReplayCheckpoint) (rest : Bytes) :
    ReplayCheckpoint.decode (checkpoint.encode ++ rest) = .ok (checkpoint,rest) := by
  simp [ReplayCheckpoint.decode,ReplayCheckpoint.encode]

@[simp] theorem length_checkpoint (checkpoint : ReplayCheckpoint) : checkpoint.encode.length = 40 := by
  simp [ReplayCheckpoint.encode]

theorem run_readCounted {α : Type} (maximum : Nat) (tooMany tooShort : String) (item : Reader α) (encode : α → Bytes)
    (outcome : α → Except String α) (values : List α) (few : values.length ≤ maximum) (fits : values.length < 2^32)
    (filled : ∀ value, 1 ≤ (encode value).length)
    (answers : ∀ value ∈ values, ∀ rest,
      item (encode value ++ rest) = (outcome value).map (fun value => (value,rest))) (rest : Bytes) :
    readCounted maximum tooMany tooShort item
        (writeU32 (UInt32.ofNat values.length) ++ (values.flatMap encode ++ rest)) =
      (values.mapM outcome).map (fun values => (values,rest)) := by
  have enough : values.length ≤ (values.flatMap encode).length := by
    rw [List.length_flatMap]
    have each := length_le_sum_of_one_le (values.map (fun value => (encode value).length))
      (by simp only [forall_mem_map]; exact fun value _ => filled value)
    simpa using each
  have unread : values.length ≤ (values.flatMap encode ++ rest).length := by
    rw [length_append]
    exact Nat.le_add_right_of_le enough
  simp only [readCounted,Reader.run_bind,run_readU32,ok_bind,count_toNat _ fits,ensure_pos few,Reader.run_lift,map_ok,
    Reader.remaining,ensure_pos unread]
  exact Reader.run_many item encode outcome values answers rest

theorem run_readIfPresent {α : Type} {absent : α} {item : Reader α} {front rest : Bytes} (present : front ≠ []) :
    readIfPresent absent item (front ++ rest) = item (front ++ rest) := by
  have unread : ¬(front ++ rest).length = 0 := by simp [present]
  simp only [readIfPresent,Reader.run_bind,Reader.remaining,ok_bind,if_neg unread]

theorem writeOptional_ne_nil {α : Type} (write : α → Bytes) (value : Option α) : writeOptional write value ≠ [] := by
  cases value <;> simp [writeOptional]

theorem run_readOptionalU64 (value : Option UInt64) (rest : Bytes) :
    readOptional (fun tag => s!"invalid optional u64 tag: {tag}") readU64 (writeOptionalU64 value ++ rest) =
      .ok (value,rest) :=
  run_readOptional value rest (fun inner _ => run_readU64 inner rest)

theorem length_checkpoints (checkpoints : List ReplayCheckpoint) :
    (checkpoints.flatMap ReplayCheckpoint.encode).length = checkpoints.length * 40 := by
  induction checkpoints with
  | nil => rfl
  | cons checkpoint checkpoints ih =>
    rw [flatMap_cons,length_append,length_checkpoint,ih,length_cons,Nat.add_one_mul,add_comm]

theorem sortCheckpoints_idem (checkpoints : List ReplayCheckpoint) :
    sortCheckpoints (sortCheckpoints checkpoints) = sortCheckpoints checkpoints := by
  refine mergeSort_of_pairwise ?_
  refine pairwise_mergeSort ?_ ?_ checkpoints
  · simp only [decide_eq_true_iff]
    exact fun _ _ _ => UInt64.le_trans
  · simp only [Bool.or_eq_true,decide_eq_true_iff]
    exact fun left right => UInt64.le_total _ _

theorem run_readCheckpoints (checkpoints : List ReplayCheckpoint) (few : checkpoints.length ≤ maxReplayCheckpoints)
    (rest : Bytes) : readCheckpoints (writeU32 (UInt32.ofNat checkpoints.length) ++
        (checkpoints.flatMap ReplayCheckpoint.encode ++ rest)) = .ok (sortCheckpoints checkpoints,rest) := by
  have bound : checkpoints.length ≤ 100000 := few
  have fits : checkpoints.length < 2^32 := by omega
  have product : checkpoints.length * 40 < 2^64 := by omega
  have unread : checkpoints.length * 40 ≤ (checkpoints.flatMap ReplayCheckpoint.encode ++ rest).length := by
    rw [length_append,length_checkpoints]
    exact Nat.le_add_right _ _
  have items := Reader.run_many ReplayCheckpoint.decode ReplayCheckpoint.encode (fun checkpoint => .ok checkpoint)
    checkpoints (fun checkpoint _ rest => run_checkpoint checkpoint rest) rest
  simp only [readCheckpoints,Reader.run_bind,run_readU32,ok_bind,count_toNat _ fits,ensure_pos few,Reader.run_lift,
    map_ok,ensure_pos product,Reader.remaining,ensure_pos unread,items,Reader.mapM_ok,Reader.run_pure]

namespace ReplayMetadata

/-- What is left of decoding once every field has been read back. -/
def admitted (metadata : ReplayMetadata) : Except String ReplayMetadata := do
  let _ ← metadata.events.mapM (checkedBy ReplayEvent.validateState)
  let _ ← metadata.gameBoyLinkStartState.mapM (checkedBy ReplayGameBoyLinkState.validate)
  metadata.validateLinkStart metadataVersion
  return metadata

theorem decode_encode (metadata : ReplayMetadata) (bytes : Bytes) (ok : metadata.encode = .ok bytes) :
    decode bytes = metadata.canonical.admitted := by
  obtain ⟨limits,ok⟩ := check_bind_ok.mp ok
  simp only [validateEncodingLimits,check_bind_ok,forM_eq_forM,Option.forM_eq_forM,forM_ok,option_forM_ok,
    validateStringLen_ok,ReplayFirmwareManifest.validateStrings_ok,ReplayEvent.validateStrings_ok,validateCount,
    ensure_ok] at limits
  obtain ⟨⟨fewFirmware,fitFirmware⟩,⟨fewEvents,fitEvents⟩,⟨fewCheckpoints,_⟩,system,coreFamily,firmware,events⟩ := limits
  cases ok
  have version : (UInt32.ofNat metadataVersion).toNat = metadataVersion := by decide
  have supported : minMetadataVersion ≤ metadataVersion ∧ metadataVersion ≤ metadataVersion := by decide
  have third : 3 ≤ metadataVersion := by decide
  have second : 2 ≤ metadataVersion := by decide
  have firmwareRun := run_readCounted maxReplayFirmwareManifests
    s!"replay exceeds {maxReplayFirmwareManifests} firmware manifests"
    "replay firmware count exceeds the remaining metadata" ReplayFirmwareManifest.decode ReplayFirmwareManifest.encode
    .ok metadata.firmware fewFirmware fitFirmware (fun firmware => by cases firmware <;> simp [ReplayFirmwareManifest.encode])
    (fun manifest member rest => run_firmware manifest (firmware manifest member) rest)
  have eventsRun := run_readCounted maxReplayEvents s!"replay exceeds {maxReplayEvents} events"
    "replay event count exceeds the remaining metadata" (ReplayEvent.decode metadataVersion)
    (fun event => event.encode metadataVersion) (checkedBy ReplayEvent.validateState)
    (ReplayEvent.sortCanonical metadata.events)
    (by rw [ReplayEvent.length_sortCanonical]; exact fewEvents) (by rw [ReplayEvent.length_sortCanonical]; exact fitEvents)
    (fun event => by cases event <;> simp [ReplayEvent.encode])
    (fun event member rest => run_event event metadataVersion second
      (events event ((ReplayEvent.mem_sortCanonical _ _).mp member)) rest)
  simp only [decode,decodeFields,Reader.run_bind,run_readU32,ok_bind,Reader.run_lift,version,ensure_pos supported,map_ok,
    run_readOptionalString _ system,run_readOptionalString _ coreFamily,run_readOptionalHash,firmwareRun,Reader.mapM_ok,eventsRun]
  have hashes : ∀ value, writeOptionalHash value ≠ [] := writeOptional_ne_nil _
  have words : ∀ value, writeOptionalU64 value ≠ [] := writeOptional_ne_nil _
  have counts : ∀ value, writeU32 value ≠ [] := fun value empty => by simpa using congrArg List.length empty
  have lists : (sortCheckpoints metadata.checkpoints).length ≤ maxReplayCheckpoints := by
    rw [sortCheckpoints,length_mergeSort]; exact fewCheckpoints
  have last := run_readFlagged_ok "GB master continuation present flag" ReplayGameBoyLinkCoordinatorState.decode
    ReplayGameBoyLinkCoordinatorState.encode metadata.gameBoyLinkCoordinatorStartState []
    (fun inner => run_coordinatorState inner [])
  rw [append_nil] at last
  rw [admitted]
  cases read : (ReplayEvent.sortCanonical metadata.events).mapM (checkedBy ReplayEvent.validateState) with
  | error message => simp [canonical,read]; rfl
  | ok decoded =>
    obtain ⟨_,rfl⟩ := (mapM_checkedBy_ok _ _ _).mp read
    simp only [map_ok,ok_bind,run_readIfPresent (hashes _),run_readOptionalHash,
      run_readIfPresent (writeOptional_ne_nil _ _)]
    have stateRun := fun rest => run_readFlagged "GB link start state present flag"
      (ReplayGameBoyLinkState.decode metadataVersion) (fun state => state.encode metadataVersion)
      (checkedBy ReplayGameBoyLinkState.validate) metadata.gameBoyLinkStartState rest
      (fun inner _ => run_linkState inner metadataVersion second rest)
    have start : metadata.canonical.gameBoyLinkStartState = metadata.gameBoyLinkStartState := rfl
    have sortedEvents : metadata.canonical.events = ReplayEvent.sortCanonical metadata.events := rfl
    rw [stateRun,sortedEvents,read,ok_bind,start]
    cases valid : metadata.gameBoyLinkStartState.mapM (checkedBy ReplayGameBoyLinkState.validate) with
    | error message => rfl
    | ok state =>
      have same : state = metadata.gameBoyLinkStartState := ((option_mapM_checkedBy_ok _ _ _).mp valid).2
      subst same
      simp only [map_ok,ok_bind,run_readIfPresent (words _),run_readOptionalU64,
        run_readIfPresent (counts _),run_readCheckpoints _ lists,if_pos third,
        readOptionalGameBoyLinkCoordinatorState,last,finish,Reader.run_bind,Reader.remaining,Reader.run_lift,
        length_nil,sortCheckpoints_idem,
        ReplayEvent.sortCanonical_of_canonical _ (ReplayEvent.sortCanonical_pairwise _),Reader.run_pure]
      change Except.map Prod.fst ((metadata.canonical.validateLinkStart metadataVersion).map _ >>= _) = _
      cases metadata.canonical.validateLinkStart metadataVersion <;> rfl

theorem decode_encode_ok (metadata result : ReplayMetadata) (bytes : Bytes) (ok : metadata.encode = .ok bytes) :
    decode bytes = .ok result ↔
      (∀ event ∈ metadata.events, event.validateState = .ok ()) ∧
      (∀ state, metadata.gameBoyLinkStartState = some state → state.validate = .ok ()) ∧
      metadata.canonical.validateLinkStart metadataVersion = .ok () ∧ result = metadata.canonical := by
  have events : (∀ event ∈ metadata.canonical.events, event.validateState = .ok ()) ↔
      ∀ event ∈ metadata.events, event.validateState = .ok () := by
    simp only [canonical,ReplayEvent.mem_sortCanonical]
  rw [decode_encode metadata bytes ok,admitted]
  simp only [bind_ok,mapM_checkedBy_ok,option_mapM_checkedBy_ok,pure,Except.pure,Except.ok.injEq]
  constructor
  · rintro ⟨_,⟨valid,_⟩,_,⟨start,_⟩,_,link,rfl⟩
    exact ⟨events.mp valid,start,link,rfl⟩
  · rintro ⟨valid,start,link,rfl⟩
    exact ⟨_,⟨events.mpr valid,rfl⟩,_,⟨start,rfl⟩,(),link,rfl⟩

end ReplayMetadata

end ZeffBoy.Replay
