import ZeffBoy.Replay.MetadataRoundTrip
import ZeffBoy.Replay.Player

/-! Replay files through the recorder and the player. -/
namespace ZeffBoy.Replay
open Library List

theorem leValue_append_zero (bytes : Bytes) : leValue (bytes ++ [0]) = leValue bytes := by
  induction bytes with
  | nil => rfl
  | cons byte rest ih => rw [cons_append,leValue,ih,leValue]

theorem leValue_word16 (value : UInt16) : UInt16.ofNat (leValue (leBytes 2 value.toNat)) = value := by
  rw [leValue_leBytes 2 _ value.toNat_lt]
  exact UInt16.ofNat_toNat

theorem leValue_word32 (value : UInt32) : UInt32.ofNat (leValue (writeU32 value)) = value := by
  rw [writeU32,leValue_leBytes 4 _ value.toNat_lt]
  exact UInt32.ofNat_toNat

theorem leValue_word24 (value : UInt32) (fits : value.toNat < 2^24) :
    UInt32.ofNat (leValue ((writeU32 value).take 3 ++ [0])) = value := by
  have front : (writeU32 value).take 3 = leBytes 3 value.toNat := by simp [writeU32,leBytes]
  rw [front,leValue_append_zero,leValue_leBytes 3 _ fits]
  exact UInt32.ofNat_toNat

/-- The frames that a version can hold: the second has no Coleco controllers. -/
def Holds (version : UInt32) (frame : ReplayJoypadFrame) : Prop :=
  version = Replay.version ∨ version = v2Version ∧ frame.coleco = ({},{})

theorem length_fixedBytes (version : UInt32) (frame : ReplayJoypadFrame) (holds : Holds version frame) :
    (ReplayRecorder.fixedBytes version frame).length = fixedLen version := by
  rcases holds with rfl | ⟨rfl,_⟩
  · simp [ReplayRecorder.fixedBytes,fixedLen,frameFixedBytes]
  · simp [ReplayRecorder.fixedBytes,fixedLen,Replay.version,v2Version,v2FrameFixedBytes]

theorem reserved_fixedBytes (version : UInt32) (frame : ReplayJoypadFrame) (holds : Holds version frame) :
    byteAt (ReplayRecorder.fixedBytes version frame) (17 + playerOffset version) = 0 := by
  have offset : playerOffset version = 6 := by rcases holds with rfl | ⟨rfl,_⟩ <;> rfl
  simp [offset,ReplayRecorder.fixedBytes,byteAt_skip,byteAt_cons_skip]

theorem decodeChunk_fixedBytes (version : UInt32) (frame : ReplayJoypadFrame) (holds : Holds version frame)
    (first : frame.coleco.1.keypad ≤ 12) (second : frame.coleco.2.keypad ≤ 12) :
    decodeChunk version (ReplayRecorder.fixedBytes version frame) frame.cameraFrame = .ok frame := by
  have offset : playerOffset version = 6 := by rcases holds with rfl | ⟨rfl,_⟩ <;> rfl
  have later : v2Version ≤ version := by rcases holds with rfl | ⟨rfl,_⟩ <;> decide
  have coleco : decodeColeco version (ReplayRecorder.fixedBytes version frame) = .ok frame.coleco := by
    rcases holds with rfl | ⟨rfl,same⟩
    · obtain ⟨fits,unpacked⟩ := unpackColeco_packColeco frame.coleco first second
      have word : slice (ReplayRecorder.fixedBytes Replay.version frame) 24 27 = (writeU32 (packColeco frame.coleco)).take 3 := by
        simp [ReplayRecorder.fixedBytes,slice_skip,slice_all,slice_cons_skip]
      rw [decodeColeco,if_pos rfl,word,leValue_word24 _ fits,unpacked]
    · rw [decodeColeco,if_neg (by decide),same]
  have x : slice (ReplayRecorder.fixedBytes version frame) 11 13 = leBytes 2 (frame.zapper.screenPos.getD (0,0)).1.toNat := by
    simp [ReplayRecorder.fixedBytes,slice_front,slice_cons_skip]
  have y : slice (ReplayRecorder.fixedBytes version frame) 13 15 = leBytes 2 (frame.zapper.screenPos.getD (0,0)).2.toNat := by
    simp [ReplayRecorder.fixedBytes,slice_skip,slice_front,slice_cons_skip]
  have tiltX : slice (ReplayRecorder.fixedBytes version frame) 15 19 = writeU32 frame.hostTilt.1 := by
    simp [ReplayRecorder.fixedBytes,slice_skip,slice_front,slice_cons_skip]
  have tiltY : slice (ReplayRecorder.fixedBytes version frame) 19 23 = writeU32 frame.hostTilt.2 := by
    simp [ReplayRecorder.fixedBytes,slice_skip,slice_front,slice_cons_skip]
  have flags : byteAt (ReplayRecorder.fixedBytes version frame) 10 = frame.zapper.flags := rfl
  simp only [decodeChunk,offset,x,y,tiltX,tiltY,leValue_word16,leValue_word32,flags,zapper_fromParts_flags,ok_bind,coleco,
    if_pos later]
  rfl

/-- The camera frames that the decoder tells apart from none and from what it refuses. -/
def KeepsCamera (cameraFrame : Option Bytes) : Prop :=
  ∀ bytes, cameraFrame = some bytes → bytes ≠ [] ∧ bytes.length ≤ maxReplayCameraFrameBytes

theorem cameraLength_le (cameraFrame : Option Bytes) (keeps : KeepsCamera cameraFrame) :
    cameraLength cameraFrame ≤ maxReplayCameraFrameBytes := by
  cases cameraFrame with
  | none => exact Nat.zero_le _
  | some bytes => exact (keeps bytes rfl).2

theorem run_readLength (frameIndex : Nat) (value : UInt32) (rest : Bytes) :
    Reader.withContext s!"truncated replay camera length at frame {frameIndex}"
      (Reader.exact "truncated replay input stream" 4) (writeU32 value ++ rest) = .ok (writeU32 value,rest) := by
  rw [Reader.withContext,Reader.run_exact _ _ _ _ (length_writeU32 value)]
  rfl

theorem decodeCamera_none (frameIndex : Nat) (previous : Option Bytes) (rest : Bytes) :
    decodeCamera frameIndex previous (writeU32 0 ++ rest) = .ok ((none,previous),rest) := by
  simp only [decodeCamera,Reader.run_bind,run_readLength,ok_bind,leValue_word32,if_true,Reader.run_pure]

theorem decodeCamera_repeat (frameIndex : Nat) (bytes rest : Bytes) :
    decodeCamera frameIndex (some bytes) (writeU32 cameraRepeatSentinel ++ rest) = .ok ((some bytes,some bytes),rest) := by
  have present : ¬cameraRepeatSentinel = 0 := by decide
  simp only [decodeCamera,Reader.run_bind,run_readLength,ok_bind,leValue_word32,if_neg present,if_true,Reader.run_lift,
    context,map_ok,Reader.run_pure]

theorem decodeCamera_bytes (frameIndex : Nat) (previous : Option Bytes) (bytes rest : Bytes) (filled : bytes ≠ [])
    (fits : bytes.length < 2^32) (plain : bytes.length ≠ cameraRepeatSentinel.toNat) :
    decodeCamera frameIndex previous (writeU32 (UInt32.ofNat bytes.length) ++ (bytes ++ rest)) =
      if bytes.length ≤ maxReplayCameraFrameBytes then .ok ((some bytes,some bytes),rest)
      else .error s!"replay camera frame is too large: {UInt32.ofNat bytes.length} bytes" := by
  have length := count_toNat bytes.length fits
  have some : ¬UInt32.ofNat bytes.length = 0 := by
    intro empty
    rw [empty] at length
    exact filled (eq_nil_of_length_eq_zero length.symm)
  have other : ¬UInt32.ofNat bytes.length = cameraRepeatSentinel := by
    intro same
    rw [same] at length
    exact plain length.symm
  simp only [decodeCamera,Reader.run_bind,run_readLength,ok_bind,leValue_word32,if_neg some,if_neg other,Reader.run_lift,
    length]
  by_cases small : bytes.length ≤ maxReplayCameraFrameBytes
  · rw [ensure_pos small,if_pos small,map_ok,ok_bind]
    simp only [Reader.withContext,Reader.run_exact _ _ bytes rest rfl]
    rfl
  · rw [ensure,if_neg small,if_neg small]
    rfl

theorem decodeCamera_keeps (frameIndex : Nat) (previous camera next : Option Bytes) (out rest : Bytes)
    (known : KeepsCamera previous) (keeps : KeepsCamera camera)
    (ok : ReplayRecorder.encodeCamera previous camera = .ok (out,next)) :
    decodeCamera frameIndex previous (out ++ rest) = .ok ((camera,next),rest) ∧ KeepsCamera next := by
  cases camera with
  | none =>
    cases ok
    exact ⟨decodeCamera_none frameIndex previous rest,known⟩
  | some bytes =>
    by_cases same : some bytes = previous
    · rw [ReplayRecorder.encodeCamera,if_pos same] at ok
      cases ok
      subst same
      exact ⟨decodeCamera_repeat frameIndex bytes rest,known⟩
    · rw [ReplayRecorder.encodeCamera,if_neg same] at ok
      obtain ⟨fits,ok⟩ := check_bind_ok.mp ok
      obtain ⟨plain,ok⟩ := check_bind_ok.mp ok
      cases ok
      obtain ⟨filled,small⟩ := keeps bytes rfl
      rw [append_assoc,decodeCamera_bytes frameIndex previous bytes rest filled (ensure_ok.mp fits)
        (ensure_ok.mp plain),if_pos small]
      exact ⟨rfl,keeps⟩

theorem decodeCamera_loses (frameIndex : Nat) (previous camera next read after : Option Bytes) (out rest left : Bytes)
    (known : KeepsCamera previous) (ok : ReplayRecorder.encodeCamera previous camera = .ok (out,next))
    (decoded : decodeCamera frameIndex previous (out ++ rest) = .ok ((read,after),left)) (kept : read = camera) :
    KeepsCamera camera := by
  subst kept
  intro bytes same
  subst same
  by_cases repeated : some bytes = previous
  · subst repeated
    exact known bytes rfl
  · rw [ReplayRecorder.encodeCamera,if_neg repeated] at ok
    obtain ⟨fits,ok⟩ := check_bind_ok.mp ok
    obtain ⟨plain,ok⟩ := check_bind_ok.mp ok
    cases ok
    have filled : bytes ≠ [] := by
      intro empty
      subst empty
      have none := decodeCamera_none frameIndex previous rest
      rw [show writeU32 (UInt32.ofNat ([] : Bytes).length) ++ ([] : Bytes) = writeU32 0 from append_nil _,none] at decoded
      cases decoded
    refine ⟨filled,?_⟩
    rw [append_assoc,decodeCamera_bytes frameIndex previous bytes rest filled (ensure_ok.mp fits)
      (ensure_ok.mp plain)] at decoded
    by_contra large
    rw [if_neg large] at decoded
    cases decoded

structure Encodable (version : UInt32) (frame : ReplayJoypadFrame) : Prop where
  holds : Holds version frame
  first : frame.coleco.1.keypad ≤ 12
  second : frame.coleco.2.keypad ≤ 12

theorem run_chunk (version : UInt32) (frame : ReplayJoypadFrame) (holds : Holds version frame) (message : String)
    (rest : Bytes) : Reader.withContext message (Reader.exact "truncated replay input stream" (fixedLen version))
      (ReplayRecorder.fixedBytes version frame ++ rest) = .ok (ReplayRecorder.fixedBytes version frame,rest) := by
  rw [Reader.withContext,Reader.run_exact _ _ _ _ (length_fixedBytes version frame holds)]
  rfl

theorem within_none (bound : ReplayLoadLimits → Nat) (value : Nat) : within none bound value := by
  intro _ absent
  cases absent

theorem decodeFrames_step (version : UInt32) (frame : ReplayJoypadFrame) (encodable : Encodable version frame)
    (index : Nat) (previous : Option Bytes) (decoded count : Nat) (rest : Bytes) :
    decodeFrames version none index previous decoded (count + 1)
        (ReplayRecorder.fixedBytes version frame ++ rest) = (do
      let camera ← decodeCamera index previous rest
      let decoded ← checkedAdd decoded (cameraLength camera.1.1) "decoded replay camera size overflow"
      let frame ← decodeChunk version (ReplayRecorder.fixedBytes version frame) camera.1.1
      let frames ← decodeFrames version none (index + 1) camera.1.2 decoded count camera.2
      return (frame::frames.1,frames.2)) := by
  have reserved := reserved_fixedBytes version frame encodable.holds
  simp only [decodeFrames,Reader.run_bind,run_chunk version frame encodable.holds,ok_bind,Reader.run_lift,
    ensure_pos reserved,map_ok]
  cases decodeCamera index previous rest with
  | error message => rfl
  | ok camera =>
    obtain ⟨⟨read,next⟩,left⟩ := camera
    simp only [ok_bind]
    cases checkedAdd decoded (cameraLength read) "decoded replay camera size overflow" with
    | error message => rfl
    | ok total =>
      simp only [map_ok,ok_bind,ensure_pos (Or.inr (within_none _ _))]
      cases decodeChunk version (ReplayRecorder.fixedBytes version frame) read <;> rfl

theorem decodeChunk_camera (version : UInt32) (chunk : Bytes) (camera : Option Bytes) (frame : ReplayJoypadFrame)
    (ok : decodeChunk version chunk camera = .ok frame) : frame.cameraFrame = camera := by
  obtain ⟨_,_,ok⟩ := bind_ok.mp ok
  obtain ⟨_,_,ok⟩ := bind_ok.mp ok
  cases ok
  rfl

theorem decodeFrames_keeps (version : UInt32) (frames : List ReplayJoypadFrame)
    (encodable : ∀ frame ∈ frames, Encodable version frame) (keeps : ∀ frame ∈ frames, KeepsCamera frame.cameraFrame)
    (index : Nat) (previous : Option Bytes) (known : KeepsCamera previous) (decoded : Nat)
    (room : decoded + frames.length * maxReplayCameraFrameBytes < 2^64) (bytes rest : Bytes)
    (ok : ReplayRecorder.encodeFrames version previous frames = .ok bytes) :
    decodeFrames version none index previous decoded frames.length (bytes ++ rest) = .ok (frames,rest) := by
  induction frames generalizing index previous decoded bytes with
  | nil =>
    cases ok
    rfl
  | cons frame frames ih =>
    obtain ⟨⟨out,next⟩,camera,ok⟩ := bind_ok.mp ok
    obtain ⟨later,encoded,ok⟩ := bind_ok.mp ok
    cases ok
    have this := encodable frame mem_cons_self
    have kept := keeps frame mem_cons_self
    obtain ⟨read,known⟩ := decodeCamera_keeps index previous frame.cameraFrame next out (later ++ rest) known kept camera
    have short := cameraLength_le frame.cameraFrame kept
    rw [length_cons,Nat.add_one_mul] at room
    have fits : decoded + cameraLength frame.cameraFrame < 2^64 := by omega
    have others := ih (fun other member => encodable other (mem_cons_of_mem frame member))
      (fun other member => keeps other (mem_cons_of_mem frame member)) (index + 1) next known
      (decoded + cameraLength frame.cameraFrame) (by omega) later encoded
    rw [append_assoc,append_assoc,length_cons,decodeFrames_step version frame this,read,ok_bind,
      checkedAdd_pos fits,ok_bind,decodeChunk_fixedBytes version frame this.holds this.first this.second,ok_bind,others]
    rfl

theorem decodeFrames_loses (version : UInt32) (frames : List ReplayJoypadFrame)
    (encodable : ∀ frame ∈ frames, Encodable version frame) (index : Nat) (previous : Option Bytes)
    (known : KeepsCamera previous) (decoded : Nat) (bytes rest left : Bytes)
    (ok : ReplayRecorder.encodeFrames version previous frames = .ok bytes)
    (same : decodeFrames version none index previous decoded frames.length (bytes ++ rest) = .ok (frames,left)) :
    ∀ frame ∈ frames, KeepsCamera frame.cameraFrame := by
  induction frames generalizing index previous decoded bytes with
  | nil => exact fun _ member => nomatch member
  | cons frame frames ih =>
    obtain ⟨⟨out,next⟩,camera,ok⟩ := bind_ok.mp ok
    obtain ⟨later,encoded,ok⟩ := bind_ok.mp ok
    cases ok
    rw [append_assoc,append_assoc,length_cons,
      decodeFrames_step version frame (encodable frame mem_cons_self)] at same
    obtain ⟨⟨⟨read,after⟩,unread⟩,cameraRead,same⟩ := bind_ok.mp same
    obtain ⟨total,_,same⟩ := bind_ok.mp same
    obtain ⟨first,chunk,same⟩ := bind_ok.mp same
    obtain ⟨others,restRead,same⟩ := bind_ok.mp same
    cases same
    have kept := decodeCamera_loses index previous frame.cameraFrame next read after out (later ++ rest) unread known camera
      cameraRead (decodeChunk_camera version _ read frame chunk).symm
    obtain ⟨agrees,known⟩ := decodeCamera_keeps index previous frame.cameraFrame next out (later ++ rest) known kept camera
    rw [agrees] at cameraRead
    cases cameraRead
    have tail := ih (fun other member => encodable other (mem_cons_of_mem frame member)) (index + 1) next known total
      later encoded restRead
    exact forall_mem_cons.mpr ⟨kept,tail⟩

theorem run_readFile (front rest : Bytes) (count : Nat) (whole : front.length = count) :
    readFile count (front ++ rest) = .ok (front,rest) := Reader.run_exact _ count front rest whole

theorem run_readFileU32 (value : UInt32) (rest : Bytes) : readFileU32 (writeU32 value ++ rest) = .ok (value,rest) := by
  rw [readFileU32,Reader.run_bind,run_readFile _ rest 4 (length_writeU32 value),ok_bind]
  simp only [Reader.run_pure,leValue_word32]

theorem metadata_not_legacy (metadata : ReplayMetadata) (bytes : Bytes) (ok : metadata.encode = .ok bytes) :
    legacyV1SaveStateBlock bytes = false := by
  obtain ⟨_,ok⟩ := check_bind_ok.mp ok
  cases ok
  rfl

theorem decodeInputFrames_encoded (version : UInt32) (count : Nat) (fits : count < 2^32) (bytes : Bytes) :
    decodeInputFrames (writeU32 (UInt32.ofNat count) ++ bytes) version none = (do
      let frames ← decodeFrames version none 0 none 0 count bytes
      ensure (frames.2 = []) s!"replay input stream has trailing bytes: expected {(writeU32 (UInt32.ofNat count) ++ bytes).length - frames.2.length} bytes, got {(writeU32 (UInt32.ofNat count) ++ bytes).length}"
      return frames.1) := by
  have enough : 4 ≤ (writeU32 (UInt32.ofNat count) ++ bytes).length := by simp
  have front : slice (writeU32 (UInt32.ofNat count) ++ bytes) 0 4 = writeU32 (UInt32.ofNat count) :=
    slice_front _ _ 4 (length_writeU32 _)
  have back : (writeU32 (UInt32.ofNat count) ++ bytes).drop 4 = bytes := drop_left' (length_writeU32 _)
  simp only [decodeInputFrames,ensure_pos enough,ok_bind,front,leValue_word32,count_toNat _ fits,
    ensure_pos (within_none _ _),back]

/-- The frames that the recorder writes, padded to its last event or checkpoint. -/
def ReplayRecorder.padded (recorder : ReplayRecorder) : ReplayRecorder :=
  { recorder with frames := padFramesToMetadataEvents recorder.frames recorder.metadata }

theorem checkFrame_ok (frame : ReplayJoypadFrame) (ok : ReplayRecorder.checkFrame frame = .ok ()) :
    frame.coleco.1.keypad ≤ 12 ∧ frame.coleco.2.keypad ≤ 12 := by
  obtain ⟨first,ok⟩ := check_bind_ok.mp ok
  obtain ⟨second,_⟩ := check_bind_ok.mp ok
  exact ⟨ensure_ok.mp first,ensure_ok.mp second⟩

theorem version_holds (recorder : ReplayRecorder) (frame : ReplayJoypadFrame) (member : frame ∈ recorder.frames) :
    Holds recorder.version frame := by
  cases coleco : recorder.colecoInputFormat || recorder.frames.any ReplayJoypadFrame.usesColecoInput with
  | true =>
    left
    rw [ReplayRecorder.version,coleco]
    rfl
  | false =>
    right
    refine ⟨by rw [ReplayRecorder.version,coleco]; rfl,?_⟩
    have unused := (Bool.or_eq_false_iff.mp coleco).2
    have this := any_eq_false.mp unused frame member
    simpa [ReplayJoypadFrame.usesColecoInput] using this

theorem intoBytes_ok (recorder : ReplayRecorder) (bytes : Bytes) (ok : recorder.intoBytes = .ok bytes) :
    ∃ metadata frames, recorder.metadata.encode = .ok metadata ∧ metadata.length < 2^32 ∧
      recorder.saveState.length < 2^32 ∧ recorder.padded.frames.length < 2^32 ∧
      (∀ frame ∈ recorder.padded.frames, Encodable recorder.padded.version frame) ∧
      ReplayRecorder.encodeFrames recorder.padded.version none recorder.padded.frames = .ok frames ∧
      bytes = magic ++ (writeU32 recorder.padded.version ++ (writeU32 (UInt32.ofNat metadata.length) ++ (metadata ++
        (writeU32 (UInt32.ofNat recorder.saveState.length) ++ (recorder.saveState ++
        (writeU32 (UInt32.ofNat recorder.padded.frames.length) ++ frames)))))) := by
  obtain ⟨⟨metadata,padded⟩,prepared,ok⟩ := bind_ok.mp ok
  obtain ⟨encoded,found,prepared⟩ := bind_ok.mp prepared
  obtain ⟨short,prepared⟩ := check_bind_ok.mp prepared
  obtain ⟨state,prepared⟩ := check_bind_ok.mp prepared
  obtain ⟨count,prepared⟩ := check_bind_ok.mp prepared
  obtain ⟨checked,prepared⟩ := check_bind_ok.mp prepared
  cases prepared
  obtain ⟨_,ok⟩ := check_bind_ok.mp ok
  obtain ⟨_,ok⟩ := check_bind_ok.mp ok
  obtain ⟨_,ok⟩ := check_bind_ok.mp ok
  obtain ⟨frames,written,ok⟩ := bind_ok.mp ok
  cases ok
  rw [forM_eq_forM,forM_ok] at checked
  refine ⟨_,frames,found,ensure_ok.mp short,ensure_ok.mp state,ensure_ok.mp count,?_,written,rfl⟩
  intro frame member
  obtain ⟨first,second⟩ := checkFrame_ok frame (checked frame member)
  exact ⟨version_holds recorder.padded frame member,first,second⟩

theorem load_written (metadata : Bytes) (plain : legacyV1SaveStateBlock metadata = false)
    (short : metadata.length < 2^32) (saveState : Bytes) (fits : saveState.length < 2^32) (version : UInt32)
    (known : version = 1 ∨ version = v2Version ∨ version = Replay.version) (input : Bytes) :
    ReplayPlayer.load (magic ++ (writeU32 version ++ (writeU32 (UInt32.ofNat metadata.length) ++ (metadata ++
      (writeU32 (UInt32.ofNat saveState.length) ++ (saveState ++ input)))))) = (do
        let metadata ← (ReplayMetadata.decode metadata).mapError (fun _ => "invalid replay metadata")
        let frames ← decodeInputFrames input version none
        return ⟨saveState,padFramesToMetadataEvents frames metadata,0,metadata,0,version⟩) := by
  have start : magic.length = 4 := by decide
  simp only [ReplayPlayer.load,ReplayPlayer.decode,ReplayPlayer.decodeFile,Reader.run_bind,run_readFile magic _ 4 start,
    ok_bind,Reader.run_lift,ensure_pos trivial,map_ok,run_readFileU32,ensure_pos known,ensure_pos (within_none _ _),
    count_toNat _ short,run_readFile metadata _ _ rfl,plain]
  cases ReplayMetadata.decode metadata with
  | error message => rfl
  | ok decoded =>
    simp only [Except.mapError,ok_bind,Option.mapM_none,Bool.false_eq_true,if_false,Reader.run_bind,Reader.run_lift,
      map_ok,run_readFileU32,count_toNat _ fits,run_readFile saveState _ _ rfl,pure,Except.pure,readToEnd]
    cases decodeInputFrames input version none <;> rfl

theorem mem_requiredFrames_canonical (metadata : ReplayMetadata) (required : Nat) :
    required ∈ metadata.canonical.events.filterMap ReplayEvent.requiredFrameCount ++
        metadata.canonical.checkpoints.map (fun checkpoint => checkpoint.frame.toNat) ↔
      required ∈ metadata.events.filterMap ReplayEvent.requiredFrameCount ++
        metadata.checkpoints.map (fun checkpoint => checkpoint.frame.toNat) := by
  simp [ReplayMetadata.canonical,ReplayEvent.mem_sortCanonical,sortCheckpoints,mem_mergeSort]

theorem requiredFrames_canonical (metadata : ReplayMetadata) : requiredFrames metadata.canonical = requiredFrames metadata := by
  ext required
  rw [requiredFrames,requiredFrames,List.max?_eq_some_iff,List.max?_eq_some_iff]
  simp only [mem_requiredFrames_canonical]

theorem padFrames_canonical (frames : List ReplayJoypadFrame) (metadata : ReplayMetadata) :
    padFramesToMetadataEvents frames metadata.canonical = padFramesToMetadataEvents frames metadata := by
  rw [padFramesToMetadataEvents,padFramesToMetadataEvents,requiredFrames_canonical]

theorem padFrames_of_padded (frames others : List ReplayJoypadFrame) (metadata : ReplayMetadata)
    (enough : (padFramesToMetadataEvents others metadata).length = frames.length) :
    padFramesToMetadataEvents frames metadata = frames := by
  unfold padFramesToMetadataEvents at *
  cases found : requiredFrames metadata with
  | none => rfl
  | some required =>
    simp only [found] at enough
    have reached : required ≤ frames.length := by
      by_cases inside : required ≤ others.length
      · rw [if_pos inside] at enough
        omega
      · rw [if_neg inside,length_append,length_replicate] at enough
        omega
    simp only [if_pos reached]

theorem decodeFrames_length {version : UInt32} {limits : Option ReplayLoadLimits} {count index : Nat}
    {previous : Option Bytes} {decoded : Nat} {input left : Bytes} {frames : List ReplayJoypadFrame}
    (ok : decodeFrames version limits index previous decoded count input = .ok (frames,left)) :
    frames.length = count := by
  induction count generalizing index previous decoded input frames with
  | zero => cases ok; rfl
  | succ count ih =>
    obtain ⟨_,_,ok⟩ := bind_ok.mp ok
    obtain ⟨_,_,ok⟩ := bind_ok.mp ok
    obtain ⟨_,_,ok⟩ := bind_ok.mp ok
    obtain ⟨_,_,ok⟩ := bind_ok.mp ok
    obtain ⟨_,_,ok⟩ := bind_ok.mp ok
    obtain ⟨_,_,ok⟩ := bind_ok.mp ok
    obtain ⟨⟨others,_⟩,later,ok⟩ := bind_ok.mp ok
    cases ok
    rw [length_cons,ih later]

theorem keeps_padded (frames : List ReplayJoypadFrame) (metadata : ReplayMetadata) :
    (∀ frame ∈ padFramesToMetadataEvents frames metadata, KeepsCamera frame.cameraFrame) ↔
      ∀ frame ∈ frames, KeepsCamera frame.cameraFrame := by
  have last : (∀ frame ∈ frames, KeepsCamera frame.cameraFrame) →
      KeepsCamera (frames.getLast?.getD {}).cameraFrame := by
    intro keeps
    cases found : frames.getLast? with
    | none => exact fun _ absent => nomatch absent
    | some frame => exact keeps frame (List.mem_of_getLast? found)
  unfold padFramesToMetadataEvents
  cases requiredFrames metadata with
  | none => rfl
  | some required =>
    by_cases enough : required ≤ frames.length
    · simp only [if_pos enough]
    · simp only [if_neg enough,mem_append,mem_replicate]
      constructor
      · exact fun keeps frame member => keeps frame (.inl member)
      · rintro keeps frame (member | ⟨_,rfl⟩)
        · exact keeps frame member
        · exact last keeps

/-- What a recorder must hold for the decoder to give it back. -/
structure ReplayRecorder.Decodable (recorder : ReplayRecorder) : Prop where
  cameras : ∀ frame ∈ recorder.frames, ∀ camera, frame.cameraFrame = some camera →
    1 ≤ camera.length ∧ camera.length ≤ maxReplayCameraFrameBytes
  eventStates : ∀ event ∈ recorder.metadata.events, event.validateState = .ok ()
  startState : ∀ state, recorder.metadata.gameBoyLinkStartState = some state → state.validate = .ok ()
  coordinated : ∀ coordinator, recorder.metadata.gameBoyLinkCoordinatorStartState = some coordinator →
    ∃ state, recorder.metadata.gameBoyLinkStartState = some state ∧ recorder.metadata.gameBoyLinkStartTick.isSome ∧
      coordinator.validateAgainst state = .ok () ∧
      validateGameBoyLinkCoordinatorEvents coordinator (ReplayEvent.sortCanonical recorder.metadata.events) = .ok ()
  uncoordinated : recorder.metadata.gameBoyLinkCoordinatorStartState = none →
    ∀ state, recorder.metadata.gameBoyLinkStartState = some state →
      validateUncoordinatedGameBoyLinkStart state (ReplayEvent.sortCanonical recorder.metadata.events) = .ok ()

theorem validateLinkStart_ok (metadata : ReplayMetadata) : metadata.validateLinkStart metadataVersion = .ok () ↔
    (∀ coordinator, metadata.gameBoyLinkCoordinatorStartState = some coordinator →
      ∃ state, metadata.gameBoyLinkStartState = some state ∧ metadata.gameBoyLinkStartTick.isSome ∧
        coordinator.validateAgainst state = .ok () ∧
        validateGameBoyLinkCoordinatorEvents coordinator metadata.events = .ok ()) ∧
    (metadata.gameBoyLinkCoordinatorStartState = none → ∀ state, metadata.gameBoyLinkStartState = some state →
      validateUncoordinatedGameBoyLinkStart state metadata.events = .ok ()) := by
  have third : 3 ≤ metadataVersion := by decide
  rw [ReplayMetadata.validateLinkStart]
  cases metadata.gameBoyLinkCoordinatorStartState with
  | some coordinator =>
    constructor
    · intro ok
      obtain ⟨state,found,ok⟩ := bind_ok.mp ok
      obtain ⟨tick,ok⟩ := check_bind_ok.mp ok
      obtain ⟨against,events⟩ := check_bind_ok.mp ok
      refine ⟨?_,fun absent => nomatch absent⟩
      rintro _ ⟨⟩
      exact ⟨state,context_ok.mp found,ensure_ok.mp tick,against,events⟩
    · rintro ⟨coordinated,_⟩
      obtain ⟨state,found,tick,against,events⟩ := coordinated coordinator rfl
      simp only [context_ok.mpr found,ensure_pos tick,against,ok_bind]
      exact events
  | none =>
    cases metadata.gameBoyLinkStartState with
    | none => simp
    | some state => simp [third]

/-- A written replay file loads as what was recorded exactly when the recorder is decodable. -/
theorem load_intoBytes (recorder : ReplayRecorder) (bytes : Bytes) (written : recorder.intoBytes = .ok bytes) :
    (∃ player, ReplayPlayer.load bytes = .ok player ∧ player.saveState = recorder.saveState ∧
      player.metadata = recorder.metadata.canonical ∧
      player.frames = padFramesToMetadataEvents recorder.frames recorder.metadata) ↔ recorder.Decodable := by
  obtain ⟨metadata,frames,encoded,short,state,count,encodable,framed,rfl⟩ := intoBytes_ok recorder bytes written
  have known : recorder.padded.version = 1 ∨ recorder.padded.version = v2Version ∨
      recorder.padded.version = Replay.version := by
    rw [ReplayRecorder.version]
    split
    · exact .inr (.inr rfl)
    · exact .inr (.inl rfl)
  have cameras : (∀ frame ∈ recorder.frames, ∀ camera, frame.cameraFrame = some camera →
      1 ≤ camera.length ∧ camera.length ≤ maxReplayCameraFrameBytes) ↔
        ∀ frame ∈ recorder.padded.frames, KeepsCamera frame.cameraFrame := by
    refine Iff.trans ?_ (keeps_padded recorder.frames recorder.metadata).symm
    simp only [KeepsCamera,← length_pos_iff,Nat.succ_le_iff]
  rw [load_written metadata (metadata_not_legacy _ _ encoded) short recorder.saveState state recorder.padded.version known,
    decodeInputFrames_encoded _ _ count]
  constructor
  · rintro ⟨player,ok,_,_,sameFrames⟩
    obtain ⟨decoded,metadataRead,ok⟩ := bind_ok.mp ok
    obtain ⟨_,inputRead,ok⟩ := bind_ok.mp ok
    obtain ⟨⟨read,left⟩,framesRead,inputRead⟩ := bind_ok.mp inputRead
    obtain ⟨_,inputRead⟩ := check_bind_ok.mp inputRead
    cases inputRead
    cases ok
    obtain ⟨events,start,link,rfl⟩ :=
      (ReplayMetadata.decode_encode_ok _ _ _ encoded).mp ((mapError_ok _ _ _).mp metadataRead)
    have length := decodeFrames_length framesRead
    have unpadded : read = recorder.padded.frames := by
      change padFramesToMetadataEvents read _ = recorder.padded.frames at sameFrames
      rwa [padFrames_canonical,padFrames_of_padded read recorder.frames recorder.metadata length.symm] at sameFrames
    subst unpadded
    rw [← append_nil frames] at framesRead
    have kept := decodeFrames_loses _ _ encodable 0 none (fun _ absent => nomatch absent) 0 frames [] left framed framesRead
    obtain ⟨coordinated,uncoordinated⟩ := (validateLinkStart_ok _).mp link
    exact ⟨cameras.mpr kept,events,start,coordinated,uncoordinated⟩
  · intro decodable
    have link := (validateLinkStart_ok recorder.metadata.canonical).mpr ⟨decodable.coordinated,decodable.uncoordinated⟩
    have metadataRead := (ReplayMetadata.decode_encode_ok _ _ metadata encoded).mpr
      ⟨decodable.eventStates,decodable.startState,link,rfl⟩
    have room : 0 + recorder.padded.frames.length * maxReplayCameraFrameBytes < 2^64 := by
      rw [maxReplayCameraFrameBytes]
      omega
    have framesRead := decodeFrames_keeps _ _ encodable (cameras.mp decodable.cameras) 0 none
      (fun _ absent => nomatch absent) 0 room frames [] framed
    rw [append_nil] at framesRead
    rw [metadataRead,framesRead]
    refine ⟨_,rfl,rfl,rfl,?_⟩
    change padFramesToMetadataEvents recorder.padded.frames _ = recorder.padded.frames
    rw [padFrames_canonical]
    exact padFrames_of_padded recorder.padded.frames recorder.frames recorder.metadata rfl

/-- A recording with a repeated camera frame, a Coleco controller and an event past its last frame. -/
def cameraRecorder : ReplayRecorder := {
  saveState := [7]
  frames := [{ cameraFrame := some [1,2] },{ cameraFrame := some [1,2], coleco := ({ up := true, keypad := 12 },{}) }]
  metadata := { events := [.fdsDiskSide 3 1] } }

def cameraFile : Bytes := (cameraRecorder.intoBytes.toOption).getD []

theorem load_intoBytes_camera : cameraRecorder.intoBytes = .ok cameraFile ∧ ((∃ player,
    ReplayPlayer.load cameraFile = .ok player ∧ player.saveState = cameraRecorder.saveState ∧
      player.metadata = cameraRecorder.metadata.canonical ∧
      player.frames = padFramesToMetadataEvents cameraRecorder.frames cameraRecorder.metadata) ↔
    cameraRecorder.Decodable) := by
  have written : cameraRecorder.intoBytes = .ok cameraFile := by decide +kernel
  exact ⟨written,load_intoBytes cameraRecorder cameraFile written⟩

def emptyCameraRecorder : ReplayRecorder := { saveState := [], frames := [{ cameraFrame := some [] }] }

def emptyCameraFile : Bytes := (emptyCameraRecorder.intoBytes.toOption).getD []

/-- An empty camera frame is written as no camera frame. -/
theorem emptyCamera_lost : ¬∀ (recorder : ReplayRecorder) (bytes : Bytes), recorder.intoBytes = .ok bytes →
    ∃ player, ReplayPlayer.load bytes = .ok player ∧ player.saveState = recorder.saveState ∧
      player.metadata = recorder.metadata.canonical ∧
      player.frames = padFramesToMetadataEvents recorder.frames recorder.metadata := by
  intro all
  obtain ⟨player,loaded,_,_,frames⟩ := all emptyCameraRecorder emptyCameraFile (by decide +kernel)
  have read : ReplayPlayer.load emptyCameraFile = .ok ⟨[],[{}],0,{},0,2⟩ := by decide +kernel
  rw [read] at loaded
  cases loaded
  have lost : [({} : ReplayJoypadFrame)] ≠ padFramesToMetadataEvents emptyCameraRecorder.frames emptyCameraRecorder.metadata := by
    decide
  exact lost frames

end ZeffBoy.Replay
