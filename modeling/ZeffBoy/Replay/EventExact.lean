import ZeffBoy.Replay.EventStream

/-! What the event decoder accepts is what the encoder writes.
Each reader of the format is read backwards here: from an accepted input to the
bytes that its value has in the writer's form. -/
namespace ZeffBoy.Replay
open Library MetadataCursor List

theorem utf8_of_fromUtf8 (bytes : Bytes) (text : String) (ok : fromUtf8 bytes = some text) : utf8 text = bytes := by
  unfold fromUtf8 String.fromUTF8? at ok
  split at ok
  · obtain rfl := Option.some.inj ok
    rfl
  · contradiction

theorem readU8_eq_ok (input rest : Bytes) (value : UInt8) :
    readU8 input = .ok (value,rest) ↔ input = value::rest := by
  cases input <;> simp [readU8]

-- A decoder that goes by the first byte.
theorem tagged_eq_ok {α : Type} {next : UInt8 → Reader α} {input : Bytes} {result : α × Bytes} :
    (readU8 >>= next) input = .ok result ↔ ∃ tag rest, input = tag::rest ∧ next tag rest = .ok result := by
  simp only [Reader.bind_eq_ok,readU8_eq_ok]

theorem readU32_eq_ok (input rest : Bytes) (value : UInt32) :
    readU32 input = .ok (value,rest) ↔ input = writeU32 value ++ rest := by
  constructor
  · intro read
    simp only [readU32,readExact,Reader.bind_eq_ok,Reader.exact_eq_ok,Reader.pure_eq_ok] at read
    obtain ⟨bytes,_,⟨whole,rfl⟩,rfl,rfl⟩ := read
    have small : leValue bytes < 2^32 := by
      have bound := leValue_lt bytes
      rwa [whole] at bound
    rw [writeU32,UInt32.toNat_ofNat',Nat.mod_eq_of_lt small,← whole,leBytes_leValue]
  · rintro rfl
    exact run_readU32 value rest

theorem readU64_eq_ok (input rest : Bytes) (value : UInt64) :
    readU64 input = .ok (value,rest) ↔ input = writeU64 value ++ rest := by
  constructor
  · intro read
    simp only [readU64,readExact,Reader.bind_eq_ok,Reader.exact_eq_ok,Reader.pure_eq_ok] at read
    obtain ⟨bytes,_,⟨whole,rfl⟩,rfl,rfl⟩ := read
    have small : leValue bytes < 2^64 := by
      have bound := leValue_lt bytes
      rwa [whole] at bound
    rw [writeU64,UInt64.toNat_ofNat',Nat.mod_eq_of_lt small,← whole,leBytes_leValue]
  · rintro rfl
    exact run_readU64 value rest

theorem readString_eq_ok (input rest : Bytes) (value : String) :
    readString input = .ok (value,rest) ↔ Fits value ∧ input = writeString value ++ rest := by
  constructor
  · intro read
    simp only [readString,readExact,Reader.bind_eq_ok,readU32_eq_ok,Reader.exact_eq_ok,Reader.lift_eq_ok,
      context_ok] at read
    obtain ⟨length,_,rfl,bytes,_,⟨whole,rfl⟩,valid,rfl⟩ := read
    obtain rfl := utf8_of_fromUtf8 bytes value valid
    refine ⟨?_,?_⟩
    · rw [Fits,whole]
      exact length.toNat_lt
    · rw [writeString,whole,UInt32.ofNat_toNat,append_assoc]
  · rintro ⟨fits,rfl⟩
    exact run_readString value fits rest

theorem readBool_eq_ok (name : String) (input rest : Bytes) (value : Bool) :
    readBool name input = .ok (value,rest) ↔ input = value.toUInt8::rest := by
  constructor
  · intro read
    simp only [readBool,Reader.bind_eq_ok,readU8_eq_ok] at read
    obtain ⟨tag,_,rfl,read⟩ := read
    split at read
    · rename_i zero
      obtain ⟨rfl,rfl⟩ := Reader.pure_eq_ok.mp read
      rw [zero]
      rfl
    · split at read
      · rename_i one
        obtain ⟨rfl,rfl⟩ := Reader.pure_eq_ok.mp read
        rw [one]
        rfl
      · contradiction
  · rintro rfl
    exact run_readBool name value rest

theorem readFlagged_accepts {α : Type} (name : String) (item : Reader α) (write : α → Bytes)
    (accepts : item.Accepts write) : (readFlagged name item).Accepts (writeOptional write) := by
  intro input value rest read
  simp only [readFlagged,Reader.bind_eq_ok,readBool_eq_ok] at read
  obtain ⟨present,middle,rfl,read⟩ := read
  cases present with
  | false =>
    obtain ⟨rfl,rfl⟩ := Reader.pure_eq_ok.mp read
    rfl
  | true =>
    obtain ⟨inner,_,inside,read⟩ := Reader.bind_eq_ok.mp read
    obtain ⟨rfl,rfl⟩ := Reader.pure_eq_ok.mp read
    rw [accepts _ _ _ inside]
    rfl

theorem readOptional_accepts {α : Type} (invalid : UInt8 → String) (item : Reader α) (write : α → Bytes)
    (accepts : item.Accepts write) : (readOptional invalid item).Accepts (writeOptional write) := by
  intro input value rest read
  simp only [readOptional,Reader.bind_eq_ok,readU8_eq_ok] at read
  obtain ⟨tag,middle,rfl,read⟩ := read
  split at read
  · rename_i zero
    obtain ⟨rfl,rfl⟩ := Reader.pure_eq_ok.mp read
    rw [zero]
    rfl
  · split at read
    · rename_i one
      obtain ⟨inner,_,inside,read⟩ := Reader.bind_eq_ok.mp read
      obtain ⟨rfl,rfl⟩ := Reader.pure_eq_ok.mp read
      rw [accepts _ _ _ inside,one]
      rfl
    · contradiction

theorem readOptionalU8_accepts (name : String) : (readOptionalU8 name).Accepts writeOptionalU8 :=
  readOptional_accepts _ _ _ (fun input value rest read => (readU8_eq_ok input rest value).mp read)

theorem mediaEvent_accepted (input rest : Bytes) (event : MediaEvent)
    (accepted : MediaEvent.decode input = .ok (event,rest)) : event.Fits ∧ input = event.encode ++ rest := by
  obtain ⟨tag,middle,rfl,read⟩ := tagged_eq_ok.mp accepted
  generalize kind : tag.toNat = number at read
  match number,kind,read with
  | 0,zero,read =>
    simp only [Reader.bind_eq_ok,Reader.pure_eq_ok,readString_eq_ok,readBool_eq_ok] at read
    obtain ⟨slot,_,⟨slotFits,rfl⟩,media,_,⟨mediaFits,rfl⟩,side,_,optional,flag,_,rfl,rfl,rfl⟩ := read
    obtain rfl := readOptionalU8_accepts _ _ _ _ optional
    obtain rfl : tag = 0 := UInt8.toNat_inj.mp zero
    exact ⟨⟨slotFits,mediaFits⟩,by simp [MediaEvent.encode]⟩
  | 1,one,read =>
    simp only [Reader.bind_eq_ok,Reader.pure_eq_ok,readString_eq_ok] at read
    obtain ⟨slot,_,⟨fits,rfl⟩,rfl,rfl⟩ := read
    obtain rfl : tag = 1 := UInt8.toNat_inj.mp one
    exact ⟨fits,rfl⟩
  | 2,two,read =>
    simp only [Reader.bind_eq_ok,Reader.pure_eq_ok,readString_eq_ok,readU8_eq_ok] at read
    obtain ⟨slot,_,⟨fits,rfl⟩,side,_,rfl,rfl,rfl⟩ := read
    obtain rfl : tag = 2 := UInt8.toNat_inj.mp two
    exact ⟨fits,by simp [MediaEvent.encode]⟩
  | 3,three,read =>
    simp only [Reader.bind_eq_ok,Reader.pure_eq_ok,readString_eq_ok,readBool_eq_ok] at read
    obtain ⟨slot,_,⟨fits,rfl⟩,flag,_,rfl,rfl,rfl⟩ := read
    obtain rfl : tag = 3 := UInt8.toNat_inj.mp three
    exact ⟨fits,by simp [MediaEvent.encode]⟩
  | _ + 4,_,read => contradiction

theorem reply_accepts : ReplayGameBoyLinkReply.decode.Accepts ReplayGameBoyLinkReply.encode := by
  intro input value rest read
  simp only [ReplayGameBoyLinkReply.decode,Reader.bind_eq_ok,Reader.pure_eq_ok,readU8_eq_ok,readBool_eq_ok,
    readU64_eq_ok] at read
  obtain ⟨_,_,rfl,_,_,rfl,_,_,rfl,rfl,rfl⟩ := read
  rfl

theorem action_accepts : ReplayGameBoyLinkAction.decode.Accepts ReplayGameBoyLinkAction.encode := by
  intro input value rest read
  simp only [ReplayGameBoyLinkAction.decode,Reader.bind_eq_ok,Reader.pure_eq_ok,readU8_eq_ok,readU64_eq_ok] at read
  obtain ⟨_,_,rfl,_,_,rfl,_,_,rfl,rfl,rfl⟩ := read
  simp [ReplayGameBoyLinkAction.encode]

theorem passiveCompletion_accepts :
    ReplayGameBoyPassiveCompletion.decode.Accepts ReplayGameBoyPassiveCompletion.encode := by
  intro input value rest read
  simp only [ReplayGameBoyPassiveCompletion.decode,Reader.bind_eq_ok,Reader.pure_eq_ok,readU8_eq_ok,
    readU64_eq_ok] at read
  obtain ⟨_,_,rfl,_,_,rfl,rfl,rfl⟩ := read
  rfl

theorem linkEvent_accepts : ReplayGameBoyLinkEvent.decode.Accepts ReplayGameBoyLinkEvent.encode := by
  intro input value rest accepted
  obtain ⟨tag,middle,rfl,read⟩ := tagged_eq_ok.mp accepted
  generalize kind : tag.toNat = number at read
  match number,kind,read with
  | 0,zero,read =>
    simp only [Reader.bind_eq_ok,Reader.pure_eq_ok,readU8_eq_ok,readU64_eq_ok] at read
    obtain ⟨_,_,rfl,_,_,rfl,_,_,rfl,_,_,rfl,rfl,rfl⟩ := read
    obtain rfl : tag = 0 := UInt8.toNat_inj.mp zero
    simp [ReplayGameBoyLinkEvent.encode]
  | 1,one,read =>
    simp only [Reader.bind_eq_ok,Reader.pure_eq_ok,readU8_eq_ok,readU64_eq_ok,readBool_eq_ok] at read
    obtain ⟨_,_,rfl,_,_,rfl,_,_,rfl,_,_,rfl,rfl,rfl⟩ := read
    obtain rfl : tag = 1 := UInt8.toNat_inj.mp one
    simp [ReplayGameBoyLinkEvent.encode]
  | 2,two,read =>
    simp only [Reader.bind_eq_ok,Reader.pure_eq_ok,readU8_eq_ok,readU64_eq_ok] at read
    obtain ⟨_,_,rfl,_,_,rfl,_,_,rfl,_,_,rfl,_,_,local_,rfl,rfl⟩ := read
    obtain rfl := reply_accepts _ _ _ local_
    obtain rfl : tag = 2 := UInt8.toNat_inj.mp two
    simp [ReplayGameBoyLinkEvent.encode]
  | 3,three,read =>
    simp only [Reader.bind_eq_ok,Reader.pure_eq_ok,readU8_eq_ok,readU64_eq_ok] at read
    obtain ⟨_,_,rfl,_,_,rfl,_,_,rfl,_,_,rfl,rfl,rfl⟩ := read
    obtain rfl : tag = 3 := UInt8.toNat_inj.mp three
    simp [ReplayGameBoyLinkEvent.encode]
  | _ + 4,_,read => contradiction

theorem wonderSwanLinkEvent_accepts : ReplayWonderSwanLinkEvent.decode.Accepts ReplayWonderSwanLinkEvent.encode := by
  intro input value rest accepted
  obtain ⟨tag,middle,rfl,read⟩ := tagged_eq_ok.mp accepted
  generalize kind : tag.toNat = number at read
  match number,kind,read with
  | 0,zero,read =>
    simp only [Reader.bind_eq_ok,Reader.pure_eq_ok,readU8_eq_ok,readU32_eq_ok,readU64_eq_ok] at read
    obtain ⟨_,_,rfl,_,_,rfl,_,_,rfl,rfl,rfl⟩ := read
    obtain rfl : tag = 0 := UInt8.toNat_inj.mp zero
    simp [ReplayWonderSwanLinkEvent.encode]
  | _ + 1,_,read => contradiction

theorem linkState_accepted (metadataVersion : Nat) (current : 2 ≤ metadataVersion) (input rest : Bytes)
    (state : ReplayGameBoyLinkState)
    (read : ReplayGameBoyLinkState.decode metadataVersion input = .ok (state,rest)) :
    state.validate = .ok () ∧ input = state.encode metadataVersion ++ rest := by
  simp only [ReplayGameBoyLinkState.decode,ReplayGameBoyLinkState.decodePassiveCompletion,if_pos current,
    Reader.bind_eq_ok,Reader.lift_eq_ok,checkedBy_ok,readBool_eq_ok,readU64_eq_ok] at read
  obtain ⟨_,_,rfl,_,_,masterByte,_,_,response,_,_,rfl,_,_,action,_,_,rfl,_,_,passive,⟨valid,rfl⟩,rfl⟩ := read
  obtain rfl := readOptionalU8_accepts _ _ _ _ masterByte
  obtain rfl := readOptionalU8_accepts _ _ _ _ response
  obtain rfl := readFlagged_accepts _ _ _ action_accepts _ _ _ action
  obtain rfl := readFlagged_accepts _ _ _ passiveCompletion_accepts _ _ _ passive
  exact ⟨valid,by simp [ReplayGameBoyLinkState.encode,current]⟩

theorem event_accepted (metadataVersion : Nat) (current : 2 ≤ metadataVersion) (input rest : Bytes)
    (event : ReplayEvent) (accepted : ReplayEvent.decode metadataVersion input = .ok (event,rest)) :
    input = event.encode metadataVersion ++ rest := by
  obtain ⟨tag,middle,rfl,read⟩ := tagged_eq_ok.mp accepted
  generalize kind : tag.toNat = number at read
  match number,kind,read with
  | 0,zero,read =>
    simp only [Reader.bind_eq_ok,Reader.pure_eq_ok,readU8_eq_ok,readU64_eq_ok] at read
    obtain ⟨_,_,rfl,_,_,rfl,rfl,rfl⟩ := read
    obtain rfl : tag = 0 := UInt8.toNat_inj.mp zero
    simp [ReplayEvent.encode]
  | 5,five,read =>
    simp only [Reader.bind_eq_ok,Reader.pure_eq_ok,readU32_eq_ok,readU64_eq_ok] at read
    obtain ⟨_,_,rfl,_,_,rfl,_,_,media,rfl,rfl⟩ := read
    obtain ⟨_,rfl⟩ := mediaEvent_accepted _ _ _ media
    obtain rfl : tag = 5 := UInt8.toNat_inj.mp five
    simp [ReplayEvent.encode]
  | 1,one,read =>
    simp only [Reader.bind_eq_ok,Reader.pure_eq_ok,readU64_eq_ok] at read
    obtain ⟨_,_,rfl,_,_,rfl,_,_,link,rfl,rfl⟩ := read
    obtain rfl := linkEvent_accepts _ _ _ link
    obtain rfl : tag = 1 := UInt8.toNat_inj.mp one
    simp [ReplayEvent.encode]
  | 3,three,read =>
    simp only [Reader.bind_eq_ok,Reader.pure_eq_ok,readU64_eq_ok] at read
    obtain ⟨_,_,rfl,_,_,state,rfl,rfl⟩ := read
    obtain ⟨_,rfl⟩ := linkState_accepted metadataVersion current _ _ _ state
    obtain rfl : tag = 3 := UInt8.toNat_inj.mp three
    simp [ReplayEvent.encode]
  | 4,four,read =>
    simp only [Reader.bind_eq_ok,Reader.pure_eq_ok,readU64_eq_ok] at read
    obtain ⟨_,_,rfl,_,_,rfl,_,_,state,rfl,rfl⟩ := read
    obtain ⟨_,rfl⟩ := linkState_accepted metadataVersion current _ _ _ state
    obtain rfl : tag = 4 := UInt8.toNat_inj.mp four
    simp [ReplayEvent.encode]
  | 2,two,read =>
    simp only [Reader.bind_eq_ok,Reader.pure_eq_ok,readU64_eq_ok] at read
    obtain ⟨_,_,rfl,_,_,rfl,_,_,link,rfl,rfl⟩ := read
    obtain rfl := wonderSwanLinkEvent_accepts _ _ _ link
    obtain rfl : tag = 2 := UInt8.toNat_inj.mp two
    simp [ReplayEvent.encode]
  | _ + 6,_,read => contradiction

namespace EventStream

def packed (event : ReplayEvent) : Bytes :=
  writeU32 (UInt32.ofNat (event.encode metadataVersion).length) ++ event.encode metadataVersion

def Small (event : ReplayEvent) : Prop := (event.encode metadataVersion).length ≤ maxEventBytes

theorem Small.fits {event : ReplayEvent} (small : Small event) : event.Fits := by
  have bound : maxEventBytes < 2^32 := by decide
  unfold Small at small
  cases event with
  | media frame sequence event =>
    cases event <;>
      simp only [ReplayEvent.encode,MediaEvent.encode,writeString,length_append,length_cons] at small <;>
      simp only [ReplayEvent.Fits,MediaEvent.Fits,Replay.Fits] <;> omega
  | fdsDiskSide | gameBoyLink | gameBoyLinkState | gameBoyLinkStateAtTick | wonderSwanLink => exact trivial

theorem Small.count {event : ReplayEvent} (small : Small event) :
    (UInt32.ofNat (event.encode metadataVersion).length).toNat = (event.encode metadataVersion).length := by
  have bound : maxEventBytes < 2^32 := by decide
  exact count_toNat _ (lt_of_le_of_lt small bound)

theorem finish_eq_ok (input rest : Bytes) (value : Unit) :
    finish input = .ok (value,rest) ↔ input = [] ∧ rest = [] := by
  simp only [finish,Reader.remaining,Reader.run_bind,ok_bind,Reader.lift_eq_ok,ensure_ok,length_eq_zero_iff]
  constructor
  · rintro ⟨rfl,rfl⟩
    exact ⟨rfl,rfl⟩
  · rintro ⟨rfl,rfl⟩
    exact ⟨rfl,rfl⟩

theorem decodeEvent_accepted (index : Nat) (input rest : Bytes) (event : ReplayEvent)
    (read : decodeEvent index input = .ok (event,rest)) : Small event ∧ input = packed event ++ rest := by
  simp only [decodeEvent,readExact,Reader.bind_eq_ok,Reader.lift_eq_ok,Reader.withContext_eq_ok,Reader.pure_eq_ok,
    readU32_eq_ok,Reader.exact_eq_ok,ensure_ok,mapError_ok] at read
  obtain ⟨length,_,rfl,_,_,⟨small,rfl⟩,bytes,_,⟨whole,rfl⟩,⟨found,left⟩,_,⟨decoded,rfl⟩,⟨_,_⟩,_,⟨finished,rfl⟩,same,rfl⟩ := read
  subst same
  obtain ⟨rfl,_⟩ := (finish_eq_ok _ _ _).mp finished
  have exact_ := event_accepted metadataVersion (by decide) _ _ _ decoded
  rw [append_nil] at exact_
  subst exact_
  refine ⟨by rwa [Small,whole],?_⟩
  rw [packed,whole,UInt32.ofNat_toNat,append_assoc]

theorem run_decodeEvent (index : Nat) (event : ReplayEvent) (small : Small event)
    (valid : event.validateState = .ok ()) (rest : Bytes) :
    decodeEvent index (packed event ++ rest) = .ok (event,rest) := by
  have decoded := run_event event metadataVersion (by decide) small.fits []
  rw [append_nil,(checkedBy_ok _ _ _).mpr ⟨valid,rfl⟩] at decoded
  have within := ensure_pos (show (event.encode metadataVersion).length ≤ maxEventBytes from small)
  simp only [decodeEvent,packed,append_assoc,Reader.run_bind,run_readU32,ok_bind,Reader.run_lift,small.count,
    within,map_ok,readExact,Reader.withContext,Reader.run_exact _ _ _ rest rfl]
  simp only [Except.mapError,ok_bind,decoded,map_ok]
  rfl

theorem decodeEvents_accepted (count : Nat) (index : Nat) (input rest : Bytes) (events : List ReplayEvent)
    (read : decodeEvents index count input = .ok (events,rest)) :
    events.length = count ∧ (∀ event ∈ events, Small event) ∧ input = events.flatMap packed ++ rest := by
  induction count generalizing index input events with
  | zero =>
    obtain ⟨rfl,rfl⟩ := Reader.pure_eq_ok.mp read
    exact ⟨rfl,by simp,rfl⟩
  | succ count ih =>
    simp only [decodeEvents,Reader.bind_eq_ok,Reader.pure_eq_ok] at read
    obtain ⟨event,_,first,others,_,later,rfl,rfl⟩ := read
    obtain ⟨small,rfl⟩ := decodeEvent_accepted _ _ _ _ first
    obtain ⟨length,all,rfl⟩ := ih _ _ _ later
    exact ⟨by rw [length_cons,length],forall_mem_cons.mpr ⟨small,all⟩,by simp⟩

theorem run_decodeEvents (events : List ReplayEvent) (index : Nat) (small : ∀ event ∈ events, Small event)
    (valid : ∀ event ∈ events, event.validateState = .ok ()) (rest : Bytes) :
    decodeEvents index events.length (events.flatMap packed ++ rest) = .ok (events,rest) := by
  induction events generalizing index with
  | nil => rfl
  | cons event events ih =>
    have first := run_decodeEvent index event (small event mem_cons_self) (valid event mem_cons_self)
      (events.flatMap packed ++ rest)
    have later := ih (index + 1) (fun other member => small other (mem_cons_of_mem event member))
      (fun other member => valid other (mem_cons_of_mem event member))
    rw [flatMap_cons,append_assoc,length_cons,decodeEvents,Reader.run_bind,first,ok_bind,
      Reader.run_bind,later]
    rfl

theorem encodeEvents_ok (events : List ReplayEvent) (out bytes : Bytes) (room : out.length ≤ maxStreamBytes) :
    encodeEvents out events = .ok bytes ↔
      (∀ event ∈ events, Small event) ∧ bytes = out ++ events.flatMap packed ∧ bytes.length ≤ maxStreamBytes := by
  induction events generalizing out with
  | nil =>
    simp only [encodeEvents,Except.ok.injEq,flatMap_nil,append_nil]
    constructor
    · rintro rfl
      exact ⟨by simp,rfl,room⟩
    · rintro ⟨_,rfl,_⟩
      rfl
  | cons event events ih =>
    simp only [encodeEvents,check_bind_ok,ensure_ok,forall_mem_cons]
    constructor
    · rintro ⟨small,fits,rest⟩
      obtain ⟨all,rfl,total⟩ := (ih _ fits).mp rest
      exact ⟨⟨small,all⟩,by simp [packed],total⟩
    · rintro ⟨⟨small,all⟩,rfl,total⟩
      have fits : (out ++ packed event).length ≤ maxStreamBytes := by
        simp only [flatMap_cons,length_append] at total ⊢
        omega
      exact ⟨small,fits,(ih _ fits).mpr ⟨all,by simp [packed],total⟩⟩

theorem inOrder_iff (events : List ReplayEvent) : inOrder events = true ↔ ReplayEvent.Canonical events := by
  induction events with
  | nil => simp [inOrder,ReplayEvent.Canonical]
  | cons first rest ih =>
    cases rest with
    | nil => simp [inOrder,ReplayEvent.Canonical]
    | cons second rest =>
      simp only [inOrder,Bool.and_eq_true,ih,bne_iff_ne]
      constructor
      · rintro ⟨near,sorted⟩
        refine pairwise_cons.mpr ⟨?_,sorted⟩
        intro later member
        rcases mem_cons.mp member with rfl | member
        · exact near
        · have far := (pairwise_cons.mp sorted).1 later member
          rw [ReplayEvent.canonicalCmp_ne_gt] at near far ⊢
          exact near.trans far
      · intro sorted
        obtain ⟨near,sorted⟩ := pairwise_cons.mp sorted
        exact ⟨near second mem_cons_self,sorted⟩

def header (count : Nat) : Bytes := magic ++ (writeU32 version ++ writeU32 (UInt32.ofNat count))

theorem length_header (count : Nat) : (header count).length = 12 := by
  simp only [header,length_append,length_writeU32]
  rfl

theorem encodeCanonical_ok (events : List ReplayEvent) (bytes : Bytes) :
    encodeCanonicalReplayEventStream events = .ok bytes ↔
      events.length ≤ maxEvents ∧ ReplayEvent.Canonical events ∧ (∀ event ∈ events, Small event) ∧
      bytes = header events.length ++ events.flatMap packed ∧ bytes.length ≤ maxStreamBytes := by
  have room : (header events.length).length ≤ maxStreamBytes := by
    rw [length_header]
    decide
  simp only [encodeCanonicalReplayEventStream,check_bind_ok,ensure_ok,inOrder_iff]
  rw [← encodeEvents_ok events _ bytes room]
  rfl

theorem decodeReplayEventStream_ok (bytes : Bytes) (events : List ReplayEvent)
    (decoded : decodeReplayEventStream bytes = .ok events) :
    events.length ≤ maxEvents ∧ ReplayEvent.Canonical events ∧ (∀ event ∈ events, Small event) ∧
      bytes = header events.length ++ events.flatMap packed ∧ bytes.length ≤ maxStreamBytes := by
  have canonical := decodeReplayEventStream_canonical bytes events decoded
  obtain ⟨total,decoded⟩ := check_bind_ok.mp decoded
  obtain ⟨⟨found,left⟩,read,checked⟩ := bind_ok.mp decoded
  obtain ⟨_,last⟩ := check_bind_ok.mp checked
  obtain rfl := Except.ok.inj last
  simp only [decodeStream,readExact,Reader.bind_eq_ok,Reader.lift_eq_ok,Reader.exact_eq_ok,readU32_eq_ok,ensure_ok,
    Reader.pure_eq_ok,finish_eq_ok] at read
  obtain ⟨start,_,⟨_,rfl⟩,_,_,⟨rfl,rfl⟩,found,_,rfl,_,_,⟨rfl,rfl⟩,count,_,rfl,_,_,⟨few,rfl⟩,others,_,read,_,_,⟨rfl,rfl⟩,
    rfl,rfl⟩ := read
  obtain ⟨length,small,rfl⟩ := decodeEvents_accepted _ _ _ _ _ read
  refine ⟨length ▸ few,canonical,small,?_,ensure_ok.mp total⟩
  rw [header,length,UInt32.ofNat_toNat]
  simp

theorem decodeReplayEventStream_of_canonical (events : List ReplayEvent) (few : events.length ≤ maxEvents)
    (canonical : ReplayEvent.Canonical events) (small : ∀ event ∈ events, Small event)
    (valid : ∀ event ∈ events, event.validateState = .ok ())
    (total : (header events.length ++ events.flatMap packed).length ≤ maxStreamBytes) :
    decodeReplayEventStream (header events.length ++ events.flatMap packed) = .ok events := by
  have bound : maxEvents < 2^32 := by decide
  have count := count_toNat events.length (lt_of_le_of_lt few bound)
  have read := run_decodeEvents events 0 small valid []
  rw [append_nil] at read
  have stream : decodeStream (header events.length ++ events.flatMap packed) = .ok (events,[]) := by
    simp only [decodeStream,header,append_assoc,Reader.run_bind,readExact,Reader.run_exact _ 4 magic _ rfl,ok_bind,
      run_readU32,Reader.run_lift,ensure_pos,map_ok,count,few,read]
    rfl
  rw [decodeReplayEventStream,ensure_pos total,ok_bind,stream,ok_bind,
    ensure_pos (ReplayEvent.sortCanonical_of_canonical events canonical).symm]
  rfl

/-- Decoding an encoded list answers with its stable sort, and every accepted
stream is the encoding of what it decodes to. -/
theorem replayEventStream_canonical :
    (∀ (events : List ReplayEvent) (bytes : Bytes), (∀ event ∈ events, event.validateState = .ok ()) →
      encodeReplayEventStream events = .ok bytes →
      decodeReplayEventStream bytes = .ok (ReplayEvent.sortCanonical events)) ∧
    ∀ (bytes : Bytes) (events : List ReplayEvent), decodeReplayEventStream bytes = .ok events →
      encodeCanonicalReplayEventStream events = .ok bytes := by
  constructor
  · intro events bytes valid encoded
    obtain ⟨_,encoded⟩ := check_bind_ok.mp encoded
    obtain ⟨few,canonical,small,rfl,total⟩ := (encodeCanonical_ok _ _).mp encoded
    refine decodeReplayEventStream_of_canonical _ few canonical small ?_ total
    intro event member
    exact valid event ((ReplayEvent.mem_sortCanonical events event).mp member)
  · intro bytes events decoded
    exact (encodeCanonical_ok events bytes).mpr (decodeReplayEventStream_ok bytes events decoded)

/-- Two disk sides out of order. -/
theorem replayEventStream_canonical_sides :
    decodeReplayEventStream (header 2 ++ [.fdsDiskSide 3 0,.fdsDiskSide 7 1].flatMap packed) =
      .ok (ReplayEvent.sortCanonical [.fdsDiskSide 7 1,.fdsDiskSide 3 0]) ∧
    encodeCanonicalReplayEventStream (ReplayEvent.sortCanonical [.fdsDiskSide 7 1,.fdsDiskSide 3 0]) =
      .ok (header 2 ++ [.fdsDiskSide 3 0,.fdsDiskSide 7 1].flatMap packed) := by
  have inverted : (ReplayEvent.fdsDiskSide 7 1).canonicalCmp (.fdsDiskSide 3 0) = .gt := by
    rw [ReplayEvent.canonicalCmp,compare_gt_iff_gt]
    decide
  have ordered : (ReplayEvent.fdsDiskSide 3 0).canonicalCmp (.fdsDiskSide 7 1) ≠ .gt := by
    rw [ReplayEvent.canonicalCmp_ne_gt]
    decide
  have sorted : ReplayEvent.sortCanonical [.fdsDiskSide 7 1,.fdsDiskSide 3 0] = [.fdsDiskSide 3 0,.fdsDiskSide 7 1] := by
    simp [ReplayEvent.sortCanonical,List.mergeSort,List.MergeSort.Internal.splitInTwo,inverted]
  have encoded : encodeReplayEventStream [.fdsDiskSide 7 1,.fdsDiskSide 3 0] =
      .ok (header 2 ++ [.fdsDiskSide 3 0,.fdsDiskSide 7 1].flatMap packed) := by
    rw [encodeReplayEventStream,check_bind_ok,sorted,encodeCanonical_ok]
    exact ⟨rfl,by decide,by simpa [ReplayEvent.Canonical] using ordered,by simp [Small]; decide,rfl,by decide⟩
  have decoded := replayEventStream_canonical.1 _ _ (by simp [ReplayEvent.validateState]) encoded
  exact ⟨decoded,replayEventStream_canonical.2 _ _ decoded⟩

end EventStream

end ZeffBoy.Replay
