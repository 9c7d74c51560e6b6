import ZeffBoy.Netplay.Checkpoints

/-! The comparison of checkpoints is exact: with each side in order and neither too far ahead, a call fails as soon as the
two sides differ at a frame, and not before. -/
namespace ZeffBoy.Netplay
open Library Wire List

namespace Hashes

inductive CheckpointCall where
  | local_ (message : Message)
  | remote (message : Message) (current lookahead : Nat)

def call (h : Hashes) : CheckpointCall → Call Hashes Unit
  | .local_ message => h.local_ message
  | .remote message current lookahead => h.remote message current lookahead

def results : Hashes → List CheckpointCall → List (Except String Unit)
  | _, [] => []
  | h, next::calls => (h.call next).1::results (h.call next).2 calls

def locals (calls : List CheckpointCall) : List Message := calls.filterMap fun
  | .local_ message => some message
  | .remote .. => none

def remotes (calls : List CheckpointCall) : List Message := calls.filterMap fun
  | .local_ _ => none
  | .remote message _ _ => some message

def unmatched (mine theirs : List Message) : Finset Nat := (mine.map frameOf).toFinset \ (theirs.map frameOf).toFinset

/-- Both sides report periodic checkpoints in order, the peer with immediate repeats at most, within the lookahead and no
more than the capacity ahead of each other. -/
structure Orderly (calls : List CheckpointCall) : Prop where
  periodic : ∀ message ∈ locals calls ++ remotes calls, periodicFrame message = .ok (frameOf message)
  locals : (locals calls).Pairwise (fun earlier later => frameOf earlier < frameOf later)
  remotes : (remotes calls).Pairwise (fun earlier later => frameOf earlier < frameOf later ∨ earlier = later)
  lookahead : ∀ message current lookahead, .remote message current lookahead ∈ calls →
    current + lookahead < 2^64 ∧ frameOf message ≤ current + lookahead
  ahead : ∀ front, front <+: calls → (unmatched (Hashes.locals front) (Hashes.remotes front)).card ≤ capacity
  behind : ∀ front, front <+: calls → (unmatched (Hashes.remotes front) (Hashes.locals front)).card ≤ capacity

/-- No frame that both sides have reported has two checkpoints. -/
def Agree (mine theirs : List Message) : Prop :=
  ∀ own ∈ mine, ∀ other ∈ theirs, frameOf own = frameOf other → own = other

/-- What the maps hold when each side has reported its messages. -/
structure Tracks (mine theirs : List Message) (h : Hashes) : Prop where
  expected : ∀ frame message, h.expected.get? frame = some message ↔
    message ∈ mine ∧ frameOf message = frame ∧ ∀ other ∈ theirs, frameOf other ≠ frame
  pending : ∀ frame message, h.pending.get? frame = some message ↔
    message ∈ theirs ∧ frameOf message = frame ∧ ∀ own ∈ mine, frameOf own ≠ frame
  both : ∀ message, h.matched = some message → message ∈ mine ∧ message ∈ theirs
  latest : ∀ own ∈ mine, ∀ other ∈ theirs, frameOf own = frameOf other →
    ∃ matched, h.matched = some matched ∧ frameOf own ≤ frameOf matched

theorem tracks_new : Tracks [] [] new where
  expected := by simp [new]
  pending := by simp [new]
  both := by simp [new]
  latest := by simp

theorem room_of_unmatched (map : OrderedMap Message) (mine theirs : List Message) (message : Message)
    (held : ∀ frame, (map.get? frame).isSome → frame ∈ unmatched mine theirs ∧ frame ≠ frameOf message)
    (fresh : ∀ other ∈ theirs, frameOf other ≠ frameOf message)
    (bound : (unmatched (mine ++ [message]) theirs).card ≤ capacity) : map.size < capacity := by
  have subset : insert (frameOf message) map.keys.toFinset ⊆ unmatched (mine ++ [message]) theirs := by
    intro frame member
    rw [Finset.mem_insert,mem_toFinset,OrderedMap.mem_keys] at member
    rw [unmatched,Finset.mem_sdiff,mem_toFinset,mem_toFinset,map_append,mem_append]
    rcases member with rfl | present
    · refine ⟨.inr (by simp),?_⟩
      intro absent
      obtain ⟨other,inside,same⟩ := mem_map.mp absent
      exact fresh other inside same
    · obtain ⟨inside,_⟩ := held frame present
      rw [unmatched,Finset.mem_sdiff,mem_toFinset,mem_toFinset] at inside
      exact ⟨.inl inside.1,inside.2⟩
  have apart : frameOf message ∉ map.keys.toFinset := by
    rw [mem_toFinset,OrderedMap.mem_keys]
    exact fun present => (held _ present).2 rfl
  have counted := Finset.card_le_card subset
  rw [Finset.card_insert_of_notMem apart,toFinset_card_of_nodup map.keys_nodup] at counted
  have length : map.keys.length = map.size := length_map ..
  omega

theorem unique_of_ordered (messages : List Message)
    (ordered : messages.Pairwise (fun earlier later => frameOf earlier < frameOf later ∨ earlier = later)) :
    ∀ first ∈ messages, ∀ second ∈ messages, frameOf first = frameOf second → first = second := by
  induction messages with
  | nil => exact fun _ absent => (not_mem_nil absent).elim
  | cons message messages ih =>
    obtain ⟨head,tail⟩ := pairwise_cons.mp ordered
    intro first inFirst second inSecond same
    rcases mem_cons.mp inFirst with here | laterFirst <;> rcases mem_cons.mp inSecond with there | laterSecond
    · rw [here,there]
    · subst here
      exact (head second laterSecond).resolve_left (by omega)
    · subst there
      exact ((head first laterFirst).resolve_left (by omega)).symm
    · exact ih tail first laterFirst second laterSecond same

variable {mine theirs : List Message} {h : Hashes}

theorem Tracks.swap (tracks : Tracks mine theirs h) : Tracks theirs mine ⟨h.pending,h.expected,h.matched⟩ where
  expected := tracks.pending
  pending := tracks.expected
  both := fun message chosen => (tracks.both message chosen).symm
  latest := by
    intro other inTheirs own inMine same
    obtain ⟨matched,chosen,later⟩ := tracks.latest own inMine other inTheirs same.symm
    exact ⟨matched,chosen,same.trans_le later⟩

theorem Tracks.report (tracks : Tracks mine theirs h) (message : Message)
    (new : ∀ own ∈ mine, frameOf own ≠ frameOf message) (absent : ∀ other ∈ theirs, frameOf other ≠ frameOf message) :
    Tracks (mine ++ [message]) theirs {h with expected := h.expected.insert (frameOf message) message} where
  expected := by
    intro frame own
    dsimp only
    rw [OrderedMap.get?_insert,mem_append,mem_singleton]
    split
    · rename_i here
      subst here
      constructor
      · intro chosen
        cases chosen
        exact ⟨.inr rfl,rfl,absent⟩
      · rintro ⟨member | rfl,at_,_⟩
        · exact absurd at_ (new own member)
        · rfl
    · rename_i apart
      rw [tracks.expected]
      constructor
      · rintro ⟨member,rest⟩
        exact ⟨.inl member,rest⟩
      · rintro ⟨member | rfl,at_,none_⟩
        · exact ⟨member,at_,none_⟩
        · exact absurd at_.symm apart
  pending := by
    intro frame other
    rw [tracks.pending]
    constructor
    · rintro ⟨member,at_,none_⟩
      refine ⟨member,at_,?_⟩
      intro own inMine
      rcases mem_append.mp inMine with inMine | inMine
      · exact none_ own inMine
      · rw [mem_singleton.mp inMine,← at_]
        exact (absent other member).symm
    · rintro ⟨member,at_,none_⟩
      exact ⟨member,at_,fun own inMine => none_ own (mem_append_left _ inMine)⟩
  both := by
    intro matched chosen
    obtain ⟨inMine,inTheirs⟩ := tracks.both matched chosen
    exact ⟨mem_append_left _ inMine,inTheirs⟩
  latest := by
    intro own member other inTheirs same
    rcases mem_append.mp member with member | member
    · exact tracks.latest own member other inTheirs same
    · rw [mem_singleton.mp member] at same
      exact absurd same.symm (absent other inTheirs)

theorem Tracks.settle (tracks : Tracks mine theirs h) (message : Message) (reported : message ∈ theirs)
    (above : ∀ own ∈ mine, frameOf own < frameOf message) :
    Tracks (mine ++ [message]) theirs {h with pending := h.pending.erase (frameOf message), matched := some message} where
  expected := by
    intro frame own
    rw [tracks.expected,mem_append,mem_singleton]
    constructor
    · rintro ⟨member,rest⟩
      exact ⟨.inl member,rest⟩
    · rintro ⟨member | rfl,at_,none_⟩
      · exact ⟨member,at_,none_⟩
      · exact absurd at_ (none_ own reported)
  pending := by
    intro frame other
    dsimp only
    rw [OrderedMap.get?_erase]
    split
    · rename_i here
      subst here
      constructor
      · exact fun absent => nomatch absent
      · rintro ⟨_,_,none_⟩
        exact absurd rfl (none_ message (mem_append_right _ (mem_singleton_self _)))
    · rename_i apart
      rw [tracks.pending]
      constructor
      · rintro ⟨member,at_,none_⟩
        refine ⟨member,at_,?_⟩
        intro own inMine
        rcases mem_append.mp inMine with inMine | inMine
        · exact none_ own inMine
        · rw [mem_singleton.mp inMine]
          exact fun same => apart same.symm
      · rintro ⟨member,at_,none_⟩
        exact ⟨member,at_,fun own inMine => none_ own (mem_append_left _ inMine)⟩
  both := by
    intro matched chosen
    cases chosen
    exact ⟨mem_append_right _ (mem_singleton_self _),reported⟩
  latest := by
    intro own member other _ _
    refine ⟨message,rfl,?_⟩
    rcases mem_append.mp member with member | member
    · exact (above own member).le
    · rw [mem_singleton.mp member]

theorem Tracks.repeated (tracks : Tracks mine theirs h) (message : Message) (known : message ∈ theirs) :
    Tracks mine (theirs ++ [message]) h := by
  have same (other : Message) : other ∈ theirs ++ [message] ↔ other ∈ theirs := by
    rw [mem_append,mem_singleton]
    exact ⟨fun member => member.elim id (fun here => here ▸ known),.inl⟩
  refine ⟨?_,?_,?_,?_⟩
  · simpa only [same] using tracks.expected
  · simpa only [same] using tracks.pending
  · simpa only [same] using tracks.both
  · simpa only [same] using tracks.latest

theorem Tracks.room (tracks : Tracks mine theirs h) (message : Message)
    (new : ∀ own ∈ mine, frameOf own ≠ frameOf message) (absent : ∀ other ∈ theirs, frameOf other ≠ frameOf message)
    (bound : (unmatched (mine ++ [message]) theirs).card ≤ capacity) : h.expected.size < capacity := by
  refine room_of_unmatched h.expected mine theirs message ?_ absent bound
  intro frame present
  obtain ⟨own,held⟩ := Option.isSome_iff_exists.mp present
  obtain ⟨inside,at_,none_⟩ := (tracks.expected frame own).mp held
  subst at_
  refine ⟨?_,new own inside⟩
  rw [unmatched,Finset.mem_sdiff,mem_toFinset,mem_toFinset]
  refine ⟨mem_map_of_mem inside,fun reported => ?_⟩
  obtain ⟨other,member,same⟩ := mem_map.mp reported
  exact none_ other member same

theorem Tracks.local_ (tracks : Tracks mine theirs h) (message : Message)
    (periodic : periodicFrame message = .ok (frameOf message)) (above : ∀ own ∈ mine, frameOf own < frameOf message)
    (unique : ∀ first ∈ theirs, ∀ second ∈ theirs, frameOf first = frameOf second → first = second)
    (bound : (unmatched (mine ++ [message]) theirs).card ≤ capacity) :
    ((h.local_ message).1 = .ok () ↔ ∀ other ∈ theirs, frameOf message = frameOf other → message = other) ∧
      ((h.local_ message).1 = .ok () → Tracks (mine ++ [message]) theirs (h.local_ message).2) := by
  have fresh : h.expected.get? (frameOf message) = none := by
    cases found : h.expected.get? (frameOf message) with
    | none => rfl
    | some own =>
      obtain ⟨inside,same,_⟩ := (tracks.expected _ own).mp found
      exact absurd (above own inside) (by omega)
  unfold Hashes.local_
  rw [periodic]
  dsimp only
  rw [fresh,Option.isSome_none,if_neg Bool.false_ne_true]
  cases found : h.pending.get? (frameOf message) with
  | some reported =>
    obtain ⟨inside,same,_⟩ := (tracks.pending _ reported).mp found
    dsimp only
    by_cases equal : reported = message
    · subst equal
      rw [if_pos rfl]
      exact ⟨⟨fun _ other member frames => unique reported inside other member frames,fun _ => rfl⟩,
        fun _ => tracks.settle reported inside above⟩
    · rw [if_neg equal]
      exact ⟨⟨(fun ok => nomatch ok),fun agrees => absurd (agrees reported inside same.symm).symm equal⟩,fun ok => nomatch ok⟩
  | none =>
    have absent : ∀ other ∈ theirs, frameOf other ≠ frameOf message := by
      intro other member same
      have present := (tracks.pending (frameOf message) other).mpr
        ⟨member,same,fun own inMine frames => absurd (above own inMine) (by omega)⟩
      rw [found] at present
      contradiction
    have new : ∀ own ∈ mine, frameOf own ≠ frameOf message := fun own member => ne_of_lt (above own member)
    dsimp only
    rw [if_pos (tracks.room message new absent bound)]
    exact ⟨⟨fun _ other member same => absurd same.symm (absent other member),fun _ => rfl⟩,
      fun _ => tracks.report message new absent⟩

theorem Tracks.remote (tracks : Tracks mine theirs h) (message : Message) (current lookahead : Nat)
    (periodic : periodicFrame message = .ok (frameOf message))
    (above : ∀ other ∈ theirs, frameOf other < frameOf message ∨ other = message)
    (unique : ∀ first ∈ mine, ∀ second ∈ mine, frameOf first = frameOf second → first = second)
    (room : current + lookahead < 2^64) (near : frameOf message ≤ current + lookahead)
    (bound : (unmatched (theirs ++ [message]) mine).card ≤ capacity) :
    ((h.remote message current lookahead).1 = .ok () ↔ ∀ own ∈ mine, frameOf own = frameOf message → own = message) ∧
      ((h.remote message current lookahead).1 = .ok () →
        Tracks mine (theirs ++ [message]) (h.remote message current lookahead).2) := by
  unfold Hashes.remote
  rw [periodic,checkedAdd_pos room]
  dsimp only
  rw [if_neg (not_lt.mpr near)]
  cases latest : h.matched.filter (fun matched => frameOf message ≤ frameOf matched) with
  | some matched =>
    obtain ⟨chosen,later⟩ := Option.filter_eq_some_iff.mp latest
    obtain ⟨inMine,inTheirs⟩ := tracks.both matched chosen
    have same : matched = message := (above matched inTheirs).resolve_left (by simpa using later)
    subst same
    dsimp only
    rw [if_pos rfl]
    exact ⟨⟨fun _ own member frames => unique own member matched inMine frames,fun _ => rfl⟩,
      fun _ => tracks.repeated matched inTheirs⟩
  | none =>
    have past : ∀ matched, h.matched = some matched → frameOf matched < frameOf message := by
      intro matched chosen
      rw [chosen,Option.filter_eq_none_iff] at latest
      have early := latest matched rfl
      simpa using early
    dsimp only
    cases found : h.expected.get? (frameOf message) with
    | some own =>
      obtain ⟨inside,same,none_⟩ := (tracks.expected _ own).mp found
      have strictly : ∀ other ∈ theirs, frameOf other < frameOf message := by
        intro other member
        rcases above other member with earlier | here
        · exact earlier
        · exact absurd (congrArg frameOf here) (none_ other member)
      dsimp only
      by_cases equal : own = message
      · subst equal
        rw [if_pos rfl]
        exact ⟨⟨fun _ first member frames => unique first member own inside frames,fun _ => rfl⟩,
          fun _ => (tracks.swap.settle own inside strictly).swap⟩
      · rw [if_neg equal]
        exact ⟨⟨(fun ok => nomatch ok),fun agrees => absurd (agrees own inside same) equal⟩,fun ok => nomatch ok⟩
    | none =>
      have none_ : ∀ own ∈ mine, frameOf own = frameOf message → ∃ other ∈ theirs, frameOf other = frameOf message := by
        intro own inMine same
        by_contra lonely
        have present := (tracks.expected (frameOf message) own).mpr
          ⟨inMine,same,fun other inTheirs frames => lonely ⟨other,inTheirs,frames⟩⟩
        rw [found] at present
        contradiction
      cases held : h.pending.get? (frameOf message) with
      | some previous =>
        obtain ⟨inside,same,apart⟩ := (tracks.pending _ previous).mp held
        have same : previous = message := (above previous inside).resolve_left (by omega)
        subst same
        dsimp only
        rw [if_pos rfl]
        exact ⟨⟨fun _ own member frames => absurd frames (apart own member),fun _ => rfl⟩,
          fun _ => tracks.repeated previous inside⟩
      | none =>
        have absent : ∀ other ∈ theirs, frameOf other ≠ frameOf message := by
          intro other member same
          by_cases shared : ∃ own ∈ mine, frameOf own = frameOf message
          · obtain ⟨own,inMine,frames⟩ := shared
            obtain ⟨matched,chosen,later⟩ := tracks.latest own inMine other member (frames.trans same.symm)
            exact absurd (past matched chosen) (by omega)
          · have present := (tracks.pending (frameOf message) other).mpr
              ⟨member,same,fun own inMine frames => shared ⟨own,inMine,frames⟩⟩
            rw [held] at present
            contradiction
        have new : ∀ own ∈ mine, frameOf own ≠ frameOf message := by
          intro own inMine same
          obtain ⟨other,inTheirs,frames⟩ := none_ own inMine same
          exact absent other inTheirs frames
        dsimp only
        rw [if_pos (tracks.swap.room message absent new bound)]
        exact ⟨⟨fun _ own member same => absurd same (new own member),fun _ => rfl⟩,
          fun _ => (tracks.swap.report message absent new).swap⟩

theorem results_append (h : Hashes) (front : List CheckpointCall) (last : CheckpointCall) :
    results h (front ++ [last]) = results h front ++ [((front.foldl (fun h next => (h.call next).2) h).call last).1] := by
  induction front generalizing h with
  | nil => rfl
  | cons next front ih =>
    rw [cons_append,results,results,ih,foldl_cons,cons_append]

theorem Orderly.front {front : List CheckpointCall} {last : CheckpointCall} (orderly : Orderly (front ++ [last])) :
    Orderly front := by
  have inFront : front <+: front ++ [last] := prefix_append ..
  refine ⟨?_,?_,?_,?_,?_,?_⟩
  · intro message member
    apply orderly.periodic
    rw [Hashes.locals,Hashes.remotes,filterMap_append,filterMap_append]
    rcases mem_append.mp member with member | member
    · exact mem_append_left _ (mem_append_left _ member)
    · exact mem_append_right _ (mem_append_left _ member)
  · exact orderly.locals.sublist (inFront.sublist.filterMap _)
  · exact orderly.remotes.sublist (inFront.sublist.filterMap _)
  · exact fun message current lookahead member =>
      orderly.lookahead message current lookahead (mem_append_left _ member)
  · exact fun shorter within => orderly.ahead shorter (within.trans inFront)
  · exact fun shorter within => orderly.behind shorter (within.trans inFront)

theorem Agree.sublists {shorter others : List Message} (agree : Agree mine theirs) (left : shorter ⊆ mine)
    (right : others ⊆ theirs) : Agree shorter others :=
  fun own inMine other inTheirs => agree own (left inMine) other (right inTheirs)

theorem agree_append_local (message : Message) (agree : Agree mine theirs) :
    Agree (mine ++ [message]) theirs ↔ ∀ other ∈ theirs, frameOf message = frameOf other → message = other := by
  constructor
  · exact fun whole => whole message (mem_append_right _ (mem_singleton_self _))
  · intro last own member
    rcases mem_append.mp member with member | member
    · exact agree own member
    · rw [mem_singleton.mp member]
      exact last

theorem agree_append_remote (message : Message) (agree : Agree mine theirs) :
    Agree mine (theirs ++ [message]) ↔ ∀ own ∈ mine, frameOf own = frameOf message → own = message := by
  constructor
  · exact fun whole own inMine => whole own inMine message (mem_append_right _ (mem_singleton_self _))
  · intro last own inMine other member
    rcases mem_append.mp member with member | member
    · exact agree own inMine other member
    · rw [mem_singleton.mp member]
      exact last own inMine

def after (calls : List CheckpointCall) : Hashes := calls.foldl (fun h next => (h.call next).2) new

theorem Orderly.last_call (front : List CheckpointCall) (last : CheckpointCall) (orderly : Orderly (front ++ [last]))
    (agree : Agree (Hashes.locals front) (Hashes.remotes front))
    (tracks : Tracks (Hashes.locals front) (Hashes.remotes front) (after front)) :
    (((after front).call last).1 = .ok () ↔ Agree (Hashes.locals (front ++ [last])) (Hashes.remotes (front ++ [last]))) ∧
      (((after front).call last).1 = .ok () →
        Tracks (Hashes.locals (front ++ [last])) (Hashes.remotes (front ++ [last])) ((after front).call last).2) := by
  have locals := orderly.locals
  have remotes := orderly.remotes
  have periodic := orderly.periodic
  cases last with
  | local_ message =>
    have ahead := orderly.ahead _ (prefix_refl _)
    have grown : Hashes.locals (front ++ [.local_ message]) = Hashes.locals front ++ [message] := filterMap_append
    have same : Hashes.remotes (front ++ [.local_ message]) = Hashes.remotes front :=
      filterMap_append.trans (append_nil _)
    rw [grown,same] at ahead periodic
    rw [grown] at locals ⊢
    rw [same] at remotes ⊢
    obtain ⟨succeeds,follows⟩ := tracks.local_ message
      (periodic message (mem_append_left _ (mem_append_right _ (mem_singleton_self _))))
      (fun own member => (pairwise_append.mp locals).2.2 own member message (mem_singleton_self _))
      (unique_of_ordered _ remotes) ahead
    exact ⟨succeeds.trans (agree_append_local message agree).symm,follows⟩
  | remote message current lookahead =>
    have behind := orderly.behind _ (prefix_refl _)
    obtain ⟨room,near⟩ := orderly.lookahead message current lookahead (mem_append_right _ (mem_singleton_self _))
    have same : Hashes.locals (front ++ [.remote message current lookahead]) = Hashes.locals front :=
      filterMap_append.trans (append_nil _)
    have grown : Hashes.remotes (front ++ [.remote message current lookahead]) = Hashes.remotes front ++ [message] :=
      filterMap_append
    rw [grown,same] at behind periodic
    rw [same] at locals ⊢
    rw [grown] at remotes ⊢
    obtain ⟨succeeds,follows⟩ := tracks.remote message current lookahead
      (periodic message (mem_append_right _ (mem_append_right _ (mem_singleton_self _))))
      (fun other member => (pairwise_append.mp remotes).2.2 other member message (mem_singleton_self _))
      (unique_of_ordered _ (locals.imp Or.inl)) room near behind
    exact ⟨succeeds.trans (agree_append_remote message agree).symm,follows⟩

theorem Orderly.tracks (calls : List CheckpointCall) (orderly : Orderly calls) :
    ((∀ result ∈ results new calls, result = .ok ()) ↔ Agree (Hashes.locals calls) (Hashes.remotes calls)) ∧
      ((∀ result ∈ results new calls, result = .ok ()) →
        Tracks (Hashes.locals calls) (Hashes.remotes calls) (after calls)) := by
  induction calls using List.reverseRecOn with
  | nil =>
    exact ⟨⟨fun _ _ absent => (not_mem_nil absent).elim,fun _ _ absent => (not_mem_nil absent).elim⟩,
      fun _ => tracks_new⟩
  | append_singleton front last ih =>
    obtain ⟨exact_,tracks⟩ := ih orderly.front
    have ran : after (front ++ [last]) = ((after front).call last).2 := by
      rw [after,foldl_append]
      rfl
    have all_ok : (∀ result ∈ results new (front ++ [last]), result = .ok ()) ↔
        (∀ result ∈ results new front, result = .ok ()) ∧ ((after front).call last).1 = .ok () := by
      rw [results_append,forall_mem_append,forall_mem_singleton,after]
    rw [all_ok,ran]
    by_cases good : ∀ result ∈ results new front, result = .ok ()
    · obtain ⟨succeeds,follows⟩ := orderly.last_call front last (exact_.mp good) (tracks good)
      exact ⟨⟨fun both => succeeds.mp both.2,fun agree => ⟨good,succeeds.mpr agree⟩⟩,fun both => follows both.2⟩
    · have within : Agree (Hashes.locals (front ++ [last])) (Hashes.remotes (front ++ [last])) →
          Agree (Hashes.locals front) (Hashes.remotes front) := fun agree =>
        agree.sublists ((sublist_append_left ..).filterMap _).subset ((sublist_append_left ..).filterMap _).subset
      exact ⟨⟨fun both => absurd both.1 good,fun agree => absurd (exact_.mpr (within agree)) good⟩,
        fun both => absurd both.1 good⟩

theorem Orderly.of_prefix {front calls : List CheckpointCall} (orderly : Orderly calls) (within : front <+: calls) :
    Orderly front := by
  obtain ⟨rest,rfl⟩ := within
  induction rest using List.reverseRecOn with
  | nil => rwa [append_nil] at orderly
  | append_singleton rest last ih =>
    rw [← append_assoc] at orderly
    exact ih orderly.front

/-- At any point of a run, some call has failed exactly when both sides have reported a frame with different checkpoints. -/
theorem orderly_results (calls : List CheckpointCall) (orderly : Orderly calls) (front : List CheckpointCall)
    (within : front <+: calls) :
    (∀ result ∈ results new front, result = .ok ()) ↔
      ∀ own ∈ Hashes.locals front, ∀ other ∈ Hashes.remotes front, frameOf own = frameOf other → own = other :=
  (Orderly.tracks front (orderly.of_prefix within)).1

-- The peer is ahead at first and repeats itself; the sides differ at the second checkpoint.
def sampleCheckpoint (frame : Nat) (byte : UInt8) : Message :=
  .checkpoint frame (List.Vector.replicate 32 byte) (List.Vector.replicate 32 0) (List.Vector.replicate 32 0)
    (List.Vector.replicate 32 0)

def sampleCalls : List CheckpointCall :=
  [.remote (sampleCheckpoint 60 0) 47 13,.local_ (sampleCheckpoint 60 0),.remote (sampleCheckpoint 60 0) 60 13,
    .local_ (sampleCheckpoint 120 0),.remote (sampleCheckpoint 120 1) 120 13]

theorem orderly_results_sample : (∀ result ∈ results new (sampleCalls.take 4), result = .ok ()) ∧
    ¬∀ result ∈ results new sampleCalls, result = .ok () := by
  have ahead : ∀ front ∈ sampleCalls.inits, (unmatched (Hashes.locals front) (Hashes.remotes front)).card ≤ capacity := by
    decide
  have behind : ∀ front ∈ sampleCalls.inits, (unmatched (Hashes.remotes front) (Hashes.locals front)).card ≤ capacity := by
    decide
  have orderly : Orderly sampleCalls := {
    periodic := by decide
    locals := by decide
    remotes := by decide
    lookahead := by
      intro message current lookahead member
      simp only [sampleCalls,mem_cons,CheckpointCall.remote.injEq,reduceCtorEq,not_mem_nil,false_or,or_false] at member
      rcases member with ⟨rfl,rfl,rfl⟩ | ⟨rfl,rfl,rfl⟩ | ⟨rfl,rfl,rfl⟩ <;> decide
    ahead := fun front within => ahead front ((mem_inits _ _).mpr within)
    behind := fun front within => behind front ((mem_inits _ _).mpr within) }
  constructor
  · have front := take_prefix 4 sampleCalls
    exact (orderly_results sampleCalls orderly _ front).mpr (by decide)
  · intro all
    have agree := (orderly_results sampleCalls orderly sampleCalls (prefix_refl _)).mp all
    have same := agree (sampleCheckpoint 120 0) (by decide) (sampleCheckpoint 120 1) (by decide) rfl
    exact absurd same (by decide)

end Hashes
end ZeffBoy.Netplay
