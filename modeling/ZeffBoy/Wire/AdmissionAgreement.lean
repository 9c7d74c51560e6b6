import ZeffBoy.Library.Transition
import ZeffBoy.Wire.Admission

/-! Agreement of admissions against a network attacker.
Any number of admissions run side by side, with any secrets and identities, and sessions of the same
secrets tag their packets. The attacker hands any bytes to any admission; only a valid tag must be one
that was sent. Every text that was hashed is logged, so that the ideal hash is one without a collision
in the log. -/
namespace ZeffBoy.Wire
open Library Netplay List

-- Who produced a packet: an admission of the player, for the given stage of the peer, or a session.
inductive Origin
  | admission (player : Player) (stage : Stage)
  | session
deriving DecidableEq

structure World where
  admissions : List Admission
  sent : List (Origin × Bytes)
  macs : List (Digest × Bytes)
  hashes : List Bytes

namespace World

def initial : World := ⟨[],[],[],[]⟩

variable (hmac : Digest → Bytes → Digest) (hash : Bytes → Digest)

-- The tag an admission waits for.
def expected (a : Admission) : Option Bytes :=
  match a.stage with
  | .authentication => some (a.authInput (other a.player))
  | .ready => some (a.readyInput (other a.player))
  | _ => none

-- The texts that the two hashes are applied to when the admission receives the packet.
def macsOf (a : Admission) (packet : Bytes) : List (Digest × Bytes) :=
  match a.stage, (a.receive hmac hash packet).1 with
  | .hello, .ok _ => [(a.secret,(a.greeted hash packet).authInput a.player)]
  | .authentication, .ok _ => [(a.secret,a.authInput (other a.player)),(a.secret,a.readyInput a.player)]
  | .authentication, .error _ => [(a.secret,a.authInput (other a.player))]
  | .ready, _ => [(a.secret,a.readyInput (other a.player))]
  | _, _ => []

def hashesOf (a : Admission) (packet : Bytes) : List Bytes :=
  match a.stage, (a.receive hmac hash packet).1 with
  | .hello, .ok _ => [{a with remote := packet}.transcriptInput]
  | _, _ => []

-- The stage of the peer that an admission's reply is meant for.
def nextStage : Stage → Stage
  | .hello => .authentication
  | .authentication => .ready
  | stage => stage

def repliesOf (a : Admission) (packet : Bytes) : List (Origin × Bytes) :=
  match (a.receive hmac hash packet).1 with
  | .ok (some reply) => [(.admission a.player (nextStage a.stage),reply)]
  | _ => []

inductive Step : World → World → Prop
  | create (x : World) (player : Player) (identity : Identity) (secret nonce : Digest) (a : Admission)
    (ok : Admission.new player identity secret nonce = .ok a) :
    Step x {x with
      admissions := x.admissions ++ [a]
      sent := x.sent ++ [(.admission player .hello,a.mine)]}
  | session (x : World) (secret : Digest) (domain body : Bytes) (known : domain = packetDomain ∨ domain = inputDomain) :
    Step x {x with
      sent := x.sent ++ [(.session,(hmac secret (domain ++ body)).toList)]
      macs := x.macs ++ [(secret,domain ++ body)]}
  | deliver (x : World) (index : Nat) (a : Admission) (packet : Bytes) (found : x.admissions[index]? = some a)
    (unforged : ∀ text, expected a = some text → packet = (hmac a.secret text).toList →
      ∃ origin, (origin,packet) ∈ x.sent) :
    Step x {x with
      admissions := x.admissions.set index (a.receive hmac hash packet).2
      sent := x.sent ++ repliesOf hmac hash a packet
      macs := x.macs ++ macsOf hmac hash a packet
      hashes := x.hashes ++ hashesOf hmac hash a packet}

def Reachable (x : World) : Prop := Relation.ReflTransGen (Step hmac hash) initial x

/-- No two texts of the logs collide. -/
structure Ideal (macs : List (Digest × Bytes)) (hashes : List Bytes) : Prop where
  macs : ∀ left ∈ macs, ∀ right ∈ macs, hmac left.1 left.2 = hmac right.1 right.2 → left = right
  hashes : ∀ left ∈ hashes, ∀ right ∈ hashes, hash left = hash right → left = right

-- The four domains differ in one byte.
def domainMark : Nat := 13

theorem byteAt_domain (domain rest : Bytes) (long : domainMark < domain.length) :
    byteAt (domain ++ rest) domainMark = byteAt domain domainMark := by
  simp only [byteAt,getD_eq_getElem?_getD]
  rw [List.getElem?_append_left long]

theorem domain_ne {left right leftRest rightRest : Bytes} (leftLong : domainMark < left.length)
    (rightLong : domainMark < right.length) (marks : byteAt left domainMark ≠ byteAt right domainMark) :
    left ++ leftRest ≠ right ++ rightRest := by
  intro same
  apply marks
  rw [← byteAt_domain left leftRest leftLong,same,byteAt_domain right rightRest rightLong]

theorem auth_ne_ready (left right : Bytes) : authDomain ++ left ≠ readyDomain ++ right :=
  domain_ne (by decide) (by decide) (by decide)

theorem session_ne_auth (domain left right : Bytes) (known : domain = packetDomain ∨ domain = inputDomain) :
    domain ++ left ≠ authDomain ++ right := by
  rcases known with rfl | rfl
  · exact domain_ne (by decide) (by decide) (by decide)
  · exact domain_ne (by decide) (by decide) (by decide)

theorem session_ne_ready (domain left right : Bytes) (known : domain = packetDomain ∨ domain = inputDomain) :
    domain ++ left ≠ readyDomain ++ right := by
  rcases known with rfl | rfl
  · exact domain_ne (by decide) (by decide) (by decide)
  · exact domain_ne (by decide) (by decide) (by decide)

section Cases
variable (a : Admission) (packet : Bytes)

theorem receive_cases :
    (a.stage = .hello ∧ a.checkHello packet = .ok () ∧ a.receive hmac hash packet =
      (.ok (some (hmac a.secret ((a.greeted hash packet).authInput a.player)).toList),a.greeted hash packet)) ∨
    (a.stage = .authentication ∧ packet = (hmac a.secret (a.authInput (other a.player))).toList ∧
      a.receive hmac hash packet =
        (.ok (some (hmac a.secret (a.readyInput a.player)).toList),{a with stage := .ready})) ∨
    (a.stage = .ready ∧ packet = (hmac a.secret (a.readyInput (other a.player))).toList ∧
      a.receive hmac hash packet = (.ok none,{a with stage := .complete})) ∨
    ∃ error, a.receive hmac hash packet = (.error error,{a with stage := .failed}) := by
  unfold Admission.receive Admission.receiveInner
  cases stage : a.stage with
  | hello =>
    dsimp only
    cases checked : a.checkHello packet with
    | error error => exact Or.inr (Or.inr (Or.inr ⟨error,rfl⟩))
    | ok _ => exact Or.inl ⟨rfl,rfl,rfl⟩
  | authentication =>
    dsimp only
    by_cases valid : (hmac a.secret (a.authInput (other a.player))).toList = packet
    · exact Or.inr (Or.inl ⟨rfl,valid.symm,by rw [verify,ensure_pos valid]; rfl⟩)
    · exact Or.inr (Or.inr (Or.inr ⟨"authentication failed",by rw [verify,ensure,if_neg valid]; rfl⟩))
  | ready =>
    dsimp only
    by_cases valid : (hmac a.secret (a.readyInput (other a.player))).toList = packet
    · exact Or.inr (Or.inr (Or.inl ⟨rfl,valid.symm,by rw [verify,ensure_pos valid]; rfl⟩))
    · exact Or.inr (Or.inr (Or.inr ⟨"authentication failed",by rw [verify,ensure,if_neg valid]; rfl⟩))
  | complete => exact Or.inr (Or.inr (Or.inr ⟨_,rfl⟩))
  | failed => exact Or.inr (Or.inr (Or.inr ⟨_,rfl⟩))

end Cases

-- The transcript of an admission that has accepted a hello.
structure Transcribed (hashes : List Bytes) (a : Admission) : Prop where
  transcript : a.transcript = hash a.transcriptInput
  logged : a.transcriptInput ∈ hashes
  checked : a.checkHello a.remote = .ok ()

/-- Where a sent packet comes from. -/
def Explained (x : World) : Origin → Bytes → Prop
  | .admission player .hello, bytes => bytes.length = helloLen ∧ byteAt bytes 6 = role player
  | .admission player .authentication, bytes => ∃ secret text, (secret,authDomain ++ (text ++ [role player])) ∈ x.macs ∧
    bytes = (hmac secret (authDomain ++ (text ++ [role player]))).toList
  | .admission player .ready, bytes => ∃ b ∈ x.admissions, b.player = player ∧ b.stage ≠ .hello ∧
    Transcribed hash x.hashes b ∧ (b.secret,b.readyInput player) ∈ x.macs ∧
    bytes = (hmac b.secret (b.readyInput player)).toList
  | .session, bytes => ∃ secret domain body, (domain = packetDomain ∨ domain = inputDomain) ∧
    (secret,domain ++ body) ∈ x.macs ∧ bytes = (hmac secret (domain ++ body)).toList
  | _, _ => False

structure Sound (x : World) : Prop where
  written : ∀ a ∈ x.admissions, ∃ nonce, hello a.player a.identity nonce = .ok a.mine
  transcribed : ∀ a ∈ x.admissions, a.stage ≠ .hello → a.stage ≠ .failed → Transcribed hash x.hashes a
  complete : ∀ a ∈ x.admissions, a.stage = .complete → (a.secret,a.readyInput (other a.player)) ∈ x.macs ∧
    ∃ origin, (origin,(hmac a.secret (a.readyInput (other a.player))).toList) ∈ x.sent
  sent : ∀ origin bytes, (origin,bytes) ∈ x.sent → Explained hmac hash x origin bytes

theorem sound_initial : Sound hmac hash initial where
  written := by simp [initial]
  transcribed := by simp [initial]
  complete := by simp [initial]
  sent := by simp [initial]

section
variable {hmac : Digest → Bytes → Digest} {hash : Bytes → Digest} {x : World}

theorem Transcribed.mono {hashes more : List Bytes} {a : Admission} (t : Transcribed hash hashes a)
    (grows : hashes ⊆ more) (stage : Stage) : Transcribed hash more {a with stage := stage} :=
  ⟨t.transcript,grows t.logged,t.checked⟩

theorem explained_mono {y : World} (origin : Origin) (bytes : Bytes) (explained : Explained hmac hash x origin bytes)
    (macs : x.macs ⊆ y.macs) (hashes : x.hashes ⊆ y.hashes)
    (survive : ∀ b ∈ x.admissions, b.stage ≠ .hello →
      ∃ stage, {b with stage := stage} ∈ y.admissions ∧ stage ≠ .hello) : Explained hmac hash y origin bytes := by
  cases origin with
  | session =>
    obtain ⟨secret,domain,body,known,logged,rfl⟩ := explained
    exact ⟨secret,domain,body,known,macs logged,rfl⟩
  | admission player stage =>
    cases stage with
    | hello => exact explained
    | authentication =>
      obtain ⟨secret,text,logged,rfl⟩ := explained
      exact ⟨secret,text,macs logged,rfl⟩
    | ready =>
      obtain ⟨b,member,owner,past,transcribed,logged,rfl⟩ := explained
      obtain ⟨stage,kept,later⟩ := survive b member past
      exact ⟨_,kept,owner,later,transcribed.mono hashes stage,macs logged,rfl⟩
    | complete => exact explained
    | failed => exact explained

theorem Sound.create (s : Sound hmac hash x) (player : Player) (identity : Identity) (secret nonce : Digest)
    (a : Admission) (ok : Admission.new player identity secret nonce = .ok a) :
    Sound hmac hash {x with
      admissions := x.admissions ++ [a]
      sent := x.sent ++ [(.admission player .hello,a.mine)]} := by
  obtain ⟨mine,written,ok⟩ := bind_ok.mp ok
  obtain rfl := Except.ok.inj ok
  refine ⟨fun b member => ?_,fun b member past live => ?_,fun b member done => ?_,fun origin bytes member => ?_⟩
  · rcases mem_append.mp member with old | new
    · exact s.written b old
    · obtain rfl := mem_singleton.mp new
      exact ⟨nonce,written⟩
  · rcases mem_append.mp member with old | new
    · exact s.transcribed b old past live
    · obtain rfl := mem_singleton.mp new
      contradiction
  · rcases mem_append.mp member with old | new
    · obtain ⟨logged,origin,sent⟩ := s.complete b old done
      exact ⟨logged,origin,mem_append_left _ sent⟩
    · obtain rfl := mem_singleton.mp new
      contradiction
  · rcases mem_append.mp member with old | new
    · exact explained_mono origin bytes (s.sent origin bytes old) (List.Subset.refl _) (List.Subset.refl _)
        (fun b known past => ⟨b.stage,mem_append_left _ known,past⟩)
    · obtain ⟨rfl,rfl⟩ := Prod.mk.inj (mem_singleton.mp new)
      exact ⟨hello_length _ _ _ _ written,hello_role _ _ _ _ written⟩

theorem Sound.session (s : Sound hmac hash x) (secret : Digest) (domain body : Bytes)
    (known : domain = packetDomain ∨ domain = inputDomain) :
    Sound hmac hash {x with
      sent := x.sent ++ [(.session,(hmac secret (domain ++ body)).toList)]
      macs := x.macs ++ [(secret,domain ++ body)]} := by
  refine ⟨s.written,s.transcribed,fun b member done => ?_,fun origin bytes member => ?_⟩
  · obtain ⟨logged,origin,sent⟩ := s.complete b member done
    exact ⟨mem_append_left _ logged,origin,mem_append_left _ sent⟩
  · rcases mem_append.mp member with old | new
    · exact explained_mono origin bytes (s.sent origin bytes old) (subset_append_left _ _) (List.Subset.refl _)
        (fun b known past => ⟨b.stage,known,past⟩)
    · obtain ⟨rfl,rfl⟩ := Prod.mk.inj (mem_singleton.mp new)
      exact ⟨secret,domain,body,known,mem_append_right _ (mem_singleton_self _),rfl⟩

theorem survives (index : Nat) (a next : Admission) (found : x.admissions[index]? = some a)
    (kept : a.stage ≠ .hello → ∃ stage, next = {a with stage := stage} ∧ stage ≠ .hello) (b : Admission)
    (member : b ∈ x.admissions) (past : b.stage ≠ .hello) :
    ∃ stage, {b with stage := stage} ∈ x.admissions.set index next ∧ stage ≠ .hello := by
  obtain ⟨place,at_⟩ := List.mem_iff_getElem?.mp member
  by_cases same : index = place
  · subst same
    obtain rfl := Option.some.inj (found.symm.trans at_)
    obtain ⟨stage,rfl,later⟩ := kept past
    exact ⟨stage,mem_set (List.getElem?_eq_some_iff.mp found).1 _,later⟩
  · refine ⟨b.stage,List.mem_iff_getElem?.mpr ⟨place,?_⟩,past⟩
    rw [List.getElem?_set_ne same]
    exact at_

theorem Sound.replace (s : Sound hmac hash x) (index : Nat) (a next : Admission) (found : x.admissions[index]? = some a)
    (kept : a.stage ≠ .hello → ∃ stage, next = {a with stage := stage} ∧ stage ≠ .hello)
    (replies : List (Origin × Bytes)) (macs : List (Digest × Bytes)) (hashes : List Bytes)
    (written : next.player = a.player ∧ next.identity = a.identity ∧ next.mine = a.mine)
    (transcribed : next.stage ≠ .hello → next.stage ≠ .failed → Transcribed hash (x.hashes ++ hashes) next)
    (complete : next.stage = .complete → (next.secret,next.readyInput (other next.player)) ∈ x.macs ++ macs ∧
      ∃ origin, (origin,(hmac next.secret (next.readyInput (other next.player))).toList) ∈ x.sent)
    (explained : ∀ origin bytes, (origin,bytes) ∈ replies → Explained hmac hash {x with
      admissions := x.admissions.set index next
      sent := x.sent ++ replies
      macs := x.macs ++ macs
      hashes := x.hashes ++ hashes} origin bytes) :
    Sound hmac hash {x with
      admissions := x.admissions.set index next
      sent := x.sent ++ replies
      macs := x.macs ++ macs
      hashes := x.hashes ++ hashes} := by
  have before := List.mem_of_getElem? found
  refine ⟨fun b member => ?_,fun b member past live => ?_,fun b member done => ?_,fun origin bytes member => ?_⟩
  · rcases mem_or_eq_of_mem_set member with old | rfl
    · exact s.written b old
    · obtain ⟨player,identity,mine⟩ := written
      rw [player,identity,mine]
      exact s.written a before
  · rcases mem_or_eq_of_mem_set member with old | rfl
    · exact (s.transcribed b old past live).mono (subset_append_left _ _) b.stage
    · exact transcribed past live
  · rcases mem_or_eq_of_mem_set member with old | rfl
    · obtain ⟨logged,origin,sent⟩ := s.complete b old done
      exact ⟨mem_append_left _ logged,origin,mem_append_left _ sent⟩
    · obtain ⟨logged,origin,sent⟩ := complete done
      exact ⟨logged,origin,mem_append_left _ sent⟩
  · rcases mem_append.mp member with old | new
    · exact explained_mono origin bytes (s.sent origin bytes old) (subset_append_left _ _)
        (subset_append_left _ _) (survives index a next found kept)
    · exact explained origin bytes new

theorem Sound.deliver (s : Sound hmac hash x) (index : Nat) (a : Admission) (packet : Bytes)
    (found : x.admissions[index]? = some a)
    (unforged : ∀ text, expected a = some text → packet = (hmac a.secret text).toList →
      ∃ origin, (origin,packet) ∈ x.sent) :
    Sound hmac hash {x with
      admissions := x.admissions.set index (a.receive hmac hash packet).2
      sent := x.sent ++ repliesOf hmac hash a packet
      macs := x.macs ++ macsOf hmac hash a packet
      hashes := x.hashes ++ hashesOf hmac hash a packet} := by
  have before := List.mem_of_getElem? found
  have inside := (List.getElem?_eq_some_iff.mp found).1
  rcases receive_cases hmac hash a packet with
    ⟨stage,checked,received⟩ | ⟨stage,valid,received⟩ | ⟨stage,valid,received⟩ | ⟨error,received⟩
  · have logs : macsOf hmac hash a packet = [(a.secret,(a.greeted hash packet).authInput a.player)] ∧
        hashesOf hmac hash a packet = [{a with remote := packet}.transcriptInput] ∧
        repliesOf hmac hash a packet = [(.admission a.player .authentication,
          (hmac a.secret ((a.greeted hash packet).authInput a.player)).toList)] := by
      simp only [macsOf,hashesOf,repliesOf,received,stage,nextStage,and_self]
    obtain ⟨macs,hashes,replies⟩ := logs
    rw [macs,hashes,replies,received]
    refine s.replace index a _ found (fun past => absurd stage past) _ _ _ ⟨rfl,rfl,rfl⟩ (fun _ _ => ?_)
      (fun done => by simp [Admission.greeted] at done) (fun origin bytes member => ?_)
    · exact ⟨rfl,mem_append_right _ (mem_singleton_self _),checked⟩
    · obtain ⟨rfl,rfl⟩ := Prod.mk.inj (mem_singleton.mp member)
      refine ⟨a.secret,(a.greeted hash packet).hellos.1 ++ (a.greeted hash packet).hellos.2,?_⟩
      rw [append_assoc]
      exact ⟨mem_append_right _ (mem_singleton_self _),rfl⟩
  · have transcribed := s.transcribed a before (by simp [stage]) (by simp [stage])
    have logs : macsOf hmac hash a packet = [(a.secret,a.authInput (other a.player)),(a.secret,a.readyInput a.player)] ∧
        hashesOf hmac hash a packet = [] ∧
        repliesOf hmac hash a packet = [(.admission a.player .ready,(hmac a.secret (a.readyInput a.player)).toList)] := by
      simp only [macsOf,hashesOf,repliesOf,received,stage,nextStage,and_self]
    obtain ⟨macs,hashes,replies⟩ := logs
    rw [macs,hashes,replies,received]
    have grown := transcribed.mono (subset_append_left x.hashes []) .ready
    refine s.replace index a _ found (fun _ => ⟨.ready,rfl,by decide⟩) _ _ _ ⟨rfl,rfl,rfl⟩ (fun _ _ => grown)
      (fun done => by simp at done) (fun origin bytes member => ?_)
    obtain ⟨rfl,rfl⟩ := Prod.mk.inj (mem_singleton.mp member)
    exact ⟨{a with stage := .ready},mem_set inside _,rfl,by simp,grown,
      mem_append_right _ (mem_cons_of_mem _ (mem_singleton_self _)),rfl⟩
  · have transcribed := s.transcribed a before (by simp [stage]) (by simp [stage])
    have logs : macsOf hmac hash a packet = [(a.secret,a.readyInput (other a.player))] ∧
        hashesOf hmac hash a packet = [] ∧ repliesOf hmac hash a packet = [] := by
      simp only [macsOf,hashesOf,repliesOf,received,stage,and_self]
    obtain ⟨macs,hashes,replies⟩ := logs
    rw [macs,hashes,replies,received]
    refine s.replace index a _ found (fun _ => ⟨.complete,rfl,by decide⟩) _ _ _ ⟨rfl,rfl,rfl⟩
      (fun _ _ => transcribed.mono (subset_append_left x.hashes []) .complete) (fun _ => ?_)
      (fun origin bytes member => by simp at member)
    refine ⟨mem_append_right _ (mem_singleton_self _),?_⟩
    have sent := unforged (a.readyInput (other a.player)) (by simp [expected,stage]) valid
    rw [valid] at sent
    exact sent
  · have replies : repliesOf hmac hash a packet = [] := by simp only [repliesOf,received]
    rw [replies,received]
    exact s.replace index a _ found (fun _ => ⟨.failed,rfl,by decide⟩) _ _ _ ⟨rfl,rfl,rfl⟩
      (fun _ live => by simp at live) (fun done => by simp at done) (fun origin bytes member => by simp at member)

theorem Sound.step (s : Sound hmac hash x) (after : World) (step : Step hmac hash x after) : Sound hmac hash after := by
  cases step with
  | create player identity secret nonce a ok => exact s.create player identity secret nonce a ok
  | session secret domain body known => exact s.session secret domain body known
  | deliver index a packet found unforged => exact s.deliver index a packet found unforged

theorem readyInput_inj (a b : Admission) (left right : Player) (same : a.readyInput left = b.readyInput right) :
    a.transcript = b.transcript ∧ left = right := by
  have rest := append_cancel_left same
  obtain ⟨transcript,mark⟩ := append_inj rest (by simp)
  exact ⟨List.Vector.toList_injective transcript,role_injective (singleton_inj.mp mark)⟩

theorem Sound.ready_author (s : Sound hmac hash x) (a : Admission) (origin : Origin) (macs : List (Digest × Bytes))
    (ideal : ∀ left ∈ x.macs ++ macs, ∀ right ∈ x.macs ++ macs, hmac left.1 left.2 = hmac right.1 right.2 → left = right)
    (logged : (a.secret,a.readyInput (other a.player)) ∈ x.macs ++ macs)
    (sent : (origin,(hmac a.secret (a.readyInput (other a.player))).toList) ∈ x.sent) :
    origin = .admission (other a.player) .ready ∧ ∃ b ∈ x.admissions, b.player = other a.player ∧ b.secret = a.secret ∧
      b.transcript = a.transcript ∧ Transcribed hash x.hashes b := by
  have explained := s.sent _ _ sent
  cases origin with
  | session =>
    obtain ⟨secret,domain,body,known,computed,same⟩ := explained
    have equal := ideal _ logged _ (mem_append_left _ computed) (List.Vector.toList_injective same)
    exact absurd (congrArg Prod.snd equal).symm (session_ne_ready domain body _ known)
  | admission player stage =>
    cases stage with
    | hello =>
      have length := explained.1
      rw [length_digest] at length
      exact absurd length (by decide)
    | authentication =>
      obtain ⟨secret,text,computed,same⟩ := explained
      have equal := ideal _ logged _ (mem_append_left _ computed) (List.Vector.toList_injective same)
      exact absurd (congrArg Prod.snd equal).symm (auth_ne_ready _ _)
    | ready =>
      obtain ⟨b,member,owner,_,transcribed,computed,same⟩ := explained
      have equal := ideal _ logged _ (mem_append_left _ computed) (List.Vector.toList_injective same)
      obtain ⟨secret,text⟩ := Prod.mk.inj equal
      obtain ⟨transcript,rfl⟩ := readyInput_inj a b _ _ text
      exact ⟨rfl,b,member,owner,secret.symm,transcript.symm,transcribed⟩
    | complete => exact explained.elim
    | failed => exact explained.elim

theorem Sound.auth_author (s : Sound hmac hash x) (a : Admission) (origin : Origin) (macs : List (Digest × Bytes))
    (ideal : ∀ left ∈ x.macs ++ macs, ∀ right ∈ x.macs ++ macs, hmac left.1 left.2 = hmac right.1 right.2 → left = right)
    (logged : (a.secret,a.authInput (other a.player)) ∈ x.macs ++ macs)
    (sent : (origin,(hmac a.secret (a.authInput (other a.player))).toList) ∈ x.sent) :
    origin = .admission (other a.player) .authentication := by
  have explained := s.sent _ _ sent
  cases origin with
  | session =>
    obtain ⟨secret,domain,body,known,computed,same⟩ := explained
    have equal := ideal _ logged _ (mem_append_left _ computed) (List.Vector.toList_injective same)
    exact absurd (congrArg Prod.snd equal).symm (session_ne_auth domain body _ known)
  | admission player stage =>
    cases stage with
    | hello =>
      have length := explained.1
      rw [length_digest] at length
      exact absurd length (by decide)
    | authentication =>
      obtain ⟨secret,text,computed,same⟩ := explained
      have equal := ideal _ logged _ (mem_append_left _ computed) (List.Vector.toList_injective same)
      have texts := append_cancel_left (congrArg Prod.snd equal)
      rw [← append_assoc] at texts
      obtain ⟨_,mark⟩ := append_inj' texts rfl
      rw [role_injective (singleton_inj.mp mark)]
    | ready =>
      obtain ⟨b,_,_,_,_,computed,same⟩ := explained
      have equal := ideal _ logged _ (mem_append_left _ computed) (List.Vector.toList_injective same)
      exact absurd (congrArg Prod.snd equal) (auth_ne_ready _ _)
    | complete => exact explained.elim
    | failed => exact explained.elim

theorem checkHello_ok (a : Admission) (packet : Bytes) (ok : a.checkHello packet = .ok ()) :
    packet.length = helloLen ∧ byteAt packet 6 = role (other a.player) ∧
    slice packet 71 buildInfoOffset = slice a.mine 71 buildInfoOffset ∧
    ∃ info build, BuildInfo.decode (packet.drop buildInfoOffset) = .ok info ∧ digest? (slice packet 39 71) = some build ∧
      BuildInfo.admitBuilds a.identity.build a.identity.buildInfo build info = .ok () := by
  unfold Admission.checkHello at ok
  obtain ⟨_,length,ok⟩ := bind_ok.mp ok
  obtain ⟨_,_,ok⟩ := bind_ok.mp ok
  obtain ⟨_,_,ok⟩ := bind_ok.mp ok
  obtain ⟨_,player,ok⟩ := bind_ok.mp ok
  obtain ⟨_,session,ok⟩ := bind_ok.mp ok
  obtain ⟨info,decoded,ok⟩ := bind_ok.mp ok
  obtain ⟨build,read,ok⟩ := bind_ok.mp ok
  rw [ensure_ok] at length player session
  exact ⟨length,player,session,info,build,decoded,context_ok.mp read,ok⟩

theorem hellos_of_transcript (a b : Admission) (facing : b.player = other a.player) (mine : a.mine.length = helloLen)
    (remote : a.remote.length = helloLen) (peerMine : b.mine.length = helloLen) (peerRemote : b.remote.length = helloLen)
    (same : a.transcriptInput = b.transcriptInput) : a.hellos = b.hellos ∧ a.remote = b.mine := by
  have rest := append_cancel_left same
  cases player : a.player with
  | one =>
    have peer : b.player = .two := by rw [facing,player]; rfl
    simp only [Admission.hellos,player,peer,if_true,reduceCtorEq,if_false] at rest ⊢
    obtain ⟨first,second⟩ := append_inj rest (mine.trans peerRemote.symm)
    exact ⟨by rw [first,second],second⟩
  | two =>
    have peer : b.player = .one := by rw [facing,player]; rfl
    simp only [Admission.hellos,player,peer,if_true,reduceCtorEq,if_false] at rest ⊢
    obtain ⟨first,second⟩ := append_inj rest (remote.trans peerMine.symm)
    exact ⟨by rw [first,second],first⟩

theorem identities_agree (a b : Admission) (nonce peerNonce : Digest)
    (written : hello a.player a.identity nonce = .ok a.mine)
    (peerWritten : hello b.player b.identity peerNonce = .ok b.mine) (checked : a.checkHello b.mine = .ok ()) :
    (a.identity.source = b.identity.source ∧ a.identity.effective = b.identity.effective ∧
      a.identity.mediaLen = b.identity.mediaLen ∧ a.identity.config = b.identity.config ∧
      a.identity.initial = b.identity.initial ∧ a.identity.persistent = b.identity.persistent ∧
      a.identity.stateFormat = b.identity.stateFormat) ∧
    BuildInfo.admitBuilds a.identity.build a.identity.buildInfo b.identity.build b.identity.buildInfo = .ok () := by
  obtain ⟨_,_,session,info,build,decoded,read,admitted⟩ := checkHello_ok a b.mine checked
  rw [hello_session _ _ _ _ written,hello_session _ _ _ _ peerWritten] at session
  rw [hello_info _ _ _ _ peerWritten] at decoded
  rw [hello_build _ _ _ _ peerWritten,digest?_toList] at read
  obtain rfl := Except.ok.inj decoded
  obtain rfl := Option.some.inj read
  exact ⟨Identity.session_injective _ _ session.symm,admitted⟩

theorem Sound.agreement (s : Sound hmac hash x) (ideal : Ideal hmac hash x.macs x.hashes) (a : Admission)
    (member : a ∈ x.admissions) (done : a.stage = .complete) :
    ∃ b ∈ x.admissions, b.player = other a.player ∧ b.secret = a.secret ∧ b.transcript = a.transcript ∧
      a.transcript = hash a.transcriptInput ∧ a.hellos = b.hellos ∧ a.remote = b.mine := by
  obtain ⟨logged,origin,sent⟩ := s.complete a member done
  obtain ⟨_,b,peer,facing,secret,transcript,transcribed⟩ := s.ready_author a origin [] (by simpa using ideal.macs)
    (by simpa using logged) sent
  have own := s.transcribed a member (by simp [done]) (by simp [done])
  have texts := ideal.hashes _ own.logged _ transcribed.logged (by rw [← own.transcript,← transcribed.transcript,transcript])
  obtain ⟨nonce,written⟩ := s.written a member
  obtain ⟨peerNonce,peerWritten⟩ := s.written b peer
  obtain ⟨hellos,remote⟩ := hellos_of_transcript a b facing (hello_length _ _ _ _ written)
    (checkHello_ok a _ own.checked).1 (hello_length _ _ _ _ peerWritten) (checkHello_ok b _ transcribed.checked).1 texts
  exact ⟨b,peer,facing,secret,transcript,own.transcript,hellos,remote⟩

theorem Sound.advances (s : Sound hmac hash x) (a : Admission) (origin : Origin) (packet : Bytes)
    (sent : (origin,packet) ∈ x.sent)
    (ideal : Ideal hmac hash (x.macs ++ macsOf hmac hash a packet) (x.hashes ++ hashesOf hmac hash a packet))
    (reply : Option Bytes) (ok : (a.receive hmac hash packet).1 = .ok reply) :
    origin = .admission (other a.player) a.stage := by
  rcases receive_cases hmac hash a packet with
    ⟨stage,checked,received⟩ | ⟨stage,rfl,received⟩ | ⟨stage,rfl,received⟩ | ⟨error,received⟩
  · obtain ⟨length,player,_⟩ := checkHello_ok a packet checked
    have explained := s.sent _ _ sent
    rw [stage]
    cases origin with
    | session =>
      obtain ⟨_,_,_,_,_,rfl⟩ := explained
      rw [length_digest] at length
      exact absurd length (by decide)
    | admission sender kind =>
      cases kind with
      | hello => rw [role_injective (explained.2.symm.trans player)]
      | authentication =>
        obtain ⟨_,_,_,rfl⟩ := explained
        rw [length_digest] at length
        exact absurd length (by decide)
      | ready =>
        obtain ⟨_,_,_,_,_,_,rfl⟩ := explained
        rw [length_digest] at length
        exact absurd length (by decide)
      | complete => exact explained.elim
      | failed => exact explained.elim
  · rw [stage]
    refine s.auth_author a origin _ ideal.macs (mem_append_right _ ?_) sent
    simp [macsOf,stage,received]
  · rw [stage]
    refine (s.ready_author a origin _ ideal.macs (mem_append_right _ ?_) sent).1
    simp [macsOf,stage]
  · rw [received] at ok
    contradiction

/-- With an ideal hash and keyed hash, a completed admission has a peer of the other player with the same secret,
transcript, hellos and session identity, and each side admits the build of the other; and no packet of the same player
or of another stage advances an admission. -/
theorem admission_agreement (reach : Reachable hmac hash x) :
    (Ideal hmac hash x.macs x.hashes → ∀ a ∈ x.admissions, a.stage = .complete →
      ∃ b ∈ x.admissions, b.player = other a.player ∧ b.secret = a.secret ∧ b.transcript = a.transcript ∧
        a.transcript = hash a.transcriptInput ∧ a.hellos = b.hellos ∧
        (a.identity.source = b.identity.source ∧ a.identity.effective = b.identity.effective ∧
          a.identity.mediaLen = b.identity.mediaLen ∧ a.identity.config = b.identity.config ∧
          a.identity.initial = b.identity.initial ∧ a.identity.persistent = b.identity.persistent ∧
          a.identity.stateFormat = b.identity.stateFormat) ∧
        BuildInfo.admitBuilds a.identity.build a.identity.buildInfo b.identity.build b.identity.buildInfo = .ok () ∧
        BuildInfo.admitBuilds b.identity.build b.identity.buildInfo a.identity.build a.identity.buildInfo = .ok ()) ∧
    ∀ a ∈ x.admissions, ∀ origin packet, (origin,packet) ∈ x.sent →
      Ideal hmac hash (x.macs ++ macsOf hmac hash a packet) (x.hashes ++ hashesOf hmac hash a packet) →
      ∀ reply, (a.receive hmac hash packet).1 = .ok reply → origin = .admission (other a.player) a.stage := by
  have s : Sound hmac hash x :=
    invariant_of_run (sound_initial hmac hash) (fun _ after s step => s.step after step) reach
  refine ⟨fun ideal a member done => ?_,fun a _ origin packet sent ideal reply ok => s.advances a origin packet sent ideal reply ok⟩
  obtain ⟨b,peer,facing,secret,transcript,computed,hellos,remote⟩ := s.agreement ideal a member done
  obtain ⟨nonce,written⟩ := s.written a member
  obtain ⟨peerNonce,peerWritten⟩ := s.written b peer
  have checked := (s.transcribed a member (by simp [done]) (by simp [done])).checked
  rw [remote] at checked
  obtain ⟨fields,admitted⟩ := identities_agree a b nonce peerNonce written peerWritten checked
  exact ⟨b,peer,facing,secret,transcript,computed,hellos,fields,admitted,BuildInfo.admitBuilds_symm _ _ _ _ admitted⟩

end

-- An honest network hands a sent packet on.
def relay (hmac : Digest → Bytes → Digest) (hash : Bytes → Digest) (x : World) (index place : Nat) : World :=
  match x.admissions[index]?, x.sent[place]? with
  | some a, some (_,packet) => {x with
      admissions := x.admissions.set index (a.receive hmac hash packet).2
      sent := x.sent ++ repliesOf hmac hash a packet
      macs := x.macs ++ macsOf hmac hash a packet
      hashes := x.hashes ++ hashesOf hmac hash a packet}
  | _, _ => x

theorem Reachable.relay {hmac : Digest → Bytes → Digest} {hash : Bytes → Digest} {x : World}
    (reach : Reachable hmac hash x) (index place : Nat) : Reachable hmac hash (x.relay hmac hash index place) := by
  unfold World.relay
  split
  · rename_i a origin packet found sent
    exact reach.tail (Step.deliver x index a packet found (fun _ _ _ => ⟨origin,List.mem_of_getElem? sent⟩))
  · exact reach

-- A keyed hash that keeps the mark of the domain and the role.
def marked (_ : Digest) (text : Bytes) : Digest :=
  ⟨byteAt text domainMark::text.getLastD 0::List.replicate 30 0,by simp⟩

def constant (_ : Bytes) : Digest := noDigest

def plain : Identity where
  build := noDigest
  buildInfo := ⟨"",noDigest,noDigest,noDigest,0,false⟩
  source := noDigest
  effective := noDigest
  mediaLen := 16
  config := noDigest
  initial := noDigest
  persistent := noDigest
  stateFormat := 11

def opened (player : Player) : Admission :=
  ⟨player,plain,noDigest,(hello player plain noDigest).toOption.getD [],List.replicate helloLen 0,noDigest,.hello⟩

def met : World where
  admissions := [opened .one,opened .two]
  sent := [(.admission .one .hello,(opened .one).mine),(.admission .two .hello,(opened .two).mine)]
  macs := []
  hashes := []

theorem met_reachable : Reachable marked constant met := by
  have first := Relation.ReflTransGen.refl.tail
    (@Step.create marked constant initial .one plain noDigest noDigest (opened .one) rfl)
  exact first.tail (@Step.create marked constant _ .two plain noDigest noDigest (opened .two) rfl)

-- Hellos, proofs and the final tag of player two, each handed on once.
def handshake : World :=
  ((((met.relay marked constant 0 1).relay marked constant 1 0).relay marked constant 0 3).relay marked constant 1 2).relay
    marked constant 0 5

theorem admission_agreement_handshake : ∃ a ∈ handshake.admissions, a.stage = .complete ∧
    ∃ b ∈ handshake.admissions, b.player = other a.player ∧ b.transcript = a.transcript ∧ a.hellos = b.hellos := by
  have done : (handshake.admissions[0]?).map Admission.stage = some .complete := by decide +kernel
  have ideal : Ideal marked constant handshake.macs handshake.hashes := ⟨by decide +kernel,by decide +kernel⟩
  obtain ⟨a,found,stage⟩ := Option.map_eq_some_iff.mp done
  have member := List.mem_of_getElem? found
  have reach : Reachable marked constant handshake := ((((met_reachable.relay 0 1).relay 1 0).relay 0 3).relay 1 2).relay 0 5
  obtain ⟨b,peer,facing,_,transcript,_,hellos,_⟩ := (admission_agreement reach).1 ideal a member stage
  exact ⟨a,member,stage,b,peer,facing,transcript,hellos⟩

end World
end ZeffBoy.Wire
