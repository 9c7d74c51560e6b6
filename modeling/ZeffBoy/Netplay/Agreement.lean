import ZeffBoy.Netplay.SessionRefinement
import ZeffBoy.Netplay.DatagramDelivery

/-! Two sessions of one game.
Each refines a sequential run on its own samples and on what has arrived; where only samples of the other session arrive,
that is one run for both. -/
namespace ZeffBoy.Netplay
open Library Wire List

section Agreement
variable {State Out : Type} {core : Core State Out} {start : State} {delay : InputDelay}

/-- A session that the operations lead to, with what it samples on the way, and none of them fails. -/
def Played (core : Core State Out) (start : State) (delay : InputDelay) (player : Player) (operations : List Operation)
    (samples : List (Nat × UInt16)) (s : Session State Out) : Prop :=
  ∃ verification first, Session.start core start player delay verification = .ok first ∧
    first.run core operations = .ok s ∧ first.samples core [] operations = samples

variable {player : Player} {operations : List Operation} {s : Session State Out} {samples log : List (Nat × UInt16)}

theorem Played.refines (played : Played core start delay player operations samples s) {pool : List (Nat × UInt16)}
    (listed : ∀ input ∈ arrivedInputs operations, input ∈ pool) :
    ∃ g, Refines core start player delay pool samples [] g s := by
  obtain ⟨verification,first,begun,ran,rfl⟩ := played
  exact (Refines.initial core start player delay verification first begun pool).run operations listed s ran

theorem Played.numbered (played : Played core start delay player operations samples s) : Numbered delay samples := by
  obtain ⟨g,r⟩ := played.refines (fun _ member => member)
  exact r.log.numbered

theorem Played.journal (played : Played core start delay player operations samples s) (numbered : Numbered delay log)
    (listed : ∀ input ∈ arrivedInputs operations, input ∈ log) :
    s.journal = reference core start (sessionPorts player delay samples log) s.committed ∧
      ∀ f, delay.frames ≤ f → f < s.committed → (∃ buttons, (f,buttons) ∈ samples) ∧ ∃ buttons, (f,buttons) ∈ log := by
  obtain ⟨g,r⟩ := played.refines listed
  have same := r.used_eq numbered.unique
  rw [r.seat] at same
  constructor
  · rw [r.journal]
    exact reference_congr core start _ _ _ same
  · intro f late below
    exact ⟨⟨_,r.sent f late below⟩,⟨_,r.heard f _ late (r.settled f below _)⟩⟩

theorem sessionPorts_comm (delay : InputDelay) (one two : List (Nat × UInt16)) :
    sessionPorts .two delay two one = sessionPorts .one delay one two := by
  ext f
  unfold sessionPorts
  split <;> rfl

variable {operations : Player → List Operation} {samples : Player → List (Nat × UInt16)} {s : Player → Session State Out}

theorem take_reference {ports : Nat → Ports UInt16} {count total : Nat} (within : count ≤ total) :
    (reference core start ports total).take count = reference core start ports count := by
  unfold reference
  rw [← map_take,take_range,min_eq_left within]

/-- The sessions publish one sequential run, on what both of them sample. -/
structure OneRun (core : Core State Out) (start : State) (delay : InputDelay) (samples : Player → List (Nat × UInt16))
    (s : Player → Session State Out) : Prop where
  journal : ∀ player, (s player).journal =
    reference core start (sessionPorts .one delay (samples .one) (samples .two)) (s player).committed
  sampled : ∀ player f, delay.frames ≤ f → f < (s player).committed → ∀ author, ∃ buttons, (f,buttons) ∈ samples author
  common : ∀ count, (∀ player, count ≤ (s player).committed) → (s .one).journal.take count = (s .two).journal.take count

theorem agreement (played : ∀ player, Played core start delay player (operations player) (samples player) (s player))
    (passed : ∀ player, ∀ input ∈ arrivedInputs (operations player), input ∈ samples (other player)) :
    OneRun core start delay samples s := by
  have journal := fun player => (played player).journal (played (other player)).numbered (passed player)
  have one := (journal .one).1
  have two := (journal .two).1
  rw [sessionPorts_comm] at two
  refine ⟨fun player => ?_,fun player f late below author => ?_,fun count within => ?_⟩
  · cases player with
    | one => exact one
    | two => exact two
  · obtain ⟨own,others⟩ := (journal player).2 f late below
    cases player <;> cases author <;> assumption
  · rw [one,two]
    exact (take_reference (within .one)).trans (take_reference (within .two)).symm

theorem Numbered.get (numbered : Numbered delay log) {index : Nat} {buttons : UInt16}
    (found : (log.map Prod.snd)[index]? = some buttons) : (delay.frames + index,buttons) ∈ log := by
  rw [List.getElem?_map] at found
  obtain ⟨message,there,rfl⟩ := Option.map_eq_some_iff.mp found
  have number := numbered index message there
  rw [← number]
  exact List.mem_of_getElem? there

end Agreement

end ZeffBoy.Netplay
