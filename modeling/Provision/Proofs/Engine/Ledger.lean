import Mathlib.Data.List.Perm.Basic
import Mathlib.Data.List.Range
import Provision.Engine.Session

/-! Bookkeeping over a history. Every frame that is pushed gets a number, in the order of pushes,
and a number is entered either among those on the stack or among those that were released. -/

namespace Provision

/-- A frame's number is its place among all frames ever pushed. -/
structure Ledger where
  frames : List Frame := []
  /-- Numbers of the frames on the stack, top first. -/
  standing : List Nat := []
  /-- Numbers of the frames that were popped, earliest first. -/
  released : List Nat := []

namespace Ledger

/-- A pushed frame gets the next number; a pop moves the number on top. -/
def enter (ledger : Ledger) : Event → Ledger
  | .pushed _ frame =>
    { ledger with
      frames := ledger.frames ++ [frame]
      standing := ledger.frames.length :: ledger.standing }
  | .popped _ =>
    { ledger with
      standing := ledger.standing.tail
      released := ledger.released ++ ledger.standing.head?.toList }
  | .reported .. | .cleaned .. => ledger

/-- The ledger of a history, earliest event first. -/
def of (history : List Event) : Ledger := history.foldl enter {}

theorem of_append_singleton (history : List Event) (event : Event) :
    of (history ++ [event]) = (of history).enter event := by
  simp [of]

/-- The frame with a number. -/
def frame? (ledger : Ledger) (number : Nat) : Option Frame := ledger.frames[number]?

/-- The obligation of the frame with a number. -/
def obligation? (ledger : Ledger) (number : Nat) : Option Cleanup :=
  (ledger.frame? number).bind Frame.cleanup

/-- The obligations of the released frames, in the order of pops. -/
def settled (ledger : Ledger) : List Cleanup := ledger.released.filterMap ledger.obligation?

/-- A ledger that agrees with a stack. -/
structure Agrees (ledger : Ledger) (stack : Stack) : Prop where
  onStack : ledger.standing.map ledger.frame? = stack.map some
  placed : (ledger.released ++ ledger.standing).Perm (List.range ledger.frames.length)
  latestFirst : ledger.standing.Pairwise (· > ·)

variable {ledger : Ledger} {stack : Stack} {frame : Frame}

theorem agrees_empty : Agrees {} [] := ⟨rfl, .refl _, .nil⟩

theorem Agrees.lt_length (agrees : ledger.Agrees stack) {number : Nat}
    (member : number ∈ ledger.released ++ ledger.standing) : number < ledger.frames.length :=
  List.mem_range.mp (agrees.placed.mem_iff.mp member)

theorem frame?_push (ledger : Ledger) (step : Option Step) (frame : Frame) {number : Nat}
    (old : number < ledger.frames.length) :
    (ledger.enter (.pushed step frame)).frame? number = ledger.frame? number := by
  simp [frame?, enter, List.getElem?_append_left old]

theorem Agrees.push (agrees : ledger.Agrees stack) (step : Option Step) (frame : Frame) :
    (ledger.enter (.pushed step frame)).Agrees (frame :: stack) where
  onStack := by
    have kept : ledger.standing.map (ledger.enter (.pushed step frame)).frame? =
        ledger.standing.map ledger.frame? :=
      List.map_congr_left fun number member =>
        frame?_push ledger step frame (agrees.lt_length (List.mem_append_right _ member))
    have new : (ledger.enter (.pushed step frame)).frame? ledger.frames.length = some frame := by
      simp [frame?, enter]
    change (ledger.frames.length :: ledger.standing).map _ = _
    rw [List.map_cons, List.map_cons, kept, new, agrees.onStack]
  placed := by
    have longer : (ledger.enter (.pushed step frame)).frames.length =
        ledger.frames.length + 1 := by simp [enter]
    rw [longer, List.range_succ]
    exact List.perm_middle.trans
      ((agrees.placed.cons _).trans (List.perm_append_singleton _ _).symm)
  latestFirst := by
    refine List.pairwise_cons.mpr ⟨?_, agrees.latestFirst⟩
    intro number member
    exact agrees.lt_length (List.mem_append_right _ member)

/-- What a pop takes away is the number on top, which is that of the popped frame. -/
theorem Agrees.top (agrees : ledger.Agrees (frame :: stack)) :
    ∃ number below, ledger.standing = number :: below ∧ ledger.frame? number = some frame ∧
      below.map ledger.frame? = stack.map some := by
  have same := agrees.onStack
  cases standing : ledger.standing with
  | nil => simp [standing] at same
  | cons number below =>
    rw [standing, List.map_cons, List.map_cons, List.cons.injEq] at same
    exact ⟨number, below, rfl, same⟩

theorem enter_popped {number : Nat} {below : List Nat}
    (standing : ledger.standing = number :: below) (frame : Frame) :
    ledger.enter (.popped frame) =
      { ledger with standing := below, released := ledger.released ++ [number] } := by
  simp [enter, standing]

theorem Agrees.pop (agrees : ledger.Agrees (frame :: stack)) :
    (ledger.enter (.popped frame)).Agrees stack := by
  obtain ⟨number, below, standing, -, rest⟩ := agrees.top
  rw [enter_popped standing]
  refine ⟨rest, ?_, ?_⟩
  · have placed := agrees.placed
    rw [standing] at placed
    simpa using placed
  · have ordered := agrees.latestFirst
    rw [standing] at ordered
    exact (List.pairwise_cons.mp ordered).2

theorem Agrees.settled_push (agrees : ledger.Agrees stack) (step : Option Step) (frame : Frame) :
    (ledger.enter (.pushed step frame)).settled = ledger.settled := by
  apply List.filterMap_congr
  intro number member
  have old := agrees.lt_length (List.mem_append_left _ member)
  simp only [obligation?, frame?_push ledger step frame old]

theorem Agrees.settled_pop (agrees : ledger.Agrees (frame :: stack)) :
    (ledger.enter (.popped frame)).settled = ledger.settled ++ frame.cleanup.toList := by
  obtain ⟨number, below, standing, found, -⟩ := agrees.top
  have owed : ledger.obligation? number = frame.cleanup := by simp [obligation?, found]
  rw [enter_popped standing]
  change (ledger.released ++ [number]).filterMap ledger.obligation? = _
  rw [List.filterMap_append, settled]
  cases obligation : frame.cleanup <;> simp [owed, obligation]

/-- Everything pushed later than the frame on top has been released. -/
theorem Agrees.later_released (agrees : ledger.Agrees stack) {number later : Nat}
    {below : List Nat} (standing : ledger.standing = number :: below) (after : number < later)
    (pushed : later < ledger.frames.length) : later ∈ ledger.released := by
  have member := agrees.placed.mem_iff.mpr (List.mem_range.mpr pushed)
  rcases List.mem_append.mp member with released | stands
  · exact released
  · have ordered := agrees.latestFirst
    rw [standing] at stands ordered
    rcases List.mem_cons.mp stands with same | deeper
    · omega
    · have lower := (List.pairwise_cons.mp ordered).1 later deeper
      omega

/-- Once every frame has been released, so has every obligation, once each. -/
theorem settled_perm (all : ledger.released.Perm (List.range ledger.frames.length)) :
    ledger.settled.Perm (ledger.frames.filterMap Frame.cleanup) := by
  have numbered : (List.range ledger.frames.length).map ledger.frame? = ledger.frames.map some := by
    apply List.ext_getElem
    · simp
    · intro number _ bound
      simp [frame?]
  have owed : (List.range ledger.frames.length).filterMap ledger.obligation? =
      ledger.frames.filterMap Frame.cleanup := by
    calc (List.range ledger.frames.length).filterMap ledger.obligation?
        = ((List.range ledger.frames.length).map ledger.frame?).filterMap
            (fun found => found.bind Frame.cleanup) := by rw [List.filterMap_map]; rfl
      _ = ledger.frames.filterMap Frame.cleanup := by rw [numbered, List.filterMap_map]; rfl
  exact owed ▸ all.filterMap ledger.obligation?

end Ledger

end Provision
