import Provision.Engine.Handling

/-! The state of one run of one recipe, with a record of what happened to its
frames. -/

namespace Provision

/-- Something that happened during a run. The seed is pushed without a step. -/
inductive Event where
  | reported (step : Step) (frame : Frame)
  | pushed (step : Option Step) (frame : Frame)
  | popped (frame : Frame)
  | cleaned (obligation : Cleanup) (succeeded : Bool)
  deriving DecidableEq, Repr

structure Session (σ : Type) where
  pending : Program
  stack : Stack
  /-- Latest event first. -/
  events : List Event
  world : σ

namespace Session

variable {σ : Type}

/-- Events in the order in which they happened. -/
def history (session : Session σ) : List Event := session.events.reverse

/-- Every reported step with its frame, in order. -/
def reports (session : Session σ) : List (Step × Frame) :=
  session.history.filterMap fun
    | .reported step frame => some (step, frame)
    | _ => none

/-- The cleanups that were attempted, in order. -/
def attempted (session : Session σ) : List Cleanup :=
  session.history.filterMap fun
    | .cleaned obligation _ => some obligation
    | _ => none

def push (session : Session σ) (step : Option Step) (frame : Frame) : Session σ :=
  { session with
    stack := frame :: session.stack
    events := .pushed step frame :: session.events }

/-- Discharge an obligation and record how it went. -/
def discharge (clean : Cleanup → σ → Except (List String) Unit × σ) (obligation : Cleanup)
    (state : List Event × σ) : Except (List String) Unit × List Event × σ :=
  match clean obligation state.2 with
  | (.ok (), world) => (.ok (), .cleaned obligation true :: state.1, world)
  | (.error causes, world) => (.error causes, .cleaned obligation false :: state.1, world)

/-- Let go of a frame that has left the stack. -/
def release (clean : Cleanup → σ → Except (List String) Unit × σ) (frame : Frame)
    (state : List Event × σ) : Except Fault Unit × List Event × σ :=
  frame.release (discharge clean) (.popped frame :: state.1, state.2)

def pop (clean : Cleanup → σ → Except (List String) Unit × σ) (session : Session σ) :
    Except Fault Unit × Session σ :=
  let (outcome, stack, events, world) :=
    session.stack.pop (release clean) (session.events, session.world)
  (outcome, { session with stack, events, world })

/-- Pop every remaining frame, stopping at the first cleanup that fails. -/
def drain (clean : Cleanup → σ → Except (List String) Unit × σ) (session : Session σ) :
    Except Fault Unit × Session σ :=
  let (outcome, stack, events, world) :=
    session.stack.drain (release clean) (session.events, session.world)
  (outcome, { session with stack, events, world })

/-- The steps nested under the step being handled leave the pending program. -/
def takeChildren (session : Session σ) : List Step × Session σ :=
  let (inside, outside) := session.pending.splitChildren
  (inside, { session with pending := outside })

end Session

end Provision
