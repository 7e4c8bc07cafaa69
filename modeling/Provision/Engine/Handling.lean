import Provision.Constant
import Provision.Fault
import Provision.Program
import Provision.Software

/-! What a handler does, as data: reading and changing the world, and the requests
by which it re-enters the engine. A handler has no other way to touch the
stack or the pending program. -/

namespace Provision

/-- What a handler may look at while it runs. -/
structure Scene where
  stack : Stack
  pending : Program

/-- The work of a handler that ends in a value or a failure. `σ` is the world outside
the engine. -/
inductive Handling (σ α : Type) where
  | done (value : α)
  | failed (failure : Failure)
  | observe (next : σ → Handling σ α)
  | update (world : σ) (next : Handling σ α)
  | look (next : Scene → Handling σ α)
  | children (next : List Step → Handling σ α)
  | insert (steps : List Step) (next : Except Fault Unit → Handling σ α)
  | report (step : Step) (frame : Frame) (next : Handling σ α)

namespace Handling

variable {σ τ α β : Type}

def bind : Handling σ α → (α → Handling σ β) → Handling σ β
  | done value, rest => rest value
  | failed failure, _ => failed failure
  | observe next, rest => observe fun world => (next world).bind rest
  | update world next, rest => update world (next.bind rest)
  | look next, rest => look fun scene => (next scene).bind rest
  | children next, rest => children fun steps => (next steps).bind rest
  | insert steps next, rest => insert steps fun outcome => (next outcome).bind rest
  | report step frame next, rest => report step frame (next.bind rest)

instance : Monad (Handling σ) where
  pure := done
  bind := bind

/-- Work on one part of a larger world. -/
def within (part : τ → σ) (put : σ → τ → τ) : Handling σ α → Handling τ α
  | done value => done value
  | failed failure => failed failure
  | observe next => observe fun world => (next (part world)).within part put
  | update small next =>
    observe fun world => update (put small world) (next.within part put)
  | look next => look fun scene => (next scene).within part put
  | children next => children fun steps => (next steps).within part put
  | insert steps next => insert steps fun outcome => (next outcome).within part put
  | report step frame next => report step frame (next.within part put)

def ofExcept : Except Failure α → Handling σ α
  | .ok value => done value
  | .error failure => failed failure

/-- An action on the world that keeps its changes even when it fails. -/
def act (action : σ → Except Failure α × σ) : Handling σ α :=
  observe fun world =>
    let (outcome, world) := action world
    update world (ofExcept outcome)

/-- Run steps in the current scope, failing as they fail. -/
def insertAll (steps : List Step) : Handling σ Unit :=
  insert steps fun
    | .ok () => done ()
    | .error fault => failed (.ofFault fault)

/-- The value of the top frame, normally the result of the parent step. -/
def topValue : Handling σ String :=
  look fun scene =>
    match scene.stack.peek 0 with
    | .ok frame => done frame.value
    | .error fault => failed (.ofFault fault)

end Handling

/-- The step being handled, with its placeholders replaced, and what the run is
about. -/
structure Task where
  parameter : String
  software : Software
  facts : Facts
  constants : Constants

abbrev Handler (σ : Type) := Task → Handling σ Frame

end Provision
