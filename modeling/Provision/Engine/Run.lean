import Provision.Engine.Session
import Provision.Placeholder

/-! Execution of steps. Handlers may insert steps, whose handlers may insert steps
again; the nesting is bounded, and a run that goes deeper has no outcome. -/

namespace Provision

variable {σ : Type}

/-- What every run on one machine shares. -/
structure Runtime (σ : Type) where
  handlers : Operation → Option (Handler σ)
  constants : Constants
  facts : Facts
  /-- Discharge an obligation, or say why that failed. -/
  clean : Cleanup → σ → Except (List String) Unit × σ
  /-- Tell the outside of a step that was carried out. -/
  announce : Step → Frame → σ → σ

/-- An outcome and the state it leaves, unless the nesting went too deep. -/
abbrev Outcome (σ ε α : Type) := Option (Except ε α × Session σ)

namespace Runtime

def report (runtime : Runtime σ) (step : Step) (frame : Frame) (session : Session σ) :
    Session σ :=
  { session with
    events := .reported step frame :: session.events
    world := runtime.announce step frame session.world }

/-- Steps one after the other, up to the first that fails. The pending program plays
no part. -/
def runSteps (exec : Step → Session σ → Outcome σ Fault Unit) :
    List Step → Session σ → Outcome σ Fault Unit
  | [], session => some (.ok (), session)
  | step :: rest, session =>
    match exec step session with
    | none => none
    | some (.error fault, session) => some (.error fault, session)
    | some (.ok (), session) => runSteps exec rest session

/-- Carry out the requests of a handler, where `exec` executes the steps it inserts. -/
def runHandling {α : Type} (runtime : Runtime σ)
    (exec : Step → Session σ → Outcome σ Fault Unit) :
    Handling σ α → Session σ → Outcome σ Failure α
  | .done value, session => some (.ok value, session)
  | .failed failure, session => some (.error failure, session)
  | .observe next, session => runHandling runtime exec (next session.world) session
  | .update world next, session => runHandling runtime exec next { session with world }
  | .look next, session =>
    runHandling runtime exec (next ⟨session.stack, session.pending⟩) session
  | .children next, session =>
    let (steps, session) := session.takeChildren
    runHandling runtime exec (next steps) session
  | .insert steps next, session =>
    match runSteps exec steps session with
    | none => none
    | some (outcome, session) => runHandling runtime exec (next outcome) session
  | .report step frame next, session =>
    runHandling runtime exec next (runtime.report step frame session)

/-- Execute one step on the current stack. The handler is looked up before the
parameter is resolved; a POP needs neither. -/
def perform (runtime : Runtime σ) (software : Software) :
    (nesting : Nat) → Step → Session σ → Outcome σ Fault Unit
  | 0, _, _ => none
  | nesting + 1, step, session =>
    if step.isPop then some (session.pop runtime.clean)
    else
      match runtime.handlers step.operation with
      | none => some (.error (.noHandler step.operation), session)
      | some handler =>
        match Placeholder.resolve runtime.constants session.stack step.parameter with
        | .error fault => some (.error fault, session)
        | .ok parameter =>
          let task := { parameter, software, facts := runtime.facts, constants := runtime.constants }
          match runHandling runtime (perform runtime software nesting) (handler task) session with
          | none => none
          | some (.error failure, session) =>
            some (.error (failure.toFault step.operation), session)
          | some (.ok frame, session) =>
            some (.ok (), (runtime.report step frame session).push step frame)

/-- The main loop. Every turn takes a step from the pending program and handlers only
take more, so as many turns as there are steps are enough. -/
def runPending (exec : Step → Session σ → Outcome σ Fault Unit) :
    (turns : Nat) → Session σ → Outcome σ Fault Unit
  | 0, session => some (.ok (), session)
  | turns + 1, session =>
    match session.pending with
    | [] => some (.ok (), session)
    | step :: rest =>
      match exec step { session with pending := rest } with
      | none => none
      | some (.error fault, session) => some (.error fault, session)
      | some (.ok (), session) => runPending exec turns session

/-- How deep insertions may nest. -/
def nestingLimit : Nat := 4096

/-- The stack of a new run holds the recipe's parameter, in which only constants can
be named because no frame is there yet. -/
def start (runtime : Runtime σ) (software : Software) (world : σ) :
    Except Fault (Session σ) :=
  (Placeholder.resolve runtime.constants [] software.parameter).map fun seed =>
    Session.push ⟨software.steps, [], [], world⟩ none (.ofValue seed)

def executeStep (runtime : Runtime σ) (software : Software) (step : Step)
    (session : Session σ) : Outcome σ Fault Unit :=
  perform runtime software nestingLimit step session

/-- Run steps at once, in the current scope. -/
def insertSteps (runtime : Runtime σ) (software : Software) (steps : List Step)
    (session : Session σ) : Outcome σ Fault Unit :=
  runSteps (runtime.executeStep software) steps session

/-- Run what is pending and then drain the stack. Frames stay on the stack after an
error. -/
def execute (runtime : Runtime σ) (software : Software) (session : Session σ) :
    Outcome σ Fault Unit :=
  match runPending (runtime.executeStep software) session.pending.length session with
  | some (.ok (), session) => some (session.drain runtime.clean)
  | other => other

end Runtime

end Provision
