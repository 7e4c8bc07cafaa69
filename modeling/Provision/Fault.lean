import Provision.Frame
import Provision.Step

/-! Why a run stops. A fault belongs to the engine and keeps its identity on the
way out; a failure is what a handler reports, and becomes a fault that names
the operation unless it already carries one. -/

namespace Provision

inductive Fault where
  | invalidRecipe (reason : String)
  | indexOutOfRange (depth size : Nat)
  | noHandler (operation : Operation)
  | stackUnderflow
  | handler (operation : Operation) (causes : List String)
  | cleanup (obligation : Cleanup) (causes : List String)
  deriving DecidableEq, Repr

/-- Coarse classes: a broken recipe, a missing piece, an unbalanced program, and
the two ways in which the outside world can fail. -/
inductive FaultKind where
  | invalidRecipe
  | configuration
  | stackUnderflow
  | handler
  | cleanup
  deriving DecidableEq, Repr

/-- Causes on one line, outermost first. -/
def joinCauses (causes : List String) : String := String.intercalate ": " causes

namespace Fault

def kind : Fault → FaultKind
  | invalidRecipe _ | indexOutOfRange .. => .invalidRecipe
  | noHandler _ => .configuration
  | stackUnderflow => .stackUnderflow
  | handler .. => .handler
  | cleanup .. => .cleanup

def message : Fault → String
  | invalidRecipe reason => "invalid recipe: " ++ reason
  | indexOutOfRange depth size =>
    "invalid recipe: requested stack element " ++ toString depth ++
      " but stack has size " ++ toString size
  | noHandler operation =>
    "can't handle " ++ operation.keyword ++ " because there is no handler for it"
  | stackUnderflow => "stack underflow: POP executed on an empty stack"
  | handler operation causes => operation.keyword ++ " failed: " ++ joinCauses causes
  | cleanup obligation causes =>
    "cleanup (" ++ obligation.kind.word ++ ") of " ++ obligation.resource ++ " failed: " ++
      joinCauses causes

/-- The fault's own message and then what is known to have led to it. -/
def causes (fault : Fault) : List String :=
  match fault with
  | handler _ rest | cleanup _ rest => fault.message :: rest
  | _ => [fault.message]

end Fault

/-- Discharge the obligation of a frame, if it has one. -/
def Frame.release {σ : Type} (discharge : Cleanup → σ → Except (List String) Unit × σ)
    (frame : Frame) (world : σ) : Except Fault Unit × σ :=
  match frame.cleanup with
  | none => (.ok (), world)
  | some obligation =>
    match discharge obligation world with
    | (.ok (), world) => (.ok (), world)
    | (.error causes, world) => (.error (.cleanup obligation causes), world)

/-- A handler's failure: plain causes, or a fault under the contexts added to it. -/
inductive Failure where
  | plain (causes : List String)
  | fault (contexts : List String) (inner : Fault)
  deriving DecidableEq, Repr

namespace Failure

def say (text : String) : Failure := plain [text]

def ofFault (inner : Fault) : Failure := .fault [] inner

/-- Put a text in front that says what was being attempted. -/
def context (text : String) : Failure → Failure
  | plain causes => plain (text :: causes)
  | .fault contexts inner => .fault (text :: contexts) inner

/-- All causes, outermost first. -/
def causes : Failure → List String
  | plain causes => causes
  | .fault contexts inner => contexts ++ inner.causes

def message (failure : Failure) : String := joinCauses failure.causes

/-- A fault that comes out of a handler is passed on as it is, without the contexts
it met on the way; only a plain failure is given the operation's name. -/
def toFault (operation : Operation) : Failure → Fault
  | plain causes => .handler operation causes
  | .fault _ inner => inner

theorem toFault_context (operation : Operation) (text : String) (contexts : List String)
    (inner : Fault) : ((Failure.fault contexts inner).context text).toFault operation = inner := rfl

end Failure

end Provision

/-! The frames of the steps that are still open, top first. -/

namespace Provision

abbrev Stack := List Frame

namespace Stack

/-- Depths are reported within one machine word. -/
def maxDepth : Nat := 0xFFFFFFFFFFFFFFFF

/-- The frame `depth` below the top. -/
def peek (stack : Stack) (depth : Nat) : Except Fault Frame :=
  match stack[depth]? with
  | some frame => .ok frame
  | none => .error (.indexOutOfRange (min depth maxDepth) stack.length)

/-- The values of the topmost frames, from the top down. If there are too few of them, the
first depth without a frame is out of range. -/
def topValues (stack : Stack) (count : Nat) : Except Fault (List String) :=
  if count ≤ stack.length then .ok ((stack.take count).map Frame.value)
  else .error (.indexOutOfRange (min stack.length maxDepth) stack.length)

/-- Values from the bottom up. -/
def render (stack : Stack) : String :=
  "[" ++ String.intercalate ", " (stack.reverse.map Frame.value) ++ "]"

variable {σ : Type}

/-- Remove the top frame and release it. It is gone even when its release fails. -/
def pop (release : Frame → σ → Except Fault Unit × σ) :
    Stack → σ → Except Fault Unit × Stack × σ
  | [], world => (.error .stackUnderflow, [], world)
  | frame :: rest, world =>
    let (outcome, world) := release frame world
    (outcome, rest, world)

/-- Remove and release frames from the top down, until none is left or a release
fails. -/
def drain (release : Frame → σ → Except Fault Unit × σ) :
    Stack → σ → Except Fault Unit × Stack × σ
  | [], world => (.ok (), [], world)
  | frame :: rest, world =>
    match release frame world with
    | (.ok (), world) => drain release rest world
    | (.error fault, world) => (.error fault, rest, world)

end Stack

end Provision
