/-! What a step leaves behind: a value for later steps to refer to, the output it
captured, and what has to be undone when the frame goes away. -/

namespace Provision

inductive CleanupKind where
  | delete
  | unmount
  deriving DecidableEq, Repr

def CleanupKind.word : CleanupKind → String
  | .delete => "delete"
  | .unmount => "unmount"

/-- An obligation to remove a resource. -/
structure Cleanup where
  kind : CleanupKind
  resource : String
  deriving DecidableEq, Repr

structure Frame where
  value : String
  cleanup : Option Cleanup := none
  out : Option String := none
  err : Option String := none
  deriving DecidableEq, Repr

namespace Frame

def ofValue (value : String) : Frame := { value }

def withCleanup (frame : Frame) (cleanup : Cleanup) : Frame :=
  { frame with cleanup := some cleanup }

def withOutput (frame : Frame) (out err : String) : Frame :=
  { frame with out := some out, err := some err }

/-- The value, followed by both outputs as soon as one was captured. -/
def render (frame : Frame) : String :=
  if frame.out.isSome || frame.err.isSome then
    frame.value ++ " [" ++ frame.out.getD "" ++ "|" ++ frame.err.getD "" ++ "]"
  else frame.value

end Frame

end Provision
