import Provision.Engine.Handling
import Provision.Machine.Process

/-! What handlers need in order to work on the machine. -/

namespace Provision.Handlers

/-- Work on the machine as part of a handler. -/
def onMachine {α : Type} (work : Machine.Work α) : Handling Machine α :=
  .act (Machine.handling work)

/-- The path of something that exists now, without links. -/
def settle (path : String) : Machine.Work String := Machine.onDisk (Disk.canonicalPath path)

/-- A frame for a path that goes away with the frame. -/
def ownedPath (path : String) : Frame :=
  (Frame.ofValue path).withCleanup ⟨.delete, path⟩

/-- Delete what an obligation names, or unmount it. -/
def discharge (obligation : Cleanup) : Machine.Work Unit :=
  match obligation.kind with
  | .delete => Machine.onDisk (Disk.delete obligation.resource)
  | .unmount => do
    let _ ← Machine.runCommand ["hdiutil", "unmount", obligation.resource] none

/-- How the engine has obligations discharged on a machine. -/
def clean (obligation : Cleanup) (machine : Machine) :
    Except (List String) Unit × Machine :=
  discharge obligation machine

end Provision.Handlers
