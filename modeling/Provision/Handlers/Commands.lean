import Provision.Handlers.Basic
import Provision.Text.Quoted

/-! Operations that run programs. -/

namespace Provision.Handlers

/-- The exit code is the value, and what was printed goes with it. -/
def outputFrame (captured : Machine.Captured) : Frame :=
  (Frame.ofValue (toString captured.code)).withOutput captured.out captured.err

/-- COMMAND runs the parameter as a script: a batch file on WIN, a shell script
anywhere else. A script that fails is no error. -/
def command : Handler Machine := fun task =>
  (onMachine (Machine.within "error executing the command"
    (match task.facts.family with
    | .win => Machine.runBatchScript task.parameter
    | _ => Machine.runBashScript task.parameter))).bind fun captured =>
    .done (outputFrame captured)

/-- ASYNC starts the script and goes on at once. -/
def async : Handler Machine := fun task =>
  (onMachine (Machine.within "can't run command async"
    (match task.facts.family with
    | .win => Machine.startBatch task.parameter
    | _ => Machine.startBash task.parameter))).bind fun _ =>
    .done (.ofValue "")

/-- PKG installs a package onto the system volume. -/
def pkg : Handler Machine := fun task =>
  (onMachine (Machine.within "can't run the package installer"
    (Machine.runProcess ["sudo", "installer", "-pkg", task.parameter, "-target", "/"] none))).bind
    fun captured => .done (outputFrame captured)

/-- What is typed to trust the certificate in a file, up to the file's path. -/
def trustCommand? : Family → Option String
  | .win => some "certutil -addstore -f \"ROOT\" "
  | .mac => some ("sudo security add-trusted-cert -d -r trustRoot -k " ++
      "/Library/Keychains/System.keychain ")
  | _ => none

/-- INSTALL_CERT trusts a root certificate through an inserted COMMAND. -/
def installCert : Handler Machine := fun task =>
  match trustCommand? task.facts.family with
  | none =>
    .failed (.say ("installing certificates not yet supported on " ++ task.facts.family.keyword))
  | some front =>
    (Handling.insertAll (Step.close [⟨.command, front ++ task.parameter⟩])).bind fun _ =>
      .done (.ofValue "N/A")

end Provision.Handlers

/-! Operations that look at values or at the machine as a whole. -/

namespace Provision.Handlers

/-- SET leaves its parameter behind. -/
def set : Handler Machine := fun task => .done (.ofValue task.parameter)

/-- EQUALS fails unless the parent's result is the parameter. -/
def equals : Handler Machine := fun task =>
  Handling.topValue.bind fun actual =>
    if actual == task.parameter then .done (.ofValue "1")
    else .failed (.say ("expected " ++ Text.quoted task.parameter ++ " but found " ++
      Text.quoted actual))

/-- The command that reboots the machine at once. -/
def rebootCommand : Family → List String
  | .win => ["shutdown", "/r", "/t", "0"]
  | _ => ["sudo", "shutdown", "-r", "now"]

/-- REBOOT_NOW commands a reboot where the run takes place; for any other target it is
only noted. -/
def rebootNow : Handler Machine := fun task =>
  (onMachine do
    if task.facts.here then
      let _ ← Machine.within "reboot failed"
        (Machine.runCommand (rebootCommand task.facts.family) none)
    else modify fun machine => { machine with rebooted := true }).bind fun _ =>
    .done (.ofValue "")

end Provision.Handlers
