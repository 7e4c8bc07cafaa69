import Provision.Shell.Expansion
import Provision.Shell.Host

/-! Leading ports elsewhere. -/

namespace Provision.Shell

/-- Lead a port where a device leads. -/
private def openDevice (port : Nat) (path : String) : Host.Device → Act Bool
  | .nothing => do
    modify (openPort port (.buffer []))
    return true
  | .noughts => do
    modify (openPort port (.reader (List.replicate 65536 0) 0))
    return true
  | .port number => do
    match (← get).channelAt? number with
    | some channel =>
      modify (setPort port channel)
      return true
    | none =>
      complain (path ++ ": No such file or directory")
      return false

private def openToRead (port : Nat) (path : String) : Act Bool := do
  match Host.device? path with
  | some .nothing =>
    modify (openPort port (.reader [] 0))
    return true
  | some device => openDevice port path device
  | none =>
    match (← get).disk.lookup true (Text.narrow path) with
    | .ok (_, .file id _ _) =>
      modify (openPort port (.file id 0 .reading))
      return true
    | .ok _ =>
      modify (openPort port (.reader [] 0))
      return true
    | .error error =>
      complain (path ++ ": " ++ reason error)
      return false

private def existsAsFile (disk : Disk) (path : String) : Bool :=
  match disk.lookup true (Text.narrow path) with
  | .ok (_, .file ..) => true
  | _ => false

private def openToWrite (port : Nat) (path : String) (access : Access) (clobber : Bool) :
    Act Bool := do
  match Host.device? path with
  | some device => openDevice port path device
  | none =>
    let shell ← get
    if access == .writing && !clobber && shell.has "noclobber" && existsAsFile shell.disk path then
      complain (path ++ ": cannot overwrite existing file")
      return false
    match shell.disk.openOrCreate (Text.narrow path) with
    | .ok (id, disk) =>
      let disk := if access == .writing then disk.rewrite id [] else disk
      set ({ shell with disk }.openPort port (.file id 0 access))
      return true
    | .error error =>
      complain (path ++ ": " ++ reason error)
      return false

private def duplicate (port : Nat) (text written : String) : Act Bool := do
  if text == "-" then
    modify (closePort port)
    return true
  let moves := text.toList.getLast? == some '-'
  let digits := if moves then text.toList.dropLast else text.toList
  if digits.isEmpty || !digits.all Char.isDigit then
    if port == 1 && !written.isEmpty then
      if ← openToWrite 1 text .writing false then
        if let some channel := (← get).channelAt? 1 then modify (setPort 2 channel)
        return true
      return false
    complain (written ++ ": ambiguous redirect")
    return false
  let other := Text.digitsValue digits
  match (← get).channelAt? other with
  | some channel =>
    modify (setPort port channel)
    if moves && other != port then modify (closePort other)
    return true
  | none =>
    complain (toString other ++ ": Bad file descriptor")
    return false

/-- Work with the one path that a word names. -/
private def withPath (run : Runner) (word : Word) (written : String) (work : String → Act Bool) :
    Act Bool := do
  match ← expandPath? run word with
  | some path => work path
  | none =>
    if !(← isHalted) then complain (written ++ ": ambiguous redirect")
    return false

/-- Lead ports elsewhere, one after the other, until one cannot be led there. -/
def redirect (run : Runner) : List Redirection → Act Bool
  | [] => return true
  | ⟨port, target, written⟩ :: rest => do
    let led ← match target with
      | .supply word ended => do
        let text ← expandText run word
        let text := if ended then text ++ "\n" else text
        modify (openPort port (.reader (Text.toOctets text) 0))
        pure true
      | .read word => withPath run word written (openToRead port)
      | .write word append clobber =>
        withPath run word written fun path =>
          openToWrite port path (if append then .adding else .writing) clobber
      | .update word => withPath run word written fun path => openToWrite port path .updating true
      | .duplicate word => do
        let fields ← expand run [word]
        match fields with
        | [text] => duplicate port text written
        | _ =>
          if !(← isHalted) then complain (written ++ ": ambiguous redirect")
          pure false
    if ← isHalted then return false
    if led then redirect run rest else return false

/-- Run the scripts that read what has been written to channels since then. -/
private def drain (run : Runner) (before : List (Nat × String × Nat)) : Act Unit := do
  let shell ← get
  let fresh := shell.outlets.filter fun outlet => !before.any fun other => other.1 == outlet.1
  set { shell with outlets := before }
  for (channel, script, line) in fresh.reverse do
    let bytes := (← get).written channel
    let ports := (← get).ports
    let status := (← get).status
    modify (openPort 0 (.reader bytes 0))
    inSubshell run (run (.script script line))
    modify fun after => { after with ports, status }

/-- Work of which the changes of ports are undone. -/
def keepingPorts (run : Runner) (work : Act Unit) : Act Unit := do
  let before ← get
  work
  drain run before.outlets
  modify fun after => { after with ports := before.ports }

/-- Work with ports led elsewhere; not at all if that fails. -/
def withPorts (run : Runner) (redirections : List Redirection) (work : Act Unit) : Act Unit :=
  keepingPorts run do
    if ← redirect run redirections then work
    else if !(← isHalted) then setStatus 1

end Provision.Shell
