import Provision.Console
import Provision.FileName
import Provision.Handlers.Basic
import Provision.Text.Numeral
import Provision.Web.Network

/-! Operations that exchange files with the network. -/

namespace Provision.Handlers

/-- How DOWNLOAD goes about its work. No fewer than one attempt is made. -/
structure Fetching where
  mirror : Mirror
  attempts : Nat
  /-- Say nothing on the terminal. -/
  quiet : Bool := false

/-- Send a request and keep the network's record of it. -/
def request (method address contentType : String) (body : Bytes) :
    Machine.Work (Except HttpError Response) := do
  let machine ← get
  let (outcome, network) := machine.network.send method address contentType body
  MonadStateOf.set { machine with network }
  return outcome

/-- One attempt: the target is emptied as soon as an answer begins, and filled as its
pieces arrive. The number of bytes is returned. -/
def fetch (address target : String) : Machine.Work Nat := do
  match ← request "GET" address "" [] with
  | .error error => throw ["download failed: " ++ error.message]
  | .ok response =>
    Machine.onDisk (Disk.attempt ("cannot create file " ++ target) fun disk => disk.write target [])
    for chunk in response.chunks do
      Machine.onDisk (Disk.attempt "write error" fun disk => disk.append target chunk)
    if response.missing != 0 then throw ["read error", Network.bodyCutShort]
    return response.body.length

/-- Repeat failed attempts, up to `more` times. The last failure counts. -/
def fetchRepeatedly (address target : String) : (more : Nat) → Machine.Work Nat
  | 0 => fetch address target
  | more + 1 => tryCatch (fetch address target) fun _ => fetchRepeatedly address target more

/-- DOWNLOAD fetches a file into a temporary one, which keeps the name it had in the
address. -/
def download (options : Fetching) : Handler Machine := fun task =>
  (onMachine do
    let address := options.mirror.downloadUrl task.parameter
    let target ← Machine.persistentFile ("-" ++ FileName.ofUrl task.parameter)
    let count ← Machine.orElseUndo
      (tryCatch (fetchRepeatedly address target (options.attempts - 1)) fun causes =>
        throw ["exception during download of " ++ address ++ ": " ++ joinCauses causes])
      (Machine.discard target)
    if !options.quiet then
      modify (Machine.print (Console.detail
        ("downloaded " ++ address ++ " (" ++ toString count ++ " bytes)")))
    Machine.onDisk (Disk.makeExecutable target)
    settle target).bind fun path => .done (ownedPath path)

/-- A delimiter that no content is likely to have in it. -/
def freshBoundary : Machine.Work String := do
  let machine ← get
  MonadStateOf.set { machine with names := machine.names + 1 }
  return "recipe-" ++ String.ofList (Text.hexFixed 32 machine.names)

/-- Send a file as a form and return the reply. -/
def post (address path : String) : Machine.Work String := do
  let content ← Machine.onDisk (Disk.inquire ("cannot read " ++ path) fun disk => disk.read path)
  let boundary ← freshBoundary
  match ← request "POST" address (Multipart.contentType boundary)
      (Multipart.body (Text.encode boundary) content) with
  | .error error => throw ["upload failed: " ++ error.message]
  | .ok response =>
    if response.missing != 0 then throw ["unreadable upload response", Network.bodyCutShort]
    return Text.decodeLossy response.body

/-- UPLOAD posts a file to the collecting host; the reply is the result. -/
def upload (mirror : Mirror) : Handler Machine := fun task =>
  (onMachine (Machine.within ("cannot upload file " ++ task.parameter)
    (post (mirror.uploadUrl task.facts.id) task.parameter))).bind fun reply =>
    .done (.ofValue reply)

end Provision.Handlers
