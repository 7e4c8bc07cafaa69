import Provision.Text.Utf8
import Provision.Web.Url

/-! The network as seen from one machine: what its peers answer, request by request,
and a record of what they were asked. -/

namespace Provision

/-- An answer whose body arrives in pieces. `missing` counts the bytes that were
announced and never sent. -/
structure Response where
  status : Nat
  chunks : List Bytes
  missing : Nat := 0
  deriving Repr

def Response.body (response : Response) : Bytes := response.chunks.flatten

/-- Answers to one kind of request, used in turn; the last one is repeated. -/
structure Route where
  method : String
  target : String
  responses : List Response
  deriving Repr

structure Request where
  method : String
  target : String
  contentType : String := ""
  body : Bytes := []
  deriving Repr

inductive HttpError where
  | badUrl (reason : UrlError)
  | unknownScheme (url : Url)
  | unreachable (url : Url)
  | status (url : Url) (code : Nat)
  deriving Repr

def HttpError.message : HttpError → String
  | badUrl reason => "Bad URL: failed to parse URL: " ++ reason.message
  | unknownScheme url =>
    url.render ++ ": Unknown Scheme: unknown scheme '" ++ url.scheme ++ "'"
  | unreachable url =>
    url.render ++ ": Connection Failed: Connect error: Network is unreachable (os error 101)"
  | status url code => url.render ++ ": status code " ++ toString code

structure Network where
  reachable : Bool := true
  routes : List Route := []
  /-- Latest request first. -/
  requests : List Request := []
  deriving Repr, Inhabited

namespace Network

/-- The answer of the first route for this request, and the routes for the next one. -/
def answer (method target : String) : List Route → Option (Response × List Route)
  | [] => none
  | route :: rest =>
    if route.method == method && route.target == target then
      match route.responses with
      | [] => none
      | [last] => some (last, route :: rest)
      | next :: later => some (next, { route with responses := later } :: rest)
    else (answer method target rest).map fun (response, rest) => (response, route :: rest)

/-- Ask for an address. Nobody to answer is status 404, and any status from 400 on is an
error. -/
def send (network : Network) (method address contentType : String) (body : Bytes) :
    Except HttpError Response × Network :=
  match Url.parse address with
  | .error reason => (.error (.badUrl reason), network)
  | .ok url =>
    if url.scheme != "http" && url.scheme != "https" then (.error (.unknownScheme url), network)
    else if !network.reachable then (.error (.unreachable url), network)
    else
      let (response, routes) := (answer method url.target network.routes).getD
        ({ status := 404, chunks := [] }, network.routes)
      let network := { network with
        routes
        requests := { method, target := url.target, contentType, body } :: network.requests }
      if 400 ≤ response.status then (.error (.status url response.status), network)
      else (.ok response, network)

/-- What reading a body to its end meets when bytes are missing. -/
def bodyCutShort : String := "response body closed before all bytes were read"

end Network

end Provision

/-! A form with a single part that carries a file. -/

namespace Provision.Multipart

def lineEnd : Bytes := [13, 10]

/-- Everything in front of the content: the opening delimiter and the part's header, ended by
an empty line. -/
def head (boundary : Bytes) : Bytes :=
  [45, 45] ++ boundary ++ lineEnd ++
    Text.encode "Content-Disposition: form-data; name=\"icon\"; filename=\"img.png\"" ++ lineEnd ++
    Text.encode "Content-Type: application/octet-stream" ++ lineEnd ++ lineEnd

/-- Everything after the content: the closing delimiter on a line of its own. -/
def tail (boundary : Bytes) : Bytes :=
  lineEnd ++ [45, 45] ++ boundary ++ [45, 45] ++ lineEnd

def body (boundary content : Bytes) : Bytes := head boundary ++ content ++ tail boundary

def contentType (boundary : String) : String := "multipart/form-data; boundary=" ++ boundary

end Provision.Multipart
