import Provision.Web.Host

/-! Absolute addresses of hosts in their normal form: lower-case scheme and host, no
default port, no dot segments, and every byte outside the allowed sets percent-encoded. -/

namespace Provision

structure Url where
  scheme : String
  /-- User information and an at sign, if any. -/
  userinfo : String
  host : Host
  port : Option Nat
  /-- Empty, or starts with a slash. -/
  path : String
  query : Option String
  fragment : Option String
  deriving DecidableEq, Repr

/-- Why a text is no absolute address. -/
inductive UrlError where
  | relative
  | emptyHost
  | invalidPort
  | host (reason : HostError)
  deriving DecidableEq, Repr

namespace UrlError

def message : UrlError → String
  | relative => "RelativeUrlWithoutBase: relative URL without a base"
  | emptyHost => "EmptyHost: empty host"
  | invalidPort => "InvalidPort: invalid port number"
  | host .ipv4 => "InvalidIpv4Address: invalid IPv4 address"
  | host .ipv6 => "InvalidIpv6Address: invalid IPv6 address"
  | host .domain => "IdnaError: invalid international domain name"
  | host .character => "InvalidDomainCharacter: invalid domain character"

end UrlError

namespace Url

private def isSchemeChar (c : Char) : Bool := c.isAlphanum || c == '+' || c == '-' || c == '.'

/-- The scheme in lower case and what follows its colon. -/
def splitScheme? (text : List Char) : Option (List Char × List Char) :=
  match text.takeWhile isSchemeChar, text.dropWhile isSchemeChar with
  | first :: more, ':' :: rest =>
    if first.isAlpha then some ((first :: more).map Char.toLower, rest) else none
  | _, _ => none

/-- What the scheme of an address means for its parts. -/
inductive Kind where
  /-- Backslashes count as slashes, and a path has segments. -/
  | network (defaultPort : Option Nat)
  /-- Like that, but there are only a host and a path. -/
  | file
  | foreign
  deriving DecidableEq, Repr

def kindOf (scheme : String) : Kind :=
  match scheme with
  | "http" | "ws" => .network (some 80)
  | "https" | "wss" => .network (some 443)
  | "ftp" => .network (some 21)
  | "file" => .file
  | _ => .foreign

private def percentByte (byte : UInt8) : List Char :=
  '%' :: (Text.hexFixed 2 byte.toNat).map Char.toUpper

/-- Encode the characters in the set, and everything outside printable ASCII. -/
def percentEncode (reserved : List Char) (text : List Char) : List Char :=
  text.flatMap fun c =>
    if c.toNat < 0x20 || 0x7E < c.toNat || reserved.contains c then
      (String.utf8EncodeChar c).flatMap percentByte
    else [c]

private def fragmentReserved : List Char := [' ', '"', '<', '>', '\x60']
private def pathReserved : List Char := fragmentReserved ++ ['#', '?', '\x7b', '\x7d']
private def queryReserved : List Char := [' ', '"', '#', '<', '>', '\x27']
private def userReserved : List Char :=
  pathReserved ++ ['/', ':', ';', '=', '@', '[', '\\', ']', '^', '|']

private def queryReservedAbroad : List Char := [' ', '"', '#', '<', '>']

def Kind.isSlash (kind : Kind) (c : Char) : Bool := c == '/' || (c == '\\' && kind != .foreign)

/-- A segment that stands for the directory itself or the one above, its dots being
possibly percent-encoded. -/
private def dots (segment : List Char) : List Char :=
  match segment with
  | '%' :: '2' :: e :: rest => if e == 'e' || e == 'E' then '.' :: dots rest else segment
  | c :: rest => if c == '.' then c :: dots rest else segment
  | [] => []

/-- The letter of a drive with a colon or a bar behind it. -/
def isDrive : List Char → Bool
  | [letter, mark] => letter.isAlpha && (mark == ':' || mark == '|')
  | _ => false

/-- Drop the latest segment, unless it is a drive. -/
private def dropLatest : List (List Char) → List (List Char)
  | [] => []
  | latest :: before => if isDrive latest then latest :: before else before

/-- Resolve dot segments from the left; the last segment keeps a trailing slash when it
is itself made of dots. -/
def resolveDots (done : List (List Char)) : List (List Char) → List (List Char)
  | [] => done.reverse
  | segment :: rest =>
    if dots segment == ['.'] then
      resolveDots (if rest.isEmpty then [] :: done else done) rest
    else if dots segment == ['.', '.'] then
      resolveDots (if rest.isEmpty then [] :: dropLatest done else dropLatest done) rest
    else resolveDots (segment :: done) rest

/-- The segments of a path without its dots. -/
private def segments (kind : Kind) (path : List Char) : List (List Char) :=
  let body := match path with
    | c :: rest => if kind.isSlash c then rest else path
    | [] => []
  resolveDots [] ((body.map fun c => if kind.isSlash c then '/' else c).splitOn '/')

private def showSegments (segments : List (List Char)) : String :=
  String.join (segments.map fun segment =>
    "/" ++ String.ofList (percentEncode pathReserved segment))

/-- Where addresses have a network they have a path as well. -/
private def normalPath (kind : Kind) (path : List Char) : String :=
  if path.isEmpty && kind == .foreign then "" else showSegments (segments kind path)

/-- The path of a file starts with one slash. -/
private def filePath (segments : List (List Char)) : String :=
  let named := segments.dropWhile List.isEmpty
  if named.isEmpty then "/" else showSegments named

private def parsePort (defaultPort : Option Nat) (digits : List Char) :
    Except UrlError (Option Nat) :=
  if digits.isEmpty then .ok none
  else if Text.digitsValue digits < 65536 then
    let port := Text.digitsValue digits
    .ok (if some port == defaultPort then none else some port)
  else .error .invalidPort

/-- Split behind the last character of this kind. -/
private def splitLast (mark : Char) (text : List Char) : Option (List Char × List Char) :=
  let after := (text.reverse.takeWhile (· != mark)).reverse
  if after.length == text.length then none
  else some (text.take (text.length - after.length - 1), after)

/-- The host ends at a colon that is in no brackets. -/
private def hostLength (inBrackets : Bool) : List Char → Nat
  | [] => 0
  | ':' :: rest => if inBrackets then hostLength true rest + 1 else 0
  | c :: rest => hostLength (c == '[' || (inBrackets && c != ']')) rest + 1

private def parseUser (user : List Char) : String :=
  let name := user.takeWhile (· != ':')
  let password := (user.drop name.length).drop 1
  let shown := percentEncode userReserved name ++
    (if password.isEmpty then [] else ':' :: percentEncode userReserved password)
  String.ofList (if shown.isEmpty then [] else shown ++ ['@'])

private def parseHost (kind : Kind) (text : List Char) : Except UrlError Host :=
  if text.isEmpty then .error .emptyHost
  else
    (if kind == .foreign then Host.ofForeign (percentEncode []) text
      else Host.ofText text).mapError .host

/-- User, host and port, and the path that may begin right behind the port. -/
private def parseAuthority (kind : Kind) (text : List Char) :
    Except UrlError (String × Host × Option Nat × List Char) := do
  let (user, hostPort) := (splitLast '@' text).getD ([], text)
  let hostText := hostPort.take (hostLength false hostPort)
  let host ← parseHost kind hostText
  if host.isEmpty then throw .emptyHost
  let portText := (hostPort.drop hostText.length).drop 1
  let digits := portText.takeWhile Char.isDigit
  let behind := portText.drop digits.length
  let defaultPort := match kind with
    | .network port => port
    | _ => none
  let port ← parsePort defaultPort digits
  if !behind.isEmpty && behind.head? != some '\\' then throw .invalidPort
  return (parseUser user, host, port, behind)

/-- The host and the path of a file. Neither this machine nor a drive is a host. -/
private def parseFile (text : List Char) : Except UrlError (Host × String) := do
  let hostText := text.takeWhile fun c => !Kind.file.isSlash c
  if isDrive hostText then throw .emptyHost
  let host ← parseHost .file hostText
  let segments := segments .file (text.drop hostText.length)
  if host.isEmpty || host == .name "localhost" || (segments.head?.map isDrive).getD false then
    throw .emptyHost
  return (host, filePath segments)

/-- Controls and blanks around an address do not count, and tabs and line ends do not count
anywhere. -/
private def significant (text : String) : List Char :=
  let isEdge := fun (c : Char) => c.toNat ≤ 0x20
  let trimmed := ((text.toList.dropWhile isEdge).reverse.dropWhile isEdge).reverse
  trimmed.filter fun c => !(c == '\t' || c == '\n' || c == '\r')

/-- Read an absolute address of a host. -/
def parse (text : String) : Except UrlError Url := do
  match splitScheme? (significant text) with
  | none => throw .relative
  | some (scheme, rest) =>
    let scheme := String.ofList scheme
    let kind := kindOf scheme
    let beforeFragment := rest.takeWhile (· != '#')
    let fragment := (rest.drop beforeFragment.length).tail?.map fun tail =>
      String.ofList (percentEncode fragmentReserved tail)
    let body := beforeFragment.takeWhile (· != '?')
    let reserved := if kind == .foreign then queryReservedAbroad else queryReserved
    let query := (beforeFragment.drop body.length).tail?.map fun tail =>
      String.ofList (percentEncode reserved tail)
    let slashes := body.takeWhile kind.isSlash
    match kind with
    | .network _ =>
      let rest := body.drop slashes.length
      let authority := rest.takeWhile fun c => !kind.isSlash c
      let (userinfo, host, port, _) ← parseAuthority kind authority
      return { scheme, userinfo, host, port, query, fragment,
               path := normalPath kind (rest.drop authority.length) }
    | .file =>
      if slashes.length < 2 then throw .emptyHost
      let (host, path) ← parseFile (body.drop 2)
      return { scheme, userinfo := "", host, port := none, path, query, fragment }
    | .foreign =>
      if slashes.length < 2 then throw .emptyHost
      let rest := body.drop 2
      let authority := rest.takeWhile (· != '/')
      let (userinfo, host, port, behind) ← parseAuthority kind authority
      return { scheme, userinfo, host, port, query, fragment,
               path := normalPath kind (behind ++ rest.drop authority.length) }

/-- What is asked of the host: the path and the query. -/
def target (url : Url) : String :=
  url.path ++ (match url.query with
    | some query => "?" ++ query
    | none => "")

/-- The whole address in its normal form. -/
def render (url : Url) : String :=
  let port := match url.port with
    | some port => ":" ++ toString port
    | none => ""
  let fragment := match url.fragment with
    | some fragment => "#" ++ fragment
    | none => ""
  url.scheme ++ "://" ++ url.userinfo ++ url.host.render ++ port ++ url.target ++ fragment

end Url

end Provision
