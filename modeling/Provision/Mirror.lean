import Provision.Text.Word
import Provision.Uuid

/-! Where files come from and go to: addresses on the software mirror and on the
local host that collects uploads. -/

namespace Provision

structure Mirror where
  software : String := "https://admin.testchameleon.com/media"
  vmhost : String := "http://vmhost-local.testchameleon.com"
  deriving DecidableEq, Repr

namespace Mirror

/-- Base and path with exactly one slash at the seam. -/
def joinChars (base path : List Char) : List Char :=
  Text.trimEnd (· == '/') base ++ '/' :: path.dropWhile (· == '/')

def join (base path : String) : String :=
  String.ofList (joinChars base.toList path.toList)

def schemes : List (List Char) := ["http://".toList, "https://".toList, "ftp://".toList]

/-- Complete addresses begin with a known scheme in lower case. -/
def isAbsolute (text : String) : Bool :=
  schemes.any fun scheme => scheme.isPrefixOf text.toList

/-- A path on the software mirror. -/
def softwareUrl (mirror : Mirror) (path : String) : String := join mirror.software path

/-- A path on the collecting host. -/
def vmhostUrl (mirror : Mirror) (path : String) : String := join mirror.vmhost path

/-- What a download fetches: a complete address as it is, anything else from the
mirror. -/
def downloadUrl (mirror : Mirror) (parameter : String) : String :=
  if isAbsolute parameter then parameter else mirror.softwareUrl parameter

/-- Where the machine with this identity leaves its uploads. -/
def uploadUrl (mirror : Mirror) (id : Uuid) : String :=
  mirror.vmhostUrl ("/file/upload/" ++ id.hyphenated)

end Mirror

end Provision
