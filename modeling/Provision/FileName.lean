import Provision.Text.Word

/-! File names derived from addresses: a single path component that is safe on
every platform. -/

namespace Provision.FileName

/-- Characters that some platform refuses or reads as structure. -/
def isUnsafe (c : Char) : Bool :=
  ['/', '\\', ':', '*', '?', '"', '<', '>', '|'].contains c ||
    c.toNat < 0x20 || (0x7F ≤ c.toNat && c.toNat ≤ 0x9F)

/-- Unsafe characters become underscores, and dots at both ends go. -/
def sanitizeChars (name : List Char) : List Char :=
  Text.trimBoth (· == '.') (name.map fun c => if isUnsafe c then '_' else c)

def sanitize (name : String) : String := String.ofList (sanitizeChars name.toList)

/-- What follows the last slash. -/
def lastSegment (path : List Char) : List Char :=
  (path.reverse.takeWhile (· != '/')).reverse

/-- The last segment of the address without query and fragment, made safe. -/
def ofUrlChars (url : List Char) : List Char :=
  match sanitizeChars (lastSegment ((url.takeWhile (· != '?')).takeWhile (· != '#'))) with
  | [] => "download".toList
  | name => name

def ofUrl (url : String) : String := String.ofList (ofUrlChars url.toList)

end Provision.FileName
