import Provision.Text.Word
import Provision.Uuid

/-! The machine a recipe is for: operating system family, architecture, version
and identity. -/

namespace Provision

inductive Family where
  | win | mac | linux | ubuntu | debian | fedora | android | ios | hub | testbirds | unknown
  deriving DecidableEq, Repr

namespace Family

def all : List Family :=
  [win, mac, linux, ubuntu, debian, fedora, android, ios, hub, testbirds, unknown]

def keyword : Family → String
  | win => "WIN"
  | mac => "MAC"
  | linux => "LINUX"
  | ubuntu => "UBUNTU"
  | debian => "DEBIAN"
  | fedora => "FEDORA"
  | android => "ANDROID"
  | ios => "IOS"
  | hub => "HUB"
  | testbirds => "TESTBIRDS"
  | unknown => "UNKNOWN"

/-- The family with exactly this keyword. -/
def ofKeyword? (word : String) : Option Family := all.find? fun family => family.keyword == word

/-- Keywords typed by a person: surrounding blanks and letter case do not count. -/
def parse? (text : String) : Option Family := ofKeyword? (Text.asciiUpper (Text.trim text))

/-- The same, with the reason why a word is refused. -/
def parse (text : String) : Except Text.UnknownWord Family := Text.known "OS family" parse? text

/-- Families that may control other machines. -/
def isHub : Family → Bool
  | linux | hub => true
  | _ => false

def pathSeparator : Family → String
  | win => "\\"
  | _ => "/"

end Family

inductive Arch where
  | x86 | x86_64 | aarch64
  deriving DecidableEq, Repr

namespace Arch

def all : List Arch := [x86, x86_64, aarch64]

def keyword : Arch → String
  | x86 => "X86"
  | x86_64 => "X86_64"
  | aarch64 => "AARCH64"

def ofKeyword? (word : String) : Option Arch := all.find? fun arch => arch.keyword == word

/-- The names under which an architecture goes elsewhere are understood too. -/
def parse? (text : String) : Option Arch :=
  match Text.asciiLower (Text.trim text) with
  | "x86" | "i386" | "i686" => some x86
  | "x86_64" | "amd64" => some x86_64
  | "aarch64" | "arm64" => some aarch64
  | _ => none

/-- The same, with the reason why a word is refused. -/
def parse (text : String) : Except Text.UnknownWord Arch := Text.known "architecture" parse? text

end Arch

/-- What is known of the target machine. `here` holds when it is the machine the
run takes place on, so that a reboot is really commanded. -/
structure Facts where
  family : Family
  arch : Arch
  version : String := ""
  id : Uuid
  here : Bool := false
  deriving DecidableEq, Repr

end Provision
