import Provision.Fault
import Provision.Mirror
import Provision.Platform
import Provision.Text.Word

/-! Named constants of a run and where their values come from. -/

namespace Provision

inductive Constant where
  | desktop | delimiter | swMirror | uuid | programFilesX86
  deriving DecidableEq, Repr

namespace Constant

def all : List Constant := [desktop, delimiter, swMirror, uuid, programFilesX86]

def keyword : Constant → String
  | desktop => "DESKTOP"
  | delimiter => "DELIMITER"
  | swMirror => "SW_MIRROR"
  | uuid => "UUID"
  | programFilesX86 => "PROGRAM_FILES_X86"

def ofKeyword? (word : String) : Option Constant :=
  all.find? fun constant => constant.keyword == word

/-- The constant of this name, or the reason why there is none. -/
def parse (text : String) : Except Text.UnknownWord Constant :=
  Text.known "constant" ofKeyword? text

end Constant

/-- A source of constants: which names placeholders may use, and their values. -/
structure Constants where
  supported : List Constant
  value : Constant → Except Fault String

namespace Constants

/-- Whether the text contains the word. -/
def mentions (word : List Char) : List Char → Bool
  | [] => word.isEmpty
  | c :: rest => word.isPrefixOf (c :: rest) || mentions word rest

/-- The desktop directory. Version 5.1 of WIN still keeps it under its old name. -/
def desktop (facts : Facts) : Except Fault String :=
  match facts.family with
  | .win =>
    if mentions "5.1".toList facts.version.toList then
      .ok "C:\\Documents and Settings\\testbirds\\Desktop\\"
    else .ok "C:\\Users\\testbirds\\Desktop\\"
  | .mac | .ios => .ok "/Users/testbirds/Desktop/"
  | .ubuntu | .fedora | .hub | .testbirds => .ok "/home/testbirds/Desktop/"
  | .android => .ok "/sdcard/Download/"
  | other => .error (.invalidRecipe ("can't resolve DESKTOP on os " ++ other.keyword))

def programFiles (facts : Facts) : String :=
  match facts.family, facts.arch with
  | .win, .x86_64 => "C:\\Program Files (x86)\\"
  | .win, _ => "C:\\Program Files\\"
  | _, _ => ""

/-- The constants of the target machine. -/
def ofMachine (facts : Facts) (mirror : Mirror) : Constants where
  supported := Constant.all
  value
    | .desktop => desktop facts
    | .delimiter => .ok facts.family.pathSeparator
    | .swMirror => .ok mirror.software
    | .uuid => .ok facts.id.hyphenated
    | .programFilesX86 => .ok (programFiles facts)

end Constants

end Provision
