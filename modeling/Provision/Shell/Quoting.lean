import Provision.Shell.Escape

/-! Writing texts such that the shell would read them back. -/

namespace Provision.Shell.Quoting

/-- Whether a character shows something itself. -/
def isVisible (c : Char) : Bool := ' ' ≤ c && c ≤ '~'

/-- Whether escapes are needed to show the text. -/
def needsEscapes (text : String) : Bool := text.toList.any fun c => !isVisible c

private def escapedChar (c : Char) : List Char :=
  match c with
  | '\x1b' => ['\\', 'E']
  | '\x07' => ['\\', 'a']
  | '\x0b' => ['\\', 'v']
  | '\x08' => ['\\', 'b']
  | '\x0c' => ['\\', 'f']
  | '\n' => ['\\', 'n']
  | '\r' => ['\\', 'r']
  | '\t' => ['\\', 't']
  | '\\' => ['\\', '\\']
  | '\x27' => ['\\', '\x27']
  | c =>
    if isVisible c then [c]
    else
      let digits := Nat.toDigits 8 c.toNat
      '\\' :: List.replicate (3 - digits.length) '0' ++ digits

/-- With escapes, in single quotes behind a dollar sign. -/
def withEscapes (text : String) : String :=
  "$\x27" ++ String.ofList (text.toList.flatMap escapedChar) ++ "\x27"

/-- In single quotes; such a quote itself stands between two quoted texts. -/
def single (text : String) : String :=
  if text == "\x27" then "\\\x27"
  else
    let inner := text.toList.flatMap fun c => if c == '\x27' then "\x27\\\x27\x27".toList else [c]
    "\x27" ++ String.ofList inner ++ "\x27"

/-- In double quotes. -/
def double (text : String) : String :=
  let guarded (c : Char) : Bool := c == '"' || c == '\\' || c == '$' || c == '\x60'
  let inner := text.toList.flatMap fun c => if guarded c then ['\\', c] else [c]
  "\"" ++ String.ofList inner ++ "\""

private def specials : List Char := "\t\n !\"$&\x27()*,;<>?[\\]^\x60\x7b|\x7d".toList

private def isGuardedAt (first : Bool) (c : Char) : Bool :=
  specials.contains c || (first && (c == '#' || c == '~'))

/-- With a backslash in front of everything that has a meaning. -/
def withBackslashes (text : String) : String :=
  match text.toList with
  | [] => "\x27\x27"
  | first :: rest =>
    let guard (isFirst : Bool) (c : Char) : List Char :=
      if isGuardedAt isFirst c then ['\\', c] else [c]
    String.ofList (guard true first ++ rest.flatMap (guard false))

private def metas : List Char := "\t\n \x27\"\\|&;()<>!\x7b\x7d*[]?^$\x60".toList

private def hasMetaBehind : Option Char → List Char → Bool
  | _, [] => false
  | before, c :: rest =>
    metas.contains c
      || (c == '~' && (before.isNone || before == some '=' || before == some ':'))
      || (c == '#' && before.isNone)
      || hasMetaBehind (some c) rest

/-- Whether part of the text means something to the shell. -/
def hasMeta (text : String) : Bool := hasMetaBehind none text.toList

/-- As it is if that can be read back, and quoted otherwise. -/
def ifNeeded (text : String) : String :=
  if text.isEmpty then "\x27\x27"
  else if hasMeta text then single text
  else if needsEscapes text then withEscapes text
  else text

/-- As the value of a variable that is assigned. -/
def assigned (text : String) : String := if text.isEmpty then "" else ifNeeded text

/-- So that it can be used again. -/
def reusable (text : String) : String :=
  if text.isEmpty then "\x27\x27" else if needsEscapes text then withEscapes text else single text

/-- As a value in a declaration. -/
def declared (text : String) : String := if needsEscapes text then withEscapes text else double text

/-- As one word of a command. -/
def word (text : String) : String :=
  if text.isEmpty then "\x27\x27"
  else if needsEscapes text then withEscapes text
  else withBackslashes text

end Provision.Shell.Quoting
