import Provision.Shell.State

/-! What all tools do alike: they read their options, which may stand behind other words,
and say what is wrong. -/

namespace Provision.Shell.Tool

/-! ## Names in messages -/

private def isSpecial (c : Char) : Bool := " !\"$&()*;<=>[^\x60|\\?\x27:".toList.contains c

private def isVisible (c : Char) : Bool := ' ' ≤ c && c ≤ '~'

/-- Whether a name can stand in a message as it is. -/
private def isBare (name : String) : Bool :=
  match name.toList with
  | [] => false
  | [only] => isVisible only && !isSpecial only && !"#~\x7b\x7d".toList.contains only
  | first :: rest =>
    first != '#' && first != '~' && (first :: rest).all fun c => isVisible c && !isSpecial c

/-- Whether a name can stand between double quotes as it is. -/
private def fitsDoubleQuotes (name : String) : Bool :=
  name.toList.all fun c => c.isAlphanum || " \x27%+,-./:]_".toList.contains c

private def letterEscapes : List (Char × Char) :=
  [('\x07', 'a'), ('\x08', 'b'), ('\t', 't'), ('\n', 'n'), ('\x0b', 'v'), ('\x0c', 'f'),
    ('\r', 'r')]

private def escaped (c : Char) : String :=
  match letterEscapes.find? fun entry => entry.1 == c with
  | some (_, letter) => "\\" ++ String.singleton letter
  | none => "\\" ++ String.ofList ((Nat.toDigits 8 (512 + c.toNat)).drop 1)

/-- The rest of a quoted name, its invisible characters in pieces of their own. -/
private def quotedRest (isPlain : Bool) : List Char → String
  | [] => "\x27"
  | c :: rest =>
    if isVisible c then
      let shown := if c == '\x27' then "\x27\\\x27\x27" else String.singleton c
      (if isPlain then "" else "\x27\x27") ++ shown ++ quotedRest true rest
    else (if isPlain then "\x27$\x27" else "") ++ escaped c ++ quotedRest false rest

/-- A name in quotes. -/
def quoted (name : String) : String :=
  if name.toList.contains '\x27' && fitsDoubleQuotes name then "\"" ++ name ++ "\""
  else "\x27" ++ quotedRest true name.toList

/-- A name in quotes if it needs them. -/
def shown (name : String) : String := if isBare name then name else quoted name

/-! ## Messages -/

/-- Say on the third port what is wrong. -/
def warn (name text : String) : Act Unit := do
  let _ ← write 2 (name ++ ": " ++ text ++ "\n")

/-- Say what is wrong and where help can be found. -/
def misused (name text : String) : Act Unit := do
  warn name text
  let _ ← write 2 ("Try \x27" ++ name ++ " --help\x27 for more information.\n")

/-- Print on the second port. -/
def put (name text : String) : Act Nat := do
  if text.isEmpty then return 0
  if ← write 1 text then return 0
  warn name "write error: Bad file descriptor"
  return 1

/-- Do something for every word. The status is the largest of all. -/
def forWords (work : String → Act Nat) : List String → Act Nat
  | [] => return 0
  | word :: rest => do
    let status ← work word
    return max status (← forWords work rest)

/-! ## Options -/

/-- An option with the argument that belongs to it, if it has one. -/
abbrev Choice := Char × Option String

/-- The options that a tool knows. A colon follows the letters that take an argument, and
two follow those that can do without. -/
structure Grammar where
  letters : String
  long : List (String × Char) := []
  /-- Whether options can stand behind other words. -/
  isMixed : Bool := true

private inductive Need where
  | never | always | maybe
  deriving DecidableEq

private def needIn : List Char → Char → Option Need
  | [], _ => none
  | c :: ':' :: ':' :: rest, letter => if c == letter then some .maybe else needIn rest letter
  | c :: ':' :: rest, letter => if c == letter then some .always else needIn rest letter
  | c :: rest, letter => if c == letter then some .never else needIn rest letter

private structure Reading where
  choices : List Choice := []
  operands : List String := []

private def Reading.with (choice : Choice) (reading : Reading) : Reading :=
  { reading with choices := choice :: reading.choices }

private def longNamed (grammar : Grammar) (name : String) : List (String × Char) :=
  match grammar.long.find? fun entry => entry.1 == name with
  | some entry => [entry]
  | none => grammar.long.filter fun entry => name.toList.isPrefixOf entry.1.toList

/-- The choice that a long option makes, and whether it needs the next word. -/
private def readLong (grammar : Grammar) (text : String) : Except String (Char × Option String × Bool) :=
  let name := String.ofList (text.toList.takeWhile (· != '='))
  let value := if text.length == name.length then none
    else some (String.ofList (text.toList.drop (name.length + 1)))
  match longNamed grammar name with
  | [] => .error ("unrecognized option \x27--" ++ text ++ "\x27")
  | (full, letter) :: others =>
    if others.any fun entry => entry.2 != letter then
      let all := ((full, letter) :: others).map fun entry => " \x27--" ++ entry.1 ++ "\x27"
      .error ("option \x27--" ++ text ++ "\x27 is ambiguous; possibilities:" ++ String.join all)
    else
      match (needIn grammar.letters.toList letter).getD .never, value with
      | .never, some _ => .error ("option \x27--" ++ full ++ "\x27 doesn\x27t allow an argument")
      | .always, none => .ok (letter, none, true)
      | _, value => .ok (letter, value, false)

private def read (grammar : Grammar) : Nat → List Char → List String → Except String Reading
  | 0, _, words => .ok { operands := words }
  | _, [], [] => .ok {}
  | fuel + 1, [], word :: rest =>
    match word.toList with
    | ['-', '-'] => .ok { operands := rest }
    | '-' :: '-' :: text => do
      let (letter, value, needs) ← readLong grammar (String.ofList text)
      if needs then
        match rest with
        | argument :: rest =>
          return (← read grammar fuel [] rest).with (letter, some argument)
        | [] => throw ("option \x27" ++ word ++ "\x27 requires an argument")
      else return (← read grammar fuel [] rest).with (letter, value)
    | '-' :: c :: letters => read grammar fuel (c :: letters) rest
    | _ =>
      if grammar.isMixed then do
        let reading ← read grammar fuel [] rest
        return { reading with operands := word :: reading.operands }
      else .ok { operands := word :: rest }
  | fuel + 1, letter :: more, rest => do
    let attached := if more.isEmpty then none else some (String.ofList more)
    match needIn grammar.letters.toList letter with
    | none => throw ("invalid option -- \x27" ++ String.singleton letter ++ "\x27")
    | some .never => return (← read grammar fuel more rest).with (letter, none)
    | some .maybe => return (← read grammar fuel [] rest).with (letter, attached)
    | some .always =>
      match attached, rest with
      | some argument, rest => return (← read grammar fuel [] rest).with (letter, some argument)
      | none, argument :: rest => return (← read grammar fuel [] rest).with (letter, some argument)
      | none, [] => throw ("option requires an argument -- \x27" ++ String.singleton letter ++ "\x27")

private def size (words : List String) : Nat :=
  words.foldl (fun size word => size + word.length + 1) 1

/-- The options among the words of a tool, and the other words; nothing if one of them is
wrong, which has been said. -/
def takeOptions? (name : String) (grammar : Grammar) (words : List String) :
    Act (Option (List Choice × List String)) := do
  match read grammar (size words) [] words with
  | .ok reading => return some (reading.choices, reading.operands)
  | .error fault =>
    misused name fault
    return none

def has (choices : List Choice) (letter : Char) : Bool :=
  choices.any fun choice => choice.1 == letter

/-- The last of these letters that was chosen. -/
def lastOf (choices : List Choice) (letters : List Char) : Option Char :=
  (choices.reverse.find? fun choice => letters.contains choice.1).map Prod.fst

/-- The argument of an option. -/
def argument? (choices : List Choice) (letter : Char) : Option String :=
  (choices.reverse.find? fun choice => choice.1 == letter).bind Prod.snd

end Provision.Shell.Tool
