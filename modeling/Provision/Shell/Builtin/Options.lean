import Provision.Shell.State
import Provision.Shell.Store

/-! Options of the commands that the shell carries out itself. -/

namespace Provision.Shell.Builtin

/-- An option with the argument that belongs to it, if it takes one. -/
abbrev Choice := Char × Option String

/-- Say how a command is to be used. -/
def showUsage (name usage : String) : Act Unit := do
  let _ ← write 2 (name ++ ": usage: " ++ name ++ (if usage.isEmpty then "" else " " ++ usage) ++ "\n")

/-- Say what is wrong with an option and how the command is to be used. -/
private def refuseOption (name usage : String) (letter : Char) (fault : String) : Act Unit := do
  complain (name ++ ": -" ++ String.singleton letter ++ ": " ++ fault)
  showUsage name usage

private inductive Reading where
  | done (choices : List Choice) (rest : List String)
  | bad (letter : Char) (fault : String)

private def letterKind (letters : List Char) (letter : Char) : Option Bool :=
  match letters with
  | [] => none
  | c :: ':' :: rest => if c == letter then some true else letterKind rest letter
  | c :: rest => if c == letter then some false else letterKind rest letter

private def readOptions (letters : List Char) : Nat → List Char → List String → Reading
  | 0, _, words => .done [] words
  | fuel + 1, [], word :: rest =>
    match word.toList with
    | ['-', '-'] => .done [] rest
    | '-' :: c :: more => readOptions letters fuel (c :: more) rest
    | _ => .done [] (word :: rest)
  | _, [], [] => .done [] []
  | fuel + 1, letter :: more, rest =>
    let with_ (choice : Choice) : Reading → Reading
      | .done choices rest => .done (choice :: choices) rest
      | bad => bad
    match letterKind letters letter with
    | none => .bad letter "invalid option"
    | some false => with_ (letter, none) (readOptions letters fuel more rest)
    | some true =>
      match more, rest with
      | [], [] => .bad letter "option requires an argument"
      | [], argument :: rest => with_ (letter, some argument) (readOptions letters fuel [] rest)
      | more, rest => with_ (letter, some (String.ofList more)) (readOptions letters fuel [] rest)

private def size (words : List String) : Nat :=
  words.foldl (fun size word => size + word.length + 1) 1

/-- The options in front of the words, and the words behind them; nothing if one of them is
wrong, which has been said. A colon follows the letters that take an argument. -/
def takeOptions? (name usage letters : String) (words : List String) :
    Act (Option (List Choice × List String)) := do
  match readOptions letters.toList (size words) [] words with
  | .done choices rest => return some (choices, rest)
  | .bad letter fault =>
    refuseOption name usage letter fault
    return none

def has (choices : List Choice) (letter : Char) : Bool :=
  choices.any fun choice => choice.1 == letter

/-- The argument of an option. -/
def argument? (choices : List Choice) (letter : Char) : Option String :=
  (choices.reverse.find? fun choice => choice.1 == letter).bind Prod.snd

/-- Print on the second port. -/
def print (name text : String) : Act Nat := do
  if text.isEmpty then return 0
  if ← write 1 text then return 0
  else fail 1 (name ++ ": write error: Bad file descriptor")

/-- A word that is no name where one is wanted. -/
def refuseName (name word : String) : Act Unit :=
  complain (name ++ ": \x60" ++ word ++ "\x27: not a valid identifier")

end Provision.Shell.Builtin

/-! Printing. -/

namespace Provision.Shell.Builtin

private def isEchoOption (word : String) : Bool :=
  match word.toList with
  | '-' :: letters => !letters.isEmpty && letters.all fun c => "neE".toList.contains c
  | _ => false

def echo (words : List String) : Act Nat := do
  let letters := (words.takeWhile isEchoOption).flatMap String.toList
  let text := String.intercalate " " (words.dropWhile isEchoOption)
  let usual := (← get).can "xpg_echo"
  let chosen := letters.reverse.find? fun c => c == 'e' || c == 'E'
  let escapes := (chosen.map (· == 'e')).getD usual
  let (text, whole) := if escapes then unescape .printed text else (text, true)
  print "echo" (if letters.contains 'n' || !whole then text else text ++ "\n")

def printf (words : List String) : Act Nat := do
  let usage := "[-v var] format [arguments]"
  let some (choices, words) ← takeOptions? "printf" usage "v:" words | return 2
  let target := argument? choices 'v'
  if let some name := target then
    if !isName (splitIndex name).1 then
      refuseName "printf" name
      return 2
  match words with
  | [] =>
    showUsage "printf" usage
    return 2
  | format :: arguments =>
    let (text, faults, failed) := (Format.ofText .shell format).print .shell arguments
    for fault in faults do complain ("printf: " ++ fault)
    let status ← match target with
      | some name =>
        let (name, index) := splitIndex name
        pure (if ← assignText name index text then 0 else 1)
      | none => print "printf" text
    return if failed then 1 else status

end Provision.Shell.Builtin
