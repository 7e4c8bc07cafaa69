import Provision.Shell.Builtin.Control
import Provision.Shell.Builtin.Declaration
import Provision.Shell.Builtin.Input
import Provision.Shell.Builtin.Names
import Provision.Shell.Builtin.Options
import Provision.Shell.Builtin.Parameter
import Provision.Shell.Builtin.Place
import Provision.Shell.Condition

/-! The commands that the shell carries out itself, by name. -/

namespace Provision.Shell.Builtin

/-- Decide a condition on behalf of the named command. -/
private def test (name : String) (closing : Option String) (words : List String) : Act Nat := do
  match ← (Condition.decide closing words).run with
  | .ok true => return 0
  | .ok false => return 1
  | .error fault => fail 2 (name ++ ": " ++ fault)

private def bracket (words : List String) : Act Nat :=
  if words.getLast? == some "]" then test "[" (some "]") words.dropLast
  else fail 2 "[: missing \x60]\x27"

private def refused (text : String) (_ : List String) : Act Nat := fail 1 text

private def table : List (String × (List String → Act Nat)) :=
  [(":", fun _ => return 0), ("true", fun _ => return 0), ("false", fun _ => return 1),
    ("[", bracket), ("alias", alias_), ("bg", refused "bg: no job control"),
    ("break", leave "break" .leaveLoops), ("caller", caller), ("cd", changeDirectory),
    ("continue", leave "continue" .nextRound), ("dirs", listDirectories),
    ("disown", refused "disown: current: no such job"), ("echo", echo), ("enable", enable),
    ("exit", exit), ("fg", refused "fg: no job control"), ("getopts", getopts), ("hash", hash),
    ("history", fun _ => return 0), ("jobs", fun _ => return 0), ("kill", kill), ("let", let_),
    ("logout", refused "logout: not login shell: use \x60exit\x27"), ("mapfile", mapfile),
    ("popd", popDirectory), ("printf", printf), ("pushd", pushDirectory),
    ("pwd", workingDirectory), ("read", read), ("readarray", mapfile), ("return", return_),
    ("set", set_), ("shift", shift), ("shopt", shopt),
    ("suspend", refused "suspend: cannot suspend: no job control"), ("test", test "test" none),
    ("trap", trap), ("type", type_), ("umask", umask), ("unalias", unalias), ("unset", unset),
    ("wait", wait)]

/-- The command of a name, if the shell carries it out itself. -/
def find? (name : String) : Option (List String → Act Nat) :=
  (table.find? fun entry => entry.1 == name).map Prod.snd

end Provision.Shell.Builtin
