import Provision.Shell.Host
import Provision.Shell.State

/-! Finding out what a program is. -/

namespace Provision.Shell

/-- What carries out a program. -/
inductive Executor where
  /-- The shell itself; plain, if it goes by the name `sh`. -/
  | shell (isPlain : Bool)
  /-- A program that every system has. -/
  | tool (name : String)
  deriving DecidableEq, Repr

/-- A program as it is started. -/
structure Invocation where
  executor : Executor
  /-- Where the program is. -/
  path : String
  /-- The name by which it is called. -/
  name : String
  words : List String
  deriving Repr

private def shellLocations : List Location := [["bin", "bash"], ["usr", "bin", "bash"]]

private def isShell (disk : Disk) (path : String) : Bool :=
  match disk.lookup true path with
  | .ok (at_, .file ..) => shellLocations.contains at_
  | _ => false

private def executorNamed (name : String) : Executor :=
  match name with
  | "bash" => .shell false
  | "sh" => .shell true
  | name => .tool name

/-- The executor that the file at a path is, if it is one. -/
private def executorAt? (disk : Disk) (path : String) : Option Executor :=
  match Host.program? path with
  | some name => some (executorNamed name)
  | none =>
    if isShell disk path then some (.shell false)
    else
      match disk.lookup false path with
      | .ok (_, .link target) => (Host.program? target).map executorNamed
      | _ => none

/-- The interpreter that the first line of a script asks for, with what stands behind
it. -/
private def interpreterOf (line : List Char) : String × Option String :=
  let isBlank (c : Char) : Bool := c == ' ' || c == '\t'
  let line := ((line.dropWhile isBlank).reverse.dropWhile isBlank).reverse
  let path := line.takeWhile fun c => !isBlank c
  let rest := (line.drop path.length).dropWhile isBlank
  (String.ofList path, if rest.isEmpty then none else some (String.ofList rest))

/-- How many interpreters can stand in for one another. -/
private def maxInterpreters : Nat := 5

private def invokeWithin (disk : Disk) :
    Nat → (path name : String) → List String → Except IoError Invocation
  | 0, _, _, _ => .error .linkLoop
  | fuel + 1, path, name, words =>
    match executorAt? disk path with
    | some executor => .ok ⟨executor, Text.widen path, name, words⟩
    | none =>
      match disk.lookup true path with
      | .error error => .error error
      | .ok (_, .file _ bytes true) =>
        match (Text.ofOctets (bytes.takeWhile (· != 10))).toList with
        | '#' :: '!' :: line =>
          let (interpreter, option) := interpreterOf line
          if interpreter.isEmpty then .error .execFormat
          else
            let words := option.toList ++ Text.widen path :: words
            invokeWithin disk fuel (Text.narrow interpreter) interpreter words
        | _ => .error .execFormat
      | .ok _ => .error .permissionDenied

/-- What is started when the file at a path is executed under a name. -/
def invoke (disk : Disk) (path name : String) (words : List String) :
    Except IoError Invocation :=
  invokeWithin disk maxInterpreters path name words

private def isExecutableFile (disk : Disk) (path : String) : Bool :=
  (executorAt? disk path).isSome ||
    match disk.lookup true path with
    | .ok (_, .file _ _ executable) => executable
    | _ => false

/-- The paths under which a name could be found along a search path. -/
private def candidates (searchPath name : String) : List String :=
  (searchPath.splitOn ":").map fun directory =>
    if directory.isEmpty then "./" ++ name
    else if directory.toList.getLast? == some '/' then directory ++ name
    else directory ++ "/" ++ name

/-- Whether a search path leads to anything of a name. -/
def isAnything (disk : Disk) (searchPath name : String) : Bool :=
  !name.isEmpty && (candidates searchPath name).any disk.contains

/-- The paths of all programs of a name along a search path. -/
def programPaths (disk : Disk) (searchPath name : String) : List String :=
  if name.isEmpty || name.toList.contains '/' then []
  else (candidates searchPath name).filter (isExecutableFile disk)

/-- The path of a program: a name without a slash is looked for in the directories of the
search path. -/
def findProgram (disk : Disk) (searchPath name : String) : Except IoError String :=
  if name.isEmpty then .error .notFound
  else if name.toList.contains '/' then .ok name
  else
    match (programPaths disk searchPath name).head? with
    | some path => .ok path
    | none =>
      let isThere := (candidates searchPath name).any fun path =>
        match disk.lookup true path with
        | .ok (_, .file ..) => true
        | _ => false
      .error (if isThere then .permissionDenied else .notFound)

end Provision.Shell
