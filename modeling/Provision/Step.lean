import Provision.Text.Word

/-! The operations a recipe can ask for. Only `pop` is carried out by the engine
itself; every other operation is the business of a handler. -/

namespace Provision

inductive Operation where
  | pop | download | upload | set | command | async | dmg | pkg | unzip | dmgEula
  | apkUninstall | apkInstall | apkInstallSystem | copy | move | adb | toFile | fromFile
  | reboot | rebootNow | wait | afterInstall | equals | iosInstall | installCert | moveFf
  deriving DecidableEq, Repr

namespace Operation

/-- Every operation once, in the order in which listings show them. -/
def all : List Operation :=
  [pop, download, upload, set, command, async, dmg, pkg, unzip, dmgEula,
    apkUninstall, apkInstall, apkInstallSystem, copy, move, adb, toFile, fromFile,
    reboot, rebootNow, wait, afterInstall, equals, iosInstall, installCert, moveFf]

/-- The word a recipe document uses. -/
def keyword : Operation → String
  | pop => "POP"
  | download => "DOWNLOAD"
  | upload => "UPLOAD"
  | set => "SET"
  | command => "COMMAND"
  | async => "ASYNC"
  | dmg => "DMG"
  | pkg => "PKG"
  | unzip => "UNZIP"
  | dmgEula => "DMG_EULA"
  | apkUninstall => "APK_UNINSTALL"
  | apkInstall => "APK_INSTALL"
  | apkInstallSystem => "APK_INSTALL_SYSTEM"
  | copy => "COPY"
  | move => "MOVE"
  | adb => "ADB"
  | toFile => "TO_FILE"
  | fromFile => "FROM_FILE"
  | reboot => "REBOOT"
  | rebootNow => "REBOOT_NOW"
  | wait => "WAIT"
  | afterInstall => "AFTER_INSTALL"
  | equals => "EQUALS"
  | iosInstall => "IOS_INSTALL"
  | installCert => "INSTALL_CERT"
  | moveFf => "MOVE_FF"

/-- The operation with exactly this keyword. -/
def ofKeyword? (word : String) : Option Operation :=
  all.find? fun operation => operation.keyword == word

/-- Keywords typed by a person: surrounding blanks and letter case do not count. -/
def parse? (text : String) : Option Operation :=
  ofKeyword? (Text.asciiUpper (Text.trim text))

/-- The same, with the reason why a word is refused. -/
def parse (text : String) : Except Text.UnknownWord Operation :=
  Text.known "operation" parse? text

def isPop (operation : Operation) : Bool := operation == pop

/-- The words of a keyword run together, each with a capital: `MoveFf` for
`MOVE_FF`. -/
def title (operation : Operation) : String :=
  String.ofList (((operation.keyword.toList.splitOn '_').map fun word =>
    word.take 1 ++ (word.drop 1).map Char.toLower).flatten)

theorem mem_all (operation : Operation) : operation ∈ all := by
  cases operation <;> decide

theorem ofKeyword?_keyword (operation : Operation) :
    ofKeyword? operation.keyword = some operation := by
  cases operation <;> decide

end Operation

end Provision

/-! One step of a recipe: an operation and its parameter, which may still
contain placeholders. -/

namespace Provision

structure Step where
  operation : Operation
  parameter : String := ""
  deriving DecidableEq, Repr

namespace Step

/-- The step that closes the innermost open level. -/
def pop : Step := ⟨.pop, ""⟩

/-- POPs may carry a parameter; it is never looked at. -/
def isPop (step : Step) : Bool := step.operation.isPop

theorem isPop_pop : pop.isPop = true := rfl

/-- `OP(parameter)`, or the bare keyword when there is no parameter. -/
def render (step : Step) : String :=
  if step.parameter.isEmpty then step.operation.keyword
  else step.operation.keyword ++ "(" ++ step.parameter ++ ")"

/-- Steps that open a level less the POPs. -/
def balance (steps : List Step) : Int :=
  steps.foldr (fun step total => (if step.isPop then -1 else 1) + total) 0

/-- Append the POPs that the total of openers and closers asks for. -/
def close (steps : List Step) : List Step :=
  steps ++ List.replicate (balance steps).toNat pop

theorem balance_append (first second : List Step) :
    balance (first ++ second) = balance first + balance second := by
  induction first with
  | nil => simp [balance]
  | cons step rest ih =>
    simp only [balance, List.cons_append, List.foldr_cons] at ih ⊢
    rw [ih, Int.add_assoc]

end Step

/-! Building a list of steps call by call. -/

namespace Builder

inductive Call where
  | add (operation : Operation) (parameter : String)
  | pop
  | command (text : String)
  | moveTo (target : String)
  | toFile (content : String)
  deriving DecidableEq, Repr

/-- Every call adds one step. -/
def Call.step : Call → Step
  | add operation parameter => ⟨operation, parameter⟩
  | pop => .pop
  | command text => ⟨.command, text⟩
  | moveTo target => ⟨.move, target⟩
  | toFile content => ⟨.toFile, content⟩

/-- The steps that were added. -/
def steps (calls : List Call) : List Step := calls.map Call.step

/-- The steps that were added, and the POPs for what is open behind them. -/
def build (calls : List Call) : List Step := Step.close (steps calls)

/-- The calls that add steps as they are. -/
def resume (added : List Step) : List Call := added.map fun step => .add step.operation step.parameter

theorem steps_resume (added : List Step) : steps (resume added) = added := by
  rw [steps, resume, List.map_map]
  exact List.map_id added

end Builder

end Provision
