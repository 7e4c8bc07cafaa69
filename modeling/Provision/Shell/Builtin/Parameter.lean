import Provision.Shell.Builtin.Declaration

/-! Removing variables, changing the arguments and the options of the shell, and going
through the options of a script. -/

namespace Provision.Shell.Builtin

/-! ## Removing -/

private def removeElement (name index : String) : Act Bool := do
  let shell ← get
  let resolved := shell.resolve name
  match shell.variableOf? resolved with
  | none => return true
  | some found =>
    if found.isReadonly then
      complain ("unset: " ++ name ++ ": cannot unset: readonly variable")
      return false
    if (index == "@" || index == "*") && !(found.value matches .table _) then
      set (shell.removeVariable resolved)
      return true
    match found.value with
    | .plain _ =>
      if index == "0" then
        set (shell.removeVariable resolved)
        return true
      complain ("unset: " ++ name ++ ": not an array variable")
      return false
    | value =>
      match ← (Arithmetic.index resolved index).run with
      | .ok place =>
        modify (Shell.putVariable resolved { found with value := value.removeElement place })
        return true
      | .error (.fatal _) =>
        complain ("unset: [" ++ index ++ "]: bad array subscript")
        return false
      | .error fault =>
        reportFault "" fault
        return false

private def removeVariable (name : String) (isReference : Bool) : Act Bool := do
  let shell ← get
  let name := if isReference then name else shell.resolve name
  match shell.scopes.findSome? fun scope => scope.find? name with
  | some found =>
    if found.isReadonly then
      complain ("unset: " ++ name ++ ": cannot unset: readonly variable")
      return false
    set (shell.removeVariable name)
    return true
  | none => return true

private def removeFunction (name : String) : Act Unit :=
  modify fun shell =>
    { shell with functions := shell.functions.filter fun entry => entry.1 != name }

private def unsetEach (choices : List Choice) : List String → (status : Nat) → Act Nat
  | [], status => return status
  | word :: rest, status => do
    let shell ← get
    if has choices 'f' then
      removeFunction word
      unsetEach choices rest status
    else
      match splitIndex word with
      | (name, some index) =>
        unsetEach choices rest (if ← removeElement name index then status else 1)
      | (name, none) =>
        if !isName name then
          if has choices 'v' then
            refuseName "unset" name
            unsetEach choices rest 1
          else
            removeFunction name
            unsetEach choices rest status
        else
          let known := (shell.scopes.findSome? fun scope => scope.find? name).isSome
          if known || has choices 'v' then
            unsetEach choices rest (if ← removeVariable name (has choices 'n') then status else 1)
          else
            removeFunction name
            unsetEach choices rest status

def unset (words : List String) : Act Nat := do
  let some (choices, names) ← takeOptions? "unset" "[-f] [-v] [-n] [name ...]" "fvn" words
    | return 2
  unsetEach choices names 0

/-! ## Options -/

private def padTo (width : Nat) (text : String) : String :=
  text ++ String.ofList (List.replicate (width - text.length) ' ')

/-- A name with whether it is switched on. -/
def switchLine (width : Nat) (name : String) (on : Bool) : String :=
  padTo width name ++ "\t" ++ (if on then "on" else "off") ++ "\n"

private def showOptions : Act Nat := do
  let shell ← get
  print "set" (String.join (optionNames.map fun name => switchLine 15 name (shell.has name)))

private def showOptionCommands : Act Nat := do
  let shell ← get
  print "set" (String.join (optionNames.map fun name =>
    "set " ++ (if shell.has name then "-o " else "+o ") ++ name ++ "\n"))

private def setUsage : String := "[-abefhkmnptuvxBCEHPT] [-o option-name] [--] [-] [arg ...]"

private def optionOfLetter? (letter : Char) : Option String :=
  (optionLetters.find? fun entry => entry.1 == letter).map Prod.snd

private def switchLetters (on : Bool) : List Char → Act (Option Nat)
  | [] => return none
  | letter :: rest => do
    match optionOfLetter? letter with
    | some name =>
      modify (Shell.setOption name on)
      switchLetters on rest
    | none =>
      complain ("set: -" ++ String.singleton letter ++ ": invalid option")
      showUsage "set" setUsage
      return some 2

private def setArguments (words : List String) : Act Nat := do
  modify fun shell => { shell with arguments := words, hasNewArguments := true }
  return 0

private def setEach : Nat → List String → Act Nat
  | 0, _ => return 0
  | _, [] => return 0
  | fuel + 1, word :: rest => do
    match word.toList with
    | ['-', '-'] => setArguments rest
    | ['-'] =>
      modify fun shell => (shell.setOption "xtrace" false).setOption "verbose" false
      if rest.isEmpty then return 0 else setArguments rest
    | mark :: letter :: letters =>
      if mark != '-' && mark != '+' then setArguments (word :: rest)
      else
        let on := mark == '-'
        let plain := (letter :: letters).filter (· != 'o')
        if let some status ← switchLetters on plain then return status
        if (letter :: letters).contains 'o' then
          match rest with
          | [] => if on then showOptions else showOptionCommands
          | name :: rest =>
            if name.front == '-' || name.front == '+' then
              let _ ← if on then showOptions else showOptionCommands
              setEach fuel (name :: rest)
            else if optionNames.contains name then
              modify (Shell.setOption name on)
              setEach fuel rest
            else fail 2 ("set: " ++ name ++ ": invalid option name")
        else setEach fuel rest
    | _ => setArguments (word :: rest)

/-- The letter that no option has, if the words hold one. The first word is passed over if
it is the name of an option. -/
private def strangeLetter? : (isName : Bool) → List String → Option Char
  | _, [] => none
  | true, _ :: rest => strangeLetter? false rest
  | false, word :: rest =>
    match word.toList with
    | ['-', '-'] => none
    | mark :: letters =>
      if (mark == '-' || mark == '+') && !letters.isEmpty then
        match letters.find? fun c => c != 'o' && (optionOfLetter? c).isNone with
        | some letter => some letter
        | none => strangeLetter? (letters.contains 'o') rest
      else none
    | [] => none

def set_ (words : List String) : Act Nat := do
  if words.isEmpty then return ← showVariables
  match strangeLetter? false words with
  | some letter =>
    complain ("set: -" ++ String.singleton letter ++ ": invalid option")
    showUsage "set" setUsage
    return 2
  | none => setEach (words.length + 1) words

private def shoptUsage : String := "[-pqsu] [-o] [optname ...]"

private structure Switches where
  names : List String
  isOn : String → Shell → Bool
  switch : String → Bool → Shell → Shell

private def switchesOf (ofOptions : Bool) : Switches :=
  if ofOptions then ⟨optionNames, Shell.has, Shell.setOption⟩
  else ⟨featureNames, Shell.can, Shell.setFeature⟩

private def showSwitches (switches : Switches) (ofOptions asCommands : Bool) (names : List String) :
    Act Unit := do
  let shell ← get
  for name in names do
    let on := switches.isOn name shell
    let command := if ofOptions then (if on then "set -o " else "set +o ")
      else (if on then "shopt -s " else "shopt -u ")
    let _ ← print "shopt"
      (if asCommands then command ++ name ++ "\n" else switchLine 15 name on)

private def switchEach (switches : Switches) (ofOptions on : Bool) : List String → (status : Nat) → Act Nat
  | [], status => return status
  | name :: rest, status => do
    if switches.names.contains name then
      modify (switches.switch name on)
      switchEach switches ofOptions on rest status
    else
      complain ("shopt: " ++ name ++
        (if ofOptions then ": invalid option name" else ": invalid shell option name"))
      switchEach switches ofOptions on rest 1

def shopt (words : List String) : Act Nat := do
  let some (choices, names) ← takeOptions? "shopt" shoptUsage "pqsuo" words | return 2
  let ofOptions := has choices 'o'
  let switches := switchesOf ofOptions
  if has choices 's' && has choices 'u' then
    return ← fail 1 "shopt: cannot set and unset shell options simultaneously"
  let shell ← get
  if has choices 's' || has choices 'u' then
    let on := has choices 's'
    if names.isEmpty then
      showSwitches switches ofOptions (has choices 'p')
        (switches.names.filter fun name => switches.isOn name shell == on)
      return 0
    switchEach switches ofOptions on names 0
  else
    let wanted := if names.isEmpty then switches.names else names
    let mut status := 0
    for name in wanted do
      if switches.names.contains name then
        if !has choices 'q' then showSwitches switches ofOptions (has choices 'p') [name]
        if !names.isEmpty && !switches.isOn name shell then status := 1
      else
        complain ("shopt: " ++ name ++
          (if ofOptions then ": invalid option name" else ": invalid shell option name"))
        status := 1
    return status

/-! ## Arguments -/

def shift (words : List String) : Act Nat := do
  let shell ← get
  match words with
  | [] =>
    if shell.arguments.isEmpty then return 1
    set { shell with arguments := shell.arguments.tail }
    return 0
  | word :: rest =>
    match integer? word with
    | none => fail 1 ("shift: " ++ word ++ ": numeric argument required")
    | some count =>
      if !rest.isEmpty then
        abandon "shift: too many arguments"
        return 1
      if count < 0 then
        return ← fail 1 ("shift: " ++ toString count ++ ": shift count out of range")
      if (shell.arguments.length : Int) < count then
        if shell.can "shift_verbose" then
          return ← fail 1 ("shift: " ++ toString count ++ ": shift count out of range")
        return 1
      set { shell with arguments := shell.arguments.drop count.toNat }
      return 0

/-- What is found next among the options. -/
private inductive Step where
  | finished (place : Nat)
  | option (letter : Char) (argument : Option String) (place within : Nat)
  | strange (letter : Char) (place within : Nat)
  | lacking (letter : Char) (place : Nat)

private def afterLetter (word : String) (place within : Nat) : Nat × Nat :=
  if within + 1 < word.length then (place, within + 1) else (place + 1, 0)

private def optionIn (specification : List Char) (letter : Char) : Option Bool :=
  match specification with
  | [] => none
  | c :: rest =>
    if c == letter && c != ':' then some (rest.head? == some ':') else optionIn rest letter

private def nextStep (specification : List Char) (words : List String) (place within : Nat) : Step :=
  match words[place - 1]? with
  | none => .finished place
  | some word =>
    let chars := word.toList
    if within == 0 && word == "--" then .finished (place + 1)
    else if within == 0 && (chars.head? != some '-' || chars.length < 2) then .finished place
    else
      let within := max within 1
      match chars[within]? with
      | none => .finished place
      | some letter =>
        match optionIn specification letter with
        | none =>
          let (place, within) := afterLetter word place within
          .strange letter place within
        | some false =>
          let (place, within) := afterLetter word place within
          .option letter none place within
        | some true =>
          let rest := chars.drop (within + 1)
          if !rest.isEmpty then .option letter (some (String.ofList rest)) (place + 1) 0
          else
            match words[place]? with
            | some argument => .option letter (some argument) (place + 2) 0
            | none => .lacking letter (place + 1)

private def tellOption (name found : String) (argument : Option String) (place within : Nat) :
    Act Nat := do
  let _ ← assignText "OPTIND" none (toString place)
  modify fun shell => { shell with optionPlace := within }
  match argument with
  | some text => let _ ← assignText "OPTARG" none text
  | none => modify (Shell.removeVariable "OPTARG")
  return if ← assignText name none found then 0 else 1

def getopts (words : List String) : Act Nat := do
  match words with
  | specification :: name :: rest =>
    if !isName name then
      refuseName "getopts" name
      return 1
    let shell ← get
    let words := if rest.isEmpty then shell.arguments else rest
    let silent := specification.front == ':'
    let quiet := silent || shell.textOf "OPTERR" == "0"
    let place := (((shell.text? "OPTIND").bind integer?).getD 1).toNat
    let place := max place 1
    match nextStep specification.toList words place shell.optionPlace with
    | .finished place =>
      let _ ← tellOption name "?" none place 0
      return 1
    | .option letter argument place within =>
      tellOption name (String.singleton letter) argument place within
    | .strange letter place within =>
      if !quiet then
        let _ ← write 2 (shell.name ++ ": illegal option -- " ++ String.singleton letter ++ "\n")
      tellOption name "?" (if silent then some (String.singleton letter) else none) place within
    | .lacking letter place =>
      if !quiet then
        let _ ← write 2
          (shell.name ++ ": option requires an argument -- " ++ String.singleton letter ++ "\n")
      if silent then tellOption name ":" (some (String.singleton letter)) place 0
      else tellOption name "?" none place 0
  | _ =>
    showUsage "getopts" "optstring name [arg ...]"
    return 2

/-! ## Expressions -/

private def letEach : List String → (last : Int) → Act Nat
  | [], last => return if last == 0 then 1 else 0
  | word :: rest, _ => do
    match ← (Arithmetic.value word).run with
    | .ok value => letEach rest value
    | .error fault =>
      reportFault "let: " fault
      return 1

def let_ (words : List String) : Act Nat := do
  if words.isEmpty then fail 1 "let: expression expected" else letEach words 0

end Provision.Shell.Builtin
