import Provision.Shell.Braces
import Provision.Shell.Executable
import Provision.Shell.Grammar
import Provision.Shell.Paths
import Provision.Shell.Splitting
import Provision.Shell.Store

/-! What words stand for: variables and the output of inserted scripts are put in their
place, the result is split into fields, and patterns become the paths they match. -/

namespace Provision.Shell

/-- What can be run while something else is being run. -/
inductive Job where
  | command (command : Command)
  /-- A text that begins on this line. -/
  | script (text : String) (line : Nat)
  /-- Print the file that a word names. -/
  | contents (word : Word) (line : Nat)
  /-- Carry on as a program. -/
  | program (invocation : Invocation)

abbrev Runner := Job → Act Unit

/-- Run what was kept for the end of the shell. It does not change how the shell ends,
unless it ends the shell itself. -/
def runOnExit (run : Runner) : Act Unit := do
  let shell ← get
  match lookup? shell.traps "EXIT", shell.halt with
  | none, _ => pure ()
  | some _, some (.killed _) => pure ()
  | some text, _ =>
    let traps := shell.traps.filter fun entry => entry.1 != "EXIT"
    let depth := shell.depth + 1
    set { shell with traps, depth, halt := none, line := 1, scriptMark := "exit trap" }
    run (.script text 1)
    modify fun after =>
      if after.halt.isSome then after else { after with status := shell.status }

/-- Work in a copy of the shell. What is done to the disk and the channels stays done, and
the status is that of the copy. -/
def inSubshell (run : Runner) (work : Act Unit) : Act Unit := fun shell =>
  let traps := shell.traps.filter fun entry =>
    entry.2.isEmpty || (entry.1 == "ERR" && shell.has "errtrace")
  let level := shell.level + 1
  let (_, child) := (do work; runOnExit run) { shell with traps, level }
  let halt :=
    match child.halt with
    | some (.killed signal) => some (.killed signal)
    | _ => shell.halt
  let disk := { child.disk with cwd := shell.disk.cwd }
  let channels := child.channels
  let status := child.status
  ((), { shell with disk, channels, status, halt })

/-! ## The output of scripts -/

/-- The file that a script does nothing with but to read it. -/
private def readAlone? (script : String) : Option Word :=
  if (script.toList.dropWhile fun c => c == ' ' || c == '\t' || c == '\n').head? == some '<' then
    match Parser.commands { rest := (script.trimAscii.toString).toList, line := 1 } with
    | .ok ([.simple _ [] [] [⟨0, .read word, _⟩]], _) => some word
    | _ => none
  else none

private def withoutLineEnds (bytes : Bytes) : String :=
  let octets := (Text.ofOctets (bytes.filter (· != 0))).toList
  String.ofList (octets.reverse.dropWhile (· == '\n')).reverse

/-- What a script prints, without the line ends at its end. -/
private def outputOf (run : Runner) (script : String) (line : Nat) : Act String := do
  let before ← get
  let channel := before.channels.size
  let child := before.openPort 1 (.buffer [])
  set { (if before.can "inherit_errexit" then child else child.setOption "errexit" false) with
    depth := before.depth + 1
    scriptMark := "command substitution" }
  let job :=
    match readAlone? script with
    | some word => Job.contents word line
    | none => .script script line
  inSubshell run (run job)
  let after ← get
  let bytes := after.written channel
  let substituted := some after.status
  let depth := before.depth
  let scriptMark := before.scriptMark
  set { after with
    ports := before.ports, options := before.options, depth, scriptMark, substituted }
  if bytes.contains 0 then
    complain "warning: command substitution: ignored null byte in input"
  return withoutLineEnds bytes

/-- The lowest port that process channels are put behind, and the highest. -/
private def lowestChannelPort : Nat := 10

private def highestChannelPort : Nat := 63

private def freePort (shell : Shell) : Nat :=
  let ports := (List.range (highestChannelPort + 1 - lowestChannelPort)).map
    (highestChannelPort - ·)
  (ports.find? fun port => (shell.channelAt? port).isNone).getD highestChannelPort

/-- A path that leads to the output or the input of a script. -/
private def channelPath (run : Runner) (isRead : Bool) (script : String) (line : Nat) :
    Act String := do
  let before ← get
  let port := freePort before
  let index := before.channels.size
  if isRead then
    set (before.openPort 1 (.buffer []))
    inSubshell run (run (.script script line))
    let after ← get
    let bytes := after.written index
    set ({ after with ports := before.ports, status := before.status }.openPort port
      (.reader bytes 0))
  else
    let outlets := (index, script, line) :: before.outlets
    set ({ before with outlets }.openPort port (.buffer []))
  return "/dev/fd/" ++ toString port

/-! ## Variables -/

/-- What a reference finds: one text, or several. -/
private inductive Found where
  | one (text : Option String)
  | many (texts : List String) (isJoined : Bool)

/-- The variable that a reference means, or part of it. -/
private structure Meaning where
  name : String
  selection : Selection
  index : String

private def Meaning.shown (target : Meaning) : String :=
  if target.selection == .element then target.name ++ "[" ++ target.index ++ "]"
  else if target.name.front.isDigit || "!@*#?$-".toList.contains target.name.front then
    "$" ++ target.name
  else target.name

/-- The value of an expression that is part of an expansion. -/
private def numberIn (text : String) : Act Int := return (← evaluate? "" text).getD 0

private def readElement (name index : String) : Act (Option String) := do
  let shell ← get
  let value := ((shell.variableOf? name).map (·.value)).getD .unset
  match value with
  | .table _ => return value.element? (.key index)
  | value =>
    let place ← numberIn index
    if ← isHalted then return none
    match Arithmetic.placeOf? value place with
    | some place => return value.element? (.number place)
    | none =>
      complain (name ++ ": bad array subscript")
      return none

private def find (target : Meaning) : Act Found := do
  let shell ← get
  match target.name with
  | "@" => return .many shell.arguments false
  | "*" => return .many shell.arguments true
  | name =>
    let elements := (((shell.value? name).map Value.elements).getD []).map Prod.snd
    match target.selection with
    | .each => return .many elements false
    | .joined => return .many elements true
    | .element => return .one (← readElement name target.index)
    | .whole =>
      let resolved := shell.resolve name
      match splitIndex resolved with
      | (name, some index) => return .one (← readElement name index)
      | _ => return .one (shell.text? name)

/-- The variable that a text names. -/
private def named? (text : String) : Option Meaning :=
  let special := text.length == 1 && "@*#?$!-0".toList.contains text.front
  if special || isName text || (!text.isEmpty && text.toList.all Char.isDigit) then
    some ⟨text, .whole, ""⟩
  else
    match splitIndex text with
    | (name, some "@") => some ⟨name, .each, ""⟩
    | (name, some "*") => some ⟨name, .joined, ""⟩
    | (name, some index) => some ⟨name, .element, index⟩
    | _ => none

private def manyFragments (shell : Shell) (texts : List String) (isJoined isQuoted : Bool) :
    List Fragment :=
  if isJoined && isQuoted then [.solid (String.intercalate shell.joint texts)]
  else
    let joint := if isJoined then shell.joint else " "
    (texts.map (Fragment.ofText isQuoted)).intersperse (.boundary joint)

private def foundFragments (isQuoted : Bool) : Found → Act (List Fragment)
  | .one (some text) => return [Fragment.ofText isQuoted text]
  | .one none => return if isQuoted then [.solid ""] else []
  | .many texts isJoined => return manyFragments (← get) texts isJoined isQuoted

private def Found.isNothing (blankToo : Bool) : Found → Bool
  | .one none => true
  | .one (some text) => blankToo && text.isEmpty
  | .many [] _ => true
  | .many texts _ => blankToo && texts.all String.isEmpty && texts.length ≤ 1

private def Found.map (change : String → String) : Found → Found
  | .one text => .one (text.map change)
  | .many texts isJoined => .many (texts.map change) isJoined

/-- Refuse a variable without a value if the shell is to. -/
private def demandValue (target : Meaning) (found : Found) : Act Unit := do
  match found with
  | .one none =>
    if (← get).has "nounset" then reportFault "" (.unbound target.shown)
  | _ => pure ()

/-! ## Work on texts -/

private def longestMatch? (ignoreCase : Bool) (pattern : Pattern) (text : List Char) : Option Nat :=
  (pattern.fronts ignoreCase text).getLast?

private def removeFront (pattern : Pattern) (longest : Bool) (text : String) : String :=
  let fronts := pattern.fronts false text.toList
  match if longest then fronts.getLast? else fronts.head? with
  | some count => String.ofList (text.toList.drop count)
  | none => text

/-- How many characters at the end of a text match, fewest first. -/
private def backs (ignoreCase : Bool) (pattern : Pattern) (text : List Char) : List Nat :=
  (List.range (text.length + 1)).filter fun count =>
    pattern.accepts ignoreCase (text.drop (text.length - count))

private def removeBack (pattern : Pattern) (longest : Bool) (text : String) : String :=
  let backs := backs false pattern text.toList
  match if longest then backs.getLast? else backs.head? with
  | some count => String.ofList (text.toList.take (text.length - count))
  | none => text

/-- A replacement, in which a free ampersand may stand for what is replaced. -/
private def filledIn (takesMatch : Bool) (found : List Char) : Field → List Char
  | [] => []
  | ('\\', true) :: (c, free) :: rest =>
    if takesMatch && (c == '&' || c == '\\') then c :: filledIn takesMatch found rest
    else '\\' :: filledIn takesMatch found ((c, free) :: rest)
  | (c, free) :: rest =>
    if takesMatch && free && c == '&' then found ++ filledIn takesMatch found rest
    else c :: filledIn takesMatch found rest

private def replaceFrom (ignoreCase everywhere : Bool) (pattern : Pattern)
    (fill : List Char → List Char) : Nat → List Char → List Char
  | 0, text => text
  | fuel + 1, text =>
    match text, longestMatch? ignoreCase pattern text with
    | text, some 0 =>
      match text with
      | [] => fill []
      | c :: rest =>
        fill [] ++ c :: (if everywhere then replaceFrom ignoreCase everywhere pattern fill fuel rest
          else rest)
    | text, some count =>
      let behind := text.drop count
      fill (text.take count) ++
        (if everywhere && !behind.isEmpty then
          replaceFrom ignoreCase everywhere pattern fill fuel behind
        else behind)
    | c :: rest, none => c :: replaceFrom ignoreCase everywhere pattern fill fuel rest
    | [], none => []

private def replaced (ignoreCase : Bool) (place : Place) (pattern : Pattern)
    (fill : List Char → List Char) (text : String) : String :=
  let chars := text.toList
  String.ofList <|
    match place with
    | .first =>
      if pattern.isEmpty then chars
      else replaceFrom ignoreCase false pattern fill (chars.length + 1) chars
    | .everywhere =>
      if pattern.isEmpty then chars
      else replaceFrom ignoreCase true pattern fill (chars.length + 1) chars
    | .front =>
      match longestMatch? ignoreCase pattern chars with
      | some count => fill (chars.take count) ++ chars.drop count
      | none => chars
    | .back =>
      match (backs ignoreCase pattern chars).getLast? with
      | some count =>
        let start := chars.length - count
        chars.take start ++ fill (chars.drop start)
      | none => chars

private def swapped (change : CaseChange) (c : Char) : Char :=
  match change with
  | .upper => c.toUpper
  | .lower => c.toLower
  | .swap => if c.isUpper then c.toLower else c.toUpper

private def relettered (change : CaseChange) (everywhere : Bool) (pattern : Pattern)
    (text : String) : String :=
  let changed (c : Char) : Char :=
    if pattern.isEmpty || pattern.accepts false [c] then swapped change c else c
  match text.toList with
  | [] => ""
  | first :: rest =>
    String.ofList (changed first :: if everywhere then rest.map changed else rest)

/-- The bounds of a part of something that is so long; what is wrong with them if they make
no sense. -/
private def bounds (size : Nat) (offset : Int) (length : Option Int) :
    Except String (Option (Nat × Nat)) :=
  let start := if offset < 0 then (size : Int) + offset else offset
  if start < 0 || (size : Int) < start then .ok none
  else
    match length with
    | none => .ok (some (start.toNat, size - start.toNat))
    | some length =>
      if 0 ≤ length then .ok (some (start.toNat, min length.toNat (size - start.toNat)))
      else
        let stop := (size : Int) + length
        if stop < start then .error (toString length ++ ": substring expression < 0")
        else .ok (some (start.toNat, (stop - start).toNat))

private def partOf {α : Type} (list : List α) (bounds : Option (Nat × Nat)) : List α :=
  match bounds with
  | some (start, count) => (list.drop start).take count
  | none => []

/-! ## Expansions -/

private def swapAll (text : String) (change : Char → Char) : String :=
  String.ofList (text.toList.map change)

private def capitalized (text : String) : String :=
  match text.toList with
  | first :: rest => String.ofList (first.toUpper :: rest)
  | [] => ""

/-- A scalar variable as it would be assigned. -/
private def assignmentText (shell : Shell) (name text : String) : String :=
  let found := (shell.variableOf? name).getD {}
  let front := if found.traits.isEmpty then "" else "declare -" ++ found.traits ++ " "
  front ++ name ++ "=" ++ Quoting.reusable text

private def transformed (target : Meaning) (letter : Char) (found : Found) (isQuoted : Bool) :
    Act (Option (List Fragment)) := do
  let shell ← get
  let change? : Option (String → String) :=
    match letter with
    | 'Q' => some Quoting.reusable
    | 'U' => some fun text => swapAll text Char.toUpper
    | 'L' => some fun text => swapAll text Char.toLower
    | 'u' => some capitalized
    | 'E' => some fun text => (unescape .quoted text).1
    | 'P' => some id
    | _ => none
  match change?, letter, found with
  | some change, _, found => return some (← foundFragments isQuoted (found.map change))
  | none, 'a', .many texts isJoined =>
    let traits := ((shell.variableOf? target.name).map Variable.traits).getD ""
    return some (← foundFragments isQuoted (.many (texts.map fun _ => traits) isJoined))
  | none, 'a', .one _ =>
    let traits := ((shell.variableOf? target.name).map Variable.traits).getD ""
    return some [Fragment.ofText isQuoted traits]
  | none, 'A', .many [] _ => return some []
  | none, 'A', .many texts _ =>
    if target.name == "@" || target.name == "*" then
      let shown := "set -- " ++ String.intercalate " " (texts.map Quoting.reusable)
      return some [Fragment.ofText isQuoted shown]
    let found := (shell.variableOf? target.name).getD {}
    return some [Fragment.ofText isQuoted (found.declaration target.name)]
  | none, 'A', .one none => return some []
  | none, 'A', .one (some text) =>
    return some [Fragment.ofText isQuoted (assignmentText shell target.name text)]
  | none, 'K', .many texts _ | none, 'k', .many texts _ =>
    let keys := (((shell.value? target.name).map Value.elements).getD []).map Prod.fst
    let pairs := keys.zip texts
    if letter == 'k' then
      let words := pairs.flatMap fun (key, text) => [key, text]
      return some (manyFragments shell words false isQuoted)
    let shown := pairs.map fun (key, text) => key ++ " " ++ Quoting.declared text
    return some [Fragment.ofText isQuoted (String.intercalate " " shown)]
  | none, 'K', .one text | none, 'k', .one text =>
    return some (← foundFragments isQuoted (.one (text.map Quoting.reusable)))
  | none, _, .one none => return some []
  | _, _, _ => return none

/-- Names of the variables with a value that begin like this. -/
private def namesLike (shell : Shell) (front : String) : List String :=
  shell.variableNames.filter fun name =>
    front.toList.isPrefixOf name.toList && (shell.value? name).isSome

mutual

private def expandPiece (run : Runner) : Piece → Act (List Fragment)
  | .plain text => return [.plain text]
  | .quoted text => return [.solid text]
  | .output script line isQuoted => return [Fragment.ofText isQuoted (← outputOf run script line)]
  | .number expression isQuoted => do
    let text := joined (← expandPieces run .nowhere false expression)
    if ← isHalted then return []
    match ← evaluate? "" text with
    | some value => return [Fragment.ofText isQuoted (toString value)]
    | none => return []
  | .channel isRead script line => return [.solid (← channelPath run isRead script line)]
  | .variable_ reference index operand further isQuoted => do
    let shell ← get
    match reference.operation with
    | .unknown =>
      abandon (reference.text ++ ": bad substitution")
      return []
    | .names =>
      let names := namesLike shell reference.name
      return manyFragments shell names (reference.selection == .joined) isQuoted
    | _ => pure ()
    let indexText ← if reference.selection == .element then do
        pure (joined (← expandPieces run .nowhere false index)) else pure ""
    if ← isHalted then return []
    let written : Meaning := ⟨reference.name, reference.selection, indexText⟩
    if reference.isIndirect && (written.selection == .each || written.selection == .joined) then
      let keys := (((shell.value? written.name).map Value.elements).getD []).map Prod.fst
      return manyFragments shell keys (written.selection == .joined) isQuoted
    let isReference := ((shell.scopes.findSome? fun scope => scope.find? written.name).map
      (·.isReference)).getD false
    if reference.isIndirect && isReference then
      return [Fragment.ofText isQuoted (shell.resolve written.name)]
    let target ←
      if !reference.isIndirect then pure written
      else
        match ← find written with
        | .many texts isJoined =>
          match named? (String.intercalate " " texts) with
          | some target => pure target
          | none =>
            let _ := isJoined
            abandon (String.intercalate " " texts ++ ": invalid variable name")
            return []
        | .one (some text) =>
          match named? text with
          | some target => pure target
          | none =>
            abandon (text ++ ": invalid variable name")
            return []
        | .one none =>
          abandon (written.name ++ ": invalid indirect expansion")
          return []
    let found ← find target
    if ← isHalted then return []
    let fieldOf (word : List Fragment) : Field := word.flatMap Fragment.field
    let extended := shell.can "extglob"
    match reference.operation with
    | .value | .names | .unknown =>
      demandValue target found
      foundFragments isQuoted found
    | .length =>
      match found with
      | .one text =>
        demandValue target found
        return [Fragment.ofText isQuoted (toString (text.getD "").length)]
      | .many texts _ =>
        if texts.isEmpty && shell.has "nounset" && isName target.name &&
            (shell.value? target.name).isNone then
          abandon (target.name ++ ": unbound variable")
        return [Fragment.ofText isQuoted (toString texts.length)]
    | .fallback blankToo =>
      if found.isNothing blankToo then operandFragments run operand isQuoted
      else foundFragments isQuoted found
    | .alternative blankToo =>
      if found.isNothing blankToo then return if isQuoted then [.solid ""] else []
      else operandFragments run operand isQuoted
    | .assign blankToo =>
      if !found.isNothing blankToo then return ← foundFragments isQuoted found
      if !isName target.name then
        abandon ("$" ++ target.name ++ ": cannot assign in this way")
        return []
      let text := joined (← expandPieces run .front true operand)
      if ← isHalted then return []
      let index := if target.selection == .element then some target.index else none
      if ← assignText target.name index text then foundFragments isQuoted (← find target)
      else
        stop .discard
        return []
    | .demand blankToo =>
      if !found.isNothing blankToo then return ← foundFragments isQuoted found
      let text := joined (← expandPieces run .nowhere false operand)
      let usual := if blankToo then "parameter null or not set" else "parameter not set"
      complain (target.name ++ ": " ++ (if operand.isEmpty then usual else text))
      setStatus (if shell.manner == some 'c' then 127 else 1)
      stop .exit
      return []
    | .removeFront longest =>
      demandValue target found
      let pattern := Pattern.ofField extended (fieldOf (← operandPieces run operand))
      foundFragments isQuoted (found.map (removeFront pattern longest))
    | .removeBack longest =>
      demandValue target found
      let pattern := Pattern.ofField extended (fieldOf (← operandPieces run operand))
      foundFragments isQuoted (found.map (removeBack pattern longest))
    | .replace place =>
      demandValue target found
      let pattern := Pattern.ofField extended (fieldOf (← operandPieces run operand))
      let replacement := fieldOf (← operandPieces run further)
      let fill := fun text => filledIn (shell.can "patsub_replacement") text replacement
      let ignoreCase := shell.can "nocasematch"
      foundFragments isQuoted (found.map (replaced ignoreCase place pattern fill))
    | .letters change everywhere =>
      demandValue target found
      let pattern := Pattern.ofField extended (fieldOf (← operandPieces run operand))
      foundFragments isQuoted (found.map (relettered change everywhere pattern))
    | .slice bounded =>
      demandValue target found
      let offset ← numberIn (joined (← expandPieces run .nowhere false operand))
      let length ← if bounded then do pure (some (← numberIn (joined (← expandPieces run .nowhere false further))))
        else pure none
      if ← isHalted then return []
      sliceFragments target found offset length isQuoted
    | .transform letter =>
      demandValue target found
      match ← transformed target letter found isQuoted with
      | some fragments => return fragments
      | none =>
        complain (reference.text ++ ": bad substitution")
        setStatus 1
        stop .exit
        return []

private def expandPieces (run : Runner) (extent : Homes.Extent) :
    (atStart : Bool) → List Piece → Act (List Fragment)
  | _, [] => return []
  | atStart, .plain text :: rest => do
    let first := Homes.fragmentsOf (← get) extent atStart rest.isEmpty text
    return first ++ (← expandPieces run extent false rest)
  | _, piece :: rest => do
    let first ← expandPiece run piece
    if ← isHalted then return first
    return first ++ (← expandPieces run extent false rest)

/-- An operand that stands in place of a value. -/
private def operandFragments (run : Runner) (operand : List Piece) (isQuoted : Bool) :
    Act (List Fragment) := do
  if isQuoted then return .solid "" :: (← expandPieces run .nowhere false operand)
  return (← expandPieces run .front true operand).map Fragment.loosened

/-- An operand that is a pattern. -/
private def operandPieces (run : Runner) (operand : List Piece) : Act (List Fragment) :=
  expandPieces run .front true operand

private def sliceFragments (target : Meaning) (found : Found) (offset : Int)
    (length : Option Int) (isQuoted : Bool) : Act (List Fragment) := do
  let shell ← get
  match found with
  | .one text =>
    let chars := (text.getD "").toList
    match bounds chars.length offset length with
    | .ok bounds => foundFragments isQuoted (.one (some (String.ofList (partOf chars bounds))))
    | .error message =>
      abandon message
      return []
  | .many texts isJoined =>
    if length.any (· < 0) then
      abandon (toString (length.getD 0) ++ ": substring expression < 0")
      return []
    let part : List String :=
      if target.name == "@" || target.name == "*" then
        let all := shell.name :: texts
        let start := if offset < 0 then (all.length : Int) + offset else offset
        if start < 0 then []
        else
          let rest := all.drop start.toNat
          (length.map fun length => rest.take length.toNat).getD rest
      else
        let value := (shell.value? target.name).getD .unset
        let start := if offset < 0 then (value.nextIndex : Int) + offset else offset
        if start < 0 then []
        else
          let rest :=
            match value with
            | .list entries =>
              (entries.filter fun entry => start ≤ (entry.1 : Int)).map Prod.snd
            | _ => texts.drop start.toNat
          (length.map fun length => rest.take length.toNat).getD rest
    foundFragments isQuoted (.many part isJoined)

end

/-! ## Words -/

private def expandArgument (run : Runner) (word : Word) : Act (List Fragment) := do
  match word with
  | .plain text :: rest =>
    match Homes.assignmentFront? text with
    | some (front, value) =>
      let first := Homes.fragmentsOf (← get) .parts true rest.isEmpty value
      return .plain front :: first ++ (← expandPieces run .parts false rest)
    | none => expandPieces run .front true word
  | word => expandPieces run .front true word

/-- The paths that a field matches, or its text if it matches none. -/
private def pathsOf (field : Field) : Act (List String) := do
  let shell ← get
  if shell.has "noglob" then return [field.text]
  match Paths.matching? shell.disk (Paths.habitsOf shell) field with
  | none => return [field.text]
  | some [] =>
    if shell.can "failglob" then
      abandon ("no match: " ++ field.text)
      return []
    else if shell.can "nullglob" then return []
    else return [field.text]
  | some paths => return paths

private def expandFields : List Field → Act (List String)
  | [] => return []
  | field :: rest => do
    let paths ← pathsOf field
    if ← isHalted then return []
    return paths ++ (← expandFields rest)

private def expandEach (run : Runner) : List Word → Act (List String)
  | [] => return []
  | word :: rest => do
    let fragments ← expandArgument run word
    if ← isHalted then return []
    let fields ← expandFields (fieldsOf (← get).separators fragments)
    if ← isHalted then return []
    return fields ++ (← expandEach run rest)

/-- The fields that words stand for. -/
def expand (run : Runner) (words : List Word) : Act (List String) := do
  let shell ← get
  expandEach run (if shell.has "braceexpand" then words.flatMap Braces.unfold else words)

/-- What a word stands for where no fields are made. -/
def expandWhole (run : Runner) (word : Word) : Act String :=
  return joined (← expandPieces run .front true word)

/-- What a word stands for that is assigned. -/
def expandAssigned (run : Runner) (word : Word) : Act String :=
  return joined (← expandPieces run .parts true word)

/-- What a text stands for in which a tilde means nothing. -/
def expandText (run : Runner) (word : Word) : Act String :=
  return joined (← expandPieces run .nowhere false word)

/-- What a word stands for where it is compared with. -/
def expandField (run : Runner) (word : Word) : Act Field :=
  return (← expandPieces run .front true word).flatMap Fragment.field

/-- The one file that a word names; nothing if it names several. -/
def expandPath? (run : Runner) (word : Word) : Act (Option String) := do
  let fragments ← expandPieces run .front true word
  if ← isHalted then return none
  match fieldsOf (← get).separators fragments with
  | [field] =>
    match ← pathsOf field with
    | [path] => return some path
    | _ => return none
  | _ => return none

end Provision.Shell
