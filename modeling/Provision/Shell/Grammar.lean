import Provision.Shell.Word

/-! Reading the commands of a script. -/

namespace Provision.Shell.Parser

/-- Reads a list of commands that stands within another command. -/
abbrev Body := Parser (List Command)

private def scriptOf (body : Body) : Parser Unit := do
  let _ ← body

private def wordHere? (body : Body) : Parser (Option Word) := word? (scriptOf body)

/-- Read something together with how it is written. -/
private def written {α : Type} (reading : Parser α) : Parser (α × String) := do
  let before := (← get).rest
  let found ← reading
  let after := (← get).rest
  return (found, String.ofList (before.take (before.length - after.length)))

private def refuseHere {α : Type} (body : Body) : Parser α := refuse (scriptOf body)

private def reserved : List String :=
  ["if", "then", "elif", "else", "fi", "while", "until", "for", "in", "do", "done", "case",
    "esac", "!", "\x7b", "\x7d", "[[", "function", "time"]

/-- The plainly written word that stands here. It is not taken. -/
private def literalHere (body : Body) : Parser (Option String) :=
  look do return (← wordHere? body).bind literal?

/-- The reserved word that stands here. -/
private def keywordHere (body : Body) : Parser (Option String) := do
  return (← literalHere body).filter reserved.contains

/-- Take a reserved word, or refuse what stands in its place. -/
private def demand (body : Body) (keyword : String) : Parser Unit := do
  skipSpace
  if (← keywordHere body) == some keyword then drop keyword.length else refuseHere body

private def demandMark (body : Body) (mark : String) : Parser Unit := do
  skipBlanks
  if !(← take mark) then refuseHere body

/-- Whether no further command of a list can start here. -/
private def atListEnd (body : Body) : Parser Bool := do
  match ← peek with
  | none => return true
  | some ')' => return true
  | some ';' => return true
  | _ =>
    match ← keywordHere body with
    | some keyword =>
      return ["then", "elif", "else", "fi", "do", "done", "esac", "\x7d"].contains keyword
    | none => return false

private def remaining : Parser Nat := return (← get).rest.length + 1

/-! ## Redirections -/

private def isQuotedPiece : Piece → Bool
  | .quoted _ => true
  | _ => false

private def pieceText : Piece → String
  | .plain text | .quoted text => text
  | _ => ""

/-- The document that a word ends, which holds variables unless part of the word is
quoted. -/
private def documentTarget (body : Body) (stop : Word) (strip : Bool) : Parser Target := do
  let text ← document (String.join (stop.map pieceText)) strip
  if stop.any isQuotedPiece then return .supply [.quoted text] false
  else return .supply (← documentPieces (scriptOf body) text) false

private def arrows : List String :=
  ["&>>", "&>", ">>", ">&", ">|", ">", "<<<", "<<-", "<<", "<&", "<>", "<"]

private def errorsToo : Redirection := { port := 2, target := .duplicate [.plain "1"] }

/-- The redirection that stands here, if one does: a port number, an arrow and a word. -/
private def redirection? (body : Body) : Parser (Option (List Redirection)) := do
  let here ← get
  let digits ← takeWhile Char.isDigit
  let text := (← get).rest
  let found := arrows.find? fun arrow => arrow.toList.isPrefixOf text
  match found with
  | none =>
    set here
    return none
  | some arrow =>
    if (!digits.isEmpty && arrow.front == '&') || (← isAt "<(") || (← isAt ">(") then
      set here
      return none
    drop arrow.length
    skipBlanks
    match ← written (wordHere? body) with
    | (none, _) => refuseHere body
    | (some word, text) =>
      let port := if digits.isEmpty then (if arrow.front == '<' then 0 else 1)
        else Text.digitsValue digits.toList
      let toPort := ((literal? word).getD "").toList.all fun c => c.isDigit || c == '-'
      match arrow with
      | "&>>" => return some [⟨1, .write word true false, text⟩, errorsToo]
      | "&>" => return some [⟨1, .write word false false, text⟩, errorsToo]
      | ">>" => return some [⟨port, .write word true false, text⟩]
      | ">&" =>
        if digits.isEmpty && !toPort && (literal? word).isSome then
          return some [⟨1, .write word false false, text⟩, errorsToo]
        else return some [⟨port, .duplicate word, text⟩]
      | "<&" => return some [⟨port, .duplicate word, text⟩]
      | "<<<" => return some [⟨port, .supply word true, text⟩]
      | "<<-" => return some [⟨port, ← documentTarget body word true, text⟩]
      | "<<" => return some [⟨port, ← documentTarget body word false, text⟩]
      | "<>" => return some [⟨if digits.isEmpty then 0 else port, .update word, text⟩]
      | "<" => return some [⟨port, .read word, text⟩]
      | ">|" => return some [⟨port, .write word false true, text⟩]
      | _ => return some [⟨port, .write word false false, text⟩]

private def redirections (body : Body) : Nat → Parser (List Redirection)
  | 0 => return []
  | fuel + 1 => do
    skipBlanks
    match ← redirection? body with
    | some here => return here ++ (← redirections body fuel)
    | none => return []

/-! ## Assignments -/

/-- The front of an assignment, up to and with the equals sign: the name, an index and
whether the value is added. -/
private def assignmentFront? (body : Body) : Parser (Option (String × Option Word × Bool)) := do
  let here ← get
  let name ← takeWhile isNameChar
  if !isName name then
    set here
    return none
  let index ←
    if ← isAt "[" then
      drop 1
      let inner ← index (scriptOf body)
      if !(← take "]") then
        set here
        return none
      pure (some inner)
    else pure none
  if ← take "+=" then return some (name, index, true)
  if ← take "=" then return some (name, index, false)
  set here
  return none

/-- The elements of a list up to the bracket that closes. -/
private def elements (body : Body) (line : Nat) : Nat → Parser (List Element)
  | 0 => throw .unfinished
  | fuel + 1 => do
    skipSpace
    if (← peek).isNone then throw (.unclosedList line)
    if ← take ")" then return []
    let here ← get
    let front ←
      if ← take "[" then
        let inner ← index (scriptOf body)
        if ← take "]+=" then pure (some (inner, true))
        else if ← take "]=" then pure (some (inner, false))
        else do
          set here
          pure none
      else pure none
    match front with
    | some (index, append) =>
      let value := (← wordHere? body).getD []
      return ⟨some index, append, value⟩ :: (← elements body line fuel)
    | none =>
      match ← wordHere? body with
      | some value => return ⟨none, false, value⟩ :: (← elements body line fuel)
      | none => refuseHere body

private def assignment? (body : Body) : Parser (Option Assignment) := do
  match ← assignmentFront? body with
  | none => return none
  | some (name, index, append) =>
    if ← isAt "(" then
      let (list, text) ← written do
        drop 1
        elements body (← get).line (← remaining)
      return some ⟨name, index, append, .list list text⟩
    else
      let value := (← wordHere? body).getD []
      return some ⟨name, index, append, .word value⟩

/-! ## Simple commands -/

/-- Commands whose arguments may be assignments. -/
private def declarators : List String := ["declare", "typeset", "local", "export", "readonly"]

/-- The parts of a simple command, each kind in the order in which they stand. -/
private structure Parts where
  assignments : List Assignment := []
  arguments : List Argument := []
  redirections : List Redirection := []
  declares : Bool := false

private def simpleParts (body : Body) (parts : Parts) : Nat → Parser Parts
  | 0 => return parts
  | fuel + 1 => do
    skipBlanks
    match ← redirection? body with
    | some here =>
      simpleParts body { parts with redirections := parts.redirections ++ here } fuel
    | none =>
      let assignment ←
        if parts.arguments.isEmpty || parts.declares then assignment? body else pure none
      match assignment with
      | some assignment =>
        if parts.arguments.isEmpty then
          simpleParts body { parts with assignments := parts.assignments ++ [assignment] } fuel
        else
          simpleParts body
            { parts with arguments := parts.arguments ++ [.assignment assignment] } fuel
      | none =>
        match ← wordHere? body with
        | none => return parts
        | some word =>
          let declares := parts.declares ||
            (parts.arguments.isEmpty && ((literal? word).any declarators.contains))
          simpleParts body
            { parts with arguments := parts.arguments ++ [.word word], declares } fuel

/-! ## Conditions -/

private def unaryTests : List String :=
  ["-a", "-b", "-c", "-d", "-e", "-f", "-g", "-h", "-k", "-p", "-r", "-s", "-t", "-u", "-w", "-x",
    "-G", "-L", "-N", "-O", "-S", "-n", "-o", "-v", "-R", "-z"]

private def binaryTests : List String :=
  ["==", "!=", "=~", "=", "-eq", "-ne", "-lt", "-le", "-gt", "-ge", "-nt", "-ot", "-ef"]

/-- Say that a condition makes no sense here. -/
private def badTest {α : Type} (body : Body) (message : String) : Parser α := do
  skipBlanks
  if (← peek).isNone then throw .unfinished
  throw (.badCondition message (← tokenHere (scriptOf body)) (← get).line)

/-- The token that stands here, if it is anything but a plain word. -/
private def oddToken? (body : Body) : Parser (Option String) := do
  skipBlanks
  let isWord := (← look (wordHere? body)).isSome
  if isWord && (← literalHere body) != some "]]" then return none
  return some (← tokenHere (scriptOf body))

/-- Say that something else was expected. The token is named unless it is a plain word. -/
private def badTestBut {α : Type} (body : Body) (expected : String) : Parser α := do
  match ← oddToken? body with
  | some token => badTest body ("unexpected token \x60" ++ token ++ "\x27, " ++ expected)
  | none => badTest body expected

/-- Say that something is no operand of an operator. -/
private def badOperand {α : Type} (body : Body) (operator : String) : Parser α := do
  match ← oddToken? body with
  | some token => badTest body ("unexpected argument \x60" ++ token ++ "\x27 to conditional " ++ operator)
  | none => badTest body ("unexpected argument to conditional " ++ operator)

private def testWord (body : Body) (operator : String) : Parser Word := do
  skipBlanks
  if (← literalHere body) == some "]]" then badOperand body operator
  match ← wordHere? body with
  | some word => return word
  | none => badOperand body operator

private def binaryHere? (body : Body) : Parser (Option String) := do
  if ← isAt "<" then return some "<"
  if ← isAt ">" then return some ">"
  return (← literalHere body).filter binaryTests.contains

private def rightSide (body : Body) (operator : String) : Parser Word := do
  skipBlanks
  if operator == "=~" then
    let word ← regularExpression (scriptOf body)
    if word.isEmpty then badOperand body "binary operator"
    return word
  let before := (← get).isExtended
  let isPattern := ["==", "!=", "="].contains operator
  modify fun cursor => { cursor with isExtended := before || isPattern }
  let word ← testWord body "binary operator"
  modify fun cursor => { cursor with isExtended := before }
  return word

/-- What a condition that begins with a word goes on with: an operator between two words, or
nothing. -/
private def testBehind (body : Body) (word : Word) : Parser Test := do
  let here ← get
  skipBlanks
  match ← binaryHere? body with
  | some operator =>
    drop operator.length
    return .binary operator word (← rightSide body operator)
  | none =>
    let next ← literalHere body
    if next == some "]]" || (← isAt "&&") || (← isAt "||") || (← isAt ")") then
      return .word word
    if (← isAt "\n") then
      let text := String.join (word.map pieceText)
      throw (.badCondition
        "unexpected token \x60newline\x27, conditional binary operator expected" text here.line)
    badTestBut body "conditional binary operator expected"

mutual

private def testTerm (body : Body) : Nat → Parser Test
  | 0 => throw .unfinished
  | fuel + 1 => do
    skipSpace
    if ← take "(" then
      let inner ← testList body fuel
      skipSpace
      if !(← take ")") then badTestBut body "expected \x60)\x27"
      return inner
    match ← literalHere body with
    | some "!" =>
      drop 1
      return .negated (← testTerm body fuel)
    | some "]]" => badTest body ""
    | first =>
      let here ← get
      match ← wordHere? body with
      | none =>
        let token ← tokenHere (scriptOf body)
        badTest body ("unexpected token \x60" ++ token ++ "\x27 in conditional command")
      | some word =>
        let behind ← get
        skipBlanks
        match first.filter unaryTests.contains, ← binaryHere? body with
        | some operator, none =>
          set here
          drop operator.length
          return .unary operator (← testWord body "unary operator")
        | _, _ =>
          set behind
          testBehind body word

private def testConjunction (body : Body) : Nat → Parser Test
  | 0 => throw .unfinished
  | fuel + 1 => do
    let left ← testTerm body fuel
    skipSpace
    if ← take "&&" then return .both left (← testConjunction body fuel)
    return left

private def testList (body : Body) : Nat → Parser Test
  | 0 => throw .unfinished
  | fuel + 1 => do
    let left ← testConjunction body fuel
    skipSpace
    if ← take "||" then return .either left (← testList body fuel)
    return left

end

private def condition (body : Body) (line : Nat) : Parser Command := do
  let test ← testList body (← remaining)
  skipSpace
  if (← literalHere body) != some "]]" then
    let fault := "syntax error in conditional expression"
    match ← oddToken? body with
    | some token => badTest body (fault ++ ": unexpected token \x60" ++ token ++ "\x27")
    | none => badTest body fault
  drop 2
  return .condition line test

/-! ## Compound commands -/

private def words (body : Body) : Nat → Parser (List (Word × String))
  | 0 => return []
  | fuel + 1 => do
    skipBlanks
    match ← written (wordHere? body) with
    | (some word, text) => return (word, text) :: (← words body fuel)
    | (none, _) => return []

/-- The end of a line of words: a semicolon, a line end or both. -/
private def endOfWords (body : Body) : Parser Unit := do
  skipBlanks
  if !(← take ";") && !(← isAt "\n") then refuseHere body

private def nonempty (body : Body) : Parser Command := do
  match ← body with
  | [] => refuseHere body
  | [only] => return only
  | parts => return .sequence parts

/-- What follows a test in an `if` command. -/
private def choiceRest (body : Body) : Nat → Parser Command
  | 0 => throw .unfinished
  | fuel + 1 => do
    let test ← nonempty body
    demand body "then"
    let accepted ← nonempty body
    skipSpace
    match ← keywordHere body with
    | some "elif" =>
      drop 4
      return .choice test accepted (← choiceRest body fuel)
    | some "else" =>
      drop 4
      let rejected ← nonempty body
      demand body "fi"
      return .choice test accepted rejected
    | _ =>
      demand body "fi"
      return .choice test accepted (.sequence [])

private def doBody (body : Body) : Parser Command := do
  skipSpace
  if (← keywordHere body) == some "\x7b" then
    drop 1
    let inner ← nonempty body
    demand body "\x7d"
    return inner
  demand body "do"
  let inner ← nonempty body
  demand body "done"
  return inner

private def splitAtSemicolons : List Char → List (List Char)
  | [] => [[]]
  | c :: rest =>
    match splitAtSemicolons rest with
    | first :: more => if c == ';' then [] :: first :: more else (c :: first) :: more
    | [] => [[c]]

private def countRest (body : Body) (line : Nat) (text : String) : Parser Command := do
  match (splitAtSemicolons text.toList).map String.ofList with
  | [first, test, step] =>
    let first ← arithmetic (scriptOf body) first
    let test ← arithmetic (scriptOf body) test
    let step ← arithmetic (scriptOf body) step
    skipBlanks
    let _ ← take ";"
    return .count line first test step (← doBody body)
  | _ =>
    let shown := "\x60((" ++ text ++ "))\x27"
    throw (.badLoop ["syntax error: arithmetic expression required", "syntax error: " ++ shown] line)

private def eachRest (body : Body) (line : Nat) : Parser Command := do
  skipBlanks
  if ← isAt "((" then
    drop 1
    if let some text ← expression? then return (← countRest body line text)
    refuseHere body
  match ← literalHere body with
  | none => refuseHere body
  | some name =>
    drop name.length
    skipSpace
    if (← keywordHere body) == some "in" then
      drop 2
      let list ← words body (← remaining)
      endOfWords body
      let text := String.intercalate " " (list.map Prod.snd)
      return .each line name (some (list.map Prod.fst)) text (← doBody body)
    else
      let _ ← take ";"
      return .each line name none "\"$@\"" (← doBody body)

private def patterns (body : Body) : Nat → Parser (List Word)
  | 0 => throw .unfinished
  | fuel + 1 => do
    skipBlanks
    match ← wordHere? body with
    | none => refuseHere body
    | some word =>
      skipBlanks
      if ← take "|" then return word :: (← patterns body fuel)
      demandMark body ")"
      return [word]

private def branches (body : Body) : Nat → Parser (List (List Word × Command × BranchEnd))
  | 0 => throw .unfinished
  | fuel + 1 => do
    skipSpace
    if (← keywordHere body) == some "esac" then
      drop 4
      return []
    let _ ← take "("
    let choices ← patterns body (← remaining)
    let inner ← body
    skipSpace
    for (mark, ending) in [(";;&", BranchEnd.goOn), (";;", .leave), (";&", .fallThrough)] do
      if ← take mark then
        return (choices, .sequence inner, ending) :: (← branches body fuel)
    demand body "esac"
    return [(choices, .sequence inner, .leave)]

private def selectRest (body : Body) (line : Nat) : Parser Command := do
  skipBlanks
  match ← written (wordHere? body) with
  | (none, _) => refuseHere body
  | (some subject, text) =>
    demand body "in"
    return .select line subject text (← branches body (← remaining))

/-- The command in brackets or between reserved words that stands here, if one does. -/
private def compound? (body : Body) : Parser (Option Command) := do
  let here ← get
  if ← take "(" then
    if let some text ← expression? then
      return some (.arithmetic here.line (← arithmetic (scriptOf body) text))
    let inner ← nonempty body
    skipSpace
    demandMark body ")"
    return some (.subshell inner)
  match ← keywordHere body with
  | some "\x7b" =>
    drop 1
    let inner ← nonempty body
    demand body "\x7d"
    return some (.sequence [inner])
  | some "[[" =>
    drop 2
    return some (← condition body here.line)
  | some "if" =>
    drop 2
    return some (← choiceRest body (← remaining))
  | some "while" =>
    drop 5
    let test ← nonempty body
    return some (.loop true test (← doBody body))
  | some "until" =>
    drop 5
    let test ← nonempty body
    return some (.loop false test (← doBody body))
  | some "for" =>
    drop 3
    return some (← eachRest body here.line)
  | some "case" =>
    drop 4
    return some (← selectRest body here.line)
  | some "!" | some "in" | some "function" | some "time" => return none
  | some _ => refuseHere body
  | none => return none

private def withRedirections (body : Body) (command : Command) : Parser Command := do
  match ← redirections body (← remaining) with
  | [] => return command
  | list => return .redirected command list

private def defineBody (body : Body) (name : String) : Parser Command := do
  match ← compound? body with
  | some inner => return .define name (← withRedirections body inner)
  | none => refuseHere body

private def defineRest (body : Body) (name : String) : Parser Command := do
  demandMark body "("
  demandMark body ")"
  skipSpace
  defineBody body name

private def command (body : Body) : Parser Command := do
  skipBlanks
  if (← keywordHere body) == some "function" then
    drop 8
    skipBlanks
    match ← literalHere body with
    | none => refuseHere body
    | some name =>
      drop name.length
      skipBlanks
      if ← isAt "(" then return (← defineRest body name)
      skipSpace
      return (← defineBody body name)
  match ← compound? body with
  | some compound => withRedirections body compound
  | none =>
    let here ← get
    let isAssignment := (← look (assignmentFront? body)).isSome
    let name ← if isAssignment then pure none else do pure ((← wordHere? body).bind literal?)
    skipBlanks
    match name, ← peek with
    | some name, some '(' => defineRest body name
    | _, _ =>
      set here
      let parts ← simpleParts body {} (← remaining)
      if parts.assignments.isEmpty && parts.arguments.isEmpty && parts.redirections.isEmpty then
        refuseHere body
      return .simple here.line parts.assignments parts.arguments parts.redirections

/-- The command with its third port led where the second one goes. -/
private def withErrors : Command → Command
  | .simple line assignments arguments redirections =>
    .simple line assignments arguments (redirections ++ [errorsToo])
  | command => .redirected command [errorsToo]

private def pipelineRest (body : Body) : Nat → Parser (List Command)
  | 0 => throw .unfinished
  | fuel + 1 => do
    let first ← command body
    skipBlanks
    if ← isAt "||" then return [first]
    if ← take "|&" then
      skipSpace
      return withErrors first :: (← pipelineRest body fuel)
    if ← take "|" then
      skipSpace
      return first :: (← pipelineRest body fuel)
    return [first]

private def negated : Command → Command
  | .pipeline negated parts => .pipeline (!negated) parts
  | command => .pipeline true [command]

/-- A pipeline with the marks in front of it. Behind a mark it may be missing. -/
private def markedPipeline (body : Body) (isMarked : Bool) : Nat → Parser Command
  | 0 => throw .unfinished
  | fuel + 1 => do
    skipBlanks
    match ← keywordHere body with
    | some "!" =>
      drop 1
      return negated (← markedPipeline body true fuel)
    | some "time" =>
      drop 4
      skipBlanks
      let isShort := (← literalHere body) == some "-p"
      if isShort then drop 2
      return .timed isShort (← markedPipeline body true fuel)
    | _ =>
      if isMarked && (← peek).all fun c => c == '\n' || c == ';' then return .pipeline false []
      match ← pipelineRest body (← remaining) with
      | [only] => return only
      | parts => return .pipeline false parts

private def pipeline (body : Body) : Parser Command := do
  markedPipeline body false (← remaining)

private def andOrRest (body : Body) (left : Command) : Nat → Parser Command
  | 0 => throw .unfinished
  | fuel + 1 => do
    skipBlanks
    if ← take "&&" then
      skipSpace
      andOrRest body (.both left (← pipeline body)) fuel
    else if ← take "||" then
      skipSpace
      andOrRest body (.either left (← pipeline body)) fuel
    else return left

/-- The commands of a list. A nested list goes on over line ends, another one ends there. -/
private def list (body : Body) (nested : Bool) : Nat → Parser (List Command)
  | 0 => throw .unfinished
  | fuel + 1 => do
    if nested then skipSpace else skipBlanks
    if (← atListEnd body) || (← isAt "\n") then return []
    let first ← andOrRest body (← pipeline body) (← remaining)
    skipBlanks
    if (← isAt ";;") || (← isAt ";&") then return [first]
    if ← take ";" then return first :: (← list body nested fuel)
    if ← take "&" then return .background first :: (← list body nested fuel)
    if nested && (← isAt "\n") then return first :: (← list body nested fuel)
    return [first]

private def nestedList : Nat → Parser (List Command)
  | 0 => throw .unfinished
  | fuel + 1 => do list (nestedList fuel) true (← remaining)

/-- The commands up to the end of a line, or up to the end of the script. -/
def commands : Parser (List Command) := do
  let body := nestedList (← remaining)
  let found ← list body false (← remaining)
  skipBlanks
  if !(← takeLineEnd) && (← peek).isSome then refuseHere body
  return found

end Provision.Shell.Parser
