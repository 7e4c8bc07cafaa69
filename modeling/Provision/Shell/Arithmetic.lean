import Provision.Shell.Format
import Provision.Shell.State

/-! Integer expressions, in which variables can be changed. Values wrap around at 64
bits. -/

namespace Provision.Shell.Arithmetic

/-! ## Tokens -/

inductive Kind where
  | number (text : String)
  | name (name : String) (index : Option String)
  | mark (text : String)
  /-- One more or one less, in front of a variable or behind it. -/
  | step (up isBefore : Bool)
  | fault (message : String)
  deriving DecidableEq, Repr

/-- A token with all that is left of the expression from it on. -/
structure Token where
  kind : Kind
  text : List Char
  deriving Repr

private def isBlank (c : Char) : Bool := c == ' ' || c == '\t' || c == '\n' || c == '\r'

private def assignmentMarks : List String :=
  ["<<=", ">>=", "*=", "/=", "%=", "+=", "-=", "&=", "^=", "|="]

private def marks : List String :=
  assignmentMarks ++
    ["==", "!=", ">=", "<=", "<<", ">>", "&&", "||", "**", "=", ">", "<", "+", "-", "*", "/",
      "%", "!", "(", ")", "&", "|", "^", "~", "?", ":", ","]

private def isNumberChar (c : Char) : Bool := c.isAlphanum || c == '#' || c == '@' || c == '_'

/-- How much of a text lies in front of the bracket that closes an index. -/
private def indexSpan : Nat → List Char → Option Nat
  | _, [] => none
  | depth, c :: rest =>
    if c == ']' then
      match depth with
      | 0 => some 0
      | depth + 1 => (indexSpan depth rest).map (· + 1)
    else (indexSpan (if c == '[' then depth + 1 else depth) rest).map (· + 1)

private def needsValue : Option Kind → Bool
  | some (.number _) | some (.name ..) | some (.step _ false) => false
  | _ => true

private def isName : Option Kind → Bool
  | some (.name ..) => true
  | _ => false

private def isStepBefore : Option Kind → Bool
  | some (.step _ true) => true
  | _ => false

/-- The token that stands in front of a text, and how long it is. -/
private def tokenAt (earlier before : Option Kind) (text : List Char) : Kind × Nat :=
  match text with
  | [] => (.fault "", 0)
  | c :: rest =>
    if isNameStart c then
      let name := text.takeWhile isNameChar
      match text.drop name.length with
      | '[' :: behind =>
        match indexSpan 0 behind with
        | some count =>
          (.name (String.ofList name) (some (String.ofList (behind.take count))),
            name.length + count + 2)
        | none => (.fault "bad array subscript", 0)
      | _ => (.name (String.ofList name) none, name.length)
    else if c.isDigit then
      let digits := text.takeWhile isNumberChar
      (.number (String.ofList digits), digits.length)
    else
      let doubled := (c == '+' || c == '-') && rest.head? == some c
      let mark := marks.find? fun mark => mark.toList.isPrefixOf text
      if doubled && isName before && !isStepBefore earlier then (.step (c == '+') false, 2)
      else if doubled && isName before then
        (.fault (String.ofList [c, c] ++ ": assignment requires lvalue"), 0)
      else if doubled && ((rest.tail.dropWhile isBlank).head?.any isNameStart) then
        (.step (c == '+') true, 2)
      else
        match mark with
        | some mark => (.mark mark, mark.length)
        | none =>
          if needsValue before then (.fault "syntax error: operand expected", 0)
          else (.fault "syntax error: invalid arithmetic operator", 0)

private def tokensFrom : Nat → (earlier before : Option Kind) → List Char → List Token
  | 0, _, _, _ => []
  | fuel + 1, earlier, before, text =>
    let text := text.dropWhile isBlank
    if text.isEmpty then []
    else
      let (kind, count) := tokenAt earlier before text
      match kind with
      | .fault _ => [⟨kind, text⟩]
      | kind => ⟨kind, text⟩ :: tokensFrom fuel before (some kind) (text.drop count)

def tokens (expression : String) : List Token :=
  tokensFrom (expression.length + 1) none none expression.toList

/-! ## Numbers -/

def wrap (value : Int) : Int := Int.bmod value 0x10000000000000000

private def digitValue (base : Nat) (c : Char) : Nat :=
  if c.isDigit then c.toNat - 48
  else if c.isLower then c.toNat - 87
  else if c.isUpper then (if base ≤ 36 then c.toNat - 55 else c.toNat - 29)
  else if c == '@' then 62
  else 63

private def valueInBase (base : Nat) : Nat → List Char → Except String Nat
  | value, [] => .ok value
  | value, c :: rest =>
    if c == '#' then .error "invalid number"
    else
      let digit := digitValue base c
      if base ≤ digit then .error "value too great for base"
      else valueInBase base (base * value + digit) rest

/-- The value of a number: in base sixteen behind `0x`, in base eight behind another
nought, and in the base that stands in front of a sharp. -/
def numberOf (text : String) : Except String Int := do
  let value ←
    match text.toList with
    | ['0'] => pure 0
    | '0' :: 'x' :: rest | '0' :: 'X' :: rest => valueInBase 16 0 rest
    | '0' :: rest => valueInBase 8 0 rest
    | chars =>
      let front := chars.takeWhile (· != '#')
      match chars.drop front.length with
      | [] => valueInBase 10 0 chars
      | _ :: rest =>
        let base ← valueInBase 10 0 front
        if base < 2 || 64 < base then throw "invalid arithmetic base"
        if rest.head?.all (· == '#') then throw "invalid integer constant"
        valueInBase base 0 rest
  return wrap value

/-! ## Values -/

inductive Fault where
  /-- The expression is wrong. -/
  | wrong (message : String)
  /-- A variable has no value. -/
  | unbound (name : String)
  /-- An index is wrong, which leaves nothing to go on with. -/
  | fatal (message : String)
  /-- What is wrong has been said already. -/
  | reported
  deriving DecidableEq, Repr

/-- A variable or an element that can be changed. -/
structure Place where
  name : String
  index : Option Index := none

structure Evaluation where
  expression : String
  tokens : List Token
  /-- The expression from its last token on. -/
  last : List Char := []
  /-- Whether values are only passed over. -/
  idle : Bool := false

abbrev Evaluate := StateT Evaluation (ExceptT Fault Act)

/-- What an expression within another one is worth. -/
abbrev Inner := String → ExceptT Fault Act Int

private def fault {α : Type} (message : String) (token : List Char) : Evaluate α := do
  let shown := String.ofList ((← get).expression.toList.dropWhile isBlank)
  throw (.wrong (shown ++ ": " ++ message ++ " (error token is \"" ++ String.ofList token ++ "\")"))

/-- Refuse a number, behind which nothing has been looked at. -/
private def refuseNumber {α : Type} (number message : String) : Evaluate α := do
  let evaluation ← get
  let behind := ((evaluation.tokens.head?.map (·.text.length)).getD 0) - number.length
  let seen := evaluation.expression.toList.take (evaluation.expression.length - behind)
  set { evaluation with expression := String.ofList seen }
  fault message number.toList

/-- Refuse what stands here. -/
private def refuse {α : Type} (message : String) : Evaluate α := do
  let evaluation ← get
  match evaluation.tokens with
  | token :: _ => fault message token.text
  | [] => fault message evaluation.last

private def checkToken (token? : Option Token) : Evaluate Unit := do
  match token? with
  | some ⟨.fault message, text⟩ => fault message text
  | _ => pure ()

/-- Go on to the next token. -/
private def advance : Evaluate Unit := do
  let evaluation ← get
  match evaluation.tokens with
  | token :: rest =>
    set { evaluation with tokens := rest, last := token.text }
    checkToken rest.head?
  | [] => pure ()

private def here? : Evaluate (Option Kind) := return ((← get).tokens.head?).map (·.kind)

private def isAt (mark : String) : Evaluate Bool := return (← here?) == some (.mark mark)

private def idling {α : Type} (when_ : Bool) (work : Evaluate α) : Evaluate α := do
  let before := (← get).idle
  modify fun evaluation => { evaluation with idle := before || when_ }
  let result ← work
  modify fun evaluation => { evaluation with idle := before }
  return result

private def truth (holds : Bool) : Int := if holds then 1 else 0

private def bits (value : Int) : Nat := (value % 0x10000000000000000).toNat

private def power (base : Int) : Nat → Nat → Int
  | 0, _ => 1
  | fuel + 1, exponent =>
    if exponent == 0 then 1
    else
      let half := power base fuel (exponent / 2)
      let square := wrap (half * half)
      if exponent % 2 == 1 then wrap (square * base) else square

/-- What an operator makes of two values, unless it divides by nought. -/
def combine (operator : String) (left right : Int) : Int :=
  match operator with
  | "|" => wrap (bits left ||| bits right : Nat)
  | "^" => wrap (bits left ^^^ bits right : Nat)
  | "&" => wrap (bits left &&& bits right : Nat)
  | "==" => truth (left == right)
  | "!=" => truth (left != right)
  | "<=" => truth (left ≤ right)
  | ">=" => truth (right ≤ left)
  | "<" => truth (left < right)
  | ">" => truth (right < left)
  | "<<" => wrap (left * Int.pow 2 (bits right % 64))
  | ">>" => left / Int.pow 2 (bits right % 64)
  | "+" => wrap (left + right)
  | "-" => wrap (left - right)
  | "*" => wrap (left * right)
  | "/" => wrap (left.tdiv right)
  | "%" => left.tmod right
  | _ => right

/-- Operators from those that bind least to those that bind most. -/
private def levels : List (List String) :=
  [["|"], ["^"], ["&"], ["==", "!="], ["<=", ">=", "<", ">"], ["<<", ">>"], ["+", "-"],
    ["*", "/", "%"]]

private def withoutQuotes (text : String) : String :=
  match text.toList with
  | '"' :: rest => String.ofList (rest.filter (· != '"'))
  | '\x27' :: rest => String.ofList (rest.filter (· != '\x27'))
  | _ => text

/-- The place in a list that an index means; negative ones count from the end. -/
def placeOf? (value : Value) (index : Int) : Option Nat :=
  let index := if index < 0 then index + value.nextIndex else index
  if index < 0 then none else some index.toNat

/-- What an index means in a variable. -/
def indexIn (inner : Inner) (name index : String) : ExceptT Fault Act Index := do
  let found := ((← get).variableOf? name).getD {}
  if found.isTable || found.value matches .table _ then
    return .key (withoutQuotes index)
  let place ← tryCatch (inner index) fun
    | .wrong message => throw (.fatal message)
    | fault => throw fault
  match placeOf? found.value place with
  | some place => return .number place
  | none => throw (.fatal (name ++ "[" ++ index ++ "]: bad array subscript"))

private def textAt (place : Place) : Evaluate (Option String) := do
  let value := ((← (get : ExceptT Fault Act Shell)).value? place.name).getD .unset
  match place.index with
  | none => return value.first?
  | some index => return value.element? index

/-- The value of a variable, which may be an expression itself. -/
private def load (inner : Inner) (place : Place) (shown : String) : Evaluate Int := do
  match ← textAt place with
  | some text =>
    if text.isEmpty then return 0
    (inner text : ExceptT Fault Act Int)
  | none =>
    if (← (get : ExceptT Fault Act Shell)).has "nounset" then throw (.unbound shown)
    return 0

private def store (place : Place) (value : Int) : Evaluate Unit := do
  if (← get).idle then return ()
  let shell ← (get : ExceptT Fault Act Shell)
  let name := shell.resolve place.name
  let found := (shell.variableOf? name).getD {}
  if found.isReadonly then
    liftM (complain (name ++ ": readonly variable") : Act Unit)
    throw .reported
  let text := toString value
  let changed :=
    match place.index with
    | none => found.value.setFirst text
    | some index => found.value.setElement index text
  let isList := found.isList || changed matches .list _
  modifyThe Shell fun shell => shell.putVariable name { found with value := changed, isList }

private def placeAt (inner : Inner) (name : String) (index : Option String) : Evaluate Place := do
  match index with
  | none => return { name }
  | some text =>
    if (← get).idle then return { name }
    return { name, index := some (← (indexIn inner name text : ExceptT Fault Act Index)) }

private def shownName (name : String) (index : Option String) : String :=
  match index with
  | none => name
  | some index => name ++ "[" ++ index ++ "]"

mutual

/-- Expressions between commas. The last one counts. -/
private def sequence (inner : Inner) : Nat → Evaluate Int
  | 0 => refuse "expression recursion level exceeded"
  | fuel + 1 => do
    let value ← assignment inner fuel
    if ← isAt "," then
      advance
      sequence inner fuel
    else return value

private def assignment (inner : Inner) : Nat → Evaluate Int
  | 0 => refuse "expression recursion level exceeded"
  | fuel + 1 => do
    let (value, place) ← conditional inner fuel
    let operator :=
      match ← here? with
      | some (.mark "=") => some "="
      | some (.mark mark) =>
        if assignmentMarks.contains mark then some (String.ofList mark.toList.dropLast) else none
      | _ => none
    match operator, place with
    | none, _ => return value
    | some _, none => refuse "attempted assignment to non-variable"
    | some operator, some place =>
      advance
      let right ← assignment inner fuel
      let result ←
        if (operator == "/" || operator == "%") && right == 0 then
          if (← get).idle then pure 0 else refuse "division by 0"
        else pure (combine operator value right)
      store place result
      return result

private def conditional (inner : Inner) : Nat → Evaluate (Int × Option Place)
  | 0 => refuse "expression recursion level exceeded"
  | fuel + 1 => do
    let (test, place) ← disjunction inner fuel
    if !(← isAt "?") then return (test, place)
    let accepted ← idling (test == 0) do
      advance
      if (← here?).isNone || (← isAt ":") then refuse "expression expected"
      sequence inner fuel
    if !(← isAt ":") then refuse "\x60:\x27 expected for conditional expression"
    let rejected ← idling (test != 0) do
      advance
      if (← here?).isNone then refuse "expression expected"
      return (← conditional inner fuel).1
    return (if test != 0 then accepted else rejected, none)

private def disjunction (inner : Inner) : Nat → Evaluate (Int × Option Place)
  | 0 => refuse "expression recursion level exceeded"
  | fuel + 1 => do
    let (left, place) ← conjunction inner fuel
    if ← isAt "||" then
      let right ← idling (left != 0) do
        advance
        return (← disjunction inner fuel).1
      return (truth (left != 0 || right != 0), none)
    else return (left, place)

private def conjunction (inner : Inner) : Nat → Evaluate (Int × Option Place)
  | 0 => refuse "expression recursion level exceeded"
  | fuel + 1 => do
    let (left, place) ← operation inner levels fuel
    if ← isAt "&&" then
      let right ← idling (left == 0) do
        advance
        return (← conjunction inner fuel).1
      return (truth (left != 0 && right != 0), none)
    else return (left, place)

private def operation (inner : Inner) : List (List String) → Nat → Evaluate (Int × Option Place)
  | _, 0 => refuse "expression recursion level exceeded"
  | [], fuel + 1 => powers inner fuel
  | operators :: rest, fuel + 1 => do
    let (left, place) ← operation inner rest fuel
    operands inner operators rest left place fuel

private def operands (inner : Inner) (operators : List String) (rest : List (List String))
    (left : Int) (place : Option Place) : Nat → Evaluate (Int × Option Place)
  | 0 => refuse "expression recursion level exceeded"
  | fuel + 1 => do
    match ← here? with
    | some (.mark mark) =>
      if !operators.contains mark then return (left, place)
      let behind := (((← get).tokens.head?.map (·.text)).getD []).drop mark.length
      advance
      let (right, _) ← operation inner rest fuel
      if (mark == "/" || mark == "%") && right == 0 then
        if (← get).idle then operands inner operators rest 0 none fuel
        else fault "division by 0" (behind.dropWhile isBlank)
      else operands inner operators rest (combine mark left right) none fuel
    | _ => return (left, place)

private def powers (inner : Inner) : Nat → Evaluate (Int × Option Place)
  | 0 => refuse "expression recursion level exceeded"
  | fuel + 1 => do
    let (base, place) ← unary inner fuel
    if !(← isAt "**") then return (base, place)
    advance
    let (exponent, _) ← powers inner fuel
    if exponent < 0 then refuse "exponent less than 0"
    return (power base 64 exponent.toNat, none)

private def unary (inner : Inner) : Nat → Evaluate (Int × Option Place)
  | 0 => refuse "expression recursion level exceeded"
  | fuel + 1 => do
    match ← here? with
    | some (.mark "!") =>
      advance
      return (truth ((← unary inner fuel).1 == 0), none)
    | some (.mark "~") =>
      advance
      return (wrap (-(← unary inner fuel).1 - 1), none)
    | some (.mark "-") =>
      advance
      return (wrap (-(← unary inner fuel).1), none)
    | some (.mark "+") =>
      advance
      return ((← unary inner fuel).1, none)
    | _ => primary inner fuel

private def primary (inner : Inner) : Nat → Evaluate (Int × Option Place)
  | 0 => refuse "expression recursion level exceeded"
  | fuel + 1 => do
    match ← here? with
    | some (.step up true) =>
      advance
      match ← here? with
      | some (.name name index) =>
        checkToken ((← get).tokens[1]?)
        let place ← placeAt inner name index
        let before ← if (← get).idle then pure 0 else load inner place (shownName name index)
        let value := wrap (if up then before + 1 else before - 1)
        store place value
        advance
        return (value, none)
      | _ => refuse "identifier expected after pre-increment or pre-decrement"
    | some (.mark "(") =>
      advance
      let value ← sequence inner fuel
      if !(← isAt ")") then refuse "missing \x60)\x27"
      advance
      return (value, none)
    | some (.number text) =>
      match numberOf text with
      | .ok value =>
        advance
        return (value, none)
      | .error message => refuseNumber text message
    | some (.name name index) =>
      checkToken ((← get).tokens[1]?)
      let next := ((← get).tokens[1]?).map (·.kind)
      let place ← placeAt inner name index
      let passes := (← get).idle || next == some (.mark "=")
      let value ← if passes then pure 0 else load inner place (shownName name index)
      advance
      match ← here? with
      | some (.step up false) =>
        store place (wrap (if up then value + 1 else value - 1))
        advance
        return (value, none)
      | _ => return (value, some place)
    | _ => refuse "syntax error: operand expected"

end

/-- How deep values that are expressions themselves can be nested. -/
private def maxNesting : Nat := 1023

private def valueWithin (nesting : Nat) (expression : String) : ExceptT Fault Act Int := do
  if expression.toList.all isBlank then return 0
  match nesting with
  | 0 =>
    throw (.wrong (expression ++ ": expression recursion level exceeded (error token is \"" ++
      expression ++ "\")"))
  | nesting + 1 =>
    let evaluate : Evaluate Int := do
      checkToken (← get).tokens.head?
      let value ← sequence (valueWithin nesting) (20 * (expression.length + 4))
      if (← here?).isSome then refuse "syntax error in expression"
      return value
    let (value, _) ← evaluate.run { expression, tokens := tokens expression }
    return value

/-- The value of an expression. -/
def value (expression : String) : ExceptT Fault Act Int := valueWithin maxNesting expression

/-- What an index means in a variable. -/
def index (name text : String) : ExceptT Fault Act Index := indexIn value name text

end Provision.Shell.Arithmetic
