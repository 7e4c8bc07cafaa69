import Provision.Shell.Pattern

/-! Regular expressions. Of all matches the leftmost counts, of those the longest, and of
those the one whose earlier parts are longest. -/

namespace Provision.Shell

inductive Regex where
  | empty
  | exactly (c : Char)
  | one
  | within (members : List Members) (negated : Bool)
  | atStart
  | atEnd
  /-- Whether one neighbour of the place is part of a word; with `starts` or `ends` the
  neighbour in front or behind has to be the other one. -/
  | wordEdge (starts ends : Bool)
  | noWordEdge
  | group (index : Nat) (inner : Regex)
  /-- What a group has matched. -/
  | again (index : Nat)
  | both (left right : Regex)
  | either (left right : Regex)
  | times (inner : Regex) (least : Nat) (most : Option Nat)
  deriving Repr, Inhabited

namespace Regex

/-! ## Reading -/

private structure Reading where
  rest : Field
  /-- How many groups have been opened. -/
  groups : Nat := 0

private abbrev Reader := StateT Reading Option

private def isWordChar (c : Char) : Bool := c.isAlphanum || c == '_'

private def wordMembers : List Members := [.kind "word"]

private def spaceMembers : List Members := [.kind "space"]

private def escaped? (c : Char) (groups : Nat) : Option Regex :=
  match c with
  | 'w' => some (.within wordMembers false)
  | 'W' => some (.within wordMembers true)
  | 's' => some (.within spaceMembers false)
  | 'S' => some (.within spaceMembers true)
  | 'b' => some (.wordEdge false false)
  | 'B' => some .noWordEdge
  | '<' => some (.wordEdge true false)
  | '>' => some (.wordEdge false true)
  | '\x60' => some .atStart
  | '\x27' => some .atEnd
  | c =>
    if '1' ≤ c && c ≤ '9' then
      let index := c.toNat - 48
      if index ≤ groups then some (.again index) else none
    else some (.exactly c)

/-- A number of repetitions that stands here. -/
private def bound : Reader (Option Nat) := do
  let reading ← get
  let digits := reading.rest.takeWhile fun entry => entry.1.isDigit
  set { reading with rest := reading.rest.drop digits.length }
  if digits.isEmpty then return none
  return some (digits.foldl (fun value entry => 10 * value + (entry.1.toNat - 48)) 0)

private def takeMark (mark : Char) : Reader Bool := do
  let reading ← get
  if reading.rest.head? == some (mark, true) then
    set { reading with rest := reading.rest.tail }
    return true
  return false

/-- The largest number of repetitions that may be asked for. -/
private def maxTimes : Nat := 32767

/-- The bounds of a repetition behind an opened brace. -/
private def bounds : Reader (Nat × Option Nat) := do
  let least ← bound
  let (least, most) ←
    if ← takeMark ',' then
      let most ← bound
      if least.isNone && most.isNone then failure
      pure (least.getD 0, most)
    else
      match least with
      | some least => pure (least, some least)
      | none => failure
  if !(← takeMark '\x7d') then failure
  if maxTimes < most.getD least || most.any (· < least) then failure
  return (least, most)

private def repeated (regex : Regex) : Nat → Reader Regex
  | 0 => return regex
  | fuel + 1 => do
    if ← takeMark '*' then repeated (.times regex 0 none) fuel
    else if ← takeMark '+' then repeated (.times regex 1 none) fuel
    else if ← takeMark '?' then repeated (.times regex 0 (some 1)) fuel
    else if ← takeMark '\x7b' then
      let (least, most) ← bounds
      repeated (.times regex least most) fuel
    else return regex

mutual

/-- Alternatives up to the bracket that closes, which is not taken. -/
private def alternatives (depth : Nat) : Nat → Reader Regex
  | 0 => failure
  | fuel + 1 => do
    let left ← branch depth fuel
    if ← takeMark '|' then return .either left (← alternatives depth fuel)
    return left

private def branch (depth : Nat) : Nat → Reader Regex
  | 0 => failure
  | fuel + 1 => do
    match (← get).rest with
    | [] => return .empty
    | ('|', true) :: _ => return .empty
    | (c, free) :: rest =>
      if free && c == ')' && 0 < depth then return .empty
      set { ← get with rest }
      let isAnchor := free && (c == '^' || c == '$')
      let item ← if free then special c depth fuel else pure (.exactly c)
      let item ← if isAnchor then pure item else repeated item fuel
      let others ← branch depth fuel
      match others with
      | .empty => return item
      | others => return .both item others

/-- What a character with a meaning stands for that has been taken. -/
private def special (c : Char) (depth : Nat) : Nat → Reader Regex
  | 0 => failure
  | fuel + 1 => do
    match c with
    | '.' => return .one
    | '^' => return .atStart
    | '$' => return .atEnd
    | '*' | '+' | '?' | '\x7b' => failure
    | '(' =>
      let index := (← get).groups + 1
      modify fun reading => { reading with groups := index }
      let inner ← alternatives (depth + 1) fuel
      if ← takeMark ')' then return .group index inner
      failure
    | '[' =>
      match Pattern.setOf? ['^'] false (← get).rest with
      | some (members, negated, rest) =>
        modify fun reading => { reading with rest }
        return .within members negated
      | none => failure
    | '\\' =>
      match (← get).rest with
      | [] => failure
      | (c, _) :: rest =>
        modify fun reading => { reading with rest }
        match escaped? c (← get).groups with
        | some regex => return regex
        | none => failure
    | c => return .exactly c

end

/-- The expression that a text states, if it states one, and how many groups it has. -/
def ofField? (field : Field) : Option (Regex × Nat) :=
  match (alternatives 0 (3 * field.length + 3)).run { rest := field } with
  | some (regex, reading) => if reading.rest.isEmpty then some (regex, reading.groups) else none
  | none => none

/-! ## Matching -/

/-- A way to match: where it ends, and where the groups begin and end. -/
private structure Way where
  place : Nat
  groups : List (Nat × Nat × Nat) := []

/-- Keep one way for each end, longest first. -/
private def sorted (ways : List Way) : List Way :=
  let once := ways.foldl
    (fun kept way => if kept.any (·.place == way.place) then kept else kept ++ [way]) []
  once.mergeSort fun a b => b.place ≤ a.place

private structure Subject where
  text : Array Char
  ignoreCase : Bool

private def isWordAt (subject : Subject) (place : Nat) : Bool :=
  (subject.text[place]?.map isWordChar).getD false

private def same (ignoreCase : Bool) (a b : Char) : Bool :=
  a == b || (ignoreCase && a.toLower == b.toLower)

private def stepOver (way : Way) (subject : Subject) (accepts : Char → Bool) : List Way :=
  match subject.text[way.place]? with
  | some c =>
    if accepts c || (subject.ignoreCase && (accepts c.toLower || accepts c.toUpper)) then
      [{ way with place := way.place + 1 }]
    else []
  | none => []

private def here (way : Way) (holds : Bool) : List Way := if holds then [way] else []

private def spanOf (way : Way) (index : Nat) : Option (Nat × Nat) :=
  (way.groups.find? fun entry => entry.1 == index).map Prod.snd

private def setSpan (index start : Nat) (way : Way) : Way :=
  { way with
    groups := (index, start, way.place) :: way.groups.filter fun entry => entry.1 != index }

/-- Repeat a step that goes on as often as it is allowed to. -/
private def repeatedWays (step : Way → List Way) (least : Nat) (most : Option Nat) :
    (fuel done : Nat) → Way → List Way
  | 0, _, way => [way]
  | fuel + 1, done, way =>
    let further :=
      if most.any (· ≤ done) then []
      else
        (step way).flatMap fun next =>
          if next.place == way.place then
            if least ≤ done then [] else repeatedWays step least most fuel (done + 1) next
          else repeatedWays step least most fuel (done + 1) next
    sorted (further ++ here way (least ≤ done))

private def ways (subject : Subject) : Regex → Way → List Way
  | .empty, way => [way]
  | .exactly c, way => stepOver way subject (same subject.ignoreCase c)
  | .one, way => stepOver way subject fun _ => true
  | .within members negated, way =>
    match subject.text[way.place]? with
    | some c =>
      let found (c : Char) : Bool := members.any (·.contains c)
      let belongs :=
        found c || (subject.ignoreCase && (found c.toLower || found c.toUpper))
      if belongs != negated then [{ way with place := way.place + 1 }] else []
    | none => []
  | .atStart, way => here way (way.place == 0)
  | .atEnd, way => here way (way.place == subject.text.size)
  | .wordEdge starts ends, way =>
    let before := way.place != 0 && isWordAt subject (way.place - 1)
    let behind := isWordAt subject way.place
    here way (before != behind && (!starts || behind) && (!ends || before))
  | .noWordEdge, way =>
    let before := way.place != 0 && isWordAt subject (way.place - 1)
    here way (before == isWordAt subject way.place)
  | .group index inner, way => (ways subject inner way).map (setSpan index way.place)
  | .again index, way =>
    match spanOf way index with
    | some (start, stop) =>
      let length := stop - start
      let equal := (List.range length).all fun i =>
        match subject.text[start + i]?, subject.text[way.place + i]? with
        | some a, some b => same subject.ignoreCase a b
        | _, _ => false
      if equal then [{ way with place := way.place + length }] else []
    | none => []
  | .both left right, way => sorted ((ways subject left way).flatMap (ways subject right))
  | .either left right, way => sorted (ways subject left way ++ ways subject right way)
  | .times inner least most, way =>
    repeatedWays (ways subject inner) least most (subject.text.size + least + 2) 0 way

private def textBetween (subject : Subject) (start stop : Nat) : String :=
  String.ofList ((subject.text.toList.drop start).take (stop - start))

/-- What the expression and each of its groups match in the text. -/
def find? (ignoreCase : Bool) (regex : Regex) (groups : Nat) (text : List Char) :
    Option (List String) :=
  let subject : Subject := ⟨text.toArray, ignoreCase⟩
  (List.range (text.length + 1)).findSome? fun start =>
    (ways subject regex { place := start }).head?.map fun way =>
      textBetween subject start way.place ::
        (List.range groups).map fun index =>
          match spanOf way (index + 1) with
          | some (start, stop) => textBetween subject start stop
          | none => ""

/-- Where the first match begins and ends that does not begin earlier than this. -/
def span? (ignoreCase : Bool) (regex : Regex) (text : List Char) (least : Nat) :
    Option (Nat × Nat) :=
  let subject : Subject := ⟨text.toArray, ignoreCase⟩
  (List.range (text.length + 1)).findSome? fun start =>
    if start < least then none
    else (ways subject regex { place := start }).head?.map fun way => (start, way.place)

end Regex

end Provision.Shell
