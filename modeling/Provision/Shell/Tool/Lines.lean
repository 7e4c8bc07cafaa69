import Provision.Shell.Regex
import Provision.Shell.Tool.Contents

/-! Picking, ordering and changing lines. -/

namespace Provision.Shell.Tool

private def ended (lines : List String) : String := String.join (lines.map (· ++ "\n"))

private def misuseWith (status : Nat) (name text : String) : Act Nat := do
  misused name text
  return status

private def warnWith (status : Nat) (name text : String) : Act Nat := do
  warn name text
  return status

/-! ## Order -/

/-- Part of a line by which it is ordered: from one field up to another, or to the end of
the line. -/
private structure Key where
  first : Nat
  last : Option Nat := none
  letters : List Char := []

private def splitFields (separator : Option Char) (line : List Char) : List (List Char) :=
  match separator with
  | some c => line.splitOn c
  | none =>
    let step (c : Char) (fields : List (List Char)) : List (List Char) :=
      match fields with
      | [] => [[c]]
      | field :: rest =>
        let isBlank (c : Char) : Bool := c == ' ' || c == '\t'
        if isBlank c && !field.any isBlank && !field.isEmpty then (c :: field) :: rest
        else if field.isEmpty then [c] :: rest
        else if isBlank c then (c :: field) :: rest
        else if (field.headD ' ') == ' ' || (field.headD ' ') == '\t' then [c] :: field :: rest
        else (c :: field) :: rest
    line.foldr step []

private def keyText (separator : Option Char) (key : Key) (line : String) : List Char :=
  let fields := (splitFields separator line.toList).drop (key.first - 1)
  let fields := match key.last with
    | some last => fields.take (last + 1 - key.first)
    | none => fields
  match separator with
  | some c => (fields.intersperse [c]).flatten
  | none => fields.flatten

/-- The number in front of a text, counted in hundred-millionths. -/
private def leadingNumber (text : List Char) : Int :=
  let text := text.dropWhile fun c => c == ' ' || c == '\t'
  let negative := text.head? == some '-'
  let text := if negative then text.drop 1 else text
  let whole := text.takeWhile Char.isDigit
  let fraction := match text.drop whole.length with
    | '.' :: rest => (rest.takeWhile Char.isDigit).take 8
    | _ => []
  let digits := whole ++ fraction ++ List.replicate (8 - fraction.length) '0'
  let value : Int := Text.digitsValue digits
  if negative then -value else value

private def compareTexts (letters : List Char) (left right : List Char) : Ordering :=
  let strip (text : List Char) : List Char :=
    if letters.contains 'b' then text.dropWhile fun c => c == ' ' || c == '\t' else text
  let fold (text : List Char) : List Char :=
    if letters.contains 'f' then text.map Char.toUpper else text
  if letters.contains 'n' || letters.contains 'g' then
    compare (leadingNumber left) (leadingNumber right)
  else compare (String.ofList (fold (strip left))) (String.ofList (fold (strip right)))

private def keyOf? (text : String) : Option Key :=
  let part (text : List Char) : Option (Nat × List Char) :=
    let digits := text.takeWhile Char.isDigit
    let rest := text.drop digits.length
    let rest := match rest with
      | '.' :: more => more.dropWhile Char.isDigit
      | rest => rest
    if digits.isEmpty then none else some (Text.digitsValue digits, rest)
  match (text.splitOn ",").map String.toList with
  | [front] => (part front).map fun (first, letters) => { first, letters }
  | [front, back] => do
    let (first, letters) ← part front
    let (last, more) ← part back
    some { first, last := some last, letters := letters ++ more }
  | _ => none

private def compareLines (separator : Option Char) (keys : List Key) (letters : List Char)
    (left right : String) : Ordering :=
  let byKeys := keys.foldl (fun order key =>
    if order != .eq then order
    else
      let letters := if key.letters.isEmpty then letters else key.letters
      let order := compareTexts letters (keyText separator key left) (keyText separator key right)
      if letters.contains 'r' then order.swap else order) .eq
  if !keys.isEmpty then byKeys
  else
    let order := compareTexts letters left.toList right.toList
    if letters.contains 'r' then order.swap else order

private def dedupe (same : String → String → Bool) : List String → List String
  | [] => []
  | [line] => [line]
  | a :: b :: rest =>
    if same a b then dedupe same (a :: rest) else a :: dedupe same (b :: rest)
termination_by lines => lines.length

private def readAllOf (name : String) : List String → Act (Option String)
  | [] => return some ""
  | path :: rest => do
    match ← textOf path with
    | .ok text =>
      let text := if text.isEmpty || endsLine text then text else text ++ "\n"
      return (← readAllOf name rest).map (text ++ ·)
    | .error error =>
      if error == .isDirectory then warn name ("read failed: " ++ shown path ++ ": " ++ reason error)
      else warn name ("cannot read: " ++ shown path ++ ": " ++ reason error)
      return none

private def firstDisorder (order : String → String → Ordering) (strict : Bool) :
    Nat → List String → Option (Nat × String)
  | number, a :: b :: rest =>
    let ord := order a b
    if ord == .gt || (strict && ord == .eq) then some (number + 1, b)
    else firstDisorder order strict (number + 1) (b :: rest)
  | _, _ => none

def sort (name : String) (words : List String) : Act Nat := do
  let grammar : Grammar :=
    { letters := "nrufbgck:t:o:sdihVC"
      long := [("numeric-sort", 'n'), ("reverse", 'r'), ("unique", 'u'), ("ignore-case", 'f'),
        ("key", 'k'), ("field-separator", 't'), ("output", 'o'), ("stable", 's'), ("check", 'c')] }
  let some (choices, paths) ← takeOptions? name grammar words | return 2
  let letters := (choices.map Prod.fst).filter fun c => "nrfbg".toList.contains c
  let keyTexts := choices.filterMap fun choice => if choice.1 == 'k' then choice.2 else none
  let separator := (argument? choices 't').bind fun text => text.toList.head?
  match keyTexts.mapM keyOf? with
  | none =>
    warnWith 2 name ("invalid number at field start: invalid count at start of " ++
      quoted (keyTexts.headD ""))
  | some keys =>
    let order := compareLines separator keys letters
    let whole (a b : String) : Ordering :=
      match order a b with
      | .eq =>
        if has choices 's' || has choices 'u' then .eq
        else if letters.contains 'r' then (compare a b).swap else compare a b
      | other => other
    let paths := if paths.isEmpty then ["-"] else paths
    let some text ← readAllOf name paths | return 2
    let lines := plainLines text
    if has choices 'c' || has choices 'C' then
      match firstDisorder (if has choices 'u' then order else whole) (has choices 'u') 1 lines with
      | some (number, line) =>
        if has choices 'C' then return 1
        return ← warnWith 1 name
          (paths.headD "" ++ ":" ++ toString number ++ ": disorder: " ++ line)
      | none => return 0
    let sorted := lines.mergeSort fun a b => whole a b != .gt
    let sorted := if has choices 'u' then dedupe (fun a b => order a b == .eq) sorted else sorted
    match argument? choices 'o' with
    | none => put name (ended sorted)
    | some path =>
      let shell ← get
      match shell.disk.write (Text.narrow path) (Text.toOctets (ended sorted)) with
      | .ok disk =>
        set { shell with disk }
        return 0
      | .error error => warnWith 2 name ("open failed: " ++ shown path ++ ": " ++ reason error)

private def grouped (same : String → String → Bool) : List String → List (String × Nat)
  | [] => []
  | line :: rest =>
    match grouped same rest with
    | (next, count) :: more =>
      if same line next then (line, count + 1) :: more else (line, 1) :: (next, count) :: more
    | [] => [(line, 1)]

private def afterFields (count : Nat) (line : List Char) : List Char :=
  (List.range count).foldl (fun line _ =>
    (line.dropWhile fun c => c == ' ' || c == '\t').dropWhile fun c => c != ' ' && c != '\t') line

def unique (name : String) (words : List String) : Act Nat := do
  let grammar : Grammar :=
    { letters := "cduif:s:w:D"
      long := [("count", 'c'), ("repeated", 'd'), ("unique", 'u'), ("ignore-case", 'i'),
        ("skip-fields", 'f'), ("skip-chars", 's')] }
  let some (choices, paths) ← takeOptions? name grammar words | return 1
  let number (letter : Char) : Nat := (((argument? choices letter).bind integer?).getD 0).toNat
  let key (line : String) : List Char :=
    let text := (afterFields (number 'f') line.toList).drop (number 's')
    let text := if has choices 'w' then text.take (number 'w') else text
    if has choices 'i' then text.map Char.toLower else text
  let path := paths.headD "-"
  match ← textOf path with
  | .error error => warnWith 1 name (shown path ++ ": " ++ reason error)
  | .ok text =>
    let groups := grouped (fun a b => key a == key b) (plainLines text)
    let groups := groups.filter fun (_, count) =>
      (!has choices 'd' || 1 < count) && (!has choices 'u' || count == 1)
    let row (line : String) (count : Nat) : String :=
      let digits := toString count
      if has choices 'c' then
        String.ofList (List.replicate (7 - digits.length) ' ') ++ digits ++ " " ++ line
      else line
    let text := ended (groups.map fun (line, count) => row line count)
    match paths with
    | [_, target] =>
      let shell ← get
      match shell.disk.write (Text.narrow target) (Text.toOctets text) with
      | .ok disk =>
        set { shell with disk }
        return 0
      | .error error => warnWith 1 name (shown target ++ ": " ++ reason error)
    | _ => put name text

/-! ## Columns -/

private inductive ListFault where
  | zero
  | bad (text : String)

/-- Ranges of numbers, which count from one. -/
private def rangesOf (text : String) : Except ListFault (List (Nat × Option Nat)) :=
  ((text.toList.splitOn ',').map String.ofList).mapM fun part =>
    let bound (text : String) (usual : Nat) : Except ListFault Nat :=
      if text.isEmpty then .ok usual
      else if text.toList.all Char.isDigit then
        let value := Text.digitsValue text.toList
        if value == 0 then .error .zero else .ok value
      else .error (.bad text)
    match (part.toList.splitOn '-').map String.ofList with
    | [only] => do
      if only.isEmpty then throw .zero
      let value ← bound only 1
      return (value, some value)
    | [low, high] => do
      let low ← bound low 1
      if high.isEmpty then return (low, none)
      return (low, some (← bound high 1))
    | _ => .error (.bad part)

private def isIn (ranges : List (Nat × Option Nat)) (complement : Bool) (index : Nat) : Bool :=
  let found := ranges.any fun (low, high) => low ≤ index && high.all (index ≤ ·)
  found != complement

private def picked {α : Type} (ranges : List (Nat × Option Nat)) (complement : Bool)
    (items : List α) : List α :=
  (items.zipIdx.filter fun (_, index) => isIn ranges complement (index + 1)).map Prod.fst

def cut (name : String) (words : List String) : Act Nat := do
  let grammar : Grammar :=
    { letters := "b:c:f:d:snO:C"
      long := [("bytes", 'b'), ("characters", 'c'), ("fields", 'f'), ("delimiter", 'd'),
        ("only-delimited", 's'), ("output-delimiter", 'O'), ("complement", 'C')] }
  let some (choices, paths) ← takeOptions? name grammar words | return 1
  let lists := choices.filter fun choice => "bcf".toList.contains choice.1
  match lists with
  | [] => misuseWith 1 name "you must specify a list of bytes, characters, or fields"
  | [(letter, some list)] =>
    let delimiter := (argument? choices 'd').getD "\t"
    if 1 < delimiter.length then
      return ← misuseWith 1 name "the delimiter must be a single character"
    let complement := has choices 'C'
    match rangesOf list with
    | .error .zero =>
      misuseWith 1 name (if letter == 'f' then "fields are numbered from 1"
        else "byte/character positions are numbered from 1")
    | .error (.bad text) =>
      misuseWith 1 name (if letter == 'f' then "invalid field value " ++ quoted text
        else "invalid byte/character position " ++ quoted text)
    | .ok ranges =>
      let separator := delimiter.toList.headD '\x00'
      let between := (argument? choices 'O').getD delimiter
      let pick (line : String) : Option String :=
        if letter == 'f' then
          let fields := (line.toList.splitOn separator).map String.ofList
          if fields.length == 1 then (if has choices 's' then none else some line)
          else some (String.intercalate between (picked ranges complement fields))
        else some (String.ofList (picked ranges complement line.toList))
      forTexts name shown paths fun _ text => put name (ended ((plainLines text).filterMap pick))
  | _ => misuseWith 1 name "only one list may be specified"

/-! ## Characters -/

private inductive SetFault where
  | reversed (text : String)
  | badKind (text : String)

private def classes : List String :=
  ["alnum", "alpha", "blank", "cntrl", "digit", "graph", "lower", "print", "punct", "space",
    "upper", "xdigit"]

private def octets : List Char := (List.range 256).map Char.ofNat

private def letterMeanings : List (Char × Char) :=
  [('a', '\x07'), ('b', '\x08'), ('f', '\x0c'), ('n', '\n'), ('r', '\r'), ('t', '\t'), ('v', '\x0b')]

/-- The characters of a set as written, with escapes resolved. Each is told with whether it
was written plainly. -/
private def setChars : List Char → List (Char × Bool)
  | [] => []
  | ['\\'] => [('\\', false)]
  | '\\' :: c :: rest =>
    let isOctal (c : Char) : Bool := '0' ≤ c && c ≤ '7'
    if isOctal c then
      match rest with
      | d :: e :: more =>
        if isOctal d && isOctal e then
          (Char.ofNat (((c.toNat - 48) * 64 + (d.toNat - 48) * 8 + (e.toNat - 48)) % 256), false) ::
            setChars more
        else if isOctal d then
          (Char.ofNat ((c.toNat - 48) * 8 + (d.toNat - 48)), false) :: setChars (e :: more)
        else (Char.ofNat (c.toNat - 48), false) :: setChars (d :: e :: more)
      | rest => (Char.ofNat (c.toNat - 48), false) :: setChars rest
    else
      let meaning := ((letterMeanings.find? fun entry => entry.1 == c).map Prod.snd).getD c
      (meaning, false) :: setChars rest
  | c :: rest => (c, true) :: setChars rest

private def namedKind? (chars : List (Char × Bool)) : Option (String × List (Char × Bool)) :=
  match chars with
  | ('[', true) :: (':', true) :: rest =>
    let name := rest.takeWhile fun entry => entry.1 != ':'
    match rest.drop name.length with
    | (':', true) :: (']', true) :: rest => some (String.ofList (name.map Prod.fst), rest)
    | _ => none
  | _ => none

private def expandSet : Nat → List (Char × Bool) → Except SetFault (List Char)
  | 0, _ => .ok []
  | _, [] => .ok []
  | fuel + 1, chars =>
    match namedKind? chars with
    | some (kind, rest) => do
      if !classes.contains kind then throw (.badKind kind)
      return octets.filter (isOfKind kind) ++ (← expandSet fuel rest)
    | none =>
      match chars with
      | (low, _) :: ('-', true) :: (high, _) :: rest => do
        if high < low then throw (.reversed (String.ofList [low, '-', high]))
        let range := octets.filter fun c => low ≤ c && c ≤ high
        return range ++ (← expandSet fuel rest)
      | (c, _) :: rest => do return c :: (← expandSet fuel rest)
      | [] => .ok []

private def setOf (text : String) : Except SetFault (List Char) :=
  expandSet (text.length + 1) (setChars text.toList)

private def squeezed (chars : List Char) : List Char → List Char
  | a :: b :: rest =>
    if a == b && chars.contains a then squeezed chars (b :: rest) else a :: squeezed chars (b :: rest)
  | rest => rest

private def replaced (front back : List Char) (c : Char) : Char :=
  match front.reverse.idxOf? c with
  | some index => (back[front.length - 1 - index]?).getD (back.getLast?.getD c)
  | none => c

private def reportSet (name : String) : SetFault → Act Nat
  | .reversed text =>
    warnWith 1 name ("range-endpoints of " ++ quoted text ++ " are in reverse collating sequence order")
  | .badKind text => warnWith 1 name ("invalid character class " ++ quoted text)

private def translateWith (name first second : String) (choices : List Choice) : Act Nat := do
  match setOf first, setOf second with
  | .error fault, _ | _, .error fault => reportSet name fault
  | .ok front, .ok back =>
    let complement := has choices 'c' || has choices 'C'
    let front := if complement then octets.filter fun c => !front.contains c else front
    let text := (← readAll 0).toList
    let front := if has choices 't' then front.take back.length else front
    let text :=
      if has choices 'd' then text.filter fun c => !front.contains c
      else if !second.isEmpty then text.map (replaced front back)
      else text
    let text :=
      if has choices 's' then squeezed (if second.isEmpty then front else back) text else text
    put name (String.ofList text)

/-- Refuse sets for a reason that takes a line of its own. -/
private def refuseSets (name text explanation : String) : Act Nat := do
  warn name text
  let _ ← write 2 (explanation ++ "\n")
  let _ ← write 2 ("Try \x27" ++ name ++ " --help\x27 for more information.\n")
  return 1

def translate (name : String) (words : List String) : Act Nat := do
  let grammar : Grammar :=
    { letters := "cCdst", isMixed := false
      long := [("complement", 'c'), ("delete", 'd'), ("squeeze-repeats", 's'), ("truncate-set1", 't')] }
  let some (choices, sets) ← takeOptions? name grammar words | return 1
  let deletes := has choices 'd'
  let squeezes := has choices 's'
  match sets with
  | [] => misuseWith 1 name "missing operand"
  | [only] =>
    if deletes && squeezes then
      refuseSets name ("missing operand after " ++ quoted only)
        "Two strings must be given when both deleting and squeezing repeats."
    else if !deletes && !squeezes then
      refuseSets name ("missing operand after " ++ quoted only)
        "Two strings must be given when translating."
    else translateWith name only "" choices
  | [first, second] =>
    if deletes && !squeezes then
      refuseSets name ("extra operand " ++ quoted second)
        "Only one string may be given when deleting without squeezing repeats."
    else translateWith name first second choices
  | _ => misuseWith 1 name ("extra operand " ++ quoted (sets[2]?.getD ""))

/-! ## Numbers -/

/-- A number with this many places behind its point. -/
private structure Fixed where
  value : Int
  places : Nat

private def fixedOf? (text : String) : Option Fixed :=
  let chars := text.toList
  let negative := chars.head? == some '-'
  let chars := if negative || chars.head? == some '+' then chars.drop 1 else chars
  let whole := chars.takeWhile Char.isDigit
  let (fraction, rest) := match chars.drop whole.length with
    | '.' :: rest => (rest.takeWhile Char.isDigit, rest.dropWhile Char.isDigit)
    | rest => ([], rest)
  if (whole.isEmpty && fraction.isEmpty) || !rest.isEmpty then none
  else
    let value : Int := Text.digitsValue (whole ++ fraction)
    some ⟨if negative then -value else value, fraction.length⟩

private def scaledTo (places : Nat) (number : Fixed) : Int :=
  number.value * Int.pow 10 (places - number.places)

private def fixedText (places width : Nat) (value : Int) : String :=
  let digits := (toString value.natAbs).toList
  let digits := List.replicate (places + 1 - digits.length) '0' ++ digits
  let whole := digits.take (digits.length - places)
  let fraction := digits.drop whole.length
  let body := whole ++ if places == 0 then [] else '.' :: fraction
  let mark := if value < 0 then ['-'] else []
  String.ofList (mark ++ List.replicate (width - mark.length - body.length) '0' ++ body)

private def countUp (step last : Int) : Nat → Int → List Int
  | 0, _ => []
  | fuel + 1, value =>
    if (0 < step && last < value) || (step < 0 && value < last) then []
    else value :: countUp step last fuel (value + step)

/-- How many numbers are counted at most. -/
private def maxNumbers : Nat := 1000000

/-- Options of a word list in which negative numbers are no options. -/
private def isNegativeNumber (word : String) : Bool :=
  match word.toList with
  | '-' :: c :: _ => c.isDigit || c == '.'
  | _ => false

def sequence (name : String) (words : List String) : Act Nat := do
  let front := words.takeWhile fun word => word.front == '-' && !isNegativeNumber word
  let takesMore := ["-s", "-f", "--separator", "--format"].contains (front.getLast?.getD "")
  let front := if takesMore then words.take (front.length + 1) else front
  let grammar : Grammar :=
    { letters := "s:f:w", isMixed := false
      long := [("separator", 's'), ("format", 'f'), ("equal-width", 'w')] }
  let some (choices, more) ← takeOptions? name grammar front | return 1
  let numbers := more ++ words.drop front.length
  if numbers.isEmpty then return ← misuseWith 1 name "missing operand"
  if 3 < numbers.length then
    return ← misuseWith 1 name ("extra operand " ++ quoted (numbers[3]?.getD ""))
  match numbers.find? fun word => (fixedOf? word).isNone with
  | some word => misuseWith 1 name ("invalid floating point argument: " ++ quoted word)
  | none =>
    let one : Fixed := ⟨1, 0⟩
    let (first, step, last) := match numbers.filterMap fixedOf? with
      | [last] => (one, one, last)
      | [first, last] => (first, one, last)
      | [first, step, last] => (first, step, last)
      | _ => (one, one, one)
    if step.value == 0 then
      return ← misuseWith 1 name ("invalid Zero increment value: " ++ quoted (numbers[1]?.getD ""))
    let shownPlaces := max first.places step.places
    let places := max shownPlaces last.places
    let values := countUp (scaledTo places step) (scaledTo places last) maxNumbers
      (scaledTo places first)
    let cut (value : Int) : Int := value / Int.pow 10 (places - shownPlaces)
    let texts := values.map fun value => fixedText shownPlaces 0 (cut value)
    let width := (texts.map String.length).foldl max 0
    let texts := if has choices 'w' then values.map fun value => fixedText shownPlaces width (cut value)
      else texts
    let texts := match argument? choices 'f' with
      | some format => texts.map fun text => ((Format.ofText .program format).print .program [text]).1
      | none => texts
    let separator := (argument? choices 's').getD "\n"
    put name (if texts.isEmpty then "" else String.intercalate separator texts ++ "\n")

/-! ## Copies -/

def tee (name : String) (words : List String) : Act Nat := do
  let grammar : Grammar := { letters := "ai", long := [("append", 'a')] }
  let some (choices, paths) ← takeOptions? name grammar words | return 1
  let text ← readAll 0
  let own ← put name text
  let status ← forWords (fun path => do
    let shell ← get
    let bytes := Text.toOctets text
    if (Host.device? path).isSome then return 0
    let result := if has choices 'a' then shell.disk.append (Text.narrow path) bytes
      else shell.disk.write (Text.narrow path) bytes
    match result with
    | .ok disk =>
      set { shell with disk }
      return 0
    | .error error => warnWith 1 name (shown path ++ ": " ++ reason error)) paths
  return max own status

/-! ## Searching -/

/-- A basic expression, in which brackets and the like need a backslash, as an extended
one. -/
private def extendedOf : (atStart : Bool) → List Char → List Char
  | _, [] => []
  | _, ['\\'] => ['\\']
  | _, '\\' :: c :: rest =>
    if "(){}|+?".toList.contains c then c :: extendedOf (c == '(' || c == '|') rest
    else '\\' :: c :: extendedOf false rest
  | _, '[' :: rest =>
    let guard := match rest with
      | '^' :: ']' :: _ => 2
      | ']' :: _ | '^' :: _ => 1
      | _ => 0
    let inner := rest.take guard ++ (rest.drop guard).takeWhile (· != ']')
    '[' :: inner ++ extendedOf false (rest.drop inner.length)
  | atStart, c :: rest =>
    if c == '*' && atStart then '\\' :: '*' :: extendedOf false rest
    else if "(){}|+?".toList.contains c then '\\' :: c :: extendedOf false rest
    else if c == '^' && !atStart then '\\' :: '^' :: extendedOf false rest
    else c :: extendedOf (c == '^') rest
termination_by _ text => text.length
decreasing_by all_goals grind

private def literalOf (text : List Char) : List Char :=
  text.flatMap fun c => if c.isAlphanum || c == ' ' then [c] else ['\\', c]

private def searchRegex? (choices : List Choice) (text : String) : Option (Regex × Nat) :=
  let chars := match lastOf choices ['E', 'F', 'G'] with
    | some 'E' => text.toList
    | some 'F' => literalOf text.toList
    | _ => extendedOf true text.toList
  let chars := if has choices 'x' then ['^', '('] ++ chars ++ [')', '$']
    else if has choices 'w' then ['\\', '<', '('] ++ chars ++ [')', '\\', '>'] else chars
  Regex.ofField? (Field.free (String.ofList chars))

private structure Search where
  choices : List Choice
  regexes : List (Regex × Nat)
  titles : Bool

private def Search.spans (search : Search) (line : List Char) : Nat → Nat → List (Nat × Nat)
  | 0, _ => []
  | fuel + 1, least =>
    let found := search.regexes.filterMap fun (regex, _) =>
      Regex.span? (has search.choices 'i') regex line least
    let best := found.foldl (fun best span =>
      match best with
      | none => some span
      | some (start, stop) =>
        if span.1 < start || (span.1 == start && stop < span.2) then some span else best)
      (none : Option (Nat × Nat))
    match best with
    | none => []
    | some (start, stop) => (start, stop) :: search.spans line fuel (max stop (start + 1))

private def Search.accepts (search : Search) (line : String) : Bool :=
  let found := search.regexes.any fun (regex, _) =>
    (Regex.span? (has search.choices 'i') regex line.toList 0).isSome
  found != has search.choices 'v'

private def searchText (name : String) (search : Search) (path text : String) : Act Nat := do
  let choices := search.choices
  let lines := (plainLines text).zipIdx.filter fun (line, _) => search.accepts line
  let lines := match (argument? choices 'm').bind integer? with
    | some most => lines.take most.toNat
    | none => lines
  let shownPath := if path == "-" then "(standard input)" else path
  let title := if search.titles then shownPath ++ ":" else ""
  let status := if lines.isEmpty then 1 else 0
  if has choices 'q' then return status
  if has choices 'l' then
    let _ ← put name (if lines.isEmpty then "" else shownPath ++ "\n")
    return status
  if has choices 'L' then
    let _ ← put name (if lines.isEmpty then shownPath ++ "\n" else "")
    return status
  if has choices 'c' then
    let _ ← put name (title ++ toString lines.length ++ "\n")
    return status
  if text.toList.contains '\x00' && !has choices 'a' then
    if !lines.isEmpty then
      let _ ← put name (name ++ ": " ++ shownPath ++ ": binary file matches\n")
    return status
  let front (index : Nat) : String := title ++ if has choices 'n' then toString (index + 1) ++ ":" else ""
  let rows := lines.flatMap fun (line, index) =>
    if has choices 'o' then
      (search.spans line.toList (line.length + 1) 0).filterMap fun (start, stop) =>
        if start == stop then none
        else some (front index ++ String.ofList ((line.toList.drop start).take (stop - start)))
    else [front index ++ line]
  let _ ← put name (ended rows)
  return status

private def searchFiles (name : String) (search : Search) :
    List String → (found failed : Bool) → Act (Bool × Bool)
  | [], found, failed => return (found, failed)
  | path :: rest, found, failed => do
    match ← textOf path with
    | .ok text =>
      let status ← searchText name search path text
      searchFiles name search rest (found || status == 0) failed
    | .error error =>
      if !has search.choices 's' then warn name (path ++ ": " ++ reason error)
      searchFiles name search rest found true

private def showSearchUsage : Act Nat := do
  let _ ← write 2 "Usage: grep [OPTION]... PATTERNS [FILE]...\nTry \x27grep --help\x27 for more information.\n"
  return 2

def search (name : String) (words : List String) : Act Nat := do
  let grammar : Grammar :=
    { letters := "EFGivnclLqoshHwxe:m:arRIbPyzZ"
      long := [("extended-regexp", 'E'), ("fixed-strings", 'F'), ("ignore-case", 'i'),
        ("invert-match", 'v'), ("line-number", 'n'), ("count", 'c'), ("files-with-matches", 'l'),
        ("files-without-match", 'L'), ("quiet", 'q'), ("silent", 'q'), ("only-matching", 'o'),
        ("no-messages", 's'), ("no-filename", 'h'), ("with-filename", 'H'), ("word-regexp", 'w'),
        ("line-regexp", 'x'), ("regexp", 'e'), ("max-count", 'm'), ("text", 'a')] }
  let some (choices, words) ← takeOptions? name grammar words | return 2
  let given := choices.filterMap fun choice => if choice.1 == 'e' then choice.2 else none
  if given.isEmpty && words.isEmpty then return ← showSearchUsage
  let (texts, paths) := if given.isEmpty then (words.take 1, words.drop 1) else (given, words)
  let texts := texts.flatMap fun text => text.splitOn "\n"
  match texts.mapM (searchRegex? choices) with
  | none => warnWith 2 name "Invalid regular expression"
  | some regexes =>
    let titles := match lastOf choices ['h', 'H'] with
      | some letter => letter == 'H'
      | none => 1 < paths.length
    let paths := if paths.isEmpty then ["-"] else paths
    let (found, failed) ← searchFiles name { choices, regexes, titles } paths false false
    if failed && !(found && has choices 'q') then return 2
    return if found then 0 else 1

end Provision.Shell.Tool
