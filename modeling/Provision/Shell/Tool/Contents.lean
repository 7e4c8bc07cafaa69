import Provision.Shell.Format
import Provision.Shell.Host
import Provision.Shell.Tool.Options

/-! Showing what is in files. -/

namespace Provision.Shell.Tool

/-! ## Reading -/

/-- The text of a file or, for a dash, of the first port. -/
def textOf (path : String) : Act (Except IoError String) := do
  if path == "-" then return .ok (← readAll 0)
  match Host.device? path with
  | some .nothing => return .ok ""
  | some (.port port) => return .ok (← readAll port)
  | some .noughts => return .ok ""
  | none => return ((← get).disk.read (Text.narrow path)).map Text.ofOctets

/-- Work on the texts of files, of the first port if there are none. What cannot be read is
reported in the given words. -/
def forTexts (name : String) (fault : String → String) (paths : List String)
    (work : String → String → Act Nat) : Act Nat :=
  forWords (fun path => do
    match ← textOf path with
    | .ok text => work path text
    | .error error =>
      warn name (fault path ++ ": " ++ reason error)
      return 1) (if paths.isEmpty then ["-"] else paths)

/-- Lines of a text without their ends. -/
def plainLines (text : String) : List String :=
  (linesOf text).map fun line =>
    if line.toList.getLast? == some '\n' then String.ofList line.toList.dropLast else line

def endsLine (text : String) : Bool := text.toList.getLast? == some '\n'

/-! ## Whole files -/

private def marked (c : Char) : String :=
  let value := c.toNat
  let low (value : Nat) : String :=
    if value < 32 then "^" ++ String.singleton (Char.ofNat (value + 64))
    else if value == 127 then "^?"
    else String.singleton (Char.ofNat value)
  if value < 128 then low value else "M-" ++ low (value - 128)

private structure Display where
  numbersAll : Bool
  numbersFilled : Bool
  squeezes : Bool
  marksEnds : Bool
  marksTabs : Bool
  marksOthers : Bool

private def Display.char (display : Display) (c : Char) : String :=
  if c == '\t' then (if display.marksTabs then "^I" else "\t")
  else if c == '\n' then "\n"
  else if display.marksOthers then marked c
  else String.singleton c

/-- How far the showing of files has come. -/
private structure Shown where
  number : Nat := 0
  blanks : Nat := 0
  atStart : Bool := true

private def Display.line (display : Display) (state : Shown) (line : String) : Shown × String :=
  let isBlank := state.atStart && line == "\n"
  let blanks := if isBlank then state.blanks + 1 else 0
  if display.squeezes && 2 ≤ blanks then ({ state with blanks }, "")
  else
    let counts := state.atStart &&
      (if display.numbersFilled then !isBlank else display.numbersAll)
    let number := if counts then state.number + 1 else state.number
    let digits := toString number
    let front := if counts then String.ofList (List.replicate (6 - digits.length) ' ') ++ digits ++ "\t" else ""
    let ended := line.toList.getLast? == some '\n'
    let body := if ended then line.toList.dropLast else line.toList
    let lineEnd :=
      if !ended then "" else if display.marksEnds then "$\n" else "\n"
    let body :=
      if display.marksEnds && ended && !display.marksOthers && body.getLast? == some '\r' then
        String.join (body.dropLast.map display.char) ++ "^M"
      else String.join (body.map display.char)
    ({ number, blanks, atStart := ended }, front ++ body ++ lineEnd)

private def Display.text (display : Display) (state : Shown) (text : String) : Shown × String :=
  (linesOf text).foldl (fun (state, shown) line =>
    let (state, more) := display.line state line
    (state, shown ++ more)) (state, "")

private def showFiles (name : String) (display : Display) :
    List String → Shown → Act Nat
  | [], _ => return 0
  | path :: rest, state => do
    match ← textOf path with
    | .ok text =>
      let isPlain := !display.numbersAll && !display.numbersFilled && !display.squeezes &&
        !display.marksEnds && !display.marksTabs && !display.marksOthers
      let (state, text) := if isPlain then (state, text) else display.text state text
      let status ← put name text
      return max status (← showFiles name display rest state)
    | .error error =>
      warn name (shown path ++ ": " ++ reason error)
      return max 1 (← showFiles name display rest state)

def cat (name : String) (words : List String) : Act Nat := do
  let grammar : Grammar :=
    { letters := "AbeEnstTuv"
      long := [("number", 'n'), ("number-nonblank", 'b'), ("squeeze-blank", 's'),
        ("show-all", 'A'), ("show-ends", 'E'), ("show-tabs", 'T'), ("show-nonprinting", 'v')] }
  let some (choices, paths) ← takeOptions? name grammar words | return 1
  let any (letters : String) : Bool := letters.toList.any (has choices)
  let display : Display :=
    { numbersAll := any "n", numbersFilled := any "b", squeezes := any "s", marksEnds := any "AeE"
      marksTabs := any "AtT", marksOthers := any "Aetv" }
  showFiles name display (if paths.isEmpty then ["-"] else paths) {}

def reverseLines (name : String) (words : List String) : Act Nat := do
  let some (_, paths) ← takeOptions? name { letters := "brs:" } words | return 1
  forTexts name (fun path => "failed to open " ++ quoted path ++ " for reading") paths
    fun _ text => put name (String.join (linesOf text).reverse)

def reverseEach (_ : String) (words : List String) : Act Nat := do
  let name := "rev"
  let some (_, paths) ← takeOptions? name { letters := "0" } words | return 1
  forTexts name (fun path => "cannot open " ++ path) paths fun _ text =>
    put name (String.join ((linesOf text).map fun line =>
      if endsLine line then String.ofList (line.toList.dropLast.reverse) ++ "\n"
      else String.ofList line.toList.reverse))

/-! ## Parts of files -/

/-- How much is shown of a file: a number of lines or octets, from the front or the back, or
all but those. -/
private structure Extent where
  ofLines : Bool := true
  count : Nat := 10
  isReversed : Bool := false

private def takePart (extent : Extent) (fromBack : Bool) (text : String) : String :=
  let part {α : Type} (items : List α) : List α :=
    match fromBack, extent.isReversed with
    | false, false => items.take extent.count
    | false, true => items.take (items.length - extent.count)
    | true, false => items.drop (items.length - extent.count)
    | true, true => items.drop (extent.count - 1)
  if extent.ofLines then String.join (part (linesOf text)) else String.ofList (part text.toList)

private def suffixes : List (Char × Nat) :=
  [('b', 512), ('k', 1024), ('K', 1024), ('m', 1048576), ('M', 1048576)]

private def countOf? (text : List Char) : Option Nat :=
  let digits := text.takeWhile Char.isDigit
  if digits.isEmpty then none
  else
    match text.drop digits.length with
    | [] => some (Text.digitsValue digits)
    | [letter] =>
      (suffixes.find? fun entry => entry.1 == letter).map fun entry =>
        Text.digitsValue digits * entry.2
    | _ => none

/-- Read how much is wanted. The mark stands in front of a count that is reversed. -/
private def extentOf? (mark : Char) (ofLines : Bool) (text : String) : Option Extent :=
  match text.toList with
  | c :: rest =>
    if c == mark then (countOf? rest).map fun count => ⟨ofLines, count, true⟩
    else if c == '+' || c == '-' then (countOf? rest).map fun count => ⟨ofLines, count, false⟩
    else (countOf? (c :: rest)).map fun count => ⟨ofLines, count, false⟩
  | [] => none

private def extentIn (name : String) (mark : Char) :
    List Choice → Extent → Act (Option Extent)
  | [], extent => return some extent
  | ('n', some text) :: rest, _ => do
    match extentOf? mark true text with
    | some extent => extentIn name mark rest extent
    | none =>
      warn name ("invalid number of lines: " ++ quoted text)
      return none
  | ('c', some text) :: rest, _ => do
    match extentOf? mark false text with
    | some extent => extentIn name mark rest extent
    | none =>
      warn name ("invalid number of bytes: " ++ quoted text)
      return none
  | _ :: rest, extent => extentIn name mark rest extent

/-- A count may stand in front of all else as an option of its own. -/
private def spelledOut (marks : List Char) (words : List String) : List String :=
  match words with
  | word :: rest =>
    match word.toList with
    | mark :: digit :: more =>
      if marks.contains mark && digit.isDigit && more.all Char.isDigit then
        let front := if mark == '+' then "+" else ""
        ["-n", front ++ String.ofList (digit :: more)] ++ rest
      else words
    | _ => words
  | [] => words

private def title (path : String) : String :=
  "==> " ++ (if path == "-" then "standard input" else path) ++ " <==\n"

private def showParts (name : String) (extent : Extent) (fromBack titles : Bool) :
    (isFirst : Bool) → List String → Act Nat
  | _, [] => return 0
  | isFirst, path :: rest => do
    match ← textOf path with
    | .ok text =>
      let front := if titles then (if isFirst then "" else "\n") ++ title path else ""
      let status ← put name (front ++ takePart extent fromBack text)
      return max status (← showParts name extent fromBack titles false rest)
    | .error error =>
      let isDirectory := error == .isDirectory
      let front := if titles && isDirectory then (if isFirst then "" else "\n") ++ title path else ""
      let _ ← put name front
      if isDirectory then warn name ("error reading " ++ quoted path ++ ": " ++ reason error)
      else warn name ("cannot open " ++ quoted path ++ " for reading: " ++ reason error)
      return max 1 (← showParts name extent fromBack titles (isFirst && !isDirectory) rest)

private def partOf (fromBack : Bool) (name : String) (words : List String) : Act Nat := do
  let marks := if fromBack then ['-', '+'] else ['-']
  let grammar : Grammar :=
    { letters := "n:c:qvfFs:z"
      long := [("lines", 'n'), ("bytes", 'c'), ("quiet", 'q'), ("silent", 'q'), ("verbose", 'v')] }
  let some (choices, paths) ← takeOptions? name grammar (spelledOut marks words) | return 1
  let some extent ← extentIn name (if fromBack then '+' else '-') choices {} | return 1
  let titles := match lastOf choices ['q', 'v'] with
    | some letter => letter == 'v'
    | none => 1 < paths.length
  showParts name extent fromBack titles true (if paths.isEmpty then ["-"] else paths)

def head : String → List String → Act Nat := partOf false

def tail : String → List String → Act Nat := partOf true

/-! ## Counting -/

private structure Counts where
  lines : Nat := 0
  words : Nat := 0
  octets : Nat := 0
  widest : Nat := 0

private def isBlank (c : Char) : Bool := c == ' ' || ('\t' ≤ c && c ≤ '\r')

private def isShown (c : Char) : Bool := ' ' ≤ c && c ≤ '~'

private def countWords : (inWord : Bool) → List Char → Nat
  | _, [] => 0
  | inWord, c :: rest =>
    if isBlank c then countWords false rest
    else if !isShown c then countWords inWord rest
    else (if inWord then 0 else 1) + countWords true rest

private def Counts.ofText (text : String) : Counts :=
  let chars := text.toList
  { lines := chars.count '\n'
    words := countWords false chars
    octets := chars.length
    widest := ((plainLines text).map String.length).foldl max 0 }

private def Counts.add (left right : Counts) : Counts :=
  ⟨left.lines + right.lines, left.words + right.words, left.octets + right.octets,
    max left.widest right.widest⟩

private def Counts.chosen (choices : List Choice) (counts : Counts) : List Nat :=
  let wanted := if choices.isEmpty then "lwc".toList else choices.map Prod.fst
  ([('l', counts.lines), ('w', counts.words), ('m', counts.octets), ('c', counts.octets),
    ('L', counts.widest)].filter fun entry => wanted.contains entry.1).map Prod.snd

private def padded (width : Nat) (number : Nat) : String :=
  let digits := toString number
  String.ofList (List.replicate (width - digits.length) ' ') ++ digits

/-- The size of what stands behind a path, if that is known without reading it. -/
private def sizeOf? (path : String) : Act (Option Nat) := do
  let shell ← get
  if path == "-" then
    match (shell.channelAt? 0).bind fun index => shell.channels[index]? with
    | some (.file id _ _) => return some ((shell.disk.contents? id).getD []).length
    | _ => return none
  if (Host.device? path).isSome then return none
  match shell.disk.read (Text.narrow path) with
  | .ok bytes => return some bytes.length
  | .error .isDirectory => return none
  | .error _ => return some 0

private def countFiles (name : String) (row : Counts → String → String) :
    List String → Counts → Act (Nat × Counts)
  | [], total => return (0, total)
  | path :: rest, total => do
    match ← textOf path with
    | .ok text =>
      let counts := Counts.ofText text
      let _ ← put name (row counts path)
      countFiles name row rest (total.add counts)
    | .error error =>
      warn name (shown path ++ ": " ++ reason error)
      if error == .isDirectory then
        let _ ← put name (row {} path)
      let (_, total) ← countFiles name row rest total
      return (1, total)

def count (name : String) (words : List String) : Act Nat := do
  let grammar : Grammar :=
    { letters := "lwcmL"
      long := [("lines", 'l'), ("words", 'w'), ("bytes", 'c'), ("chars", 'm'),
        ("max-line-length", 'L')] }
  let some (choices, paths) ← takeOptions? name grammar words | return 1
  let sizes ← (if paths.isEmpty then ["-"] else paths).mapM sizeOf?
  let single := paths.length ≤ 1 && (Counts.chosen choices {}).length == 1
  let width :=
    if single then 1
    else if sizes.any Option.isNone then 7
    else (toString ((sizes.map (·.getD 0)).foldl (· + ·) 0)).length
  let row (counts : Counts) (label : String) : String :=
    String.intercalate " " ((counts.chosen choices).map (padded width)) ++
      (if label.isEmpty then "" else " " ++ label) ++ "\n"
  if paths.isEmpty then
    let text ← readAll 0
    return ← put name (row (Counts.ofText text) "")
  let (status, total) ← countFiles name row paths {}
  if 1 < paths.length then return max status (← put name (row total "total"))
  return status

end Provision.Shell.Tool
