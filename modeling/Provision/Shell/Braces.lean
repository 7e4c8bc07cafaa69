import Provision.Shell.Format
import Provision.Shell.Word

/-! Words that stand for several words: lists and ranges in braces. -/

namespace Provision.Shell

namespace Braces

/-- Part of a word: a character that is written freely, or a piece of another kind. -/
private inductive Part where
  | char (c : Char)
  | piece (piece : Piece)

private def Part.isChar (part : Part) (c : Char) : Bool :=
  match part with
  | .char other => other == c
  | .piece _ => false

private def partsOf (word : Word) : List Part :=
  word.flatMap fun
    | .plain text => text.toList.map Part.char
    | piece => [Part.piece piece]

private def wordOf (parts : List Part) : Word :=
  merge (parts.map fun
    | .char c => .plain (String.singleton c)
    | .piece piece => piece)

/-- The parts in front of the brace that closes, and those behind it. -/
private def splitClose : Nat → List Part → Option (List Part × List Part)
  | _, [] => none
  | depth, part :: rest =>
    let onward (depth : Nat) : Option (List Part × List Part) :=
      (splitClose depth rest).map fun (inner, behind) => (part :: inner, behind)
    if part.isChar '\x7b' then onward (depth + 1)
    else if part.isChar '\x7d' then
      match depth with
      | 0 => some ([], rest)
      | depth + 1 => onward depth
    else onward depth

/-- The parts between the commas that are in no inner braces. -/
private def splitCommas : Nat → List Part → List (List Part)
  | _, [] => [[]]
  | depth, part :: rest =>
    if part.isChar ',' && depth == 0 then [] :: splitCommas depth rest
    else
      let depth := if part.isChar '\x7b' then depth + 1
        else if part.isChar '\x7d' then depth - 1 else depth
      match splitCommas depth rest with
      | first :: more => (part :: first) :: more
      | [] => [[part]]

private def numbers (low high : Int) (step : Nat) : List Int :=
  let count := (high - low).natAbs / step + 1
  (List.range count).map fun i =>
    if low ≤ high then low + (i * step : Nat) else low - (i * step : Nat)

private def hasLeadingZero (text : String) : Bool :=
  match text.toList with
  | '-' :: '0' :: _ :: _ | '0' :: _ :: _ => true
  | _ => false

private def padded (width : Nat) (value : Int) : String :=
  let digits := Nat.toDigits 10 value.natAbs
  let sign := if value < 0 then ['-'] else []
  String.ofList (sign ++ List.replicate (width - sign.length - digits.length) '0' ++ digits)

/-- How many words a range may stand for. -/
private def maxRange : Nat := 100000

private def wholeNumber? (text : String) : Option Int :=
  if text.toList.any fun c => c == ' ' || c == '\t' then none
  else (integer? text).filter inWord

private def rangeOf? (low high : String) (step : Nat) : Option (List String) :=
  match wholeNumber? low, wholeNumber? high with
  | some first, some last =>
    if maxRange < (last - first).natAbs / step then none
    else
      let width := if hasLeadingZero low || hasLeadingZero high
        then max low.length high.length else 0
      some ((numbers first last step).map (padded width))
  | _, _ =>
    match low.toList, high.toList with
    | [low], [high] =>
      if low.isAlpha && high.isAlpha then
        some ((numbers low.toNat high.toNat step).map fun n =>
          let c := Char.ofNat n.toNat
          if c == '\\' then "" else String.singleton c)
      else none
    | _, _ => none

private def textOf? (parts : List Part) : Option String :=
  let chars := parts.mapM fun (part : Part) =>
    match part with
    | .char c => some c
    | .piece _ => none
  chars.map String.ofList

private def sequence? (parts : List Part) : Option (List String) := do
  match (← textOf? parts).splitOn ".." with
  | [low, high] => rangeOf? low high 1
  | [low, high, step] => rangeOf? low high (max 1 (← wholeNumber? step).natAbs)
  | _ => none

private def expandParts : Nat → List Part → List (List Part)
  | 0, parts => [parts]
  | fuel + 1, parts =>
    let front := parts.takeWhile fun part => !part.isChar '\x7b'
    match parts.drop front.length with
    | [] => [parts]
    | brace :: rest =>
      let kept := (expandParts fuel rest).map fun behind => front ++ brace :: behind
      match splitClose 0 rest with
      | none => kept
      | some (inner, behind) =>
        let choices : Option (List (List Part)) :=
          match splitCommas 0 inner with
          | [only] =>
            (sequence? only).map (List.map fun text =>
              if text.isEmpty then [Part.piece (.quoted "")] else text.toList.map Part.char)
          | parts => some (parts.flatMap (expandParts fuel))
        match choices with
        | none => kept
        | some choices =>
          choices.flatMap fun choice =>
            (expandParts fuel behind).map fun behind => front ++ choice ++ behind

/-- The words that a word with braces stands for. -/
def unfold (word : Word) : List Word :=
  let hasBrace := word.any fun
    | .plain text => text.toList.contains '\x7b'
    | _ => false
  if hasBrace then
    let parts := partsOf word
    (expandParts parts.length parts).map wordOf
  else [word]

end Braces

end Provision.Shell
