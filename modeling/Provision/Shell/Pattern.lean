/-! Patterns that texts are compared with. -/

namespace Provision.Shell

/-- A text of which some characters were written freely, so that they may have a special
meaning. -/
abbrev Field := List (Char × Bool)

def Field.text (field : Field) : String := String.ofList (field.map Prod.fst)

/-- A text without special meaning. -/
def Field.quoted (text : String) : Field := text.toList.map (·, false)

/-- A text written freely throughout. -/
def Field.free (text : String) : Field := text.toList.map (·, true)

/-- How often one of several patterns has to match. -/
inductive Times where
  | atMostOnce | anyTimes | atLeastOnce | once
  /-- Whatever none of them matches. -/
  | never
  deriving DecidableEq, Repr

/-- Part of a set of characters. -/
inductive Members where
  | range (low high : Char)
  | kind (name : String)
  deriving DecidableEq, Repr

inductive PatternItem where
  | exactly (c : Char)
  | one
  | any
  /-- A character that belongs to the set, or that does not. -/
  | within (members : List Members) (negated : Bool)
  | choice (times : Times) (patterns : List (List PatternItem))
  deriving Repr

abbrev Pattern := List PatternItem

private def isPunctuation (c : Char) : Bool :=
  '!' ≤ c && c ≤ '~' && !c.isAlphanum

/-- Whether a character is of the named kind. -/
def isOfKind (name : String) (c : Char) : Bool :=
  match name with
  | "alnum" => c.isAlphanum
  | "alpha" => c.isAlpha
  | "ascii" => c.toNat < 128
  | "blank" => c == ' ' || c == '\t'
  | "cntrl" => c.toNat < 32 || c.toNat == 127
  | "digit" => c.isDigit
  | "graph" => '!' ≤ c && c ≤ '~'
  | "lower" => c.isLower
  | "print" => ' ' ≤ c && c ≤ '~'
  | "punct" => isPunctuation c
  | "space" => c == ' ' || (9 ≤ c.toNat && c.toNat ≤ 13)
  | "upper" => c.isUpper
  | "word" => c.isAlphanum || c == '_'
  | "xdigit" => c.isDigit || ('a' ≤ c && c ≤ 'f') || ('A' ≤ c && c ≤ 'F')
  | _ => false

def Members.contains (members : Members) (c : Char) : Bool :=
  match members with
  | .range low high => low ≤ c && c ≤ high
  | .kind name => isOfKind name c

/-- The name of a kind of characters, with what stands behind it. -/
private def kindName? (field : Field) : Option (String × Field) :=
  match field with
  | ('[', true) :: (':', true) :: rest =>
    let name := rest.takeWhile fun entry => entry.1.isAlpha
    match rest.drop name.length with
    | (':', _) :: (']', _) :: behind => some (String.ofList (name.map Prod.fst), behind)
    | _ => none
  | _ => none

/-- A single character in a set, which may be written with marks around it or behind a
backslash. -/
private def setChar? (guards : Bool) : Field → Option (Char × Field)
  | ('[', true) :: (mark, true) :: (c, _) :: (close, _) :: (']', _) :: rest =>
    if (mark == '.' || mark == '=') && close == mark then some (c, rest)
    else some ('[', (mark, true) :: (c, true) :: (close, true) :: (']', true) :: rest)
  | ('\\', true) :: (c, free) :: rest =>
    if guards then some (c, rest) else some ('\\', (c, free) :: rest)
  | (c, _) :: rest => some (c, rest)
  | [] => none

/-- The members of a set up to the bracket that closes, which may be a member if it comes
first. -/
private def membersOf (guards : Bool) : (fuel : Nat) → (first : Bool) → Field → Option (List Members × Field)
  | 0, _, _ => none
  | _, _, [] => none
  | fuel + 1, first, field =>
    if !first && field.head? == some (']', true) then some ([], field.tail)
    else
      match kindName? field with
      | some (name, rest) =>
        (membersOf guards fuel false rest).map fun (members, rest) => (.kind name :: members, rest)
      | none =>
        match setChar? guards field with
        | none => none
        | some (low, rest) =>
          let single := (membersOf guards fuel false rest).map fun (members, rest) =>
            (.range low low :: members, rest)
          match rest with
          | ('-', true) :: behind =>
            if behind.head? == some (']', true) then single
            else
              match setChar? guards behind with
              | some (high, rest) =>
                (membersOf guards fuel false rest).map fun (members, rest) =>
                  (.range low high :: members, rest)
              | none => single
          | _ => single

/-- The set whose opening bracket stands in front: its members, whether they are excluded,
and what stands behind the bracket that closes. A backslash is a member in an expression,
and guards a character in a pattern. -/
def Pattern.setOf? (marks : List Char) (guards : Bool) (rest : Field) :
    Option (List Members × Bool × Field) :=
  let negated := marks.any fun mark => rest.head? == some (mark, true)
  let inner := if negated then rest.tail else rest
  (membersOf guards (inner.length + 1) true inner).map fun (members, behind) =>
    (members, negated, behind)

/-- The parts between the bars that are in no inner brackets, and what stands behind the
bracket that closes. -/
private def alternatives : (depth : Nat) → Field → Option (List Field × Field)
  | _, [] => none
  | depth, (c, free) :: rest =>
    if free && c == ')' && depth == 0 then some ([[]], rest)
    else
      let inner := if free && c == '(' then depth + 1
        else if free && c == ')' then depth - 1 else depth
      match alternatives inner rest with
      | some (first :: more, behind) =>
        if free && c == '|' && depth == 0 then some ([] :: first :: more, behind)
        else some (((c, free) :: first) :: more, behind)
      | _ => none

private def timesOf? : Char → Option Times
  | '?' => some .atMostOnce
  | '*' => some .anyTimes
  | '+' => some .atLeastOnce
  | '@' => some .once
  | '!' => some .never
  | _ => none

private def patternItems (extended : Bool) : Nat → Field → Pattern
  | 0, _ => []
  | _, [] => []
  | fuel + 1, (c, free) :: rest =>
    let list :=
      match extended && free, timesOf? c, rest with
      | true, some times, ('(', true) :: inner =>
        (alternatives 0 inner).map fun (choices, behind) =>
          (PatternItem.choice times (choices.map (patternItems extended fuel)), behind)
      | _, _, _ => none
    match list with
    | some (item, behind) => item :: patternItems extended fuel behind
    | none =>
      if free && c == '*' then .any :: patternItems extended fuel rest
      else if free && c == '?' then .one :: patternItems extended fuel rest
      else if free && c == '[' then
        match Pattern.setOf? ['!', '^'] true rest with
        | some (members, negated, behind) =>
          .within members negated :: patternItems extended fuel behind
        | none => .exactly c :: patternItems extended fuel rest
      else if free && c == '\\' then
        match rest with
        | (next, _) :: behind => .exactly next :: patternItems extended fuel behind
        | [] => [.exactly c]
      else .exactly c :: patternItems extended fuel rest

namespace Pattern

def ofField (extended : Bool) (field : Field) : Pattern :=
  patternItems extended (field.length + 1) field

/-- Whether anything but one text can match. -/
def isOpen (pattern : Pattern) : Bool :=
  pattern.any fun
    | .exactly _ => false
    | _ => true

private def suffixes : List Char → List (List Char)
  | [] => [[]]
  | c :: rest => (c :: rest) :: suffixes rest

private def sameLetter (ignoreCase : Bool) (a b : Char) : Bool :=
  a == b || (ignoreCase && a.toLower == b.toLower)

private def belongs (ignoreCase : Bool) (members : List Members) (c : Char) : Bool :=
  members.any fun part =>
    part.contains c || (ignoreCase && (part.contains c.toLower || part.contains c.toUpper))

/-- Whether the pattern matches a beginning of the text such that the rest of it is all
right. -/
private def leads (ignoreCase : Bool) :
    (fuel : Nat) → Pattern → List Char → (List Char → Bool) → Bool
  | 0, _, _, _ => false
  | _, [], text, accepts => accepts text
  | fuel + 1, item :: rest, text, accepts =>
    let onward := fun text => leads ignoreCase fuel rest text accepts
    match item with
    | .any => (suffixes text).any onward
    | .exactly c =>
      match text with
      | d :: text => sameLetter ignoreCase c d && onward text
      | [] => false
    | .one =>
      match text with
      | _ :: text => onward text
      | [] => false
    | .within members negated =>
      match text with
      | c :: text => belongs ignoreCase members c != negated && onward text
      | [] => false
    | .choice times patterns =>
      let once := fun (accepts : List Char → Bool) =>
        patterns.any fun pattern => leads ignoreCase fuel pattern text accepts
      let again := fun (behind : List Char) =>
        behind.length < text.length &&
          leads ignoreCase fuel (.choice .anyTimes patterns :: rest) behind accepts
      match times with
      | .once => once onward
      | .atMostOnce => onward text || once onward
      | .anyTimes => onward text || once again
      | .atLeastOnce => once fun behind => onward behind || again behind
      | .never =>
        (suffixes text).any fun behind =>
          !(once fun other => other.length == behind.length) && onward behind

private def sizeOf_ (pattern : Pattern) : Nat :=
  pattern.foldl (fun size item =>
    match item with
    | .choice _ patterns => size + 2 + patterns.foldl (fun size inner => size + 2 * inner.length + 2) 0
    | _ => size + 1) 1

/-- Whether the pattern matches all of the text. -/
def accepts (ignoreCase : Bool) (pattern : Pattern) (text : List Char) : Bool :=
  leads ignoreCase (4 * (sizeOf_ pattern + 1) * (text.length + 2)) pattern text List.isEmpty

/-- How long the beginnings of the text are that match, shortest first. -/
def fronts (ignoreCase : Bool) (pattern : Pattern) (text : List Char) : List Nat :=
  (List.range (text.length + 1)).filter fun count => pattern.accepts ignoreCase (text.take count)

end Pattern

end Provision.Shell
