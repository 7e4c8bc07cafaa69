import Provision.Toml.Scalar

/-! Reading TOML documents: lines that hold a key with its value, headers of tables, and
values that may nest. -/

namespace Provision.Toml

/-- Values nest, and keys have parts, less deep than this. -/
def depthLimit : Nat := 80

/-- Further parts of a key after dots. -/
def keyParts? : (fuel : Nat) → List Char → Option (List String × List Char)
  | 0, _ => none
  | fuel + 1, text =>
    match skipSpaces text with
    | '.' :: rest =>
      match keyPart? (skipSpaces rest) with
      | none => none
      | some (part, rest) => (keyParts? fuel rest).map fun (parts, rest) => (part :: parts, rest)
    | _ => some ([], text)

/-- A key, parted into the tables it leads through and its last word. -/
def key? (text : List Char) : Option (List String × String × List Char) := do
  let (first, text) ← keyPart? text
  let (more, text) ← keyParts? depthLimit text
  if depthLimit ≤ more.length + 1 then none
  else return ((first :: more).dropLast, more.getLastD first, text)

mutual

/-- A value of any kind. `depth` counts the containers that may still be opened. -/
def value? : (fuel depth : Nat) → List Char → Option (Toml × List Char)
  | 0, _, _ => none
  | fuel + 1, depth, text =>
    match text with
    | '[' :: rest =>
      match depth with
      | 0 => none
      | depth + 1 =>
        (arrayItems? fuel depth (skipLines rest.length rest)).map fun (items, rest) => (.array items, rest)
    | '\x7b' :: rest =>
      match depth with
      | 0 => none
      | depth + 1 =>
        match skipSpaces rest with
        | '\x7d' :: rest => some (.table .inline [], rest)
        | text =>
          (inlineMembers? fuel depth text []).map fun (members, rest) =>
            (.table .inline members, rest)
    | '"' :: _ | '\x27' :: _ => (string? text).map fun (text, rest) => (.string text, rest)
    | _ => plain? text

/-- Items of an array up to its closing bracket. A comma may follow the last one. -/
def arrayItems? : (fuel depth : Nat) → List Char → Option (List Toml × List Char)
  | 0, _, _ => none
  | fuel + 1, depth, text =>
    match text with
    | ']' :: rest => some ([], rest)
    | _ =>
      match value? fuel depth text with
      | none => none
      | some (item, rest) =>
        match skipLines rest.length rest with
        | ']' :: rest => some ([item], rest)
        | ',' :: rest =>
          (arrayItems? fuel depth (skipLines rest.length rest)).map fun (items, rest) =>
            (item :: items, rest)
        | _ => none

/-- Members of a table in braces, added to those before. -/
def inlineMembers? : (fuel depth : Nat) → List Char → Members → Option (Members × List Char)
  | 0, _, _, _ => none
  | fuel + 1, depth, text, members =>
    match key? text with
    | none => none
    | some (path, key, rest) =>
      match skipSpaces rest with
      | '=' :: rest =>
        match value? fuel depth (skipSpaces rest) with
        | none => none
        | some (value, rest) =>
          match addValue path key value .implied members with
          | none => none
          | some members =>
            match skipSpaces rest with
            | '\x7d' :: rest => some (members, rest)
            | ',' :: rest => inlineMembers? fuel depth (skipSpaces rest) members
            | _ => none
      | _ => none

end

/-- What was read so far, and the table to which the next keys belong. -/
structure Document where
  members : Members := []
  current : List String := []

/-- A key with its value, up to the end of its line. -/
def keyLine? (document : Document) (text : List Char) :
    Option (Document × List Char) := do
  let (path, key, text) ← key? text
  match skipSpaces text with
  | '=' :: rest =>
    let (value, rest) ← value? (2 * rest.length + 2) (depthLimit - 1) (skipSpaces rest)
    let rest ← lineEnd? rest
    let members ← descend false (addValue path key value) document.current .header document.members
    return ({ document with members }, rest)
  | _ => none

/-- A header, up to the end of its line. -/
def headerLine? (document : Document) (text : List Char) :
    Option (Document × List Char) := do
  match text with
  | '[' :: text =>
    let (path, key, text) ← key? (skipSpaces text)
    match skipSpaces text with
    | ']' :: ']' :: rest =>
      let rest ← lineEnd? rest
      let members ← openNext path key document.members
      return (⟨members, path ++ [key]⟩, rest)
    | _ => none
  | text =>
    let (path, key, text) ← key? (skipSpaces text)
    match skipSpaces text with
    | ']' :: rest =>
      let rest ← lineEnd? rest
      let members ← openTable path key document.members
      return (⟨members, path ++ [key]⟩, rest)
    | _ => none

/-- Line by line to the end of the text. Every line takes at least one character. -/
def lines? : (fuel : Nat) → Document → List Char → Option Document
  | 0, document, _ => some document
  | fuel + 1, document, text =>
    match skipSpaces text with
    | [] => some document
    | '[' :: rest =>
      match headerLine? document rest with
      | none => none
      | some (document, rest) => lines? fuel document rest
    | c :: rest =>
      if c == '#' || c == '\n' || c == '\r' then
        match lineEnd? (c :: rest) with
        | none => none
        | some rest => lines? fuel document rest
      else
        match keyLine? document (c :: rest) with
        | none => none
        | some (document, rest) => lines? fuel document rest

/-- The members of the table that a document is. A byte order mark may come first. -/
def parse? (text : String) : Option Members :=
  let chars := match text.toList with
    | '\uFEFF' :: rest => rest
    | chars => chars
  (lines? (chars.length + 1) {} chars).map Document.members

end Provision.Toml
