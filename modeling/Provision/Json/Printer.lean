import Provision.Json.Value
import Provision.Text.Numeral

/-! The written forms of a JSON value: on one line without blanks, or laid out with
two blanks for each level. -/

namespace Provision.Json

/-- One character inside a JSON string. Only quote, backslash and the controls below
the blank are escaped. -/
def escapeChar (c : Char) : List Char :=
  if c == '"' then ['\\', '"']
  else if c == '\\' then ['\\', '\\']
  else if c == '\x08' then ['\\', 'b']
  else if c == '\x0c' then ['\\', 'f']
  else if c == '\n' then ['\\', 'n']
  else if c == '\r' then ['\\', 'r']
  else if c == '\t' then ['\\', 't']
  else if c.toNat < 0x20 then ['\\', 'u'] ++ Text.hexFixed 4 c.toNat
  else [c]

def quoteChars (text : String) : List Char :=
  ['"'] ++ text.toList.flatMap escapeChar ++ ['"']

def quote (text : String) : String := String.ofList (quoteChars text)

mutual

/-- The value on one line. -/
def render : Json → String
  | null => "null"
  | bool value => if value then "true" else "false"
  | number literal => literal
  | string text => quote (text.getD "")
  | array items => "[" ++ renderItems items ++ "]"
  | object members => "\x7b" ++ renderMembers members ++ "\x7d"

def renderItems : List Json → String
  | [] => ""
  | [item] => render item
  | item :: rest => render item ++ "," ++ renderItems rest

def renderMembers : List (Option String × Json) → String
  | [] => ""
  | [(key, value)] => quote (key.getD "") ++ ":" ++ render value
  | (key, value) :: rest =>
    quote (key.getD "") ++ ":" ++ render value ++ "," ++ renderMembers rest

end

/-- A new line at this level. -/
def newline (level : Nat) : String := "\n" ++ String.ofList (List.replicate (2 * level) ' ')

mutual

/-- The value laid out from this level on. Empty containers stay on one line. -/
def pretty (level : Nat) : Json → String
  | array (item :: rest) =>
    "[" ++ newline (level + 1) ++ pretty (level + 1) item ++ prettyItems level rest ++
      newline level ++ "]"
  | object ((key, value) :: rest) =>
    "\x7b" ++ newline (level + 1) ++ quote (key.getD "") ++ ": " ++ pretty (level + 1) value ++
      prettyMembers level rest ++ newline level ++ "\x7d"
  | array [] => "[]"
  | object [] => "\x7b\x7d"
  | null => "null"
  | bool value => if value then "true" else "false"
  | number literal => literal
  | string text => quote (text.getD "")

def prettyItems (level : Nat) : List Json → String
  | [] => ""
  | item :: rest => "," ++ newline (level + 1) ++ pretty (level + 1) item ++ prettyItems level rest

def prettyMembers (level : Nat) : List (Option String × Json) → String
  | [] => ""
  | (key, value) :: rest =>
    "," ++ newline (level + 1) ++ quote (key.getD "") ++ ": " ++ pretty (level + 1) value ++
      prettyMembers level rest

end

end Provision.Json
