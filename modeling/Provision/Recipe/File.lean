import Provision.Json.Parser
import Provision.Json.Value
import Provision.Machine.Basic
import Provision.Software
import Provision.Toml.Parser
import Provision.Toml.Value

/-! What the documents of recipes mean, in JSON and in TOML. Operations and architectures
are spelled exactly as listings show them. -/

namespace Provision

def Step.fieldNames : List String := ["op", "parameter"]

def Software.fieldNames : List String := ["name", "version", "arch", "parameter", "steps"]

/-- A step needs an operation; its parameter is empty if left out. -/
def Step.ofJson? (value : Json) : Option Step := do
  let field ← value.fields? Step.fieldNames
  let word ← (field "op").bind Json.word?
  let operation ← Operation.ofKeyword? word
  let parameter ← Json.orElse "" Json.text? (field "parameter")
  return { operation, parameter }

/-- The software that a JSON value describes. Every field may be left out. -/
def Software.ofJson? (value : Json) : Option Software := do
  let field ← value.fields? Software.fieldNames
  let name ← Json.optional? Json.text? (field "name")
  let version ← Json.optional? Json.text? (field "version")
  let arch ← Json.optional? (fun value => value.word?.bind Arch.ofKeyword?) (field "arch")
  let parameter ← Json.orElse "" Json.text? (field "parameter")
  let steps ← Json.orElse [] (fun value => value.items?.bind (List.mapM Step.ofJson?)) (field "steps")
  return { name, version, arch, parameter, steps }

/-- A step needs an operation; its parameter is empty if left out. -/
def Step.ofToml? (value : Toml) : Option Step := do
  let field ← value.fields? Step.fieldNames
  let word ← (field "op").bind Toml.word?
  let operation ← Operation.ofKeyword? word
  let parameter ← Toml.orElse "" Toml.text? (field "parameter")
  return { operation, parameter }

/-- The software that a TOML document describes. Every field may be left out. -/
def Software.ofToml? (members : Toml.Members) : Option Software := do
  let name ← Toml.optional? Toml.text? (members.get? "name")
  let version ← Toml.optional? Toml.text? (members.get? "version")
  let arch ← Toml.optional? (fun value => value.word?.bind Arch.ofKeyword?) (members.get? "arch")
  let parameter ← Toml.orElse "" Toml.text? (members.get? "parameter")
  let steps ←
    Toml.orElse [] (fun value => value.items?.bind (List.mapM Step.ofToml?)) (members.get? "steps")
  return { name, version, arch, parameter, steps }

end Provision

/-! Recipe files. The extension says in which of two formats a file is written. -/

namespace Provision.Recipe

inductive Format where
  | toml
  | json
  deriving DecidableEq, Repr

/-- The format of a path's extension, in letters of any case. -/
def Format.ofPath? (path : String) : Option Format :=
  match (PathText.extension? path).map Text.asciiLower with
  | some "toml" => some .toml
  | some "json" => some .json
  | _ => none

def Format.ofPath (path : String) : Except (List String) Format :=
  match Format.ofPath? path with
  | some format => .ok format
  | none => .error ["unsupported recipe file " ++ path ++ " (expected .toml or .json)"]

/-- Stand for the details of what is wrong with a document. -/
def tomlDefect : String := "<toml>"
def jsonDefect : String := "<json>"

/-- Read a recipe written in a format. -/
def parse (format : Format) (text : String) : Except (List String) Software :=
  match format with
  | .toml =>
    match (Toml.parse? text).bind Software.ofToml? with
    | some software => .ok software
    | none => .error ["invalid TOML recipe", tomlDefect]
  | .json =>
    match (Json.parse? text).bind Software.ofJson? with
    | some software => .ok software
    | none => .error ["invalid JSON recipe", jsonDefect]

/-- A recipe without a name goes by the name of its file. -/
def named (path : String) (software : Software) : Software :=
  { software with name := software.name <|> PathText.stem? path }

/-- Load a recipe file. -/
def load (path : String) : Machine.Work Software := do
  let format ← ExceptT.mk (pure (Format.ofPath path))
  let text ← Machine.onDisk (Disk.inquire ("Failed to read " ++ path) fun disk => disk.readText path)
  let software ← Machine.within ("in " ++ path) (ExceptT.mk (pure (parse format text)))
  return named path software

end Provision.Recipe
