import Provision.Console
import Provision.Frame
import Provision.Json.Printer
import Provision.Software

/-! Steps, frames and software as JSON values. Keys without a value are left out of
a frame. -/

namespace Provision

def Step.toJson (step : Step) : Json :=
  .ofMembers [("op", .ofText step.operation.keyword), ("parameter", .ofText step.parameter)]

def Cleanup.toJson (cleanup : Cleanup) : Json :=
  .ofMembers [("kind", .ofText cleanup.kind.word), ("resource", .ofText cleanup.resource)]

def Frame.toJson (frame : Frame) : Json :=
  .ofMembers ([("value", Json.ofText frame.value)] ++
    (frame.cleanup.map fun cleanup => ("cleanup", cleanup.toJson)).toList ++
    (frame.out.map fun text => ("stdout", Json.ofText text)).toList ++
    (frame.err.map fun text => ("stderr", Json.ofText text)).toList)

namespace Report

/-- One executed step with its result. -/
def toJson (report : Step × Frame) : Json :=
  .ofMembers [("step", report.1.toJson), ("result", report.2.toJson)]

/-- What a terminal shows of a step. -/
def line (tag : Option String) (report : Step × Frame) : String :=
  Console.step tag report.1.operation.keyword report.2.render

/-- The document that a run prints for programs to read. -/
def document (reports : List (Step × Frame)) : String :=
  Json.pretty 0 (.array (reports.map toJson)) ++ "\n"

end Report

def optionalText : Option String → Json
  | some text => .ofText text
  | none => .null

def Software.toJson (software : Software) : Json :=
  .ofMembers [
    ("name", optionalText software.name),
    ("version", optionalText software.version),
    ("arch", optionalText (software.arch.map Arch.keyword)),
    ("parameter", .ofText software.parameter),
    ("steps", .array (software.steps.map Step.toJson))]

end Provision
