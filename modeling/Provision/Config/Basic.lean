import Provision.Mirror
import Provision.Platform

/-! The settings in force during a run. -/

namespace Provision

structure Config where
  mirror : Mirror := {}
  /-- Attempts of each download. -/
  attempts : Nat := 3
  /-- Seconds after which a request is given up. -/
  timeout : Nat := 30
  /-- Seconds since 1970 before which nothing is downloaded. -/
  notBefore : Option Nat := none
  machineId : Option Uuid := none
  family : Option Family := none
  arch : Option Arch := none
  deriving DecidableEq, Repr

/-- The clock counts seconds in a signed word of 64 bits. A time beyond that cannot be
told, and asking for it is the end of the program. -/
inductive ClockOverflow where
  | clockOverflow
  deriving DecidableEq, Repr

def ClockOverflow.message (_ : ClockOverflow) : String :=
  "overflow when adding duration to `SystemTime`"

namespace Config

/-- The last second the clock can tell. -/
def lastSecond : Nat := 0x7FFFFFFFFFFFFFFF

/-- The time before which no download starts. -/
def startTime (config : Config) : Except ClockOverflow (Option Nat) :=
  match config.notBefore with
  | none => .ok none
  | some seconds => if seconds ≤ lastSecond then .ok (some seconds) else .error .clockOverflow

/-- Bring numbers into their ranges. -/
def normalized (config : Config) : Config :=
  { config with attempts := max 1 config.attempts, timeout := max 5 (min 300 config.timeout) }

end Config

end Provision
