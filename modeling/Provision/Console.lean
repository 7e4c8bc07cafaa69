/-! Lines for a colour terminal. -/

namespace Provision.Console

/-- Text between the codes that switch a colour or weight on and off. -/
def styled (on off : String) (text : String) : String :=
  "\x1b[" ++ on ++ "m" ++ text ++ "\x1b[" ++ off ++ "m"

def bold : String → String := styled "1" "0"
def dimmed : String → String := styled "2" "0"
def red : String → String := styled "31" "39"
def green : String → String := styled "32" "39"
def yellow : String → String := styled "33" "39"
def blue : String → String := styled "34" "39"
def cyan : String → String := styled "36" "39"

/-- Something large begins. -/
def action (message : String) : String := bold (blue "==>") ++ " " ++ bold message ++ "\n"

/-- A step was carried out; the tag tells apart the runs that share a terminal. -/
def step (tag : Option String) (operation result : String) : String :=
  let tag := match tag with
    | some name => "[" ++ name ++ "] "
    | none => ""
  "  " ++ dimmed tag ++ cyan "->" ++ " executed " ++ bold operation ++ " with result " ++
    result ++ "\n"

def detail (message : String) : String := "     " ++ dimmed message ++ "\n"

def success (message : String) : String := bold (green "==>") ++ " " ++ green message ++ "\n"

def info (message : String) : String := cyan "::" ++ " " ++ message ++ "\n"

def warning (message : String) : String := bold (yellow "warning:") ++ " " ++ yellow message ++ "\n"

def error (message : String) : String := bold (red "error:") ++ " " ++ red message ++ "\n"

def pair (name value : String) : String := "  " ++ cyan name ++ " = " ++ value ++ "\n"

/-- One line of a tree, two blanks further in for each level. -/
def treeLine (depth : Nat) (text : String) : String :=
  String.ofList (List.replicate (2 * depth) ' ') ++ text ++ "\n"

end Provision.Console
