import DocFilter.Text.Lines
import DocFilter.Text.LowerCase

/-!
# Log records

Records with a level, the name of what logs them, and a message; and the line that a record is
written as.
-/

namespace DocFilter

namespace Log

inductive Level where
  | debug
  | info
  | warning
  | error
  | critical
deriving DecidableEq

namespace Level

def number : Level → Nat
  | .debug => 10
  | .info => 20
  | .warning => 30
  | .error => 40
  | .critical => 50

def name : Level → String
  | .debug => "DEBUG"
  | .info => "INFO"
  | .warning => "WARNING"
  | .error => "ERROR"
  | .critical => "CRITICAL"

end Level

/-- One record, which may carry the words of the failure that it is about. -/
structure Record where
  level : Level
  origin : String
  message : String
  failure : Option String

/-- How a record is written: its message alone, with the program and level, or with the time, level
and origin. -/
inductive Style where
  | bare
  | labelled
  | timed
deriving DecidableEq

/-- The line of a record, without its end. -/
def Record.line (r : Record) (style : Style) (time : String) : String :=
  match style with
  | .bare => r.message
  | .labelled => s!"docweave: {r.level.name}: {r.message}"
  | .timed => s!"[{time}] [{r.level.name}] [{r.origin}] {r.message}"

/-- A record as it is written. The failure that it carries adds the lines of its words after the
first, below the message. -/
def Record.text (r : Record) (style : Style) (time : String) : String :=
  let line := r.line style time
  match r.failure with
  | none => line ++ "\n"
  | some words =>
    let more := (splitChars '\n' words.toList).drop 1
    let head := if line.endsWith "\n" then line else line ++ "\n"
    head ++ String.join (more.map fun l => String.ofList l ++ "\n")

/-- Which records are written, how, and whether they also go to a file. -/
structure Setup where
  threshold : Int
  style : Style
  file : Option String

/-- Records from warnings on, bare and on the error stream only. -/
def Setup.initial : Setup := ⟨30, .bare, none⟩

/-- The number of a level given by name in any case. -/
def levelNumber? (name : String) : Option Nat :=
  match upperAscii name with
  | "CRITICAL" | "FATAL" => some 50
  | "ERROR" => some 40
  | "WARNING" | "WARN" => some 30
  | "INFO" => some 20
  | "DEBUG" => some 10
  | "NOTSET" => some 0
  | _ => none

end Log

end DocFilter
