/-
How serious a log line is. The levels have names, which are written in small
letters and read in either case.
-/

import LatencyService.Text.Ascii

namespace LatencyService

/-- The levels of log lines, from the least serious to the most. -/
inductive LogLevel where
  | trace
  | debug
  | info
  | warn
  | error
  deriving DecidableEq, Repr, Inhabited

namespace LogLevel

/-- All levels. -/
def all : List LogLevel := [trace, debug, info, warn, error]

/-- The name of a level. -/
def name : LogLevel → String
  | trace => "trace"
  | debug => "debug"
  | info => "info"
  | warn => "warn"
  | error => "error"

/-- The name of a level in capitals, as log lines show it. -/
def capitalName : LogLevel → String
  | trace => "TRACE"
  | debug => "DEBUG"
  | info => "INFO"
  | warn => "WARN"
  | error => "ERROR"

/-- The seriousness as a number: the higher, the more serious. -/
def weight : LogLevel → Nat
  | trace => 1
  | debug => 2
  | info => 3
  | warn => 4
  | error => 5

/-- The level of a name in any case. -/
def ofName? (text : String) : Option LogLevel :=
  all.find? fun level => level.name == Ascii.lower text

/-- A level is found by its own name. -/
theorem ofName?_name (level : LogLevel) : ofName? level.name = some level := by
  cases level <;> decide

/-- A level is found by exactly the spellings of its name. -/
theorem ofName?_eq_some_iff {text : String} {level : LogLevel} :
    ofName? text = some level ↔ Ascii.lower text = level.name := by
  constructor
  · intro found
    have same := List.find?_some found
    simpa using (beq_iff_eq.1 same).symm
  · intro same
    simp only [ofName?, same]
    cases level <;> decide

end LogLevel

end LatencyService
