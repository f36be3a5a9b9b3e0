/-
Settings as the service starts with them: those of a file, or the defaults
when there is none, with the values of the environment in place of their own.
Whether they are valid is asked later, once all layers are applied.
-/

import LatencyService.Config.Overrides
import LatencyService.Toml.Decode

namespace LatencyService

/-- Why the text of a file is not to be had. -/
inductive FileProblem where
  | missing
  | directory
  | notText
  deriving DecidableEq, Repr

/-- The problem in words. -/
def FileProblem.message : FileProblem → String
  | missing => "No such file or directory (os error 2)"
  | directory => "Is a directory (os error 21)"
  | notText => "stream did not contain valid UTF-8"

/-- What was found where a file was to be read. -/
inductive FoundFile where
  | missing
  | directory
  | octets (content : Octets)

/-- Why settings cannot be loaded. -/
inductive LoadFault where
  | unreadable (problem : FileProblem)
  /-- The text and what is wrong with it. -/
  | unparsable (text : Octets) (fault : Toml.Fault)

/-- The fault in words; of a text that breaks the rules of its format nothing more is said. -/
def LoadFault.message : LoadFault → String
  | unreadable problem => "IO error: " ++ problem.message
  | unparsable text (.misfit misfit extent) => "Parse error: " ++ Toml.report text misfit extent
  | unparsable _ .malformed => "Parse error: TOML parse error\n"

namespace Settings

/-- The text of a file. -/
def textOf : FoundFile → Except FileProblem Octets
  | .missing => .error .missing
  | .directory => .error .directory
  | .octets content => if (Octets.toText? content).isSome then .ok content else .error .notText

/-- The settings that a file writes. -/
def ofFile (file : FoundFile) : Except LoadFault Settings :=
  match textOf file with
  | .error problem => .error (.unreadable problem)
  | .ok text =>
    match Toml.decode shape text with
    | .ok settings => .ok settings
    | .error fault => .error (.unparsable text fault)

/-- The settings of a file, if there is one, with the values of the environment. -/
def load (file : Option FoundFile) (lookup : String → Option String) :
    Except LoadFault Settings :=
  match file with
  | none => .ok ((Overrides.ofVariables lookup).apply {})
  | some file => (ofFile file).map (Overrides.ofVariables lookup).apply

end Settings

end LatencyService
