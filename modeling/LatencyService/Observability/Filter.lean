/-
Which log lines are written. A filter is a list of directives: a directive
names the sources it holds for by what their names begin with, and the least
level it lets pass. Of all directives that hold for a source the one with the
longest name decides.
-/

import LatencyService.Observability.Level
import LatencyService.Text.Blank
import LatencyService.Text.Pieces

namespace LatencyService

/-- What a directive lets pass: lines of a level and more serious ones, or nothing. -/
inductive Threshold where
  | none
  | from (level : LogLevel)
  deriving DecidableEq, Repr

namespace Threshold

/-- The line passes. -/
def allows : Threshold → LogLevel → Bool
  | none, _ => false
  | .from least, level => least.weight ≤ level.weight

/-- A threshold by its name or its number; nothing stands for errors alone. -/
def ofText? (text : String) : Option Threshold :=
  if text.isEmpty then some (.from .error)
  else if Ascii.lower text == "off" then some none
  else
    match LogLevel.ofName? text, Ascii.decimal? text.toList with
    | some level, _ => some (.from level)
    | _, some 0 => some none
    | _, some 1 => some (.from .error)
    | _, some 2 => some (.from .warn)
    | _, some 3 => some (.from .info)
    | _, some 4 => some (.from .debug)
    | _, some 5 => some (.from .trace)
    | _, _ => Option.none

end Threshold

/-- A rule of a filter. -/
structure Directive where
  /-- What the names of the sources begin with. -/
  source : String := ""
  threshold : Threshold := .from .trace
  deriving DecidableEq, Repr

namespace Directive

/-- A directive: a threshold, a source, or both with an equals sign between them. -/
def ofText? (text : String) : Option Directive :=
  let chars := Blank.trimChars text.toList
  let isNamed := fun (char : Char) =>
    ['-', ':', '_'].contains char || Ascii.isLetter char || Ascii.isDigit char || char.toNat ≥ 0x80
  if !chars.head?.any isNamed then none
  else if chars.contains '[' || chars.contains ']' then none
  else
    let source := chars.takeWhile (· != '=')
    let rest := chars.drop source.length
    match rest with
    | [] =>
      match Threshold.ofText? (String.ofList chars) with
      | some threshold => some { threshold }
      | none => some { source := String.ofList source }
    | _ :: written =>
      if written.isEmpty then some { source := String.ofList source }
      else (Threshold.ofText? (String.ofList written)).map fun threshold =>
        { source := String.ofList source, threshold }

end Directive

/-- A filter of log lines. -/
structure LogFilter where
  directives : List Directive
  deriving DecidableEq, Repr

namespace LogFilter

/-- The filter that a text writes: directives with commas between them. An empty text lets errors
pass alone. -/
def ofText? (text : String) : Option LogFilter :=
  let pieces := (Pieces.splitAt ',' text.toList).filter (!·.isEmpty)
  match pieces.mapM fun piece => Directive.ofText? (String.ofList piece) with
  | none => none
  | some [] => some ⟨[{ threshold := .from .error }]⟩
  | some directives => some ⟨directives⟩

/-- The sources of the service's own lines and of its HTTP layers. -/
def ownSources : List String := ["demo_service", "tower_http"]

/-- The text of the filter for a configured level. -/
def standardText (level : String) : String :=
  String.intercalate "," (ownSources.map fun source => source ++ "=" ++ Ascii.lower level)

/-- The directive that decides about a source: the longest that holds, and of equal ones the
last. -/
def deciding? (filter : LogFilter) (source : String) : Option Directive :=
  filter.directives.foldl (fun best directive =>
    if directive.source.toList.isPrefixOf source.toList &&
        best.all (fun other => other.source.length ≤ directive.source.length) then
      some directive
    else best) none

/-- The line of a source passes. -/
def allows (filter : LogFilter) (source : String) (level : LogLevel) : Bool :=
  match filter.deciding? source with
  | some directive => directive.threshold.allows level
  | none => false

/-- The variable of the environment that asks for a filter. -/
def requestVariable : String := "RUST_LOG"

/-- The filter of a service: the one that is asked for, when there is one and it is readable, or
else the standard one for the level. -/
def chosen (requested : Option String) (level : String) : LogFilter :=
  match requested.bind ofText? with
  | some filter => filter
  | none => (ofText? (standardText level)).getD ⟨[]⟩

end LogFilter

end LatencyService
