/-
Lines of the log as they are written: as JSON, one document in each line, or
as a text for the eye. When something was logged is written in front, as it is
given.
-/

import LatencyService.Config.Settings
import LatencyService.Observability.Event

namespace LatencyService.LogLine

/-- The value of a field for the eye. -/
def plain : Tree → String
  | .text value => value
  | tree => Json.render tree

/-- An event as a JSON document. -/
def json (moment : String) (event : Event) : String :=
  Json.object
    [ ("timestamp", Json.quote moment), ("level", Json.quote event.level.capitalName),
      ("fields", Json.render (.table (("message", .text event.text) :: event.fields))),
      ("target", Json.quote event.source) ]

/-- The name of a level, with blanks in front of the short ones. -/
def levelColumn (level : LogLevel) : String :=
  String.ofList (List.replicate (5 - level.capitalName.length) ' ') ++ level.capitalName

/-- An event as a text for the eye. -/
def pretty (moment : String) (event : Event) : String :=
  moment ++ " " ++ levelColumn event.level ++ " " ++ event.source ++ ": " ++
    String.intercalate " "
      (event.text :: event.fields.map fun field => field.1 ++ "=" ++ plain field.2)

/-- An event in a format. -/
def render (format : LogFormat) (moment : String) (event : Event) : String :=
  match format with
  | .json => json moment event
  | .pretty => pretty moment event

end LatencyService.LogLine
