import AccountDirectory.CommandLine.Arguments
import AccountDirectory.Json.Printer
import AccountDirectory.Log

/-!
# Lines of the log

How the command line shows log entries: one line for each event of level `info` or higher, as text
or as JSON. Spans are not shown.
-/

namespace AccountDirectory

/-- The name of a level. -/
def Level.name : Level → String
  | .debug => "DEBUG"
  | .info => "INFO"
  | .warn => "WARN"
  | .error => "ERROR"

namespace CommandLine

/-- The line for an entry, if it is shown. -/
def LogFormat.line? (format : LogFormat) : LogEntry → Option String
  | .event .debug _ _ | .span .. | .record _ => none
  | .event level message fields =>
    match format with
    | .text =>
      some (level.name ++ " " ++ message ++
        String.join (fields.map fun (name, value) ↦ " " ++ name ++ "=" ++ value))
    | .json =>
      some (Json.Value.object
        ([("level", .text level.name), ("message", .text message)] ++
          fields.map fun (name, value) ↦ (name, .text value))).compact

end CommandLine

end AccountDirectory
