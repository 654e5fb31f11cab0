import EditorBridge.Logging.Record
import EditorBridge.Text.Quoted

/-!
# Lines of the log

The compact format of the `tracing-subscriber` library.

A record fits on one line: a time stamp, the level flush right in five columns, the origin when the
log is verbose, the message and the fields.
-/
namespace EditorBridge.Logging

/-- A field as a line shows it, if it does, with the duration to fill in. -/
def Field.written? (duration : String) (field : Field) : Option String :=
  let named text := some (field.name ++ "=" ++ text)
  match field.showing with
  | .plain => named field.text
  | .quoted => named (Text.quoted field.text)
  | .measured => named duration
  | .withheld => none

def Level.padded (level : Level) : String :=
  String.ofList (List.replicate (5 - level.name.length) ' ') ++ level.name

/-- The line of a record, with the time stamp and the duration to fill in. -/
def Record.line (record : Record) (verbose : Bool) (stamp duration : String) : String :=
  stamp ++ " " ++ record.level.padded ++ " "
    ++ (if verbose then record.origin.name ++ ": " else "")
    ++ " ".intercalate (record.message :: record.fields.filterMap (Field.written? duration)) ++ "\n"

end EditorBridge.Logging
