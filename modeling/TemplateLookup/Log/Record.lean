/-
# TemplateLookup.Log.Record -- log records and their text

A record has a level, the name of the logger it comes from, and a message. It
is written in one of three modes: for people as `[LEVEL] message`, in the
verbose mode with the time of day behind the level, and as one line of JSON.
The first two can colour the level.
-/

import TemplateLookup.Data.Display
import TemplateLookup.Json.Printer
import TemplateLookup.Log.Level
import TemplateLookup.Log.Moment

namespace TemplateLookup.Log

/-- One thing that is reported. -/
structure Record where
  level : Level
  logger : String
  message : String
  deriving DecidableEq, Repr, Inhabited

/-- How records are written. -/
inductive Mode where
  | human
  | verbose
  | json
  deriving DecidableEq, Repr, Inhabited

/-- The mode of a name. -/
def Mode.named? : Data → Option Mode
  | .text "human" => some .human
  | .text "verbose" => some .verbose
  | .text "json" => some .json
  | _ => none

/-- The message about a name that no mode has. -/
def Mode.unknown (name : Data) : String := name.shown ++ " is not a valid LogMode"

/-- The mode of writing and whether levels are coloured. -/
structure Format where
  mode : Mode
  coloured : Bool
  deriving DecidableEq, Repr, Inhabited

namespace Format

/-- The level of a record in brackets. -/
def tag (format : Format) (level : Level) : String :=
  let name := "[" ++ level.name ++ "]"
  if format.coloured then level.colour ++ name ++ Level.plainColour else name

/-- A record as a document. -/
def document (record : Record) (moment : Moment) : Data :=
  .record [("level", .text record.level.name), ("ts", .text moment.text),
    ("logger", .text record.logger), ("msg", .text record.message)]

/-- The text of a record made at a moment. -/
def text (format : Format) (record : Record) (moment : Moment) : String :=
  match format.mode with
  | .human => format.tag record.level ++ " " ++ record.message
  | .verbose =>
    format.tag record.level ++ "[" ++ moment.clockText ++ "] " ++ record.message
  | .json => Json.line (document record moment)

/-- The year of a moment that cannot be written, when the mode writes moments. -/
def yearBeyond? (format : Format) (moment : Moment) : Option Int :=
  if format.mode ≠ .human && !moment.isWritable then some moment.date.1 else none

/-- The message about a year that cannot be written. -/
def beyond (year : Int) : String := "year " ++ toString year ++ " is out of range"

end Format

end TemplateLookup.Log
