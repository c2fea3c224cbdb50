/-
# TemplateLookup.Log.Channel -- where records are written

A channel takes the records of the main logger and of the loggers below it,
from a least level on, and writes each on a line of its own. A least level of
zero leaves the choice to the surroundings, which ask for warnings.
-/

import TemplateLookup.Log.Event

namespace TemplateLookup.Log

/-- A least level and a way of writing. -/
structure Channel where
  level : Level
  format : Format
  deriving DecidableEq, Repr, Inhabited

namespace Channel

/-- The channel of a mode and a level; levels are coloured on a terminal, except
in JSON. -/
def setUp (mode : Mode) (level : Level) (terminal : Bool) : Channel :=
  ⟨level, ⟨mode, terminal⟩⟩

/-- What the user of the command line asks for. -/
structure Wishes where
  verbose : Bool
  quiet : Bool
  /-- Lines for a program instead of a person. -/
  machine : Bool
  deriving DecidableEq, Repr, Inhabited

/-- The mode that is asked for. -/
def Wishes.mode (wishes : Wishes) : Mode :=
  if wishes.machine then .json else if wishes.verbose then .verbose else .human

/-- The level that is asked for; being quiet counts more than being verbose. -/
def Wishes.level (wishes : Wishes) : Level :=
  if wishes.quiet then Level.warning else if wishes.verbose then Level.trace else Level.info

/-- The channel that is asked for. -/
def ofWishes (wishes : Wishes) (terminal : Bool) : Channel :=
  setUp wishes.mode wishes.level terminal

/-- Whether a logger is the main one or below it. -/
def isOurs (logger : String) : Bool :=
  logger = mainLogger || (mainLogger ++ ".").toList.isPrefixOf logger.toList

/-- The least level of records that are written. -/
def threshold (channel : Channel) : Level :=
  if channel.level = Level.unset then Level.warning else channel.level

/-- Whether a record is written; levels that are not positive are switched off. -/
def takes (channel : Channel) (record : Record) : Bool :=
  isOurs record.logger && 0 < record.level && channel.threshold ≤ record.level

/-- The text that a record made at a moment adds to the log. -/
def write (channel : Channel) (moment : Moment) (record : Record) : String :=
  if channel.takes record then channel.format.text record moment ++ "\n" else ""

/-- The text that events at a moment add to the log. -/
def writeAll (channel : Channel) (moment : Moment) (events : List Event) : String :=
  String.join (events.map fun e => channel.write moment e.record)

end Channel

end TemplateLookup.Log
