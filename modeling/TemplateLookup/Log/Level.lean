/-
# TemplateLookup.Log.Level -- how serious a log record is

A level is an integer; more serious records have greater levels. Seven levels
have a word of their own, the others are named by their number.
-/

namespace TemplateLookup.Log

/-- How serious a record is. -/
abbrev Level := Int

namespace Level

def critical : Level := 50
def error : Level := 40
def warning : Level := 30
def info : Level := 20
def debug : Level := 10
/-- Finer than `debug`, for the steps of building a locator. -/
def trace : Level := 5
def unset : Level := 0

/-- The name of a level. -/
def name (level : Level) : String :=
  if level = critical then "CRITICAL"
  else if level = error then "ERROR"
  else if level = warning then "WARNING"
  else if level = info then "INFO"
  else if level = debug then "DEBUG"
  else if level = trace then "TRACE"
  else if level = unset then "NOTSET"
  else "Level " ++ toString level

/-- The terminal sequence that ends a colour. -/
def plainColour : String := "\x1b[0m"

/-- The terminal sequence that starts the colour of a level: grey, cyan, green,
yellow and red from trace to error; levels without a colour have the plain one. -/
def colour (level : Level) : String :=
  if level = trace then "\x1b[90m"
  else if level = debug then "\x1b[36m"
  else if level = info then "\x1b[32m"
  else if level = warning then "\x1b[33m"
  else if level = error ∨ level = critical then "\x1b[31m"
  else plainColour

end Level

end TemplateLookup.Log
