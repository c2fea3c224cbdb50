/-
# TemplateLookup.Settings.Initial -- the configuration to start with

The text that is written when a configuration is asked for and there is none,
and the version of the program.
-/

namespace TemplateLookup.Settings

/-- The version of the program. -/
def version : String := "0.1.0"

/-- The configuration file to start with. -/
def initialText : String :=
  "# temploc configuration\n" ++
  "\n" ++
  "# Loader kind (registered loaders: file)\n" ++
  "loader: \"file\"\n" ++
  "\n" ++
  "# Template search roots, searched in order; the first match wins.\n" ++
  "# Omit \"path\" to treat template names as absolute file paths.\n" ++
  "path:\n" ++
  "  - \"templates\"\n" ++
  "  # - \"$\x7bSHARED_TEMPLATES\x7d\"\n" ++
  "\n" ++
  "# Encoding of template sources\n" ++
  "encoding: \"utf-8\"\n"

end TemplateLookup.Settings
