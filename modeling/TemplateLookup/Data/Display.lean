/-
# TemplateLookup.Data.Display -- how a value is shown in messages

A value inside a message is shown in one line: texts in quotes, lists in square
brackets, mappings in braces as `key: value`, items separated by a comma and a
space. On its own a text is shown bare; everything else looks the same in both
places.
-/

import TemplateLookup.Data.Basic
import TemplateLookup.Number.Layout
import TemplateLookup.Text.Pieces
import TemplateLookup.Text.Quoted

namespace TemplateLookup

/-- The spellings of the words. -/
def Scalar.shown : Scalar → String
  | .null => "None"
  | .bool true => "True"
  | .bool false => "False"
  | .int n => toString n
  | .real x => Number.Layout.plain.number x
  | .text s => Text.quoted s

namespace Data

mutual

/-- A value as it is shown inside a message. -/
def shown : Data → String
  | .scalar s => s.shown
  | .list items => "[" ++ Text.joinWith ", " (shownItems items) ++ "]"
  | .mapping entries => "\x7b" ++ Text.joinWith ", " (shownEntries entries) ++ "\x7d"

def shownItems : List Data → List String
  | [] => []
  | d :: rest => shown d :: shownItems rest

def shownEntries : List (Scalar × Data) → List String
  | [] => []
  | (key, d) :: rest => (key.shown ++ ": " ++ shown d) :: shownEntries rest

end

/-- A value as it is shown on its own: a text stands for itself. -/
def plain : Data → String
  | text s => s
  | d => d.shown

end Data

end TemplateLookup
