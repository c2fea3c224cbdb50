/-
# TemplateLookup.Template.Escape -- values inside of markup

In a template of markup the printed values are escaped: five characters have an
escape of their own, all others stay. Whether a template is markup is decided
for all templates alike, or for each by the ending of its name, case ignored.
-/

import TemplateLookup.Text.Wide

namespace TemplateLookup.Template

/-- A character inside of markup. -/
def escapedChar (c : Char) : List Char :=
  if c = '&' then "&amp;".toList
  else if c = '<' then "&lt;".toList
  else if c = '>' then "&gt;".toList
  else if c = '\'' then "&#39;".toList
  else if c = '"' then "&#34;".toList
  else [c]

/-- A text inside of markup. -/
def escaped (t : Wide) : Wide :=
  t.flatMap fun
    | .char c => (escapedChar c).map CodePoint.char
    | half => [half]

/-- Which templates are markup. -/
inductive Escaping where
  /-- Those whose name has an ending of markup. -/
  | byName
  | always
  | never
  deriving DecidableEq, Repr, Inhabited

/-- The endings of markup. -/
def markupEndings : List String := [".html", ".xml"]

/-- Whether a name ends with an ending, case ignored. -/
def endsWith (name ending : String) : Bool :=
  ending.toList.reverse.isPrefixOf (name.toList.map Char.toLower).reverse

/-- Whether a template of a name is markup. -/
def Escaping.concerns (escaping : Escaping) (name : String) : Bool :=
  match escaping with
  | .byName => markupEndings.any (endsWith name)
  | .always => true
  | .never => false

end TemplateLookup.Template
