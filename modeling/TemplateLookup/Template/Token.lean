/-
# TemplateLookup.Template.Token -- the tokens of a template text

A template text is literal text with prints and tags in it. Inside prints and
tags stand names, quoted texts, numbers and signs. A flaw that the cutting meets
is the last token, so it counts only when the reading arrives there.
-/

import TemplateLookup.Number.Binary64
import TemplateLookup.Template.Flaw
import TemplateLookup.Text.Wide

namespace TemplateLookup.Template

/-- A token of a template text. -/
inductive Token where
  | literal (cs : List Char)
  | beginPrint
  | endPrint
  | beginTag
  | endTag
  | name (s : String)
  | text (t : Wide)
  | int (n : Nat)
  | real (x : Number.Binary64)
  | sign (s : String)
  | flaw (f : Flaw)
  deriving DecidableEq, Repr, Inhabited

/-- A token as messages call it. -/
def Token.description : Token → String
  | .literal _ => "template data / text"
  | .beginPrint => "begin of print statement"
  | .endPrint => "end of print statement"
  | .beginTag => "begin of statement block"
  | .endTag => "end of statement block"
  | .name s => s
  | .text _ => "string"
  | .int _ => "integer"
  | .real _ => "float"
  | .sign s => s
  | .flaw f => f.message

end TemplateLookup.Template
