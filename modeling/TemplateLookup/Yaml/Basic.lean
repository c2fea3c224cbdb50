/-
# TemplateLookup.Yaml.Basic -- what reads configuration documents

How a document is written belongs to the reader of documents. It is given a text
and gives the document in it, or says what is wrong with the text.
-/

import TemplateLookup.Data.Basic

namespace TemplateLookup.Yaml

/-- Why a text is no document. -/
structure Flaw where
  message : String
  deriving DecidableEq, Repr, Inhabited

/-- A reader of documents. -/
class Reader where
  read : String → Except Flaw Data

end TemplateLookup.Yaml
