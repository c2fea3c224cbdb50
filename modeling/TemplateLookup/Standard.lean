/-
# TemplateLookup.Standard -- the parts that come from outside, as the program uses them

The library is written for any engine of templates, any encodings, any reader of
documents and any reader of arguments. The program runs with these.
-/

import TemplateLookup.Codec.Basic
import TemplateLookup.Command.Request
import TemplateLookup.Template.Run
import TemplateLookup.Yaml.Reader

namespace TemplateLookup.Standard

instance engine : Template.Engine where
  flaw? := Template.Draft.flaw?
  script := Template.Draft.script

instance encodings : Encodings where
  knows name := (Codec.named? name).isSome || Codec.isTransformation name
  decode := Codec.decodeNamed
  knows_utf8 := by rfl

instance documents : Yaml.Reader where
  read := Yaml.read

instance arguments : Command.ArgumentReader where
  globals? := Command.globals?
  request? := Command.Request.ofArgs?

end TemplateLookup.Standard
