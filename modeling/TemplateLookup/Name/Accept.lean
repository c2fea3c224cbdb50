/-
# TemplateLookup.Name.Accept -- which names are looked up

A name is accepted when it is given, not empty, and has a normal form. The
decision looks at nothing but the name, so a refused name is refused for every
set of roots and every state of the files.
-/

import TemplateLookup.LookupError
import TemplateLookup.Name.Normal

namespace TemplateLookup.Name

/-- The location of a name below any root, or why the name is refused. -/
def accept : Option String → Except LookupError String
  | none => .error (.unnamed none)
  | some name =>
    if name = "" then .error (.unnamed (some name))
    else match normal? name with
      | some location => .ok location
      | none => .error (.climbs name)

end TemplateLookup.Name
