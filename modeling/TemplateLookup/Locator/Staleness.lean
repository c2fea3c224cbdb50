/-
# TemplateLookup.Locator.Staleness -- whether a loaded template is still current

A template is fresh when the file that would be loaded now is the file it was
loaded from, and that file's time is the one that is known. The file it was
loaded from is the candidate of the root in the table, or, without an entry, of
the root that would be used now. Any doubt makes it stale. Only one question is
answered by refusing: whether a path exists whose names are too long.
-/

import TemplateLookup.Locator.Search

namespace TemplateLookup

/-- The time stamp of what cannot be read. -/
def unknownStamp : Number.Binary64 := .finite false 0

namespace Locator

/-- Whether the file at a location, loaded from one root and found under another,
has to be loaded again. -/
def hasChanged (w : World) (location loaded current : String) (known : Number.Numeral) :
    Except SystemError Bool :=
  let loadedFile := candidate loaded location
  let currentFile := candidate current location
  match w.exists? loadedFile with
  | .error e => .error e
  | .ok false => .ok true
  | .ok true =>
    if currentFile ≠ loadedFile ∨ ¬ w.isReadable loadedFile then .ok true
    else match w.stampAt? loadedFile with
      | none => .ok true
      | some stamp => .ok (!known.equals stamp)

/-- Whether a template with a known time stamp has to be loaded again. -/
def isStale (w : World) (l : Locator) (table : Provenance) (name : Option String)
    (known : Number.Numeral) : Except SystemError Bool :=
  match Name.accept name with
  | .error _ => .ok true
  | .ok location =>
    match readableRoot w location l.roots.names with
    | none => .ok true
    | some current =>
      hasChanged w location ((table.root? (name.getD "")).getD current) current known

/-- The time stamp of the file that a template was loaded from. -/
def lastModified (w : World) (table : Provenance) (name : Option String) : Number.Binary64 :=
  match name.bind table.root? with
  | none => unknownStamp
  | some root =>
    match Name.accept name with
    | .error _ => unknownStamp
    | .ok location =>
      let path := candidate root location
      if w.isReadable path then (w.stampAt? path).getD unknownStamp else unknownStamp

/-- What is reported when the time stamp of a template is asked for: its name is
checked only when it was loaded before. -/
def lastModifiedNotices (table : Provenance) (name : Option String) : List Log.Event :=
  match name.bind table.root? with
  | none => []
  | some _ => nameNotices name

end Locator

end TemplateLookup
