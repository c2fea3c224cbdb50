/-
# TemplateLookup.Provenance -- which root last supplied each name

The table is written at every successful look-up and never forgets a name. A
later entry for a name replaces the earlier one.
-/

import TemplateLookup.Pairs
import TemplateLookup.Text.Ordered

namespace TemplateLookup

/-- For each template name the root that last supplied it. -/
structure Provenance where
  roots : List (String × String)
  deriving DecidableEq, Repr, Inhabited

namespace Provenance

/-- The table without entries. -/
def empty : Provenance := ⟨[]⟩

/-- The root that last supplied a name. -/
def root? (t : Provenance) (name : String) : Option String := Pairs.fetch name t.roots

/-- The table after a root supplied a name. -/
def record (t : Provenance) (name root : String) : Provenance :=
  ⟨Pairs.store name root t.roots⟩

/-- Whether a name was ever supplied. -/
def contains (t : Provenance) (name : String) : Bool := (t.root? name).isSome

/-- How many names were ever supplied. -/
def size (t : Provenance) : Nat := t.roots.length

/-- The entries in the order of their names. -/
def listing (t : Provenance) : List (String × String) :=
  (Text.ordered (Pairs.keys t.roots)).filterMap fun name =>
    (t.root? name).map fun root => (name, root)

@[simp] theorem root?_empty (name : String) : empty.root? name = none := rfl

theorem root?_record_self (t : Provenance) (name root : String) :
    (t.record name root).root? name = some root :=
  Pairs.fetch_store_self name root t.roots

theorem root?_record_of_ne (t : Provenance) {name other : String} (root : String)
    (h : other ≠ name) : (t.record name root).root? other = t.root? other :=
  Pairs.fetch_store_of_ne root t.roots h

end Provenance

end TemplateLookup
