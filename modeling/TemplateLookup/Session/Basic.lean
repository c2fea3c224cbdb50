/-
# TemplateLookup.Session.Basic -- suppliers and renderers over one world

A session is a world together with everything that was built in it: suppliers
by name, the tables in which they remember their look-ups, renderers with the
templates they keep, and sources that are watched for changes. A table belongs
to one supplier or is shared under a name. Replacing a supplier leaves those
renderers and watches alone that were built on the old one.
-/

import TemplateLookup.Registry
import TemplateLookup.Renderer.Basic
import TemplateLookup.Settings.Discovery

namespace TemplateLookup

/-- Which table a supplier uses. -/
inductive TableName where
  | shared (name : String)
  /-- The table of one supplier alone, by its number. -/
  | own (number : Nat)
  deriving DecidableEq, Repr, Inhabited

/-- A supplier and its table. -/
structure Held where
  supplier : Supplier
  table : TableName
  deriving Repr, Inhabited

/-- A renderer, the table of its supplier, and what it keeps. -/
structure Studio where
  renderer : Renderer
  table : TableName
  kept : List (String × Ready)
  loads : Nat
  /-- The number of the load that was last handed out under a name. -/
  taken : List (String × Nat)
  deriving Repr, Inhabited

/-- A source that was read and is asked about later. -/
structure Watch where
  held : Held
  name : Option String
  stamp : Number.Binary64
  deriving Repr, Inhabited

/-- Everything that was built in a world. -/
structure Session where
  world : World
  env : Environment
  suppliers : List (String × Held)
  tables : List (TableName × Provenance)
  /-- The number of the next table of its own. -/
  nextTable : Nat
  studios : List (String × Studio)
  watches : List (String × Watch)
  deriving Repr, Inhabited

namespace Session

/-- The session in which nothing was built. -/
def start (world : World) (env : Environment) : Session := ⟨world, env, [], [], 0, [], []⟩

/-- The table of a name; an unused one is empty. -/
def table (s : Session) (name : TableName) : Provenance :=
  (Pairs.fetch name s.tables).getD .empty

/-- The session with another table under a name. -/
def withTable (s : Session) (name : TableName) (t : Provenance) : Session :=
  { s with tables := Pairs.store name t s.tables }

/-- The session with a supplier under a name. -/
def hold (s : Session) (id : String) (supplier : Supplier) (shared : Option String) : Session :=
  let name : TableName := match shared with
    | some n => .shared n
    | none => .own s.nextTable
  { s with
    suppliers := Pairs.store id ⟨supplier, name⟩ s.suppliers
    nextTable := s.nextTable + 1 }

/-- What changes while a studio works. -/
def running (s : Session) (studio : Studio) : Running :=
  ⟨studio.kept, studio.loads, s.table studio.table, []⟩

/-- The session after a studio worked. -/
def afterWork (s : Session) (id : String) (studio : Studio) (st : Running) : Session :=
  { s.withTable studio.table st.table with
    studios := Pairs.store id { studio with kept := st.kept, loads := st.loads } s.studios }

theorem table_withTable_self (s : Session) (name : TableName) (t : Provenance) :
    (s.withTable name t).table name = t := by
  simp [table, withTable, Pairs.fetch_store_self]

theorem table_withTable_of_ne (s : Session) {name other : TableName} (t : Provenance)
    (h : other ≠ name) : (s.withTable name t).table other = s.table other := by
  simp [table, withTable, Pairs.fetch_store_of_ne _ _ h]

end Session

end TemplateLookup
