/-
# TemplateLookup.Proofs.Session.Effect -- what a step can do to a session

There are many steps, but few things that they do to suppliers, tables, renderers and
watches. `Effect` lists them, and `step_effect` says that every step has one of these
effects, so an invariant of sessions needs one case for each effect and not one for
each step. `tableOf` and `entriesOf` say which table a step writes and which entries
it records there; after any step a table holds what it held and these entries
(`step_table`).
-/

import TemplateLookup.Proofs.Renderer.Work
import TemplateLookup.Session.Run

namespace TemplateLookup

/-! ## What a step writes -/

/-- The entry that a step records directly. -/
def Step.entry? : Step → Option (String × String)
  | .record _ name root => some (name, root)
  | _ => none

namespace Session

/-- The table that a step can write. -/
def tableOf (s : Session) : Step → Option TableName
  | .resolve id _ _ | .record id _ _ | .source id _ _ _ =>
    (Pairs.fetch id s.suppliers).map Held.table
  | .render id _ _ | .renderToFile id _ _ _ | .template id _ =>
    (Pairs.fetch id s.studios).map Studio.table
  | _ => none

/-! ## The effects -/

variable [Template.Engine] [Encodings]

/-- What a step can do. -/
inductive Effect (s : Session) : Step → Stepped → Prop where
  /-- Files may change, nothing else. -/
  | quiet {a : Step} (w : World) {answer : Answer} {events : List Log.Event}
      (idle : s.tableOf a = none) : Effect s a ⟨{ s with world := w }, answer, events⟩
  /-- A supplier is held under a name. -/
  | built {a : Step} (id : String) (supplier : Supplier) (shared : Option String)
      {answer : Answer} {events : List Log.Event} (idle : s.tableOf a = none) :
      Effect s a ⟨s.hold id supplier shared, answer, events⟩
  /-- A renderer that keeps nothing yet is opened under a name. -/
  | opened {id : String} {parts : Option Parts} {supplier : Option String} {options : Options}
      (renderer : Renderer) (table : TableName) (next : Nat) {answer : Answer}
      {events : List Log.Event} :
      Effect s (.renderer id parts supplier options)
        ⟨{ s with
            nextTable := next
            studios := Pairs.store id ⟨renderer, table, [], 0, []⟩ s.studios }, answer, events⟩
  | recorded {id name root : String} {held : Held}
      (found : Pairs.fetch id s.suppliers = some held) :
      Effect s (.record id name root)
        ⟨s.withTable held.table ((s.table held.table).record name root), .nothing, []⟩
  | looked {id : String} {name : Option String} {reading : Reading} {held : Held}
      (found : Pairs.fetch id s.suppliers = some held) :
      Effect s (.resolve id name reading) (s.resolve held name reading)
  | sourced {id : String} {name : Option String} {encoding watch : String} {held : Held}
      (found : Pairs.fetch id s.suppliers = some held) :
      Effect s (.source id name encoding watch) (s.source held name encoding watch)
  /-- A renderer worked. -/
  | worked {a : Step} {id : String} {studio : Studio} {st : Running} (w : World)
      (taken : List (String × Nat)) {answer : Answer}
      (found : Pairs.fetch id s.studios = some studio)
      (target : s.tableOf a = some studio.table) (indirect : a.entry? = none)
      (work : studio.renderer.Worked s.world (s.running studio) st) :
      Effect s a
        ⟨{ s.afterWork id { studio with taken := taken } st with world := w }, answer, st.events⟩

/-! ## Every step has an effect -/

theorem effect_edited {s : Session} {a : Step} (e : World.Edited) (idle : s.tableOf a = none) :
    Effect s a (s.edited e) :=
  .quiet e.world idle

theorem effect_changed {s : Session} {a : Step} (r : Except SystemError World)
    (idle : s.tableOf a = none) : Effect s a (s.changed r) := by
  cases r with
  | ok w => exact .quiet w idle
  | error e => exact .quiet s.world idle

theorem effect_withHeld {s : Session} {a : Step} {id : String} {next : Held → Stepped}
    (idle : Pairs.fetch id s.suppliers = none → s.tableOf a = none)
    (h : ∀ held, Pairs.fetch id s.suppliers = some held → Effect s a (next held)) :
    Effect s a (s.withHeld id next) := by
  rw [withHeld]
  cases hfetch : Pairs.fetch id s.suppliers with
  | none => exact .quiet s.world (idle hfetch)
  | some held => exact h held hfetch

theorem effect_withStudio {s : Session} {a : Step} {id : String} {next : Studio → Stepped}
    (idle : Pairs.fetch id s.studios = none → s.tableOf a = none)
    (h : ∀ studio, Pairs.fetch id s.studios = some studio → Effect s a (next studio)) :
    Effect s a (s.withStudio id next) := by
  rw [withStudio]
  cases hfetch : Pairs.fetch id s.studios with
  | none => exact .quiet s.world (idle hfetch)
  | some studio => exact h studio hfetch

theorem effect_renderer (s : Session) (id : String) (parts : Option Parts)
    (supplier : Option String) (options : Options) :
    Effect s (.renderer id parts supplier options) (s.renderer id parts supplier options) := by
  rw [renderer]
  split
  · exact .quiet s.world rfl
  · split
    · exact effect_withHeld (fun _ => rfl) fun held _ => .opened _ _ s.nextTable
    · rw [openOwn]
      split
      · exact .quiet s.world rfl
      · exact .opened _ _ (s.nextTable + 1)

theorem effect_template {s : Session} {id : String} {studio : Studio}
    (found : Pairs.fetch id s.studios = some studio) (name : Option String) :
    Effect s (.template id name) (s.template id studio name) := by
  have hload := studio.renderer.load_worked s.world (s.running studio) name
  have htarget : s.tableOf (.template id name) = some studio.table := by
    rw [tableOf, found, Option.map_some]
  rw [template]
  split
  rename_i result st heq
  rw [heq] at hload
  -- a load that was not seen before gets a number, which only `taken` remembers
  split
  · exact .worked s.world studio.taken found htarget rfl hload
  · exact .worked s.world _ found htarget rfl hload

variable [Yaml.Reader] [Command.ArgumentReader]

theorem step_effect (s : Session) (a : Step) : Effect s a (s.step a) := by
  cases a with
  | write path content time => exact effect_edited _ rfl
  | touch path time => exact effect_changed _ rfl
  | makeDirectory path => exact effect_edited _ rfl
  | remove path => exact effect_changed _ rfl
  | link path target => exact effect_edited _ rfl
  | enter path => exact effect_changed _ rfl
  | read path => rw [step]; split <;> exact .quiet s.world rfl
  | setFault path fault => exact .quiet _ rfl
  | locator id roots table kind => exact .built id _ table rfl
  | configured id parts =>
    rw [step]
    split
    · exact .quiet s.world rfl
    · exact .built id _ none rfl
  | barren id kind => exact .built id _ none rfl
  | resolve id name reading =>
    refine effect_withHeld (fun h => ?_) fun held found => .looked found
    rw [tableOf, h, Option.map_none]
  | isStale id name known => exact effect_withHeld (fun _ => rfl) fun held _ => .quiet s.world rfl
  | lastModified id name =>
    exact effect_withHeld (fun _ => rfl) fun held _ => .quiet s.world rfl
  | currentRoot id name =>
    refine effect_withHeld (fun _ => rfl) fun held _ => ?_
    rw [currentRoot]
    split <;> exact .quiet s.world rfl
  | metadata id => exact effect_withHeld (fun _ => rfl) fun held _ => .quiet s.world rfl
  | provenance id => exact effect_withHeld (fun _ => rfl) fun held _ => .quiet s.world rfl
  | record id name root =>
    refine effect_withHeld (fun h => ?_) fun held found => .recorded found
    rw [tableOf, h, Option.map_none]
  | listing id =>
    refine effect_withHeld (fun _ => rfl) fun held _ => ?_
    split <;> exact .quiet s.world rfl
  | source id name encoding watch =>
    refine effect_withHeld (fun h => ?_) fun held found => .sourced found
    rw [tableOf, h, Option.map_none]
  | isCurrent watch =>
    rw [step, isCurrent]
    split <;> exact .quiet s.world rfl
  | renderer id parts supplier options => exact effect_renderer s id parts supplier options
  | render id name context =>
    refine effect_withStudio (fun h => ?_) fun studio found => ?_
    · rw [tableOf, h, Option.map_none]
    · refine .worked s.world studio.taken found ?_ rfl (studio.renderer.render_worked ..)
      rw [tableOf, found, Option.map_some]
  | renderToFile id name path context =>
    refine effect_withStudio (fun h => ?_) fun studio found => ?_
    · rw [tableOf, h, Option.map_none]
    · refine .worked _ studio.taken found ?_ rfl (studio.renderer.renderToFile_worked ..)
      rw [tableOf, found, Option.map_some]
  | template id name =>
    refine effect_withStudio (fun h => ?_) fun studio found => effect_template found name
    rw [tableOf, h, Option.map_none]
  | findConfig start =>
    rw [step]
    unfold findConfig
    dsimp only
    generalize Settings.find s.world _ = found
    cases found <;> exact .quiet s.world rfl
  | loadConfig path search =>
    rw [step, loadConfig]
    split <;> exact .quiet s.world rfl
  | commandLine args => exact .quiet _ rfl

/-! ## What a step records -/

/-- The entries that a step records: a direct one, or those that it reports. -/
def entriesOf (s : Session) (a : Step) : List (String × String) :=
  match a.entry? with
  | some entry => [entry]
  | none => findings (s.step a).events

/-- The entries that a step records in a table. -/
def recorded (s : Session) (a : Step) (t : TableName) : List (String × String) :=
  if s.tableOf a = some t then s.entriesOf a else []

end Session

end TemplateLookup
