/-
# TemplateLookup.Session.Run -- doing the steps of a session

Every step is done by the function of its own part of the library; what is done
here is to find the supplier or renderer that a step names, to hand it the table
it uses, and to put the table back.
-/

import TemplateLookup.Session.Step

namespace TemplateLookup.Session

variable [Template.Engine] [Encodings] [Yaml.Reader] [Command.ArgumentReader]

/-- A step that changed nothing. -/
def answered (s : Session) (a : Answer) (events : List Log.Event) : Stepped := ⟨s, a, events⟩

/-- A step that failed and changed nothing. -/
def failed (s : Session) (p : Problem) : Stepped := ⟨s, .problem p, []⟩

/-! ## Files -/

/-- A step that may have changed files. -/
def edited (s : Session) (e : World.Edited) : Stepped :=
  ⟨{ s with world := e.world },
    match e.refusal with
    | some refusal => .problem (.system refusal)
    | none => .nothing, []⟩

/-- A step that changed files or was refused. -/
def changed (s : Session) (r : Except SystemError World) : Stepped :=
  match r with
  | .ok w => ⟨{ s with world := w }, .nothing, []⟩
  | .error e => s.failed (.system e)

/-! ## Suppliers -/

/-- A step of a supplier. -/
def withHeld (s : Session) (id : String) (next : Held → Stepped) : Stepped :=
  match Pairs.fetch id s.suppliers with
  | some held => next held
  | none => s.failed (.unbuilt id)

/-- Builds a supplier. -/
def build (s : Session) (id : String) (supplier : Supplier) (shared : Option String) : Stepped :=
  let built := s.hold id supplier shared
  let table := match Pairs.fetch id built.suppliers with
    | some held => built.table held.table
    | none => .empty
  ⟨built, .metadata (supplier.metadata table), supplier.buildNotices⟩

/-- What is read of a resource. -/
def contents (w : World) (r : Resource) : Reading → Contents
  | .bytes => .bytes (r.read w)
  | .text encoding => .text (r.text w encoding)
  | .unread => .unread

/-- Looks a template up. -/
def resolve (s : Session) (held : Held) (name : Option String) (reading : Reading) : Stepped :=
  let lookup := held.supplier.resolve s.world (s.table held.table) name
  ⟨s.withTable held.table lookup.table,
    match lookup.result with
    | .ok r => .resource r (contents s.world r reading)
    | .error e => .problem (.lookup e),
    lookup.events⟩

/-- Asks whether a template has to be loaded again. -/
def isStale (s : Session) (held : Held) (name : Option String) (known : Number.Numeral) : Stepped :=
  s.answered
    (match held.supplier.isStale s.world (s.table held.table) name known with
      | .ok b => .flag b
      | .error e => .problem (.system e))
    (held.supplier.staleNotices name)

/-- Asks which root would supply a template now. -/
def currentRoot (s : Session) (held : Held) (name : Option String) : Stepped :=
  match held.supplier with
  | .files l =>
    s.answered
      (match l.currentRoot s.world name with
        | .ok root => .word root
        | .error e => .problem (.lookup e))
      (nameNotices name)
  | .barren _ => s.answered (.word none) []

/-- Reads a source and watches it. -/
def source (s : Session) (held : Held) (name : Option String) (encoding watch : String) :
    Stepped :=
  let loading := Source.read s.world held.supplier (s.table held.table) encoding name
  let after := s.withTable held.table loading.table
  match loading.result with
  | .error e => ⟨after, .problem (.load e), loading.events⟩
  | .ok found =>
    ⟨{ after with watches := Pairs.store watch ⟨held, name, found.stamp⟩ after.watches },
      .source found.text found.path, loading.events⟩

/-- Asks whether a watched source is current. -/
def isCurrent (s : Session) (watch : String) : Stepped :=
  match Pairs.fetch watch s.watches with
  | none => s.failed (.unbuilt watch)
  | some found =>
    s.answered
      (match Source.isCurrent s.world found.held.supplier (s.table found.held.table) found.name
          found.stamp with
        | .ok b => .flag b
        | .error e => .problem (.system e))
      (found.held.supplier.staleNotices found.name)

/-! ## Renderers -/

/-- Builds a renderer on a supplier. -/
def openOn (s : Session) (id : String) (settings : Settings) (held : Held) (options : Options)
    (events : List Log.Event) : Stepped :=
  let renderer : Renderer := ⟨held.supplier, settings.encoding, options⟩
  ⟨{ s with studios := Pairs.store id ⟨renderer, held.table, [], 0, []⟩ s.studios },
    .studio renderer (held.supplier.metadata (s.table held.table)), events⟩

/-- Builds a renderer on a supplier of its own. -/
def openOwn (s : Session) (id : String) (settings : Settings) (options : Options) : Stepped :=
  match Registry.empty.ready.create settings with
  | .error e => s.failed (.registry e)
  | .ok supplier =>
    let held : Held := ⟨supplier, .own s.nextTable⟩
    openOn { s with nextTable := s.nextTable + 1 } id settings held options supplier.buildNotices

/-- Builds a renderer on a supplier that is there, or on one of its own. -/
def renderer (s : Session) (id : String) (parts : Option Parts) (supplier : Option String)
    (options : Options) : Stepped :=
  match (parts.map Parts.settings).getD (.ok Settings.default) with
  | .error e => s.failed (.settings e)
  | .ok settings =>
    match supplier with
    | some name => s.withHeld name fun held => s.openOn id settings held options []
    | none => s.openOwn id settings options

/-- A step of a renderer. -/
def withStudio (s : Session) (id : String) (next : Studio → Stepped) : Stepped :=
  match Pairs.fetch id s.studios with
  | some studio => next studio
  | none => s.failed (.unbuilt id)

/-- Renders a template. -/
def render (s : Session) (id : String) (studio : Studio) (name : Option String)
    (context : Template.Scope) : Stepped :=
  let (result, st) := studio.renderer.render s.world (s.running studio) name context
  ⟨s.afterWork id studio st,
    match result with
    | .ok text => .rendered text
    | .error e => .problem (.render e),
    st.events⟩

/-- Renders a template into a file. -/
def renderToFile (s : Session) (id : String) (studio : Studio) (name : Option String)
    (path : String) (context : Template.Scope) : Stepped :=
  let (result, world, st) :=
    studio.renderer.renderToFile s.world (s.running studio) name (Path.ofString path) context
  ⟨{ s.afterWork id studio st with world := world },
    match result with
    | .error e => .problem (.render e)
    | .ok written =>
      match world.contentAt written with
      | .ok content => .written written content
      | .error e => .problem (.system e),
    st.events⟩

/-- Hands a template out and tells whether it is the one of the last time. -/
def template (s : Session) (id : String) (studio : Studio) (name : Option String) : Stepped :=
  let (result, st) := studio.renderer.load s.world (s.running studio) name
  match result with
  | .error e => ⟨s.afterWork id studio st, .problem (.load e), st.events⟩
  | .ok ready =>
    let key := name.getD ""
    let taken := Pairs.store key ready.serial studio.taken
    ⟨s.afterWork id { studio with taken := taken } st,
      .reused (Pairs.fetch key studio.taken = some ready.serial), st.events⟩

/-! ## Configuration and command lines -/

/-- Looks for a configuration file. -/
def findConfig (s : Session) (start : Option String) : Stepped :=
  let origin := match start with
    | some text => Path.ofString text
    | none => Settings.workingDirectory s.world
  match Settings.find s.world origin with
  | .ok found => s.answered (.word (found.map Path.toString)) []
  | .error e => s.failed (.config e)

/-- Loads a configuration. -/
def loadConfig (s : Session) (path : Option String) (search : Bool) : Stepped :=
  match Settings.load s.world s.env (path.map Path.ofString) search with
  | .ok settings => s.answered (.settings settings) []
  | .error e => s.failed (.config e)

/-- Runs a command line. -/
def commandLine (s : Session) (args : List String) : Stepped :=
  let (wishes, performance) := Command.run s.world s.env args
  ⟨{ s with world := performance.world }, .performed wishes performance, []⟩

/-! ## Any step -/

/-- Does a step. -/
def step (s : Session) : Step → Stepped
  | .write path content time => s.edited (s.world.placeFile (.ofString path) content time)
  | .touch path time => s.changed (s.world.setTime (.ofString path) time)
  | .makeDirectory path => s.edited (s.world.makeDirectories (.ofString path))
  | .remove path => s.changed (s.world.removeAt (.ofString path))
  | .link path target => s.edited (s.world.makeLink (.ofString path) target)
  | .enter path => s.changed (s.world.enter (.ofString path))
  | .read path =>
    match s.world.readAt (.ofString path) with
    | .ok content => s.answered (.bytes content) []
    | .error e => s.failed (.system e)
  | .setFault path fault =>
    ⟨{ s with world := s.world.setFault (.ofString path) fault }, .nothing, []⟩
  | .locator id roots table kind =>
    s.build id (.files ⟨kind, (roots.map Roots.mk).getD .absolute⟩) table
  | .configured id parts =>
    match parts.settings with
    | .error e => s.failed (.settings e)
    | .ok settings => s.build id (.ofSettings .files settings) none
  | .barren id kind => s.build id (.barren kind) none
  | .resolve id name reading => s.withHeld id fun held => s.resolve held name reading
  | .isStale id name known => s.withHeld id fun held => s.isStale held name known
  | .lastModified id name =>
    s.withHeld id fun held =>
      let table := s.table held.table
      s.answered (.stamp (held.supplier.lastModified s.world table name))
        (held.supplier.lastModifiedNotices table name)
  | .currentRoot id name => s.withHeld id fun held => s.currentRoot held name
  | .metadata id =>
    s.withHeld id fun held =>
      s.answered (.metadata (held.supplier.metadata (s.table held.table))) []
  | .provenance id =>
    s.withHeld id fun held => s.answered (.pairs (s.table held.table).listing) []
  | .record id name root =>
    s.withHeld id fun held =>
      ⟨s.withTable held.table ((s.table held.table).record name root), .nothing, []⟩
  | .listing id =>
    s.withHeld id fun held =>
      match held.supplier.listing s.world with
      | .ok names => s.answered (.words names) []
      | .error e => s.failed (.listing e)
  | .source id name encoding watch =>
    s.withHeld id fun held => s.source held name encoding watch
  | .isCurrent watch => s.isCurrent watch
  | .renderer id parts supplier options => s.renderer id parts supplier options
  | .render id name context => s.withStudio id fun studio => s.render id studio name context
  | .renderToFile id name path context =>
    s.withStudio id fun studio => s.renderToFile id studio name path context
  | .template id name => s.withStudio id fun studio => s.template id studio name
  | .findConfig start => s.findConfig start
  | .loadConfig path search => s.loadConfig path search
  | .commandLine args => s.commandLine args

/-- Does steps in order, and gives the answers and reports of each. -/
def run (s : Session) : List Step → List (Answer × List Log.Event)
  | [] => []
  | first :: rest =>
    let stepped := s.step first
    (stepped.answer, stepped.events) :: stepped.session.run rest

/-- The session after steps. -/
def after (s : Session) : List Step → Session
  | [] => s
  | first :: rest => (s.step first).session.after rest

end TemplateLookup.Session
