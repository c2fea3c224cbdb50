/-
# TemplateLookup.Proofs.Renderer.Spelling -- rendering one file under different names

A search takes every spelling of a name to the same file. A renderer goes by the spelling once
more: by the ending of the name that it was given it decides whether the values in a template
are escaped. So what a fresh renderer makes of a file depends on its content, on the name that
the engine is told, and on this one bit (`render_fresh`). With a slash at the end no name is one
of markup, so every template has a name under which it does not escape (`render_push_slash`).
`render_same_file` says what two names of a file give and, when the content does not show its
name otherwise, exactly when they render alike. `markup_unescaped` is a file with two names that
do not.
-/

import TemplateLookup.Proofs.Locator.Spelling
import TemplateLookup.Proofs.Renderer.Repeated
import TemplateLookup.Standard

namespace TemplateLookup

/-! ## Outcomes -/

/-- The class of an error, which is all that callers tell errors apart by. -/
inductive ErrorClass where
  | lookup
  | value
  /-- The encoding refuses the bytes for a reason of its own. -/
  | undecoded
  | unsuited
  | unencodable
  | syntactic
  | system (cause : Cause)
  deriving DecidableEq, Repr, Inhabited

/-- The class of an error. A template that cannot be decoded or run is a wrong value. -/
def RenderError.errorClass : RenderError → ErrorClass
  | .lookup _ => .lookup
  | .undecodable _ _ => .value
  | .invalid _ => .undecoded
  | .unsuited _ => .unsuited
  | .failed _ => .value
  | .malformed flaw => if flaw.ofValue then .value else .syntactic
  | .system e => .system e.cause
  | .unencodable _ => .unencodable

/-- Two renderings give the same text, or they fail with errors of the same class. -/
def SameOutcome (x y : Except RenderError Wide) : Prop :=
  x.mapError RenderError.errorClass = y.mapError RenderError.errorClass

theorem SameOutcome.symm {x y : Except RenderError Wide} (h : SameOutcome x y) :
    SameOutcome y x :=
  Eq.symm h

theorem SameOutcome.trans {x y z : Except RenderError Wide} (h : SameOutcome x y)
    (h' : SameOutcome y z) : SameOutcome x z :=
  Eq.trans h h'

namespace Renderer

/-- Two look-ups that open the same file read the same. -/
theorem read_eq_of_path_eq {l : Locator} {w : World} {table table' : Provenance}
    {name name' : Option String} {a b : Resource}
    (ha : (Locator.resolve w l table name).result = .ok a)
    (hb : (Locator.resolve w l table' name').result = .ok b) (hpath : a.path = b.path) :
    a.read w = b.read w := by
  obtain ⟨-, time, hfile, -⟩ := (Supplier.resolve_outcome w table name (.files l)).reads ha
  obtain ⟨-, time', hfile', -⟩ := (Supplier.resolve_outcome w table' name' (.files l)).reads hb
  rw [hpath, hfile'] at hfile
  have hcontent : a.content = b.content := (Prod.mk.inj (Option.some.inj hfile)).1.symm
  rw [Resource.read, Resource.read, hpath, hcontent]

/-- A name with a slash at the end is not one of markup. -/
theorem concerns_push_slash (name : String) :
    Template.Escaping.byName.concerns (name.push '/') = false := by
  have hreverse : ((name.push '/').toList.map Char.toLower).reverse =
      '/' :: (name.toList.map Char.toLower).reverse := by
    rw [String.toList_push, List.map_append, List.reverse_append]
    rfl
  -- no ending of markup ends with a slash
  have hends : ∀ ending ∈ Template.markupEndings,
      Template.endsWith (name.push '/') ending = false := by
    intro ending hending
    rw [Template.endsWith, hreverse]
    rcases List.mem_cons.mp hending with rfl | hending
    · rfl
    · cases List.mem_singleton.mp hending
      rfl
  exact List.any_eq_false.mpr fun ending hending => by rw [hends ending hending]; nofun

/-! ## Rendering a content -/

/-- The renderer, when it is settled for all names whether values are escaped. -/
def settling (r : Renderer) (escapes : Bool) : Renderer :=
  { r with options := { r.options with escaping := if escapes then .always else .never } }

/-- A settled renderer makes the text that the name decides on. -/
theorem draft_settling [Template.Engine] (r : Renderer) (name text : String) :
    (r.settling (r.options.escaping.concerns name)).draft name text = r.draft name text := by
  rw [draft, draft, settling]
  cases hmarkup : r.options.escaping.concerns name <;> rfl

section

variable [Template.Engine] [Encodings] {r : Renderer} {l : Locator} {w : World}

theorem draftOf_settling (r : Renderer) (name : String) (reading : Except SystemError Bytes) :
    (r.settling (r.options.escaping.concerns name)).draftOf name reading =
      r.draftOf name reading := by
  unfold draftOf
  simp only [draft_settling]
  rfl

/-- The outcome of rendering what reading a file gives. The engine is told a name, and whether
values are escaped; the templates that it asks for are loaded from the files under their names. -/
def renderContent (r : Renderer) (w : World) (name : Option String) (escapes : Bool)
    (reading : Except SystemError Bytes) (context : Template.Scope) : Except RenderError Wide :=
  match (r.settling escapes).draftOf (name.getD "") reading with
  | .error e => .error (ofLoadError name e).1
  | .ok draft =>
    ((Template.Engine.script draft context).run (noting (loadAfresh r w)) []).1.mapError .failed

/-- A fresh renderer offers what the files offer. -/
theorem offered_fresh (r : Renderer) (w : World) (table : Provenance) :
    offered r w ⟨[], 0, table, []⟩ = loadAfresh r w := by
  funext name
  have hkept : kept? ⟨[], 0, table, []⟩ name = none := by cases name <;> rfl
  rw [offered, load, hkept]
  exact reload_afresh r w _ name

/-- With a fresh renderer nothing is overtaken. -/
theorem not_overtaken_fresh (r : Renderer) (l : Locator) (w : World) (table : Provenance)
    (name : Option String) : ¬ Overtaken r l w ⟨[], 0, table, []⟩ name := by
  rintro ⟨n, ready, resource, rfl, hovertakes⟩
  cases hovertakes.kept

/-- What a fresh renderer makes of a name is what the content of its file makes under this name,
escaped if the name is one of markup. -/
theorem render_fresh (hreload : r.options.autoReload = true) (hfiles : r.supplier = .files l)
    (hw : w.OpensAll) {table : Provenance} {name : Option String} {a : Resource}
    (hresolve : (Locator.resolve w l table name).result = .ok a) (start : Provenance)
    (context : Template.Scope) :
    (render r w ⟨[], 0, start, []⟩ name context).1 =
      renderContent r w name (r.options.escaping.concerns (name.getD "")) (a.read w) context := by
  have hlookup : (Supplier.resolve w .empty name r.supplier).result = .ok a := by
    rw [hfiles]
    exact (Supplier.resolve_result w .empty table name (.files l)).trans hresolve
  have hload : loadAfresh r w name = r.draftOf (name.getD "") (a.read w) := by
    rw [loadAfresh, hlookup]
  have hidle : Steady r l w ⟨[], 0, start, []⟩ ⟨[], 0, start, []⟩ :=
    steady_of_alike hreload hfiles fun _ => ⟨rfl, rfl⟩
  rw [render_offered hreload hfiles hw hidle fun n _ => not_overtaken_fresh r l w start n,
    offered_fresh, renderOffered, renderContent, hload, draftOf_settling]
  cases r.draftOf (name.getD "") (a.read w) with
  | error e => rfl
  | ok draft =>
    exact congrArg (Except.mapError RenderError.failed) (run_noting_anywhere _ _ [name] [])

/-! ## A slash at the end -/

/-- Every template can be had without escaping: under its name with a slash at the end. -/
theorem render_push_slash (hreload : r.options.autoReload = true)
    (hfiles : r.supplier = .files l) (hw : w.OpensAll) (hbyName : r.options.escaping = .byName)
    {table : Provenance} {name : String} {a : Resource}
    (ha : (Locator.resolve w l table (some name)).result = .ok a) (start : Provenance)
    (context : Template.Scope) :
    (render r w ⟨[], 0, start, []⟩ (some (name.push '/')) context).1 =
      renderContent r w (some (name.push '/')) false (a.read w) context := by
  have hslash := Locator.resolve_push_slash ha table
  rw [render_fresh hreload hfiles hw hslash start context, hbyName, Option.getD_some,
    concerns_push_slash]
  rfl

/-! ## Two names of one file -/

/-- Two names of one file, rendered by fresh renderers. Each gives what the content gives under
this name, escaped or not as the name says. When the content does not show the name otherwise,
they have the same outcome only if both names agree on whether the file is markup, or it makes
no difference whether its values are escaped. -/
theorem render_same_file (hreload : r.options.autoReload = true)
    (hfiles : r.supplier = .files l) (hw : w.OpensAll) {table table' : Provenance}
    {name name' : Option String} {a b : Resource}
    (ha : (Locator.resolve w l table name).result = .ok a)
    (hb : (Locator.resolve w l table' name').result = .ok b) (hpath : a.path = b.path)
    (start start' : Provenance) (context : Template.Scope) :
    let first := (render r w ⟨[], 0, start, []⟩ name context).1
    let second := (render r w ⟨[], 0, start', []⟩ name' context).1
    let markup := fun n : Option String => r.options.escaping.concerns (n.getD "")
    let given := fun n escapes => renderContent r w n escapes (a.read w) context
    (first = given name (markup name) ∧ second = given name' (markup name')) ∧
      ((∀ escapes, SameOutcome (given name escapes) (given name' escapes)) →
        (SameOutcome first second ↔
          markup name = markup name' ∨ SameOutcome (given name true) (given name false))) := by
  intro first second markup given
  have hfirst : first = given name (markup name) := render_fresh hreload hfiles hw ha start context
  have hsecond : second = given name' (markup name') := by
    show _ = renderContent r w name' (markup name') (a.read w) context
    rw [read_eq_of_path_eq ha hb hpath]
    exact render_fresh hreload hfiles hw hb start' context
  refine ⟨⟨hfirst, hsecond⟩, fun halike => ?_⟩
  -- under the bit of the second name, both names give the same
  have hbit : SameOutcome first second ↔
      SameOutcome (given name (markup name)) (given name (markup name')) := by
    rw [hfirst, hsecond]
    exact ⟨fun h => h.trans (halike _).symm, fun h => h.trans (halike _)⟩
  rw [hbit]
  cases markup name <;> cases markup name' <;> simp [SameOutcome, eq_comm]

end

/-- A template that prints a variable: `{{ v }}`. -/
def printing : Bytes := [123, 123, 32, 118, 32, 125, 125]

/-- A directory that holds the template as a file of markup. -/
def page : World :=
  ⟨[(["p"], .directory), (["p", "x.html"], .file printing ⟨5, 0⟩)], [], [], 0⟩

/-- The search of the directory. -/
def pageLocator : Locator := ⟨Locator.defaultKind, ⟨["/p"]⟩⟩

/-- A renderer with the default options that searches the directory. -/
def pageRenderer : Renderer := ⟨.files pageLocator, "utf-8", .default⟩

/-- The file as the resource of a name at its location. -/
def pageFile (name location : String) : Resource :=
  ⟨name, "/p", candidate "/p" location, FileTime.stamp ⟨5, 0⟩, printing⟩

/-- Both names open the file, and only one of them escapes the value. -/
theorem markup_unescaped :
    let context : Template.Scope := [("v", .text "<b>")]
    let given := fun name => (render pageRenderer page ⟨[], 0, .empty, []⟩ name context).1
    let a := pageFile "x.html" "/x.html"
    let b := pageFile "x.html/" "/x.html/"
    (Locator.resolve page pageLocator .empty (some "x.html")).result = .ok a ∧
      (Locator.resolve page pageLocator .empty (some "x.html/")).result = .ok b ∧
      a.path = b.path ∧ given (some "x.html") = .ok (Wide.ofString "&lt;b&gt;") ∧
      given (some "x.html/") = .ok (Wide.ofString "<b>") ∧
      ¬ SameOutcome (given (some "x.html")) (given (some "x.html/")) := by
  intro context given a b
  have ha : (Locator.resolve page pageLocator .empty (some "x.html")).result = .ok a := rfl
  have hb : (Locator.resolve page pageLocator .empty (some "x.html/")).result = .ok b := rfl
  have hpath : a.path = b.path := by decide +kernel
  have hopens : page.OpensAll := World.opensAll_of_faults_nil rfl
  obtain ⟨⟨hfirst, hsecond⟩, hiff⟩ :=
    render_same_file (r := pageRenderer) rfl rfl hopens ha hb hpath .empty .empty context
  -- what the content gives under the two names, escaped and not
  have hmarkup : ∀ n ∈ [some "x.html", some "x.html/"],
      renderContent pageRenderer page n true (a.read page) context =
        .ok (Wide.ofString "&lt;b&gt;") := by decide +kernel
  have hplain : ∀ n ∈ [some "x.html", some "x.html/"],
      renderContent pageRenderer page n false (a.read page) context =
        .ok (Wide.ofString "<b>") := by decide +kernel
  have hhere : some "x.html" ∈ [some "x.html", some "x.html/"] := List.mem_cons_self
  have hthere : some "x.html/" ∈ [some "x.html", some "x.html/"] := by decide
  refine ⟨ha, hb, hpath, hfirst.trans (hmarkup _ hhere), hsecond.trans (hplain _ hthere),
    fun hsame => ?_⟩
  have halike : ∀ escapes, SameOutcome
      (renderContent pageRenderer page (some "x.html") escapes (a.read page) context)
      (renderContent pageRenderer page (some "x.html/") escapes (a.read page) context) := by
    intro escapes
    cases escapes with
    | true => rw [hmarkup _ hhere, hmarkup _ hthere]; rfl
    | false => rw [hplain _ hhere, hplain _ hthere]; rfl
  -- the names disagree on markup, and the content shows it
  rcases (hiff halike).mp hsame with hnames | hgiven
  · exact absurd hnames (by decide)
  · have hshown : ¬ SameOutcome
        (renderContent pageRenderer page (some "x.html") true (a.read page) context)
        (renderContent pageRenderer page (some "x.html") false (a.read page) context) := by
      rw [SameOutcome, hmarkup _ hhere, hplain _ hhere]
      decide
    exact hshown hgiven

end Renderer

end TemplateLookup
