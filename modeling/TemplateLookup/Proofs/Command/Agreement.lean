/-
# TemplateLookup.Proofs.Command.Agreement -- three commands on one name

`resolve`, `check` and `render` reach a template in three ways: a look-up, a look-up and a check
of what it found, and a load by the template engine. With the configuration of a kind that is
registered all three begin with the same look-up, in the same state, and their exit codes follow
from its result (`resolve_of_ok`, `check_of_ok`, and `resolve_of_error`, `check_of_error`,
`render_of_error`); a kind that is not registered ends all three alike (`unregistered_alike`). So
scripts can rely on the codes (`commands_agree`): an empty name is told apart by the first two and
not by `render`, and what was just found is never refused by the check that follows.
-/

import TemplateLookup.Proofs.Command.Asking
import TemplateLookup.Proofs.Locator.Agreement
import TemplateLookup.Proofs.Renderer.Outcome
import TemplateLookup.Proofs.Session.Refusal

namespace TemplateLookup.Command

variable {w : World} {settings : Settings}

/-! ## Suppliers -/

theorem withSupplier_files (h : settings.loader = .text Registry.fileName)
    (next : Supplier → Performance) :
    withSupplier w settings next =
      (next (.files ⟨settings.loader, settings.path⟩)).after
        (Supplier.files ⟨settings.loader, settings.path⟩).buildNotices := by
  have hclass : Registry.empty.ready.class? settings.loader = .ok .files := by
    rw [h]
    rfl
  rw [withSupplier, Registry.create, Registry.createWith, hclass]
  rfl

/-- Nothing else is registered. -/
theorem exitCode_withSupplier_of_ne {kind : String} (h : settings.loader = .text kind)
    (hkind : kind ≠ Registry.fileName) (next : Supplier → Performance) :
    exitCode (withSupplier w settings next) = 1 := by
  have hfetch : Pairs.fetch kind Registry.empty.ready.classes = none := if_neg (Ne.symm hkind)
  have hclass : Registry.empty.ready.class? settings.loader =
      .error (.unregistered (.text kind) [Registry.fileName]) := by
    simp only [h, Registry.class?, hfetch]
    rfl
  rw [withSupplier, Registry.create, Registry.createWith, hclass]
  rfl

theorem loader_withPaths (settings : Settings) (paths : List String) :
    (withPaths settings paths).loader = settings.loader := by
  unfold withPaths
  split <;> rfl

/-- The request to render exits with 1 when the rendering does. -/
theorem exitCode_perform_render [Template.Engine] [Encodings] {name : String}
    {vars : List String} {output : Option String}
    (h : exitCode (render w settings name vars output) = 1) :
    exitCode (Request.perform w settings (.render name vars output)) = 1 := by
  show exitCode (if output.any isCut then cutOff w else render w settings name vars output) = 1
  split
  · rfl
  · exact h

/-- With a kind that is not registered all three fail. -/
theorem unregistered_alike [Template.Engine] [Encodings] {kind : String}
    (h : settings.loader = .text kind) (hkind : kind ≠ Registry.fileName) (w : World) (name : String) :
    (∀ json, exitCode (resolve w settings name json false) = 1) ∧
      (∀ since json, exitCode (check w settings name since json) = 1) ∧
        ∀ vars output, (∃ context, assignments vars = .ok context) →
          exitCode (Request.perform w settings (.render name vars output)) = 1 := by
  have hfails := exitCode_withSupplier_of_ne (w := w) h hkind
  refine ⟨fun json => hfails _, fun since json => hfails _, ?_⟩
  rintro vars output ⟨context, hcontext⟩
  apply exitCode_perform_render
  unfold render
  rw [hcontext]
  exact hfails _

/-! ## The look-up that all begin with -/

/-- What the first look-up of a process finds. -/
def firstLookup (w : World) (settings : Settings) (name : String) : Lookup :=
  Locator.resolve w ⟨settings.loader, settings.path⟩ .empty (some name)

/-- What is to be written about a resource that was resolved: where it is and when its file was
changed. -/
def reported (r : Resource) (json : Bool) : String :=
  if json then
    Json.page (.record [("name", .text r.name), ("root", .text r.root),
      ("path", .text r.path.toString), ("last_modified", .real r.lastModified)]) ++ "\n"
  else
    "root:          " ++ (if r.root = absoluteRoot then "<absolute path mode>" else r.root) ++ "\n" ++
      "file:          " ++ r.path.toString ++ "\n" ++
      "last modified: " ++ Number.Layout.plain.number r.lastModified ++ "\n"

theorem resourceText_eq (r : Resource) (json : Bool) : resourceText r json = reported r json := rfl

section

variable (h : settings.loader = .text Registry.fileName) (name : String)

include h

theorem resolve_of_error {e : LookupError} (he : (firstLookup w settings name).result = .error e)
    (json : Bool) : exitCode (resolve w settings name json false) = codeOf e := by
  unfold firstLookup at he
  unfold resolve
  rw [withSupplier_files h, exitCode_after]
  simp only [Supplier.resolve, he]
  rfl

theorem resolve_of_ok {r : Resource} (hr : (firstLookup w settings name).result = .ok r)
    (json : Bool) :
    exitCode (resolve w settings name json false) = 0 ∧
      (resolve w settings name json false).output = Codec.encode (reported r json) := by
  unfold firstLookup at hr
  unfold resolve
  rw [withSupplier_files h, exitCode_after, Performance.output_after]
  simp only [Supplier.resolve, hr, resourceText_eq, Bool.false_eq_true, if_false]
  exact ⟨rfl, List.append_nil _⟩

theorem check_of_error {e : LookupError} (he : (firstLookup w settings name).result = .error e)
    (since : Number.Binary64) (json : Bool) :
    exitCode (check w settings name since json) = codeOf e := by
  unfold firstLookup at he
  unfold check
  rw [withSupplier_files h, exitCode_after]
  simp only [Supplier.resolve, he]
  rfl

/-- What was just found can be checked. -/
theorem check_of_ok {r : Resource} (hr : (firstLookup w settings name).result = .ok r)
    (since : Number.Binary64) (json : Bool) :
    ∃ stale, Locator.isStale w ⟨settings.loader, settings.path⟩ (firstLookup w settings name).table
        (some name) (.real since) = .ok stale ∧
      exitCode (check w settings name since json) = if stale then 3 else 0 := by
  obtain ⟨n, location, time, hname, hlocated⟩ := Locator.located_of_resolve hr
  cases hname
  obtain ⟨stale, hstale⟩ := hlocated.isStale_answered (.real since)
  refine ⟨stale, hstale, ?_⟩
  unfold firstLookup at hr
  unfold check
  rw [withSupplier_files h, exitCode_after]
  simp only [Supplier.resolve, Supplier.isStale, hr, hstale]
  rfl

/-- The template engine finds nothing either, and does not tell why. -/
theorem render_of_error [Template.Engine] [Encodings] {e : LookupError}
    (he : (firstLookup w settings name).result = .error e) {vars : List String}
    (hvars : ∃ context, assignments vars = .ok context) (output : Option String) :
    exitCode (Request.perform w settings (.render name vars output)) = 1 := by
  obtain ⟨context, hcontext⟩ := hvars
  have hmissing : ∀ scope, ∃ st, Renderer.render
      ⟨.files ⟨settings.loader, settings.path⟩, settings.encoding, .default⟩ w
        (freshRunning .empty) (some name) scope =
          (.error (.lookup (.absent (some name) none)), st) := by
    intro scope
    -- nothing is kept yet, so the template has to be loaded
    have hdue : Renderer.Due ⟨.files ⟨settings.loader, settings.path⟩, settings.encoding, .default⟩
        w (freshRunning .empty) (some name) := by
      intro ready hkept
      cases hkept
    exact ⟨_, Prod.ext (Renderer.Ends.missing hdue he).unique rfl⟩
  apply exitCode_perform_render
  unfold render
  rw [hcontext]
  show exitCode (withSupplier w settings _) = 1
  rw [withSupplier_files h, exitCode_after]
  generalize List.map _ context = scope
  obtain ⟨st, hrendering⟩ := hmissing scope
  cases output with
  | none =>
    simp only [hrendering]
    rfl
  | some target =>
    simp only [Renderer.renderToFile, hrendering]
    rfl

end

/-! ## Codes -/

theorem codeOf_eq_one_or_two (e : LookupError) : codeOf e = 1 ∨ codeOf e = 2 := by
  cases e with
  | unnamed given => exact .inr rfl
  | climbs name => exact .inl rfl
  | notFound location => exact .inl rfl
  | absent name detail => exact .inl rfl

/-- Only for an empty name the code is that of an invalid one. -/
theorem codeOf_firstLookup {name : String} {e : LookupError}
    (he : (firstLookup w settings name).result = .error e) : codeOf e = 2 ↔ name = "" := by
  constructor
  · intro hcode
    cases e with
    | unnamed given =>
      have hrefusal : (LookupError.unnamed given).IsRefusal := trivial
      have hrefuses := (Locator.resolve_eq_refusal_iff w _ .empty (some name) hrefusal).mp he
      cases hrefuses
      rfl
    | climbs name => cases hcode
    | notFound location => cases hcode
    | absent name detail => cases hcode
  · rintro rfl
    cases he
    rfl

/-- In a world without faults a template that was just found is fresh for exactly its own
time. -/
theorem isStale_firstLookup_iff (hfaults : w.faults = []) {name : String} {r : Resource}
    (hr : (firstLookup w settings name).result = .ok r) (since : Number.Binary64) :
    Locator.isStale w ⟨settings.loader, settings.path⟩ (firstLookup w settings name).table
        (some name) (.real since) = .ok false ↔ r.lastModified.same since = true := by
  have hnone : ∀ p, w.faultAt p = none := by
    intro p
    rw [World.faultAt, hfaults, Pairs.fetch_nil]
  obtain ⟨n, location, time, hname, hlocated⟩ := Locator.located_of_resolve hr
  cases hname
  -- the first readable candidate can be used, so it is the one that was found
  obtain ⟨first, hfirst⟩ := hlocated.exists_firstReadable
  have hcurrent := readableRoot_eq_some_iff.mpr hfirst
  have husable := World.usable_of_readable (readableRoot_eq_some hcurrent).2 (hnone _)
  cases (firstUsable_of_readableRoot hcurrent husable).unique hlocated.first
  have hstamp : w.stampAt? r.path = some r.lastModified := by
    rw [hlocated.timed, World.stampAt?, hnone, hlocated.provides.file]
    rfl
  unfold firstLookup
  rw [hlocated.isStale_later_iff (fun _ => rfl) hfirst, hstamp]
  constructor
  · rintro ⟨-, stamp, hsame, hequal⟩
    cases hsame
    exact hequal
  · intro hequal
    exact ⟨hlocated.path.symm, _, rfl, hequal⟩

/-! ## Scripts -/

/-- **The commands agree on what exists.** Three lines that name one template, with one accepted
configuration of a kind that is a text and with the same roots, started in the same state. The
exit codes 1 and 2 of `check` are those of `resolve`, and 2 stands for the empty name, as far as
the kind is registered. Where `resolve` succeeds it reports the resource that a look-up finds,
with the time of its file, and `check` finds it fresh or stale; without faults it is fresh
exactly for the time that is reported. What `resolve` does not find makes `render` exit with 1. -/
theorem commands_agree [Template.Engine] [Encodings] [Yaml.Reader] [ArgumentReader]
    {env : Environment} {config : Option String} {paths : List String} {loaded : Settings}
    {kind name : String} {resolving checking rendering : List String} {json checkedJson : Bool}
    {since : Number.Binary64} {vars : List String} {output : Option String}
    (hconfig : IsUsable w config)
    (hload : Settings.load w env (config.map Path.ofString) true = .ok loaded)
    (hkind : loaded.loader = .text kind)
    (hresolve : Asks resolving config paths (.resolve name json false))
    (hcheck : Asks checking config paths (.check name since checkedJson))
    (hrender : Asks rendering config paths (.render name vars output)) :
    let code := fun line => exitCode (run w env line).2
    (code checking = 1 ↔ code resolving = 1) ∧
      (code checking = 2 ↔ code resolving = 2) ∧
      (kind = Registry.fileName → (code resolving = 2 ↔ name = "")) ∧
      (code resolving = 0 → (code checking = 0 ∨ code checking = 3) ∧
        ∃ r, (firstLookup w (withPaths loaded paths) name).result = .ok r ∧
          (run w env resolving).2.output = Codec.encode (reported r json) ∧
          (w.faults = [] → (code checking = 0 ↔ r.lastModified.same since = true))) ∧
      ((∃ context, assignments vars = .ok context) → code resolving = 1 ∨ code resolving = 2 →
        code rendering = 1) := by
  intro code
  have hsettings : (withPaths loaded paths).loader = .text kind :=
    (loader_withPaths loaded paths).trans hkind
  have hperform : ∀ {line request}, Asks line config paths request →
      (run w env line).2 = (Request.perform w (withPaths loaded paths) request).after
        (settingsNotices (withPaths loaded paths)) := by
    intro line request hasks
    rw [run_of_asks hconfig hasks, hload]
  generalize withPaths loaded paths = settings at hsettings hperform
  have hresolving : code resolving = exitCode (resolve w settings name json false) := by
    show exitCode _ = _
    rw [hperform hresolve, exitCode_after]
    rfl
  have hchecking : code checking = exitCode (check w settings name since checkedJson) := by
    show exitCode _ = _
    rw [hperform hcheck, exitCode_after]
    rfl
  have hrendering : code rendering =
      exitCode (Request.perform w settings (.render name vars output)) := by
    show exitCode _ = _
    rw [hperform hrender, exitCode_after]
  rw [hresolving, hchecking, hrendering, hperform hresolve, Performance.output_after]
  by_cases hfile : kind = Registry.fileName
  · subst hfile
    cases hresult : (firstLookup w settings name).result with
    | error e =>
      rw [resolve_of_error hsettings name hresult, check_of_error hsettings name hresult]
      have hcode := codeOf_eq_one_or_two e
      refine ⟨Iff.rfl, Iff.rfl, fun _ => codeOf_firstLookup hresult, ?_, ?_⟩
      · intro hzero
        omega
      · intro hvars _
        exact render_of_error hsettings name hresult hvars output
    | ok r =>
      obtain ⟨hzero, hreport⟩ := resolve_of_ok hsettings name hresult json
      obtain ⟨stale, hstale, hcode⟩ := check_of_ok hsettings name hresult since checkedJson
      have hname : name ≠ "" := by
        rintro rfl
        cases hresult
      rw [hzero, hcode]
      refine ⟨?_, ?_, fun _ => ?_, fun _ => ⟨?_, r, rfl, hreport, fun hfaults => ?_⟩, fun _ => ?_⟩
      · split <;> simp
      · split <;> simp
      · simp [hname]
      · split <;> simp
      · rw [← isStale_firstLookup_iff hfaults hresult since, hstale]
        cases stale <;> simp
      · simp
  · obtain ⟨hone, hsame, hrenders⟩ := unregistered_alike hsettings hfile w name
    rw [hone, hsame]
    refine ⟨Iff.rfl, Iff.rfl, fun h => absurd h hfile, ?_, ?_⟩
    · intro hzero
      cases hzero
    · intro hvars _
      exact hrenders vars output hvars

/-- One file below `a`, and no configuration. -/
def drawer : World :=
  ⟨[(["w"], .directory), (["w", "a"], .directory), (["w", "a", "x"], .file [120] ⟨5, 0⟩)], ["w"],
    [], 0⟩

/-- What is there is resolved and can be checked; for the empty name the codes are 2, 2 and 1. -/
theorem drawer_agrees :
    let code := fun args => exitCode (run drawer [] (["--path", "a"] ++ args)).2
    (code ["resolve", "--", "x"] = 0 ∧
        (code ["check", "--since", "5", "--", "x"] = 0 ∨
          code ["check", "--since", "5", "--", "x"] = 3)) ∧
      code ["resolve", "--", ""] = 2 ∧ code ["check", "--since", "5", "--", ""] = 2 ∧
      code ["render", "--", ""] = 1 := by
  intro code
  have hload : Settings.load drawer [] none true = .ok Settings.default := rfl
  obtain ⟨since, hsince⟩ : ∃ since, Number.read? "5" = some since :=
    Option.isSome_iff_exists.mp (by decide +kernel)
  have husable : IsUsable drawer none := ⟨rfl, rfl⟩
  have hagree := fun template =>
    commands_agree husable hload rfl (asks_resolve none ["a"] template)
      (asks_check none ["a"] template hsince) (asks_render none ["a"] template [])
  have hzero : code ["resolve", "--", "x"] = 0 := by decide +kernel
  obtain ⟨-, -, -, hfound, -⟩ := hagree "x"
  obtain ⟨-, hcheck, hempty, -, hrender⟩ := hagree ""
  have htwo := (hempty rfl).mpr rfl
  exact ⟨⟨hzero, (hfound hzero).1⟩, htwo, hcheck.mpr htwo, hrender ⟨[], rfl⟩ (.inr htwo)⟩

end TemplateLookup.Command
