/-
# TemplateLookup.Proofs.Registry.Calls -- what a registry is after any calls

Two calls change a registry: one registers a class under a name, the other sets up the kinds
that are there from the start. Either of them is a registration (`afterCalls_eq_after`), so the
registrations tell the whole state (`state_told_by_calls`): the names by the first registration of
each, the classes by the last one of each, the default by the last one that was made as the
default. The default may move, but is never taken back, and it is always one of the names
(`mem_names_of_default`); so nothing but an empty name keeps it from being built.
What a class is and how it builds is left open; it is enough that a class makes a supplier of its
own of any settings (`MakesOwn`).
-/

import Mathlib.Data.List.Induction
import TemplateLookup.Proofs.Registry

namespace TemplateLookup

/-- The errors that say that there is no supplier to be had. The others are about what was written
in a configuration. -/
inductive RegistryError.IsUnavailable : RegistryError → Prop where
  | unregistered (loader : Data) (available : List String) :
      IsUnavailable (.unregistered loader available)
  | noDefault : IsUnavailable .noDefault
  | unavailable (loader : Data) (detail : Option String) : IsUnavailable (.unavailable loader detail)

namespace Registry

variable {κ σ : Type}

/-! ## Calls -/

/-- A call that changes a registry. -/
inductive Call (κ : Type) where
  | register (name : String) (cls : κ) (isDefault : Bool)
  /-- Sets up the kinds that are there from the start. -/
  | setUp
  deriving DecidableEq, Repr

/-- The registry after a call; over files there is one class from the start. -/
def perform (files : κ) (r : Registry κ) : Call κ → Registry κ
  | .register name cls isDefault => r.register name cls isDefault
  | .setUp => r.setUpWith files

/-- The registry after some calls. -/
def afterCalls (files : κ) (calls : List (Call κ)) : Registry κ :=
  calls.foldl (perform files) empty

/-- What a call registers. -/
def Call.registration (files : κ) : Call κ → Registration κ
  | .register name cls isDefault => ⟨name, cls, isDefault⟩
  | .setUp => ⟨fileName, files, true⟩

theorem perform_eq_add (files : κ) (r : Registry κ) (call : Call κ) :
    r.perform files call = r.add (call.registration files) := by
  cases call <;> rfl

theorem afterCalls_eq_after (files : κ) (calls : List (Call κ)) :
    afterCalls files calls = after (calls.map (Call.registration files)) := by
  unfold afterCalls after
  rw [List.foldl_map]
  congr 1
  funext r call
  exact perform_eq_add files r call

/-! ## The default -/

/-- The name that was registered last as the default. -/
def lastDefault? (registrations : List (Registration κ)) : Option String :=
  (registrations.reverse.find? (·.isDefault)).map (·.name)

theorem lastDefault?_append (before : List (Registration κ)) (g : Registration κ) :
    lastDefault? (before ++ [g]) = if g.isDefault then some g.name else lastDefault? before := by
  unfold lastDefault?
  rw [List.reverse_append, List.reverse_singleton, List.singleton_append, List.find?_cons]
  cases g.isDefault with
  | true => simp
  | false => simp

/-- A registration moves the default only if it is made as the default. -/
theorem default_add (r : Registry κ) (g : Registration κ) :
    (r.add g).default = if g.isDefault then some g.name else r.default := rfl

/-- The default is the name that was registered last as the default. -/
theorem default_after (registrations : List (Registration κ)) :
    (after registrations).default = lastDefault? registrations := by
  induction registrations using List.reverseRecOn with
  | nil => rfl
  | append_singleton before g ih =>
    have hadd : after (before ++ [g]) = (after before).add g := by
      unfold after
      rw [List.foldl_append]
      rfl
    rw [hadd, default_add, ih, lastDefault?_append]

theorem mem_of_lastDefault? {registrations : List (Registration κ)} {name : String}
    (h : lastDefault? registrations = some name) : name ∈ registrations.map (·.name) := by
  obtain ⟨g, hfind, hname⟩ := Option.map_eq_some_iff.mp h
  apply List.mem_map.mpr
  exact ⟨g, List.mem_reverse.mp (List.mem_of_find?_eq_some hfind), hname⟩

/-- The default is one of the names, because the registration that made it the default listed it. -/
theorem mem_names_of_default {registrations : List (Registration κ)} {name : String}
    (h : (after registrations).default = some name) : name ∈ (after registrations).names := by
  rw [default_after] at h
  rw [names_after, List.mem_eraseDups]
  exact mem_of_lastDefault? h

/-! ## Building -/

/-- There is a class exactly under the names that were registered. -/
theorem lastClass?_eq_none_iff {registrations : List (Registration κ)} {name : String} :
    lastClass? registrations name = none ↔ name ∉ registrations.map (·.name) := by
  simp [lastClass?, List.mem_map]

section

variable [Encodings] {build : κ → Settings → Except RegistryError σ} {r : Registry κ}
  {name : String}

theorem createDefaultWith_of_none (h : r.default = none) :
    r.createDefaultWith build = .error .noDefault := by
  unfold createDefaultWith
  rw [h]

/-- The empty name is no kind that settings accept. -/
theorem createDefaultWith_of_empty (h : r.default = some "") :
    r.createDefaultWith build = .error (.settings .noLoader) := by
  unfold createDefaultWith
  rw [h]
  rfl

/-- Every other name is, and then the settings say nothing else. -/
theorem ofParts_of_name (h : name ≠ "") :
    Settings.ofParts (some (.text name)) none none =
      .ok { Settings.default with loader := .text name } := by
  rw [Settings.ofParts_eq_ok_iff]
  exact ⟨by simpa [Data.isTruthy] using h, rfl, rfl, Settings.encodingOf_default, rfl⟩

theorem createDefaultWith_of_name {cls : κ} (h : r.default = some name) (hname : name ≠ "")
    (hfetch : Pairs.fetch name r.classes = some cls) :
    r.createDefaultWith build = build cls { Settings.default with loader := .text name } := by
  unfold createDefaultWith
  simp only [h, ofParts_of_name hname]
  exact createWith_of_fetch build hfetch rfl

end

/-- Every class makes a supplier of its own of any settings. -/
def MakesOwn (build : κ → Settings → Except RegistryError σ) (clsOf : σ → κ) : Prop :=
  ∀ cls settings, ∃ s, build cls settings = .ok s ∧ clsOf s = cls

/-! ## The state after any calls -/

/-- The calls tell the state of a registry. Its names are the registered ones, each once, in the
order of their first registrations; its default is the name that was registered last as the
default, and is one of the names. Settings with a text for a kind get what the class builds of
them that was registered last under it, a supplier of this class, or are told the kind and the
names there are. Without settings a supplier is unavailable exactly while there is no default; of
a default that is not empty, its class always builds a supplier. -/
theorem state_told_by_calls [Encodings] {build : κ → Settings → Except RegistryError σ}
    {clsOf : σ → κ} (hbuild : MakesOwn build clsOf) (files : κ) (calls : List (Call κ)) :
    let made := calls.map (Call.registration files)
    let r := afterCalls files calls
    r.names = (made.map (·.name)).eraseDups ∧
      (r.default = lastDefault? made ∧ ∀ name, r.default = some name → name ∈ r.names) ∧
      (∀ settings name, settings.loader = .text name →
        (∀ cls, lastClass? made name = some cls → ∃ s, r.createWith build settings = .ok s ∧
          build cls settings = .ok s ∧ clsOf s = cls) ∧
        (name ∉ r.names → ∃ e, r.createWith build settings = .error e ∧ e.IsUnavailable ∧
          e.loader = .text name ∧
          e.message = "Loader '" ++ name ++ "' not registered. Available: " ++
            (Data.list (r.names.map .text)).shown)) ∧
      ((∃ e, r.createDefaultWith build = .error e ∧ e.IsUnavailable) ↔ r.default = none) ∧
      ∀ name, r.default = some name → name ≠ "" → ∃ cls s, lastClass? made name = some cls ∧
        r.createDefaultWith build = .ok s ∧
        build cls { Settings.default with loader := .text name } = .ok s ∧ clsOf s = cls := by
  intro made r
  have hr : r = after made := afterCalls_eq_after files calls
  have hfetch : ∀ name, Pairs.fetch name r.classes = lastClass? made name := by
    intro name
    rw [hr]
    exact fetch_after made name
  have hlisted : ∀ name, r.default = some name → name ∈ r.names := by
    intro name hname
    rw [hr] at hname ⊢
    exact mem_names_of_default hname
  have hnames : ∀ name, name ∈ r.names ↔ name ∈ made.map (·.name) := by
    intro name
    rw [hr, names_after, List.mem_eraseDups]
  -- the default has a class, because it is one of the names
  have hbuilt : ∀ name, r.default = some name → name ≠ "" →
      ∃ cls s, lastClass? made name = some cls ∧ r.createDefaultWith build = .ok s ∧
        build cls { Settings.default with loader := .text name } = .ok s ∧ clsOf s = cls := by
    intro name hdefault hname
    have hsome : lastClass? made name ≠ none := fun hnone =>
      lastClass?_eq_none_iff.mp hnone ((hnames name).mp (hlisted name hdefault))
    obtain ⟨cls, hcls⟩ := Option.ne_none_iff_exists'.mp hsome
    obtain ⟨s, hs, hof⟩ := hbuild cls { Settings.default with loader := .text name }
    refine ⟨cls, s, hcls, ?_, hs, hof⟩
    rw [createDefaultWith_of_name hdefault hname ((hfetch name).trans hcls), hs]
  refine ⟨?_, ⟨?_, hlisted⟩, ?_, ?_, hbuilt⟩
  · rw [hr]
    exact names_after made
  · rw [hr]
    exact default_after made
  · intro settings name hloader
    constructor
    · intro cls hcls
      obtain ⟨s, hs, hof⟩ := hbuild cls settings
      refine ⟨s, ?_, hs, hof⟩
      rw [createWith_of_fetch build ((hfetch name).trans hcls) hloader, hs]
    · intro hname
      have hnone := lastClass?_eq_none_iff.mpr fun hmem => hname ((hnames name).mpr hmem)
      refine ⟨_, createWith_of_fetch_none build ((hfetch name).trans hnone) hloader, ?_, rfl, rfl⟩
      exact .unregistered (.text name) r.names
  · constructor
    · rintro ⟨e, he, hunavailable⟩
      cases hdefault : r.default with
      | none => rfl
      | some name =>
        by_cases hname : name = ""
        · subst hname
          rw [createDefaultWith_of_empty hdefault] at he
          cases he
          cases hunavailable
        · obtain ⟨cls, s, -, hok, -⟩ := hbuilt name hdefault hname
          rw [hok] at he
          cases he
    · intro hnone
      exact ⟨.noDefault, createDefaultWith_of_none hnone, .noDefault⟩

/-- Both classes of suppliers make their own. -/
theorem makesOwn_supply : MakesOwn supply Supplier.cls := fun cls settings =>
  ⟨.ofSettings cls settings, rfl, cls_of_supply cls settings⟩

/-- A second registration of a name keeps its place and replaces its class; the default moves to
the name that was set up, whose class makes its supplier. -/
theorem moved_default_supplied :
    let r := afterCalls .files [.register "m" .files true, .setUp, .register "m" .barren false]
    r.names = ["m", "file"] ∧ r.default = some "file" ∧
      (∃ s, r.create { Settings.default with loader := .text "m" } = .ok s ∧ s.cls = .barren) ∧
      ∃ s, r.createDefault = .ok s ∧ s.cls = .files := by
  intro r
  obtain ⟨hnames, -, hcreate, -, hdefault⟩ := state_told_by_calls makesOwn_supply .files
    [.register "m" .files true, .setUp, .register "m" .barren false]
  refine ⟨hnames, rfl, ?_, ?_⟩
  · obtain ⟨s, hs, -, hcls⟩ :=
      (hcreate { Settings.default with loader := .text "m" } "m" rfl).1 .barren rfl
    exact ⟨s, hs, hcls⟩
  · obtain ⟨cls, s, hcls, hs, -, hof⟩ := hdefault "file" rfl (by decide)
    cases hcls.symm.trans (rfl : _ = some SupplierClass.files)
    exact ⟨s, hs, hof⟩

end Registry

end TemplateLookup
