/-
# TemplateLookup.Proofs.Registry -- what a registry makes of an accepted configuration

A registry is what its registrations leave (`Registry.after`): under each name the class that was
registered last (`fetch_after`), and the names in the order in which they first came
(`names_after`). The kind that an accepted configuration asks for is the one that it names, with
the references replaced (`Settings.expand_kindIn`); a configuration is accepted with any kind that
does not count as false. Callers expect a supplier of the class under that kind, or to be told that
nothing is registered under it (`Answer`). They get one of the two for every kind that is a
single value, and for no list and no mapping (`create_answer_iff`).
-/

import TemplateLookup.Registry
import TemplateLookup.Proofs.Pairs
import TemplateLookup.Proofs.Settings
import TemplateLookup.Standard

namespace TemplateLookup

/-! ## Registrations -/

/-- A class is registered under a name. -/
structure Registration (κ : Type) where
  name : String
  cls : κ
  isDefault : Bool
  deriving DecidableEq, Repr

namespace Registry

section

variable {κ : Type}

/-- The registry with a registration. -/
def add (r : Registry κ) (g : Registration κ) : Registry κ := r.register g.name g.cls g.isDefault

/-- The registry after some registrations. -/
def after (registrations : List (Registration κ)) : Registry κ := registrations.foldl add empty

/-- The class that was registered last under a name. -/
def lastClass? (registrations : List (Registration κ)) (name : String) : Option κ :=
  (registrations.reverse.find? (·.name = name)).map (·.cls)

theorem lastClass?_cons (g : Registration κ) (rest : List (Registration κ)) (name : String) :
    lastClass? (g :: rest) name =
      (lastClass? rest name).or (if g.name = name then some g.cls else none) := by
  unfold lastClass?
  rw [List.reverse_cons, List.find?_append]
  cases rest.reverse.find? (·.name = name) with
  | some found => rfl
  | none =>
    rw [Option.none_or, List.find?_singleton]
    by_cases hname : g.name = name
    · simp [hname]
    · simp [hname]

/-- A registration leaves what is under all other names. -/
theorem fetch_add (r : Registry κ) (g : Registration κ) (name : String) :
    Pairs.fetch name (r.add g).classes =
      (if g.name = name then some g.cls else none).or (Pairs.fetch name r.classes) := by
  show Pairs.fetch name (Pairs.store g.name g.cls r.classes) = _
  by_cases hname : g.name = name
  · subst hname
    rw [Pairs.fetch_store_self, if_pos rfl, Option.some_or]
  · rw [Pairs.fetch_store_of_ne _ _ (Ne.symm hname), if_neg hname, Option.none_or]

theorem fetch_foldl_add (name : String) (registrations : List (Registration κ)) (r : Registry κ) :
    Pairs.fetch name (registrations.foldl add r).classes =
      (lastClass? registrations name).or (Pairs.fetch name r.classes) := by
  induction registrations generalizing r with
  | nil => rfl
  | cons g rest ih =>
    rw [List.foldl_cons, ih, fetch_add, lastClass?_cons, Option.or_assoc]

/-- Under a name is the class that was registered last. -/
theorem fetch_after (registrations : List (Registration κ)) (name : String) :
    Pairs.fetch name (after registrations).classes = lastClass? registrations name := by
  unfold after
  rw [fetch_foldl_add]
  exact Option.or_none

theorem names_foldl_add (registrations : List (Registration κ)) (r : Registry κ) :
    (registrations.foldl add r).names =
      r.names ++ ((registrations.map (·.name)).removeAll r.names).eraseDups := by
  induction registrations generalizing r with
  | nil => simp [List.removeAll]
  | cons g rest ih =>
    have hadd : (r.add g).names = if g.name ∈ r.names then r.names else r.names ++ [g.name] :=
      Pairs.keys_store g.name g.cls r.classes
    rw [List.foldl_cons, ih, hadd, List.map_cons]
    by_cases hname : g.name ∈ r.names
    · simp [hname, List.removeAll]
    · simp [hname, List.removeAll, List.eraseDups_cons, List.filter_filter, Bool.and_comm]
      congr 1

/-- The names are in the order in which they first came. -/
theorem names_after (registrations : List (Registration κ)) :
    (after registrations).names = (registrations.map (·.name)).eraseDups := by
  unfold after
  rw [names_foldl_add]
  show [] ++ ((registrations.map (·.name)).removeAll []).eraseDups = _
  rw [List.nil_append, List.removeAll_nil]

/-- What is built of a class that was registered last under the kind. -/
theorem createWith_of_fetch {σ : Type} (build : κ → Settings → Except RegistryError σ)
    {r : Registry κ} {name : String} {cls : κ} (hfetch : Pairs.fetch name r.classes = some cls)
    {settings : Settings} (h : settings.loader = .text name) :
    r.createWith build settings = build cls settings := by
  unfold createWith class?
  simp only [h, hfetch]

theorem createWith_of_fetch_none {σ : Type} (build : κ → Settings → Except RegistryError σ)
    {r : Registry κ} {name : String} (hfetch : Pairs.fetch name r.classes = none)
    {settings : Settings} (h : settings.loader = .text name) :
    r.createWith build settings = .error (.unregistered (.text name) r.names) := by
  unfold createWith class?
  simp only [h, hfetch]

end

/-! ## What callers are told -/

/-- What the callers of a registry expect: a supplier of the class that was registered last under
the kind, with the settings, or to be told that nothing is registered under it. -/
inductive Answer (registrations : List (Registration SupplierClass)) (settings : Settings) :
    Except RegistryError Supplier → Prop where
  | supplied {name : String} {supplier : Supplier} (asked : settings.loader = .text name)
      (registered : lastClass? registrations name = some supplier.cls)
      (made : supplier = Supplier.ofSettings supplier.cls settings) :
      Answer registrations settings (.ok supplier)
  | unregistered
      (unknown : ∀ name, settings.loader = .text name → lastClass? registrations name = none) :
      Answer registrations settings
        (.error (.unregistered settings.loader ((registrations.map (·.name)).eraseDups)))

section

variable {settings : Settings}

/-- A supplier is of the class that made it. -/
theorem cls_of_supply (cls : SupplierClass) (settings : Settings) :
    (Supplier.ofSettings cls settings).cls = cls := by
  cases cls <;> rfl

theorem answer_of_text {name : String} (h : settings.loader = .text name)
    (registrations : List (Registration SupplierClass)) :
    Answer registrations settings ((after registrations).create settings) := by
  rw [create]
  have hfetch := fetch_after registrations name
  cases hclass : lastClass? registrations name with
  | none =>
    rw [createWith_of_fetch_none supply (hfetch.trans hclass) h, names_after, ← h]
    apply Answer.unregistered
    intro other hother
    rw [h] at hother
    cases hother
    exact hclass
  | some cls =>
    rw [createWith_of_fetch supply (hfetch.trans hclass) h, supply]
    have hmade := cls_of_supply cls settings
    apply Answer.supplied h
    · rw [hmade, hclass]
    · rw [hmade]

/-- Of single values only texts are names. -/
theorem answer_of_scalar {s : Scalar} (h : settings.loader = .scalar s)
    (registrations : List (Registration SupplierClass)) :
    Answer registrations settings ((after registrations).create settings) := by
  by_cases htext : ∃ name, s = .text name
  · obtain ⟨name, rfl⟩ := htext
    exact answer_of_text h registrations
  · have hother : (after registrations).create settings =
        .error (.unregistered settings.loader (after registrations).names) := by
      unfold create createWith class?
      cases s with
      | text name => exact absurd ⟨name, rfl⟩ htext
      | _ => simp only [h]
    rw [hother, names_after]
    apply Answer.unregistered
    intro name hname
    rw [h] at hname
    exact absurd ⟨name, Data.scalar.inj hname⟩ htext

/-- A list or a mapping cannot be asked for. -/
theorem create_of_not_scalar (h : ¬ ∃ s, settings.loader = .scalar s) (r : Registry SupplierClass) :
    r.create settings = .error (.unhashable settings.loader.kind) := by
  unfold create createWith class?
  cases hloader : settings.loader with
  | scalar s => exact absurd ⟨s, hloader⟩ h
  | list items => rfl
  | mapping entries => rfl

end

/-- Whatever was registered, an accepted
configuration asks for the kind that is written in it, with the references replaced. If that is a
single value, its callers are told what they expect; a list or a mapping is accepted as well, and
then the look-up itself fails. -/
theorem create_answer_iff [Encodings] {env : Environment} {entries : List (Scalar × Data)}
    {settings : Settings} (h : Settings.ofData env (.mapping entries) = .ok settings)
    (registrations : List (Registration SupplierClass)) :
    env.expand (Settings.kindIn entries) = .ok settings.loader ∧
      (Answer registrations settings ((after registrations).create settings) ↔
        ∃ s, Settings.kindIn entries = .scalar s) ∧
      ((¬ ∃ s, Settings.kindIn entries = .scalar s) →
        (after registrations).create settings =
          .error (.unhashable (Settings.kindIn entries).kind)) := by
  have hexpand := Settings.expand_kindIn h
  have hkind : settings.loader = (Settings.kindIn entries).mapTexts env.filled := by
    rw [Environment.expand_eq, Environment.needing_eq_ok_iff] at hexpand
    exact hexpand.2
  -- references do not turn a single value into something else, nor the other way
  have hsingle : (∃ s, settings.loader = .scalar s) ↔ ∃ s, Settings.kindIn entries = .scalar s := by
    rw [hkind, Data.mapTexts_eq_scalar_iff]
  refine ⟨hexpand, ⟨?_, ?_⟩, ?_⟩
  · intro hanswer
    rw [← hsingle]
    apply Classical.byContradiction
    intro hcompound
    rw [create_of_not_scalar hcompound] at hanswer
    nomatch hanswer
  · intro hscalar
    obtain ⟨s, hs⟩ := hsingle.mpr hscalar
    exact answer_of_scalar hs registrations
  · intro hcompound
    rw [create_of_not_scalar (fun hs => hcompound (hsingle.mp hs)), hkind, Data.kind_mapTexts]

/-- A list of one registered name is accepted, and no answer comes. -/
theorem listed_kind_unanswered :
    ∃ settings, Settings.ofData [] (.mapping [(.text "loader", .list [.text "file"])]) =
        .ok settings ∧
      ¬ Answer [⟨"file", .files, true⟩] settings
        ((after [⟨"file", .files, true⟩]).create settings) := by
  have haccepted : Settings.ofData [] (.mapping [(.text "loader", .list [.text "file"])]) =
      .ok ⟨.list [.text "file"], .absolute, "utf-8", none⟩ := by rfl
  refine ⟨_, haccepted, ?_⟩
  rw [(create_answer_iff haccepted [⟨"file", .files, true⟩]).2.1]
  rintro ⟨s, hs⟩
  nomatch hs

end Registry

end TemplateLookup
