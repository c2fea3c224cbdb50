/-
# TemplateLookup.Proofs.Locator.Verdict -- what the verdict on a template depends on

A template is fresh under four conditions: its name is accepted, some root has a readable
candidate, the root in the table has the same candidate as the first of these, and the
time of this candidate is the known one (`Fresh`). Otherwise it is stale, unless the
question is refused (`isStale_decided`). So the verdict depends on the candidates down to
the first readable one and on one entry of the table; `reached` lists the roots that count.
Right after a look-up it depends on less: on the path of the root in the table and on the
time of the file that was found (`isStale_of_found`).
-/

import TemplateLookup.Proofs.Locator.Lookup
import TemplateLookup.Proofs.Locator.Staleness

namespace TemplateLookup

/-- A time stamp equals itself. -/
theorem FileTime.same_stamp_self (t : FileTime) : t.stamp.same t.stamp = true := by
  rw [stamp, Number.Binary64.ofUnits]
  exact Number.Binary64.same_ofRatio_self _ _ _

/-! ## The roots that count -/

/-- A root is the first one with a readable candidate. -/
def FirstReadable (w : World) (location : String) (roots : List String) (root : String) : Prop :=
  IsFirst (fun root => w.isReadable (candidate root location) = true) roots root

/-- The roots down to the first one with a readable candidate, or all of them. -/
def reached (w : World) (location : String) : List String → List String
  | [] => []
  | root :: rest =>
    if w.isReadable (candidate root location) then [root] else root :: reached w location rest

theorem mem_reached_of_readableRoot {w : World} {location : String} {roots : List String}
    {root : String} (h : readableRoot w location roots = some root) :
    root ∈ reached w location roots := by
  induction roots with
  | nil => cases h
  | cons first rest ih =>
    rw [readableRoot, List.find?_cons] at h
    rw [reached]
    cases hread : w.isReadable (candidate first location) with
    | true =>
      rw [hread] at h
      cases h
      exact List.mem_cons_self
    | false =>
      rw [hread] at h
      exact List.mem_cons_of_mem first (ih h)

/-- Two worlds agree on a path as far as a verdict looks at it. -/
structure World.AgreesAt (w w' : World) (p : Path) : Prop where
  readable : w'.isReadable p = w.isReadable p
  time : w'.stampAt? p = w.stampAt? p

/-- Only the candidates of the roots that are reached count. -/
theorem readableRoot_congr {w w' : World} {location : String} {roots : List String}
    (h : ∀ root ∈ reached w location roots, w.AgreesAt w' (candidate root location)) :
    readableRoot w' location roots = readableRoot w location roots := by
  induction roots with
  | nil => rfl
  | cons first rest ih =>
    rw [reached] at h
    rw [readableRoot, readableRoot, List.find?_cons, List.find?_cons]
    cases hread : w.isReadable (candidate first location) with
    | true =>
      rw [hread] at h
      rw [(h first List.mem_cons_self).readable, hread]
    | false =>
      rw [hread] at h
      rw [(h first List.mem_cons_self).readable, hread]
      exact ih fun root hmem => h root (List.mem_cons_of_mem first hmem)

namespace Locator

/-! ## The conditions of a fresh template -/

/-- A template is fresh at a location, under the root that would be used now. -/
structure Fresh (w : World) (l : Locator) (table : Provenance) (name : Option String)
    (known : Number.Numeral) (location current : String) : Prop where
  accepted : Name.accept name = .ok location
  first : FirstReadable w location l.roots.names current
  same : candidate ((name.bind table.root?).getD current) location = candidate current location
  timed : ∃ stamp, w.stampAt? (candidate current location) = some stamp ∧
    known.equals stamp = true

/-- The entry of an accepted name. -/
theorem loadedRoot_of_accept {name : Option String} {location : String}
    (h : Name.accept name = .ok location) (table : Provenance) (current : String) :
    loadedRoot table name current = (name.bind table.root?).getD current := by
  cases name with
  | none => cases h
  | some n => rfl

theorem isStale_eq_false_iff_fresh (w : World) (l : Locator) (table : Provenance)
    (name : Option String) (known : Number.Numeral) :
    isStale w l table name known = .ok false ↔
      ∃ location current, Fresh w l table name known location current := by
  rw [isStale_eq_false_iff]
  constructor
  · rintro ⟨location, current, hname, hroot, hsame, htime⟩
    rw [loadedRoot_of_accept hname] at hsame
    exact ⟨location, current, hname, readableRoot_eq_some_iff.mp hroot, hsame, htime⟩
  · rintro ⟨location, current, hname, hfirst, hsame, htime⟩
    rw [← loadedRoot_of_accept hname] at hsame
    exact ⟨location, current, hname, readableRoot_eq_some_iff.mpr hfirst, hsame, htime⟩

/-- Freshness carries over to a world that agrees on the roots that count, and to a table
with the same entry. -/
theorem Fresh.congr {w w' : World} {l : Locator} {table table' : Provenance}
    {name : Option String} {known : Number.Numeral} {location current : String}
    (h : Fresh w l table name known location current)
    (hroots : readableRoot w' location l.roots.names = readableRoot w location l.roots.names)
    (htime : w'.stampAt? (candidate current location) = w.stampAt? (candidate current location))
    (hentry : name.bind table'.root? = name.bind table.root?) :
    Fresh w' l table' name known location current := by
  refine ⟨h.accepted, ?_, ?_, ?_⟩
  · exact readableRoot_eq_some_iff.mp (hroots.trans (readableRoot_eq_some_iff.mpr h.first))
  · rw [hentry]
    exact h.same
  · rw [htime]
    exact h.timed

/-- Of the table only the entry of the name counts. -/
theorem isStale_congr_entry (w : World) (l : Locator) {table table' : Provenance}
    {name : Option String} (h : name.bind table'.root? = name.bind table.root?)
    (known : Number.Numeral) : isStale w l table' name known = isStale w l table name known := by
  cases name with
  | none => rfl
  | some n =>
    have hentry : table'.root? n = table.root? n := h
    rw [isStale, isStale, Option.getD_some, hentry]

/-! ## The verdict -/

/-- Where the question is not refused, a template is fresh exactly under the conditions of
`Fresh`, and stale in every other case. Worlds and tables that agree on the candidates of
the roots that count and on the entry of the name give the same verdict, whatever else is
in them. -/
theorem isStale_decided (w : World) (l : Locator) (table : Provenance) (name : Option String)
    (known : Number.Numeral) (hanswer : ∃ stale, isStale w l table name known = .ok stale) :
    (isStale w l table name known = .ok false ↔
      ∃ location current, Fresh w l table name known location current) ∧
      (isStale w l table name known = .ok true ↔
        ¬ ∃ location current, Fresh w l table name known location current) ∧
      ∀ w' table', (∃ stale, isStale w' l table' name known = .ok stale) →
        (∀ location, Name.accept name = .ok location →
          ∀ root ∈ reached w location l.roots.names, w.AgreesAt w' (candidate root location)) →
        name.bind table'.root? = name.bind table.root? →
        isStale w' l table' name known = isStale w l table name known := by
  have hfresh := isStale_eq_false_iff_fresh w l table name known
  refine ⟨hfresh, ?_, ?_⟩
  · rw [← hfresh]
    obtain ⟨stale, hstale⟩ := hanswer
    rw [hstale]
    cases stale <;> simp
  · rintro w' table' ⟨stale', hstale'⟩ hagree hentry
    have hfresh' := isStale_eq_false_iff_fresh w' l table' name known
    have hsame : isStale w' l table' name known = .ok false ↔
        isStale w l table name known = .ok false := by
      rw [hfresh, hfresh']
      constructor
      · rintro ⟨location, current, h⟩
        have hroots := readableRoot_congr (hagree location h.accepted)
        have hcurrent := hroots.symm.trans (readableRoot_eq_some_iff.mpr h.first)
        have htime := (hagree location h.accepted current (mem_reached_of_readableRoot hcurrent)).time
        exact ⟨location, current, h.congr hroots.symm htime.symm hentry.symm⟩
      · rintro ⟨location, current, h⟩
        have hroots := readableRoot_congr (hagree location h.accepted)
        have hcurrent := readableRoot_eq_some_iff.mpr h.first
        have htime := (hagree location h.accepted current (mem_reached_of_readableRoot hcurrent)).time
        exact ⟨location, current, h.congr hroots htime hentry⟩
    -- two answers of which neither or both are `false` are equal
    obtain ⟨stale, hstale⟩ := hanswer
    rw [hstale, hstale'] at hsame ⊢
    cases stale <;> cases stale' <;> simp_all

/-- A file below the second of two roots. -/
def filed : World := ⟨[(["a"], .directory), (["a", "x"], .file [111] ⟨5, 0⟩)], [], [], 0⟩

/-- The same file next to another one that cannot be read. -/
def refiled : World :=
  { filed with
    entries := filed.entries ++ [(["a", "y"], .file [] ⟨9, 0⟩)]
    faults := [("/a/y", .access)] }

/-- The search of the two roots. -/
def filing : Locator := ⟨defaultKind, ⟨["/z", "/a"]⟩⟩

/-- The table spells the root of the file in another way, which makes no difference; nor
do the other file and an entry for it. -/
theorem filed_fresh :
    let known := Number.Numeral.real (FileTime.stamp ⟨5, 0⟩)
    isStale filed filing ⟨[("x", "/a/.//")]⟩ (some "x") known = .ok false ∧
      isStale refiled filing ⟨[("y", "/z"), ("x", "/a/.//")]⟩ (some "x") known = .ok false := by
  intro known
  obtain ⟨hfresh, -, hsame⟩ :=
    isStale_decided filed filing ⟨[("x", "/a/.//")]⟩ (some "x") known ⟨_, rfl⟩
  have hverdict := hfresh.mpr ⟨"/x", "/a", rfl,
    ⟨["/z"], [], rfl, by decide, by decide⟩, by decide, _, rfl, FileTime.same_stamp_self ⟨5, 0⟩⟩
  refine ⟨hverdict, (hsame refiled ⟨[("y", "/z"), ("x", "/a/.//")]⟩ ⟨_, rfl⟩ ?_ rfl).trans hverdict⟩
  intro location hlocation root hroot
  have haccept : Name.accept (some "x") = .ok "/x" := rfl
  cases haccept.symm.trans hlocation
  have hreached : reached filed "/x" filing.roots.names = ["/z", "/a"] := rfl
  rw [hreached, List.mem_cons, List.mem_singleton] at hroot
  rcases hroot with rfl | rfl <;> exact ⟨rfl, rfl⟩

/-! ## Right after a look-up -/

/-- The check against what a look-up finds now. It is passed exactly when the root in the
table leads to the same file with the known time stamp, and refused exactly when whether the
candidate of that root exists cannot be told. Without an entry the root of now counts. -/
theorem isStale_found_iff {w : World} (hw : w.OpensAll) {l : Locator} {table : Provenance}
    {n location root : String} {r : Resource} (hname : Name.accept (some n) = .ok location)
    (hresolve : (resolve w l table (some n)).result = .ok r)
    (hroot : (table.root? n).getD r.root = root) (known : Number.Numeral) :
    (isStale w l table (some n) known = .ok false ↔
      candidate root location = r.path ∧
        ∃ stamp, w.stampAt? r.path = some stamp ∧ known.equals stamp = true) ∧
      ((∃ e, isStale w l table (some n) known = .error e) ↔
        ∃ e, w.exists? (candidate root location) = .error e) := by
  have hfind := resolve_of_opensAll hw l table hname
  cases hcurrent : readableRoot w location l.roots.names with
  | none =>
    rw [hcurrent] at hfind
    cases hresolve.symm.trans hfind
  | some current =>
    rw [hcurrent] at hfind
    obtain ⟨content, time, -, hfound⟩ := hfind
    cases hresolve.symm.trans hfound
    have hloaded : loadedRoot table (some n) current = root := hroot
    constructor
    · rw [isStale_eq_false_iff]
      constructor
      · rintro ⟨location', current', hname', hcurrent', hsame, hstamp⟩
        cases hname.symm.trans hname'
        cases hcurrent.symm.trans hcurrent'
        exact ⟨hloaded ▸ hsame, hstamp⟩
      · rintro ⟨hsame, hstamp⟩
        exact ⟨location, current, hname, hcurrent, hloaded.symm ▸ hsame, hstamp⟩
    · constructor
      · rintro ⟨e, he⟩
        obtain ⟨location', current', hname', hcurrent', hexists⟩ :=
          (isStale_eq_error_iff w l table (some n) known e).mp he
        cases hname.symm.trans hname'
        cases hcurrent.symm.trans hcurrent'
        exact ⟨e, hloaded ▸ hexists⟩
      · rintro ⟨e, hexists⟩
        exact ⟨e, (isStale_eq_error_iff w l table (some n) known e).mpr
          ⟨location, current, hname, hcurrent, hloaded.symm ▸ hexists⟩⟩

theorem isStale_of_found {w : World} (hw : w.OpensAll) {l : Locator}
    {table : Provenance} {n location root : String} {r : Resource}
    (hname : Name.accept (some n) = .ok location)
    (hresolve : (resolve w l table (some n)).result = .ok r)
    (hroot : table.root? n = some root) (known : Number.Numeral) :
    (isStale w l table (some n) known = .ok false ↔
      candidate root location = r.path ∧
        ∃ stamp, w.stampAt? r.path = some stamp ∧ known.equals stamp = true) ∧
      ((∃ e, isStale w l table (some n) known = .error e) ↔
        ∃ e, w.exists? (candidate root location) = .error e) := by
  refine isStale_found_iff hw hname hresolve ?_ known
  rw [hroot, Option.getD_some]

end Locator

end TemplateLookup
