/-
# TemplateLookup.Proofs.Locator.Agreement -- when a check and a look-up agree

A check asks for the first candidate that may be read, a look-up for the first that can
also be opened, and each reads the time of its file in a way of its own. Right after a
look-up the check calls the template fresh exactly when both mean the same path and the
time of this path can be read (`isStale_after_resolve`); so what was just found is stale
only where some readable candidate fails. The other way round, where a check calls a
template fresh and the candidate that it means can be opened, a look-up finds this
candidate, with the known time (`resolve_of_fresh`).
-/

import TemplateLookup.Proofs.Locator.Usable
import TemplateLookup.Proofs.Locator.Verdict

namespace TemplateLookup

/-! ## The two ways of reading a time -/

namespace World

/-- Nothing fails when a path is opened and the open file is asked for its time. -/
def Opens (w : World) (p : Path) : Prop :=
  (∃ content, w.openedContent p = .ok content) ∧ ∃ stamp, w.openedStamp p = .ok stamp

variable {w : World} {p : Path} {content : Bytes} {time : FileTime}

/-- The time that is read by path is the time of the file. -/
theorem stampAt?_eq_some (hfile : w.fileAt? p = some (content, time)) {stamp : Number.Binary64}
    (h : w.stampAt? p = some stamp) : stamp = time.stamp := by
  rw [stampAt?] at h
  split at h
  · cases h
  · rw [hfile] at h
    exact (Option.some.inj h).symm

/-- The time of a file can be read by path unless just this fails. -/
theorem stampAt?_isSome_of_fault (hfile : w.fileAt? p = some (content, time))
    (hfault : w.faultAt p ≠ some .pathTime) : (w.stampAt? p).isSome = true := by
  rw [stampAt?, if_neg hfault, hfile]
  rfl

/-- A readable file on which nothing fails can be used. -/
theorem usable_of_readable (hread : w.isReadable p = true) (hfault : w.faultAt p = none) :
    w.Usable p := by
  obtain ⟨content, time, hfile⟩ := exists_file_of_isReadable hread
  refine ⟨content, time, hfile, ?_, ?_, ?_⟩ <;> rw [hfault] <;> exact nofun

end World

namespace Locator

/-! ## What a look-up found -/

/-- A look-up of a name found a resource: the file of the first usable root, which the table
holds afterwards. -/
structure Located (w : World) (l : Locator) (after : Provenance) (name : String) (r : Resource)
    (location : String) (time : FileTime) : Prop where
  accepted : Name.accept (some name) = .ok location
  first : FirstUsable w location l.roots.names r.root
  path : r.path = candidate r.root location
  provides : w.Provides r.path r.content time
  timed : r.lastModified = time.stamp
  recorded : after.root? name = some r.root

theorem located_of_resolve {w : World} {l : Locator} {table : Provenance} {name : Option String}
    {r : Resource} (h : (resolve w l table name).result = .ok r) :
    ∃ n location time, name = some n ∧
      Located w l (resolve w l table name).table n r location time := by
  have houtcome := Supplier.resolve_outcome w table name (.files l)
  rw [Supplier.resolve] at houtcome
  generalize resolve w l table name = lookup at h houtcome
  cases houtcome with
  | failed reported => cases h
  | @found _ n location _ _ files accepted searched reported =>
    cases h
    cases files
    obtain ⟨hfirst, time, hprovides, hr⟩ := firstUsable_of_searchRoots searched
    have hpath : r.path = candidate r.root location := congrArg Resource.path hr
    refine ⟨n, location, time, rfl, accepted, hfirst, hpath, hpath ▸ hprovides, ?_, ?_⟩
    · simpa only using congrArg Resource.lastModified hr
    · exact Provenance.root?_record_self table n r.root

/-- What a look-up found can be read, so there is a first readable root. -/
theorem Located.exists_firstReadable {w : World} {l : Locator} {after : Provenance} {name : String}
    {r : Resource} {location : String} {time : FileTime} (h : Located w l after name r location time) :
    ∃ first, FirstReadable w location l.roots.names first := by
  cases hroot : readableRoot w location l.roots.names with
  | some first => exact ⟨first, readableRoot_eq_some_iff.mp hroot⟩
  | none =>
    obtain ⟨before, behind, hroots, -, husable⟩ := h.first
    have hmem : r.root ∈ l.roots.names :=
      hroots ▸ List.mem_append_right before List.mem_cons_self
    exact absurd husable (not_usable_of_readableRoot_eq_none hroot r.root hmem)

/-! ## A check after a look-up -/

section

variable {w w' : World} {l : Locator} {after : Provenance} {name : String} {r : Resource}
  {location : String} {time : FileTime}

/-- The check is not refused as long as the same files are readable: what was found exists. -/
theorem Located.isStale_later_answered (h : Located w l after name r location time)
    (hreadable : ∀ p, w'.isReadable p = w.isReadable p) (known : Number.Numeral) :
    ∃ stale, isStale w' l after (some name) known = .ok stale := by
  cases hstale : isStale w' l after (some name) known with
  | ok stale => exact ⟨stale, rfl⟩
  | error e =>
    obtain ⟨location', current, hname, -, hexists⟩ :=
      (isStale_eq_error_iff w' l after (some name) known e).mp hstale
    cases h.accepted.symm.trans hname
    have hread : w'.isReadable r.path = true := (hreadable r.path).trans h.provides.isReadable
    rw [loadedRoot, Option.getD_some, h.recorded, Option.getD_some, ← h.path,
      World.exists?_of_isReadable hread] at hexists
    cases hexists

/-- As long as the same files are readable, the check compares the paths of the two
candidates, and the known time with the time of this path. -/
theorem Located.isStale_later_iff (h : Located w l after name r location time)
    (hreadable : ∀ p, w'.isReadable p = w.isReadable p) {first : String}
    (hfirst : FirstReadable w location l.roots.names first) (known : Number.Numeral) :
    isStale w' l after (some name) known = .ok false ↔
      candidate first location = r.path ∧
        ∃ stamp, w'.stampAt? r.path = some stamp ∧ known.equals stamp = true := by
  have hroot : readableRoot w' location l.roots.names = some first :=
    (readableRoot_of_isReadable (fun _ => hreadable _) _).trans (readableRoot_eq_some_iff.mpr hfirst)
  have hloaded : candidate (loadedRoot after (some name) first) location = r.path := by
    rw [loadedRoot, Option.getD_some, h.recorded, Option.getD_some, h.path]
  rw [isStale_eq_false_iff]
  constructor
  · rintro ⟨location', current, hname, hcurrent, hsame, htimed⟩
    cases h.accepted.symm.trans hname
    cases hroot.symm.trans hcurrent
    rw [hloaded] at hsame
    exact ⟨hsame.symm, hsame ▸ htimed⟩
  · rintro ⟨hsame, htimed⟩
    exact ⟨location, first, h.accepted, hroot, hloaded.trans hsame.symm, hsame ▸ htimed⟩

/-- Right after the look-up only the question for the time may fail. -/
theorem Located.isStale_iff (h : Located w l after name r location time) {first : String}
    (hfirst : FirstReadable w location l.roots.names first) :
    isStale w l after (some name) (.real r.lastModified) = .ok false ↔
      (w.stampAt? r.path).isSome = true ∧ candidate first location = r.path := by
  rw [h.isStale_later_iff (fun _ => rfl) hfirst, and_comm, Option.isSome_iff_exists]
  apply and_congr_left'
  constructor
  · rintro ⟨stamp, hstamp, -⟩
    exact ⟨stamp, hstamp⟩
  · rintro ⟨stamp, hstamp⟩
    refine ⟨stamp, hstamp, ?_⟩
    -- both times are the time of the file
    rw [h.timed, World.stampAt?_eq_some h.provides.file hstamp]
    exact FileTime.same_stamp_self time

theorem Located.isStale_answered (h : Located w l after name r location time)
    (known : Number.Numeral) : ∃ stale, isStale w l after (some name) known = .ok stale :=
  h.isStale_later_answered (fun _ => rfl) known

end

/-- A template was just found. The check with its time is answered, and the answer is that
it is fresh exactly when the time of its file can be read by path and the first root with a
readable candidate leads to the same path. So where no readable candidate fails in any way,
it is fresh. -/
theorem isStale_after_resolve {w : World} {l : Locator} {table : Provenance}
    {name : Option String} {r : Resource} (hfound : (resolve w l table name).result = .ok r) :
    let verdict := isStale w l (resolve w l table name).table name (.real r.lastModified)
    ∃ location first, Name.accept name = .ok location ∧
      r.path = candidate r.root location ∧ FirstReadable w location l.roots.names first ∧
      (∃ stale, verdict = .ok stale ∧
        (stale = false ↔
          (w.stampAt? r.path).isSome = true ∧ candidate first location = r.path)) ∧
      ((∀ root ∈ l.roots.names, w.isReadable (candidate root location) = true →
          w.faultAt (candidate root location) = none) →
        verdict = .ok false) := by
  intro verdict
  obtain ⟨n, location, time, rfl, h⟩ := located_of_resolve hfound
  obtain ⟨first, hfirst⟩ := h.exists_firstReadable
  obtain ⟨stale, hstale⟩ := h.isStale_answered (.real r.lastModified)
  have hiff := h.isStale_iff hfirst
  refine ⟨location, first, h.accepted, h.path, hfirst, ⟨stale, hstale, ?_⟩, fun hfaults => ?_⟩
  · rw [← hiff, hstale, Except.ok.injEq]
  · -- the first readable candidate can be used, so it is the one that was found
    have hcurrent := readableRoot_eq_some_iff.mpr hfirst
    obtain ⟨hmem, hread⟩ := readableRoot_eq_some hcurrent
    have husable := World.usable_of_readable hread (hfaults first hmem hread)
    have hsame := (firstUsable_of_readableRoot hcurrent husable).unique h.first
    subst hsame
    refine hiff.mpr ⟨World.stampAt?_isSome_of_fault h.provides.file ?_, h.path.symm⟩
    rw [h.path, hfaults _ hmem hread]
    exact nofun

/-- The file that may be read but cannot be opened keeps a template stale that was just
found behind it; where it can be opened, it is found and fresh. -/
theorem crowded_flaps :
    isStale crowded tour (resolve crowded tour .empty (some "./x")).table (some "./x")
        (.real (FileTime.stamp ⟨5, 0⟩)) = .ok true ∧
      let mended : World := { crowded with faults := [] }
      isStale mended tour (resolve mended tour .empty (some "./x")).table (some "./x")
        (.real (FileTime.stamp ⟨7, 0⟩)) = .ok false := by
  have haccept : Name.accept (some "./x") = .ok "/x" := rfl
  constructor
  · have hfound : (resolve crowded tour .empty (some "./x")).result =
        .ok ⟨"./x", "/c", ⟨.root, ["c", "x"]⟩, FileTime.stamp ⟨5, 0⟩, [111]⟩ := rfl
    obtain ⟨location, first, hname, -, hfirst, ⟨stale, hstale, hfresh⟩, -⟩ :=
      isStale_after_resolve hfound
    dsimp only at hstale
    cases haccept.symm.trans hname
    have hreadable : readableRoot crowded "/x" tour.roots.names = some "/b" := rfl
    cases hfirst.unique (readableRoot_eq_some_iff.mp hreadable)
    cases stale with
    | true => exact hstale
    | false => exact absurd (hfresh.mp rfl).2 (by decide)
  · intro mended
    have hfound : (resolve mended tour .empty (some "./x")).result =
        .ok ⟨"./x", "/b", ⟨.root, ["b", "x"]⟩, FileTime.stamp ⟨7, 0⟩, [110]⟩ := rfl
    obtain ⟨location, first, -, -, -, -, hfresh⟩ := isStale_after_resolve hfound
    dsimp only at hfresh
    exact hfresh fun root _ _ => rfl

/-! ## A check before a look-up -/

/-- A fresh template would be found again: the first readable candidate, if it can be opened,
has the known time and is the candidate of the root in the table. -/
theorem resolve_of_fresh {w : World} {l : Locator} {table : Provenance} {name : Option String}
    {known : Number.Numeral} (hfresh : isStale w l table name known = .ok false)
    (hopens : ∀ location first, Name.accept name = .ok location →
      FirstReadable w location l.roots.names first → w.Opens (candidate first location)) :
    ∃ location r, Name.accept name = .ok location ∧ (resolve w l table name).result = .ok r ∧
      known.equals r.lastModified = true ∧
      ∀ n root, name = some n → table.root? n = some root → r.path = candidate root location := by
  obtain ⟨location, current, hname, hcurrent, hsame, stamp, hstamp, hequal⟩ :=
    (isStale_eq_false_iff w l table name known).mp hfresh
  have hfirst := readableRoot_eq_some_iff.mp hcurrent
  obtain ⟨hmem, hread⟩ := readableRoot_eq_some hcurrent
  obtain ⟨⟨content, hopen⟩, opened, htime⟩ := hopens location current hname hfirst
  obtain ⟨time, hprovides, -⟩ := World.Provides.of_opened hread hopen htime
  have husable : w.Usable (candidate current location) := ⟨content, time, hprovides⟩
  obtain ⟨-, hresult⟩ := outcomes_of_accept w l table hname
  cases hsearch : (searchRoots w (name.getD "") location l.roots.names).resource with
  | none =>
    exact absurd husable ((searchRoots_eq_none_iff w _ location _).mp hsearch current hmem)
  | some r =>
    rw [hsearch] at hresult
    obtain ⟨n, location', time', rfl, h⟩ := located_of_resolve hresult
    cases hname.symm.trans h.accepted
    -- what is found is the candidate that the check compared
    have hpath : r.path = candidate current location := by
      rw [h.path, h.first.unique (firstUsable_of_readableRoot hcurrent husable)]
    refine ⟨location, r, hname, hresult, ?_, ?_⟩
    · rw [h.timed, ← World.stampAt?_eq_some h.provides.file (hpath ▸ hstamp)]
      exact hequal
    · intro n' root hn hroot
      cases hn
      rw [loadedRoot, Option.getD_some, hroot, Option.getD_some] at hsame
      rw [hpath, hsame]

end Locator

end TemplateLookup
