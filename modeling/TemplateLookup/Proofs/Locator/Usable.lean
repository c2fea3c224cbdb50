/-
# TemplateLookup.Proofs.Locator.Usable -- the first file that can be used

A file can be used when it may be read, can be opened, and tells its time then. A look-up
finds the first root, in order, with a usable file, and of the table it changes the entry
of the name that was asked for and no other; where no root has a usable file it leaves the
table alone (`resolve_first_usable`). `currentRoot` tests less, namely whether a file may
be read. So it tells what a look-up finds exactly when the first readable file can be used
as well (`currentRoot_predicts_iff`); and it refuses the names that a look-up refuses.
-/

import TemplateLookup.Proofs.Locator.Search

namespace TemplateLookup

/-! ## Usable files -/

namespace World

/-- A path leads to a file with this content and time, which may be read, can be opened,
and tells its time then. -/
structure Provides (w : World) (p : Path) (content : Bytes) (time : FileTime) : Prop where
  file : w.fileAt? p = some (content, time)
  permitted : w.faultAt p ≠ some .access
  opens : w.faultAt p ≠ some .opening
  timed : w.faultAt p ≠ some .openedTime

/-- A path leads to a file that can be used. -/
def Usable (w : World) (p : Path) : Prop := ∃ content time, w.Provides p content time

namespace Provides

variable {w : World} {p : Path} {content : Bytes} {time : FileTime}

theorem isReadable (h : w.Provides p content time) : w.isReadable p = true := by
  simp [World.isReadable, isFile, h.file, h.permitted]

theorem openedContent (h : w.Provides p content time) : w.openedContent p = .ok content := by
  obtain ⟨loc, hlook⟩ := fileAt?_eq_some_iff.mp h.file
  rw [World.openedContent, if_neg h.opens, contentAt, hlook]

theorem openedStamp (h : w.Provides p content time) : w.openedStamp p = .ok time.stamp := by
  rw [World.openedStamp, if_neg h.timed, h.file]

/-- What may be read, was opened and told its time can be used. -/
theorem of_opened {stamp : Number.Binary64} (hread : w.isReadable p = true)
    (hopen : w.openedContent p = .ok content) (hstamp : w.openedStamp p = .ok stamp) :
    ∃ time, w.Provides p content time ∧ stamp = time.stamp := by
  obtain ⟨time, hfile, htime⟩ := fileAt?_of_opened hopen hstamp
  refine ⟨time, ⟨hfile, ?_, ?_, ?_⟩, htime⟩
  · rw [World.isReadable, Bool.and_eq_true] at hread
    exact of_decide_eq_true hread.2
  · intro hfault
    rw [World.openedContent, if_pos hfault] at hopen
    cases hopen
  · intro hfault
    rw [World.openedStamp, if_pos hfault] at hstamp
    cases hstamp

end Provides

end World

/-! ## One trial -/

theorem tryRoot_of_provides {w : World} {location root : String} {content : Bytes}
    {time : FileTime} (h : w.Provides (candidate root location) content time) (name : String) :
    tryRoot w name location root =
      .opened ⟨name, root, candidate root location, time.stamp, content⟩ := by
  simp only [tryRoot, h.isReadable, if_true, h.openedContent, h.openedStamp]

/-- A trial opens a resource exactly when the candidate can be used. -/
theorem tryRoot_resource?_eq_none_iff (w : World) (name location root : String) :
    (tryRoot w name location root).resource? = none ↔ ¬ w.Usable (candidate root location) := by
  constructor
  · rintro hnone ⟨content, time, hprovides⟩
    rw [tryRoot_of_provides hprovides] at hnone
    cases hnone
  · intro hunusable
    cases htry : (tryRoot w name location root).resource? with
    | none => rfl
    | some r =>
      obtain ⟨hread, hopen, hstamp, -⟩ := tryRoot_resource? htry
      obtain ⟨time, hprovides, -⟩ := World.Provides.of_opened hread hopen hstamp
      exact absurd ⟨r.content, time, hprovides⟩ hunusable

/-! ## The search -/

/-- A root is the first one whose candidate can be used. -/
def FirstUsable (w : World) (location : String) (roots : List String) (root : String) : Prop :=
  IsFirst (fun root => w.Usable (candidate root location)) roots root

theorem searchRoots_eq_none_iff (w : World) (name location : String) (roots : List String) :
    (searchRoots w name location roots).resource = none ↔
      ∀ root ∈ roots, ¬ w.Usable (candidate root location) := by
  rw [searchRoots_resource, List.findSome?_eq_none_iff]
  exact forall₂_congr fun root _ => tryRoot_resource?_eq_none_iff w name location root

/-- What a search finds is the file of the first root with a usable one. -/
theorem firstUsable_of_searchRoots {w : World} {name location : String} {roots : List String}
    {r : Resource} (h : (searchRoots w name location roots).resource = some r) :
    FirstUsable w location roots r.root ∧
      ∃ time, w.Provides (candidate r.root location) r.content time ∧
        r = ⟨name, r.root, candidate r.root location, time.stamp, r.content⟩ := by
  rw [searchRoots_resource] at h
  obtain ⟨before, root, after, hroots, htry, hbefore⟩ := List.findSome?_eq_some_iff.mp h
  obtain ⟨hread, hopen, hstamp, hname, hroot, hpath⟩ := tryRoot_resource? htry
  subst hroot
  obtain ⟨time, hprovides, htime⟩ := World.Provides.of_opened hread hopen hstamp
  constructor
  · refine ⟨before, after, hroots, ?_, r.content, time, hprovides⟩
    exact fun earlier hmem =>
      (tryRoot_resource?_eq_none_iff w name location earlier).mp (hbefore earlier hmem)
  · refine ⟨time, hprovides, ?_⟩
    rw [← hname, ← hpath, ← htime]

/-- What can be used can be read, so nothing before the first readable root is usable. -/
theorem firstUsable_of_readableRoot {w : World} {location root : String} {roots : List String}
    (h : readableRoot w location roots = some root) (husable : w.Usable (candidate root location)) :
    FirstUsable w location roots root := by
  obtain ⟨before, after, hroots, hbefore, -⟩ := readableRoot_eq_some_iff.mp h
  refine ⟨before, after, hroots, ?_, husable⟩
  rintro earlier hmem ⟨content, time, hprovides⟩
  exact hbefore earlier hmem hprovides.isReadable

theorem not_usable_of_readableRoot_eq_none {w : World} {location : String} {roots : List String}
    (h : readableRoot w location roots = none) :
    ∀ root ∈ roots, ¬ w.Usable (candidate root location) := by
  rintro root hmem ⟨content, time, hprovides⟩
  exact List.find?_eq_none.mp h root hmem hprovides.isReadable

namespace Locator

/-! ## The effects of a look-up -/

/-- A look-up of an accepted name succeeds with the first root, in order, whose candidate
can be used. It gives this candidate, with its content and time, under the name that was
asked for, and of the table it sets the entry of this name and no other. Where no candidate
can be used it fails with the location, and the table stays as it was. -/
theorem resolve_first_usable (w : World) (l : Locator) (table : Provenance)
    {name location : String} (accepted : Name.accept (some name) = .ok location) :
    let lookup := resolve w l table (some name)
    ((∃ root ∈ l.roots.names, w.Usable (candidate root location)) →
      ∃ root content time, FirstUsable w location l.roots.names root ∧
        w.Provides (candidate root location) content time ∧
        lookup.result = .ok ⟨name, root, candidate root location, time.stamp, content⟩ ∧
        lookup.table.root? name = some root ∧
        ∀ other, other ≠ name → lookup.table.root? other = table.root? other) ∧
      ((∀ root ∈ l.roots.names, ¬ w.Usable (candidate root location)) →
        lookup.result = .error (.notFound location) ∧ lookup.table = table) := by
  intro lookup
  have hlookup : lookup = resolveAt w l table name location := by
    show resolve w l table (some name) = _
    rw [resolve, accepted]
    rfl
  have hnone := searchRoots_eq_none_iff w name location l.roots.names
  rw [hlookup, resolveAt]
  cases hsearch : (searchRoots w name location l.roots.names).resource with
  | none =>
    refine ⟨?_, fun _ => ⟨rfl, rfl⟩⟩
    rintro ⟨root, hmem, husable⟩
    exact absurd husable (hnone.mp hsearch root hmem)
  | some r =>
    obtain ⟨hfirst, time, hprovides, hr⟩ := firstUsable_of_searchRoots hsearch
    constructor
    · intro _
      refine ⟨r.root, r.content, time, hfirst, hprovides, congrArg Except.ok hr, ?_, ?_⟩
      · exact Provenance.root?_record_self table name r.root
      · exact fun other hother => Provenance.root?_record_of_ne table r.root hother
    · intro hunusable
      rw [hnone.mpr hunusable] at hsearch
      cases hsearch

/-- A directory, a file that cannot be opened, and a file. -/
def crowded : World :=
  ⟨[(["a"], .directory), (["a", "x"], .directory), (["b"], .directory),
    (["b", "x"], .file [110] ⟨7, 0⟩), (["c"], .directory), (["c", "x"], .file [111] ⟨5, 0⟩)],
    [], [("/b/x", .opening)], 0⟩

/-- A search that meets all three of them, the last one twice. -/
def tour : Locator := ⟨defaultKind, ⟨["", "/a", "/b", "/c", "/c"]⟩⟩

/-- The directory and the file that cannot be opened are passed over, and the entry is for
the name as it was asked for. -/
theorem crowded_resolved :
    Name.accept (some "./x") = .ok "/x" ∧
      FirstUsable crowded "/x" tour.roots.names "/c" ∧
      (resolve crowded tour .empty (some "./x")).table.root? "./x" = some "/c" := by
  have haccept : Name.accept (some "./x") = .ok "/x" := rfl
  have husable : crowded.Usable (candidate "/c" "/x") :=
    ⟨[111], ⟨5, 0⟩, rfl, by decide, by decide, by decide⟩
  obtain ⟨root, content, time, hfirst, -, hresult, htable, -⟩ :=
    (resolve_first_usable crowded tour .empty haccept).1 ⟨"/c", by decide, husable⟩
  have hroot : (resolve crowded tour .empty (some "./x")).result.map Resource.root = .ok "/c" := rfl
  rw [hresult] at hroot
  cases hroot
  exact ⟨haccept, hfirst, htable⟩

end Locator

/-! ## Refusals -/

/-- The name itself is refused, whatever the files are. -/
def LookupError.IsRefusal : LookupError → Prop
  | .unnamed _ => True
  | .climbs _ => True
  | .notFound _ => False
  | .absent _ _ => False

theorem Name.isRefusal_of_accept {name : Option String} {e : LookupError}
    (h : accept name = .error e) : e.IsRefusal := by
  cases name with
  | none =>
    cases h
    trivial
  | some n =>
    rw [accept] at h
    by_cases hn : n = ""
    · rw [if_pos hn] at h
      cases h
      trivial
    · rw [if_neg hn] at h
      cases hnormal : normal? n with
      | some location =>
        rw [hnormal] at h
        cases h
      | none =>
        rw [hnormal] at h
        cases h
        trivial

namespace Locator

/-! ## The root of now -/

/-- The root of now is the one that a look-up finds. -/
structure Predicts (w : World) (l : Locator) (table : Provenance) (name : Option String) :
    Prop where
  found : ∀ root, currentRoot w l name = .ok (some root) ↔
    ∃ r, (resolve w l table name).result = .ok r ∧ r.root = root
  missing : currentRoot w l name = .ok none ↔
    ∃ location, (resolve w l table name).result = .error (.notFound location)

/-- The outcomes for an accepted name. -/
theorem outcomes_of_accept (w : World) (l : Locator) (table : Provenance) {name : Option String}
    {location : String} (h : Name.accept name = .ok location) :
    currentRoot w l name = .ok (readableRoot w location l.roots.names) ∧
      (resolve w l table name).result =
        match (searchRoots w (name.getD "") location l.roots.names).resource with
        | some r => .ok r
        | none => .error (.notFound location) := by
  rw [currentRoot, resolve, h]
  refine ⟨rfl, ?_⟩
  simp only [resolveAt]
  cases (searchRoots w (name.getD "") location l.roots.names).resource <;> rfl

/-- For an accepted name the root of now is right exactly when it is usable. -/
theorem predicts_iff_of_accept (w : World) (l : Locator) (table : Provenance)
    {name : Option String} {location : String} (h : Name.accept name = .ok location) :
    Predicts w l table name ↔
      ∀ root, readableRoot w location l.roots.names = some root →
        w.Usable (candidate root location) := by
  obtain ⟨hcurrent, hresult⟩ := outcomes_of_accept w l table h
  constructor
  · intro hpredicts root hroot
    obtain ⟨r, hr, rfl⟩ := (hpredicts.found root).mp (hcurrent.trans (congrArg Except.ok hroot))
    cases hsearch : (searchRoots w (name.getD "") location l.roots.names).resource with
    | none =>
      rw [hsearch] at hresult
      cases hr.symm.trans hresult
    | some found =>
      rw [hsearch] at hresult
      cases hr.symm.trans hresult
      obtain ⟨-, time, hprovides, -⟩ := firstUsable_of_searchRoots hsearch
      exact ⟨_, time, hprovides⟩
  · intro husable
    have hnone := searchRoots_eq_none_iff w (name.getD "") location l.roots.names
    cases hroot : readableRoot w location l.roots.names with
    | none =>
      rw [hnone.mpr (not_usable_of_readableRoot_eq_none hroot)] at hresult
      rw [hroot] at hcurrent
      refine ⟨fun root => ?_, iff_of_true hcurrent ⟨location, hresult⟩⟩
      rw [hcurrent, hresult]
      simp
    | some root =>
      have hfirst := firstUsable_of_readableRoot hroot (husable root hroot)
      cases hsearch : (searchRoots w (name.getD "") location l.roots.names).resource with
      | none =>
        have hmem := (readableRoot_eq_some hroot).1
        exact absurd (husable root hroot) (hnone.mp hsearch root hmem)
      | some r =>
        -- there is only one first usable root
        have hsame := hfirst.unique (firstUsable_of_searchRoots hsearch).1
        rw [hsearch] at hresult
        rw [hroot] at hcurrent
        refine ⟨fun other => ?_, ?_⟩
        · rw [hcurrent, hresult, hsame]
          simp
        · rw [hcurrent, hresult]
          simp

/-- A refused name is refused in both operations, and nothing is predicted wrongly. -/
theorem predicts_of_refused (w : World) (l : Locator) (table : Provenance) {name : Option String}
    {e : LookupError} (h : Name.accept name = .error e) :
    currentRoot w l name = .error e ∧ (resolve w l table name).result = .error e ∧
      Predicts w l table name := by
  have hcurrent : currentRoot w l name = .error e := by
    rw [currentRoot, h]
    rfl
  have hresult : (resolve w l table name).result = .error e := by
    rw [resolve, h]
  refine ⟨hcurrent, hresult, fun root => ?_, ?_⟩
  · rw [hcurrent, hresult]
    simp
  · rw [hcurrent, hresult]
    refine iff_of_false nofun ?_
    rintro ⟨location, he⟩
    cases he
    exact Name.isRefusal_of_accept h

/-- The names that a look-up refuses are refused, and in the same way. Where no root is
told a look-up fails. What is told is right exactly when the first readable candidate, if
there is one, can be used. -/
theorem currentRoot_predicts_iff (w : World) (l : Locator) (table : Provenance)
    (name : Option String) :
    (∀ e, currentRoot w l name = .error e ↔
      (resolve w l table name).result = .error e ∧ e.IsRefusal) ∧
      (currentRoot w l name = .ok none →
        ∃ location, (resolve w l table name).result = .error (.notFound location)) ∧
      (Predicts w l table name ↔
        ∀ location root, Name.accept name = .ok location →
          readableRoot w location l.roots.names = some root →
          w.Usable (candidate root location)) := by
  cases hname : Name.accept name with
  | error refusal =>
    obtain ⟨hcurrent, hresult, hpredicts⟩ := predicts_of_refused w l table hname
    refine ⟨fun e => ?_, fun hno => ?_, iff_of_true hpredicts nofun⟩
    · rw [hcurrent, hresult]
      constructor
      · intro he
        cases he
        exact ⟨rfl, Name.isRefusal_of_accept hname⟩
      · rintro ⟨he, -⟩
        cases he
        rfl
    · cases hcurrent.symm.trans hno
  | ok location =>
    obtain ⟨hcurrent, hresult⟩ := outcomes_of_accept w l table hname
    refine ⟨fun e => ?_, fun hno => ?_, ?_⟩
    · rw [hcurrent, hresult]
      refine iff_of_false nofun ?_
      rintro ⟨he, hrefusal⟩
      -- a failed search is no refusal
      split at he
      · cases he
      · cases he
        exact hrefusal
    · rw [hcurrent] at hno
      have hunusable := not_usable_of_readableRoot_eq_none (Except.ok.inj hno)
      rw [(searchRoots_eq_none_iff w (name.getD "") location _).mpr hunusable] at hresult
      exact ⟨location, hresult⟩
    · rw [predicts_iff_of_accept w l table hname]
      constructor
      · intro h location' root hlocation
        cases hlocation
        exact h root
      · exact fun h root => h location root rfl

/-- The file that cannot be opened is told, although a look-up passes over it. -/
theorem crowded_mispredicted :
    currentRoot crowded tour (some "x") = .ok (some "/b") ∧
      ¬ Predicts crowded tour .empty (some "x") := by
  refine ⟨rfl, ?_⟩
  rw [(currentRoot_predicts_iff crowded tour .empty (some "x")).2.2]
  intro h
  obtain ⟨content, time, hprovides⟩ := h "/x" "/b" rfl rfl
  exact hprovides.opens rfl

end Locator

end TemplateLookup
