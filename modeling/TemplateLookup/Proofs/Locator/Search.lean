/-
# TemplateLookup.Proofs.Locator.Search -- what a search finds

A search gives the first root whose trial opens a resource (`searchRoots_resource`),
and a resource that was opened comes from the candidate of a root that was searched
(`mem_of_searchRoots`). Where no file fails on being opened, the search finds a file
under exactly the first root with a readable candidate
(`searchRoots_of_opensAll`), so what `currentRoot` sees is what a look-up would use.
-/

import TemplateLookup.Locator.Staleness

namespace TemplateLookup

/-! ## Files at the end of a path -/

namespace World

/-- No file fails on being opened or on telling its time then. -/
def OpensAll (w : World) : Prop :=
  ∀ text, Pairs.fetch text w.faults ≠ some .opening ∧ Pairs.fetch text w.faults ≠ some .openedTime

theorem opensAll_of_faults_nil {w : World} (h : w.faults = []) : w.OpensAll := by
  intro text
  rw [h]
  exact ⟨nofun, nofun⟩

theorem fileAt?_eq_some_iff {w : World} {p : Path} {content : Bytes} {time : FileTime} :
    w.fileAt? p = some (content, time) ↔ ∃ loc, w.look p = .ok (loc, .file content time) := by
  rw [fileAt?]
  constructor
  · intro h
    split at h
    · rename_i loc found foundTime hlook
      cases h
      exact ⟨loc, hlook⟩
    · cases h
  · rintro ⟨loc, hlook⟩
    rw [hlook]

theorem exists_file_of_isReadable {w : World} {p : Path} (h : w.isReadable p = true) :
    ∃ content time, w.fileAt? p = some (content, time) := by
  rw [isReadable, Bool.and_eq_true, isFile, Option.isSome_iff_exists] at h
  obtain ⟨⟨⟨content, time⟩, hfile⟩, -⟩ := h
  exact ⟨content, time, hfile⟩

/-- A readable file exists, so asking for it is never refused. -/
theorem exists?_of_isReadable {w : World} {p : Path} (h : w.isReadable p = true) :
    w.exists? p = .ok true := by
  obtain ⟨content, time, hfile⟩ := exists_file_of_isReadable h
  obtain ⟨loc, hlook⟩ := fileAt?_eq_some_iff.mp hfile
  rw [exists?, hlook]

theorem absence_eq_error_iff {p : Path} {cause : Cause} {e : SystemError} :
    absence p cause = .error e ↔ cause.isAbsence = false ∧ e = ⟨cause, some p.toString⟩ := by
  rw [absence]
  cases cause.isAbsence with
  | true => simp
  | false => simp [eq_comm]

/-- The question is refused where the walk is stopped, unless that means that nothing is there. -/
theorem exists?_eq_error_iff {w : World} {p : Path} {e : SystemError} :
    w.exists? p = .error e ↔
      ∃ cause, w.look p = .error cause ∧ cause.isAbsence = false ∧ e = ⟨cause, some p.toString⟩ := by
  rw [exists?]
  cases w.look p with
  | ok found => exact iff_of_false nofun nofun
  | error cause =>
    dsimp only
    rw [absence_eq_error_iff]
    constructor
    · intro h
      exact ⟨cause, rfl, h⟩
    · rintro ⟨cause', hcause, h⟩
      cases hcause
      exact h

theorem openedContent_of_fileAt? {w : World} (hw : w.OpensAll) {p : Path} {content : Bytes}
    {time : FileTime} (h : w.fileAt? p = some (content, time)) :
    w.openedContent p = .ok content := by
  obtain ⟨loc, hlook⟩ := fileAt?_eq_some_iff.mp h
  rw [openedContent, faultAt, if_neg (hw _).1, contentAt, hlook]

theorem openedStamp_of_fileAt? {w : World} (hw : w.OpensAll) {p : Path} {content : Bytes}
    {time : FileTime} (h : w.fileAt? p = some (content, time)) :
    w.openedStamp p = .ok time.stamp := by
  rw [openedStamp, faultAt, if_neg (hw _).2, h]

/-- What was opened is a file, and its content and time are those of the file. -/
theorem fileAt?_of_opened {w : World} {p : Path} {content : Bytes} {stamp : Number.Binary64}
    (hopen : w.openedContent p = .ok content) (hstamp : w.openedStamp p = .ok stamp) :
    ∃ time, w.fileAt? p = some (content, time) ∧ stamp = time.stamp := by
  rw [openedContent] at hopen
  rw [openedStamp] at hstamp
  split at hopen
  · cases hopen
  · split at hstamp
    · cases hstamp
    · rw [contentAt] at hopen
      split at hopen
      · rename_i loc found time hlook
        cases hopen
        have hfile := fileAt?_eq_some_iff.mpr ⟨loc, hlook⟩
        rw [hfile] at hstamp
        exact ⟨time, hfile, (Except.ok.inj hstamp).symm⟩
      all_goals cases hopen

end World

/-! ## One trial -/

/-- The resource that a trial opened. -/
def Trial.resource? : Trial → Option Resource
  | .opened r => some r
  | _ => none

/-- Nothing is readable under the root, or what is readable cannot be opened, or its time
cannot be read then, or it is opened. -/
theorem tryRoot_cases (w : World) (name location root : String) :
    let path := candidate root location
    let trial := tryRoot w name location root
    (w.isReadable path = false ∧ trial = .nothing) ∨
      w.isReadable path = true ∧
        ((∃ e, w.openedContent path = .error e ∧
            trial = .skipped (.unopened path.toString e.message)) ∨
          ∃ content, w.openedContent path = .ok content ∧
            ((∃ e, w.openedStamp path = .error e ∧
                trial = .skipped (.untimed path.toString e.message)) ∨
              ∃ stamp, w.openedStamp path = .ok stamp ∧
                trial = .opened ⟨name, root, path, stamp, content⟩)) := by
  dsimp only
  rw [tryRoot]
  cases w.isReadable (candidate root location) with
  | false => exact .inl ⟨rfl, rfl⟩
  | true =>
    refine .inr ⟨rfl, ?_⟩
    rw [if_pos rfl]
    cases w.openedContent (candidate root location) with
    | error e => exact .inl ⟨e, rfl, rfl⟩
    | ok content =>
      refine .inr ⟨content, rfl, ?_⟩
      cases w.openedStamp (candidate root location) with
      | error e => exact .inl ⟨e, rfl, rfl⟩
      | ok stamp => exact .inr ⟨stamp, rfl, rfl⟩

theorem tryRoot_resource? {w : World} {name location root : String} {r : Resource}
    (h : (tryRoot w name location root).resource? = some r) :
    w.isReadable (candidate root location) = true ∧
      w.openedContent (candidate root location) = .ok r.content ∧
      w.openedStamp (candidate root location) = .ok r.lastModified ∧
      r.name = name ∧ r.root = root ∧ r.path = candidate root location := by
  rcases tryRoot_cases w name location root with ⟨-, htry⟩ |
    ⟨hread, ⟨e, -, htry⟩ | ⟨content, hopen, ⟨e, -, htry⟩ | ⟨stamp, hstamp, htry⟩⟩⟩
  · rw [htry] at h
    cases h
  · rw [htry] at h
    cases h
  · rw [htry] at h
    cases h
  · rw [htry] at h
    cases h
    exact ⟨hread, hopen, hstamp, rfl, rfl, rfl⟩

/-- A notice says why a candidate was passed over. -/
theorem tryRoot_skipped {w : World} {name location root : String} {notice : Log.Event}
    (h : tryRoot w name location root = .skipped notice) :
    ∃ path reason, notice = .unopened path reason ∨ notice = .untimed path reason := by
  rcases tryRoot_cases w name location root with ⟨-, htry⟩ |
    ⟨-, ⟨e, -, htry⟩ | ⟨content, -, ⟨e, -, htry⟩ | ⟨stamp, -, htry⟩⟩⟩
  · cases htry.symm.trans h
  · cases htry.symm.trans h
    exact ⟨_, _, .inl rfl⟩
  · cases htry.symm.trans h
    exact ⟨_, _, .inr rfl⟩
  · cases htry.symm.trans h

theorem tryRoot_of_unreadable {w : World} {name location root : String}
    (h : w.isReadable (candidate root location) = false) :
    tryRoot w name location root = .nothing := by
  simp only [tryRoot, h, Bool.false_eq_true, if_false]

theorem tryRoot_of_opensAll {w : World} (hw : w.OpensAll) (name : String)
    {location root : String} {content : Bytes} {time : FileTime}
    (hread : w.isReadable (candidate root location) = true)
    (hfile : w.fileAt? (candidate root location) = some (content, time)) :
    tryRoot w name location root =
      .opened ⟨name, root, candidate root location, time.stamp, content⟩ := by
  simp only [tryRoot, hread, if_true, World.openedContent_of_fileAt? hw hfile,
    World.openedStamp_of_fileAt? hw hfile]

/-! ## The search -/

/-- A root is the first one, in order, that has a property. -/
def IsFirst (P : String → Prop) (roots : List String) (root : String) : Prop :=
  ∃ before after, roots = before ++ root :: after ∧ (∀ earlier ∈ before, ¬ P earlier) ∧ P root

theorem IsFirst.unique {P : String → Prop} {roots : List String} {root other : String}
    (h : IsFirst P roots root) (h' : IsFirst P roots other) : root = other := by
  obtain ⟨before, after, hroots, hbefore, hroot⟩ := h
  obtain ⟨before', after', hroots', hbefore', hother⟩ := h'
  -- of two places where the list is cut, one is not after the other
  rcases List.append_eq_append_iff.mp (hroots.symm.trans hroots') with
    ⟨between, hlonger, hrest⟩ | ⟨between, hlonger, hrest⟩
  · cases between with
    | nil => exact (List.cons.inj hrest).1
    | cons first more =>
      cases (List.cons.inj hrest).1
      have hmem : root ∈ before' := hlonger ▸ List.mem_append_right before List.mem_cons_self
      exact absurd hroot (hbefore' root hmem)
  · cases between with
    | nil => exact (List.cons.inj hrest).1.symm
    | cons first more =>
      cases (List.cons.inj hrest).1
      have hmem : other ∈ before := hlonger ▸ List.mem_append_right before' List.mem_cons_self
      exact absurd hother (hbefore other hmem)

/-- The first trial that opens a resource ends the search. -/
theorem searchRoots_resource (w : World) (name location : String) (roots : List String) :
    (searchRoots w name location roots).resource =
      roots.findSome? fun root => (tryRoot w name location root).resource? := by
  induction roots with
  | nil => rfl
  | cons root rest ih =>
    rw [searchRoots, List.findSome?_cons]
    cases tryRoot w name location root with
    | nothing => exact ih
    | skipped notice => exact ih
    | opened resource => rfl

/-- What is reported while roots are searched is about candidates that were passed over. -/
theorem found_not_mem_notices (w : World) (name location : String) (roots : List String)
    (n root : String) : .found n root ∉ (searchRoots w name location roots).notices := by
  induction roots with
  | nil => exact List.not_mem_nil
  | cons first rest ih =>
    rw [searchRoots]
    cases htry : tryRoot w name location first with
    | nothing => exact ih
    | opened resource => exact List.not_mem_nil
    | skipped notice =>
      intro hmem
      rcases List.mem_cons.mp hmem with hnotice | hlater
      · obtain ⟨path, reason, hskip | hskip⟩ := tryRoot_skipped htry
        · cases hnotice.trans hskip
        · cases hnotice.trans hskip
      · exact ih hlater

theorem mem_of_searchRoots {w : World} {name location : String} {roots : List String}
    {r : Resource} (h : (searchRoots w name location roots).resource = some r) :
    r.root ∈ roots ∧ (tryRoot w name location r.root).resource? = some r := by
  rw [searchRoots_resource] at h
  obtain ⟨root, hmem, htry⟩ := List.exists_of_findSome?_eq_some h
  obtain ⟨-, -, -, -, hroot, -⟩ := tryRoot_resource? htry
  rw [hroot]
  exact ⟨hmem, htry⟩

/-- Without failures the search finds what is readable first. -/
theorem searchRoots_of_opensAll {w : World} (hw : w.OpensAll) (name location : String)
    (roots : List String) :
    match readableRoot w location roots with
    | none => (searchRoots w name location roots).resource = none
    | some root => ∃ content time,
        w.fileAt? (candidate root location) = some (content, time) ∧
        (searchRoots w name location roots).resource =
          some ⟨name, root, candidate root location, time.stamp, content⟩ := by
  induction roots with
  | nil => exact rfl
  | cons root rest ih =>
    rw [readableRoot, List.find?_cons]
    cases hread : w.isReadable (candidate root location) with
    | true =>
      obtain ⟨content, time, hfile⟩ := World.exists_file_of_isReadable hread
      refine ⟨content, time, hfile, ?_⟩
      rw [searchRoots, tryRoot_of_opensAll hw name hread hfile]
    | false =>
      rw [searchRoots, tryRoot_of_unreadable hread]
      exact ih

theorem readableRoot_eq_some_iff {w : World} {location : String} {roots : List String}
    {root : String} :
    readableRoot w location roots = some root ↔
      IsFirst (fun root => w.isReadable (candidate root location) = true) roots root := by
  rw [readableRoot, List.find?_eq_some_iff_append]
  constructor
  · rintro ⟨hread, before, after, hroots, hbefore⟩
    exact ⟨before, after, hroots, fun earlier hmem => by simpa using hbefore earlier hmem, hread⟩
  · rintro ⟨before, after, hroots, hbefore, hread⟩
    exact ⟨hread, before, after, hroots, fun earlier hmem => by simpa using hbefore earlier hmem⟩

theorem readableRoot_eq_some {w : World} {location : String} {roots : List String}
    {root : String} (h : readableRoot w location roots = some root) :
    root ∈ roots ∧ w.isReadable (candidate root location) = true := by
  rw [readableRoot] at h
  have hread := List.find?_some h
  exact ⟨List.mem_of_find?_eq_some h, hread⟩

/-- The first readable root depends on which candidates are readable. -/
theorem readableRoot_of_isReadable {w w' : World} {location other : String}
    (h : ∀ root, w'.isReadable (candidate root other) = w.isReadable (candidate root location))
    (roots : List String) : readableRoot w' other roots = readableRoot w location roots := by
  have hreadable : (fun root => w'.isReadable (candidate root other)) =
      fun root => w.isReadable (candidate root location) := funext h
  unfold readableRoot
  rw [hreadable]

end TemplateLookup
