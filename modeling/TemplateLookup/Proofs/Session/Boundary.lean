/-
# TemplateLookup.Proofs.Session.Boundary -- which refusals reach the caller

Whatever is asked about a path, the file system may refuse to answer. Where a look-up or a
search asks, a refusal counts as "not here", and where a time is asked for it counts as "no
time": the guards are `isReadable_of_refused` and `stampAt?_of_refused`. So a look-up fails
in the documented ways only, the root of now is refused with the name only, and a time is
always told. The question whether a path exists has no such guard; only that nothing is there
counts as an answer. A check asks it about the root in the table, which no search may ever
have tried. So a check is refused in one case: something could be loaded now, and the walk to
the candidate of the recorded root is stopped for a cause that does not mean that nothing is
there (`isStale_eq_error_iff_strays`). `check_alone_refused` says all of this of any session;
the case is real, as a root that was written into the table shows (`estranged_refused`).
-/

import TemplateLookup.Proofs.Session.Refusal
import TemplateLookup.Proofs.Session.Reload
import TemplateLookup.Proofs.Session.Transparency

namespace TemplateLookup

/-! ## Guarded questions -/

namespace World

variable {w : World} {p : Path} {cause : Cause}

theorem fileAt?_of_refused (h : w.look p = .error cause) : w.fileAt? p = none := by
  rw [fileAt?, h]

/-- A path that is refused is not readable. -/
theorem isReadable_of_refused (h : w.look p = .error cause) : w.isReadable p = false := by
  simp [isReadable, isFile, fileAt?_of_refused h]

/-- A path that is refused has no time. -/
theorem stampAt?_of_refused (h : w.look p = .error cause) : w.stampAt? p = none := by
  unfold stampAt?
  split
  · rfl
  · rw [fileAt?_of_refused h, Option.map_none]

end World

namespace Locator

/-! ## What the operations let through -/

section

variable (w : World) (l : Locator) (table : Provenance) (name : Option String)

/-- A look-up that fails refuses the name or finds nothing at its location. -/
theorem resolve_error_cases {e : LookupError} (h : (resolve w l table name).result = .error e) :
    e.IsRefusal ∨ ∃ location, Name.accept name = .ok location ∧ e = .notFound location := by
  cases hname : Name.accept name with
  | error refusal =>
    have hresult := (predicts_of_refused w l table hname).2.1
    cases h.symm.trans hresult
    exact .inl (Name.isRefusal_of_accept hname)
  | ok location =>
    rcases resolve_of_accept w l table hname with ⟨r, hr⟩ | hmissing
    · cases h.symm.trans hr
    · cases h.symm.trans hmissing
      exact .inr ⟨location, rfl, rfl⟩

/-- The root of now is refused only with the name. -/
theorem currentRoot_error_cases {e : LookupError} (h : currentRoot w l name = .error e) :
    e.IsRefusal := by
  cases hname : Name.accept name with
  | error refusal =>
    cases h.symm.trans (predicts_of_refused w l .empty hname).1
    exact Name.isRefusal_of_accept hname
  | ok location => cases h.symm.trans (outcomes_of_accept w l .empty hname).1

/-- The time of a template is that of the file to which the table leads, or unknown. -/
theorem lastModified_cases :
    lastModified w table name = unknownStamp ∨
      ∃ n root location content time, name = some n ∧ table.root? n = some root ∧
        Name.accept name = .ok location ∧
        w.fileAt? (candidate root location) = some (content, time) ∧
        lastModified w table name = time.stamp := by
  rw [lastModified]
  cases hentry : name.bind table.root? with
  | none => exact .inl rfl
  | some root =>
    cases hname : Name.accept name with
    | error e => exact .inl rfl
    | ok location =>
      dsimp only
      cases hread : w.isReadable (candidate root location) with
      | false => exact .inl rfl
      | true =>
        obtain ⟨content, time, hfile⟩ := World.exists_file_of_isReadable hread
        obtain ⟨n, rfl, hroot⟩ := Option.bind_eq_some_iff.mp hentry
        cases hstamp : w.stampAt? (candidate root location) with
        | none => exact .inl rfl
        | some stamp =>
          refine .inr ⟨n, root, location, content, time, rfl, hroot, rfl, hfile, ?_⟩
          exact World.stampAt?_eq_some hfile hstamp

end

/-- Something could be loaded for a name now, but the walk to the candidate of the root that the
table holds for it is stopped, and not because nothing is there. -/
structure Strays (w : World) (l : Locator) (table : Provenance) (name : Option String)
    (location root : String) (cause : Cause) : Prop where
  accepted : Name.accept name = .ok location
  offered : (readableRoot w location l.roots.names).isSome = true
  recorded : table.root? (name.getD "") = some root
  stopped : w.look (candidate root location) = .error cause
  unanswered : cause.isAbsence = false

/-- A check is refused exactly where the recorded root strays, and then with its path. -/
theorem isStale_eq_error_iff_strays (w : World) (l : Locator) (table : Provenance)
    (name : Option String) (known : Number.Numeral) (e : SystemError) :
    isStale w l table name known = .error e ↔
      ∃ location root cause, Strays w l table name location root cause ∧
        e = ⟨cause, some (candidate root location).toString⟩ := by
  -- the refusal itself: of the path of the recorded root
  have hrefusal : ∀ location root cause, Strays w l table name location root cause →
      isStale w l table name known = .error ⟨cause, some (candidate root location).toString⟩ := by
    intro location root cause h
    obtain ⟨current, hcurrent⟩ := Option.isSome_iff_exists.mp h.offered
    apply (isStale_eq_error_iff w l table name known _).mpr
    refine ⟨location, current, h.accepted, hcurrent, ?_⟩
    rw [loadedRoot, h.recorded, Option.getD_some]
    exact World.exists?_eq_error_iff.mpr ⟨cause, h.stopped, h.unanswered, rfl⟩
  constructor
  · intro he
    obtain ⟨location, root, hname, hoffered, hroot, e', hexists⟩ :=
      (isStale_refused_iff w l table name known).mp ⟨e, he⟩
    obtain ⟨cause, hstopped, hcause, -⟩ := World.exists?_eq_error_iff.mp hexists
    have hstrays : Strays w l table name location root cause :=
      ⟨hname, hoffered, hroot, hstopped, hcause⟩
    have hsame := he.symm.trans (hrefusal location root cause hstrays)
    exact ⟨location, root, cause, hstrays, Except.error.inj hsame⟩
  · rintro ⟨location, root, cause, hstrays, rfl⟩
    exact hrefusal location root cause hstrays

end Locator

namespace Session

/-! ## Any session -/

section

variable [Template.Engine] [Encodings] [Yaml.Reader] [Command.ArgumentReader]
  {s : Session} {id : String} {l : Locator} {t : TableName}
  (hheld : Pairs.fetch id s.suppliers = some ⟨.files l, t⟩) (name : Option String)

include hheld

theorem resolve_answered (reading : Reading) :
    let found := (s.step (.resolve id name reading)).answer
    (∃ r, found = .resource r (contents s.world r reading)) ∨
      ∃ e, found = .problem (.lookup e) ∧
        (e.IsRefusal ∨ ∃ location, Name.accept name = .ok location ∧ e = .notFound location) := by
  intro found
  have hfound := step_resolve hheld name reading
  rw [Supplier.resolve] at hfound
  cases hresult : (l.resolve s.world (s.table t) name).result with
  | ok r =>
    rw [hresult] at hfound
    exact .inl ⟨r, hfound⟩
  | error e =>
    rw [hresult] at hfound
    exact .inr ⟨e, hfound, Locator.resolve_error_cases _ l _ name hresult⟩

theorem currentRoot_answered :
    let root := (s.step (.currentRoot id name)).answer
    (∃ current, root = .word current) ∨ ∃ e, root = .problem (.lookup e) ∧ e.IsRefusal := by
  intro root
  have hroot : root = (s.currentRoot ⟨.files l, t⟩ name).answer := by
    show (s.withHeld id _).answer = _
    rw [withHeld, hheld]
  rw [hroot, currentRoot]
  dsimp only [answered]
  cases hcurrent : l.currentRoot s.world name with
  | ok current => exact .inl ⟨current, rfl⟩
  | error e => exact .inr ⟨e, rfl, Locator.currentRoot_error_cases _ l name hcurrent⟩

theorem lastModified_answered :
    let time := (s.step (.lastModified id name)).answer
    time = .stamp unknownStamp ∨
      ∃ n recorded location content moment, name = some n ∧
        (s.table t).root? n = some recorded ∧ Name.accept name = .ok location ∧
        s.world.fileAt? (candidate recorded location) = some (content, moment) ∧
        time = .stamp moment.stamp := by
  intro time
  have htime : time = .stamp (Locator.lastModified s.world (s.table t) name) := by
    show (s.withHeld id _).answer = _
    rw [withHeld, hheld]
    rfl
  rw [htime]
  rcases Locator.lastModified_cases s.world (s.table t) name with
    hunknown | ⟨n, recorded, location, content, moment, hn, hentry, hname, hfile, hstamp⟩
  · exact .inl (congrArg Answer.stamp hunknown)
  · exact .inr ⟨n, recorded, location, content, moment, hn, hentry, hname, hfile,
      congrArg Answer.stamp hstamp⟩

theorem isStale_answered (known : Number.Numeral) :
    let verdict := (s.step (.isStale id name known)).answer
    ((∃ stale, verdict = .flag stale) ∨ ∃ e, verdict = .problem (.system e)) ∧
      ∀ problem, verdict = .problem problem ↔
        ∃ location recorded cause,
          Locator.Strays s.world l (s.table t) name location recorded cause ∧
            problem = .system ⟨cause, some (candidate recorded location).toString⟩ := by
  intro verdict
  have hverdict : verdict = (s.isStale ⟨.files l, t⟩ name known).answer := by
    show (s.withHeld id _).answer = _
    rw [withHeld, hheld]
  have hstrays := Locator.isStale_eq_error_iff_strays s.world l (s.table t) name known
  rw [hverdict, isStale]
  dsimp only [answered, Supplier.isStale]
  cases hstale : l.isStale s.world (s.table t) name known with
  | ok stale =>
    refine ⟨.inl ⟨stale, rfl⟩, fun problem => ⟨fun hproblem => ?_, ?_⟩⟩
    · cases hproblem
    · rintro ⟨location, recorded, cause, h, -⟩
      cases hstale.symm.trans ((hstrays _).mpr ⟨location, recorded, cause, h, rfl⟩)
  | error e =>
    refine ⟨.inr ⟨e, rfl⟩, fun problem => ⟨fun hproblem => ?_, ?_⟩⟩
    · cases hproblem
      obtain ⟨location, recorded, cause, h, rfl⟩ := (hstrays e).mp hstale
      exact ⟨location, recorded, cause, h, rfl⟩
    · rintro ⟨location, recorded, cause, h, rfl⟩
      cases hstale.symm.trans ((hstrays _).mpr ⟨location, recorded, cause, h, rfl⟩)
      rfl

end

/-- Of all that is asked about a template only a check is ever refused by the file system. A
path that is refused is not readable and has no time. So in any session, whoever wrote the
table: a look-up finds a resource, or fails because the name is refused or nothing is found at
its location; the root of now is told, or the name is refused; a time is told, that of a file
to which the table leads or the unknown one. A check is answered unless the root in the table
strays, though something could be loaded; then, and only then, the file system's refusal comes
through, whatever its cause. -/
theorem check_alone_refused [Template.Engine] [Encodings] [Yaml.Reader] [Command.ArgumentReader]
    {s : Session} {id : String} {l : Locator} {t : TableName}
    (hheld : Pairs.fetch id s.suppliers = some ⟨.files l, t⟩) (name : Option String)
    (known : Number.Numeral) (reading : Reading) :
    let found := (s.step (.resolve id name reading)).answer
    let root := (s.step (.currentRoot id name)).answer
    let time := (s.step (.lastModified id name)).answer
    let verdict := (s.step (.isStale id name known)).answer
    (∀ p cause, s.world.look p = .error cause →
        s.world.isReadable p = false ∧ s.world.stampAt? p = none) ∧
      ((∃ r, found = .resource r (contents s.world r reading)) ∨
        ∃ e, found = .problem (.lookup e) ∧
          (e.IsRefusal ∨ ∃ location, Name.accept name = .ok location ∧ e = .notFound location)) ∧
      ((∃ current, root = .word current) ∨ ∃ e, root = .problem (.lookup e) ∧ e.IsRefusal) ∧
      (time = .stamp unknownStamp ∨
        ∃ n recorded location content moment, name = some n ∧
          (s.table t).root? n = some recorded ∧ Name.accept name = .ok location ∧
          s.world.fileAt? (candidate recorded location) = some (content, moment) ∧
          time = .stamp moment.stamp) ∧
      ((∃ stale, verdict = .flag stale) ∨ ∃ e, verdict = .problem (.system e)) ∧
      ∀ problem, verdict = .problem problem ↔
        ∃ location recorded cause,
          Locator.Strays s.world l (s.table t) name location recorded cause ∧
            problem = .system ⟨cause, some (candidate recorded location).toString⟩ := by
  intro found root time verdict
  refine ⟨fun p cause h => ?_, resolve_answered hheld name reading,
    currentRoot_answered hheld name, lastModified_answered hheld name,
    isStale_answered hheld name known⟩
  exact ⟨World.isReadable_of_refused h, World.stampAt?_of_refused h⟩

/-- A session in which somebody wrote a root into the table of a supplier that does not search
it. The root is a link, and the name that it leads to is too long. -/
def estranged : Session :=
  { start { Locator.filed with
      entries := Locator.filed.entries ++ [(["s"], .link (String.ofList longName))] } [] with
    suppliers := [("l", ⟨.files Locator.filing, .shared "t"⟩)]
    tables := [(.shared "t", ⟨[("x", "/s")]⟩)] }

theorem strays_estranged :
    Locator.Strays estranged.world Locator.filing (estranged.table (.shared "t")) (some "x")
      "/x" "/s" .nameTooLong := by
  have hlink : estranged.world.descend [] ["s", "x"] =
      .link [] (String.ofList longName) ["x"] := rfl
  refine ⟨rfl, rfl, rfl, World.look_of_long_link rfl hlink ?_ rfl ?_, rfl⟩
  · decide
  · decide +kernel

/-- The file is there for every look-up, and yet the check is refused. -/
theorem estranged_refused :
    Locator.currentRoot estranged.world Locator.filing (some "x") = .ok (some "/a") ∧
      (estranged.step (.isStale "l" (some "x") (.int 5))).answer =
        .problem (.system ⟨.nameTooLong, some "/s/x"⟩) := by
  have hheld : Pairs.fetch "l" estranged.suppliers =
      some ⟨.files Locator.filing, .shared "t"⟩ := rfl
  obtain ⟨-, -, -, -, -, hproblem⟩ := check_alone_refused hheld (some "x") (.int 5) .unread
  exact ⟨rfl, (hproblem _).mpr ⟨"/x", "/s", .nameTooLong, strays_estranged, rfl⟩⟩

end Session

end TemplateLookup
