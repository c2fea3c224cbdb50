/-
# TemplateLookup.Proofs.Session.Shadowing -- when a shadowed source counts as current

A source that was read is watched: its name and its time stamp are remembered, but not
the file it came from. That file is told by the table, which every look-up of the name
writes. So once another file shadows the source, the watch still calls it current in
exactly one case: the entry of the name was recorded anew since, for a root with the
shadowing file, and that file has the time stamp that the source had
(`isCurrent_of_shadowed`). As long as nobody recorded the name again, or when the stamps
differ, shadowing is noticed. The case is real: one look-up in between is enough
(`overtaking_unnoticed`).
-/

import TemplateLookup.Proofs.Locator.Verdict
import TemplateLookup.Proofs.Session.History
import TemplateLookup.Standard

namespace TemplateLookup

/-- The step reads a source and watches it under a name. -/
def Step.Watches (watch : String) (a : Step) : Prop :=
  ∃ id name encoding, a = .source id name encoding watch

namespace Session

/-- The answer tells the three outcomes of the check apart. -/
theorem answer_cases {answer : Answer} {check : Except SystemError Bool}
    (h : answer = match check with
      | .ok stale => .flag !stale
      | .error e => .problem (.system e)) :
    (answer = .flag true ↔ check = .ok false) ∧
      ((∃ e, answer = .problem (.system e)) ↔ ∃ e, check = .error e) ∧
      (answer = .flag true ∨ answer = .flag false ∨ ∃ e, answer = .problem (.system e)) := by
  subst h
  cases check with
  | error e =>
    refine ⟨?_, ⟨fun _ => ⟨e, rfl⟩, fun _ => ⟨e, rfl⟩⟩, .inr (.inr ⟨e, rfl⟩)⟩
    constructor <;> intro h <;> cases h
  | ok stale =>
    have hnone : ¬ ∃ e, Answer.flag (!stale) = .problem (.system e) := fun ⟨e, he⟩ => by cases he
    have hfine : ¬ ∃ e, (.ok stale : Except SystemError Bool) = .error e := fun ⟨e, he⟩ => by cases he
    refine ⟨?_, iff_of_false hnone hfine, ?_⟩
    · cases stale with
      | true => constructor <;> intro h <;> cases h
      | false => exact iff_of_true rfl rfl
    · cases stale with
      | true => exact .inr (.inl rfl)
      | false => exact .inl rfl

section

variable [Template.Engine] [Encodings] [Yaml.Reader] [Command.ArgumentReader]

/-! ## The watch -/

theorem watch_step {s : Session} {watch : String} {a : Step} (ha : ¬ a.Watches watch) :
    Pairs.fetch watch (s.step a).session.watches = Pairs.fetch watch s.watches := by
  have heffect := step_effect s a
  generalize s.step a = stepped at heffect
  -- no other effect touches the watches
  cases heffect with
  | @sourced id name encoding watch' held found =>
    have hwatch : watch ≠ watch' := fun he => ha ⟨id, name, encoding, he ▸ rfl⟩
    rw [source]
    split
    · rfl
    · exact Pairs.fetch_store_of_ne _ _ hwatch
  | _ => rfl

theorem watch_after {s : Session} {watch : String} {steps : List Step}
    (h : ∀ a ∈ steps, ¬ a.Watches watch) :
    Pairs.fetch watch (s.after steps).watches = Pairs.fetch watch s.watches := by
  induction steps generalizing s with
  | nil => rfl
  | cons a rest ih =>
    rw [after, ih fun b hb => h b (List.mem_cons_of_mem a hb)]
    exact watch_step (h a List.mem_cons_self)

/-- What reading a source leaves behind: its file, the time of that file in the watch,
and an entry in the table that leads to the file. -/
theorem source_leaves {s : Session} {id encoding watch text : String} {name : Option String}
    {held : Held} {file : Path} (hheld : Pairs.fetch id s.suppliers = some held)
    (h : (s.step (.source id name encoding watch)).answer = .source text file) :
    ∃ l n location root content time, held.supplier = .files l ∧ name = some n ∧
      Name.accept (some n) = .ok location ∧
      s.world.fileAt? file = some (content, time) ∧ file = candidate root location ∧
      Pairs.fetch watch (s.step (.source id name encoding watch)).session.watches =
        some ⟨held, some n, time.stamp⟩ ∧
      ((s.step (.source id name encoding watch)).session.table held.table).root? n =
        some root := by
  have hstep : s.step (.source id name encoding watch) = s.source held name encoding watch := by
    show s.withHeld id _ = _
    rw [withHeld, hheld]
  rw [hstep] at h ⊢
  rw [(source_reads s held name encoding watch).2, table_withTable_self,
    (Source.read_lookup s.world held.supplier (s.table held.table) encoding name).1]
  rw [source] at h ⊢
  cases hread : (Source.read s.world held.supplier (s.table held.table) encoding name).result with
  | error e =>
    rw [hread] at h
    cases h
  | ok found =>
    rw [hread] at h
    cases h
    obtain ⟨r, hr, hpath, hstamp⟩ := Source.read_ok hread
    have houtcome := Supplier.resolve_outcome s.world (s.table held.table) name held.supplier
    obtain ⟨-, time, hfile, htime⟩ := houtcome.reads hr
    obtain ⟨l, n, location, hfiles, rfl, hname, hroot, hcandidate⟩ := houtcome.recorded hr
    refine ⟨l, n, location, r.root, r.content, time, hfiles, rfl, hname, hpath ▸ hfile,
      hpath.trans hcandidate, ?_, hroot⟩
    rw [← htime, ← hstamp]
    exact Pairs.fetch_store_self watch _ _

/-! ## The answer -/

/-- The answer to whether a watched source is current. -/
theorem step_isCurrent {s : Session} {watch n : String} {held : Held} {l : Locator}
    {stamp : Number.Binary64} (hwatch : Pairs.fetch watch s.watches = some ⟨held, some n, stamp⟩)
    (hfiles : held.supplier = .files l) :
    (s.step (.isCurrent watch)).answer =
      match Locator.isStale s.world l (s.table held.table) (some n) (.real stamp) with
      | .ok stale => .flag !stale
      | .error e => .problem (.system e) := by
  show (s.isCurrent watch).answer = _
  rw [isCurrent, hwatch]
  dsimp only [answered, Source.isCurrent]
  rw [hfiles, Supplier.isStale]
  cases Locator.isStale s.world l (s.table held.table) (some n) (.real stamp) <;> rfl

/-! ## Shadowing -/

/-- A source was read from a file and watched, then other steps were done, in this
session by whomever, and now a look-up of the name would open another file, while no file
fails on being opened. Then the watch calls the source current exactly when the last
entry recorded for the name since the reading is for a root with that other file, and
the stamp of that file equals the one that the source had. The question is refused exactly
when it cannot be told whether the candidate of the root exists that the table holds.
Otherwise the source is outdated. -/
theorem isCurrent_of_shadowed {s : Session} {id encoding watch text : String}
    {name : Option String} {held : Held} {file : Path} {steps : List Step} {r : Resource}
    (hheld : Pairs.fetch id s.suppliers = some held)
    (hsource : (s.step (.source id name encoding watch)).answer = .source text file)
    (hsteps : ∀ a ∈ steps, ¬ a.Watches watch)
    (hopens : ((s.step (.source id name encoding watch)).session.after steps).world.OpensAll)
    (hresolve : (Supplier.resolve
      ((s.step (.source id name encoding watch)).session.after steps).world
      (((s.step (.source id name encoding watch)).session.after steps).table held.table)
      name held.supplier).result = .ok r) (hother : r.path ≠ file) :
    let read := (s.step (.source id name encoding watch)).session
    let now := read.after steps
    let answer := (now.step (.isCurrent watch)).answer
    ∃ n location content time, name = some n ∧ Name.accept name = .ok location ∧
      s.world.fileAt? file = some (content, time) ∧
      (answer = .flag true ↔
        (∃ root, Pairs.fetch n (read.recordedBy held.table steps).reverse = some root ∧
          candidate root location = r.path) ∧
        ∃ stamp, now.world.stampAt? r.path = some stamp ∧ stamp.same time.stamp = true) ∧
      ((∃ e, answer = .problem (.system e)) ↔
        ∃ root, (now.table held.table).root? n = some root ∧
          ∃ e, now.world.exists? (candidate root location) = .error e) ∧
      (answer = .flag true ∨ answer = .flag false ∨ ∃ e, answer = .problem (.system e)) := by
  obtain ⟨l, n, location, root, content, time, hfiles, rfl, hname, hfile, hcandidate, hwatch,
    hentry⟩ := source_leaves hheld hsource
  intro read now answer
  have hnow : Pairs.fetch watch now.watches = some ⟨held, some n, time.stamp⟩ :=
    (watch_after hsteps).trans hwatch
  have hanswer := step_isCurrent hnow hfiles
  -- the table holds the last entry since the reading, or still the one that led to the file
  have htable : (now.table held.table).root? n =
      (Pairs.fetch n (read.recordedBy held.table steps).reverse).or (some root) := by
    rw [table_after, Provenance.root?_recordAll, hentry]
  have hresolve' : (Locator.resolve now.world l (now.table held.table) (some n)).result = .ok r := by
    rw [← hresolve, hfiles, Supplier.resolve]
  obtain ⟨hflag, hproblem, hcases⟩ := answer_cases hanswer
  obtain ⟨root', hroot'⟩ : ∃ root', (now.table held.table).root? n = some root' := by
    rw [htable]
    cases Pairs.fetch n (read.recordedBy held.table steps).reverse <;> exact ⟨_, rfl⟩
  obtain ⟨hfresh, hrefused⟩ :=
    Locator.isStale_of_found hopens hname hresolve' hroot' (.real time.stamp)
  refine ⟨n, location, content, time, rfl, hname, hfile, ?_, ?_, hcases⟩
  · rw [hflag, hfresh]
    refine and_congr_left fun _ => ?_
    constructor
    · intro hpath
      cases hlast : Pairs.fetch n (read.recordedBy held.table steps).reverse with
      | some last =>
        rw [htable, hlast, Option.some_or] at hroot'
        exact ⟨last, rfl, Option.some.inj hroot' ▸ hpath⟩
      | none =>
        -- without an entry since the reading the table still leads to the file itself
        rw [htable, hlast, Option.none_or] at hroot'
        cases hroot'
        exact absurd (hpath.symm.trans hcandidate.symm) hother
    · rintro ⟨last, hlast, hpath⟩
      rw [htable, hlast, Option.some_or] at hroot'
      exact Option.some.inj hroot' ▸ hpath
  · rw [hproblem, hrefused]
    constructor
    · exact fun hexists => ⟨root', hroot', hexists⟩
    · rintro ⟨root'', hroot'', hexists⟩
      cases hroot'.symm.trans hroot''
      exact hexists

end

/-! ## A run in which shadowing goes unnoticed -/

/-- The search of two directories, with a table of its own. -/
def pairHeld : Held := ⟨.files ⟨Locator.defaultKind, ⟨["/a", "/b"]⟩⟩, .own 0⟩

/-- The second of the directories holds a file. -/
def overtaken : Session :=
  { start ⟨[(["b"], .directory), (["b", "x"], .file [111] ⟨5, 0⟩)], [], [], 0⟩ [] with
    suppliers := [("l", pairHeld)] }

/-- Another file of the same time appears in the first directory and is looked up. -/
def overtaking : List Step :=
  [.write "/a/x" [110] ⟨5, 0⟩, .resolve "l" (some "x") .unread]

/-- The source that was read before still counts as current. -/
theorem overtaking_unnoticed :
    let read := (overtaken.step (.source "l" (some "x") "utf-8" "u")).session
    ((read.after overtaking).step (.isCurrent "u")).answer = .flag true := by
  intro read
  have hsource : (overtaken.step (.source "l" (some "x") "utf-8" "u")).answer =
      .source "o" ⟨.root, ["b", "x"]⟩ := rfl
  have hsteps : ∀ a ∈ overtaking, ¬ a.Watches "u" := by
    rintro a ha ⟨id, name, encoding, rfl⟩
    simp [overtaking] at ha
  have hopens : (read.after overtaking).world.OpensAll := by
    have hfaults : (read.after overtaking).world.faults = [] := rfl
    intro text
    rw [hfaults]
    exact ⟨nofun, nofun⟩
  have hresolve : (Supplier.resolve (read.after overtaking).world
      ((read.after overtaking).table pairHeld.table) (some "x") pairHeld.supplier).result =
      .ok ⟨"x", "/a", ⟨.root, ["a", "x"]⟩, FileTime.stamp ⟨5, 0⟩, [110]⟩ := rfl
  obtain ⟨n, location, content, time, hn, hname, hfile, hiff, -, -⟩ :=
    isCurrent_of_shadowed rfl hsource hsteps hopens hresolve (by decide)
  cases hn
  have hlocation : Name.accept (some "x") = .ok "/x" := rfl
  cases hlocation.symm.trans hname
  have hread : overtaken.world.fileAt? ⟨.root, ["b", "x"]⟩ = some ([111], ⟨5, 0⟩) := rfl
  cases hread.symm.trans hfile
  exact hiff.mpr ⟨⟨"/a", rfl, rfl⟩, _, rfl, FileTime.same_stamp_self ⟨5, 0⟩⟩

end Session

end TemplateLookup
