/-
# TemplateLookup.Proofs.Session.Dating -- the time of a template and the file it came from

Three operations know a template by its file, and each finds the file in a way of its own: a
look-up searches and opens, a check searches and consults the table, and the question for the
time consults the table alone. They agree (`lastModified_agrees`). Where a check calls an
entered template fresh, its time is the known one. After a look-up the time stays that of the
resource for as long as the files stay, the time can be read and the name is not entered again,
whatever else is done; the file need not be the first readable one. A name that was never
entered has no time.
-/

import TemplateLookup.Proofs.Session.Ledger
import TemplateLookup.Proofs.Session.Reload

namespace TemplateLookup

/-! ## The time of a candidate -/

namespace Locator

variable {w : World} {l : Locator} {table : Provenance}

/-- The time of an entered, accepted name is read from the candidate of its root. -/
theorem lastModified_of_entry {n root location : String} (hentry : table.root? n = some root)
    (hname : Name.accept (some n) = .ok location)
    (hread : w.isReadable (candidate root location) = true) :
    lastModified w table (some n) = (w.stampAt? (candidate root location)).getD unknownStamp := by
  simp only [lastModified, Option.bind_some, hentry, hname, hread, if_true]

/-- A fresh template has the known time, if the table has an entry for it. -/
theorem lastModified_of_fresh {n root : String} {known : Number.Numeral}
    (hentry : table.root? n = some root)
    (hfresh : isStale w l table (some n) known = .ok false) :
    known.equals (lastModified w table (some n)) = true := by
  obtain ⟨location, current, hname, hcurrent, hsame, stamp, hstamp, hequal⟩ :=
    (isStale_eq_false_iff w l table (some n) known).mp hfresh
  -- the check compared the candidate of the entry with the first readable one
  have hloaded : candidate root location = candidate current location := by
    simpa [loadedRoot, hentry] using hsame
  have hread : w.isReadable (candidate root location) = true :=
    hloaded ▸ (readableRoot_eq_some hcurrent).2
  rw [lastModified_of_entry hentry hname hread, hloaded, hstamp, Option.getD_some]
  exact hequal

/-- The time of what a look-up found is the time of the resource, in every table that has the
root of the resource for the name. -/
theorem Located.lastModified_eq {after : Provenance} {n : String} {r : Resource}
    {location : String} {time : FileTime} (h : Located w l after n r location time)
    (hentry : table.root? n = some r.root) (htimed : (w.stampAt? r.path).isSome = true) :
    lastModified w table (some n) = r.lastModified := by
  obtain ⟨stamp, hstamp⟩ := Option.isSome_iff_exists.mp htimed
  have hread : w.isReadable (candidate r.root location) = true := h.path ▸ h.provides.isReadable
  have htime : stamp = time.stamp := World.stampAt?_eq_some h.provides.file hstamp
  rw [lastModified_of_entry hentry h.accepted hread, ← h.path, hstamp, Option.getD_some, htime,
    h.timed]

end Locator

/-- The step looks no template up but under other names, and enters roots for other names
only. Rendering is left out, since a template may embed any other. -/
def Step.Spares (n : String) : Step → Prop
  | .resolve _ name _ | .source _ name _ _ => name ≠ some n
  | .record _ name _ => name ≠ n
  | .render .. | .renderToFile .. | .template .. => False
  | _ => True

namespace Session

/-! ## Entries that stay -/

theorem silent_attempt {n : String} {name : Option String} (h : name ≠ some n) (w : World)
    (table : Provenance) (supplier : Supplier) :
    Occurrence.Silent n [.sought (supplier.attempt w table name)] := by
  intro o ho root hgives
  rw [List.mem_singleton] at ho
  subst ho
  rw [Supplier.attempt] at hgives
  generalize (supplier.resolve w table name).result = result at hgives
  cases hgives
  exact h rfl

section

variable [Template.Engine] [Encodings]

/-- A step that spares a name gives it no root. -/
theorem silent_of_spares {s : Session} {a : Step} {n : String} (h : a.Spares n) (t : TableName) :
    Occurrence.Silent n (s.occurrences a t) := by
  have hnone : Occurrence.Silent n [] := nofun
  have hall : Occurrence.Silent n (s.happenings a) := by
    cases a with
    | resolve id name reading =>
      rw [happenings]
      split
      · exact hnone
      · exact silent_attempt h s.world _ _
    | source id name encoding watch =>
      rw [happenings]
      split
      · exact hnone
      · exact silent_attempt h s.world _ _
    | record id name root =>
      intro o ho other hgives
      rw [happenings, List.mem_singleton] at ho
      subst ho
      cases hgives
      exact h rfl
    | render id name context => cases h
    | renderToFile id name path context => cases h
    | template id name => cases h
    | _ => exact hnone
  rw [occurrences]
  split
  · exact hall
  · exact hnone

variable [Yaml.Reader] [Command.ArgumentReader]

theorem silent_history {s : Session} {n : String} {steps : List Step}
    (h : ∀ a ∈ steps, a.Spares n) (t : TableName) : Occurrence.Silent n (s.history t steps) := by
  induction steps generalizing s with
  | nil => exact nofun
  | cons a rest ih =>
    have hfirst := silent_of_spares (s := s) (h a List.mem_cons_self) t
    have hrest := ih (s := (s.step a).session) fun b hb => h b (List.mem_cons_of_mem a hb)
    intro o ho
    rw [history] at ho
    rcases List.mem_append.mp ho with ho | ho
    · exact hfirst o ho
    · exact hrest o ho

/-- An entry stays while nothing gives its name a root. -/
theorem root?_after_of_silent {s : Session} {t : TableName} {n root : String} {steps : List Step}
    (hentry : (s.table t).root? n = some root) (h : Occurrence.Silent n (s.history t steps)) :
    ((s.after steps).table t).root? n = some root := by
  rw [table_after, recordedBy_eq, Occurrence.root?_pairs]
  exact .inr ⟨hentry, h⟩

/-! ## The three operations -/

theorem step_lastModified {s : Session} {id : String} {l : Locator} {t : TableName}
    (hheld : Pairs.fetch id s.suppliers = some ⟨.files l, t⟩) (name : Option String) :
    (s.step (.lastModified id name)).answer =
      .stamp (Locator.lastModified s.world (s.table t) name) := by
  show (s.withHeld id _).answer = _
  rw [withHeld, hheld]
  rfl

/-- What a look-up of a session found, and the files and the table that it leaves. -/
theorem located_of_step {s : Session} {id : String} {l : Locator} {t : TableName}
    (hheld : Pairs.fetch id s.suppliers = some ⟨.files l, t⟩) {name : Option String}
    {reading : Reading} {r : Resource} {c : Contents}
    (hfound : (s.step (.resolve id name reading)).answer = .resource r c) :
    let left := (s.step (.resolve id name reading)).session
    left.world = s.world ∧ ∃ n location time, name = some n ∧
      Locator.Located s.world l (left.table t) n r location time := by
  rw [step_resolve hheld, Supplier.resolve] at hfound
  have hleft : (s.step (.resolve id name reading)).session =
      s.withTable t (Locator.resolve s.world l (s.table t) name).table := by
    show (s.withHeld id _).session = _
    rw [withHeld, hheld]
    rfl
  simp only [hleft, table_withTable_self]
  refine ⟨rfl, ?_⟩
  split at hfound
  · rename_i found hresult
    cases hfound
    exact Locator.located_of_resolve hresult
  · cases hfound

/-- **The time of a template agrees with the check and with the look-up.** In every state of
a session: where the table has a name and a check calls it fresh, its time is the known one.
A look-up found a resource, and then other steps are done that leave the files and give the
name no root; the time of its file can be read. Then every locator on the same table tells
the time of the resource. And a name to which nothing ever gave a root has the time zero,
whatever files there are. -/
theorem lastModified_agrees (world : World) (env : Environment) (steps : List Step)
    {id : String} {l : Locator} {t : TableName} :
    let first := start world env
    let now := first.after steps
    Pairs.fetch id now.suppliers = some ⟨.files l, t⟩ →
    (∀ n known, (now.table t).contains n = true →
        (now.step (.isStale id (some n) known)).answer = .flag false →
        ∃ stamp, (now.step (.lastModified id (some n))).answer = .stamp stamp ∧
          known.equals stamp = true) ∧
      (∀ name reading r c, (now.step (.resolve id name reading)).answer = .resource r c →
        let found := (now.step (.resolve id name reading)).session
        ∀ more id' l', (found.after more).world = now.world →
          (now.world.stampAt? r.path).isSome = true →
          (∀ n, name = some n → Occurrence.Silent n (found.history t more)) →
          Pairs.fetch id' (found.after more).suppliers = some ⟨.files l', t⟩ →
          ((found.after more).step (.lastModified id' name)).answer = .stamp r.lastModified) ∧
      ∀ n, Occurrence.Silent n (first.history t steps) →
        (now.step (.lastModified id (some n))).answer = .stamp (.finite false 0) := by
  intro first now hheld
  refine ⟨fun n known hcontains hfresh => ?_, fun name reading r c hfound => ?_,
    fun n hsilent => ?_⟩
  · obtain ⟨root, hentry⟩ := Option.isSome_iff_exists.mp hcontains
    have hcheck := (step_isStale_eq_flag_iff hheld (some n) known false).mp hfresh
    exact ⟨_, step_lastModified hheld (some n), Locator.lastModified_of_fresh hentry hcheck⟩
  · intro found more id' l' hworld htimed hsilent hheld'
    obtain ⟨-, n, location, time, rfl, hlocated⟩ := located_of_step hheld hfound
    have hentry := root?_after_of_silent hlocated.recorded (hsilent n rfl)
    rw [step_lastModified hheld', hworld]
    exact congrArg Answer.stamp (hlocated.lastModified_eq hentry htimed)
  · -- what nothing gave a root is not in the table
    have hentry : (now.table t).root? n = none := by
      rw [Option.eq_none_iff_forall_ne_some]
      intro root hroot
      obtain ⟨earlier, o, later, hpast, hgives, -⟩ :=
        (root?_after_start world env steps t n root).mp hroot
      have hmem : o ∈ first.history t steps :=
        hpast ▸ List.mem_append_right earlier List.mem_cons_self
      exact hsilent o hmem root hgives
    rw [step_lastModified hheld, Locator.lastModified, Option.bind_some, hentry]
    rfl

end

/-- A locator among the files of which one cannot be opened, and an entry made by hand for this
file under another spelling of its name. -/
def entered : List Step :=
  [.locator "l" (some Locator.tour.roots.names) (some "t") .null, .record "l" "x" "/b"]

/-- Steps that ask about a name, or look up and enter others. -/
def elsewhere : List Step :=
  [.isStale "l" (some "./x") (.int 0), .record "l" "y" "/b", .resolve "l" (some "x") .unread]

/-- The file that cannot be opened has its time, the file found behind it keeps its own while
other names are looked up, and a name that was never entered has none. -/
theorem entered_dated :
    let now := (start Locator.crowded []).after entered
    let later := (now.step (.resolve "l" (some "./x") .unread)).session.after elsewhere
    (∃ stamp, (now.step (.lastModified "l" (some "x"))).answer = .stamp stamp ∧
        Number.Numeral.equals (.int 7) stamp = true) ∧
      (later.step (.lastModified "l" (some "./x"))).answer = .stamp (FileTime.stamp ⟨5, 0⟩) ∧
      (now.step (.lastModified "l" (some "z"))).answer = .stamp (.finite false 0) := by
  intro now later
  have hheld : Pairs.fetch "l" now.suppliers =
      some ⟨.files ⟨.null, Locator.tour.roots⟩, .shared "t"⟩ := rfl
  obtain ⟨hfresh, hfound, hnever⟩ := lastModified_agrees Locator.crowded [] entered hheld
  refine ⟨?_, ?_, ?_⟩
  · have hcheck : Locator.isStale Locator.crowded ⟨.null, Locator.tour.roots⟩
        (now.table (.shared "t")) (some "x") (.int 7) = .ok false := by
      refine (Locator.isStale_eq_false_iff ..).mpr ⟨"/x", "/b", rfl, rfl, by decide, ?_⟩
      exact ⟨FileTime.stamp ⟨7, 0⟩, rfl, by decide +kernel⟩
    exact hfresh "x" (.int 7) rfl ((step_isStale_eq_flag_iff hheld (some "x") _ false).mpr hcheck)
  · have hresult : (Locator.resolve Locator.crowded ⟨.null, Locator.tour.roots⟩
        (now.table (.shared "t")) (some "./x")).result =
          .ok ⟨"./x", "/c", ⟨.root, ["c", "x"]⟩, FileTime.stamp ⟨5, 0⟩, [111]⟩ := rfl
    have hanswer := step_resolve hheld (some "./x") .unread
    rw [Supplier.resolve] at hanswer
    have hworld : now.world = Locator.crowded := rfl
    rw [hworld, hresult] at hanswer
    dsimp only at hanswer
    have hleft : later.world = now.world := by decide +kernel
    have htimed : (now.world.stampAt? ⟨.root, ["c", "x"]⟩).isSome = true := rfl
    have hheld' : Pairs.fetch "l" later.suppliers =
        some ⟨.files ⟨.null, Locator.tour.roots⟩, .shared "t"⟩ := rfl
    have hspares : ∀ a ∈ elsewhere, a.Spares "./x" := by
      intro a ha
      simp only [elsewhere, List.mem_cons, List.not_mem_nil, or_false] at ha
      rcases ha with rfl | rfl | rfl <;> simp [Step.Spares]
    have hkept := hfound (some "./x") .unread _ _ hanswer elsewhere "l" _ hleft htimed
      (fun n hn => Option.some.inj hn ▸ silent_history hspares (.shared "t")) hheld'
    dsimp only at hkept
    exact hkept
  · refine hnever "z" (silent_history (fun a ha => ?_) _)
    simp only [entered, List.mem_cons, List.not_mem_nil, or_false] at ha
    rcases ha with rfl | rfl <;> simp [Step.Spares]

end Session

end TemplateLookup
