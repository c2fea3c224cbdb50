/-
# TemplateLookup.Proofs.Locator.Retimed -- a check after the time of a file has changed

The time of the file of a template is changed and nothing else. Then every search goes as it
went, and the check compares two stamps of the same file: that of its old time, which is the
known one, and that of its new time. So the change is noticed exactly if the two times have
different stamps, or the template was stale anyway (`isStale_after_retiming`). Times that are
apart have different stamps, but it takes more than a few nanoseconds to be apart
(`nanoseconds_unnoticed`).
-/

import TemplateLookup.Proofs.Locator.Agreement
import TemplateLookup.Proofs.World.FileTime
import TemplateLookup.Proofs.World.Retimed

namespace TemplateLookup.Locator

open World (Retimed)

/-- The check of what was found compares the known time with the new one. -/
theorem Located.isStale_retimed_iff {times : Location → FileTime → FileTime} {w w' : World}
    (h : Retimed times w w') {l : Locator} {after : Provenance} {name : String}
    {r : Resource} {location : String} {time : FileTime}
    (hlocated : Located w l after name r location time) {first : String}
    (hfirst : FirstReadable w location l.roots.names first) {loc : Location} {content : Bytes}
    (hlook : w.look r.path = .ok (loc, .file content time)) (known : Number.Numeral) :
    isStale w' l after (some name) known = .ok false ↔
      candidate first location = r.path ∧ w.faultAt r.path ≠ some .pathTime ∧
        known.equals (times loc time).stamp = true := by
  rw [hlocated.isStale_later_iff (World.isReadable_retimed h) hfirst,
    World.stampAt?_retimed h hlook]
  apply and_congr_right'
  by_cases hfault : w.faultAt r.path = some .pathTime
  · simp [hfault]
  · simp [hfault]

/-- A template was found, and then the time of its file was set and nothing else. The check
with the time that was found is answered. It says that nothing has changed exactly if the old
and the new time have the same stamp, and there was no other reason for doubt: the first
readable file is still the one that was found, and its time can be read by path. So a change
between times that are apart is noticed, at least. -/
theorem isStale_after_retiming {w w' : World} {l : Locator} {table : Provenance}
    {name : Option String} {r : Resource} {p : Path} {time' : FileTime}
    (hfound : (resolve w l table name).result = .ok r) (hfile : w.look p = w.look r.path)
    (htouch : w.setTime p time' = .ok w') :
    let verdict := isStale w' l (resolve w l table name).table name (.real r.lastModified)
    ∃ location first content time, Name.accept name = .ok location ∧
      FirstReadable w location l.roots.names first ∧
      w.fileAt? r.path = some (content, time) ∧ w'.fileAt? r.path = some (content, time') ∧
      r.lastModified = time.stamp ∧
      (∃ stale, verdict = .ok stale ∧
        (stale = false ↔ candidate first location = r.path ∧
          w.faultAt r.path ≠ some .pathTime ∧ time'.stamp.same time.stamp = true)) ∧
      (time'.Apart time → verdict = .ok true) := by
  intro verdict
  obtain ⟨n, location, time, rfl, hlocated⟩ := located_of_resolve hfound
  obtain ⟨first, hfirst⟩ := hlocated.exists_firstReadable
  obtain ⟨loc, hlook⟩ := World.fileAt?_eq_some_iff.mp hlocated.provides.file
  have hretimed := World.retimed_of_setTime (hfile.trans hlook) htouch
  have hiff := hlocated.isStale_retimed_iff hretimed hfirst hlook (.real r.lastModified)
  obtain ⟨stale, hstale⟩ :=
    hlocated.isStale_later_answered (World.isReadable_retimed hretimed) (.real r.lastModified)
  have hnew := World.fileAt?_retimed hretimed hlook
  rw [if_pos rfl] at hiff hnew
  have hequals : Number.Numeral.equals (.real r.lastModified) time'.stamp =
      time'.stamp.same time.stamp := by
    rw [Number.Numeral.equals, hlocated.timed]
  rw [hequals, hstale, Except.ok.injEq] at hiff
  refine ⟨location, first, r.content, time, hlocated.accepted, hfirst, hlocated.provides.file,
    hnew, hlocated.timed, ⟨stale, hstale, hiff⟩, fun hapart => ?_⟩
  have hdiffer := FileTime.stamps_differ hapart
  cases stale with
  | true => exact hstale
  | false =>
    obtain ⟨-, -, hsame⟩ := hiff.mp rfl
    cases hdiffer.symm.trans hsame

/-- A directory with a file that was changed at a whole second. -/
def dated : World :=
  ⟨[(["a"], .directory), (["a", "x"], .file [111] ⟨1700000000, 0⟩)], [], [], 0⟩

/-- The same with the file changed again, a hundred nanoseconds later. -/
def redated : World :=
  { dated with
    entries := [(["a"], .directory), (["a", "x"], .file [111] ⟨1700000000, 100⟩)] }

/-- The change is not noticed. -/
theorem nanoseconds_unnoticed :
    let after := (resolve dated filing .empty (some "x")).table
    (dated.setTime ⟨.root, ["a", "x"]⟩ ⟨1700000000, 100⟩) = .ok redated ∧
      isStale redated filing after (some "x") (.real (FileTime.stamp ⟨1700000000, 0⟩)) =
        .ok false := by
  intro after
  have htouch : dated.setTime ⟨.root, ["a", "x"]⟩ ⟨1700000000, 100⟩ = .ok redated := rfl
  have hfound : (resolve dated filing .empty (some "x")).result =
      .ok ⟨"x", "/a", ⟨.root, ["a", "x"]⟩, FileTime.stamp ⟨1700000000, 0⟩, [111]⟩ := rfl
  refine ⟨htouch, ?_⟩
  obtain ⟨location, first, content, time, hname, hfirst, hfile, -, -, ⟨stale, hstale, hiff⟩, -⟩ :=
    isStale_after_retiming hfound rfl htouch
  have haccept : Name.accept (some "x") = .ok "/x" := rfl
  cases haccept.symm.trans hname
  have hreadable : readableRoot dated "/x" filing.roots.names = some "/a" := rfl
  cases hfirst.unique (readableRoot_eq_some_iff.mp hreadable)
  have htime : dated.fileAt? ⟨.root, ["a", "x"]⟩ = some ([111], ⟨1700000000, 0⟩) := rfl
  cases htime.symm.trans hfile
  -- between `2^30` and `2^31` seconds a hundred nanoseconds are lost
  have hold : FileTime.stamp ⟨(1700000000 : Nat), 0⟩ = .finite false _ :=
    FileTime.stamp_lost (m := 30) (by omega) (by omega) (by omega)
  have hnew : FileTime.stamp ⟨(1700000000 : Nat), 100⟩ = .finite false _ :=
    FileTime.stamp_lost (m := 30) (by omega) (by omega) (by omega)
  have hsame : (FileTime.stamp ⟨1700000000, 100⟩).same (FileTime.stamp ⟨1700000000, 0⟩) = true :=
    (congrArg₂ Number.Binary64.same hnew hold).trans (Number.Binary64.same_self_of_finite _ _)
  have hfault : dated.faultAt ⟨.root, ["a", "x"]⟩ ≠ some .pathTime := by
    have hnone : dated.faultAt ⟨.root, ["a", "x"]⟩ = none := rfl
    rw [hnone]
    exact nofun
  have hfresh : stale = false := hiff.mpr ⟨rfl, hfault, hsame⟩
  rw [hfresh] at hstale
  dsimp only at hstale
  exact hstale

end TemplateLookup.Locator
