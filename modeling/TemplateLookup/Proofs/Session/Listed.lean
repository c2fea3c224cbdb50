/-
# TemplateLookup.Proofs.Session.Listed -- what a session lists, and what it finds of that

In every session that starts in a tree the world stays one. So whatever files the steps made, a
listing tells which there are below the roots, and of which templates a look-up finds the file
(`listing_tells_files`). What a listing names need not be found, since a look-up reads
backslashes as slashes; it is found where the name has none, stands for a regular file, and
gives a path that is not too long (`look_up_of_listed`).
-/

import Mathlib.Data.List.Infix
import TemplateLookup.Proofs.Locator.Listed
import TemplateLookup.Proofs.Session.Tree
import TemplateLookup.Standard

namespace TemplateLookup.Session

open Locator

section

variable [Template.Engine] [Encodings] [Yaml.Reader] [Command.ArgumentReader]
  {s : Session} (htree : s.world.IsTree) {steps : List Step} (hsteps : ∀ a ∈ steps, a.LinksText)
  {l : Locator} {names : List String}

include htree hsteps

/-- **What a listing tells.** After any steps of a session that started in a tree, let there be no
links. A listing that is given increases strictly. It holds a string exactly when this is made of
the names that lead down to something from a root which is a directory and not the top of the file
system; what stands there is no directory, and the listing gets to it. What the listing does not
get to, though the names of all directories on the way can be listed, would not be found by its
path either. And the listing holds the segments of every name for which a root that is not the top
of the file system supplies a file, if there are any and the names of the directories on the way
can be listed. -/
theorem listing_tells_files (hlinks : (s.after steps).world.IsLinkFree)
    (h : listing (s.after steps).world l = .ok names) :
    let w := (s.after steps).world
    names.Pairwise (· < ·) ∧
      (∀ n, n ∈ names ↔ ∃ root segments dir e, Stocks w l n root segments dir e ∧
        w.enters (Path.ofString root) dir segments.dropLast = true) ∧
      (∀ n root segments dir e, Stocks w l n root segments dir e →
        w.enters (Path.ofString root) dir segments.dropLast = false →
        w.ShowsNames dir segments.dropLast →
        w.isFile ⟨(Path.ofString root).anchor, (Path.ofString root).segments ++ segments⟩ =
          false) ∧
      ∀ table name r location, (Locator.resolve w l table name).result = .ok r →
        r.root ≠ absoluteRoot → Name.accept name = .ok location →
        Name.segments location ≠ [] →
        ∃ dir, w.look (Path.ofString r.root) = .ok (dir, .directory) ∧
          (w.ShowsNames dir (Name.segments location).dropLast →
            Text.joinWith "/" (Name.segments location) ∈ names) := by
  intro w
  have hworld : w.IsTree := isTree_after htree hsteps
  refine ⟨increasing_listing h, fun n => mem_listing hworld.unique hlinks h, ?_, ?_⟩
  · intro n root segments dir e hstocks hclosed hshows
    exact not_isFile_of_not_enters hworld hlinks hstocks.holds hclosed hshows
  · intro table name r location hresult hroot haccept hsegments
    exact segments_mem_listing hworld.unique hlinks h hresult hroot haccept hsegments

/-- **What is found of a listing.** After any steps of a session that started in a tree, let there
be no links and no faults. A listed name leads from some root down to something that is no
directory. Let the name have no backslash. Then it is accepted as it stands, and wherever it leads
to something, the candidate of this root is the path to that, and is the path of a file exactly
when it leads to a regular file and its text is not too long. If this is so below some root, the
look-up succeeds and supplies a file; it does so exactly when some candidate is a file. But a
listed name with a backslash is looked up under other segments: whatever is found, it is not what
the name leads to. -/
theorem look_up_of_listed (hlinks : (s.after steps).world.IsLinkFree)
    (hfaults : (s.after steps).world.faults = [])
    (h : listing (s.after steps).world l = .ok names) {n : String} (hn : n ∈ names)
    (table : Provenance) :
    let w := (s.after steps).world
    let result := (Locator.resolve w l table (some n)).result
    (∃ root segments dir e, Stocks w l n root segments dir e) ∧
    ('\\' ∉ n.toList →
      Name.accept (some n) = .ok ("/" ++ n) ∧
      (∀ root segments dir e, Stocks w l n root segments dir e →
        candidate root ("/" ++ n) = listedPath root n ∧
        (w.isFile (listedPath root n) = true ↔ (∃ content time, e = .file content time) ∧
          (listedPath root n).toString.utf8ByteSize < World.pathLimit)) ∧
      ((∃ root segments dir content time,
          Stocks w l n root segments dir (.file content time) ∧
          (listedPath root n).toString.utf8ByteSize < World.pathLimit) →
        ∃ r, result = .ok r ∧ w.isFile r.path = true) ∧
      ((∃ r, result = .ok r) ↔
        ∃ root ∈ l.roots.names, w.isFile (candidate root ("/" ++ n)) = true)) ∧
    ('\\' ∈ n.toList → ∀ r, result = .ok r → r.path ≠ listedPath r.root n) := by
  intro w result
  have hworld : w.IsTree := isTree_after htree hsteps
  obtain ⟨root, segments, dir, e, hstocks, -⟩ := (mem_listing hworld.unique hlinks h).mp hn
  refine ⟨⟨root, segments, dir, e, hstocks⟩, fun hfree => ?_, fun hback r hresult => ?_⟩
  · have haccept := (hstocks.candidate_eq_listedPath hworld hfree).1
    have hiff : (∃ r, result = .ok r) ↔
        ∃ root ∈ l.roots.names, w.isFile (candidate root ("/" ++ n)) = true :=
      exists_result_iff_isFile hfaults table haccept
    have hleads : ∀ root segments dir e, Stocks w l n root segments dir e →
        candidate root ("/" ++ n) = listedPath root n ∧
        (w.isFile (listedPath root n) = true ↔ (∃ content time, e = .file content time) ∧
          (listedPath root n).toString.utf8ByteSize < World.pathLimit) :=
      fun root segments dir e hstocks => ⟨(hstocks.candidate_eq_listedPath hworld hfree).2.1,
        hstocks.isFile_listedPath_iff hworld hlinks hfaults hfree⟩
    refine ⟨haccept, hleads, ?_, hiff⟩
    rintro ⟨root, segments, dir, content, time, hstocks, hshort⟩
    obtain ⟨hcandidate, hfile⟩ := hleads _ _ _ _ hstocks
    have hthere := hfile.mpr ⟨⟨content, time, rfl⟩, hshort⟩
    obtain ⟨r, hresult⟩ := hiff.mpr ⟨root, hstocks.searched, hcandidate ▸ hthere⟩
    exact ⟨r, hresult, isFile_of_resolve hresult⟩
  · exact hstocks.path_ne_listedPath hworld hback hresult

end

/-! ## A stocked directory -/

/-- Two files in a directory, one in a directory below, and one whose name holds a backslash. -/
def stocking : List Step :=
  [.write "a/x" [111] ⟨5, 0⟩, .write "a/d/x" [112] ⟨7, 0⟩, .write "a/y\\z" [113] ⟨7, 0⟩]

/-- The search of the directory, written in a roundabout way, and of the one inside it. -/
def overlapping : Locator := ⟨defaultKind, ⟨["a/../a/", "a/d", ""]⟩⟩

/-- The session in which the files were written. -/
def stocked : Session := (start (.empty ["w"]) []).after stocking

theorem linksText_stocking : ∀ a ∈ stocking, a.LinksText := by
  simp [stocking, Step.LinksText]

theorem listing_stocked : listing stocked.world overlapping = .ok ["d/x", "x", "y\\z"] := by
  decide +kernel

/-- The file that two roots offer is named by its path from each of them. -/
theorem stocked_listed :
    ["d/x", "x", "y\\z"].Pairwise (· < ·) ∧
      (∃ root segments dir e, Stocks stocked.world overlapping "d/x" root segments dir e) ∧
      Text.joinWith "/" (Name.segments "/d/x") ∈ ["d/x", "x", "y\\z"] := by
  have htree : (start (.empty ["w"]) []).world.IsTree := World.isTree_empty (by decide)
  have hlinks : stocked.world.IsLinkFree := by decide +kernel
  have hfaults : stocked.world.faults = [] := by decide +kernel
  obtain ⟨hincreasing, hmem, -, hfound⟩ :=
    listing_tells_files htree linksText_stocking hlinks listing_stocked
  obtain ⟨root, segments, dir, e, hstocks, -⟩ := (hmem "d/x").mp (by decide)
  have hresolved : (Locator.resolve stocked.world overlapping .empty (some "./d//x")).result =
      .ok ⟨"./d//x", "a/../a/", ⟨.here, ["a", "..", "a", "d", "x"]⟩, FileTime.stamp ⟨7, 0⟩,
        [112]⟩ := by
    decide +kernel
  obtain ⟨dir', -, hlisted⟩ :=
    hfound .empty (some "./d//x") _ "/d/x" hresolved (by decide) rfl (by decide)
  exact ⟨hincreasing, ⟨root, segments, dir, e, hstocks⟩,
    hlisted (World.showsNames_of_faultless hfaults dir' _)⟩

/-- Of the names that are listed, the one with a backslash is not found. -/
theorem backslash_unfound :
    (∃ r, (Locator.resolve stocked.world overlapping .empty (some "d/x")).result = .ok r ∧
        stocked.world.isFile r.path = true) ∧
      (Locator.resolve stocked.world overlapping .empty (some "y\\z")).result =
        .error (.notFound "/y/z") ∧
      ∀ r, (Locator.resolve stocked.world overlapping .empty (some "y\\z")).result = .ok r →
        r.path ≠ listedPath r.root "y\\z" := by
  have htree : (start (.empty ["w"]) []).world.IsTree := World.isTree_empty (by decide)
  have hlinks : stocked.world.IsLinkFree := by decide +kernel
  have hfaults : stocked.world.faults = [] := by decide +kernel
  obtain ⟨-, hplain, -⟩ := look_up_of_listed htree linksText_stocking hlinks hfaults
    listing_stocked (n := "d/x") (by decide) .empty
  obtain ⟨-, -, hback⟩ := look_up_of_listed htree linksText_stocking hlinks hfaults
    listing_stocked (n := "y\\z") (by decide) .empty
  obtain ⟨-, -, hsucceeds, -⟩ := hplain (by decide)
  refine ⟨hsucceeds ?_, by decide +kernel, hback (by decide)⟩
  exact ⟨"a/../a/", ["d", "x"], ["w", "a"], [112], ⟨7, 0⟩,
    ⟨by decide, by decide, ⟨by decide, by decide +kernel, by decide +kernel, nofun⟩, rfl⟩,
    by decide +kernel⟩

end TemplateLookup.Session
