/-
# TemplateLookup.Proofs.Locator.Listing -- what a listing names

In a world without links a listing names exactly what stands below those roots that are
directories and is no directory itself, as far as the listing gets into the directories on the
way (`mem_listing`), each once and in order (`increasing_listing`). It names the segments of every
template that such a root can supply, if the names of these directories can be listed
(`segments_mem_listing`). What it leaves out though they can be is not found by its path either
(`not_isFile_of_not_enters`): it stands too deep, as a file can (`depths_unlisted`).
-/

import TemplateLookup.Locator.Listing
import TemplateLookup.Proofs.Candidate
import TemplateLookup.Proofs.Locator.Agreement
import TemplateLookup.Proofs.World.Listing

namespace TemplateLookup

/-! ## The listing -/

namespace Locator

open World

variable {w : World} {l : Locator} {names : List String}

theorem isDirectory_eq_true_iff {p : Path} :
    w.isDirectory p = .ok true ↔ ∃ dir, w.look p = .ok (dir, .directory) := by
  rw [isDirectory]
  constructor
  · intro h
    split at h
    · rename_i dir hlook
      exact ⟨dir, hlook⟩
    · cases h
    · rw [absence] at h
      split at h <;> cases h
  · rintro ⟨dir, hlook⟩
    rw [hlook]

theorem mem_namesBelow {root : String} (h : namesBelow w root = .ok names) {n : String} :
    n ∈ names ↔ ∃ dir, w.look (Path.ofString root) = .ok (dir, .directory) ∧
      ∃ segments ∈ w.filesBelow (Path.ofString root) dir, n = Text.joinWith "/" segments := by
  rw [namesBelow] at h
  split at h
  · cases h
  · -- a root that is no directory is passed over
    rename_i hother
    cases h
    constructor
    · intro hn
      cases hn
    · rintro ⟨dir, hlook, -⟩
      have htrue := isDirectory_eq_true_iff.mpr ⟨dir, hlook⟩
      cases hother.symm.trans htrue
  · rename_i hdirectory
    obtain ⟨dir, hlook⟩ := isDirectory_eq_true_iff.mp hdirectory
    rw [hlook] at h
    cases h
    rw [List.mem_map]
    constructor
    · rintro ⟨segments, hmem, rfl⟩
      exact ⟨dir, hlook, segments, hmem, rfl⟩
    · rintro ⟨dir', hlook', segments, hmem, rfl⟩
      cases hlook.symm.trans hlook'
      exact ⟨segments, hmem, rfl⟩

theorem mem_namesBelowAll {roots : List String} (h : namesBelowAll w roots = .ok names)
    {n : String} :
    n ∈ names ↔ ∃ root ∈ roots, ∃ dir, w.look (Path.ofString root) = .ok (dir, .directory) ∧
      ∃ segments ∈ w.filesBelow (Path.ofString root) dir, n = Text.joinWith "/" segments := by
  induction roots generalizing names with
  | nil =>
    cases h
    simp
  | cons root rest ih =>
    rw [namesBelowAll] at h
    split at h
    · cases h
    · rename_i below hbelow
      split at h
      · cases h
      · rename_i more hmore
        cases h
        rw [List.mem_append, mem_namesBelow hbelow, ih hmore]
        simp only [List.mem_cons, exists_eq_or_imp]

/-- There is a listing when some root is no sentinel and none is refused. -/
theorem exists_listing (hroots : l.roots.directories ≠ [])
    (hanswers : ∀ root ∈ l.roots.directories, ∃ b, w.isDirectory (Path.ofString root) = .ok b) :
    ∃ names, listing w l = .ok names := by
  have hall : ∀ roots : List String,
      (∀ root ∈ roots, ∃ b, w.isDirectory (Path.ofString root) = .ok b) →
      ∃ names, namesBelowAll w roots = .ok names := by
    intro roots hroots
    induction roots with
    | nil => exact ⟨[], rfl⟩
    | cons root rest ih =>
      obtain ⟨more, hmore⟩ := ih fun other hother => hroots other (List.mem_cons_of_mem root hother)
      obtain ⟨b, hb⟩ := hroots root List.mem_cons_self
      have hfirst : ∃ below, namesBelow w root = .ok below := by
        simp only [namesBelow, hb]
        cases b with
        | false => exact ⟨[], rfl⟩
        | true =>
          obtain ⟨dir, hlook⟩ := isDirectory_eq_true_iff.mp hb
          simp only [hlook]
          exact ⟨_, rfl⟩
      obtain ⟨below, hbelow⟩ := hfirst
      exact ⟨below ++ more, by simp only [namesBelowAll, hbelow, hmore]⟩
  obtain ⟨found, hfound⟩ := hall l.roots.directories hanswers
  refine ⟨Text.ordered found, ?_⟩
  have hsome : l.roots.directories.isEmpty = false := by
    rw [← Bool.not_eq_true, List.isEmpty_iff]
    exact hroots
  simp only [listing, hsome, hfound, Bool.false_eq_true, if_false]

/-- The names lead down to something below a root, and a string is made of them. The root is a
directory and not the top of the file system, and what stands there is no directory. -/
structure Stocks (w : World) (l : Locator) (n root : String) (segments : List String)
    (dir : Location) (e : Entry) : Prop where
  searched : root ∈ l.roots.names
  proper : root ≠ absoluteRoot
  holds : w.Holds (Path.ofString root) segments dir e
  joined : n = Text.joinWith "/" segments

/-- A string is listed when it is stocked and the listing gets to it. -/
theorem mem_listing (hunique : (Pairs.keys w.entries).Nodup) (hlinks : w.IsLinkFree)
    (h : l.listing w = .ok names) {n : String} :
    n ∈ names ↔ ∃ root segments dir e, Stocks w l n root segments dir e ∧
      w.enters (Path.ofString root) dir segments.dropLast = true := by
  rw [listing] at h
  split at h
  · cases h
  · split at h
    · cases h
    · rename_i found hfound
      cases h
      rw [Text.mem_ordered, mem_namesBelowAll hfound]
      simp only [Roots.directories, List.mem_filter, decide_eq_true_eq,
        mem_filesBelow hunique hlinks]
      constructor
      · rintro ⟨root, ⟨hmem, hroot⟩, dir, hlook, segments, ⟨hne, ⟨e, hstored, hplain⟩, henters⟩, hn⟩
        exact ⟨root, segments, dir, e, ⟨hmem, hroot, ⟨hne, hlook, hstored, hplain⟩, hn⟩, henters⟩
      · rintro ⟨root, segments, dir, e, ⟨hmem, hroot, ⟨hne, hlook, hstored, hplain⟩, hn⟩, henters⟩
        exact ⟨root, ⟨hmem, hroot⟩, dir, hlook, segments, ⟨hne, ⟨e, hstored, hplain⟩, henters⟩, hn⟩

theorem increasing_listing (h : l.listing w = .ok names) : Text.Increasing names := by
  rw [listing] at h
  split at h
  · cases h
  · split at h
    · cases h
    · cases h
      exact Text.increasing_ordered _

/-- The segments of a name for which a root supplies a file are listed, if the names of the
directories on the way are. -/
theorem segments_mem_listing (hunique : (Pairs.keys w.entries).Nodup) (hlinks : w.IsLinkFree)
    (h : l.listing w = .ok names) {table : Provenance} {name : Option String} {r : Resource}
    {location : String} (hresult : (resolve w l table name).result = .ok r)
    (hroot : r.root ≠ absoluteRoot) (haccept : Name.accept name = .ok location)
    (hsegments : Name.segments location ≠ []) :
    ∃ dir, w.look (Path.ofString r.root) = .ok (dir, .directory) ∧
      (w.ShowsNames dir (Name.segments location).dropLast →
        Text.joinWith "/" (Name.segments location) ∈ names) := by
  obtain ⟨n, location', time, rfl, hlocated⟩ := located_of_resolve hresult
  cases haccept.symm.trans hlocated.accepted
  have hnormal := Name.isNormal_of_accept haccept
  have hproper := Name.isProper_of_mem_segments hnormal
  have hpath : r.path = ⟨(Path.ofString r.root).anchor,
      (Path.ofString r.root).segments ++ Name.segments location⟩ := by
    rw [hlocated.path, candidate_eq hnormal, rootPath, if_neg hroot]
  obtain ⟨loc, hlook⟩ := fileAt?_eq_some_iff.mp hlocated.provides.file
  rw [hpath] at hlook
  have hdown : ∀ s ∈ Name.segments location, stays s = false ∧ s ≠ ".." := by
    intro s hs
    have hs := hproper s hs
    exact ⟨by simp [stays, hs.ne_empty, hs.ne_dot], hs.ne_back⟩
  obtain ⟨dir, hholds, henters⟩ := holds_of_look hlinks hsegments hdown hlook
  obtain ⟨before, after, hroots, -, -⟩ := hlocated.first
  have hmem : r.root ∈ l.roots.names := by
    rw [hroots]
    exact List.mem_append_right before List.mem_cons_self
  refine ⟨dir, hholds.look, fun hshows => ?_⟩
  exact (mem_listing hunique hlinks h).mpr
    ⟨r.root, Name.segments location, dir, _, ⟨hmem, hroot, hholds, rfl⟩, henters.mpr hshows⟩

/-- A file below a directory whose names cannot be listed is found, and is not listed. -/
example :
    let w : World := ⟨[(["a"], .directory), (["a", "d"], .directory),
      (["a", "d", "x"], .file [111] ⟨5, 0⟩)], [], [("/a/d", .withheld .names .denied)], 0⟩
    let l : Locator := ⟨defaultKind, ⟨["/a"]⟩⟩
    listing w l = .ok [] ∧
      (resolve w l .empty (some "d/x")).result =
        .ok ⟨"d/x", "/a", ⟨.root, ["a", "d", "x"]⟩, FileTime.stamp ⟨5, 0⟩, [111]⟩ := by
  decide +kernel

/-- What is left out though the names on the way can be listed is not found by its path either. -/
theorem not_isFile_of_not_enters (htree : w.IsTree) (hlinks : w.IsLinkFree) {top : Path}
    {segments : List String} {dir : Location} {e : Entry} (h : w.Holds top segments dir e)
    (hclosed : w.enters top dir segments.dropLast = false)
    (hshows : w.ShowsNames dir segments.dropLast) :
    w.isFile ⟨top.anchor, top.segments ++ segments⟩ = false := by
  rw [← Bool.not_eq_true, World.isFile_iff]
  rintro ⟨loc, content, time, hlook⟩
  have hdown : ∀ s ∈ segments, stays s = false ∧ s ≠ ".." := by
    intro s hs
    have hs := h.isFileName htree s hs
    exact ⟨hs.isLeading.stays, hs.ne_back⟩
  obtain ⟨dir', hholds, henters⟩ := holds_of_look hlinks h.ne_nil hdown hlook
  cases h.look.symm.trans hholds.look
  cases hclosed.symm.trans (henters.mpr hshows)

/-! ## Files that stand too deep -/

/-- A name of a given length. -/
def stretched : Nat → String
  | 0 => ""
  | n + 1 => "d" ++ stretched n

/-- A name that could not be longer. -/
def longest : String := stretched longestName

/-- The way down through directories of this name. -/
def shaft (depth : Nat) : List String := List.replicate depth longest

/-- The directories of a shaft below the working directory. -/
def sunk : Nat → World
  | 0 => World.empty ["w"]
  | depth + 1 => (sunk depth).put (["w"] ++ shaft (depth + 1)) .directory

/-- A file under so many directories that the last one cannot be opened by its text. -/
def depths : World := (sunk 16).put (["w"] ++ shaft 16 ++ ["x"]) (.file [] ⟨0, 0⟩)

theorem utf8ByteSize_stretched (n : Nat) : (stretched n).utf8ByteSize = n := by
  induction n with
  | zero => rfl
  | succ n ih =>
    have hone : "d".utf8ByteSize = 1 := rfl
    rw [stretched, String.utf8ByteSize_append, ih, hone, Nat.add_comm]

theorem toList_stretched (n : Nat) : (stretched n).toList = List.replicate n 'd' := by
  induction n with
  | zero => rfl
  | succ n ih =>
    have hone : "d".toList = ['d'] := rfl
    rw [stretched, String.toList_append, ih, hone, List.singleton_append, List.replicate_succ]

theorem isFileName_longest : IsFileName longest := by
  have hsize : longest.utf8ByteSize = 255 := utf8ByteSize_stretched longestName
  have hother : ∀ short : String, short.utf8ByteSize < 255 → longest ≠ short := by
    intro short hless heq
    rw [← heq, hsize] at hless
    exact Nat.lt_irrefl 255 hless
  have hplain : ∀ c, c ≠ 'd' → c ∉ longest.toList := by
    intro c hc hmem
    rw [longest, toList_stretched] at hmem
    exact hc (List.eq_of_mem_replicate hmem)
  exact ⟨hother "" (by decide), hother "." (by decide), hother ".." (by decide),
    hplain '/' (by decide), hplain '\x00' (by decide), Nat.le_of_eq hsize⟩

theorem shaft_succ (depth : Nat) : shaft (depth + 1) = shaft depth ++ [longest] :=
  List.replicate_succ'

/-- A shaft is a tree, goes as far as it was sunk, and holds nothing but directories. -/
theorem sunk_spec (depth : Nat) :
    (sunk depth).IsTree ∧ World.entry? (sunk depth) (["w"] ++ shaft depth) = some .directory ∧
      ∀ loc e, World.entry? (sunk depth) loc = some e → loc.length ≤ depth + 1 ∧ e = .directory := by
  induction depth with
  | zero =>
    refine ⟨isTree_empty (by decide), rfl, ?_⟩
    intro loc e he
    by_cases hloc : loc = []
    · subst hloc
      exact ⟨Nat.zero_le 1, (Option.some.inj he).symm⟩
    · rw [entry?_of_ne_nil _ hloc] at he
      cases List.mem_singleton.mp (Pairs.mem_of_fetch he)
      exact ⟨Nat.le_refl 1, rfl⟩
  | succ depth ih =>
    obtain ⟨htree, hend, hshort⟩ := ih
    have hlength : (["w"] ++ shaft (depth + 1)).length = depth + 2 := by simp [shaft]
    have hnew : ["w"] ++ shaft (depth + 1) ≠ [] := by simp
    have hfree : World.entry? (sunk depth) (["w"] ++ shaft (depth + 1)) ≠ some .directory := by
      intro he
      have hless := (hshort _ _ he).1
      omega
    refine ⟨?_, entry?_put_self _ _ hnew, ?_⟩
    · rw [shaft_succ, ← List.append_assoc] at hfree
      rw [sunk, shaft_succ, ← List.append_assoc]
      exact htree.put_unlinked hend isFileName_longest hfree rfl
    · intro loc e he
      rw [sunk] at he
      by_cases hloc : loc = ["w"] ++ shaft (depth + 1)
      · subst hloc
        rw [entry?_put_self _ _ hnew] at he
        exact ⟨Nat.le_of_eq hlength, (Option.some.inj he).symm⟩
      · rw [entry?_put_of_ne _ _ hloc] at he
        exact ⟨Nat.le_succ_of_le (hshort loc e he).1, (hshort loc e he).2⟩

theorem utf8ByteSize_shaft (depth : Nat) :
    (Text.joinWith "/" (shaft (depth + 1))).utf8ByteSize = 256 * depth + 255 := by
  have hone : (Text.joinWith "/" [longest]).utf8ByteSize = 255 :=
    utf8ByteSize_stretched longestName
  induction depth with
  | zero => exact hone
  | succ depth ih =>
    rw [shaft_succ, Text.utf8ByteSize_joinWith_append (by simp [shaft]) (by simp), ih, hone]
    omega

/-- The directories of the shaft are opened one by one, but the last is not. -/
theorem not_enters_shaft (w : World) (dir : Location) :
    w.enters (Path.ofString ".") dir (shaft 16) = false := by
  have htext : openingText (Path.ofString ".") (shaft 16) =
      "." ++ "/" ++ Text.joinWith "/" (shaft 16) := rfl
  have hsize : (openingText (Path.ofString ".") (shaft 16)).utf8ByteSize = 4097 := by
    rw [htext, String.utf8ByteSize_append, utf8ByteSize_shaft 15]
    rfl
  rw [← Bool.not_eq_true, enters_iff, hsize]
  exact fun h => absurd h.1 (by decide)

/-- All of the tree but the file at its bottom is directories. -/
theorem entry?_depths {loc : Location} {e : Entry} (h : depths.entry? loc = some e) :
    loc = ["w"] ++ shaft 16 ++ ["x"] ∧ e = .file [] ⟨0, 0⟩ ∨ e = .directory := by
  by_cases hloc : loc = ["w"] ++ shaft 16 ++ ["x"]
  · subst hloc
    rw [depths, entry?_put_self _ _ (by simp)] at h
    exact .inl ⟨rfl, (Option.some.inj h).symm⟩
  · rw [depths, entry?_put_of_ne _ _ hloc] at h
    exact .inr ((sunk_spec 16).2.2 loc e h).2

theorem isTree_depths : depths.IsTree := by
  obtain ⟨htree, hend, hdirectories⟩ := sunk_spec 16
  have hname : IsFileName "x" := by decide
  refine htree.put_unlinked hend hname ?_ rfl
  intro he
  have hlength := (hdirectories _ _ he).1
  simp [shaft] at hlength

theorem isLinkFree_depths : depths.IsLinkFree := by
  rintro ⟨loc, e⟩ hmem
  have hloc : loc ≠ [] := (isTree_depths.named loc (List.mem_map.mpr ⟨_, hmem, rfl⟩)).1
  rcases entry?_depths ((isTree_depths.mem_entries_iff hloc).mp hmem) with ⟨-, rfl⟩ | rfl
  · rfl
  · rfl

/-- The file is not listed, although it stands below a root that is a directory. -/
theorem depths_unlisted :
    let l : Locator := ⟨defaultKind, ⟨["."]⟩⟩
    depths.IsTree ∧ depths.IsLinkFree ∧ ∃ names, listing depths l = .ok names ∧
      ¬ ∀ n, n ∈ names ↔ ∃ root segments dir e, Stocks depths l n root segments dir e := by
  intro l
  have hlook : depths.look (Path.ofString ".") = .ok (["w"], .directory) := rfl
  have hfile : depths.Holds (Path.ofString ".") (shaft 16 ++ ["x"]) ["w"] (.file [] ⟨0, 0⟩) := by
    refine ⟨by simp, hlook, ?_, nofun⟩
    rw [← List.append_assoc]
    exact entry?_put_self _ _ (by simp)
  have hanswers : ∀ root ∈ l.roots.directories,
      ∃ b, depths.isDirectory (Path.ofString root) = .ok b := by
    intro root hroot
    rw [List.mem_singleton.mp hroot]
    exact ⟨true, isDirectory_eq_true_iff.mpr ⟨["w"], hlook⟩⟩
  obtain ⟨names, hnames⟩ := exists_listing (by decide) hanswers
  refine ⟨isTree_depths, isLinkFree_depths, names, hnames, ?_⟩
  intro hall
  have hlisted := (hall _).mpr
    ⟨".", _, ["w"], _, List.mem_singleton.mpr rfl, by decide, hfile, rfl⟩
  obtain ⟨root, segments, dir, e, hstocks, henters⟩ :=
    (mem_listing isTree_depths.unique isLinkFree_depths hnames).mp hlisted
  cases List.mem_singleton.mp hstocks.searched
  cases hlook.symm.trans hstocks.holds.look
  -- the file is the only one, and its directory is not entered
  rcases entry?_depths hstocks.holds.stored with ⟨hsegments, -⟩ | hnone
  · rw [List.append_assoc] at hsegments
    rw [List.append_cancel_left hsegments, List.dropLast_concat, not_enters_shaft] at henters
    cases henters
  · exact hstocks.holds.plain hnone

end Locator

end TemplateLookup
