/-
# TemplateLookup.Proofs.Locator.Listed -- looking up what is listed

A listed name is the path of something below a root. It is looked up by its text, in which
backslashes count as slashes. So a name without a backslash is accepted as it stands, and the
candidate of the root where it was listed is what was listed (`Stocks.candidate_eq_listedPath`);
where this is a regular file, there is a file to be found unless the text of its path is too long
(`Stocks.isFile_listedPath_iff`). A name with a backslash never leads to what was listed
(`Stocks.path_ne_listedPath`).
-/

import TemplateLookup.Proofs.Locator.Listing

namespace TemplateLookup

open TemplateLookup.Text

/-! ## Joined names -/

section

variable {names : List String}

/-- Names of files are the pieces of their joined text. -/
theorem pieces_joinWith (hne : names ≠ []) (hnames : ∀ s ∈ names, World.IsFileName s) :
    pieces '/' (joinWith "/" names).toList = names.map String.toList :=
  pieces_joined rfl hne fun s hs => (hnames s hs).noSlash

/-- A file's name leads down: it neither stays nor goes back. -/
theorem isOrdinary_of_isFileName (hnames : ∀ s ∈ names, World.IsFileName s) :
    ∀ p ∈ names.map String.toList, Name.IsOrdinary p := by
  intro piece hpiece
  obtain ⟨s, hs, rfl⟩ := List.mem_map.mp hpiece
  have hs := hnames s hs
  refine (Name.isOrdinary_iff _).mpr ⟨?_, ?_, ?_⟩
  · exact fun h => hs.ne_empty (String.toList_eq_nil_iff.mp h)
  · exact fun h => hs.ne_dot (String.toList_inj.mp h)
  · exact fun h => hs.ne_back (String.toList_inj.mp h)

/-- Joined names of files, read as a path, lead down by these names. -/
theorem Path.ofString_joinWith (_hne : names ≠ []) (hnames : ∀ s ∈ names, World.IsFileName s) :
    Path.ofString (joinWith "/" names) = ⟨.here, names⟩ := by
  apply Path.ofString_joined
  intro s hs
  have hname := hnames s hs
  exact ⟨hname.ne_empty, hname.ne_dot, hname.noSlash⟩

theorem Name.forward_eq_self {cs : List Char} (h : '\\' ∉ cs) : Name.forward cs = cs := by
  have hsame : cs.map (fun c => if c = '\\' then '/' else c) = cs.map id := by
    apply List.map_congr_left
    intro c hc
    have hback : c ≠ '\\' := by
      rintro rfl
      exact h hc
    rw [if_neg hback, id]
  rw [Name.forward, hsame, List.map_id]

/-- Joined names of files without backslashes are walked as they stand. -/
theorem Name.walked_joinWith (hne : names ≠ []) (hnames : ∀ s ∈ names, World.IsFileName s)
    (hfree : '\\' ∉ (joinWith "/" names).toList) :
    Name.walked (joinWith "/" names).toList = some ("/" ++ joinWith "/" names).toList := by
  have hpieces := pieces_joinWith hne hnames
  have hordinary := isOrdinary_of_isFileName hnames
  have hmore : names.map String.toList ≠ [] := by simpa using hne
  have hwalk : Name.walk (names.map String.toList) = some (names.map String.toList).reverse := by
    rw [Name.walk, Name.foldlM_follow_ordinary hordinary, List.append_nil]
  have hlast : Name.staysInDirectory ((names.map String.toList).getLastD []) = false := by
    rw [List.getLastD_eq_getLast?, List.getLast?_eq_some_getLast hmore, Option.getD_some]
    exact hordinary _ (List.getLast_mem hmore)
  have hunite : unite '/' (names.map String.toList) = (joinWith "/" names).toList := by
    rw [← hpieces, unite_pieces]
  rw [Name.walked, Name.forward_eq_self hfree, hpieces, hwalk, Option.map_some, Name.written,
    hlast, List.reverse_reverse, hunite]
  simp

theorem Name.accept_joinWith (hne : names ≠ []) (hnames : ∀ s ∈ names, World.IsFileName s)
    (hfree : '\\' ∉ (joinWith "/" names).toList) :
    Name.accept (some (joinWith "/" names)) = .ok ("/" ++ joinWith "/" names) := by
  have hwalked := Name.walked_joinWith hne hnames hfree
  refine Name.accept_eq_ok_iff.mpr ⟨?_, (Name.normal?_eq_some_iff _ _).mpr hwalked⟩
  -- an empty text would have an empty piece, and no file has such a name
  intro hnone
  have hpieces := pieces_joinWith hne hnames
  rw [hnone] at hpieces
  have hempty : [] ∈ names.map String.toList := hpieces ▸ List.mem_cons_self
  cases isOrdinary_of_isFileName hnames [] hempty

theorem Name.segments_joinWith (hne : names ≠ []) (hnames : ∀ s ∈ names, World.IsFileName s) :
    Name.segments ("/" ++ joinWith "/" names) = names := by
  have htext : ("/" ++ joinWith "/" names).toList = '/' :: (joinWith "/" names).toList := by
    simp
  have hkept : (names.map String.toList).filter (· ≠ []) = names.map String.toList := by
    rw [List.filter_eq_self]
    intro piece hpiece
    have hordinary := isOrdinary_of_isFileName hnames piece hpiece
    simpa using ((Name.isOrdinary_iff piece).mp hordinary).1
  rw [Name.segments, htext, pieces_sep_cons, pieces_joinWith hne hnames,
    List.filter_cons_of_neg (by simp), hkept, List.map_map]
  simp

end

/-! ## Files that are listed -/

namespace World

variable {w : World}

/-- Without faults whatever is a file can be used. -/
theorem usable_iff_isFile (hfaults : w.faults = []) {p : Path} :
    w.Usable p ↔ w.isFile p = true := by
  have hnone : w.faultAt p = none := by rw [faultAt, hfaults, Pairs.fetch_nil]
  constructor
  · rintro ⟨content, time, hprovides⟩
    rw [isFile, hprovides.file]
    rfl
  · intro hfile
    apply usable_of_readable _ hnone
    rw [isReadable, hfile, hnone]
    rfl

/-- Without faults the path from a directory to what it holds leads to a file exactly when that is
a regular file and the text of the path is not too long. -/
theorem Holds.isFile_iff {top : Path} {names : List String} {dir : Location} {e : Entry}
    (htree : w.IsTree) (hlinks : w.IsLinkFree) (hfaults : w.faults = [])
    (h : w.Holds top names dir e) :
    w.isFile ⟨top.anchor, top.segments ++ names⟩ = true ↔
      (∃ content time, e = .file content time) ∧
        (Path.mk top.anchor (top.segments ++ names)).toString.utf8ByteSize < pathLimit := by
  have hnames := h.isFileName htree
  have hlink : e.isLink = false := by
    cases e with
    | link target => exact absurd h.stored (hlinks.not_stored _ target)
    | _ => rfl
  obtain ⟨hrefusal, hwalk⟩ := (look_eq_ok_iff hlinks).mp h.look
  have hpass := isPassable_of_faultless hfaults (fun s hs => (hnames s hs).isLeading) dir
  have hdescend : w.descend (w.startOf top) (top.segments ++ names) = .arrived (dir ++ names) e := by
    rw [descend_append hwalk]
    exact htree.descend_entry h.stored hlink (fun hnil => absurd hnil h.ne_nil) hpass
  rw [World.isFile_iff]
  constructor
  · rintro ⟨loc, content, time, hfile⟩
    obtain ⟨hrefused, hend⟩ := (look_eq_ok_iff hlinks).mp hfile
    cases hdescend.symm.trans hend
    exact ⟨⟨content, time, rfl⟩, (refusal?_eq_none_iff.mp hrefused).2⟩
  · rintro ⟨⟨content, time, rfl⟩, hshort⟩
    refine ⟨dir ++ names, content, time, (look_eq_ok_iff hlinks).mpr ⟨?_, hdescend⟩⟩
    refine refusal?_eq_none_iff.mpr ⟨?_, hshort⟩
    intro s hs
    rcases List.mem_append.mp hs with hs | hs
    · exact (refusal?_eq_none_iff.mp hrefusal).1 s hs
    · exact (hnames s hs).noNul

end World

namespace Locator

open World

variable {w : World} {l : Locator} {names : List String}

/-- The path of a listed name from a root. -/
def listedPath (root n : String) : Path := (Path.ofString root).join (Path.ofString n)

theorem exists_result_iff (w : World) (l : Locator) (table : Provenance) {name location : String}
    (h : Name.accept (some name) = .ok location) :
    (∃ r, (resolve w l table (some name)).result = .ok r) ↔
      ∃ root ∈ l.roots.names, w.Usable (candidate root location) := by
  have hnone := searchRoots_eq_none_iff w name location l.roots.names
  rw [(outcomes_of_accept w l table h).2, Option.getD_some]
  cases hsearch : (searchRoots w name location l.roots.names).resource with
  | none =>
    constructor
    · rintro ⟨r, hr⟩
      cases hr
    · rintro ⟨root, hmem, husable⟩
      exact absurd husable (hnone.mp hsearch root hmem)
  | some r =>
    refine iff_of_true ⟨r, rfl⟩ ?_
    have hsome : ¬ ∀ root ∈ l.roots.names, ¬ w.Usable (candidate root location) := by
      intro hall
      rw [hnone.mpr hall] at hsearch
      cases hsearch
    simpa using hsome

section

variable {n root : String} {segments : List String} {dir : Location} {e : Entry}

/-- What a locator stocks without a backslash is the candidate of its root. -/
theorem Stocks.candidate_eq_listedPath (htree : w.IsTree) (h : Stocks w l n root segments dir e)
    (hfree : '\\' ∉ n.toList) :
    Name.accept (some n) = .ok ("/" ++ n) ∧ candidate root ("/" ++ n) = listedPath root n ∧
      listedPath root n =
        ⟨(Path.ofString root).anchor, (Path.ofString root).segments ++ segments⟩ := by
  obtain ⟨-, hroot, hholds, rfl⟩ := h
  have hnames := hholds.isFileName htree
  have haccept := Name.accept_joinWith hholds.ne_nil hnames hfree
  have hpath : listedPath root (joinWith "/" segments) =
      ⟨(Path.ofString root).anchor, (Path.ofString root).segments ++ segments⟩ := by
    rw [listedPath, Path.ofString_joinWith hholds.ne_nil hnames, Path.join_of_relative _ _ rfl]
  refine ⟨haccept, ?_, hpath⟩
  rw [hpath, candidate_eq (Name.isNormal_of_accept haccept), rootPath, if_neg hroot,
    Name.segments_joinWith hholds.ne_nil hnames]

/-- What a locator stocks with a backslash is not what a look-up of the name finds. -/
theorem Stocks.path_ne_listedPath (htree : w.IsTree) (h : Stocks w l n root segments dir e)
    (hback : '\\' ∈ n.toList) {table : Provenance} {r : Resource}
    (hresult : (resolve w l table (some n)).result = .ok r) : r.path ≠ listedPath r.root n := by
  intro hpath
  obtain ⟨-, -, hholds, rfl⟩ := h
  obtain ⟨n, location, time, hn', hlocated⟩ := located_of_resolve hresult
  cases hn'
  have hnormal := Name.isNormal_of_accept hlocated.accepted
  rw [hlocated.path, candidate_eq hnormal, listedPath,
    Path.ofString_joinWith hholds.ne_nil (hholds.isFileName htree),
    Path.join_of_relative _ _ rfl] at hpath
  -- one of the segments of what is listed holds the backslash
  have hsegment : ∃ s ∈ segments, '\\' ∈ s.toList := by
    rw [toList_joinWith rfl] at hback
    rcases mem_unite hback with hslash | ⟨piece, hpiece, hmem⟩
    · cases hslash
    · obtain ⟨s, hs, rfl⟩ := List.mem_map.mp hpiece
      exact ⟨s, hs, hmem⟩
  obtain ⟨s, hs, hmem⟩ := hsegment
  by_cases hroot : r.root = absoluteRoot
  · rw [rootPath, if_pos hroot, hroot] at hpath
    cases congrArg Path.anchor hpath
  · rw [rootPath, if_neg hroot] at hpath
    have hsame := List.append_cancel_left (congrArg Path.segments hpath)
    exact (Name.isProper_of_mem_segments hnormal s (hsame ▸ hs)).noBackslash hmem

/-- Without faults the path of what is stocked leads to a file exactly when this is a regular file
and the text of the path is not too long. -/
theorem Stocks.isFile_listedPath_iff (htree : w.IsTree) (hlinks : w.IsLinkFree)
    (hfaults : w.faults = []) (h : Stocks w l n root segments dir e) (hfree : '\\' ∉ n.toList) :
    w.isFile (listedPath root n) = true ↔ (∃ content time, e = .file content time) ∧
      (listedPath root n).toString.utf8ByteSize < pathLimit := by
  rw [(h.candidate_eq_listedPath htree hfree).2.2]
  exact h.holds.isFile_iff htree hlinks hfaults

end

/-- Without faults an accepted name is found exactly when some root has a file for it. -/
theorem exists_result_iff_isFile (hfaults : w.faults = []) (table : Provenance)
    {name location : String} (h : Name.accept (some name) = .ok location) :
    (∃ r, (resolve w l table (some name)).result = .ok r) ↔
      ∃ root ∈ l.roots.names, w.isFile (candidate root location) = true := by
  rw [exists_result_iff w l table h]
  simp only [usable_iff_isFile hfaults]

theorem isFile_of_resolve {table : Provenance} {name : Option String} {r : Resource}
    (h : (resolve w l table name).result = .ok r) : w.isFile r.path = true := by
  obtain ⟨n, location, time, -, hlocated⟩ := located_of_resolve h
  rw [isFile, hlocated.provides.file]
  rfl

end Locator

end TemplateLookup
