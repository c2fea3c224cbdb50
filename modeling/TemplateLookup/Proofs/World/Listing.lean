/-
# TemplateLookup.Proofs.World.Listing -- what is listed below a directory

In a world without links everything that is stored below a directory and is no directory itself
is listed, each under the names that lead to it, if the directories on the way can be opened and
listed (`mem_filesBelow`): none of their names is barred or withheld (`isOpenAlong_iff`), and the
text by which the last one is opened is not too long. That text is no longer than the text of a
path to what is listed (`openingText_le`). So what a path finds below a directory is listed
unless the names of a directory on the way are withheld (`holds_of_look`).
-/

import TemplateLookup.Proofs.World.Tree
import TemplateLookup.World.Listing

namespace TemplateLookup

/-! ## The length of texts -/

namespace Path

theorem utf8ByteSize_toString {p : Path} (h : p.segments ≠ []) :
    p.toString.utf8ByteSize =
      p.anchor.slashes.utf8ByteSize + (Text.joinWith "/" p.segments).utf8ByteSize := by
  have hsome : ¬ (p.anchor = .here ∧ p.segments = []) := fun hnone => h hnone.2
  rw [toString, if_neg hsome, String.utf8ByteSize_append]

end Path

namespace World

theorem toString_le_openingText (top : Path) (names : List String) :
    top.toString.utf8ByteSize ≤ (openingText top names).utf8ByteSize := by
  rw [openingText]
  split
  · exact Nat.le_refl _
  · split
    · rw [String.utf8ByteSize_append]
      omega
    · rw [String.utf8ByteSize_append, String.utf8ByteSize_append]
      omega

/-- The text by which a directory is opened is no longer than the text of a path to what is
stored in it. -/
theorem openingText_le (top : Path) (names : List String) {last : String} (hlast : last ≠ "") :
    (openingText top names).utf8ByteSize ≤
      (Path.mk top.anchor (top.segments ++ (names ++ [last]))).toString.utf8ByteSize := by
  obtain ⟨anchor, segments⟩ := top
  have hsize : 0 < last.utf8ByteSize := by
    rw [Nat.pos_iff_ne_zero]
    exact fun h => hlast (String.utf8ByteSize_eq_zero_iff.mp h)
  have hslash : "/".utf8ByteSize = 1 := rfl
  have hdot : ".".utf8ByteSize = 1 := rfl
  have hone : Text.joinWith "/" [last] = last := rfl
  rw [Path.utf8ByteSize_toString (by simp)]
  dsimp only
  by_cases hnames : names = []
  · subst hnames
    rw [openingText, if_pos rfl, List.nil_append]
    by_cases hsegments : segments = []
    · -- the text of the working directory alone is a full stop
      subst hsegments
      rw [List.nil_append, hone, Path.toString]
      split
      · omega
      · simp only [Text.joinWith, String.append_empty]
        omega
    · rw [Path.utf8ByteSize_toString hsegments, Text.utf8ByteSize_joinWith_append hsegments (by simp)]
      dsimp only
      omega
  · have hmore : names ++ [last] ≠ [] := by simp
    rw [openingText, if_neg hnames]
    by_cases hsegments : segments = []
    · subst hsegments
      rw [List.nil_append, Text.utf8ByteSize_joinWith_append hnames (by simp), hone]
      split
      · rename_i habsolute
        have hwritten : ¬ (anchor = .here ∧ ([] : List String) = []) := fun h => habsolute.1 h.1
        rw [Path.toString, if_neg hwritten, String.utf8ByteSize_append]
        simp only [Text.joinWith, String.append_empty]
        omega
      · rename_i habsolute
        have hhere : anchor = .here := by simpa using habsolute
        subst hhere
        rw [Path.toString, if_pos ⟨rfl, rfl⟩, String.utf8ByteSize_append,
          String.utf8ByteSize_append]
        omega
    · have hdeep : ¬ (anchor ≠ .here ∧ segments = []) := fun h => hsegments h.2
      rw [if_neg hdeep, String.utf8ByteSize_append, String.utf8ByteSize_append,
        Path.utf8ByteSize_toString hsegments, Text.utf8ByteSize_joinWith_append hsegments hmore,
        Text.utf8ByteSize_joinWith_append hnames (by simp), hone]
      dsimp only
      omega

/-! ## Directories on the way -/

section

variable {w : World} {dir : Location} {names : List String}

/-- The names of every directory along a way can be listed. -/
def ShowsNames (w : World) (dir : Location) (names : List String) : Prop :=
  ∀ before, before <+: names → w.withheld? (dir ++ before) .names = none

theorem showsNames_cons {s : String} :
    w.ShowsNames dir (s :: names) ↔
      w.withheld? dir .names = none ∧ w.ShowsNames (dir ++ [s]) names := by
  constructor
  · intro h
    refine ⟨by simpa using h [] List.nil_prefix, ?_⟩
    intro before hbefore
    have hmore := h (s :: before) (List.cons_prefix_cons.mpr ⟨rfl, hbefore⟩)
    rwa [List.append_cons] at hmore
  · rintro ⟨hhere, hmore⟩ before hbefore
    cases before with
    | nil => simpa using hhere
    | cons t rest =>
      obtain ⟨rfl, hrest⟩ := List.cons_prefix_cons.mp hbefore
      rw [List.append_cons]
      exact hmore rest hrest

/-- A listing gets along names where none is barred and no directory withholds its names. -/
theorem isOpenAlong_iff :
    w.isOpenAlong dir names = true ↔ w.IsPassable dir names ∧ w.ShowsNames dir names := by
  induction names generalizing dir with
  | nil => simp [isOpenAlong, IsPassable, ShowsNames]
  | cons s rest ih =>
    rw [isOpenAlong, Bool.and_eq_true, Bool.and_eq_true, decide_eq_true_eq, decide_eq_true_eq, ih,
      showsNames_cons, IsPassable]
    constructor
    · rintro ⟨⟨hhere, hbar⟩, hpass, hmore⟩
      exact ⟨⟨hbar, hpass⟩, hhere, hmore⟩
    · rintro ⟨⟨hbar, hpass⟩, hhere, hmore⟩
      exact ⟨⟨hhere, hbar⟩, hpass, hmore⟩

theorem enters_iff {top : Path} :
    w.enters top dir names = true ↔
      (openingText top names).utf8ByteSize < pathLimit ∧ w.IsPassable dir names ∧
        w.ShowsNames dir names := by
  rw [enters, Bool.and_eq_true, decide_eq_true_eq, isOpenAlong_iff]

theorem showsNames_of_faultless (h : w.faults = []) (dir : Location) (names : List String) :
    w.ShowsNames dir names := fun before _ => withheld?_of_faultless h (dir ++ before) .names

/-- A walk that arrives by names passed all of them. -/
theorem isPassable_of_descend {loc : Location} {e : Entry}
    (hnames : ∀ s ∈ names, stays s = false ∧ s ≠ "..")
    (h : w.descend dir names = .arrived loc e) : w.IsPassable dir names := by
  induction names generalizing dir with
  | nil => trivial
  | cons s rest ih =>
    obtain ⟨hstays, hback⟩ := hnames s List.mem_cons_self
    have hbar : w.barrier? dir s = none := barrier?_of_chase (chase_of_descend h 0)
    have hrest : rest = [] ∨ w.descend (dir ++ [s]) rest = .arrived loc e := by
      rw [descend_leading hbar (isLeading_of_barrier? hbar hstays hback)] at h
      split at h
      · split at h <;> cases h
      · exact .inr h
      · cases h
      · split at h
        · rename_i hend
          exact .inl hend
        · cases h
    rcases hrest with rfl | hwalk
    · exact ⟨hbar, trivial⟩
    · exact ⟨hbar, ih (fun t ht => hnames t (List.mem_cons_of_mem s ht)) hwalk⟩

end

/-! ## Below a directory -/

theorem mem_filesBelow {w : World} (hunique : (Pairs.keys w.entries).Nodup)
    (hlinks : w.IsLinkFree) {top : Path} {dir : Location} {names : List String} :
    names ∈ w.filesBelow top dir ↔
      names ≠ [] ∧ (∃ e, w.entry? (dir ++ names) = some e ∧ e ≠ .directory) ∧
        w.enters top dir names.dropLast = true := by
  have hstored : ∀ loc e, loc ≠ [] → ((loc, e) ∈ w.entries ↔ w.entry? loc = some e) := by
    intro loc e hloc
    rw [entry?_of_ne_nil w hloc, Pairs.fetch_eq_some_iff hunique]
  simp only [filesBelow, List.mem_filter, List.mem_map]
  constructor
  · rintro ⟨⟨⟨loc, e⟩, ⟨hmem, hlisted⟩, rfl⟩, henters⟩
    dsimp only at hlisted henters ⊢
    simp only [Bool.and_eq_true, decide_eq_true_eq, List.isPrefixOf_iff_prefix] at hlisted
    obtain ⟨⟨⟨more, rfl⟩, hlength⟩, hentry⟩ := hlisted
    rw [List.drop_left] at henters ⊢
    have hmore : more ≠ [] := by
      rintro rfl
      simp at hlength
    refine ⟨hmore, ⟨e, (hstored _ _ (by simp [hmore])).mp hmem, ?_⟩, henters⟩
    rintro rfl
    cases hentry
  · rintro ⟨hnames, ⟨e, hentry, hplain⟩, henters⟩
    have hmem := (hstored _ _ (by simp [hnames])).mpr hentry
    refine ⟨⟨(dir ++ names, e), ⟨hmem, ?_⟩, List.drop_left⟩, henters⟩
    have hlength : 0 < names.length := List.length_pos_iff.mpr hnames
    have hlisted : w.isListed (dir ++ names) e = true := by
      cases e with
      | directory => exact absurd rfl hplain
      | link target => cases hlinks _ hmem
      | _ => rfl
    simp [hlisted, hlength]

/-- A path leads to a directory, and names lead from there to an entry that is none. -/
structure Holds (w : World) (top : Path) (names : List String) (dir : Location) (e : Entry) :
    Prop where
  ne_nil : names ≠ []
  look : w.look top = .ok (dir, .directory)
  stored : w.entry? (dir ++ names) = some e
  plain : e ≠ .directory

section

variable {w : World} {top : Path} {names : List String} {dir : Location} {e : Entry}

theorem Holds.isFileName (htree : w.IsTree) (h : w.Holds top names dir e) :
    ∀ s ∈ names, IsFileName s := fun s hs =>
  htree.isFileName h.stored s (List.mem_append_right dir hs)

/-- A file that is found below a directory by names that lead down is stored there, and it is
listed if the names of all directories on the way can be. -/
theorem holds_of_look (hlinks : w.IsLinkFree) (hnames : names ≠ [])
    (hdown : ∀ s ∈ names, stays s = false ∧ s ≠ "..") {loc : Location} {content : Bytes}
    {time : FileTime}
    (h : w.look ⟨top.anchor, top.segments ++ names⟩ = .ok (loc, .file content time)) :
    ∃ dir, w.Holds top names dir (.file content time) ∧
      (w.enters top dir names.dropLast = true ↔ w.ShowsNames dir names.dropLast) := by
  obtain ⟨hrefusal, hwalk⟩ := (look_eq_ok_iff hlinks).mp h
  obtain ⟨hnul, hlimit⟩ := refusal?_eq_none_iff.mp hrefusal
  dsimp only at hnul hwalk
  have hlast : names.getLast hnames ≠ "" := by
    intro hempty
    have hstays := (hdown _ (List.getLast_mem hnames)).1
    rw [hempty] at hstays
    cases hstays
  have hopening := openingText_le top names.dropLast hlast
  rw [List.dropLast_concat_getLast hnames] at hopening
  -- the walk to the directory is the beginning of the walk to the file
  obtain ⟨dir, hdir, hrest⟩ := descend_of_append hnames hwalk
  have hpass := isPassable_of_descend hdown hrest
  rw [← List.dropLast_concat_getLast hnames] at hpass
  obtain rfl := arrived_of_descend hdown hrest
  have htop : refusal? top = none := by
    refine refusal?_eq_none_iff.mpr ⟨fun s hs => hnul s (List.mem_append_left names hs), ?_⟩
    have hless := toString_le_openingText top names.dropLast
    omega
  have hlook : w.look top = .ok (dir, .directory) := (look_eq_ok_iff hlinks).mpr ⟨htop, hdir⟩
  refine ⟨dir, ⟨hnames, hlook, entry?_of_look h, nofun⟩, ?_⟩
  rw [enters_iff, and_iff_right (Nat.lt_of_le_of_lt hopening hlimit),
    and_iff_right (isPassable_append.mp hpass).1]

end

end World

end TemplateLookup
