/-
# TemplateLookup.Proofs.World.Walk -- where a walk arrives

A walk that arrives at a file arrives where that file is stored, whatever links it
followed (`entry?_of_look`). So what paths can lead to is what the world holds.
A segment is barred, stays, goes back or names an entry (`segment_cases`), and a walk
along a list of segments is a walk along its beginning and one from there
(`descend_append`, `descend_of_append`). Where nothing fails only names that are too long are
barred (`barrier?_of_faultless`).
In a world without links a path leads where its segments say (`look_eq_ok_iff`); with links a
walk can end with a name that is too long although the path has none (`look_of_long_link`).
-/

import TemplateLookup.Proofs.Pairs
import TemplateLookup.Proofs.Text.Pieces
import TemplateLookup.World.Files

namespace TemplateLookup

/-- Whether an entry is a link. -/
def Entry.isLink : Entry → Bool
  | .link _ => true
  | _ => false

namespace World

/-! ## What is stored -/

@[simp] theorem entry?_nil (w : World) : w.entry? [] = some .directory := rfl

theorem entry?_of_ne_nil (w : World) {loc : Location} (h : loc ≠ []) :
    w.entry? loc = Pairs.fetch loc w.entries := by
  rw [ entry?, if_neg h]

/-! ## One segment -/

/-- A segment that names an entry of the directory where the walk is. -/
structure IsLeading (s : String) : Prop where
  stays : stays s = false
  ne_back : s ≠ ".."
  short : s.utf8ByteSize ≤ longestName

section

variable {w : World} {dir loc : Location} {s : String} {rest : List String}

/-- A segment that is not barred, and neither stays nor goes back, names an entry. -/
theorem isLeading_of_barrier? (hbar : w.barrier? dir s = none) (hstays : stays s = false)
    (hback : s ≠ "..") : IsLeading s := by
  refine ⟨hstays, hback, ?_⟩
  have hne : s ≠ "" ∧ s ≠ "." := by simpa [stays] using hstays
  rw [barrier?, if_neg hne.1] at hbar
  split at hbar
  · cases hbar
  · rw [if_neg (by simp [hne.2, hback]), nameBarrier?] at hbar
    split at hbar
    · cases hbar
    · rename_i hlong
      exact Nat.not_lt.mp hlong

/-- A segment is barred, stays, goes back, or names an entry. -/
theorem segment_cases (w : World) (dir : Location) (s : String) :
    (∃ cause, w.barrier? dir s = some cause) ∨ (w.barrier? dir s = none ∧ stays s = true) ∨
      (w.barrier? dir s = none ∧ s = "..") ∨ (w.barrier? dir s = none ∧ IsLeading s) := by
  cases hbar : w.barrier? dir s with
  | some cause => exact .inl ⟨cause, rfl⟩
  | none =>
    by_cases hstays : stays s = true
    · exact .inr (.inl ⟨rfl, hstays⟩)
    · by_cases hback : s = ".."
      · exact .inr (.inr (.inl ⟨rfl, hback⟩))
      · have hleading := isLeading_of_barrier? hbar (by simpa using hstays) hback
        exact .inr (.inr (.inr ⟨rfl, hleading⟩))

theorem descend_barred {cause : Cause} (h : w.barrier? dir s = some cause) :
    w.descend dir (s :: rest) = .refused cause := by
  rw [descend, h]

theorem descend_stays (hbar : w.barrier? dir s = none) (h : stays s = true) :
    w.descend dir (s :: rest) = w.descend dir rest := by
  rw [descend, hbar]
  exact if_pos h

theorem descend_back (hbar : w.barrier? dir ".." = none) :
    w.descend dir (".." :: rest) = w.descend dir.dropLast rest := by
  rw [descend, hbar]
  rfl

theorem descend_leading (hbar : w.barrier? dir s = none) (h : IsLeading s) :
    w.descend dir (s :: rest) =
      match w.entry? (dir ++ [s]) with
      | none => if rest = [] then .vacant (dir ++ [s]) else .refused .missing
      | some .directory => w.descend (dir ++ [s]) rest
      | some (.link target) => .link dir target rest
      | some e => if rest = [] then .arrived (dir ++ [s]) e else .refused .notDirectory := by
  rw [descend, hbar]
  cases w.entry? (dir ++ [s]) with
  | none => simp [h.stays, h.ne_back]
  | some e => cases e <;> simp [h.stays, h.ne_back]

/-! ## Rights that nobody withholds -/

theorem withheld?_of_faultless (h : w.faults = []) (loc : Location) (right : Right) :
    w.withheld? loc right = none := by
  rw [withheld?, h]
  rfl

theorem nameBarrier?_of_faultless (h : w.faults = []) (dir : Location) (s : String) :
    w.nameBarrier? dir s = if longestName < s.utf8ByteSize then some .nameTooLong else none := by
  rw [nameBarrier?, withheld?_of_faultless h]

theorem not_isAbsence_of_withheld? {right : Right} {cause : Cause}
    (h : w.withheld? loc right = some cause) : cause.isAbsence = false := by
  obtain ⟨⟨text, fault⟩, -, hfault⟩ := List.exists_of_findSome?_eq_some h
  cases fault with
  | withheld r found =>
    dsimp only at hfault
    split at hfault
    · rename_i hmatch
      cases hfault
      exact hmatch.2.2
    · cases hfault
  | _ => cases hfault

/-- Rights depend on faults alone. -/
theorem barrier?_congr {w' : World} (h : w'.faults = w.faults) (dir : Location) (s : String) :
    w'.barrier? dir s = w.barrier? dir s := by
  simp only [barrier?, nameBarrier?, withheld?, h]

/-- What bars a segment is never that nothing is there. -/
theorem not_isAbsence_of_barrier? {cause : Cause} (h : w.barrier? dir s = some cause) :
    cause.isAbsence = false := by
  rw [barrier?] at h
  split at h
  · cases h
  · split at h
    · rename_i found hsearch
      cases h
      exact not_isAbsence_of_withheld? hsearch
    · split at h
      · cases h
      · rw [nameBarrier?] at h
        split at h
        · cases h
          rfl
        · exact not_isAbsence_of_withheld? h

/-- Where nothing fails, only names that are too long are barred. -/
theorem barrier?_of_faultless (h : w.faults = []) (dir : Location) (s : String) :
    w.barrier? dir s = if longestName < s.utf8ByteSize then some .nameTooLong else none := by
  rw [barrier?, withheld?_of_faultless h, nameBarrier?_of_faultless h]
  by_cases hempty : s = ""
  · subst hempty
    rfl
  · rw [if_neg hempty]
    by_cases hdots : s = "." ∨ s = ".."
    · rw [if_pos hdots]
      rcases hdots with rfl | rfl <;> rfl
    · exact if_neg hdots

theorem barrier?_of_leading (h : w.faults = []) (dir : Location) (hs : IsLeading s) :
    w.barrier? dir s = none := by
  rw [barrier?_of_faultless h]
  exact if_neg (Nat.not_lt.mpr hs.short)

/-- Where the search of a directory is not refused, a name that is too long is barred as such. -/
theorem barrier?_of_long (h : w.withheld? dir .search = none)
    (hlong : longestName < s.utf8ByteSize) : w.barrier? dir s = some .nameTooLong := by
  have hsize : ∀ t : String, t.utf8ByteSize ≤ longestName → s ≠ t := by
    intro t ht hs
    subst hs
    exact absurd hlong (Nat.not_lt.mpr ht)
  have hdots : ¬ (s = "." ∨ s = "..") := by
    rintro (hs | hs)
    · exact hsize "." (by decide) hs
    · exact hsize ".." (by decide) hs
  rw [barrier?, if_neg (hsize "" (by decide)), h]
  dsimp only
  rw [if_neg hdots, nameBarrier?, if_pos hlong]

/-! ## Ends of a path -/

theorem look_of_refusal {p : Path} {cause : Cause} (h : refusal? p = some cause) :
    w.look p = .error cause := by
  rw [look, walk, h]

theorem look_of_chase {p : Path} {e : Entry} (hp : refusal? p = none)
    (h : w.chase linkLimit (w.startOf p) p.segments = .arrived loc e) : w.look p = .ok (loc, e) := by
  rw [look, walk, hp]
  dsimp only
  rw [h]

theorem chase_of_look {p : Path} {e : Entry} (h : w.look p = .ok (loc, e)) :
    w.chase linkLimit (w.startOf p) p.segments = .arrived loc e := by
  rw [look] at h
  split at h
  · rename_i hwalk
    cases h
    rw [walk] at hwalk
    split at hwalk
    · cases hwalk
    · exact hwalk
  all_goals cases h

/-! ## Files at the end of a walk -/

theorem descend_file {content : Bytes} {time : FileTime} {segments : List String}
    (h : w.descend dir segments = .arrived loc (.file content time)) :
    w.entry? loc = some (.file content time) := by
  induction segments generalizing dir with
  | nil => cases h
  | cons s rest ih =>
    rcases segment_cases w dir s with ⟨cause, hbar⟩ | ⟨hbar, hs⟩ | ⟨hbar, rfl⟩ | ⟨hbar, hs⟩
    · rw [descend_barred hbar] at h
      cases h
    · rw [descend_stays hbar hs] at h
      exact ih h
    · rw [descend_back hbar] at h
      exact ih h
    · rw [descend_leading hbar hs] at h
      split at h
      · split at h <;> cases h
      · exact ih h
      · cases h
      · rename_i hentry
        split at h
        · cases h
          exact hentry
        · cases h

theorem chase_file {w : World} {links : Nat} {dir loc : Location} {segments : List String}
    {content : Bytes} {time : FileTime}
    (h : w.chase links dir segments = .arrived loc (.file content time)) :
    w.entry? loc = some (.file content time) := by
  induction links generalizing dir segments with
  | zero =>
    rw [chase] at h
    split at h
    · cases h
    · exact descend_file h
  | succ links ih =>
    rw [chase] at h
    split at h
    · exact ih h
    · exact descend_file h

/-- A file at the end of a path is stored where the walk arrives. -/
theorem entry?_of_look {w : World} {p : Path} {loc : Location} {content : Bytes}
    {time : FileTime} (h : w.look p = .ok (loc, .file content time)) :
    w.entry? loc = some (.file content time) :=
  chase_file (chase_of_look h)

/-- A file at the end of a path is stored somewhere. -/
theorem exists_entry_of_fileAt? {w : World} {p : Path} {content : Bytes} {time : FileTime}
    (h : w.fileAt? p = some (content, time)) :
    ∃ loc, w.entry? loc = some (.file content time) := by
  rw [fileAt?] at h
  split at h
  · rename_i loc found foundTime hlook
    cases h
    exact ⟨loc, entry?_of_look hlook⟩
  · cases h

theorem isFile_iff {w : World} {p : Path} :
    w.isFile p = true ↔ ∃ loc content time, w.look p = .ok (loc, .file content time) := by
  rw [isFile, fileAt?]
  constructor
  · intro h
    split at h
    · rename_i loc content time hlook
      exact ⟨loc, content, time, hlook⟩
    · cases h
  · rintro ⟨loc, content, time, hlook⟩
    rw [hlook]
    rfl

/-! ## Beginnings of a walk -/

/-- A walk with more segments than one begins with that walk and goes on from its end. -/
theorem descend_append_of_ne {ys : List String} (hys : ys ≠ []) (dir : Location)
    (xs : List String) :
    w.descend dir (xs ++ ys) =
      match w.descend dir xs with
      | .arrived loc .directory => w.descend loc ys
      | .arrived _ _ => .refused .notDirectory
      | .vacant _ => .refused .missing
      | .link holder target rest => .link holder target (rest ++ ys)
      | .refused cause => .refused cause := by
  induction xs generalizing dir with
  | nil => rfl
  | cons s rest ih =>
    have hmore : rest ++ ys ≠ [] := by simp [hys]
    rw [List.cons_append]
    rcases segment_cases w dir s with ⟨cause, hbar⟩ | ⟨hbar, hs⟩ | ⟨hbar, rfl⟩ | ⟨hbar, hs⟩
    · rw [descend_barred hbar, descend_barred hbar]
    · rw [descend_stays hbar hs, descend_stays hbar hs]
      exact ih dir
    · rw [descend_back hbar, descend_back hbar]
      exact ih dir.dropLast
    · rw [descend_leading hbar hs, descend_leading hbar hs]
      cases w.entry? (dir ++ [s]) with
      | none => by_cases hrest : rest = [] <;> simp [hrest, hmore, hys]
      | some e =>
        cases e with
        | directory => exact ih (dir ++ [s])
        | link target => rfl
        | file content time => by_cases hrest : rest = [] <;> simp [hrest, hmore, hys]
        | special => by_cases hrest : rest = [] <;> simp [hrest, hmore, hys]

/-- A walk that arrives at a directory goes on from there. -/
theorem descend_append {xs : List String} (h : w.descend dir xs = .arrived loc .directory)
    (ys : List String) : w.descend dir (xs ++ ys) = w.descend loc ys := by
  by_cases hys : ys = []
  · subst hys
    rw [List.append_nil, h]
    rfl
  · rw [descend_append_of_ne hys, h]

/-- A walk that arrives goes through a directory at each point before its end. -/
theorem descend_of_append {xs ys : List String} {e : Entry} (hys : ys ≠ [])
    (h : w.descend dir (xs ++ ys) = .arrived loc e) :
    ∃ middle, w.descend dir xs = .arrived middle .directory ∧
      w.descend middle ys = .arrived loc e := by
  rw [descend_append_of_ne hys] at h
  split at h
  · rename_i middle hmiddle
    exact ⟨middle, hmiddle, h⟩
  all_goals cases h

/-- A walk that needs no link is the walk that may follow links. -/
theorem chase_of_descend {segments : List String} {e : Entry}
    (h : w.descend dir segments = .arrived loc e) (links : Nat) :
    w.chase links dir segments = .arrived loc e := by
  unfold chase
  simp only [h]

/-- A walk that follows links goes through a directory at each point before its end as well. -/
theorem chase_of_append {links : Nat} {xs ys : List String} {e : Entry} (hys : ys ≠ [])
    (h : w.chase links dir (xs ++ ys) = .arrived loc e) :
    ∃ middle, w.chase links dir xs = .arrived middle .directory := by
  induction links generalizing dir xs with
  | zero =>
    rw [chase] at h
    split at h
    · cases h
    · obtain ⟨middle, hmiddle, -⟩ := descend_of_append hys h
      exact ⟨middle, chase_of_descend hmiddle 0⟩
  | succ links ih =>
    rw [chase] at h
    split at h
    · rename_i holder target left hlink
      rw [descend_append_of_ne hys] at hlink
      split at hlink
      · rename_i middle hmiddle
        exact ⟨middle, chase_of_descend hmiddle _⟩
      · cases hlink
      · cases hlink
      · -- the link is on the first part, and what is behind it comes after its target
        rename_i rest hfirst
        cases hlink
        rw [chase, hfirst]
        dsimp only at h ⊢
        rw [← List.append_assoc] at h
        exact ih h
      · cases hlink
    · obtain ⟨middle, hmiddle, -⟩ := descend_of_append hys h
      exact ⟨middle, chase_of_descend hmiddle _⟩

/-- Where a walk arrives, the first segment on it is not barred. -/
theorem barrier?_of_chase {links : Nat} {e : Entry}
    (hwalk : w.chase links dir (s :: rest) = .arrived loc e) : w.barrier? dir s = none := by
  cases hbar : w.barrier? dir s with
  | none => rfl
  | some cause =>
    unfold chase at hwalk
    simp [descend_barred hbar] at hwalk

/-- Where a walk arrives, the first name on it is stored. -/
theorem stored_of_chase {links : Nat} {dir loc : Location} {s : String} {rest : List String}
    {e : Entry} (hs : IsLeading s) (hwalk : w.chase links dir (s :: rest) = .arrived loc e) :
    ∃ found, w.entry? (dir ++ [s]) = some found := by
  cases hentry : w.entry? (dir ++ [s]) with
  | none =>
    have hbar := barrier?_of_chase hwalk
    unfold chase at hwalk
    rw [descend_leading hbar hs, hentry] at hwalk
    by_cases hrest : rest = [] <;> simp [hrest] at hwalk
  | some found => exact ⟨found, rfl⟩

/-- A walk that arrives goes down by each of its segments, if none stays or goes back. -/
theorem arrived_of_descend {names : List String} {e : Entry}
    (hnames : ∀ s ∈ names, stays s = false ∧ s ≠ "..")
    (h : w.descend dir names = .arrived loc e) : loc = dir ++ names := by
  induction names generalizing dir with
  | nil =>
    cases h
    rw [List.append_nil]
  | cons s rest ih =>
    obtain ⟨hstays, hback⟩ := hnames s List.mem_cons_self
    rcases segment_cases w dir s with ⟨cause, hbar⟩ | ⟨hbar, hs⟩ | ⟨hbar, rfl⟩ | ⟨hbar, hs⟩
    · rw [descend_barred hbar] at h
      cases h
    · rw [hstays] at hs
      cases hs
    · exact absurd rfl hback
    · rw [descend_leading hbar hs] at h
      split at h
      · split at h <;> cases h
      · rw [List.append_cons]
        exact ih (fun t ht => hnames t (List.mem_cons_of_mem s ht)) h
      · cases h
      · split at h
        · rename_i hrest
          cases h
          rw [hrest]
        · cases h

/-! ## Ends of a walk -/

/-- Only the last segment can be missing. -/
theorem descend_vacant {segments : List String} (h : w.descend dir segments = .vacant loc) :
    w.entry? loc = none ∧ ∃ above, ∃ s ∈ segments, loc = above ++ [s] ∧ IsLeading s := by
  induction segments generalizing dir with
  | nil => cases h
  | cons s rest ih =>
    have hlater : ∀ {dir}, w.descend dir rest = .vacant loc →
        w.entry? loc = none ∧ ∃ above, ∃ t ∈ s :: rest, loc = above ++ [t] ∧ IsLeading t := by
      intro dir hrest
      obtain ⟨hnone, above, t, ht, hloc, hleading⟩ := ih hrest
      exact ⟨hnone, above, t, List.mem_cons_of_mem s ht, hloc, hleading⟩
    rcases segment_cases w dir s with ⟨cause, hbar⟩ | ⟨hbar, hs⟩ | ⟨hbar, rfl⟩ | ⟨hbar, hs⟩
    · rw [descend_barred hbar] at h
      cases h
    · rw [descend_stays hbar hs] at h
      exact hlater h
    · rw [descend_back hbar] at h
      exact hlater h
    · rw [descend_leading hbar hs] at h
      split at h
      · rename_i hentry
        split at h
        · cases h
          exact ⟨hentry, dir, s, List.mem_cons_self, rfl, hs⟩
        · cases h
      · exact hlater h
      · cases h
      · split at h <;> cases h

/-- A walk is interrupted by a link that is stored, and goes on with what is left. -/
theorem descend_link {holder : Location} {segments left : List String} {target : String}
    (h : w.descend dir segments = .link holder target left) :
    (∃ loc, w.entry? loc = some (.link target)) ∧ left ⊆ segments := by
  induction segments generalizing dir with
  | nil => cases h
  | cons s rest ih =>
    have hlater : ∀ {dir}, w.descend dir rest = .link holder target left →
        (∃ loc, w.entry? loc = some (.link target)) ∧ left ⊆ s :: rest := by
      intro dir hrest
      obtain ⟨hstored, hsub⟩ := ih hrest
      exact ⟨hstored, fun t ht => List.mem_cons_of_mem s (hsub ht)⟩
    rcases segment_cases w dir s with ⟨cause, hbar⟩ | ⟨hbar, hs⟩ | ⟨hbar, rfl⟩ | ⟨hbar, hs⟩
    · rw [descend_barred hbar] at h
      cases h
    · rw [descend_stays hbar hs] at h
      exact hlater h
    · rw [descend_back hbar] at h
      exact hlater h
    · rw [descend_leading hbar hs] at h
      split at h
      · split at h <;> cases h
      · exact hlater h
      · rename_i hentry
        cases h
        exact ⟨⟨_, hentry⟩, List.subset_cons_self s left⟩
      · split at h <;> cases h

end

/-! ## Worlds without links -/

/-- The world has no links. -/
def IsLinkFree (w : World) : Prop := ∀ pair ∈ w.entries, pair.2.isLink = false

instance (w : World) : Decidable w.IsLinkFree :=
  inferInstanceAs (Decidable (∀ pair ∈ w.entries, pair.2.isLink = false))

section

variable {w : World}

theorem IsLinkFree.not_stored (h : w.IsLinkFree) (loc : Location) (target : String) :
    w.entry? loc ≠ some (.link target) := by
  intro hlink
  by_cases hloc : loc = []
  · subst hloc
    cases hlink
  · rw [entry?_of_ne_nil w hloc] at hlink
    cases h _ (Pairs.mem_of_fetch hlink)

theorem chase_of_linkFree (h : w.IsLinkFree) (links : Nat) (dir : Location)
    (segments : List String) : w.chase links dir segments = w.descend dir segments := by
  have hlink : ∀ holder target rest, w.descend dir segments ≠ .link holder target rest := by
    intro holder target rest hwalk
    obtain ⟨⟨loc, hstored⟩, -⟩ := descend_link hwalk
    exact h.not_stored loc target hstored
  cases links with
  | zero =>
    rw [chase]
    split
    · rename_i hwalk
      exact absurd hwalk (hlink _ _ _)
    · rfl
  | succ links =>
    rw [chase]
    split
    · rename_i hwalk
      exact absurd hwalk (hlink _ _ _)
    · rfl

/-- Without links a path leads where its segments say. -/
theorem look_eq_ok_iff (h : w.IsLinkFree) {p : Path} {loc : Location} {e : Entry} :
    w.look p = .ok (loc, e) ↔
      refusal? p = none ∧ w.descend (w.startOf p) p.segments = .arrived loc e := by
  rw [look, walk]
  cases refusal? p with
  | some cause =>
    constructor
    · intro hok
      cases hok
    · intro hok
      cases hok.1
  | none =>
    dsimp only
    rw [chase_of_linkFree h, and_iff_right rfl]
    cases w.descend (w.startOf p) p.segments with
    | arrived reached found =>
      constructor
      · intro hok
        cases hok
        rfl
      · intro hok
        cases hok
        rfl
    | vacant reached => exact iff_of_false nofun nofun
    | refused cause => exact iff_of_false nofun nofun
    | link holder target rest => exact iff_of_false nofun nofun

end

/-! ## Names that are too long -/

/-- A path is refused when the first link on it leads to a name that is too long. -/
theorem look_of_long_link {w : World} {p : Path} {dir : Location} {target : List Char}
    {rest : List String} (hp : refusal? p = none)
    (hlink : w.descend (w.startOf p) p.segments = .link dir (String.ofList target) rest)
    (hslash : '/' ∉ target) (hsearch : w.withheld? dir .search = none)
    (hlong : longestName < (String.ofList target).utf8ByteSize) :
    w.look p = .error .nameTooLong := by
  have hsplit : Text.split '/' (String.ofList target) = [String.ofList target] := by
    rw [Text.split, String.toList_ofList, Text.pieces_of_not_mem hslash]
    rfl
  have htarget : targetFrom dir (String.ofList target) = (dir, [String.ofList target]) := by
    have hhead : target.head? ≠ some '/' := fun h => hslash (List.mem_of_head? h)
    rw [targetFrom, hsplit, String.toList_ofList, if_neg hhead]
  have hchase : w.chase linkLimit (w.startOf p) p.segments = .refused .nameTooLong := by
    rw [linkLimit, chase, hlink]
    dsimp only
    rw [htarget]
    dsimp only
    rw [chase, List.singleton_append, descend_barred (barrier?_of_long hsearch hlong)]
  rw [look, walk, hp, hchase]

end World

end TemplateLookup
