/-
# TemplateLookup.Proofs.World.Tree -- the locations of a world form a tree

The entries of a world are a table of locations. They form a tree when no location has two
entries, all names are names that a file can have, and what holds an entry is a directory
(`IsTree`). An entry that is put into a directory keeps this, unless a directory gives way to
it (`IsTree.put`), and so does removing a location with all that is below it
(`IsTree.remove`). In a tree what is stored below a directory is reached from there by its
names, as far as none of them is barred (`IsTree.descend_entry`).
-/

import TemplateLookup.Proofs.Pairs
import TemplateLookup.Proofs.Path
import TemplateLookup.Proofs.World.Walk

namespace TemplateLookup

namespace World

/-! ## Names -/

/-- A name that a file can have. -/
structure IsFileName (name : String) : Prop where
  ne_empty : name ≠ ""
  ne_dot : name ≠ "."
  ne_back : name ≠ ".."
  noSlash : '/' ∉ name.toList
  noNul : '\x00' ∉ name.toList
  short : name.utf8ByteSize ≤ longestName

instance (name : String) : Decidable (IsFileName name) :=
  decidable_of_iff
    (name ≠ "" ∧ name ≠ "." ∧ name ≠ ".." ∧ '/' ∉ name.toList ∧ '\x00' ∉ name.toList ∧
      name.utf8ByteSize ≤ longestName)
    ⟨fun ⟨h1, h2, h3, h4, h5, h6⟩ => ⟨h1, h2, h3, h4, h5, h6⟩,
      fun ⟨h1, h2, h3, h4, h5, h6⟩ => ⟨h1, h2, h3, h4, h5, h6⟩⟩

theorem IsFileName.isLeading {name : String} (h : IsFileName name) : IsLeading name where
  stays := by simp [World.stays, h.ne_empty, h.ne_dot]
  ne_back := h.ne_back
  short := h.short

/-! ## Trees -/

/-- The locations of a world form a tree. -/
structure IsTree (w : World) : Prop where
  unique : (Pairs.keys w.entries).Nodup
  named : ∀ loc ∈ Pairs.keys w.entries, loc ≠ [] ∧ ∀ name ∈ loc, IsFileName name
  rooted : ∀ loc e, w.entry? loc = some e → w.entry? loc.dropLast = some .directory
  /-- No link has a target that cannot be followed as a text. -/
  targets : ∀ loc target, w.entry? loc = some (.link target) → '\x00' ∉ target.toList

section

variable {w : World} {loc place : Location} {e : Entry}

theorem entry?_put_self (w : World) (e : Entry) (h : loc ≠ []) :
    World.entry? (w.put loc e) loc = some e := by
  rw [entry?_of_ne_nil _ h, put, Pairs.fetch_store_self]

theorem entry?_put_of_ne (w : World) (e : Entry) (h : place ≠ loc) :
    World.entry? (w.put loc e) place = w.entry? place := by
  rw [ entry?, entry?, put, Pairs.fetch_store_of_ne _ _ h]

theorem entry?_remove (w : World) (loc : Location) (hplace : place ≠ []) :
    World.entry? (w.remove loc) place = if loc <+: place then none else w.entry? place := by
  rw [entry?_of_ne_nil _ hplace, entry?_of_ne_nil _ hplace, remove,
    Pairs.fetch_filter fun place => !isAtOrBelow loc place]
  by_cases hbelow : loc <+: place
  · have hunder : isAtOrBelow loc place = true := List.isPrefixOf_iff_prefix.mpr hbelow
    simp [hunder, hbelow]
  · have hunder : isAtOrBelow loc place = false := by
      rw [isAtOrBelow, ← Bool.not_eq_true, List.isPrefixOf_iff_prefix]
      exact hbelow
    simp [hunder, hbelow]

namespace IsTree

theorem mem_entries_iff (h : w.IsTree) (hloc : loc ≠ []) :
    (loc, e) ∈ w.entries ↔ w.entry? loc = some e := by
  rw [entry?_of_ne_nil w hloc, Pairs.fetch_eq_some_iff h.unique]

/-- All names on the way to what is stored are names that a file can have. -/
theorem isFileName (h : w.IsTree) (hstored : w.entry? loc = some e) :
    ∀ name ∈ loc, IsFileName name := by
  intro name hname
  have hne : loc ≠ [] := List.ne_nil_of_mem hname
  rw [entry?_of_ne_nil w hne] at hstored
  exact (h.named loc (Pairs.mem_keys_of_fetch hstored)).2 name hname

/-- Everything on the way to what is stored is a directory. -/
theorem directory_above (h : w.IsTree) {dir rest : Location}
    (hstored : w.entry? (dir ++ rest) = some e) (hrest : rest ≠ []) :
    w.entry? dir = some .directory := by
  induction rest generalizing dir with
  | nil => exact absurd rfl hrest
  | cons name more ih =>
    have hbelow : ∃ found, w.entry? (dir ++ [name]) = some found := by
      cases more with
      | nil => exact ⟨e, hstored⟩
      | cons next others =>
        rw [List.append_cons] at hstored
        exact ⟨.directory, ih hstored (by simp)⟩
    obtain ⟨found, hfound⟩ := hbelow
    have hparent := h.rooted _ _ hfound
    rwa [List.dropLast_concat] at hparent

/-! ### What a change keeps -/

/-- An entry may be put where a directory is above it and no directory gives way. -/
theorem put (h : w.IsTree) {dir : Location} {name : String}
    (hdir : w.entry? dir = some .directory) (hname : IsFileName name)
    (hfree : w.entry? (dir ++ [name]) ≠ some .directory)
    (htarget : ∀ target, e = .link target → '\x00' ∉ target.toList) :
    (w.put (dir ++ [name]) e).IsTree := by
  have hne : dir ++ [name] ≠ [] := by simp
  have hdirNe : dir ≠ dir ++ [name] := by simp
  refine ⟨Pairs.nodup_keys_store h.unique _ _, ?_, ?_, ?_⟩
  · intro place hplace
    have hcases : place = dir ++ [name] ∨ place ∈ Pairs.keys w.entries := by
      have hkeys := Pairs.keys_store (dir ++ [name]) e w.entries
      rw [World.put] at hplace
      rw [hkeys] at hplace
      split at hplace
      · exact .inr hplace
      · rcases List.mem_append.mp hplace with hold | hnew
        · exact .inr hold
        · exact .inl (List.mem_singleton.mp hnew)
    rcases hcases with rfl | hold
    · refine ⟨hne, ?_⟩
      intro part hpart
      rcases List.mem_append.mp hpart with habove | hlast
      · exact h.isFileName hdir part habove
      · rw [List.mem_singleton.mp hlast]
        exact hname
    · exact h.named place hold
  · intro place found hfound
    by_cases hplace : place = dir ++ [name]
    · subst hplace
      rw [List.dropLast_concat, entry?_put_of_ne w e hdirNe]
      exact hdir
    · rw [entry?_put_of_ne w e hplace] at hfound
      have habove := h.rooted place found hfound
      have hother : place.dropLast ≠ dir ++ [name] := by
        intro heq
        exact hfree (heq ▸ habove)
      rwa [entry?_put_of_ne w e hother]
  · intro place target hfound
    by_cases hplace : place = dir ++ [name]
    · subst hplace
      rw [entry?_put_self w e hne] at hfound
      exact htarget target (Option.some.inj hfound)
    · rw [entry?_put_of_ne w e hplace] at hfound
      exact h.targets place target hfound

theorem put_unlinked (h : w.IsTree) {dir : Location} {name : String}
    (hdir : w.entry? dir = some .directory) (hname : IsFileName name)
    (hfree : w.entry? (dir ++ [name]) ≠ some .directory) (he : e.isLink = false) :
    (w.put (dir ++ [name]) e).IsTree := by
  refine h.put hdir hname hfree ?_
  intro target heq
  rw [heq] at he
  cases he

/-- The content and the time of a file may change. -/
theorem put_file (h : w.IsTree) {content content' : Bytes} {time time' : FileTime}
    (hfile : w.entry? loc = some (.file content time)) :
    (w.put loc (.file content' time')).IsTree := by
  have hne : loc ≠ [] := by
    rintro rfl
    cases hfile
  have hsplit : loc.dropLast ++ [loc.getLast hne] = loc := List.dropLast_concat_getLast hne
  have hput : (w.put (loc.dropLast ++ [loc.getLast hne]) (.file content' time')).IsTree := by
    refine h.put_unlinked (h.rooted loc _ hfile) (h.isFileName hfile _ (List.getLast_mem hne))
      ?_ rfl
    rw [hsplit, hfile]
    simp
  rwa [hsplit] at hput

theorem remove (h : w.IsTree) (loc : Location) : (w.remove loc).IsTree := by
  have hsub : (w.remove loc).entries.Sublist w.entries := List.filter_sublist
  have hold : ∀ place found, place ≠ [] → World.entry? (w.remove loc) place = some found →
      ¬ loc <+: place ∧ w.entry? place = some found := by
    intro place found hne hfound
    rw [entry?_remove w loc hne] at hfound
    split at hfound
    · cases hfound
    · rename_i hbelow
      exact ⟨hbelow, hfound⟩
  refine ⟨(hsub.map _).nodup h.unique, ?_, ?_, ?_⟩
  · intro place hplace
    exact h.named place ((hsub.map _).subset hplace)
  · intro place found hfound
    by_cases habove : place.dropLast = []
    · rw [habove, entry?_nil]
    · have hne : place ≠ [] := by
        rintro rfl
        exact habove rfl
      obtain ⟨hbelow, hstored⟩ := hold place found hne hfound
      have hnot : ¬ loc <+: place.dropLast := fun hpre =>
        hbelow (hpre.trans (List.dropLast_prefix place))
      rw [entry?_remove w loc habove, if_neg hnot]
      exact h.rooted place found hstored
  · intro place target hfound
    have hne : place ≠ [] := by
      rintro rfl
      cases hfound
    exact h.targets place target (hold place _ hne hfound).2

/-- What stands beside the entries does not matter. -/
theorem congr {w' : World} (h : w.IsTree) (hentries : w'.entries = w.entries) : w'.IsTree := by
  have hentry : ∀ place, w'.entry? place = w.entry? place := by
    intro place
    rw [ entry?, entry?, hentries]
  refine ⟨hentries ▸ h.unique, hentries ▸ h.named, ?_, ?_⟩
  · intro place found hfound
    rw [hentry] at hfound ⊢
    exact h.rooted place found hfound
  · intro place target hfound
    rw [hentry] at hfound
    exact h.targets place target hfound

end IsTree

end

/-! ## Walks in a tree -/

/-- No name is barred on the way from a directory. -/
def IsPassable (w : World) : Location → List String → Prop
  | _, [] => True
  | dir, s :: rest => w.barrier? dir s = none ∧ IsPassable w (dir ++ [s]) rest

section

variable {w : World} {p : Path}

theorem refusal?_eq_none_iff :
    refusal? p = none ↔
      (∀ s ∈ p.segments, '\x00' ∉ s.toList) ∧ p.toString.utf8ByteSize < pathLimit := by
  rw [refusal?]
  by_cases hcut : (p.segments.any fun s => s.toList.contains '\x00') = true
  · rw [if_pos hcut]
    obtain ⟨s, hs, hnul⟩ := List.any_eq_true.mp hcut
    rw [List.contains_iff_mem] at hnul
    constructor
    · intro h
      cases h
    · intro h
      exact absurd hnul (h.1 s hs)
  · have hfree : ∀ s ∈ p.segments, '\x00' ∉ s.toList := by
      intro s hs hnul
      exact hcut (List.any_eq_true.mpr ⟨s, hs, List.contains_iff_mem.mpr hnul⟩)
    rw [if_neg hcut, and_iff_right hfree]
    by_cases hlong : pathLimit ≤ p.toString.utf8ByteSize
    · rw [if_pos hlong]
      constructor
      · intro h
        cases h
      · intro h
        exact absurd h (Nat.not_lt.mpr hlong)
    · rw [if_neg hlong]
      exact iff_of_true rfl (Nat.lt_of_not_le hlong)

/-- A path of names is refused only for its length. -/
theorem refusal?_of_names {p : Path} (h : ∀ s ∈ p.segments, '\x00' ∉ s.toList) :
    refusal? p = if pathLimit ≤ p.toString.utf8ByteSize then some .nameTooLong else none := by
  have hfree : ¬ (p.segments.any fun s => s.toList.contains '\x00') = true := by
    intro hcut
    obtain ⟨s, hs, hnul⟩ := List.any_eq_true.mp hcut
    exact h s hs (List.contains_iff_mem.mp hnul)
  rw [refusal?, if_neg hfree]

theorem targetFrom_snd (dir : Location) (target : String) :
    (targetFrom dir target).2 = Text.split '/' target := by
  simp only [targetFrom]
  split <;> rfl

theorem isPassable_append {dir : Location} {xs ys : List String} :
    w.IsPassable dir (xs ++ ys) ↔ w.IsPassable dir xs ∧ w.IsPassable (dir ++ xs) ys := by
  induction xs generalizing dir with
  | nil => simp [IsPassable]
  | cons s rest ih => simp [IsPassable, ih, and_assoc]

theorem isPassable_of_faultless (h : w.faults = []) {names : List String}
    (hnames : ∀ s ∈ names, IsLeading s) (dir : Location) : w.IsPassable dir names := by
  induction names generalizing dir with
  | nil => trivial
  | cons s rest ih =>
    exact ⟨barrier?_of_leading h dir (hnames s List.mem_cons_self),
      ih (fun t ht => hnames t (List.mem_cons_of_mem s ht)) (dir ++ [s])⟩

namespace IsTree

/-- What a walk leaves open has a name that a file can have. -/
theorem chase_vacant (h : w.IsTree) {links : Nat} {dir loc : Location} {segments : List String}
    (hsegments : ∀ s ∈ segments, '/' ∉ s.toList ∧ '\x00' ∉ s.toList)
    (hwalk : w.chase links dir segments = .vacant loc) :
    w.entry? loc = none ∧ ∃ above name, loc = above ++ [name] ∧ IsFileName name := by
  have hdirect : ∀ {dir segments}, (∀ s ∈ segments, '/' ∉ s.toList ∧ '\x00' ∉ s.toList) →
      w.descend dir segments = .vacant loc →
      w.entry? loc = none ∧ ∃ above name, loc = above ++ [name] ∧ IsFileName name := by
    intro dir segments hsegments hvacant
    obtain ⟨hnone, above, s, hs, rfl, hleading⟩ := descend_vacant hvacant
    have hshape : s ≠ "" ∧ s ≠ "." := by simpa [stays] using hleading.stays
    exact ⟨hnone, above, s, rfl, hshape.1, hshape.2, hleading.ne_back, (hsegments s hs).1,
      (hsegments s hs).2, hleading.short⟩
  induction links generalizing dir segments with
  | zero =>
    rw [chase] at hwalk
    split at hwalk
    · cases hwalk
    · exact hdirect hsegments hwalk
  | succ links ih =>
    rw [chase] at hwalk
    split at hwalk
    · rename_i holder target rest hlink
      obtain ⟨⟨place, hstored⟩, hrest⟩ := descend_link hlink
      have htarget := h.targets place target hstored
      have hnext : w.chase links (targetFrom holder target).1
          (Text.split '/' target ++ rest) = .vacant loc := by
        rw [← targetFrom_snd holder target]
        exact hwalk
      refine ih ?_ hnext
      intro s hs
      rcases List.mem_append.mp hs with hs | hs
      · -- a piece of the target holds no slash, and no other character than the target
        obtain ⟨piece, hmem, rfl⟩ := List.mem_map.mp hs
        rw [String.toList_ofList]
        exact ⟨Text.not_mem_of_mem_pieces hmem,
          fun hnul => htarget (Text.subset_of_mem_pieces hmem hnul)⟩
      · exact hsegments s (hrest hs)
    · exact hdirect hsegments hwalk

/-- Where a walk by a name arrives, it starts from a directory. -/
theorem directory_of_chase (h : w.IsTree) {links : Nat} {dir loc : Location} {s : String}
    {rest : List String} {e : Entry} (hs : IsLeading s)
    (hwalk : w.chase links dir (s :: rest) = .arrived loc e) : w.entry? dir = some .directory := by
  obtain ⟨found, hentry⟩ := stored_of_chase hs hwalk
  have hparent := h.rooted _ _ hentry
  rwa [List.dropLast_concat] at hparent

/-- What is stored below a directory is reached from it by the names, unless it is a link or one
of the names is barred. -/
theorem descend_entry (h : w.IsTree) {dir names : List String} {e : Entry}
    (hstored : w.entry? (dir ++ names) = some e) (hlink : e.isLink = false)
    (hnone : names = [] → e = .directory) (hpass : w.IsPassable dir names) :
    w.descend dir names = .arrived (dir ++ names) e := by
  induction names generalizing dir with
  | nil =>
    rw [hnone rfl, List.append_nil]
    rfl
  | cons name rest ih =>
    have hname : IsFileName name := h.isFileName hstored name (by simp)
    rw [descend_leading hpass.1 hname.isLeading]
    cases rest with
    | nil =>
      cases e with
      | link target => cases hlink
      | directory =>
        simp only [hstored]
        rfl
      | _ => simp only [hstored, if_true]
    | cons next more =>
      rw [List.append_cons dir name (next :: more)] at hstored ⊢
      have habove := h.directory_above hstored (by simp)
      simp only [habove]
      exact ih hstored (by simp) hpass.2

theorem descend_directory (h : w.IsTree) {dir names : List String}
    (hdir : w.entry? (dir ++ names) = some .directory) (hpass : w.IsPassable dir names) :
    w.descend dir names = .arrived (dir ++ names) .directory :=
  h.descend_entry hdir rfl (fun _ => rfl) hpass

/-- A walk down to a stored directory is refused where a name is barred, and so is every walk that
goes on from there. -/
theorem descend_barred_below (h : w.IsTree) {dir names : List String}
    (hdir : w.entry? (dir ++ names) = some .directory) (hpass : ¬ w.IsPassable dir names) :
    ∃ cause, cause.isAbsence = false ∧
      ∀ more, w.descend dir (names ++ more) = .refused cause := by
  induction names generalizing dir with
  | nil => exact absurd trivial hpass
  | cons name rest ih =>
    cases hbar : w.barrier? dir name with
    | some cause =>
      exact ⟨cause, not_isAbsence_of_barrier? hbar, fun more => descend_barred hbar⟩
    | none =>
      have hname : IsFileName name := h.isFileName hdir name (by simp)
      rw [List.append_cons] at hdir
      have hhere : w.entry? (dir ++ [name]) = some .directory := by
        by_cases hrest : rest = []
        · rwa [hrest, List.append_nil] at hdir
        · exact h.directory_above hdir hrest
      obtain ⟨cause, hcause, hwalk⟩ := ih hdir fun hrest => hpass ⟨hbar, hrest⟩
      refine ⟨cause, hcause, ?_⟩
      intro more
      rw [List.cons_append, descend_leading hbar hname.isLeading]
      simp only [hhere]
      exact hwalk more

end IsTree

end

/-! ## Worlds that are given by their entries -/

/-- Without links it is enough to look at each entry. -/
theorem isTree_of_entries {w : World} (hunique : (Pairs.keys w.entries).Nodup)
    (hlinks : w.IsLinkFree)
    (h : ∀ pair ∈ w.entries, pair.1 ≠ [] ∧ (∀ name ∈ pair.1, IsFileName name) ∧
      w.entry? pair.1.dropLast = some .directory) : w.IsTree := by
  refine ⟨hunique, ?_, ?_, ?_⟩
  · intro loc hloc
    obtain ⟨pair, hpair, rfl⟩ := List.mem_map.mp hloc
    exact ⟨(h pair hpair).1, (h pair hpair).2.1⟩
  · intro loc e he
    by_cases hloc : loc = []
    · subst hloc
      rfl
    · rw [entry?_of_ne_nil w hloc] at he
      exact (h (loc, e) (Pairs.mem_of_fetch he)).2.2
  · intro loc target he
    exact absurd he (hlinks.not_stored loc target)

/-- The world in which sessions start is a tree. -/
theorem isTree_empty {name : String} (h : IsFileName name) : (World.empty [name]).IsTree := by
  have hentries : (World.empty [name]).entries = [([name], .directory)] := rfl
  have hone : ∀ pair ∈ (World.empty [name]).entries, pair = ([name], .directory) := by
    intro pair hpair
    rw [hentries] at hpair
    exact List.mem_singleton.mp hpair
  refine isTree_of_entries (by simp [hentries, Pairs.keys]) ?_ ?_
  · intro pair hpair
    rw [hone pair hpair]
    rfl
  · intro pair hpair
    rw [hone pair hpair]
    refine ⟨by simp, ?_, rfl⟩
    intro part hpart
    rw [List.mem_singleton.mp hpart]
    exact h

end World

end TemplateLookup
