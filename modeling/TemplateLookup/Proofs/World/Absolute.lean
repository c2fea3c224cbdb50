/-
# TemplateLookup.Proofs.World.Absolute -- paths from the top directory

In a tree a stored directory is where its path leads (`resolved_directory`), and it is found there
unless something other than absence stops the walk (`look_stored_directory`). The same holds for
what a relative path leads to, and the absolute path through the working directory
(`look_absolute_cases`).
-/

import TemplateLookup.Proofs.World.Tree

namespace TemplateLookup.World

variable {w : World}

/-- A path without steps back is its own lexical form. -/
theorem lexical_of_names {p : Path} (h : ∀ s ∈ p.segments, s ≠ "..") : p.lexical = p := by
  have hfold : ∀ (push : List String → String → List String),
      (∀ stack s, s ≠ ".." → push stack s = s :: stack) →
      ∀ (names stack : List String), (∀ s ∈ names, s ≠ "..") →
        names.foldl push stack = names.reverse ++ stack := by
    intro push hpush names stack hnames
    induction names generalizing stack with
    | nil => rfl
    | cons s rest ih =>
      rw [List.foldl_cons, hpush stack s (hnames s List.mem_cons_self), List.reverse_cons,
        List.append_assoc]
      exact ih (s :: stack) fun t ht => hnames t (List.mem_cons_of_mem s ht)
  unfold Path.lexical
  dsimp only
  rw [hfold _ (fun stack s hs => if_neg hs) p.segments [] h, List.append_nil, List.reverse_reverse]

theorem resolved_go (h : w.IsTree) {dir rest : Location}
    (hdir : w.entry? (dir ++ rest) = some .directory) :
    World.resolved.go w dir rest = ⟨.root, dir ++ rest⟩ := by
  induction rest generalizing dir with
  | nil => rw [resolved.go, List.append_nil]
  | cons s rest ih =>
    have hnames : ∀ t ∈ dir ++ s :: rest, t ≠ ".." := fun t ht => (h.isFileName hdir t ht).ne_back
    by_cases hbar : w.barrier? dir s = none
    · rw [List.append_cons] at hdir ⊢
      have hhere : w.entry? (dir ++ [s]) = some .directory := by
        by_cases hrest : rest = []
        · rwa [hrest, List.append_nil] at hdir
        · exact h.directory_above hdir hrest
      have hchase := chase_of_descend (h.descend_directory hhere ⟨hbar, trivial⟩) linkLimit
      simp only [resolved.go, hchase]
      exact ih hdir
    · -- what is barred is kept as it is written
      obtain ⟨cause, hcause⟩ := Option.ne_none_iff_exists'.mp hbar
      have hchase : w.chase linkLimit dir [s] = .refused cause := by
        rw [linkLimit, chase, descend_barred hcause]
      simp only [resolved.go, hchase]
      exact lexical_of_names hnames

/-- A stored directory is where its path leads. -/
theorem resolved_directory (h : w.IsTree) {loc : Location}
    (hdir : w.entry? loc = some .directory) : w.resolved ⟨.root, loc⟩ = ⟨.root, loc⟩ :=
  resolved_go h (show w.entry? ([] ++ loc) = some .directory from hdir)

theorem absolute_of_relative {p : Path} (h : p.isAbsolute = false) :
    w.absolute p = ⟨.root, w.here ++ p.segments⟩ := by
  rw [absolute, h, if_neg Bool.false_ne_true]

/-- A stored directory is found by its path, unless something other than absence stops the walk. -/
theorem look_stored_directory (h : w.IsTree) {loc : Location}
    (hdir : w.entry? loc = some .directory) :
    w.look ⟨.root, loc⟩ = .ok (loc, .directory) ∨
      ∃ cause, cause.isAbsence = false ∧ w.look ⟨.root, loc⟩ = .error cause := by
  have hdown : w.entry? ([] ++ loc) = some .directory := hdir
  have hrefusal := refusal?_of_names (p := ⟨.root, loc⟩) fun s hs => (h.isFileName hdir s hs).noNul
  split at hrefusal
  · exact .inr ⟨.nameTooLong, rfl, look_of_refusal hrefusal⟩
  · by_cases hpass : w.IsPassable [] loc
    · exact .inl (look_of_chase hrefusal (chase_of_descend (h.descend_directory hdown hpass) _))
    · obtain ⟨cause, hcause, hwalk⟩ := h.descend_barred_below hdown hpass
      have hstop : w.descend [] loc = .refused cause := by simpa using hwalk []
      have hwalked : w.walk ⟨.root, loc⟩ = .refused cause := by
        rw [walk, hrefusal]
        show w.chase linkLimit [] loc = _
        rw [linkLimit, chase, hstop]
      refine .inr ⟨cause, hcause, ?_⟩
      rw [look, hwalked]

/-- The absolute path leads where the relative one does, unless something other than absence stops
the walk through the working directory. -/
theorem look_absolute_cases (h : w.IsTree) (hhere : w.entry? w.here = some .directory) {p : Path}
    (hrelative : p.isAbsolute = false) (hp : refusal? p = none) :
    w.look (w.absolute p) = w.look p ∨
      ∃ cause, cause.isAbsence = false ∧ w.look (w.absolute p) = .error cause := by
  have hdown : w.entry? ([] ++ w.here) = some .directory := hhere
  have habsolute := absolute_of_relative (w := w) hrelative
  have hrefusal := refusal?_of_names (p := w.absolute p) (by
    intro s hs
    rw [habsolute] at hs
    rcases List.mem_append.mp hs with hs | hs
    · exact (h.isFileName hhere s hs).noNul
    · exact (refusal?_eq_none_iff.mp hp).1 s hs)
  split at hrefusal
  · exact .inr ⟨.nameTooLong, rfl, look_of_refusal hrefusal⟩
  have hwalk : w.walk (w.absolute p) = w.chase linkLimit [] (w.here ++ p.segments) := by
    rw [walk, hrefusal, habsolute]
    rfl
  by_cases hpass : w.IsPassable [] w.here
  · -- the walk goes through the working directory, and then along the relative path
    have hdescend : w.descend [] (w.here ++ p.segments) = w.descend w.here p.segments :=
      descend_append (h.descend_directory hdown hpass) p.segments
    have hchase : w.chase linkLimit [] (w.here ++ p.segments) =
        w.chase linkLimit w.here p.segments := by
      rw [linkLimit, chase, chase, hdescend]
    have hstart : w.startOf p = w.here := by
      rw [startOf, hrelative, if_neg Bool.false_ne_true]
    have hsame : w.walk (w.absolute p) = w.walk p := by
      rw [hwalk, hchase, walk, hp, hstart]
    exact .inl (by rw [look, look, hsame])
  · obtain ⟨cause, hcause, hbarred⟩ := h.descend_barred_below hdown hpass
    refine .inr ⟨cause, hcause, ?_⟩
    rw [look, hwalk, linkLimit, chase, hbarred]

end TemplateLookup.World
