/-
# TemplateLookup.Proofs.Text.Pieces -- cutting and joining are inverse

`pieces` and `unite` are the standard library's splitting and intercalation, so
its lemmas carry over. A separator inside a text cuts the pieces of the text in
two (`pieces_append_sep`), no piece holds a separator (`not_mem_of_mem_pieces`), there is one piece
more than there are separators (`length_pieces`), and a joined list of such pieces is cut back into
the same list (`pieces_unite`). `joinWith` joins strings in the same way (`toList_joinWith`), with
a separator of any length (`mem_joinWith`). `cutAt` cuts a text in two, at the first separator
(`cutAt_eq_some_iff`).
-/

import TemplateLookup.Text.Pieces

namespace TemplateLookup.Text

variable {sep : Char}

/-! ## The library's splitting -/

theorem pieces_eq_splitOn (sep : Char) (cs : List Char) : pieces sep cs = cs.splitOn sep := by
  induction cs with
  | nil => rfl
  | cons c rest ih =>
    rw [pieces, List.splitOn_cons_eq_if_modifyHead, ih]
    by_cases h : c = sep
    · simp [h]
    · cases hs : rest.splitOn sep with
      | nil => exact absurd hs (List.splitOn_ne_nil sep rest)
      | cons p ps => simp [h]

theorem unite_eq_intercalate (sep : Char) : ∀ ps, unite sep ps = [sep].intercalate ps
  | [] => rfl
  | [p] => by simp [unite]
  | p :: q :: ps => by
    rw [unite, unite_eq_intercalate sep (q :: ps), List.intercalate_cons_cons]
    simp

/-! ## Pieces of a text with a separator in it -/

theorem pieces_append_sep (xs ys : List Char) :
    pieces sep (xs ++ sep :: ys) = pieces sep xs ++ pieces sep ys := by
  simp only [pieces_eq_splitOn]
  exact List.splitOn_append_cons_self xs ys

theorem pieces_sep_cons (ys : List Char) : pieces sep (sep :: ys) = [] :: pieces sep ys :=
  pieces_append_sep [] ys

theorem pieces_of_not_mem {cs : List Char} (h : sep ∉ cs) : pieces sep cs = [cs] := by
  rw [pieces_eq_splitOn]
  exact List.splitOn_eq_singleton h

/-- A segment between two separators is a piece of its own. -/
theorem pieces_append_segment {s : List Char} (hs : sep ∉ s) (xs ys : List Char) :
    pieces sep (xs ++ sep :: (s ++ sep :: ys)) = pieces sep xs ++ s :: pieces sep ys := by
  rw [pieces_append_sep, pieces_append_sep, pieces_of_not_mem hs, List.singleton_append]

theorem not_mem_of_mem_pieces {cs p : List Char} (h : p ∈ pieces sep cs) : sep ∉ p := by
  induction cs generalizing p with
  | nil =>
    simp only [pieces, List.mem_singleton] at h
    simp [h]
  | cons c rest ih =>
    by_cases hc : c = sep
    · subst hc
      rw [pieces_sep_cons] at h
      rcases List.mem_cons.mp h with rfl | h
      · exact List.not_mem_nil
      · exact ih h
    · -- the character joins the first piece and is no separator itself
      rw [pieces, if_neg hc] at h
      cases hp : pieces sep rest with
      | nil => exact absurd hp (pieces_ne_nil sep rest)
      | cons q qs =>
        rw [hp] at h ih
        rcases List.mem_cons.mp h with rfl | h
        · have hq : sep ∉ q := ih List.mem_cons_self
          simp [hq, Ne.symm hc]
        · exact ih (List.mem_cons_of_mem q h)

/-- There is one piece more than there are separators. -/
theorem length_pieces (sep : Char) (cs : List Char) :
    (pieces sep cs).length = cs.count sep + 1 := by
  induction cs with
  | nil => rfl
  | cons c rest ih =>
    by_cases hc : c = sep
    · subst hc
      rw [pieces_sep_cons, List.length_cons, ih, List.count_cons_self]
    · -- the character joins the first piece, and their number stays
      rw [List.count_cons_of_ne hc, pieces, if_neg hc, ← ih]
      cases hp : pieces sep rest with
      | nil => exact absurd hp (pieces_ne_nil sep rest)
      | cons p ps => rfl

/-! ## Joining -/

theorem unite_append {ps qs : List (List Char)} (hp : ps ≠ []) (hq : qs ≠ []) :
    unite sep (ps ++ qs) = unite sep ps ++ sep :: unite sep qs := by
  induction ps with
  | nil => exact absurd rfl hp
  | cons p ps ih =>
    cases ps with
    | nil =>
      cases qs with
      | nil => exact absurd rfl hq
      | cons q qs => rfl
    | cons r rs =>
      rw [List.cons_append, List.cons_append, unite, ← List.cons_append, ih (by simp), unite]
      simp

theorem pieces_unite {ps : List (List Char)} (hne : ps ≠ []) (h : ∀ p ∈ ps, sep ∉ p) :
    pieces sep (unite sep ps) = ps := by
  rw [pieces_eq_splitOn, unite_eq_intercalate]
  exact List.splitOn_intercalate sep h hne

/-- A joined text holds the characters of its pieces. -/
theorem subset_unite {ps : List (List Char)} {p : List Char} (h : p ∈ ps) :
    p ⊆ unite sep ps := by
  obtain ⟨left, right, rfl⟩ := List.append_of_mem h
  have hmiddle : p ⊆ unite sep (p :: right) := by
    cases right with
    | nil => exact List.Subset.refl p
    | cons q qs => exact List.subset_append_left p _
  cases left with
  | nil => exact hmiddle
  | cons r rs =>
    rw [unite_append (by simp) (by simp)]
    exact fun _ hc => List.mem_append_right _ (List.mem_cons_of_mem _ (hmiddle hc))

/-- A joined text holds nothing but separators and the characters of its pieces. -/
theorem mem_unite {ps : List (List Char)} {c : Char} (h : c ∈ unite sep ps) :
    c = sep ∨ ∃ p ∈ ps, c ∈ p := by
  induction ps with
  | nil => exact absurd h List.not_mem_nil
  | cons p ps ih =>
    cases ps with
    | nil => exact .inr ⟨p, List.mem_cons_self, h⟩
    | cons q qs =>
      rw [unite] at h
      rcases List.mem_append.mp h with hp | hrest
      · exact .inr ⟨p, List.mem_cons_self, hp⟩
      · rcases List.mem_cons.mp hrest with hsep | hmore
        · exact .inl hsep
        · rcases ih hmore with hsep | ⟨r, hr, hc⟩
          · exact .inl hsep
          · exact .inr ⟨r, List.mem_cons_of_mem p hr, hc⟩

theorem subset_of_mem_pieces {cs p : List Char} (h : p ∈ pieces sep cs) : p ⊆ cs := by
  have hsub : p ⊆ unite sep (pieces sep cs) := subset_unite h
  rwa [unite_pieces] at hsub

/-! ## Joined strings -/

theorem joinWith_append (sep : String) {xs ys : List String} (hx : xs ≠ []) (hy : ys ≠ []) :
    joinWith sep (xs ++ ys) = joinWith sep xs ++ sep ++ joinWith sep ys := by
  induction xs with
  | nil => exact absurd rfl hx
  | cons x xs ih =>
    cases xs with
    | nil =>
      cases ys with
      | nil => exact absurd rfl hy
      | cons y ys => rfl
    | cons z zs =>
      rw [List.cons_append, List.cons_append, joinWith, ← List.cons_append, ih (by simp),
        joinWith]
      simp only [String.append_assoc]

theorem toList_joinWith {text : String} (h : text.toList = [sep]) (ss : List String) :
    (joinWith text ss).toList = unite sep (ss.map String.toList) := by
  induction ss with
  | nil => rfl
  | cons s ss ih =>
    cases ss with
    | nil => rfl
    | cons t ts =>
      rw [joinWith, String.toList_append, String.toList_append, ih, h]
      simp [unite]

/-- Texts without the separator are the pieces of their joined text. -/
theorem pieces_joined {text : String} (htext : text.toList = [sep]) {ss : List String}
    (hne : ss ≠ []) (h : ∀ s ∈ ss, sep ∉ s.toList) :
    pieces sep (joinWith text ss).toList = ss.map String.toList := by
  rw [toList_joinWith htext]
  apply pieces_unite
  · simpa using hne
  · intro piece hpiece
    obtain ⟨s, hs, rfl⟩ := List.mem_map.mp hpiece
    exact h s hs

/-- A joined text holds nothing but the characters of the separator and of its parts. -/
theorem mem_joinWith {text : String} {ss : List String} {c : Char}
    (h : c ∈ (joinWith text ss).toList) : c ∈ text.toList ∨ ∃ s ∈ ss, c ∈ s.toList := by
  induction ss with
  | nil => exact absurd h List.not_mem_nil
  | cons s ss ih =>
    cases ss with
    | nil => exact .inr ⟨s, List.mem_cons_self, h⟩
    | cons t ts =>
      rw [joinWith, String.toList_append, String.toList_append] at h
      rcases List.mem_append.mp h with hfirst | hrest
      · rcases List.mem_append.mp hfirst with hs | htext
        · exact .inr ⟨s, List.mem_cons_self, hs⟩
        · exact .inl htext
      · rcases ih hrest with htext | ⟨r, hr, hc⟩
        · exact .inl htext
        · exact .inr ⟨r, List.mem_cons_of_mem s hr, hc⟩

/-- There are at least as many separators as the parts need. -/
theorem length_le_joinWith {text : String} (h : text ≠ "") (ss : List String) :
    ss.length ≤ (joinWith text ss).toList.length + 1 := by
  have hpos : 0 < text.toList.length := by
    rw [List.length_pos_iff, ne_eq, String.toList_eq_nil_iff]
    exact h
  induction ss with
  | nil => exact Nat.zero_le _
  | cons s ss ih =>
    cases ss with
    | nil => exact Nat.le_add_left 1 _
    | cons t ts =>
      rw [joinWith, String.toList_append, String.toList_append, List.length_append,
        List.length_append, List.length_cons]
      omega

/-- A text in which every line ends with a separator is cut into its lines, and nothing is left
behind the last one. -/
theorem split_lines {text : String} (htext : text.toList = [sep]) {lines : List String}
    (h : ∀ line ∈ lines, sep ∉ line.toList) :
    split sep (String.join (lines.map (· ++ text))) = lines ++ [""] := by
  induction lines with
  | nil => rfl
  | cons line lines ih =>
    have hline : pieces sep line.toList = [line.toList] :=
      pieces_of_not_mem (h line List.mem_cons_self)
    have hmore := ih fun other hother => h other (List.mem_cons_of_mem line hother)
    rw [split] at hmore ⊢
    rw [List.map_cons, String.join_cons, String.toList_append, String.toList_append, htext,
      List.append_assoc, List.singleton_append, pieces_append_sep, hline, List.map_append, hmore]
    simp

theorem utf8ByteSize_joinWith_append {xs ys : List String} (hx : xs ≠ []) (hy : ys ≠ []) :
    (joinWith "/" (xs ++ ys)).utf8ByteSize =
      (joinWith "/" xs).utf8ByteSize + 1 + (joinWith "/" ys).utf8ByteSize := by
  have hslash : "/".utf8ByteSize = 1 := rfl
  rw [joinWith_append "/" hx hy, String.utf8ByteSize_append, String.utf8ByteSize_append, hslash]

/-! ## Cutting once -/

theorem cutAt_eq_some_iff {cs before after : List Char} :
    cutAt sep cs = some (before, after) ↔ sep ∉ before ∧ cs = before ++ sep :: after := by
  induction cs generalizing before with
  | nil => simp [cutAt]
  | cons c rest ih =>
    rw [cutAt]
    by_cases hc : c = sep
    · subst hc
      rw [if_pos rfl]
      constructor
      · intro h
        cases h
        exact ⟨List.not_mem_nil, rfl⟩
      · rintro ⟨hfree, hcs⟩
        cases before with
        | nil => cases hcs; rfl
        | cons b more => cases hcs; exact absurd List.mem_cons_self hfree
    · rw [if_neg hc, Option.map_eq_some_iff]
      constructor
      · rintro ⟨⟨start, behind⟩, hcut, hsome⟩
        cases hsome
        obtain ⟨hfree, rfl⟩ := ih.mp hcut
        exact ⟨by simp [hfree, Ne.symm hc], rfl⟩
      · rintro ⟨hfree, hcs⟩
        cases before with
        | nil => cases hcs; exact absurd rfl hc
        | cons b more =>
          cases hcs
          refine ⟨(more, after), ih.mpr ⟨?_, rfl⟩, rfl⟩
          exact fun hmem => hfree (List.mem_cons_of_mem _ hmem)

theorem cutAt_eq_none_iff {cs : List Char} : cutAt sep cs = none ↔ sep ∉ cs := by
  constructor
  · intro hnone hmem
    obtain ⟨before, after, rfl, hfree⟩ := List.eq_append_cons_of_mem hmem
    rw [cutAt_eq_some_iff.mpr ⟨hfree, rfl⟩] at hnone
    cases hnone
  · intro hfree
    cases hcut : cutAt sep cs with
    | none => rfl
    | some cut =>
      obtain ⟨-, rfl⟩ := cutAt_eq_some_iff.mp hcut
      exact absurd (List.mem_append_right _ List.mem_cons_self) hfree

end TemplateLookup.Text
