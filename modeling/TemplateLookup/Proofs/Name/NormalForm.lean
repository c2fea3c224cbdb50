/-
# TemplateLookup.Proofs.Name.NormalForm -- shortening a name is walking it

Bringing a name into normal form by shortening its text gives what the walk
through its pieces gives (`normalChars_eq_walked`). The text on which the loop over
`..` starts is `Prepared`: it begins with a slash, has no piece that stays between
two slashes, and ends on a directory or an ordinary piece. Shortening keeps that,
and a prepared text without `..` is its own normal form. `normal?_walks` adds
which names have no normal form and what the others look like.
-/

import TemplateLookup.Proofs.Name.Loops

namespace TemplateLookup.Name

open TemplateLookup.Text

/-! ## Texts that are walked already -/

/-- The pieces of a text that begins with a slash. -/
theorem pieces_of_slash {cs : List Char} (h : cs.head? = some '/') :
    pieces '/' cs = [] :: (inner cs ++ [lastPiece cs]) := by
  cases cs with
  | nil => cases h
  | cons c rest =>
    injection h with hc
    subst hc
    have hne := pieces_ne_nil '/' rest
    have hlast : lastPiece ('/' :: rest) = (pieces '/' rest).getLast hne := by
      have happend := lastPiece_append_slash [] rest
      rw [List.nil_append] at happend
      rw [happend, lastPiece, List.getLastD_eq_getLast?, List.getLast?_eq_some_getLast hne,
        Option.getD_some]
    rw [hlast, inner, pieces_sep_cons, List.tail_cons, List.dropLast_concat_getLast]

/-- A text of ordinary pieces is the normal form of its own walk. -/
theorem route_eq_self {cs : List Char} (hslash : cs.head? = some '/')
    (hinner : ∀ p ∈ inner cs, IsOrdinary p)
    (hlast : lastPiece cs = [] ∨ IsOrdinary (lastPiece cs)) : route cs = some cs := by
  have hps := pieces_of_slash hslash
  have hcs : cs = '/' :: unite '/' (inner cs ++ [lastPiece cs]) := by
    have hunite := unite_pieces '/' cs
    rw [hps, ← List.singleton_append, unite_append (by simp) (by simp)] at hunite
    simpa [unite] using hunite.symm
  have hwritten : ∀ stack, written (pieces '/' cs) stack = '/' :: unite '/' stack.reverse ++
      (if stack ≠ [] ∧ staysInDirectory (lastPiece cs) then ['/'] else []) := by
    intro stack
    rw [written, lastPiece]
  have hwalk : walk (pieces '/' cs) = (follow (inner cs).reverse (lastPiece cs)) := by
    rw [hps, walk, List.foldlM_cons, follow_empty]
    simp only [bind, Option.bind_some, List.foldlM_append, foldlM_follow_ordinary hinner,
      List.append_nil, List.foldlM_cons, List.foldlM_nil, pure, Option.bind_fun_some]
  rcases hlast with hnil | hord
  · -- a slash at the end is written again, and the text that is one slash has no other
    rw [route, hwalk, hnil, follow_empty, Option.map_some, hwritten, List.reverse_reverse]
    rw [hnil] at hcs ⊢
    by_cases hi : inner cs = []
    · rw [hi] at hcs ⊢
      simpa [unite] using hcs.symm
    · rw [unite_append hi (by simp)] at hcs
      simpa [hi, staysInDirectory, unite] using hcs.symm
  · rw [route, hwalk, follow_ordinary hord, Option.map_some, hwritten, List.reverse_cons,
      List.reverse_reverse]
    have hno : ¬ staysInDirectory (lastPiece cs) = true := by simpa [IsOrdinary] using hord
    rw [if_neg (fun hc => hno hc.2), List.append_nil, ← hcs]

/-! ## The loop over `..` -/

/-- The texts on which the loop over `..` works. -/
structure Prepared (cs : List Char) : Prop where
  slash : cs.head? = some '/'
  inner : ∀ p ∈ inner cs, p ≠ [] ∧ p ≠ ['.']
  last : lastPiece cs = [] ∨ IsOrdinary (lastPiece cs)

theorem Prepared.shortens {cs short : List Char} (h : Prepared cs) (hs : Shortens cs short) :
    Prepared short where
  slash := hs.head_eq.trans h.slash
  inner := fun p hp => h.inner p (hs.inner_subset p hp)
  last := by
    rw [hs.last_eq]
    exact h.last

/-- A prepared text with nothing before its first `..` is refused by the walk. -/
theorem Prepared.route_climbs {cs before after : List Char} (h : Prepared cs)
    (hbefore : '/' ∉ before) (hcs : cs = before ++ '/' :: (['.', '.'] ++ '/' :: after)) :
    route cs = none := by
  have hnil : before = [] := by
    cases before with
    | nil => rfl
    | cons c rest =>
      have hslash := h.slash
      rw [hcs] at hslash
      injection hslash with hc
      exact absurd (hc ▸ List.mem_cons_self) hbefore
  have hback : '/' ∉ ['.', '.'] := by decide
  rw [route, hcs, hnil, pieces_append_segment hback]
  rfl

/-- A segment of a prepared text that is no `..` leads down. -/
theorem Prepared.isOrdinary {cs segment : List Char} (h : Prepared cs) (hmem : segment ∈ Name.inner cs)
    (hne : segment ≠ ['.', '.']) : IsOrdinary segment := by
  obtain ⟨h0, h1⟩ := h.inner segment hmem
  exact (isOrdinary_iff segment).mpr ⟨h0, h1, hne⟩

/-- A prepared text without `..` is its own normal form. -/
theorem Prepared.route_settled {cs : List Char} (h : Prepared cs) (hturn : turn cs = .settled) :
    route cs = some cs := by
  apply route_eq_self h.slash _ h.last
  -- what is left between slashes neither stays nor goes back
  intro p hp
  apply h.isOrdinary hp
  rintro rfl
  exact turn_settled hturn hp

/-- The segment before the `..` is ordinary, so the walk leaves it again at once. -/
theorem Prepared.again {cs rest : List Char} (h : Prepared cs) (hturn : turn cs = .again rest) :
    Shortens cs rest ∧ rest.length < cs.length := by
  obtain ⟨before, segment, after, hseg, hne, hcs, hrest⟩ := turn_again hturn
  have hmem : segment ∈ Name.inner cs := by
    rw [mem_inner_iff hseg, hcs]
    exact ⟨before, ['.', '.'] ++ '/' :: after, by simp⟩
  have hord := h.isOrdinary hmem hne
  rw [hcs, hrest]
  constructor
  · exact Shortens.turn hord hseg before after
  · simp only [List.length_append, List.length_cons]
    omega

theorem ascend_eq_route (n : Nat) (cs : List Char) (hn : cs.length ≤ n) (h : Prepared cs) :
    ascend n cs = route cs := by
  induction n generalizing cs with
  | zero =>
    have hnil := List.length_eq_zero_iff.mp (Nat.le_zero.mp hn)
    have hslash := h.slash
    rw [hnil] at hslash
    cases hslash
  | succ n ih =>
    cases hturn : turn cs with
    | settled => rw [ascend, hturn, h.route_settled hturn]
    | climbs =>
      obtain ⟨before, after, hbefore, hcs⟩ := turn_climbs hturn
      rw [ascend, hturn, h.route_climbs hbefore hcs]
    | again rest =>
      obtain ⟨hshort, hlength⟩ := h.again hturn
      rw [ascend, hturn]
      exact (ih rest (by omega) (h.shortens hshort)).trans hshort.route_eq

/-! ## Opening and closing the text -/

theorem head?_anchored (cs : List Char) : (anchored cs).head? = some '/' := by
  unfold anchored
  split <;> rfl

theorem route_anchored (cs : List Char) : route (anchored cs) = route cs := by
  unfold anchored
  split
  · rfl
  · have hwalk : walk (pieces '/' ('/' :: cs)) = walk (pieces '/' cs) := by
      rw [pieces_sep_cons]
      exact walk_skip (.inl rfl) [] (pieces '/' cs)
    have hlast : lastPiece ('/' :: cs) = lastPiece cs := lastPiece_append_slash [] cs
    exact route_congr hwalk (by rw [hlast])

theorem endsWith_iff (ending cs : List Char) : endsWith ending cs = true ↔ ending <:+ cs := by
  rw [endsWith, List.isPrefixOf_iff_prefix, List.reverse_prefix]

/-- A text with a slash ends with a slash and a segment exactly when the segment is
its last piece. -/
theorem lastPiece_eq_iff {cs segment : List Char} (hslash : cs.head? = some '/')
    (hs : '/' ∉ segment) : lastPiece cs = segment ↔ '/' :: segment <:+ cs := by
  constructor
  · intro h
    have hunite := unite_pieces '/' cs
    rw [pieces_of_slash hslash, h, ← List.cons_append, unite_append (by simp) (by simp)] at hunite
    exact ⟨_, hunite⟩
  · rintro ⟨before, rfl⟩
    rw [lastPiece_append_slash, lastPiece, pieces_of_not_mem hs]
    rfl

/-- Closing a text keeps its walk and leaves no `.` or `..` at its end. -/
theorem closed_spec {cs : List Char} (hslash : cs.head? = some '/') :
    (closed cs).head? = some '/' ∧ route (closed cs) = route cs ∧
      (lastPiece (closed cs) = [] ∨ IsOrdinary (lastPiece (closed cs))) := by
  have hends : (endsWith "/.".toList cs || endsWith "/..".toList cs) = true ↔
      lastPiece cs = ['.'] ∨ lastPiece cs = ['.', '.'] := by
    rw [Bool.or_eq_true, endsWith_iff, endsWith_iff, lastPiece_eq_iff hslash (by decide),
      lastPiece_eq_iff hslash (by decide)]
    exact Iff.rfl
  by_cases h : lastPiece cs = ['.'] ∨ lastPiece cs = ['.', '.']
  · rw [closed, if_pos (hends.mpr h)]
    have hhead : (cs ++ ['/']).head? = some '/' := by simp [List.head?_append, hslash]
    have hlast : lastPiece (cs ++ ['/']) = [] := lastPiece_append_slash cs []
    refine ⟨hhead, route_congr ?_ ?_, .inl hlast⟩
    · -- the slash at the end adds an empty piece, which stays
      rw [pieces_append_sep, pieces]
      have hskip := walk_skip (.inl rfl) (pieces '/' cs) []
      rwa [List.append_nil] at hskip
    · rw [hlast]
      rcases h with h | h <;> rw [h] <;> rfl
  · rw [closed, if_neg (fun hc => h (hends.mp hc))]
    refine ⟨hslash, rfl, ?_⟩
    rcases piece_cases (lastPiece cs) with (h0 | h1) | h2 | hord
    · exact .inl h0
    · exact absurd (.inl h1) h
    · exact absurd (.inr h2) h
    · exact .inr hord

theorem prepared_spec (cs : List Char) :
    Prepared (prepared cs) ∧ route (prepared cs) = route cs := by
  obtain ⟨hslash, hroute, hlast⟩ := closed_spec (head?_anchored cs)
  rw [route_anchored] at hroute
  obtain ⟨hsqueeze, hempty⟩ := squeeze_spec (closed (anchored cs))
  obtain ⟨hundot, hdot⟩ := undot_spec
    (squeeze (closed (anchored cs)).length (closed (anchored cs)))
  have hshort := hsqueeze.trans hundot
  refine ⟨⟨hshort.head_eq.trans hslash, ?_, ?_⟩, hshort.route_eq.trans hroute⟩
  · intro p hp
    constructor
    · rintro rfl
      exact hempty (hundot.inner_subset [] hp)
    · rintro rfl
      exact hdot hp
  · rw [prepared, hshort.last_eq]
    exact hlast

/-! ## The normal form is the walk -/

theorem normalChars_eq_walked (cs : List Char) : normalChars cs = walked cs := by
  rw [normalChars, walked_eq_route]
  by_cases h : forward cs = "/.".toList
  · rw [if_pos h, h]
    rfl
  · obtain ⟨hprepared, hroute⟩ := prepared_spec (forward cs)
    rw [if_neg h]
    exact (ascend_eq_route _ _ (Nat.le_refl _) hprepared).trans hroute

/-- What a normal form looks like: it begins with a slash, holds no backslash, no two
slashes in a row, and no segment `.` or `..`. -/
structure IsNormal (cs : List Char) : Prop where
  slash : cs.head? = some '/'
  noBackslash : '\\' ∉ cs
  noGap : [] ∉ inner cs
  noDot : ['.'] ∉ pieces '/' cs
  noBack : ['.', '.'] ∉ pieces '/' cs

theorem backslash_not_mem_forward (cs : List Char) : '\\' ∉ forward cs := by
  intro h
  obtain ⟨c, -, hc⟩ := List.mem_map.mp h
  by_cases hb : c = '\\'
  · rw [if_pos hb] at hc
    cases hc
  · rw [if_neg hb] at hc
    exact hb hc

theorem pieces_written {stack : List (List Char)} (h : ∀ s ∈ stack, '/' ∉ s)
    (ps : List (List Char)) :
    pieces '/' (written ps stack) = [] :: (if stack = [] then [[]] else
      stack.reverse ++ if staysInDirectory (ps.getLastD []) then [[]] else []) := by
  have hrev : ∀ s ∈ stack.reverse, '/' ∉ s := fun s hs => h s (List.mem_reverse.mp hs)
  rw [written, List.cons_append, pieces_sep_cons]
  by_cases hs : stack = []
  · simp [hs, unite, pieces]
  · have hne : stack.reverse ≠ [] := by simpa using hs
    by_cases hlast : staysInDirectory (ps.getLastD []) = true
    · rw [if_pos ⟨hs, hlast⟩, if_neg hs, if_pos hlast, pieces_append_sep,
        pieces_unite hne hrev, pieces]
    · rw [if_neg (fun hc => hlast hc.2), if_neg hs, if_neg hlast, List.append_nil,
        List.append_nil, pieces_unite hne hrev]

/-- A written walk has no pieces but its segments and empty ones at its ends. -/
theorem mem_pieces_written {stack : List (List Char)} (h : ∀ s ∈ stack, '/' ∉ s)
    (ps : List (List Char)) : ∀ p ∈ pieces '/' (written ps stack), p = [] ∨ p ∈ stack := by
  intro p hp
  rw [pieces_written h] at hp
  rcases List.mem_cons.mp hp with hnil | hp
  · exact .inl hnil
  · by_cases hs : stack = []
    · rw [if_pos hs] at hp
      exact .inl (List.mem_singleton.mp hp)
    · rw [if_neg hs] at hp
      rcases List.mem_append.mp hp with hp | hp
      · exact .inr (List.mem_reverse.mp hp)
      · split at hp
        · exact .inl (List.mem_singleton.mp hp)
        · exact absurd hp List.not_mem_nil

theorem isNormal_of_walked {cs location : List Char} (h : walked cs = some location) :
    IsNormal location := by
  obtain ⟨stack, hwalk, rfl⟩ := Option.map_eq_some_iff.mp h
  have hmem := walk_ordinary hwalk
  have hslash : ∀ s ∈ stack, '/' ∉ s := fun s hs => not_mem_of_mem_pieces (hmem s hs).1
  have hpiece := mem_pieces_written hslash (pieces '/' (forward cs))
  refine ⟨rfl, ?_, ?_, ?_, ?_⟩
  · -- the segments come from a text without backslashes
    intro hb
    have hparts : '\\' ∈ unite '/' stack.reverse := by
      rw [written, List.cons_append] at hb
      rcases List.mem_cons.mp hb with hb | hb
      · cases hb
      · rcases List.mem_append.mp hb with hb | hb
        · exact hb
        · split at hb <;> simp at hb
    rcases mem_unite hparts with hb | ⟨s, hs, hb⟩
    · cases hb
    · have hfrom := subset_of_mem_pieces (hmem s (List.mem_reverse.mp hs)).1
      exact backslash_not_mem_forward cs (hfrom hb)
  · -- an empty piece between two slashes would be a segment
    intro hgap
    rw [inner, pieces_written hslash, List.tail_cons] at hgap
    by_cases hs : stack = []
    · simp [hs] at hgap
    · rw [if_neg hs] at hgap
      have hin : [] ∈ stack := by
        split at hgap
        · rw [List.dropLast_concat] at hgap
          exact List.mem_reverse.mp hgap
        · rw [List.append_nil] at hgap
          exact List.mem_reverse.mp (List.mem_of_mem_dropLast hgap)
      exact absurd (hmem [] hin).2 (by decide)
  · intro hdot
    rcases hpiece _ hdot with hnil | hin
    · cases hnil
    · exact absurd (hmem _ hin).2 (by decide)
  · intro hback
    rcases hpiece _ hback with hnil | hin
    · cases hnil
    · exact absurd (hmem _ hin).2 (by decide)

theorem normal?_eq_some_iff (name location : String) :
    normal? name = some location ↔ walked name.toList = some location.toList := by
  rw [normal?, normalChars_eq_walked, Option.map_eq_some_iff]
  constructor
  · rintro ⟨cs, hcs, rfl⟩
    rw [hcs, String.toList_ofList]
  · intro h
    exact ⟨location.toList, h, String.ofList_toList⟩

theorem normal?_eq_none_iff (name : String) :
    normal? name = none ↔ Climbs (pieces '/' (forward name.toList)) := by
  rw [normal?, normalChars_eq_walked, Option.map_eq_none_iff, walked, Option.map_eq_none_iff,
    walk_eq_none_iff]

theorem isNormal_of_normal? {name location : String} (h : normal? name = some location) :
    IsNormal location.toList :=
  isNormal_of_walked ((normal?_eq_some_iff name location).mp h)

/-- **The normal form of a name is the result of walking it.** A name has none exactly
when some beginning of it goes back more often than it went down, and a normal form
has no backslash, no gap, and no segment `.` or `..`. -/
theorem normal?_walks (name : String) :
    normal? name = (walked name.toList).map String.ofList ∧
      (normal? name = none ↔ Climbs (pieces '/' (forward name.toList))) ∧
      ∀ location, normal? name = some location → IsNormal location.toList := by
  refine ⟨?_, normal?_eq_none_iff name, fun location h => isNormal_of_normal? h⟩
  rw [normal?, normalChars_eq_walked]

example : normal? "a\\..\\...//b/." = some "/.../b/" := by decide

example : normal? "a/../../b" = none := by decide

end TemplateLookup.Name
