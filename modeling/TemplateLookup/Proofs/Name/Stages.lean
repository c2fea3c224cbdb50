/-
# TemplateLookup.Proofs.Name.Stages -- the three loops, turn by turn

The normal form of a name is found by three loops, one after the other. `normal?` bounds them by
the length of the text; here they run unbounded, as stages of which each one follows from the one
before (`Stage.next`), and a search back that fails is not noticed but cuts off the last character
(`upTo`). Still nothing goes wrong: at the head of each loop the text begins with a slash, does not
end on `.` or `..`, and no longer holds what the loops before were after (`Loop.Head`). Every turn
keeps that together with the walk, and leaves less to do (`Stage.Sound.next`, `Stage.Sound.left_next`).
So the last loop always finds the segment before a `..`, and every name comes to the end that
`normal?` computes (`loops_sound`).
-/

import Mathlib.Logic.Function.Iterate
import TemplateLookup.Proofs.Name.NormalForm

namespace TemplateLookup.Name

/-! ## Stages -/

/-- The loops, in their order. -/
inductive Loop where
  | slashes
  | dots
  | backs
  deriving DecidableEq, Repr

/-- How far the work on a name has come. -/
inductive Stage where
  /-- At the head of a loop, with the text as it is there. -/
  | head (loop : Loop) (text : List Char)
  /-- At the end, with the normal form if there is one. -/
  | ended (result : Option (List Char))
  deriving DecidableEq, Repr

/-- The text up to a place that was searched for. Where the search failed, the place counts as the
one before the end, so that the last character is cut off. -/
def upTo (cs : List Char) : Option Nat → List Char
  | some place => cs.take place
  | none => cs.dropLast

namespace Loop

/-- How many loops come before. -/
def rank : Loop → Nat
  | .slashes => 0
  | .dots => 1
  | .backs => 2

/-- What is searched for at the head of a loop. -/
def pattern : Loop → List Char
  | .slashes => "//".toList
  | .dots => "/./".toList
  | .backs => "/../".toList

/-- The segment that a loop is after. -/
def segment : Loop → List Char
  | .slashes => []
  | .dots => ['.']
  | .backs => ['.', '.']

/-- What follows where the pattern was found. -/
def turned (cs : List Char) (i : Nat) : Loop → Stage
  | .slashes => .head .slashes (halveSlashes cs)
  | .dots => .head .dots (dropDots cs)
  | .backs =>
    if i = 0 then .ended none
    else .head .backs (upTo cs (lastSlash (cs.take i)) ++ cs.drop (i + 3))

/-- What follows where the pattern is gone. -/
def finished (cs : List Char) : Loop → Stage
  | .slashes => .head .dots cs
  | .dots => .head .backs cs
  | .backs => .ended (some cs)

end Loop

namespace Stage

/-- The stage after a stage; the end is followed by itself. -/
def next : Stage → Stage
  | .head loop cs =>
    match find loop.pattern cs with
    | some i => loop.turned cs i
    | none => loop.finished cs
  | .ended result => .ended result

/-- The stage that a name starts from. -/
def start (cs : List Char) : Stage :=
  if forward cs = "/.".toList then .ended (some ['/'])
  else .head .slashes (closed (anchored (forward cs)))

/-- More than the number of turns that are left. -/
def left : Stage → Nat
  | .head loop cs => cs.length + 3 - loop.rank
  | .ended _ => 0

end Stage

/-- The stage of a name after some turns. -/
def stageAfter (name : String) (n : Nat) : Stage := Stage.next^[n] (Stage.start name.toList)

theorem stageAfter_succ (name : String) (n : Nat) :
    stageAfter name (n + 1) = (stageAfter name n).next :=
  Function.iterate_succ_apply' Stage.next n (Stage.start name.toList)

/-! ## Searching -/

theorem infix_of_find {pattern cs : List Char} {i : Nat} (hp : pattern ≠ [])
    (h : find pattern cs = some i) : pattern <:+: cs := by
  have hfound := (find_eq_some hp h).1
  exact hfound.isInfix.trans (List.drop_suffix i cs).isInfix

namespace Loop

theorem pattern_eq (loop : Loop) : loop.pattern = '/' :: (loop.segment ++ ['/']) := by
  cases loop <;> rfl

theorem pattern_ne_nil (loop : Loop) : loop.pattern ≠ [] := by
  cases loop <;> decide

/-- The pattern of a loop is gone exactly when its segment is. -/
theorem find_pattern_eq_none_iff (loop : Loop) (cs : List Char) :
    find loop.pattern cs = none ↔ loop.segment ∉ inner cs := by
  have hslash : '/' ∉ loop.segment := by cases loop <;> decide
  rw [find_eq_none_iff loop.pattern_ne_nil, mem_inner_iff hslash, pattern_eq]

/-! ## What holds at the head of a loop -/

/-- The text at the head of a loop, on the way to the end of a walk. -/
structure Head (loop : Loop) (goal : Option (List Char)) (cs : List Char) : Prop where
  slash : cs.head? = some '/'
  last : lastPiece cs = [] ∨ IsOrdinary (lastPiece cs)
  gone : ∀ earlier : Loop, earlier.rank < loop.rank → earlier.segment ∉ inner cs
  leads : route cs = goal

end Loop

/-- What holds at a stage, on the way to the end of a walk. -/
def Stage.Sound (goal : Option (List Char)) : Stage → Prop
  | .head loop cs => loop.Head goal cs
  | .ended result => result = goal

/-- In the words of the patterns: a prepared text holds none of the first two, and does not end on
a `.` or `..` after a slash. -/
theorem Prepared.patterns {cs : List Char} (h : Prepared cs) :
    cs.head? = some '/' ∧ ¬ "//".toList <:+: cs ∧ ¬ "/./".toList <:+: cs ∧
      ¬ "/.".toList <:+ cs ∧ ¬ "/..".toList <:+ cs := by
  have hends : ∀ segment, '/' ∉ segment → ¬ IsOrdinary segment → segment ≠ [] →
      ¬ '/' :: segment <:+ cs := by
    intro segment hslash hordinary hempty hend
    rw [← lastPiece_eq_iff h.slash hslash] at hend
    rcases h.last with hlast | hlast
    · exact hempty (hend.symm.trans hlast)
    · exact hordinary (hend ▸ hlast)
  refine ⟨h.slash, ?_, ?_, ?_, ?_⟩
  · intro hgap
    exact (h.inner [] ((mem_inner_iff List.not_mem_nil cs).mpr hgap)).1 rfl
  · intro hdot
    exact (h.inner ['.'] ((mem_inner_iff (by decide) cs).mpr hdot)).2 rfl
  · exact hends ['.'] (by decide) (by decide) (by decide)
  · exact hends ['.', '.'] (by decide) (by decide) (by decide)

/-! ## One turn -/

/-- Behind the slash in front the search back never fails. -/
theorem exists_parent {cs : List Char} (hslash : cs.head? = some '/') {i : Nat} (hi : 0 < i) :
    ∃ parent, lastSlash (cs.take i) = some parent := by
  apply Option.ne_none_iff_exists'.mp
  intro hnone
  apply (lastSlash_eq_none_iff (cs.take i)).mp hnone
  apply List.mem_of_mem_head?
  rw [List.head?_take, if_neg (by omega), hslash]
  rfl

namespace Loop.Head

variable {loop : Loop} {goal : Option (List Char)} {cs : List Char}

/-- Shortening a text keeps what holds at the head of its loop. -/
theorem shortens (h : loop.Head goal cs) {short : List Char} (hs : Shortens cs short) :
    loop.Head goal short where
  slash := hs.head_eq.trans h.slash
  last := by
    rw [hs.last_eq]
    exact h.last
  gone := fun earlier hearlier hmem => h.gone earlier hearlier (hs.inner_subset _ hmem)
  leads := hs.route_eq.trans h.leads

/-- The last loop starts on a prepared text. -/
theorem prepared (h : Loop.backs.Head goal cs) : Prepared cs where
  slash := h.slash
  inner := by
    intro p hp
    constructor
    · rintro rfl
      exact h.gone .slashes (by decide) hp
    · rintro rfl
      exact h.gone .dots (by decide) hp
  last := h.last

/-- Where the pattern was found, the text that follows is shorter, or there is no normal form. -/
theorem turned (h : loop.Head goal cs) {i : Nat} (hfind : find loop.pattern cs = some i) :
    (loop.turned cs i).Sound goal ∧ (loop.turned cs i).left < (Stage.head loop cs).left := by
  cases loop with
  | slashes =>
    have hshorter := length_halveSlashes_lt (infix_of_find (pattern_ne_nil .slashes) hfind)
    refine ⟨h.shortens (shortens_halveSlashes cs []), ?_⟩
    show (halveSlashes cs).length + 3 < cs.length + 3
    omega
  | dots =>
    have hshorter := length_dropDots_lt (infix_of_find (pattern_ne_nil .dots) hfind)
    refine ⟨h.shortens (shortens_dropDots cs []), ?_⟩
    show (dropDots cs).length + 2 < cs.length + 2
    omega
  | backs =>
    have hback : find "/../".toList cs = some i := hfind
    by_cases hi : i = 0
    · -- the `..` stands at the top, and the walk climbs there
      subst hi
      obtain ⟨⟨after, hafter⟩, -⟩ := find_eq_some (by decide) hback
      refine ⟨?_, Nat.succ_pos _⟩
      show none = goal
      rw [← h.leads]
      exact (h.prepared.route_climbs List.not_mem_nil hafter.symm).symm
    · obtain ⟨parent, hparent⟩ := exists_parent h.slash (Nat.pos_of_ne_zero hi)
      have hturn : turn cs = .again (cs.take parent ++ cs.drop (i + 3)) := by
        simp only [turn, hback, hparent]
      have hstage : Loop.backs.turned cs i = .head .backs (cs.take parent ++ cs.drop (i + 3)) := by
        simp only [Loop.turned, if_neg hi, hparent, upTo]
      obtain ⟨hshort, hlength⟩ := h.prepared.again hturn
      rw [hstage]
      exact ⟨h.shortens hshort, Nat.succ_lt_succ hlength⟩

/-- Where the pattern is gone, the next loop starts, or the normal form is there. -/
theorem finished (h : loop.Head goal cs) (hfind : find loop.pattern cs = none) :
    (loop.finished cs).Sound goal ∧ (loop.finished cs).left < (Stage.head loop cs).left := by
  have hgone := (find_pattern_eq_none_iff loop cs).mp hfind
  have hsofar : ∀ earlier : Loop, earlier.rank < loop.rank + 1 → earlier.segment ∉ inner cs := by
    intro earlier hearlier
    rcases Nat.lt_succ_iff_lt_or_eq.mp hearlier with hless | hsame
    · exact h.gone earlier hless
    · have heq : earlier = loop := by cases earlier <;> cases loop <;> first | rfl | cases hsame
      exact heq ▸ hgone
  cases loop with
  | slashes => exact ⟨⟨h.slash, h.last, hsofar, h.leads⟩, Nat.lt_succ_self _⟩
  | dots => exact ⟨⟨h.slash, h.last, hsofar, h.leads⟩, Nat.lt_succ_self _⟩
  | backs =>
    have hturn : turn cs = .settled := by
      have hback : find "/../".toList cs = none := hfind
      simp only [turn, hback]
    refine ⟨?_, Nat.succ_pos _⟩
    show some cs = goal
    rw [← h.leads, h.prepared.route_settled hturn]

end Loop.Head

namespace Stage

variable {goal : Option (List Char)} {s : Stage}

theorem Sound.next_spec (h : s.Sound goal) :
    s.next.Sound goal ∧ (s.next.left < s.left ∨ s = .ended goal) := by
  cases s with
  | ended result =>
    have hresult : result = goal := h
    subst hresult
    exact ⟨rfl, .inr rfl⟩
  | head loop cs =>
    have hhead : loop.Head goal cs := h
    cases hfind : find loop.pattern cs with
    | some i =>
      have hnext : (Stage.head loop cs).next = loop.turned cs i := by simp only [Stage.next, hfind]
      obtain ⟨hsound, hless⟩ := hhead.turned hfind
      rw [hnext]
      exact ⟨hsound, .inl hless⟩
    | none =>
      have hnext : (Stage.head loop cs).next = loop.finished cs := by simp only [Stage.next, hfind]
      obtain ⟨hsound, hless⟩ := hhead.finished hfind
      rw [hnext]
      exact ⟨hsound, .inl hless⟩

/-- Every turn keeps a stage sound. -/
theorem Sound.next (h : s.Sound goal) : s.next.Sound goal := h.next_spec.1

/-- Every turn leaves less to do. -/
theorem Sound.left_next (h : s.Sound goal) : s.next.left ≤ s.left - 1 := by
  rcases h.next_spec.2 with hless | rfl
  · omega
  · exact Nat.zero_le _

/-- Where nothing is left to do, the end is reached. -/
theorem Sound.eq_ended (h : s.Sound goal) (hleft : s.left = 0) : s = .ended goal := by
  cases s with
  | ended result =>
    have hresult : result = goal := h
    rw [hresult]
  | head loop cs => cases loop <;> cases hleft

theorem sound_start (cs : List Char) : (start cs).Sound (walked cs) := by
  unfold start
  rw [walked_eq_route]
  by_cases h : forward cs = "/.".toList
  · rw [if_pos h, h]
    rfl
  · obtain ⟨hslash, hroute, hlast⟩ := closed_spec (head?_anchored (forward cs))
    rw [route_anchored] at hroute
    rw [if_neg h]
    exact ⟨hslash, hlast, fun _ hearlier => absurd hearlier (Nat.not_lt_zero _), hroute⟩

/-- Opening and closing a text add a character each. -/
theorem left_start_le (cs : List Char) : (start cs).left ≤ cs.length + 5 := by
  have hforward : (forward cs).length = cs.length := List.length_map ..
  have hanchored : ∀ ds : List Char, (anchored ds).length ≤ ds.length + 1 := by
    intro ds
    unfold anchored
    split <;> simp
  have hclosed : ∀ ds : List Char, (closed ds).length ≤ ds.length + 1 := by
    intro ds
    unfold closed
    split <;> simp
  have hopened := hanchored (forward cs)
  have hall := hclosed (anchored (forward cs))
  unfold start
  split
  · exact Nat.zero_le _
  · show (closed (anchored (forward cs))).length + 3 ≤ cs.length + 5
    omega

end Stage

/-! ## All turns -/

theorem sound_stageAfter (name : String) (n : Nat) :
    (stageAfter name n).Sound (walked name.toList) := by
  induction n with
  | zero => exact Stage.sound_start name.toList
  | succ n ih =>
    rw [stageAfter_succ]
    exact ih.next

theorem left_stageAfter (name : String) (n : Nat) :
    (stageAfter name n).left ≤ name.length + 5 - n := by
  induction n with
  | zero =>
    rw [← String.length_toList]
    exact Stage.left_start_le name.toList
  | succ n ih =>
    have hless := (sound_stageAfter name n).left_next
    rw [stageAfter_succ]
    omega

/-- A turn that stays in its loop leaves a shorter text. -/
theorem length_lt_of_stageAfter {name : String} {n : Nat} {loop : Loop} {cs rest : List Char}
    (h : stageAfter name n = .head loop cs) (hnext : stageAfter name (n + 1) = .head loop rest) :
    rest.length < cs.length := by
  rw [stageAfter_succ] at hnext
  rcases (sound_stageAfter name n).next_spec.2 with hless | hended
  · rw [hnext, h] at hless
    have hlength : rest.length + 3 - loop.rank < cs.length + 3 - loop.rank := hless
    omega
  · rw [h] at hended
    cases hended

/-- What a turn of the last loop takes away is a segment that leads down and the `..` after it. -/
theorem Prepared.removed {cs : List Char} (h : Prepared cs) {i : Nat}
    (hfind : find "/../".toList cs = some i) (hi : 0 < i) :
    ∃ parent segment, lastSlash (cs.take i) = some parent ∧
      (segment ≠ [] ∧ segment ≠ ['.'] ∧ segment ≠ ['.', '.'] ∧ '/' ∉ segment) ∧
      cs = cs.take parent ++ ('/' :: segment ++ "/..".toList) ++ cs.drop (i + 3) := by
  obtain ⟨parent, hparent⟩ := exists_parent h.slash hi
  obtain ⟨segment, after, hslash, hback, hcs, hdrop⟩ := parent_spec hfind hparent
  have hmem : segment ∈ Name.inner cs := by
    rw [mem_inner_iff hslash, hcs]
    exact ⟨cs.take parent, ['.', '.'] ++ '/' :: after, by simp⟩
  obtain ⟨hempty, hdot⟩ := h.inner segment hmem
  refine ⟨parent, segment, hparent, ⟨hempty, hdot, hback, hslash⟩, ?_⟩
  rw [hdrop]
  simpa using hcs

/-- **The loops are sound.** Whenever the last loop starts a turn, its text begins with a slash, has
no `//` and no `/./`, and does not end on `/.` or `/..`. Then, if the first `/../` has something
before it, the search back for the slash of the segment before succeeds, and what is taken away is
this segment, which is neither empty nor `.` nor `..`, and the `..` after it. Every turn of a loop
makes its text shorter. So every name comes to an end, after at most five turns more than it has
characters, and the end is its normal form, or that it has none. -/
theorem loops_sound (name : String) :
    (∀ n cs, stageAfter name n = .head .backs cs →
      (cs.head? = some '/' ∧ ¬ "//".toList <:+: cs ∧ ¬ "/./".toList <:+: cs ∧
        ¬ "/.".toList <:+ cs ∧ ¬ "/..".toList <:+ cs) ∧
      ∀ i, find "/../".toList cs = some i → 0 < i → ∃ parent segment,
        lastSlash (cs.take i) = some parent ∧
        (segment ≠ [] ∧ segment ≠ ['.'] ∧ segment ≠ ['.', '.'] ∧ '/' ∉ segment) ∧
        cs = cs.take parent ++ ('/' :: segment ++ "/..".toList) ++ cs.drop (i + 3) ∧
        stageAfter name (n + 1) = .head .backs (cs.take parent ++ cs.drop (i + 3)) ∧
        turn cs = .again (cs.take parent ++ cs.drop (i + 3))) ∧
    (∀ n loop cs rest, stageAfter name n = .head loop cs →
      stageAfter name (n + 1) = .head loop rest → rest.length < cs.length) ∧
    ∀ n, name.length + 5 ≤ n → stageAfter name n = .ended (normalChars name.toList) := by
  refine ⟨?_, ?_, ?_⟩
  · intro n cs h
    have hsound := sound_stageAfter name n
    rw [h] at hsound
    have hprepared : Prepared cs := Loop.Head.prepared hsound
    refine ⟨hprepared.patterns, ?_⟩
    intro i hfind hi
    obtain ⟨parent, segment, hparent, hsegment, hcs⟩ := hprepared.removed hfind hi
    have hpattern : find Loop.backs.pattern cs = some i := hfind
    refine ⟨parent, segment, hparent, hsegment, hcs, ?_, ?_⟩
    · rw [stageAfter_succ, h]
      simp only [Stage.next, hpattern, Loop.turned, hparent, if_neg (Nat.ne_of_gt hi), upTo]
    · simp only [turn, hfind, hparent]
  · intro n loop cs rest h hnext
    exact length_lt_of_stageAfter h hnext
  · intro n hn
    have hleft := left_stageAfter name n
    rw [normalChars_eq_walked]
    exact (sound_stageAfter name n).eq_ended (by omega)

example : stageAfter "a/.//../b" 5 = .head .backs "/b".toList := by decide

end TemplateLookup.Name
