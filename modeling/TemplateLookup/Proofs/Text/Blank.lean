/-
# TemplateLookup.Proofs.Text.Blank -- what trimming leaves

A trimmed text is what remains of a text when the blanks at its two ends are gone and no other
character (`IsTrimmed`). There is exactly one such text, and `trim` gives it (`isTrimmed_trim`,
`IsTrimmed.eq_trim`). So trimming twice is trimming once (`trim_trim`), and nothing remains
exactly of a text without a character that is not blank (`trim_eq_empty_iff`).
-/

import Mathlib.Data.List.TakeWhile
import TemplateLookup.Text.Blank

namespace TemplateLookup.Text

/-! ## Blanks at one end -/

section

variable {cs before after : List Char}

theorem trimRight_eq (cs : List Char) : trimRight cs = (trimLeft cs.reverse).reverse := rfl

theorem trimLeft_append (h : ∀ c ∈ before, isBlank c = true) :
    trimLeft (before ++ cs) = trimLeft cs :=
  List.dropWhile_append_of_pos h

theorem trimLeft_of_start (h : ∀ c ∈ cs.head?, isBlank c = false) : trimLeft cs = cs := by
  cases cs with
  | nil => rfl
  | cons c rest => exact List.dropWhile_cons_of_neg (by simp [h c rfl])

theorem start_trimLeft (cs : List Char) : ∀ c ∈ (trimLeft cs).head?, isBlank c = false := by
  intro c hc
  have hstart := List.head?_dropWhile_not isBlank cs
  rw [trimLeft, Option.mem_def] at hc
  rwa [hc] at hstart

/-- What is missing at the front are blanks. -/
theorem exists_before (cs : List Char) :
    ∃ before, cs = before ++ trimLeft cs ∧ ∀ c ∈ before, isBlank c = true := by
  refine ⟨cs.takeWhile isBlank, List.takeWhile_append_dropWhile.symm, ?_⟩
  intro c hc
  exact List.mem_takeWhile_imp hc

theorem trimRight_append (h : ∀ c ∈ after, isBlank c = true) :
    trimRight (cs ++ after) = trimRight cs := by
  rw [trimRight_eq, trimRight_eq, List.reverse_append,
    trimLeft_append fun c hc => h c (List.mem_reverse.mp hc)]

theorem trimRight_of_stop (h : ∀ c ∈ cs.getLast?, isBlank c = false) : trimRight cs = cs := by
  rw [trimRight_eq, trimLeft_of_start (by rwa [List.head?_reverse]), List.reverse_reverse]

theorem stop_trimRight (cs : List Char) : ∀ c ∈ (trimRight cs).getLast?, isBlank c = false := by
  rw [trimRight_eq, List.getLast?_reverse]
  exact start_trimLeft cs.reverse

/-- What is missing at the end are blanks. -/
theorem exists_after (cs : List Char) :
    ∃ after, cs = trimRight cs ++ after ∧ ∀ c ∈ after, isBlank c = true := by
  obtain ⟨before, hsplit, hblank⟩ := exists_before cs.reverse
  refine ⟨before.reverse, ?_, fun c hc => hblank c (List.mem_reverse.mp hc)⟩
  rw [trimRight_eq, ← List.reverse_append, ← hsplit, List.reverse_reverse]

end

/-! ## Blanks at both ends -/

/-- The second text is the first one without the blanks at its ends. -/
structure IsTrimmed (s t : String) : Prop where
  within : ∃ before after, s.toList = before ++ (t.toList ++ after) ∧
    (∀ c ∈ before, isBlank c = true) ∧ ∀ c ∈ after, isBlank c = true
  start : ∀ c ∈ t.toList.head?, isBlank c = false
  stop : ∀ c ∈ t.toList.getLast?, isBlank c = false

theorem isTrimmed_trim (s : String) : IsTrimmed s (trim s) := by
  obtain ⟨before, hfront, hbefore⟩ := exists_before s.toList
  obtain ⟨after, hback, hafter⟩ := exists_after (trimLeft s.toList)
  have htext : (trim s).toList = trimRight (trimLeft s.toList) := String.toList_ofList
  refine ⟨⟨before, after, ?_, hbefore, hafter⟩, ?_, ?_⟩
  · rw [htext, ← hback]
    exact hfront
  · rw [htext]
    intro c hc
    -- what starts the trimmed text also started it before its end was trimmed
    refine start_trimLeft s.toList c ?_
    rw [hback, Option.mem_def, List.head?_append, Option.mem_def.mp hc, Option.some_or]
  · rw [htext]
    exact stop_trimRight _

theorem IsTrimmed.eq_trim {s t : String} (h : IsTrimmed s t) : t = trim s := by
  obtain ⟨before, after, hsplit, hbefore, hafter⟩ := h.within
  have hfront : trimLeft (t.toList ++ after) = t.toList ++ after ∨ t.toList = [] := by
    cases htext : t.toList with
    | nil => exact .inr rfl
    | cons c rest =>
      refine .inl (trimLeft_of_start ?_)
      intro d hd
      exact h.start d (by rw [htext]; exact hd)
  have htrimmed : trimmed s.toList = t.toList := by
    rw [trimmed, hsplit, trimLeft_append hbefore]
    rcases hfront with hfront | hempty
    · rw [hfront, trimRight_append hafter, trimRight_of_stop h.stop]
    · have hblank : trimLeft after = [] := List.dropWhile_eq_nil_iff.mpr hafter
      rw [hempty, List.nil_append, hblank]
      rfl
  rw [trim, htrimmed, String.ofList_toList]

theorem trim_trim (s : String) : trim (trim s) = trim s := by
  have h := isTrimmed_trim s
  have hself : IsTrimmed (trim s) (trim s) := ⟨⟨[], [], by simp, nofun, nofun⟩, h.start, h.stop⟩
  exact hself.eq_trim.symm

theorem trim_eq_empty_iff {s : String} : trim s = "" ↔ ∀ c ∈ s.toList, isBlank c = true := by
  constructor
  · intro hempty
    obtain ⟨before, after, hsplit, hbefore, hafter⟩ := (isTrimmed_trim s).within
    rw [hempty] at hsplit
    intro c hc
    rw [hsplit] at hc
    rcases List.mem_append.mp hc with hc | hc
    · exact hbefore c hc
    · exact hafter c hc
  · intro hblank
    have hnone : IsTrimmed s "" := ⟨⟨s.toList, [], by simp, hblank, nofun⟩, nofun, nofun⟩
    exact hnone.eq_trim.symm

end TemplateLookup.Text
