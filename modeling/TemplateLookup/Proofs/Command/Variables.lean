/-
# TemplateLookup.Proofs.Command.Variables -- variables decode as written

A text writes a variable if it is a name, an equals sign and a value, and the name is not empty and
free of equals signs (`Writes`). A text that writes none has no equals sign or starts with one
(`Malformed`). Texts that all write variables are read as the pairs they write, stored one after
another, so the last value of a name counts; otherwise the first malformed text is reported
(`variables_as_written`).
-/

import TemplateLookup.Command.Variables
import TemplateLookup.Proofs.Pairs
import TemplateLookup.Proofs.Text.Pieces

namespace TemplateLookup.Command

/-! ## One text -/

/-- The text writes the variable with that name and that value. -/
structure Writes (text name value : String) : Prop where
  named : name ≠ ""
  free : '=' ∉ name.toList
  form : text = name ++ "=" ++ value

/-- The text writes no variable. -/
def Malformed (text : String) : Prop :=
  '=' ∉ text.toList ∨ text.toList.head? = some '='

/-- The text that writes a pair. -/
def assigning (pair : String × String) : String := pair.1 ++ "=" ++ pair.2

section

variable {text name value : String}

theorem toList_eq_of_form (h : text = name ++ "=" ++ value) :
    text.toList = name.toList ++ '=' :: value.toList := by
  rw [h, String.toList_append, String.toList_append, List.append_assoc]
  rfl

theorem assignment?_eq_some_iff :
    assignment? text = some (name, value) ↔ Writes text name value := by
  unfold assignment?
  constructor
  · intro h
    split at h
    · cases h
    · cases h
    · rename_i before after hempty hcut
      cases h
      obtain ⟨hfree, hsplit⟩ := Text.cutAt_eq_some_iff.mp hcut
      refine ⟨?_, by rwa [String.toList_ofList], ?_⟩
      · rw [ne_eq, String.ofList_eq_empty_iff]
        exact hempty
      · apply String.toList_injective
        rw [hsplit, toList_eq_of_form rfl, String.toList_ofList, String.toList_ofList]
  · intro h
    have hcut : Text.cutAt '=' text.toList = some (name.toList, value.toList) :=
      Text.cutAt_eq_some_iff.mpr ⟨h.free, toList_eq_of_form h.form⟩
    rw [hcut]
    cases hchars : name.toList with
    | nil => exact absurd (String.toList_eq_nil_iff.mp hchars) h.named
    | cons c rest =>
      dsimp only
      rw [← hchars, String.ofList_toList, String.ofList_toList]

theorem assignment?_eq_none_iff : assignment? text = none ↔ Malformed text := by
  unfold assignment? Malformed
  cases hcut : Text.cutAt '=' text.toList with
  | none => exact iff_of_true rfl (.inl (Text.cutAt_eq_none_iff.mp hcut))
  | some cut =>
    obtain ⟨before, after⟩ := cut
    obtain ⟨hfree, hsplit⟩ := Text.cutAt_eq_some_iff.mp hcut
    cases before with
    | nil =>
      refine iff_of_true rfl (.inr ?_)
      rw [hsplit]
      rfl
    | cons c rest =>
      -- the first equals sign is there, behind a character that is none
      refine iff_of_false nofun ?_
      rw [hsplit, List.cons_append, List.head?_cons]
      rintro (hnone | hfirst)
      · exact hnone (by simp)
      · cases hfirst
        exact hfree List.mem_cons_self

theorem not_malformed_iff : ¬ Malformed text ↔ ∃ name value, Writes text name value := by
  rw [← assignment?_eq_none_iff, ← ne_eq, Option.ne_none_iff_exists']
  constructor
  · rintro ⟨⟨name, value⟩, h⟩
    exact ⟨name, value, assignment?_eq_some_iff.mp h⟩
  · rintro ⟨name, value, h⟩
    exact ⟨(name, value), assignment?_eq_some_iff.mpr h⟩

end

/-! ## A list of texts -/

/-- Texts are accepted if each writes a pair, and the pairs are stored one after another. -/
theorem assignmentsFrom_eq_ok_iff {texts : List String} {before vars : List (String × String)} :
    assignmentsFrom before texts = .ok vars ↔
      ∃ pairs : List (String × String),
        texts.map assignment? = pairs.map some ∧ vars = Pairs.storeAll pairs before := by
  induction texts generalizing before with
  | nil =>
    constructor
    · intro h
      cases h
      exact ⟨[], rfl, rfl⟩
    · rintro ⟨pairs, hpairs, rfl⟩
      cases pairs with
      | nil => rfl
      | cons pair rest => cases hpairs
  | cons text rest ih =>
    rw [assignmentsFrom, List.map_cons]
    cases htext : assignment? text with
    | none =>
      refine iff_of_false nofun ?_
      rintro ⟨pairs, hpairs, -⟩
      cases pairs with
      | nil => cases hpairs
      | cons pair more => cases (List.cons.inj hpairs).1
    | some pair =>
      obtain ⟨name, value⟩ := pair
      dsimp only
      rw [ih]
      constructor
      · rintro ⟨pairs, hpairs, rfl⟩
        exact ⟨(name, value) :: pairs, by rw [List.map_cons, hpairs], rfl⟩
      · rintro ⟨pairs, hpairs, rfl⟩
        cases pairs with
        | nil => cases hpairs
        | cons pair more =>
          obtain ⟨hfirst, hmore⟩ := List.cons.inj hpairs
          cases hfirst
          exact ⟨more, hmore, rfl⟩

/-- The first malformed text is the one that is reported. -/
theorem assignmentsFrom_eq_error_iff {texts : List String} {table : List (String × String)}
    {e : BadVariable} :
    assignmentsFrom table texts = .error e ↔
      ∃ before after, texts = before ++ e.text :: after ∧
        (∀ text ∈ before, ¬ Malformed text) ∧ Malformed e.text := by
  induction texts generalizing table with
  | nil =>
    refine iff_of_false nofun ?_
    rintro ⟨before, after, hsplit, -⟩
    exact absurd hsplit.symm (by simp)
  | cons text rest ih =>
    rw [assignmentsFrom]
    cases htext : assignment? text with
    | none =>
      have hbad : Malformed text := assignment?_eq_none_iff.mp htext
      constructor
      · intro h
        cases h
        exact ⟨[], rest, rfl, nofun, hbad⟩
      · rintro ⟨before, after, hsplit, hgood, -⟩
        cases before with
        | nil =>
          cases hsplit
          rfl
        | cons first more =>
          cases hsplit
          exact absurd hbad (hgood text List.mem_cons_self)
    | some pair =>
      obtain ⟨name, value⟩ := pair
      have hgood : ¬ Malformed text :=
        not_malformed_iff.mpr ⟨name, value, assignment?_eq_some_iff.mp htext⟩
      dsimp only
      rw [ih]
      constructor
      · rintro ⟨before, after, rfl, hbefore, hbad⟩
        exact ⟨text :: before, after, rfl, List.forall_mem_cons.mpr ⟨hgood, hbefore⟩, hbad⟩
      · rintro ⟨before, after, hsplit, hbefore, hbad⟩
        cases before with
        | nil =>
          cases hsplit
          exact absurd hbad hgood
        | cons first more =>
          cases hsplit
          exact ⟨more, after, rfl, (List.forall_mem_cons.mp hbefore).2, hbad⟩

/-! ## What is decoded -/

/-- The variables are those that the texts write, each with the value that was written last. -/
structure Decodes (texts : List String) (vars : List (String × String)) : Prop where
  distinct : (Pairs.keys vars).Nodup
  names : ∀ name, name ∈ Pairs.keys vars ↔ ∃ text ∈ texts, ∃ value, Writes text name value
  values : ∀ name value, Pairs.fetch name vars = some value ↔
    ∃ before text after, texts = before ++ text :: after ∧ Writes text name value ∧
      ∀ other ∈ after, ∀ v, ¬ Writes other name v

section

variable {texts : List String} {pairs : List (String × String)} {name value : String}

theorem mem_of_map_eq (h : texts.map assignment? = pairs.map some) :
    (name, value) ∈ pairs ↔ ∃ text ∈ texts, Writes text name value := by
  have hsome : some (name, value) ∈ pairs.map some ↔ (name, value) ∈ pairs := by simp
  rw [← hsome, ← h, List.mem_map]
  exact exists_congr fun text => and_congr_right fun _ => assignment?_eq_some_iff

theorem mem_keys_of_map_eq (h : texts.map assignment? = pairs.map some) :
    name ∈ Pairs.keys pairs ↔ ∃ text ∈ texts, ∃ value, Writes text name value := by
  constructor
  · intro hname
    obtain ⟨⟨_, value⟩, hmem, rfl⟩ := List.mem_map.mp hname
    obtain ⟨text, htext, hwrites⟩ := (mem_of_map_eq h).mp hmem
    exact ⟨text, htext, value, hwrites⟩
  · rintro ⟨text, htext, value, hwrites⟩
    exact List.mem_map.mpr ⟨(name, value), (mem_of_map_eq h).mpr ⟨text, htext, hwrites⟩, rfl⟩

/-- The last pair with a name is what the last text that writes it writes. -/
theorem fetch_reverse_iff (h : texts.map assignment? = pairs.map some) :
    Pairs.fetch name pairs.reverse = some value ↔
      ∃ before text after, texts = before ++ text :: after ∧ Writes text name value ∧
        ∀ other ∈ after, ∀ v, ¬ Writes other name v := by
  rw [Pairs.fetch_reverse_eq_some_iff]
  constructor
  · rintro ⟨pairsBefore, pairsAfter, rfl, hlast⟩
    rw [List.map_append, List.map_cons] at h
    obtain ⟨before, rest, rfl, -, hrest⟩ := List.map_eq_append_iff.mp h
    obtain ⟨text, after, rfl, htext, hafter⟩ := List.map_eq_cons_iff.mp hrest
    refine ⟨before, text, after, rfl, assignment?_eq_some_iff.mp htext, ?_⟩
    intro other hother v hwrites
    exact hlast ((mem_keys_of_map_eq hafter).mpr ⟨other, hother, v, hwrites⟩)
  · rintro ⟨before, text, after, rfl, hwrites, hlast⟩
    rw [List.map_append, List.map_cons] at h
    obtain ⟨pairsBefore, rest, rfl, -, hrest⟩ := List.map_eq_append_iff.mp h.symm
    obtain ⟨pair, pairsAfter, rfl, hpair, hafter⟩ := List.map_eq_cons_iff.mp hrest
    rw [assignment?_eq_some_iff.mpr hwrites] at hpair
    cases hpair
    refine ⟨pairsBefore, pairsAfter, rfl, ?_⟩
    intro hname
    obtain ⟨other, hother, v, hothers⟩ := (mem_keys_of_map_eq hafter.symm).mp hname
    exact hlast other hother v hothers

theorem decodes_of_ok {vars : List (String × String)} (h : assignments texts = .ok vars) :
    Decodes texts vars := by
  obtain ⟨pairs, hpairs, rfl⟩ := assignmentsFrom_eq_ok_iff.mp h
  refine ⟨Pairs.nodup_keys_storeAll pairs List.nodup_nil, ?_, ?_⟩
  · intro name
    rw [Pairs.mem_keys_storeAll, mem_keys_of_map_eq hpairs]
    exact or_iff_left List.not_mem_nil
  · intro name value
    rw [Pairs.fetch_storeAll, Pairs.fetch_nil, Option.or_none, fetch_reverse_iff hpairs]

/-- Pairs that are written as texts are read back, stored one after another. -/
theorem assignments_assigning (h : ∀ pair ∈ pairs, pair.1 ≠ "" ∧ '=' ∉ pair.1.toList) :
    assignments (pairs.map assigning) = .ok (Pairs.storeAll pairs []) := by
  refine assignmentsFrom_eq_ok_iff.mpr ⟨pairs, ?_, rfl⟩
  rw [List.map_map]
  refine List.map_congr_left fun pair hpair => ?_
  obtain ⟨hnamed, hfree⟩ := h pair hpair
  exact assignment?_eq_some_iff.mpr ⟨hnamed, hfree, rfl⟩

/-- Texts that are refused hold a malformed one. -/
theorem exists_error_iff :
    (∃ e, assignments texts = .error e) ↔ ∃ text ∈ texts, Malformed text := by
  constructor
  · rintro ⟨e, h⟩
    obtain ⟨before, after, rfl, -, hbad⟩ := assignmentsFrom_eq_error_iff.mp h
    exact ⟨e.text, List.mem_append_right _ List.mem_cons_self, hbad⟩
  · rintro ⟨text, htext, hbad⟩
    cases hresult : assignments texts with
    | error e => exact ⟨e, rfl⟩
    | ok vars =>
      -- accepted texts all write something
      obtain ⟨pairs, hpairs, -⟩ := assignmentsFrom_eq_ok_iff.mp hresult
      have hnone : none ∈ pairs.map some := by
        rw [← hpairs]
        exact List.mem_map.mpr ⟨text, htext, assignment?_eq_none_iff.mpr hbad⟩
      obtain ⟨pair, -, hpair⟩ := List.mem_map.mp hnone
      cases hpair

end

/-- **Variables decode as written.** Texts are refused exactly if one of them has no equals sign or
starts with one, and the message quotes the first such text. Otherwise every name that is written
has the value that was written last, up to the end of the text. So pairs that are written as texts
are read back, and of two pairs with one name the later counts. -/
theorem variables_as_written :
    (∀ texts, (∃ e, assignments texts = .error e) ↔ ∃ text ∈ texts, Malformed text) ∧
      (∀ texts e, assignments texts = .error e →
        ∃ before text after, texts = before ++ text :: after ∧
          (∀ other ∈ before, ¬ Malformed other) ∧ Malformed text ∧
          e.message = "Expected key=value, got '" ++ text ++ "'") ∧
      (∀ texts vars, assignments texts = .ok vars → Decodes texts vars) ∧
      ∀ pairs : List (String × String), (∀ pair ∈ pairs, pair.1 ≠ "" ∧ '=' ∉ pair.1.toList) →
        ∃ vars, assignments (pairs.map assigning) = .ok vars ∧ (Pairs.keys vars).Nodup ∧
          ∀ name, Pairs.fetch name vars = Pairs.fetch name pairs.reverse := by
  refine ⟨fun texts => exists_error_iff, ?_, fun texts vars => decodes_of_ok, ?_⟩
  · intro texts e h
    obtain ⟨before, after, hsplit, hgood, hbad⟩ := assignmentsFrom_eq_error_iff.mp h
    exact ⟨before, e.text, after, hsplit, hgood, hbad, rfl⟩
  · intro pairs h
    refine ⟨_, assignments_assigning h, Pairs.nodup_keys_storeAll pairs List.nodup_nil, ?_⟩
    intro name
    rw [Pairs.fetch_storeAll, Pairs.fetch_nil, Option.or_none]

/-- A value may hold equals signs and may be empty, and the later of two values counts. -/
theorem later_value_counts :
    ∃ vars, assignments ["a=1", "b=", "a=x=y"] = .ok vars ∧
      Pairs.fetch "a" vars = some "x=y" ∧ Pairs.fetch "b" vars = some "" := by
  obtain ⟨vars, hvars, -, hfetch⟩ :=
    variables_as_written.2.2.2 [("a", "1"), ("b", ""), ("a", "x=y")] (by decide)
  refine ⟨vars, hvars, ?_, ?_⟩
  · rw [hfetch]
    rfl
  · rw [hfetch]
    rfl

end TemplateLookup.Command
