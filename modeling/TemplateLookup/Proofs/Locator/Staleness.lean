/-
# TemplateLookup.Proofs.Locator.Staleness -- when a template counts as fresh

A template is fresh exactly when the file it was loaded from and the first readable
one have the same path and the time of that path is the known one
(`isStale_eq_false_iff`). The question is refused exactly when something could be
loaded now and whether the path it was loaded from exists cannot be told
(`isStale_eq_error_iff`).
-/

import TemplateLookup.Proofs.Locator.Search

namespace TemplateLookup.Locator

/-- The root that counts as the one a template was loaded from. -/
def loadedRoot (table : Provenance) (name : Option String) (current : String) : String :=
  (table.root? (name.getD "")).getD current

theorem hasChanged_eq_false_iff (w : World) (location loaded current : String)
    (known : Number.Numeral) :
    hasChanged w location loaded current known = .ok false ↔
      candidate loaded location = candidate current location ∧
        w.isReadable (candidate loaded location) = true ∧
        ∃ stamp, w.stampAt? (candidate loaded location) = some stamp ∧
          known.equals stamp = true := by
  constructor
  · -- the tests are passed one after the other
    intro h
    rw [hasChanged] at h
    cases hexists : w.exists? (candidate loaded location) with
    | error e =>
      simp only [hexists] at h
      cases h
    | ok found =>
      cases found with
      | false =>
        simp only [hexists] at h
        cases h
      | true =>
        simp only [hexists] at h
        split at h
        · cases h
        · rename_i hsame
          simp only [ne_eq, not_or, Decidable.not_not] at hsame
          cases hstamp : w.stampAt? (candidate loaded location) with
          | none =>
            rw [hstamp] at h
            cases h
          | some stamp =>
            rw [hstamp] at h
            injection h with heq
            exact ⟨hsame.1.symm, hsame.2, stamp, rfl, by simpa using heq⟩
  · rintro ⟨hsame, hread, stamp, hstamp, hequal⟩
    have hno : ¬ (candidate current location ≠ candidate loaded location ∨
        ¬ w.isReadable (candidate loaded location) = true) := by
      rw [hsame, hread] at *
      simp
    rw [hasChanged]
    simp only [World.exists?_of_isReadable hread, if_neg hno, hstamp, hequal, Bool.not_true]

theorem hasChanged_eq_error_iff (w : World) (location loaded current : String)
    (known : Number.Numeral) (e : SystemError) :
    hasChanged w location loaded current known = .error e ↔
      w.exists? (candidate loaded location) = .error e := by
  rw [hasChanged]
  cases hexists : w.exists? (candidate loaded location) with
  | error e' => simp only [Except.error.injEq]
  | ok found =>
    cases found with
    | false => simp
    | true =>
      simp only [reduceCtorEq, iff_false]
      split
      · simp
      · split <;> simp

theorem isStale_eq_false_iff (w : World) (l : Locator) (table : Provenance)
    (name : Option String) (known : Number.Numeral) :
    isStale w l table name known = .ok false ↔
      ∃ location current, Name.accept name = .ok location ∧
        readableRoot w location l.roots.names = some current ∧
        candidate (loadedRoot table name current) location = candidate current location ∧
        ∃ stamp, w.stampAt? (candidate current location) = some stamp ∧
          known.equals stamp = true := by
  rw [isStale]
  cases hname : Name.accept name with
  | error e => simp
  | ok location =>
    cases hroot : readableRoot w location l.roots.names with
    | none => simp [hroot]
    | some current =>
      simp only [hroot, hasChanged_eq_false_iff]
      constructor
      · rintro ⟨hsame, -, stamp, hstamp, hequal⟩
        rw [hsame] at hstamp
        exact ⟨location, current, rfl, hroot, hsame, stamp, hstamp, hequal⟩
      · rintro ⟨location', current', hloc, hroot', hsame, stamp, hstamp, hequal⟩
        cases hloc
        rw [hroot] at hroot'
        cases hroot'
        have hread := (readableRoot_eq_some hroot).2
        refine ⟨hsame, ?_, stamp, ?_, hequal⟩
        · exact hsame ▸ hread
        · exact hsame ▸ hstamp

theorem isStale_eq_error_iff (w : World) (l : Locator) (table : Provenance)
    (name : Option String) (known : Number.Numeral) (e : SystemError) :
    isStale w l table name known = .error e ↔
      ∃ location current, Name.accept name = .ok location ∧
        readableRoot w location l.roots.names = some current ∧
        w.exists? (candidate (loadedRoot table name current) location) = .error e := by
  rw [isStale]
  cases hname : Name.accept name with
  | error e' => simp
  | ok location =>
    cases hroot : readableRoot w location l.roots.names with
    | none => simp [hroot]
    | some current =>
      simp only [hroot, hasChanged_eq_error_iff]
      constructor
      · intro h
        exact ⟨location, current, rfl, hroot, h⟩
      · rintro ⟨location', current', hloc, hroot', h⟩
        cases hloc
        rw [hroot] at hroot'
        cases hroot'
        exact h

/-- The question is refused exactly when something could be loaded now and whether the
candidate of the root in the table exists cannot be told. -/
theorem isStale_refused_iff (w : World) (l : Locator) (table : Provenance)
    (name : Option String) (known : Number.Numeral) :
    (∃ e, isStale w l table name known = .error e) ↔
      ∃ location root, Name.accept name = .ok location ∧
        (readableRoot w location l.roots.names).isSome = true ∧
        table.root? (name.getD "") = some root ∧
        ∃ e, w.exists? (candidate root location) = .error e := by
  constructor
  · rintro ⟨e, h⟩
    obtain ⟨location, current, hname, hcurrent, hrefused⟩ :=
      (isStale_eq_error_iff w l table name known e).mp h
    rw [loadedRoot] at hrefused
    cases htable : table.root? (name.getD "") with
    | none =>
      -- the root of now has a readable candidate, which exists
      have hexists := World.exists?_of_isReadable (readableRoot_eq_some hcurrent).2
      rw [htable, Option.getD_none, hexists] at hrefused
      cases hrefused
    | some root =>
      rw [htable, Option.getD_some] at hrefused
      refine ⟨location, root, hname, ?_, rfl, e, hrefused⟩
      rw [hcurrent, Option.isSome_some]
  · rintro ⟨location, root, hname, hsome, htable, e, hrefused⟩
    obtain ⟨current, hcurrent⟩ := Option.isSome_iff_exists.mp hsome
    refine ⟨e, (isStale_eq_error_iff w l table name known e).mpr
      ⟨location, current, hname, hcurrent, ?_⟩⟩
    rw [loadedRoot, htable, Option.getD_some]
    exact hrefused

end TemplateLookup.Locator
