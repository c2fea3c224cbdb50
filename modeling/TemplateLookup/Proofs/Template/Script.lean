/-
# TemplateLookup.Proofs.Template.Script -- what running a script preserves

A script touches the state only where it asks for a template. So what every answer preserves,
the whole run preserves: a relation between the state before and after (`run_keeps`), and
agreement with another run (`run_agrees`, `run_follows`). Two runs agree up to parting: the first
may go its own way, provided that the second bears a mark from then on, which tells the reason. A
script that passes refusals on ends where the file system refuses a template (`Passes`); then this
refusal is the result, and a refusal can only be one that was met (`refused_of_run`).
-/

import TemplateLookup.Template.Engine

namespace TemplateLookup.Template

namespace Script

variable {σ τ : Type} {offer : String → σ → Except LoadError Draft × σ}
  {offer' : String → τ → Except LoadError Draft × τ}

/-- What each answer does to the state, the whole run does. -/
theorem run_keeps {R : σ → σ → Prop} (hrefl : ∀ st, R st st)
    (htrans : ∀ x y z, R x y → R y z → R x z) (hoffer : ∀ name st, R st (offer name st).2)
    (s : Script) (st : σ) : R st (s.run offer st).2 := by
  induction s generalizing st with
  | finish result => exact hrefl st
  | load name next ih => exact htrans _ _ _ (hoffer name st) (ih _ _)

/-- Two runs agree in their results and keep their states related, unless they part. They may part
at a load where the second run is marked, if what the first one gives then is excused. The scripts
that are left have a property all along. -/
theorem run_follows (offer : String → σ → Except LoadError Draft × σ)
    (offer' : String → τ → Except LoadError Draft × τ) (P : Script → Prop) (R : σ → τ → Prop)
    (excused : Except Failure Wide → Prop) (marked : τ → Prop)
    (hload : ∀ name next st sp, P (.load name next) → R st sp →
      ((offer name st).1 = (offer' name sp).1 ∧ R (offer name st).2 (offer' name sp).2 ∧
          P (next (offer name st).1)) ∨
        excused (((Script.load name next).run offer st).1) ∧ marked (offer' name sp).2)
    (hstays : ∀ name sp, marked sp → marked (offer' name sp).2)
    {s : Script} (hs : P s) {st : σ} {sp : τ} (h : R st sp) :
    ((s.run offer st).1 = (s.run offer' sp).1 ∧ R (s.run offer st).2 (s.run offer' sp).2) ∨
      excused (s.run offer st).1 ∧ marked (s.run offer' sp).2 := by
  -- a mark stays to the end of the second run
  have hlast : ∀ (s : Script) sp, marked sp → marked (s.run offer' sp).2 := fun s =>
    run_keeps (R := fun sp sp' => marked sp → marked sp') (fun _ => id)
      (fun _ _ _ hxy hyz hx => hyz (hxy hx)) hstays s
  induction s generalizing st sp with
  | finish result => exact .inl ⟨rfl, h⟩
  | load name next ih =>
    rcases hload name next st sp hs h with ⟨hsame, hrelated, hnext⟩ | ⟨hexcused, hmarked⟩
    · rw [run, run, ← hsame]
      exact ih _ hnext hrelated
    · exact .inr ⟨hexcused, hlast (next (offer' name sp).1) _ hmarked⟩

/-- Two runs agree in their results and keep their states related, unless a load marks the second
run. -/
theorem run_agrees (offer : String → σ → Except LoadError Draft × σ)
    (offer' : String → τ → Except LoadError Draft × τ) (R : σ → τ → Prop) (marked : τ → Prop)
    (hload : ∀ name st sp, R st sp →
      ((offer name st).1 = (offer' name sp).1 ∧ R (offer name st).2 (offer' name sp).2) ∨
        marked (offer' name sp).2)
    (hstays : ∀ name sp, marked sp → marked (offer' name sp).2)
    (s : Script) (st : σ) (sp : τ) (h : R st sp) :
    ((s.run offer st).1 = (s.run offer' sp).1 ∧ R (s.run offer st).2 (s.run offer' sp).2) ∨
      marked (s.run offer' sp).2 := by
  have hfollows := run_follows offer offer' (fun _ => True) R (fun _ => True) marked
    (fun name next st sp _ hrelated => by
      rcases hload name st sp hrelated with ⟨hsame, hafter⟩ | hmarked
      · exact .inl ⟨hsame, hafter, trivial⟩
      · exact .inr ⟨trivial, hmarked⟩) hstays (s := s) trivial h
  exact hfollows.imp_right And.right

/-! ## Refusals of the file system -/

/-- A refusal that a load meets ends the script and is its result, and no script ends with a
refusal for another reason. -/
def Passes : Script → Prop
  | .finish result => ∀ e, result ≠ .error (.load (.system e))
  | .load _ next =>
    (∀ e, next (.error (.system e)) = .finish (.error (.load (.system e)))) ∧
      ∀ answer, (∀ e, answer ≠ .error (.system e)) → (next answer).Passes

/-- After a load the script still passes refusals on, or it is over. -/
theorem Passes.next {name : String} {next : Except LoadError Draft → Script}
    (h : (Script.load name next).Passes) (answer : Except LoadError Draft) :
    (next answer).Passes ∨ ∃ result, next answer = .finish result := by
  by_cases hmet : ∃ e, answer = .error (.system e)
  · obtain ⟨e, rfl⟩ := hmet
    exact .inr ⟨_, h.1 e⟩
  · exact .inl (h.2 answer fun e he => hmet ⟨e, he⟩)

theorem Passes.run_of_refused {name : String} {next : Except LoadError Draft → Script}
    (h : (Script.load name next).Passes) {st : σ} {e : SystemError}
    (hrefused : (offer name st).1 = .error (.system e)) :
    ((Script.load name next).run offer st).1 = .error (.load (.system e)) := by
  rw [run, hrefused, h.1 e]
  rfl

/-- A refusal that a run ends with was met on the way. -/
theorem Passes.refused_of_run {s : Script} (h : s.Passes) {st : σ} {e : SystemError}
    (hrun : (s.run offer st).1 = .error (.load (.system e))) :
    ∃ name st', (offer name st').1 = .error (.system e) := by
  induction s generalizing st with
  | finish result => exact absurd hrun (h e)
  | load name next ih =>
    by_cases hmet : ∃ e', (offer name st).1 = .error (.system e')
    · obtain ⟨e', he'⟩ := hmet
      cases (h.run_of_refused he').symm.trans hrun
      exact ⟨name, st, he'⟩
    · exact ih _ (h.2 _ fun e' he' => hmet ⟨e', he'⟩) hrun

end Script

/-- An engine passes refusals on. -/
def Engine.PassesRefusals [Engine] : Prop :=
  ∀ draft context, (Engine.script draft context).Passes

end TemplateLookup.Template
