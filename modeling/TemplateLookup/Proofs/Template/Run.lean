/-
# TemplateLookup.Proofs.Template.Run -- the small language passes refusals on

Expressions fail for reasons of their own, never because something could not be loaded
(`value_unloaded`). A body asks for templates only where it embeds them, and there it ends with
whatever kept the template from being loaded. So the scripts of the small language pass refusals
on (`passes_script`): by induction over the body, then over the depth of the embedding.
-/

import TemplateLookup.Proofs.Template.Script
import TemplateLookup.Template.Run

namespace TemplateLookup.Template

/-! ## Failures of expressions -/

/-- The failure is not that of loading a template. -/
def Failure.Unloaded (f : Failure) : Prop := ∀ e, f ≠ .load e

theorem unloaded_raised (message : String) : (Failure.raised message).Unloaded := nofun

theorem realQuotient_unloaded {x y : Number.Binary64} {f : Failure}
    (h : realQuotient x y = .error f) : f.Unloaded := by
  unfold realQuotient at h
  split at h <;> cases h
  exact unloaded_raised _

theorem intQuotient_unloaded {a b : Int} {f : Failure} (h : intQuotient a b = .error f) :
    f.Unloaded := by
  unfold intQuotient at h
  split at h
  · cases h
    exact unloaded_raised _
  · generalize Number.Binary64.ofRatio _ _ _ = q at h
    cases q <;> cases h
    exact unloaded_raised _

theorem realOfInt_unloaded {n : Int} {f : Failure} (h : realOfInt n = .error f) :
    f.Unloaded := by
  -- the function is opened without its argument, whose rounding must stay closed
  generalize hopen : realOfInt = g at h
  delta realOfInt at hopen
  subst hopen
  dsimp only at h
  generalize Number.Binary64.ofInt n = x at h
  cases x <;> cases h
  exact unloaded_raised _

/-- A failure of two computations in order is one of theirs. -/
theorem bind_error_cases {α β : Type} {x : Except Failure α} {next : α → Except Failure β}
    {f : Failure} (h : (x >>= next) = .error f) :
    x = .error f ∨ ∃ a, x = .ok a ∧ next a = .error f := by
  cases x with
  | error f' =>
    cases h
    exact .inl rfl
  | ok a => exact .inr ⟨a, rfl, h⟩

theorem map_error {α β : Type} {x : Except Failure α} {g : α → β} {f : Failure}
    (h : x.map g = .error f) : x = .error f := by
  cases x with
  | error f' =>
    cases h
    rfl
  | ok a => cases h

theorem divided_unloaded {left right : Data} {f : Failure} (h : divided left right = .error f) :
    f.Unloaded := by
  unfold divided at h
  split at h
  · exact intQuotient_unloaded (map_error h)
  · rcases bind_error_cases h with hx | ⟨x, -, hq⟩
    · exact realOfInt_unloaded hx
    · exact realQuotient_unloaded (map_error hq)
  · rcases bind_error_cases h with hy | ⟨y, -, hq⟩
    · exact realOfInt_unloaded hy
    · exact realQuotient_unloaded (map_error hq)
  · exact realQuotient_unloaded (map_error h)
  · cases h
    exact unloaded_raised _

theorem dividedBy_unloaded {left right : Value} {f : Failure} (h : left.dividedBy right = .error f) :
    f.Unloaded := by
  unfold Value.dividedBy at h
  split at h
  · exact divided_unloaded (map_error h)
  all_goals
    cases h
    exact unloaded_raised _

theorem value_unloaded (e : Expr) (bound : Bindings) (f : Failure)
    (h : e.value bound = .error f) : f.Unloaded := by
  induction e generalizing f with
  | «variable» name => cases h
  | literal v => cases h
  | quotient a b iha ihb =>
    rw [Expr.value] at h
    rcases bind_error_cases h with ha | ⟨x, -, h⟩
    · exact iha f ha
    · rcases bind_error_cases h with hb | ⟨y, -, h⟩
      · exact ihb f hb
      · exact dividedBy_unloaded h

theorem items_unloaded (v : Value) (f : Failure) (h : v.items = .error f) : f.Unloaded := by
  unfold Value.items at h
  split at h <;> cases h
  exact unloaded_raised _

/-! ## Scripts of bodies -/

namespace Script

theorem passes_text (t : Wide) : (text t).Passes := nofun

theorem passes_fail {f : Failure} (h : ∀ e, f ≠ .load (.system e)) : (fail f).Passes :=
  fun e he => h e (Except.error.inj he)

/-- A script passes refusals on if both of its parts do. -/
theorem Passes.andThen {first : Script} {next : Wide → Script} (h : first.Passes)
    (hnext : ∀ t, (next t).Passes) : (first.andThen next).Passes := by
  induction first with
  | finish result =>
    cases result with
    | ok t => exact hnext t
    | error f => exact h
  | load name answer ih =>
    refine ⟨fun e => ?_, fun a ha => ih a (h.2 a ha)⟩
    show (answer (.error (.system e))).andThen next = _
    rw [h.1 e]
    rfl

theorem Passes.append {first second : Script} (h : first.Passes) (h' : second.Passes) :
    (first.append second).Passes :=
  h.andThen fun t => h'.andThen fun more => passes_text (t ++ more)

theorem passes_all {scripts : List Script} (h : ∀ s ∈ scripts, s.Passes) : (all scripts).Passes := by
  induction scripts with
  | nil => exact passes_text []
  | cons s rest ih =>
    exact (h s List.mem_cons_self).append (ih fun t ht => h t (List.mem_cons_of_mem s ht))

theorem passes_ofExcept {α : Type} {r : Except Failure α} {next : α → Script}
    (hr : ∀ f, r = .error f → f.Unloaded) (h : ∀ a, (next a).Passes) :
    (ofExcept r next).Passes := by
  cases r with
  | error f => exact passes_fail fun e => hr f rfl (.system e)
  | ok a => exact h a

end Script

/-- A body passes on what its embedded templates pass on. -/
theorem Body.passes_script {embedded : String → Bindings → Script}
    (h : ∀ name bound, (embedded name bound).Passes) (escapes : Bool) (body : Body)
    (bound : Bindings) : (body.script embedded escapes bound).Passes := by
  induction body generalizing bound with
  | done => exact Script.passes_text []
  | text s rest ih => exact (Script.passes_text _).append (ih bound)
  | print e rest ih =>
    exact Script.passes_ofExcept (value_unloaded e bound) fun v =>
      (Script.passes_text _).append (ih bound)
  | branch condition yes no rest ihyes ihno ih =>
    refine Script.passes_ofExcept (value_unloaded condition bound) fun v => .append ?_ (ih bound)
    split
    · exact ihyes bound
    · exact ihno bound
  | loop name items each otherwise rest iheach ihother ih =>
    refine Script.passes_ofExcept (value_unloaded items bound) fun v =>
      Script.passes_ofExcept (items_unloaded v) fun vs => .append ?_ (ih bound)
    split
    · exact ihother bound
    · -- one script for each item, with bindings of its own
      refine Script.passes_all fun s hs => ?_
      obtain ⟨item, -, rfl⟩ := List.mem_map.mp hs
      exact iheach _
  | embed name rest ih => exact (h name bound).append (ih bound)

namespace Draft

theorem passes_scriptFrom (depth : Nat) (draft : Draft) (bound : Bindings) :
    (scriptFrom depth draft bound).Passes := by
  induction depth generalizing draft bound with
  | zero => exact Script.passes_fail nofun
  | succ depth ih =>
    rw [scriptFrom]
    cases Body.parse draft.spacing draft.text with
    | error flaw => exact Script.passes_fail nofun
    | ok body =>
      apply Body.passes_script
      intro name inner
      refine ⟨fun e => rfl, fun answer hanswer => ?_⟩
      cases answer with
      | error e =>
        refine Script.passes_fail fun refusal he => hanswer refusal ?_
        rw [Failure.load.inj he]
      | ok embedded => exact ih embedded inner

/-- The scripts of the small language pass refusals on. -/
theorem passes_script (draft : Draft) (context : Scope) : (draft.script context).Passes := by
  rw [script]
  split
  · exact Script.passes_fail nofun
  · exact passes_scriptFrom depthLimit draft _

end Draft

end TemplateLookup.Template
