/-
# TemplateLookup.Proofs.Session.Transparency -- kept templates over a whole run

Whatever is done in a session, as long as a renderer is not opened again, every
template that it keeps stems from a file of some world that the run passed through
(`tended_after`). So a rendering at any moment of a run gives what a renderer gives
that was opened just now, unless a kept template is blocked; where one is and the engine
passes on what the file system refuses, the rendering fails (`render_as_if_fresh_iff`).
The exception is real: in the run `detour` a directory gives way to a link whose target has
an overlong name, and a template that could be loaded from elsewhere is not rendered
(`detour_shows`).
-/

import TemplateLookup.Proofs.Renderer.Transparency
import TemplateLookup.Proofs.Session.History
import TemplateLookup.Proofs.Template.Run
import TemplateLookup.Proofs.World.Walk
import TemplateLookup.Standard

namespace TemplateLookup

/-- The step opens a renderer under a name. -/
def Step.Opens (id : String) (a : Step) : Prop :=
  ∃ parts supplier options, a = .renderer id parts supplier options

/-- The answer to a step that renders. -/
def Answer.ofRendering : Except RenderError Wide → Answer
  | .ok text => .rendered text
  | .error e => .problem (.render e)

theorem Answer.ofRendering_injective {x y : Except RenderError Wide}
    (h : ofRendering x = ofRendering y) : x = y := by
  cases x <;> cases y <;> cases h <;> rfl

/-- Whether an entry has this content if it is a file. -/
def Entry.agrees (content : Bytes) : Entry → Bool
  | .file c _ => c = content
  | _ => true

/-- Contents are determined by time stamps when they are all the same and nothing fails. -/
theorem timed_of_uniform {seen : World → Prop} {content : Bytes}
    (h : ∀ w, seen w → w.faults = [] ∧ ∀ e ∈ w.entries, e.2.agrees content = true) :
    Timed seen := by
  have hread : ∀ w, seen w → ∀ p c time, w.fileAt? p = some (c, time) →
      w.readOpened p c = .ok content := by
    intro w hw p c time hp
    obtain ⟨hfaults, hentries⟩ := h w hw
    have hc : c = content := by
      obtain ⟨loc, hentry⟩ := World.exists_entry_of_fileAt? hp
      rw [World.entry?] at hentry
      split at hentry
      · cases hentry
      · exact of_decide_eq_true (hentries _ (Pairs.mem_of_fetch hentry))
    rw [World.readOpened, World.faultAt, hfaults, hc]
    rfl
  intro w w' p p' c c' time time' hw hw' hp hp' _
  exact (hread w hw p c time hp).trans (hread w' hw' p' c' time' hp').symm

namespace Session

section

variable [Template.Engine] [Encodings] [Yaml.Reader] [Command.ArgumentReader]

/-! ## The worlds of a run -/

/-- The worlds that a run passes through, from the first to the last. -/
def Passed (s : Session) (steps : List Step) (w : World) : Prop :=
  ∃ before rest, steps = before ++ rest ∧ w = (s.after before).world

theorem passed_first (s : Session) (steps : List Step) : s.Passed steps s.world :=
  ⟨[], steps, rfl, rfl⟩

theorem passed_last (s : Session) (steps : List Step) : s.Passed steps (s.after steps).world :=
  ⟨steps, [], (List.append_nil steps).symm, rfl⟩

theorem passed_cons {s : Session} {a : Step} {rest : List Step} {w : World}
    (h : (s.step a).session.Passed rest w) : s.Passed (a :: rest) w := by
  obtain ⟨before, more, hrest, hworld⟩ := h
  exact ⟨a :: before, more, congrArg (a :: ·) hrest, hworld⟩

/-! ## The invariant over a run -/

/-- A renderer is held under a name, and what it keeps is faithful. -/
def Tended (s : Session) (id : String) (r : Renderer) (seen : World → Prop) : Prop :=
  ∃ studio, Pairs.fetch id s.studios = some studio ∧ studio.renderer = r ∧
    r.Faithful seen studio.kept

theorem tended_step {s : Session} {id : String} {r : Renderer} {seen : World → Prop} {a : Step}
    (h : s.Tended id r seen) (hw : seen s.world) (ha : ¬ a.Opens id) :
    (s.step a).session.Tended id r seen := by
  obtain ⟨studio, hfetch, hrenderer, hkept⟩ := h
  have heffect := step_effect s a
  generalize s.step a = stepped at heffect
  cases heffect with
  | quiet w idle => exact ⟨studio, hfetch, hrenderer, hkept⟩
  | built id' supplier shared idle => exact ⟨studio, hfetch, hrenderer, hkept⟩
  | recorded found => exact ⟨studio, hfetch, hrenderer, hkept⟩
  | looked found => exact ⟨studio, hfetch, hrenderer, hkept⟩
  | @sourced _ name encoding watch held found =>
    refine ⟨studio, ?_, hrenderer, hkept⟩
    rw [source]
    split <;> exact hfetch
  | @opened id' parts supplier options renderer table next =>
    have hid : id ≠ id' := fun he => ha ⟨parts, supplier, options, he ▸ rfl⟩
    refine ⟨studio, ?_, hrenderer, hkept⟩
    exact (Pairs.fetch_store_of_ne _ _ hid).trans hfetch
  | @worked _ id' studio' st w taken _ found target indirect work =>
    by_cases hid : id = id'
    · subst hid
      cases hfetch.symm.trans found
      subst hrenderer
      refine ⟨_, Pairs.fetch_store_self id _ s.studios, rfl, ?_⟩
      exact work.faithful hw hkept
    · refine ⟨studio, ?_, hrenderer, hkept⟩
      exact (Pairs.fetch_store_of_ne _ _ hid).trans hfetch

theorem tended_after {s : Session} {id : String} {r : Renderer} {seen : World → Prop}
    {steps : List Step} (h : s.Tended id r seen) (hworlds : ∀ w, s.Passed steps w → seen w)
    (hsteps : ∀ a ∈ steps, ¬ a.Opens id) : (s.after steps).Tended id r seen := by
  induction steps generalizing s with
  | nil => exact h
  | cons a rest ih =>
    have hfirst := hworlds s.world (s.passed_first (a :: rest))
    refine ih (tended_step h hfirst (hsteps a List.mem_cons_self)) ?_ ?_
    · exact fun w hw => hworlds w (passed_cons hw)
    · exact fun b hb => hsteps b (List.mem_cons_of_mem a hb)

/-! ## Transparency -/

/-- The answer to rendering with a renderer that is there. -/
theorem step_render {s : Session} {id : String} {studio : Studio}
    (h : Pairs.fetch id s.studios = some studio) (name : Option String)
    (context : Template.Scope) :
    (s.step (.render id name context)).answer =
      .ofRendering (studio.renderer.render s.world (s.running studio) name context).1 := by
  show (s.withStudio id fun studio => s.render id studio name context).answer = _
  rw [withStudio, h]
  dsimp only [render]
  cases (studio.renderer.render s.world (s.running studio) name context).1 <;> rfl

/-- A rendering in a run gives what it gives with a renderer that keeps nothing, on any
table, if no kept template that it needs is blocked. If the engine passes refusals on then
it does so in no other case: else the rendering is refused. The renderer kept nothing at the
start of the run and was not opened again since; what reading files gives is determined by
time stamps in the worlds of the run, and no file fails on being opened now. Besides this the
run is arbitrary. -/
theorem render_as_if_fresh_iff {s : Session} {id : String} {studio : Studio} {l : Locator}
    {steps : List Step} (hstudio : Pairs.fetch id s.studios = some studio)
    (hnew : studio.kept = []) (hreload : studio.renderer.options.autoReload = true)
    (hfiles : studio.renderer.supplier = .files l) (hsteps : ∀ a ∈ steps, ¬ a.Opens id)
    (htimed : Timed (s.Passed steps)) (hopens : (s.after steps).world.OpensAll)
    (name : Option String) (context : Template.Scope) (table : Provenance) :
    let now := s.after steps
    let answer := (now.step (.render id name context)).answer
    let fresh := (studio.renderer.render now.world ⟨[], 0, table, []⟩ name context).1
    let needed := (studio.renderer.renderAfresh now.world name context).2
    ∃ current, Pairs.fetch id now.studios = some current ∧
      ((∀ n ∈ needed, ¬ Renderer.Blocked l now.world (now.running current) n) →
        answer = .ofRendering fresh) ∧
      (Template.Engine.PassesRefusals →
        (answer = .ofRendering fresh ↔
          ∀ n ∈ needed, ¬ Renderer.Blocked l now.world (now.running current) n) ∧
        ((∃ n ∈ needed, Renderer.Blocked l now.world (now.running current) n) →
          ∃ error e, answer = .problem (.render error) ∧ error.Refuses e ∧
            e.cause.isAbsence = false)) := by
  have htended : s.Tended id studio.renderer (s.Passed steps) :=
    ⟨studio, hstudio, rfl, hnew ▸ Renderer.faithful_nil studio.renderer (s.Passed steps)⟩
  obtain ⟨current, hcurrent, hrenderer, hfaithful⟩ :=
    tended_after htended (fun w hw => hw) hsteps
  obtain ⟨hfree, hrefused⟩ := Renderer.render_eq_fresh_iff htimed hreload hfiles hopens
    (s.passed_last steps) ((s.after steps).running current) hfaithful table name context
  intro now answer fresh needed
  have hanswer : answer = .ofRendering
      (studio.renderer.render now.world (now.running current) name context).1 := by
    rw [← hrenderer]
    exact step_render hcurrent name context
  refine ⟨current, hcurrent, fun h => ?_, fun hpasses => ⟨⟨fun hequal n hn hblocked => ?_,
    fun h => ?_⟩, fun hblocked => ?_⟩⟩
  · rw [hanswer, hfree h]
  · rw [hanswer] at hequal
    exact (hrefused hpasses ⟨n, hn, hblocked⟩).1 (Answer.ofRendering_injective hequal)
  · rw [hanswer, hfree h]
  · obtain ⟨-, error, e, herror, hrefuses, hcause⟩ := hrefused hpasses hblocked
    refine ⟨error, e, ?_, hrefuses, hcause⟩
    rw [hanswer, herror]
    rfl

end

/-! ## A run that shows the difference -/

/-- The search of two directories. -/
def pair : Locator := ⟨Locator.defaultKind, ⟨["/q", "/p"]⟩⟩

/-- A renderer that searches two directories. -/
def searcher : Studio := ⟨⟨.files pair, "utf-8", .default⟩, .own 0, [], 0, []⟩

/-- The second of the directories holds a file. -/
def lone : Session :=
  { start ⟨[(["p"], .directory), (["p", "x"], .file [111] ⟨5, 0⟩)], [], [], 0⟩ [] with
    studios := [("r", searcher)] }

/-- A name of 256 bytes. -/
def longName : List Char := List.replicate 64 '𝔫'

/-- The file is rendered. Then the same file appears in the first directory, and the
second one gives way to a link with an overlong target. -/
def detour : List Step :=
  [.render "r" (some "x") [], .write "/q/x" [111] ⟨5, 0⟩, .remove "/p",
    .link "/p" (String.ofList longName)]

theorem timed_detour : Timed (lone.Passed detour) := by
  have huniform : ∀ k ≤ detour.length, (lone.after (detour.take k)).world.faults = [] ∧
      (lone.after (detour.take k)).world.entries.all (fun e => e.2.agrees [111]) = true := by
    decide +kernel
  apply timed_of_uniform
  rintro w ⟨before, rest, hsteps, rfl⟩
  have hbefore : before = detour.take before.length := by
    rw [hsteps, List.take_left]
  have hlength : before.length ≤ detour.length := by
    rw [hsteps, List.length_append]
    exact Nat.le_add_right ..
  obtain ⟨hfaults, hall⟩ := huniform before.length hlength
  rw [hbefore]
  exact ⟨hfaults, List.all_eq_true.mp hall⟩

/-- The link makes the path of the kept template lead to the overlong name. -/
theorem look_detour :
    (lone.after detour).world.look (candidate "/p" "/x") = .error .nameTooLong := by
  have hlink : (lone.after detour).world.descend [] ["p", "x"] =
      .link [] (String.ofList longName) ["x"] := rfl
  refine World.look_of_long_link rfl hlink ?_ rfl ?_
  · decide
  · decide +kernel

/-- A rendering that is refused although a new renderer gives the text. -/
theorem detour_shows :
    let now := lone.after detour
    (searcher.renderer.render now.world ⟨[], 0, .empty, []⟩ (some "x") []).1 =
        .ok (Wide.ofString "o") ∧
      (now.step (.render "r" (some "x") [])).answer ≠ .rendered (Wide.ofString "o") := by
  intro now
  have hsteps : ∀ a ∈ detour, ¬ a.Opens "r" := by
    rintro a ha ⟨parts, supplier, options, rfl⟩
    simp [detour] at ha
  have hopens : now.world.OpensAll := World.opensAll_of_faults_nil rfl
  have hfresh : (searcher.renderer.render now.world ⟨[], 0, .empty, []⟩ (some "x") []).1 =
      .ok (Wide.ofString "o") := rfl
  refine ⟨hfresh, ?_⟩
  have hstudio : Pairs.fetch "r" lone.studios = some searcher := rfl
  obtain ⟨current, hcurrent, -, hpassing⟩ :=
    render_as_if_fresh_iff hstudio rfl rfl rfl hsteps timed_detour hopens (some "x") [] .empty
  have hkept : (Pairs.fetch "r" now.studios).map (fun studio =>
      (Renderer.kept? (now.running studio) (some "x")).isSome) = some true := rfl
  have hentry : (Pairs.fetch "r" now.studios).map (fun studio =>
      (now.table studio.table).root? "x") = some (some "/p") := rfl
  rw [hcurrent] at hkept hentry
  have hunknown : ∃ e, now.world.exists? (candidate "/p" "/x") = .error e := by
    rw [World.exists?, look_detour]
    exact ⟨_, rfl⟩
  have hblocked : Renderer.Blocked pair now.world (now.running current) (some "x") :=
    ⟨Option.some.inj hkept, "/x", "/p", rfl, rfl, Option.some.inj hentry, hunknown⟩
  -- a blocked name that is needed makes the answers differ
  obtain ⟨hiff, -⟩ := hpassing Template.Draft.passes_script
  intro hanswer
  refine hiff.mp ?_ (some "x") (Renderer.renderAfresh_mem ..) hblocked
  rw [hfresh]
  exact hanswer

end Session

end TemplateLookup
