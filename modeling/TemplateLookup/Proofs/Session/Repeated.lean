/-
# TemplateLookup.Proofs.Session.Repeated -- the same rendering twice in a row

When nothing happens between two equal renderings, they give the same answer, with one
exception. A rendering that fails may have recorded the file that made it fail; if this
file has the time stamp of the template that was kept before, the next rendering takes
the kept template for current and runs it (`render_twice`). So the two answers differ only
when a template is overtaken that the first rendering needed; and they do differ, and the
first one is an error, when this is the template that was asked for. All this holds of every
engine. The exception is real: a file that cannot be decoded is refused once, and the text of
another file is given from then on (`refused_once`).
-/

import TemplateLookup.Proofs.Renderer.Repeated
import TemplateLookup.Proofs.Session.Transparency

namespace TemplateLookup

/-- The text of an answer to a rendering that went well. -/
def Answer.text? : Answer → Option Wide
  | .rendered text => some text
  | _ => none

namespace Session

section

variable [Template.Engine] [Encodings] [Yaml.Reader] [Command.ArgumentReader]

/-- The session and the studio after a rendering: the files are the same, and what the
studio works with is what the rendering left, but for the reports. -/
theorem step_render_leaves {s : Session} {id : String} {studio : Studio}
    (h : Pairs.fetch id s.studios = some studio) (name : Option String)
    (context : Template.Scope) :
    let left := (studio.renderer.render s.world (s.running studio) name context).2
    let next := (s.step (.render id name context)).session
    ∃ studio', Pairs.fetch id next.studios = some studio' ∧
      studio'.renderer = studio.renderer ∧ next.world = s.world ∧
      next.running studio' = { left with events := [] } := by
  intro left next
  have hnext : next = s.afterWork id studio left := by
    show (s.withStudio id fun studio => s.render id studio name context).session = _
    rw [withStudio, h]
    rfl
  have htable : (s.afterWork id studio left).table studio.table = left.table :=
    table_withTable_self s studio.table left.table
  refine ⟨{ studio with kept := left.kept, loads := left.loads }, ?_, rfl, ?_, ?_⟩
  · rw [hnext]
    exact Pairs.fetch_store_self id _ s.studios
  · rw [hnext]
    rfl
  · rw [hnext, running, htable]

/-- Two equal renderings in a row, with a renderer that checks what it keeps, while no
file fails on being opened. If the answers differ then a kept template was overtaken that the
first rendering loaded. If the template that is asked for is overtaken, the first answer is an
error and the second one differs from it. The session is arbitrary. -/
theorem render_twice {s : Session} {id : String} {studio : Studio} {l : Locator}
    (hstudio : Pairs.fetch id s.studios = some studio)
    (hreload : studio.renderer.options.autoReload = true)
    (hfiles : studio.renderer.supplier = .files l) (hopens : s.world.OpensAll)
    (name : Option String) (context : Template.Scope) :
    let first := s.step (.render id name context)
    let second := first.session.step (.render id name context)
    let start := s.running studio
    (second.answer ≠ first.answer →
        ∃ n ∈ studio.renderer.needed s.world start name context,
          Renderer.Overtaken studio.renderer l s.world start n) ∧
      (Renderer.Overtaken studio.renderer l s.world start name →
        (∃ e, first.answer = .problem (.render e)) ∧ second.answer ≠ first.answer) := by
  intro first second start
  obtain ⟨studio', hstudio', hrenderer, hworld, hrunning⟩ :=
    step_render_leaves hstudio name context
  -- both answers are renderings with one renderer, in the state before and in the one left
  have hfirst : first.answer = _ := step_render hstudio name context
  have hsecond : second.answer = _ := step_render hstudio' name context
  rw [hrenderer, hworld, hrunning] at hsecond
  have hagain : ∀ n, Renderer.Alike (studio.renderer.render s.world start name context).2
      { (studio.renderer.render s.world start name context).2 with events := [] } n :=
    fun n => ⟨rfl, rfl⟩
  refine ⟨fun hdiffer => ?_, fun hovertaken => ?_⟩
  · apply Classical.byContradiction
    intro hnone
    have hneeded : ∀ n ∈ studio.renderer.needed s.world start name context,
        ¬ Renderer.Overtaken studio.renderer l s.world start n :=
      fun n hn hovertaken => hnone ⟨n, hn, hovertaken⟩
    refine hdiffer ?_
    rw [hfirst, hsecond, Renderer.render_again hreload hfiles hopens hagain hneeded]
  · obtain ⟨⟨e, he⟩, hdiffer⟩ :=
      Renderer.render_again_ne hreload hfiles hopens hagain hovertaken
    constructor
    · exact ⟨e, hfirst.trans (congrArg Answer.ofRendering he)⟩
    · rw [hfirst, hsecond]
      exact fun hequal => hdiffer (Answer.ofRendering_injective hequal)

end

/-! ## A file that is refused once -/

/-- The file is rendered. Then a file that cannot be decoded appears in the first directory,
with the same time. -/
def spoiling : List Step := [.render "r" (some "x") [], .write "/q/x" [255] ⟨5, 0⟩]

/-- The kept template is overtaken by the file that cannot be decoded. -/
theorem overtaken_spoiling :
    let now := lone.after spoiling
    ∃ studio, Pairs.fetch "r" now.studios = some studio ∧ studio.renderer = searcher.renderer ∧
      Renderer.Overtaken searcher.renderer pair now.world (now.running studio) (some "x") := by
  intro now
  have hkept : (Pairs.fetch "r" now.studios).map (fun studio =>
      (Renderer.kept? (now.running studio) (some "x")).map Ready.stamp) =
      some (some (FileTime.stamp ⟨5, 0⟩)) := by decide +kernel
  have hentry : (Pairs.fetch "r" now.studios).map (fun studio =>
      (now.running studio).table.root? "x") = some (some "/p") := rfl
  have hrenderer : (Pairs.fetch "r" now.studios).map Studio.renderer =
      some searcher.renderer := rfl
  have hfound : (Locator.resolve now.world pair .empty (some "x")).result =
      .ok ⟨"x", "/q", ⟨.root, ["q", "x"]⟩, FileTime.stamp ⟨5, 0⟩, [255]⟩ := rfl
  obtain ⟨studio, hstudio⟩ : ∃ studio, Pairs.fetch "r" now.studios = some studio := ⟨_, rfl⟩
  rw [hstudio] at hkept hentry hrenderer
  obtain ⟨ready, hready, hstamp⟩ := Option.map_eq_some_iff.mp (Option.some.inj hkept)
  have hexists : now.world.exists? (candidate "/p" "/x") = .ok true := rfl
  refine ⟨studio, hstudio, Option.some.inj hrenderer, "x", ready, _, rfl, hready, hfound, ?_,
    ⟨_, rfl⟩, FileTime.stamp ⟨5, 0⟩, rfl, ?_⟩
  · refine ⟨"/x", "/p", rfl, Option.some.inj hentry, by decide, ?_⟩
    rintro ⟨e, he⟩
    cases hexists.symm.trans he
  · rw [hstamp]
    exact FileTime.same_stamp_self ⟨5, 0⟩

/-- The rendering fails, and the next one gives the text of the file that was kept. -/
theorem refused_once :
    let first := (lone.after spoiling).step (.render "r" (some "x") [])
    let second := first.session.step (.render "r" (some "x") [])
    (∃ e, first.answer = .problem (.render e)) ∧ second.answer ≠ first.answer ∧
      second.answer.text? = some (Wide.ofString "o") := by
  intro first second
  have hopens : (lone.after spoiling).world.OpensAll := World.opensAll_of_faults_nil rfl
  obtain ⟨studio, hstudio, hrenderer, hovertaken⟩ := overtaken_spoiling
  have hreload : studio.renderer.options.autoReload = true := by rw [hrenderer]; rfl
  have hfiles : studio.renderer.supplier = .files pair := by rw [hrenderer]; rfl
  obtain ⟨-, hdiffers⟩ := render_twice hstudio hreload hfiles hopens (some "x") []
  obtain ⟨hfirst, hdiffer⟩ := hdiffers (hrenderer ▸ hovertaken)
  exact ⟨hfirst, hdiffer, by decide +kernel⟩

end Session

end TemplateLookup
