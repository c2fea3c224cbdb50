/-
# TemplateLookup.Proofs.Session.Rendering -- how renderings of a session end

Whatever was done before in a session, a rendering ends in one of the ways of `Renderer.Ends`.
Its callers are told that the name is not there, or that a value is wrong, as when the template
cannot be decoded or fails while it runs, and whatever the templates do that the engine asks
for, they are told no more. `rendering_announced_iff` says when the outcome is one of these: always,
but for the four exceptions of `Renderer.Escapes`, which all concern the template itself that was
asked for. A template without a condition after its `if` shows the first one: asked for it is
malformed, and no caller was told of that (`unconditional_unannounced`).
-/

import TemplateLookup.Proofs.Renderer.Outcome
import TemplateLookup.Proofs.Session.Boundary

namespace TemplateLookup

namespace Session

/-! ## Refused checks -/

/-- The check of a kept template is refused exactly where the root in the table strays. -/
theorem checkRefused_iff {r : Renderer} {w : World} {st : Running} {name : Option String}
    {e : SystemError} :
    Renderer.CheckRefused r w st name e ↔
      (Renderer.kept? st name).isSome = true ∧ r.options.autoReload = true ∧
        ∃ l location root cause, r.supplier = .files l ∧
          Locator.Strays w l st.table name location root cause ∧
          e = ⟨cause, some (candidate root location).toString⟩ := by
  -- a check is refused where the question whether the template is stale is refused
  have hcheck : ∀ l, r.supplier = .files l → ∀ stamp,
      Source.isCurrent w r.supplier st.table name stamp = .error e ↔
        ∃ location root cause, Locator.Strays w l st.table name location root cause ∧
          e = ⟨cause, some (candidate root location).toString⟩ := by
    intro l hfiles stamp
    have hstale := Locator.isStale_eq_error_iff_strays w l st.table name (.real stamp) e
    rw [← hstale, hfiles]
    show (Locator.isStale w l st.table name (.real stamp)).map (!·) = .error e ↔ _
    cases Locator.isStale w l st.table name (.real stamp) <;> simp [Except.map]
  constructor
  · rintro ⟨ready, hkept, hreload, hrefused⟩
    cases hsupplier : r.supplier with
    | barren kind =>
      rw [hsupplier] at hrefused
      simp [Source.isCurrent, Supplier.isStale, Except.map] at hrefused
    | files l =>
      obtain ⟨location, root, cause, hstrays, he⟩ := (hcheck l hsupplier ready.stamp).mp hrefused
      exact ⟨by simp [hkept], hreload, l, location, root, cause, rfl, hstrays, he⟩
  · rintro ⟨hkept, hreload, l, location, root, cause, hfiles, hstrays, he⟩
    obtain ⟨ready, hready⟩ := Option.isSome_iff_exists.mp hkept
    have hrefused := (hcheck l hfiles ready.stamp).mpr ⟨location, root, cause, hstrays, he⟩
    exact ⟨ready, hready, hreload, hrefused⟩

/-! ## The outcome of a rendering -/

/-- In any session a rendering gives an outcome exactly when it can end so. Its callers are told of
a text, of a name that is not there, and of a wrong value. The outcome is one of these unless the
template that was asked for escapes: it has to be loaded and has a flaw that is not one of a value,
cannot be read, or is to be decoded by an encoding that is not one of texts; or it is kept and its
check is refused, which is where the root in the table strays. Then this is the outcome. The name
is not there, whatever is wrong with it, exactly when it has to be loaded and a look-up fails. -/
theorem rendering_announced_iff [Template.Engine] [Encodings] [Yaml.Reader]
    [Command.ArgumentReader] {s : Session} {id : String} {studio : Studio}
    (hstudio : Pairs.fetch id s.studios = some studio) (name : Option String)
    (context : Template.Scope) :
    let r := studio.renderer
    let st := s.running studio
    let answer := (s.step (.render id name context)).answer
    (∀ outcome, answer = .ofRendering outcome ↔ r.Ends s.world st name context outcome) ∧
      ((∃ outcome, answer = .ofRendering outcome ∧ Announced name outcome) ↔
        ¬ ∃ e, r.Escapes s.world st name e) ∧
      (∀ e, r.Escapes s.world st name e → answer = .problem (.render e)) ∧
      (∀ e, r.CheckRefused s.world st name e ↔
        (Renderer.kept? st name).isSome = true ∧ r.options.autoReload = true ∧
          ∃ l location root cause, r.supplier = .files l ∧
            Locator.Strays s.world l st.table name location root cause ∧
            e = ⟨cause, some (candidate root location).toString⟩) ∧
      ((∃ e, answer = .problem (.render (.lookup e))) ↔
        r.Due s.world st name ∧ ∃ e, r.lookedUp s.world st name = .error e) ∧
      ∀ e, answer = .problem (.render (.lookup e)) → e = .absent name none := by
  intro r st answer
  have hanswer : answer = .ofRendering (r.render s.world st name context).1 :=
    step_render hstudio name context
  have hends : ∀ outcome, answer = .ofRendering outcome ↔
      r.Ends s.world st name context outcome := by
    intro outcome
    rw [hanswer, ← Renderer.render_eq_iff_ends]
    exact ⟨Answer.ofRendering_injective, congrArg Answer.ofRendering⟩
  -- a failed look-up is the only error of this sort
  have hlookup : ∀ e, answer = .problem (.render (.lookup e)) →
      e = .absent name none ∧ r.Due s.world st name ∧
        ∃ cause, r.lookedUp s.world st name = .error cause := by
    intro e he
    have hended := (hends (.error (.lookup e))).mp he
    generalize houtcome : (Except.error (RenderError.lookup e) : Except RenderError Wide) = outcome
      at hended
    cases hended with
    | missing due unsupplied =>
      cases houtcome
      exact ⟨rfl, due, _, unsupplied⟩
    | @undecoded cause textless => cases cause <;> cases houtcome
    | _ => cases houtcome
  refine ⟨hends, ?_, fun e he => (hends (.error e)).mpr (he.ends context),
    fun e => checkRefused_iff, ?_, fun e he => (hlookup e he).1⟩
  · rw [← Renderer.render_announced_iff r s.world st name context]
    constructor
    · rintro ⟨outcome, houtcome, htold⟩
      rwa [← Answer.ofRendering_injective (houtcome.symm.trans hanswer)]
    · intro htold
      exact ⟨_, hanswer, htold⟩
  · constructor
    · rintro ⟨e, he⟩
      exact (hlookup e he).2
    · rintro ⟨due, e, unsupplied⟩
      exact ⟨_, (hends _).mpr (.missing due unsupplied)⟩

/-- A file in which an `if` has no condition. -/
def unconditional : World :=
  ⟨[(["p"], .directory), (["p", "x"], .file (Codec.encode "{% if %}") ⟨5, 0⟩)], [], [], 0⟩

/-- A renderer is opened on the directory of the file. -/
def opening : List Step :=
  [.renderer "r" (some ⟨none, some (.list [.text "/p"]), none⟩) none .default]

theorem flaw_unconditional :
    Template.Engine.flaw? ⟨"x", "{% if %}", Options.default.spacing, false⟩ =
      some (.noExpression "end of statement block") := by decide +kernel

/-- The template that is asked for is malformed, and this is not announced. -/
theorem unconditional_unannounced :
    let now := (start unconditional []).after opening
    let answer := (now.step (.render "r" (some "x") [])).answer
    answer = .problem (.render (.malformed (.noExpression "end of statement block"))) ∧
      ¬ ∃ outcome, answer = .ofRendering outcome ∧ Announced (some "x") outcome := by
  intro now answer
  have hstudio : Pairs.fetch "r" now.studios =
      some ⟨⟨.files ⟨.text "file", ⟨["/p"]⟩⟩, "utf-8", .default⟩, .own 0, [], 0, []⟩ := rfl
  obtain ⟨-, hannounced, hescapes, -⟩ := rendering_announced_iff hstudio (some "x") []
  have hescaped : Renderer.Escapes ⟨.files ⟨.text "file", ⟨["/p"]⟩⟩, "utf-8", .default⟩
      now.world ⟨[], 0, .empty, []⟩ (some "x")
      (.malformed (.noExpression "end of statement block")) := by
    refine .malformed ⟨Codec.encode "{% if %}", "{% if %}", ⟨nofun, ?_⟩, rfl, ?_⟩ rfl
    · exact ⟨⟨"x", "/p", ⟨.root, ["p", "x"]⟩, FileTime.stamp ⟨5, 0⟩, Codec.encode "{% if %}"⟩,
        rfl, rfl⟩
    · exact flaw_unconditional
  exact ⟨hescapes _ hescaped, fun h => hannounced.mp h ⟨_, hescaped⟩⟩

end Session

end TemplateLookup
