/-
# TemplateLookup.Proofs.Renderer.Transparency -- kept templates do not show

A renderer that keeps templates and checks them gives what a rendering without
anything kept gives, provided that what reading a file gives is determined by its time
stamp and no kept template is blocked. A template is blocked when it is kept and could
be loaded, while the check of the root that the table holds for it is refused.
Then the rendering is refused as well, if the engine passes refusals on.

The invariant is `Faithful`: every kept template says what some file said that was seen
with its time stamp. It does not mention the table, because whether a kept template is
current is decided by the check alone. During one rendering the blocked names do not
change, since a template that is loaded anew is not blocked afterwards
(`blocked_reload_iff`). The simulation goes along the two runs until the first
blocked name (`render_simulates`).
-/

import TemplateLookup.Proofs.Locator.Staleness
import TemplateLookup.Proofs.Renderer.Afresh

namespace TemplateLookup

/-- What reading gives is determined by time stamps, as far as these are compared: files of
worlds that were seen read the same when their stamps are equal. -/
def Timed (seen : World → Prop) : Prop :=
  ∀ {w w' p p' content content' time time'}, seen w → seen w' →
    w.fileAt? p = some (content, time) → w'.fileAt? p' = some (content', time') →
    time.stamp.same time'.stamp = true → w.readOpened p content = w'.readOpened p' content'

namespace Renderer

/-! ## Blocked names -/

/-- A template is kept and could be loaded, but the check of the kept one is refused. -/
structure Blocked (l : Locator) (w : World) (st : Running) (name : Option String) : Prop where
  kept : (kept? st name).isSome = true
  refused : ∃ location root, Name.accept name = .ok location ∧
    (readableRoot w location l.roots.names).isSome = true ∧
    st.table.root? (name.getD "") = some root ∧
    ∃ e, w.exists? (candidate root location) = .error e

theorem not_blocked_of_fresh (l : Locator) (w : World) (loads : Nat) (table : Provenance)
    (events : List Log.Event) (name : Option String) :
    ¬ Blocked l w ⟨[], loads, table, events⟩ name := by
  intro h
  have hkept := h.kept
  cases name <;> cases hkept

/-- A name whose root has a readable candidate is not blocked. -/
theorem not_blocked_of_readable {l : Locator} {w : World} {st : Running} {name : Option String}
    {location root : String} (hname : Name.accept name = .ok location)
    (htable : st.table.root? (name.getD "") = some root)
    (hread : w.isReadable (candidate root location) = true) : ¬ Blocked l w st name := by
  intro h
  obtain ⟨location', root', hname', -, htable', e, hrefused⟩ := h.refused
  cases hname.symm.trans hname'
  cases htable.symm.trans htable'
  cases (World.exists?_of_isReadable hread).symm.trans hrefused

theorem not_blocked_none (l : Locator) (w : World) (st : Running) : ¬ Blocked l w st none :=
  fun h => by cases h.kept

theorem Blocked.congr {l : Locator} {w : World} {st st' : Running} {name : Option String}
    (h : Blocked l w st name) (hsame : Alike st st' name) : Blocked l w st' name := by
  cases name with
  | none => exact absurd h (not_blocked_none l w st)
  | some n =>
    obtain ⟨location, root, hname, hread, hroot, hrefused⟩ := h.refused
    refine ⟨hsame.kept ▸ h.kept, location, root, hname, hread, ?_, hrefused⟩
    exact hsame.entry.trans hroot

theorem blocked_iff_of_alike (l : Locator) (w : World) {st st' : Running} {name : Option String}
    (h : Alike st st' name) : Blocked l w st' name ↔ Blocked l w st name :=
  ⟨fun hb => hb.congr h.symm, fun hb => hb.congr h⟩

/-- The refusal of a check names the path that it was about. -/
theorem refusal_of_isStale {l : Locator} {w : World} {table : Provenance} {name : Option String}
    {known : Number.Numeral} {e : SystemError} (h : Locator.isStale w l table name known = .error e) :
    e.cause.isAbsence = false ∧ e.path ≠ none := by
  obtain ⟨location, current, -, -, hexists⟩ := (Locator.isStale_eq_error_iff ..).mp h
  obtain ⟨cause, -, hcause, rfl⟩ := World.exists?_eq_error_iff.mp hexists
  exact ⟨hcause, nofun⟩

variable [Template.Engine] [Encodings]

/-! ## The invariant -/

/-- The template says what a file said that was seen with its time stamp. -/
def Stems (r : Renderer) (seen : World → Prop) (name : String) (ready : Ready) : Prop :=
  ∃ w p content time, seen w ∧ w.fileAt? p = some (content, time) ∧
    ready.stamp = time.stamp ∧ r.draftOf name (w.readOpened p content) = .ok ready.draft

/-- Every kept template stems from a file that was seen. -/
def Faithful (r : Renderer) (seen : World → Prop) (kept : List (String × Ready)) : Prop :=
  ∀ {name ready}, Pairs.fetch name kept = some ready → Stems r seen name ready

theorem faithful_nil (r : Renderer) (seen : World → Prop) : Faithful r seen [] :=
  fun h => by cases h

theorem Faithful.store {r : Renderer} {seen : World → Prop} {kept : List (String × Ready)}
    (h : Faithful r seen kept) {name : String} {ready : Ready} (hready : Stems r seen name ready) :
    Faithful r seen (Pairs.store name ready kept) := by
  intro other found hfetch
  by_cases hother : other = name
  · subst hother
    rw [Pairs.fetch_store_self] at hfetch
    cases hfetch
    exact hready
  · rw [Pairs.fetch_store_of_ne ready kept hother] at hfetch
    exact h hfetch

theorem reload_faithful {r : Renderer} {seen : World → Prop} {w : World} {st : Running}
    (h : Faithful r seen st.kept) (hw : seen w) (name : Option String) :
    Faithful r seen (reload r w st name).2.kept := by
  have hends := reload_ends r w st name
  have houtcome := Supplier.resolve_outcome w st.table name r.supplier
  generalize reload r w st name = ended at hends
  cases hends with
  | missing failed reported => exact fun _ _ hfetch => h hfetch
  | spoiled found drafted reported => exact fun _ _ hfetch => h hfetch
  | @kept resource ready events found drafted stamp reported =>
    -- the new template stems from the file that was just read
    obtain ⟨-, time, hfile, htime⟩ := houtcome.reads found
    have hready : Stems r seen (name.getD "") ready :=
      ⟨w, resource.path, resource.content, time, hw, hfile, stamp.trans htime, drafted⟩
    exact fun _ _ hfetch => h.store hready hfetch

/-- Work keeps the invariant. -/
theorem Worked.faithful {r : Renderer} {seen : World → Prop} {w : World} {st st' : Running}
    (h : Worked r w st st') (hw : seen w) (hst : Faithful r seen st.kept) :
    Faithful r seen st'.kept := by
  induction h with
  | idle => exact hst
  | reloaded name _ ih => exact reload_faithful ih hw name
  | reported unfound _ ih => exact ih

/-- Loading a name anew that is not blocked blocks and frees no name. -/
theorem blocked_reload_iff {r : Renderer} {l : Locator} {w : World} {st : Running}
    {name : Option String} (hname : ¬ Blocked l w st name)
    (other : Option String) :
    Blocked l w (reload r w st name).2 other ↔ Blocked l w st other := by
  by_cases hother : other = name
  · subst hother
    cases hresult : (Supplier.resolve w st.table other r.supplier).result with
    | error e => exact blocked_iff_of_alike l w (reload_alike_of_failed hresult other)
    | ok resource =>
      -- the root that supplied the name has a readable candidate
      have houtcome := Supplier.resolve_outcome w st.table other r.supplier
      obtain ⟨-, n, location, -, rfl, haccept, hroot, hpath⟩ := houtcome.recorded hresult
      have htable := (reload_ends r w st (some n)).table_eq
      have hread := (houtcome.reads hresult).1
      refine iff_of_false (not_blocked_of_readable haccept ?_ (hpath ▸ hread)) hname
      rw [htable]
      exact hroot
  · exact blocked_iff_of_alike l w (reload_alike_of_ne r w st hother)

/-! ## Loading -/

section

variable {r : Renderer} {l : Locator} {w : World}

/-- A name that is kept is checked; one that is not, or is outdated, is loaded anew. -/
theorem load_eq (hreload : r.options.autoReload = true) (hfiles : r.supplier = .files l)
    (st : Running) (name : Option String) :
    load r w st name =
      match kept? st name with
      | none => reload r w st name
      | some ready =>
        match Locator.isStale w l st.table name (.real ready.stamp) with
        | .error e => (.error (.system e), st)
        | .ok false => (.ok ready, st)
        | .ok true => reload r w st name := by
  rw [load]
  cases kept? st name with
  | none => rfl
  | some ready =>
    simp only [hreload, if_true, Source.isCurrent, hfiles, Supplier.isStale]
    cases Locator.isStale w l st.table name (.real ready.stamp) with
    | error e => rfl
    | ok stale => cases stale <;> rfl

/-- A blocked name is refused and changes nothing; of any other name the kept template
is current, or it is loaded anew. -/
theorem load_cases (hreload : r.options.autoReload = true) (hfiles : r.supplier = .files l)
    (st : Running) (name : Option String) :
    (Blocked l w st name ∧ ∃ e, e.cause.isAbsence = false ∧ e.path ≠ none ∧
        load r w st name = (.error (.system e), st)) ∨
      ¬ Blocked l w st name ∧
        ((∃ ready, kept? st name = some ready ∧ load r w st name = (.ok ready, st) ∧
            Locator.isStale w l st.table name (.real ready.stamp) = .ok false) ∨
          load r w st name = reload r w st name) := by
  rw [load_eq hreload hfiles]
  cases hkept : kept? st name with
  | none =>
    refine .inr ⟨fun h => ?_, .inr rfl⟩
    have hsome := h.kept
    rw [hkept] at hsome
    cases hsome
  | some ready =>
    have hsome : (kept? st name).isSome = true := by rw [hkept, Option.isSome_some]
    have hrefused := Locator.isStale_refused_iff w l st.table name (.real ready.stamp)
    dsimp only
    cases hstale : Locator.isStale w l st.table name (.real ready.stamp) with
    | error e =>
      obtain ⟨hcause, hpath⟩ := refusal_of_isStale hstale
      exact .inl ⟨⟨hsome, hrefused.mp ⟨e, hstale⟩⟩, e, hcause, hpath, rfl⟩
    | ok stale =>
      have hfree : ¬ Blocked l w st name := by
        intro h
        obtain ⟨e, he⟩ := hrefused.mpr h.refused
        cases hstale.symm.trans he
      cases stale with
      | true => exact .inr ⟨hfree, .inr rfl⟩
      | false => exact .inr ⟨hfree, .inl ⟨ready, rfl, rfl, hstale⟩⟩

/-- A kept template that is current says what its file says now. -/
theorem current_afresh {seen : World → Prop} (htimed : Timed seen) (hfiles : r.supplier = .files l)
    (hw : w.OpensAll) (hseen : seen w) {st : Running} (hst : Faithful r seen st.kept)
    {name : Option String} {ready : Ready} (hkept : kept? st name = some ready)
    (hcurrent : Locator.isStale w l st.table name (.real ready.stamp) = .ok false) :
    loadAfresh r w name = .ok ready.draft := by
  obtain ⟨location, current, hname, hroot, -, stamp, hstamp, hequal⟩ :=
    (Locator.isStale_eq_false_iff ..).mp hcurrent
  have hresolve := Locator.resolve_of_opensAll hw l .empty hname
  rw [hroot] at hresolve
  obtain ⟨content, time, hfile, hresult⟩ := hresolve
  cases name with
  | none => cases hkept
  | some n =>
    obtain ⟨w', p, content', time', hseen', hfile', hready, hdrafted⟩ := hst hkept
    have htime : stamp = time.stamp := by
      rw [World.stampAt?, hfile] at hstamp
      split at hstamp
      · cases hstamp
      · exact (Option.some.inj hstamp).symm
    have hsame : w.readOpened (candidate current location) content = w'.readOpened p content' := by
      refine htimed hseen hseen' hfile hfile' ?_
      rw [← htime, ← hready]
      exact hequal
    rw [loadAfresh, hfiles, Supplier.resolve, hresult]
    dsimp only
    rw [Resource.read, hsame]
    exact hdrafted

/-- Loading a name that is not blocked gives what loading it afresh gives, keeps the
invariant, and blocks and frees no name. -/
theorem load_matches {seen : World → Prop} (htimed : Timed seen)
    (hreload : r.options.autoReload = true) (hfiles : r.supplier = .files l)
    (hw : w.OpensAll) (hseen : seen w) {st : Running} (hst : Faithful r seen st.kept)
    {name : Option String} (hname : ¬ Blocked l w st name) :
    (load r w st name).1.map Ready.draft = loadAfresh r w name ∧
      Faithful r seen (load r w st name).2.kept ∧
      ∀ other, Blocked l w (load r w st name).2 other ↔ Blocked l w st other := by
  rcases load_cases hreload hfiles st name with
    ⟨hblocked, -⟩ | ⟨-, ⟨ready, hkept, hload, hcurrent⟩ | hload⟩
  · exact absurd hblocked hname
  · rw [hload, current_afresh htimed hfiles hw hseen hst hkept hcurrent]
    exact ⟨rfl, hst, fun other => Iff.rfl⟩
  · rw [hload]
    exact ⟨reload_afresh r w st name, reload_faithful hst hseen name,
      fun other => blocked_reload_iff hname other⟩

/-! ## The simulation -/

/-- A run abreast of the reference: it is faithful, the blocked names are those that were
blocked at the start, and none of them was needed yet. -/
structure Abreast (r : Renderer) (l : Locator) (w : World) (seen : World → Prop)
    (start st : Running) (names : List (Option String)) : Prop where
  faithful : Faithful r seen st.kept
  blocked : ∀ n, Blocked l w st n ↔ Blocked l w start n
  free : ∀ n ∈ names, ¬ Blocked l w start n

theorem Abreast.snoc {seen : World → Prop} {start st : Running} {names : List (Option String)}
    (h : Abreast r l w seen start st names) {name : Option String}
    (hname : ¬ Blocked l w start name) : Abreast r l w seen start st (names ++ [name]) := by
  refine ⟨h.faithful, h.blocked, ?_⟩
  intro n hn
  rcases List.mem_append.mp hn with hold | hnew
  · exact h.free n hold
  · rw [List.mem_singleton.mp hnew]
    exact hname

/-- The outcome is a refusal of a check. -/
def CheckEnds (outcome : Except Template.Failure Wide) : Prop :=
  ∃ e, e.cause.isAbsence = false ∧ e.path ≠ none ∧ outcome = .error (.load (.system e))

/-- A run follows the reference until a blocked name is needed; then it is refused, if the engine
passes refusals on. -/
theorem run_simulates {seen : World → Prop} {start : Running} (htimed : Timed seen)
    (hreload : r.options.autoReload = true) (hfiles : r.supplier = .files l)
    (hw : w.OpensAll) (hseen : seen w) (ready : Ready) (context : Template.Scope) {st : Running}
    {names : List (Option String)} (h : Abreast r l w seen start st names) :
    let reference := (Template.Engine.script ready.draft context).run (noting (loadAfresh r w)) names
    ((run r w ready context st).1 = reference.1 ∧
        Abreast r l w seen start (run r w ready context st).2 reference.2) ∨
      (Template.Engine.PassesRefusals → CheckEnds (run r w ready context st).1) ∧
        ∃ n ∈ reference.2, Blocked l w start n := by
  intro reference
  apply Template.Script.run_follows (r.offer w) (noting (loadAfresh r w))
    (fun s => Template.Engine.PassesRefusals → s.Passes ∨ ∃ result, s = .finish result)
    (Abreast r l w seen start) (fun outcome => Template.Engine.PassesRefusals → CheckEnds outcome)
    (fun names => ∃ n ∈ names, Blocked l w start n)
  · intro name next st names hs habreast
    rw [offer_eq]
    by_cases hblocked : Blocked l w st (some name)
    · -- the check is refused here, and the reference notes the name
      rcases load_cases hreload hfiles st (some name) with
        ⟨-, e, hcause, hpath, hload⟩ | ⟨hfree, -⟩
      · refine .inr ⟨fun hpasses => ⟨e, hcause, hpath, ?_⟩, some name, ?_,
          (habreast.blocked _).mp hblocked⟩
        · rcases hs hpasses with hs | ⟨result, hresult⟩
          · exact hs.run_of_refused (by rw [offer_eq, hload]; rfl)
          · cases hresult
        · exact List.mem_append_right names List.mem_cons_self
      · exact absurd hblocked hfree
    · obtain ⟨hresult, hfaithful, hsame⟩ :=
        load_matches htimed hreload hfiles hw hseen habreast.faithful hblocked
      refine .inl ⟨hresult, ?_, fun hpasses => ?_⟩
      · exact Abreast.snoc ⟨hfaithful, fun n => (hsame n).trans (habreast.blocked n), habreast.free⟩
          fun hb => hblocked ((habreast.blocked _).mpr hb)
      · rcases hs hpasses with hs | ⟨result, hresult⟩
        · exact hs.next _
        · cases hresult
  · rintro name names ⟨n, hn, hblocked⟩
    exact ⟨n, List.mem_append_left _ hn, hblocked⟩
  · exact fun hpasses => .inl (hpasses ready.draft context)
  · exact h

theorem render_of_error {st : Running} {name : Option String} {e : Template.LoadError}
    (h : (load r w st name).1 = .error e) (context : Template.Scope) :
    (render r w st name context).1 = .error (ofLoadError name e).1 := by
  rw [render]
  split
  · rename_i e' after hload
    rw [hload] at h
    cases h
    rfl
  · rename_i ready after hload
    rw [hload] at h
    cases h

theorem render_of_ok {st : Running} {name : Option String} {ready : Ready}
    (h : (load r w st name).1 = .ok ready) (context : Template.Scope) :
    (render r w st name context).1 =
      (run r w ready context (load r w st name).2).1.mapError .failed := by
  rw [render]
  split
  · rename_i e after hload
    rw [hload] at h
    cases h
  · rename_i ready' after hload
    rw [hload] at h ⊢
    cases h
    split <;> rename_i hrun <;> rw [hrun] <;> rfl

/-- Rendering gives what the reference gives, unless a blocked name is needed; then it is
refused, if the engine passes refusals on. -/
theorem render_simulates {seen : World → Prop} (htimed : Timed seen)
    (hreload : r.options.autoReload = true) (hfiles : r.supplier = .files l)
    (hw : w.OpensAll) (hseen : seen w) (st : Running) (hst : Faithful r seen st.kept)
    (name : Option String) (context : Template.Scope) :
    ((render r w st name context).1 = (renderAfresh r w name context).1 ∧
        ∀ n ∈ (renderAfresh r w name context).2, ¬ Blocked l w st n) ∨
      (Template.Engine.PassesRefusals → ∃ error e, (render r w st name context).1 = .error error ∧
          error.Refuses e ∧ e.cause.isAbsence = false ∧ e.path ≠ none) ∧
        ∃ n ∈ (renderAfresh r w name context).2, Blocked l w st n := by
  by_cases hblocked : Blocked l w st name
  · -- the check of the template itself is refused
    rcases load_cases hreload hfiles st name with ⟨-, e, hcause, hpath, hload⟩ | ⟨hfree, -⟩
    · refine .inr ⟨fun _ => ⟨.system e, e, ?_, .inl rfl, hcause, hpath⟩, name,
        renderAfresh_mem .., hblocked⟩
      rw [render_of_error (congrArg Prod.fst hload)]
      rfl
    · exact absurd hblocked hfree
  · obtain ⟨hresult, hfaithful, hsame⟩ :=
      load_matches htimed hreload hfiles hw hseen hst hblocked
    have hstart : Abreast r l w seen st (load r w st name).2 [] :=
      ⟨hfaithful, hsame, fun n hn => absurd hn List.not_mem_nil⟩
    have hafter := hstart.snoc hblocked
    rw [renderAfresh, renderOffered, ← hresult]
    cases hload : (load r w st name).1 with
    | error e =>
      rw [render_of_error hload context]
      exact .inl ⟨rfl, hafter.free⟩
    | ok ready =>
      rw [render_of_ok hload context]
      rcases run_simulates htimed hreload hfiles hw hseen ready context hafter with
        ⟨hequal, habreast⟩ | ⟨hrefused, hmarked⟩
      · rw [hequal]
        exact .inl ⟨rfl, habreast.free⟩
      · refine .inr ⟨fun hpasses => ?_, hmarked⟩
        obtain ⟨e, hcause, hpath, hends⟩ := hrefused hpasses
        rw [hends]
        exact ⟨_, e, rfl, .inr rfl, hcause, hpath⟩

/-- Rendering gives what a renderer that keeps nothing gives if no name that is loaded for it is
blocked. If the engine passes refusals on, then it does so in no other case. -/
theorem render_eq_fresh_iff {seen : World → Prop} (htimed : Timed seen)
    (hreload : r.options.autoReload = true) (hfiles : r.supplier = .files l)
    (hw : w.OpensAll) (hseen : seen w) (st : Running) (hst : Faithful r seen st.kept)
    (table : Provenance) (name : Option String) (context : Template.Scope) :
    ((∀ n ∈ (renderAfresh r w name context).2, ¬ Blocked l w st n) →
        (render r w st name context).1 = (render r w ⟨[], 0, table, []⟩ name context).1) ∧
      (Template.Engine.PassesRefusals →
        (∃ n ∈ (renderAfresh r w name context).2, Blocked l w st n) →
        (render r w st name context).1 ≠ (render r w ⟨[], 0, table, []⟩ name context).1 ∧
        ∃ error e, (render r w st name context).1 = .error error ∧ error.Refuses e ∧
          e.cause.isAbsence = false) := by
  have hfresh : (render r w ⟨[], 0, table, []⟩ name context).1 =
      (renderAfresh r w name context).1 := by
    rcases render_simulates htimed hreload hfiles hw hseen ⟨[], 0, table, []⟩
      (faithful_nil r seen) name context with ⟨hequal, -⟩ | ⟨-, n, -, hblocked⟩
    · exact hequal
    · exact absurd hblocked (not_blocked_of_fresh l w 0 table [] n)
  rw [hfresh]
  rcases render_simulates htimed hreload hfiles hw hseen st hst name context with
    ⟨hequal, hfree⟩ | ⟨hrefused, n, hn, hblocked⟩
  · exact ⟨fun _ => hequal, fun _ ⟨n, hn, hb⟩ => absurd hb (hfree n hn)⟩
  · refine ⟨fun h => absurd hblocked (h n hn), fun hpasses _ => ?_⟩
    obtain ⟨error, e, herror, hrefuses, hcause, hpath⟩ := hrefused hpasses
    refine ⟨fun hequal => ?_, error, e, herror, hrefuses, hcause⟩
    -- the reference is refused without a path only
    exact hpath (refused_of_renderAfresh hpasses (hequal.symm.trans herror) hrefuses)

end

end Renderer

end TemplateLookup
