/-
# TemplateLookup.Proofs.Containment -- no look-up leaves the roots

Every path that an operation of a locator asks about is the candidate of a root: of a
root of the locator, or of the root that the table holds for the name
(`asked_candidate`). Candidates stay at or below their root, so the operations do
(`lookups_contained`). A root gets into a table in two ways only, by a direct entry
or as a root of a supplier that uses the table; this holds in particular for the root
that stands for the top of the file system.
-/

import TemplateLookup.Proofs.Candidate
import TemplateLookup.Proofs.Locator.Inquiry
import TemplateLookup.Proofs.Session.History

namespace TemplateLookup

namespace Locator

/-! ## What is asked about -/

theorem within_trying (name location root : String) :
    (trying name location root).Within (· = candidate root location) := by
  refine ⟨rfl, fun readable => ?_⟩
  cases readable with
  | false => trivial
  | true =>
    refine ⟨rfl, fun content => ?_⟩
    cases content with
    | error e => trivial
    | ok bytes =>
      refine ⟨rfl, fun stamp => ?_⟩
      cases stamp <;> trivial

theorem within_searching (name location : String) (roots : List String) :
    (searching name location roots).Within fun p => ∃ root ∈ roots, p = candidate root location := by
  induction roots with
  | nil => trivial
  | cons root rest ih =>
    have hlater := ih.mono fun p ⟨r, hr, heq⟩ =>
      (⟨r, List.mem_cons_of_mem root hr, heq⟩ : ∃ r ∈ root :: rest, p = candidate r location)
    rw [searching]
    apply Inquiry.Within.bind
    · exact (within_trying name location root).mono fun p heq => ⟨root, List.mem_cons_self, heq⟩
    · intro trial
      cases trial with
      | nothing => exact hlater
      | skipped notice => exact hlater.bind fun later => trivial
      | opened resource => trivial

theorem within_probing (location : String) (roots : List String) :
    (probing location roots).Within fun p => ∃ root ∈ roots, p = candidate root location := by
  induction roots with
  | nil => trivial
  | cons root rest ih =>
    refine ⟨⟨root, List.mem_cons_self, rfl⟩, fun readable => ?_⟩
    cases readable with
    | true => trivial
    | false => exact ih.mono fun p ⟨r, hr, heq⟩ => ⟨r, List.mem_cons_of_mem root hr, heq⟩

theorem within_comparing (location loaded current : String) (known : Number.Numeral) :
    (comparing location loaded current known).Within (· = candidate loaded location) := by
  refine ⟨rfl, fun existence => ?_⟩
  cases existence with
  | error e => trivial
  | ok found =>
    cases found with
    | false => trivial
    | true =>
      dsimp only
      split
      · trivial
      · refine ⟨rfl, fun readable => ?_⟩
        cases readable with
        | false => trivial
        | true =>
          refine ⟨rfl, fun time => ?_⟩
          cases time <;> trivial

/-! ## The operations -/

/-- The operations that look at files. -/
inductive Operation where
  | resolve
  | currentRoot
  | isStale (known : Number.Numeral)
  | lastModified
  deriving DecidableEq, Repr

/-- The paths that an operation asks about, in order. -/
def Operation.asked (w : World) (l : Locator) (table : Provenance) (name : Option String) :
    Operation → List Path
  | .resolve => (resolving l table name).asked w
  | .currentRoot => (rooting l name).asked w
  | .isStale known => (staling l table name known).asked w
  | .lastModified => (dating table name).asked w

/-- The roots that an operation on a name may look below: those of the locator and the
one that the table holds for the name. -/
def Concerns (l : Locator) (table : Provenance) (name : Option String) (root : String) : Prop :=
  root ∈ l.roots.names ∨ ∃ n, name = some n ∧ table.root? n = some root

theorem asked_resolving {w : World} {l : Locator} {table : Provenance} {name : Option String}
    {p : Path} (h : p ∈ (resolving l table name).asked w) :
    ∃ location, Name.accept name = .ok location ∧
      ∃ root ∈ l.roots.names, p = candidate root location := by
  rw [resolving] at h
  cases hname : Name.accept name with
  | error e =>
    rw [hname] at h
    cases h
  | ok location =>
    rw [hname, Inquiry.asked_bind] at h
    refine ⟨location, rfl, ?_⟩
    rcases List.mem_append.mp h with hsearch | hdone
    · exact (within_searching _ location l.roots.names).asked w p hsearch
    · split at hdone <;> cases hdone

theorem asked_rooting {w : World} {l : Locator} {name : Option String} {p : Path}
    (h : p ∈ (rooting l name).asked w) :
    ∃ location, Name.accept name = .ok location ∧
      ∃ root ∈ l.roots.names, p = candidate root location := by
  rw [rooting] at h
  cases hname : Name.accept name with
  | error e =>
    rw [hname] at h
    cases h
  | ok location =>
    rw [hname, Inquiry.asked_bind] at h
    refine ⟨location, rfl, ?_⟩
    rcases List.mem_append.mp h with hprobe | hdone
    · exact (within_probing location l.roots.names).asked w p hprobe
    · cases hdone

theorem asked_staling {w : World} {l : Locator} {table : Provenance} {name : Option String}
    {known : Number.Numeral} {p : Path} (h : p ∈ (staling l table name known).asked w) :
    ∃ location, Name.accept name = .ok location ∧
      ∃ root, l.Concerns table name root ∧ p = candidate root location := by
  rw [staling] at h
  cases hname : Name.accept name with
  | error e =>
    rw [hname] at h
    cases h
  | ok location =>
    rw [hname, Inquiry.asked_bind, run_probing] at h
    refine ⟨location, rfl, ?_⟩
    rcases List.mem_append.mp h with hprobe | hcompare
    · obtain ⟨root, hroot, heq⟩ := (within_probing location l.roots.names).asked w p hprobe
      exact ⟨root, .inl hroot, heq⟩
    · cases hcurrent : readableRoot w location l.roots.names with
      | none =>
        rw [hcurrent] at hcompare
        cases hcompare
      | some current =>
        rw [hcurrent] at hcompare
        refine ⟨_, ?_, (within_comparing location _ current known).asked w p hcompare⟩
        -- without an entry in the table the root of now takes its place
        cases htable : table.root? (name.getD "") with
        | none => exact .inl (readableRoot_eq_some hcurrent).1
        | some root =>
          cases name with
          | none => cases hname
          | some n => exact .inr ⟨n, rfl, htable⟩

theorem asked_dating {w : World} {table : Provenance} {name : Option String} {p : Path}
    (h : p ∈ (dating table name).asked w) :
    ∃ location, Name.accept name = .ok location ∧
      ∃ n root, name = some n ∧ table.root? n = some root ∧ p = candidate root location := by
  rw [dating] at h
  cases name with
  | none => cases h
  | some n =>
    cases htable : table.root? n with
    | none =>
      rw [Option.bind_some, htable] at h
      cases h
    | some root =>
      rw [Option.bind_some, htable] at h
      dsimp only at h
      cases hname : Name.accept (some n) with
      | error e =>
        rw [hname] at h
        cases h
      | ok location =>
        rw [hname] at h
        refine ⟨location, rfl, n, root, rfl, htable, ?_⟩
        rcases List.mem_cons.mp h with rfl | h
        · rfl
        · dsimp only [World.reply] at h
          cases hread : w.isReadable (candidate root location) with
          | false => simp [hread, Inquiry.asked] at h
          | true =>
            simp only [hread, if_true] at h
            rcases List.mem_cons.mp h with rfl | hdone
            · rfl
            · cases hdone

/-- An operation asks only about candidates of roots that concern it. -/
theorem asked_candidate (op : Operation) (w : World) (l : Locator) (table : Provenance)
    (name : Option String) {p : Path} (h : p ∈ op.asked w l table name) :
    ∃ location, Name.accept name = .ok location ∧
      ∃ root, l.Concerns table name root ∧ p = candidate root location := by
  cases op with
  | resolve =>
    obtain ⟨location, hname, root, hroot, heq⟩ := asked_resolving h
    exact ⟨location, hname, root, .inl hroot, heq⟩
  | currentRoot =>
    obtain ⟨location, hname, root, hroot, heq⟩ := asked_rooting h
    exact ⟨location, hname, root, .inl hroot, heq⟩
  | isStale known => exact asked_staling h
  | lastModified =>
    obtain ⟨location, hname, n, root, hn, htable, heq⟩ := asked_dating h
    exact ⟨location, hname, root, .inr ⟨n, hn, htable⟩, heq⟩

/-- The path of a resource is the candidate of a root of the locator. -/
theorem resolve_path {w : World} {l : Locator} {table : Provenance} {name : Option String}
    {r : Resource} (h : (resolve w l table name).result = .ok r) :
    ∃ location, Name.accept name = .ok location ∧
      r.root ∈ l.roots.names ∧ r.path = candidate r.root location := by
  have houtcome := Supplier.resolve_outcome w table name (.files l)
  rw [Supplier.resolve] at houtcome
  generalize resolve w l table name = lookup at h houtcome
  cases houtcome with
  | failed reported => cases h
  | found files accepted searched reported =>
    cases h
    cases files
    obtain ⟨hmem, htry⟩ := mem_of_searchRoots searched
    obtain ⟨-, -, -, -, -, hpath⟩ := tryRoot_resource? htry
    exact ⟨_, accepted, hmem, hpath⟩

/-! ## Containment -/

/-- No look-up leaves the roots. The candidate of an accepted name is the path of the
root followed by the segments of the name, each of them proper. The four operations are
inquiries, and every path that they ask about, like the path of what they find, is at or
below a root of the locator or the root that the table holds for the name. In every run
of a session a root that a table holds, the top of the file system included, was written
there directly or is a root of a locator that used the table. -/
theorem lookups_contained [Template.Engine] [Encodings] [Yaml.Reader] [Command.ArgumentReader] :
    (∀ root name location, Name.accept name = .ok location →
      (root ≠ absoluteRoot → candidate root location =
        ⟨(Path.ofString root).anchor, (Path.ofString root).segments ++ Name.segments location⟩) ∧
      candidate absoluteRoot location = ⟨.root, Name.segments location⟩ ∧
      ∀ s ∈ Name.segments location, Name.IsProper s) ∧
    (∀ w l table name,
      (resolving l table name).run w = resolve w l table name ∧
      (rooting l name).run w = currentRoot w l name ∧
      (∀ known, (staling l table name known).run w = isStale w l table name known) ∧
      (dating table name).run w = lastModified w table name) ∧
    (∀ w l table name,
      (∀ r, (resolve w l table name).result = .ok r →
        ∃ root ∈ l.roots.names, (rootPath root).IsAtOrBelow r.path) ∧
      ∀ op, ∀ p ∈ Operation.asked w l table name op,
        (∃ root ∈ l.roots.names, (rootPath root).IsAtOrBelow p) ∨
        ∃ n root, name = some n ∧ table.root? n = some root ∧ (rootPath root).IsAtOrBelow p) ∧
    ∀ world env steps t n root,
      (((Session.start world env).after steps).table t).root? n = some root →
      ∃ before a rest, steps = before ++ a :: rest ∧
        ((∃ id supplier, a = .record id n root ∧
            Pairs.fetch id ((Session.start world env).after before).suppliers =
              some ⟨supplier, t⟩) ∨
          ∃ l, ((Session.start world env).after before).Serves (.files l) t ∧
            root ∈ l.roots.names) := by
  refine ⟨?_, ?_, ?_, ?_⟩
  · -- candidates of accepted names
    intro root name location hname
    have hnormal := Name.isNormal_of_accept hname
    refine ⟨fun hroot => ?_, ?_, Name.isProper_of_mem_segments hnormal⟩
    · rw [candidate_eq hnormal, rootPath, if_neg hroot]
    · rw [candidate_eq hnormal, rootPath, if_pos rfl, List.nil_append]
  · -- the operations are inquiries
    intro w l table name
    exact ⟨run_resolving w l table name, run_rooting w l name, run_staling w l table name,
      run_dating w table name⟩
  · -- what is found and what is asked about
    intro w l table name
    constructor
    · intro r hr
      obtain ⟨location, hname, hroot, hpath⟩ := resolve_path hr
      exact ⟨r.root, hroot, hpath ▸ candidate_isAtOrBelow hname r.root⟩
    · intro op p hp
      obtain ⟨location, hname, root, hroot | ⟨n, hn, htable⟩, heq⟩ :=
        asked_candidate op w l table name hp
      · exact .inl ⟨root, hroot, heq ▸ candidate_isAtOrBelow hname root⟩
      · exact .inr ⟨n, root, hn, htable, heq ▸ candidate_isAtOrBelow hname root⟩
  · -- where the roots in a table come from
    intro world env steps t n root h
    obtain ⟨before, a, rest, hsteps, hdirect | ⟨supplier, hserves, hoffers⟩⟩ :=
      Session.root?_source h
    · exact ⟨before, a, rest, hsteps, .inl hdirect⟩
    · obtain ⟨l, rfl, hroot⟩ := hoffers.mem_roots
      exact ⟨before, a, rest, hsteps, .inr ⟨l, hserves, hroot⟩⟩

end Locator

end TemplateLookup
