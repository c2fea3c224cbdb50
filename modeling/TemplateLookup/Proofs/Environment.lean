/-
# TemplateLookup.Proofs.Environment -- references are replaced in one pass

A text is cut into parts from left to right: where a reference begins, it is a part, and
elsewhere one character is (`Parted`). There is exactly one way to cut a text, and it does not
depend on any variable (`parted_iff`). Replacing the references of a text gives the parts in
order, each reference with its value, or the name of the first reference that is not set
(`scan_eq`). In a document every text is treated so, and all else stays (`expand_in_one_pass`).
-/

import TemplateLookup.Environment
import TemplateLookup.Proofs.Text.Pieces

namespace TemplateLookup

/-! ## The texts of a document -/

namespace Data

mutual

/-- The texts of a document, in order; keys are not among them. -/
def texts : Data → List String
  | .text s => [s]
  | .scalar _ => []
  | .list items => textsOfItems items
  | .mapping entries => textsOfEntries entries

def textsOfItems : List Data → List String
  | [] => []
  | d :: rest => d.texts ++ textsOfItems rest

def textsOfEntries : List (Scalar × Data) → List String
  | [] => []
  | (_, d) :: rest => d.texts ++ textsOfEntries rest

end

mutual

/-- The document with a function applied to each of its texts. -/
def mapTexts (f : String → String) : Data → Data
  | .text s => .text (f s)
  | .scalar s => .scalar s
  | .list items => .list (mapItems f items)
  | .mapping entries => .mapping (mapEntries f entries)

def mapItems (f : String → String) : List Data → List Data
  | [] => []
  | d :: rest => d.mapTexts f :: mapItems f rest

def mapEntries (f : String → String) : List (Scalar × Data) → List (Scalar × Data)
  | [] => []
  | (key, d) :: rest => (key, d.mapTexts f) :: mapEntries f rest

end

/-- What is left of a document when its texts are taken away: its shape, the order of its
parts, its keys, and all values that are no texts. -/
def skeleton (d : Data) : Data := d.mapTexts fun _ => ""

mutual

theorem texts_mapTexts (f : String → String) : ∀ d : Data, (d.mapTexts f).texts = d.texts.map f
  | .scalar s => by cases s <;> rfl
  | .list items => textsOfItems_mapItems f items
  | .mapping entries => textsOfEntries_mapEntries f entries

theorem textsOfItems_mapItems (f : String → String) :
    ∀ items : List Data, textsOfItems (mapItems f items) = (textsOfItems items).map f
  | [] => rfl
  | d :: rest => by
    simp only [mapItems, textsOfItems, List.map_append, texts_mapTexts f d,
      textsOfItems_mapItems f rest]

theorem textsOfEntries_mapEntries (f : String → String) :
    ∀ entries : List (Scalar × Data),
      textsOfEntries (mapEntries f entries) = (textsOfEntries entries).map f
  | [] => rfl
  | (_, d) :: rest => by
    simp only [mapEntries, textsOfEntries, List.map_append, texts_mapTexts f d,
      textsOfEntries_mapEntries f rest]

end

mutual

theorem mapTexts_mapTexts (f g : String → String) :
    ∀ d : Data, (d.mapTexts f).mapTexts g = d.mapTexts (g ∘ f)
  | .scalar s => by cases s <;> rfl
  | .list items => congrArg Data.list (mapItems_mapItems f g items)
  | .mapping entries => congrArg Data.mapping (mapEntries_mapEntries f g entries)

theorem mapItems_mapItems (f g : String → String) :
    ∀ items : List Data, mapItems g (mapItems f items) = mapItems (g ∘ f) items
  | [] => rfl
  | d :: rest => by
    simp only [mapItems, mapTexts_mapTexts f g d, mapItems_mapItems f g rest]

theorem mapEntries_mapEntries (f g : String → String) :
    ∀ entries : List (Scalar × Data), mapEntries g (mapEntries f entries) = mapEntries (g ∘ f) entries
  | [] => rfl
  | (_, d) :: rest => by
    simp only [mapEntries, mapTexts_mapTexts f g d, mapEntries_mapEntries f g rest]

end

/-- Documents of one skeleton have equally many texts. -/
theorem length_texts_eq {d d' : Data} (h : d'.skeleton = d.skeleton) :
    d'.texts.length = d.texts.length := by
  have hlength : ∀ e : Data, e.texts.length = e.skeleton.texts.length := fun e => by
    rw [skeleton, texts_mapTexts, List.length_map]
  rw [hlength d', hlength d, h]

mutual

/-- A document is told by its skeleton and its texts. -/
theorem eq_mapTexts (f : String → String) : ∀ d d' : Data, d'.skeleton = d.skeleton →
    d'.texts = d.texts.map f → d' = d.mapTexts f
  | .scalar s, d', hskeleton, htexts => by
    cases d' with
    | scalar s' => cases s <;> cases s' <;> simp_all [skeleton, mapTexts, texts, text]
    | list items' => cases s <;> cases hskeleton
    | mapping entries' => cases s <;> cases hskeleton
  | .list items, d', hskeleton, htexts => by
    cases d' with
    | scalar s' => cases s' <;> cases hskeleton
    | list items' =>
      exact congrArg Data.list (eq_mapItems f items items' (Data.list.inj hskeleton) htexts)
    | mapping entries' => cases hskeleton
  | .mapping entries, d', hskeleton, htexts => by
    cases d' with
    | scalar s' => cases s' <;> cases hskeleton
    | list items' => cases hskeleton
    | mapping entries' =>
      exact congrArg Data.mapping
        (eq_mapEntries f entries entries' (Data.mapping.inj hskeleton) htexts)

theorem eq_mapItems (f : String → String) : ∀ items items' : List Data,
    mapItems (fun _ => "") items' = mapItems (fun _ => "") items →
    textsOfItems items' = (textsOfItems items).map f → items' = mapItems f items
  | [], [], _, _ => rfl
  | [], _ :: _, hskeleton, _ => by cases hskeleton
  | _ :: _, [], hskeleton, _ => by cases hskeleton
  | d :: rest, d' :: rest', hskeleton, htexts => by
    obtain ⟨hfirst, hmore⟩ := List.cons.inj hskeleton
    rw [textsOfItems, textsOfItems, List.map_append] at htexts
    have hlength : d'.texts.length = (d.texts.map f).length := by
      rw [List.length_map, length_texts_eq hfirst]
    obtain ⟨hhere, hthere⟩ := List.append_inj htexts hlength
    rw [mapItems, eq_mapTexts f d d' hfirst hhere, eq_mapItems f rest rest' hmore hthere]

theorem eq_mapEntries (f : String → String) : ∀ entries entries' : List (Scalar × Data),
    mapEntries (fun _ => "") entries' = mapEntries (fun _ => "") entries →
    textsOfEntries entries' = (textsOfEntries entries).map f → entries' = mapEntries f entries
  | [], [], _, _ => rfl
  | [], _ :: _, hskeleton, _ => by cases hskeleton
  | _ :: _, [], hskeleton, _ => by cases hskeleton
  | (key, d) :: rest, (key', d') :: rest', hskeleton, htexts => by
    obtain ⟨hpair, hmore⟩ := List.cons.inj hskeleton
    obtain ⟨hkey, hfirst⟩ := Prod.mk.inj hpair
    rw [textsOfEntries, textsOfEntries, List.map_append] at htexts
    have hlength : d'.texts.length = (d.texts.map f).length := by
      rw [List.length_map, length_texts_eq hfirst]
    obtain ⟨hhere, hthere⟩ := List.append_inj htexts hlength
    rw [mapEntries, eq_mapTexts f d d' hfirst hhere, eq_mapEntries f rest rest' hmore hthere, hkey]

end

theorem eq_mapTexts_iff {f : String → String} {d d' : Data} :
    d' = d.mapTexts f ↔ d'.skeleton = d.skeleton ∧ d'.texts = d.texts.map f := by
  constructor
  · rintro rfl
    exact ⟨mapTexts_mapTexts f _ d, texts_mapTexts f d⟩
  · rintro ⟨hskeleton, htexts⟩
    exact eq_mapTexts f d d' hskeleton htexts

end Data

namespace Environment

/-! ## The parts of a text -/

/-- A part of a text. -/
inductive Part where
  /-- A character that stands for itself. -/
  | plain (c : Char)
  | reference (name : String)
  deriving DecidableEq, Repr

/-- The name in a part that is a reference. -/
def Part.name? : Part → Option String
  | .plain _ => none
  | .reference name => some name

/-- The part with its value in its place; a variable that is not set has none. -/
def Part.filled (env : Environment) : Part → List Char
  | .plain c => [c]
  | .reference name => ((Pairs.fetch name env).getD "").toList

/-- A text begins with a reference: `${`, at least one character, and the next `}`. -/
structure Begins (cs name after : List Char) : Prop where
  named : name ≠ []
  first : '}' ∉ name
  eq : cs = '$' :: '{' :: (name ++ '}' :: after)

/-- A text and its parts, from left to right. -/
inductive Parted : List Char → List Part → Prop
  | done : Parted [] []
  | reference {cs name after : List Char} {parts : List Part} (begins : Begins cs name after)
      (more : Parted after parts) : Parted cs (.reference (String.ofList name) :: parts)
  | plain {c : Char} {rest : List Char} {parts : List Part}
      (none : ∀ name after, ¬ Begins (c :: rest) name after) (more : Parted rest parts) :
      Parted (c :: rest) (.plain c :: parts)

/-- The reference that a text begins with, and what follows it. -/
def begun? : List Char → Option (List Char × List Char)
  | '$' :: '{' :: rest => reference? rest
  | _ => none

/-- The parts of a text; `fuel` bounds its length. -/
def partsFrom : Nat → List Char → List Part
  | 0, _ => []
  | _ + 1, [] => []
  | fuel + 1, c :: rest =>
    match begun? (c :: rest) with
    | some (name, after) => .reference (String.ofList name) :: partsFrom fuel after
    | none => .plain c :: partsFrom fuel rest

/-- The parts of a text. -/
def parts (s : String) : List Part := partsFrom s.toList.length s.toList

theorem reference?_eq_some_iff {cs name after : List Char} :
    reference? cs = some (name, after) ↔ Begins ('$' :: '{' :: cs) name after := by
  have hiff : reference? cs = some (name, after) ↔
      Text.cutAt '}' cs = some (name, after) ∧ name ≠ [] := by
    rw [reference?]
    split
    · rename_i behind hcut
      refine iff_of_false nofun ?_
      rintro ⟨hsome, hnamed⟩
      cases hcut.symm.trans hsome
      exact hnamed rfl
    · rename_i hnonempty
      constructor
      · intro hcut
        refine ⟨hcut, ?_⟩
        rintro rfl
        exact hnonempty after hcut
      · exact And.left
  rw [hiff, Text.cutAt_eq_some_iff]
  constructor
  · rintro ⟨⟨hfirst, rfl⟩, hnamed⟩
    exact ⟨hnamed, hfirst, rfl⟩
  · rintro ⟨hnamed, hfirst, heq⟩
    simp only [List.cons.injEq, true_and] at heq
    exact ⟨⟨hfirst, heq⟩, hnamed⟩

theorem begun?_eq_some_iff {cs name after : List Char} :
    begun? cs = some (name, after) ↔ Begins cs name after := by
  unfold begun?
  split
  · exact reference?_eq_some_iff
  · rename_i hother
    refine iff_of_false nofun ?_
    rintro ⟨-, -, rfl⟩
    exact hother _ rfl

theorem begun?_eq_none_iff {cs : List Char} :
    begun? cs = none ↔ ∀ name after, ¬ Begins cs name after := by
  simp only [Option.eq_none_iff_forall_ne_some, ne_eq, Prod.forall, begun?_eq_some_iff]

theorem Begins.length_lt {cs name after : List Char} (h : Begins cs name after) :
    after.length < cs.length := by
  rw [h.eq]
  simp only [List.length_cons, List.length_append]
  omega

theorem parted_partsFrom {fuel : Nat} {cs : List Char} (h : cs.length ≤ fuel) :
    Parted cs (partsFrom fuel cs) := by
  induction fuel generalizing cs with
  | zero =>
    cases List.eq_nil_of_length_eq_zero (Nat.le_zero.mp h)
    exact .done
  | succ fuel ih =>
    cases cs with
    | nil => exact .done
    | cons c rest =>
      rw [partsFrom]
      rw [List.length_cons] at h
      cases hbegun : begun? (c :: rest) with
      | none => exact .plain (begun?_eq_none_iff.mp hbegun) (ih (by omega))
      | some found =>
        obtain ⟨name, after⟩ := found
        have hbegins := begun?_eq_some_iff.mp hbegun
        have hlt := hbegins.length_lt
        rw [List.length_cons] at hlt
        exact .reference hbegins (ih (by omega))

/-- There is one way to cut a text into parts. -/
theorem Parted.unique {cs : List Char} {ps qs : List Part} (h : Parted cs ps)
    (h' : Parted cs qs) : ps = qs := by
  induction h generalizing qs with
  | done =>
    cases h' with
    | done => rfl
    | reference begins more => cases begins.eq
  | reference begins more ih =>
    cases h' with
    | done => cases begins.eq
    | reference begins' more' =>
      have hsame := (begun?_eq_some_iff.mpr begins).symm.trans (begun?_eq_some_iff.mpr begins')
      cases hsame
      rw [ih more']
    | plain none more' => exact absurd begins (none _ _)
  | plain none more ih =>
    cases h' with
    | reference begins more' => exact absurd begins (none _ _)
    | plain none' more' => rw [ih more']

theorem parted_iff {s : String} {ps : List Part} : Parted s.toList ps ↔ ps = parts s := by
  have hparts : Parted s.toList (parts s) := parted_partsFrom (Nat.le_refl _)
  constructor
  · exact fun h => h.unique hparts
  · rintro rfl
    exact hparts

/-- What opens no reference stays, and so does what an earlier `}` leaves empty. -/
example : parts "$a$\x7b\x7d$\x7bb$\x7bc\x7d\x7d$\x7b" =
    [.plain '$', .plain 'a', .plain '$', .plain '{', .plain '}', .reference "b$\x7bc", .plain '}',
      .plain '$', .plain '{'] := by decide +kernel

/-! ## The pass over a text -/

/-- A variable is not set. -/
def isUnset (env : Environment) (name : String) : Bool := (Pairs.fetch name env).isNone

/-- A result, unless one of the names it needs is not set: then the first of them. -/
def needing {α : Type} (env : Environment) (names : List String) (a : α) : Except Unset α :=
  match names.find? env.isUnset with
  | none => .ok a
  | some name => .error ⟨name⟩

section

variable {α β γ : Type} (env : Environment)

theorem needing_map (names : List String) (a : α) (f : α → β) :
    (needing env names a).map f = needing env names (f a) := by
  rw [needing, needing]
  cases names.find? env.isUnset <;> rfl

theorem needing_bind (names more : List String) (a : α) (b : β) (f : α → β → γ) :
    (do let x ← needing env names a
        let y ← needing env more b
        .ok (f x y)) = needing env (names ++ more) (f a b) := by
  simp only [needing, List.find?_append]
  cases names.find? env.isUnset with
  | some name => rfl
  | none =>
    simp only [Option.none_or]
    cases more.find? env.isUnset <;> rfl

theorem value_eq (name : String) :
    env.value name = needing env [name] ((Pairs.fetch name env).getD "") := by
  rw [value, needing, List.find?_singleton, isUnset]
  cases Pairs.fetch name env <;> rfl

theorem needing_eq_ok_iff {names : List String} {a b : α} :
    needing env names a = .ok b ↔ (∀ name ∈ names, (Pairs.fetch name env).isSome = true) ∧ b = a := by
  rw [needing]
  cases hfind : names.find? env.isUnset with
  | none =>
    have hset : ∀ name ∈ names, (Pairs.fetch name env).isSome = true := by
      simpa [isUnset, ← Option.isSome_iff_ne_none] using List.find?_eq_none.mp hfind
    simp only [Except.ok.injEq, eq_comm (a := a), and_iff_right hset]
  | some name =>
    constructor
    · intro h
      cases h
    · rintro ⟨hset, -⟩
      have hunset : env.isUnset name = true := List.find?_some hfind
      have hone := hset name (List.mem_of_find?_eq_some hfind)
      rw [isUnset, Option.isNone_iff_eq_none] at hunset
      rw [hunset] at hone
      cases hone

theorem needing_eq_error_iff {names : List String} {a : α} {e : Unset} :
    needing env names a = .error e ↔ names.find? env.isUnset = some e.name := by
  rw [needing]
  cases names.find? env.isUnset with
  | none =>
    constructor
    · intro h
      cases h
    · intro h
      cases h
  | some name =>
    obtain ⟨unset⟩ := e
    simp

end

/-- The names in the references of a text, in order. -/
def namesIn (s : String) : List String := (parts s).filterMap Part.name?

/-- The text with each reference replaced by the value of its variable. -/
def filled (env : Environment) (s : String) : String :=
  String.ofList ((parts s).flatMap (Part.filled env))

/-- One step of the pass goes to the next part. -/
theorem scan_succ (env : Environment) (fuel : Nat) (c : Char) (rest : List Char) :
    scan env (fuel + 1) (c :: rest) =
      match begun? (c :: rest) with
      | some (name, after) => do
        let v ← env.value (String.ofList name)
        let more ← scan env fuel after
        .ok (v.toList ++ more)
      | none => (scan env fuel rest).map (c :: ·) := by
  by_cases hopen : ∃ more, c = '$' ∧ rest = '{' :: more
  · obtain ⟨more, rfl, rfl⟩ := hopen
    cases hread : reference? more with
    | none => simp only [scan, begun?, hread]
    | some found => simp only [scan, begun?, hread]
  · -- without a dollar and a brace the character stands for itself
    have hnone : begun? (c :: rest) = none := by
      unfold begun?
      split
      · rename_i more heq
        cases heq
        exact absurd ⟨more, rfl, rfl⟩ hopen
      · rfl
    rw [hnone, scan]
    intro more hc hrest
    exact hopen ⟨more, hc, hrest⟩

/-- The pass over a text replaces its references, or stops at the first that is not set. -/
theorem scan_eq (env : Environment) {fuel : Nat} {cs : List Char} (h : cs.length ≤ fuel) :
    scan env fuel cs =
      needing env ((partsFrom fuel cs).filterMap Part.name?)
        ((partsFrom fuel cs).flatMap (Part.filled env)) := by
  induction fuel generalizing cs with
  | zero => rfl
  | succ fuel ih =>
    cases cs with
    | nil => rfl
    | cons c rest =>
      rw [List.length_cons] at h
      rw [scan_succ, partsFrom]
      cases hbegun : begun? (c :: rest) with
      | none =>
        dsimp only
        rw [ih (by omega), needing_map]
        rfl
      | some found =>
        obtain ⟨name, after⟩ := found
        have hlt := (begun?_eq_some_iff.mp hbegun).length_lt
        rw [List.length_cons] at hlt
        dsimp only
        rw [ih (by omega), value_eq]
        exact needing_bind env _ _ _ _ fun (v : String) more => v.toList ++ more

theorem expandText_eq (env : Environment) (s : String) :
    env.expandText s = needing env (namesIn s) (env.filled s) := by
  rw [expandText, scan_eq env (Nat.le_refl _), needing_map]
  rfl

/-! ## The pass over a document -/

/-- The names in the references of several texts, in order. -/
def namesInAll (texts : List String) : List String := texts.flatMap namesIn

theorem namesInAll_append (texts more : List String) :
    namesInAll (texts ++ more) = namesInAll texts ++ namesInAll more :=
  List.flatMap_append

mutual

theorem expand_eq (env : Environment) :
    ∀ d : Data, env.expand d = needing env (namesInAll d.texts) (d.mapTexts env.filled)
  | .scalar s => by
    cases s with
    | text s =>
      show (env.expandText s).map _ = needing env (namesInAll [s]) _
      rw [expandText_eq, needing_map, namesInAll, List.flatMap_singleton]
      rfl
    | _ => rfl
  | .list items => by
    show (expandItems env items).map _ = _
    rw [expandItems_eq env items, needing_map]
    rfl
  | .mapping entries => by
    show (expandEntries env entries).map _ = _
    rw [expandEntries_eq env entries, needing_map]
    rfl

theorem expandItems_eq (env : Environment) :
    ∀ items : List Data, expandItems env items =
      needing env (namesInAll (Data.textsOfItems items)) (Data.mapItems env.filled items)
  | [] => rfl
  | d :: rest => by
    rw [expandItems, expand_eq env d, expandItems_eq env rest, Data.textsOfItems,
      namesInAll_append]
    exact needing_bind env _ _ _ _ fun e es => e :: es

theorem expandEntries_eq (env : Environment) :
    ∀ entries : List (Scalar × Data), expandEntries env entries =
      needing env (namesInAll (Data.textsOfEntries entries)) (Data.mapEntries env.filled entries)
  | [] => rfl
  | (key, d) :: rest => by
    rw [expandEntries, expand_eq env d, expandEntries_eq env rest, Data.textsOfEntries,
      namesInAll_append]
    exact needing_bind env _ _ _ _ fun e es => (key, e) :: es

end

/-- **References are replaced in one pass.** Every text is cut into parts in exactly one way,
which no variable has a say in. A document is accepted exactly when every variable to which one
of its texts refers is set; then its skeleton stays, and each text is the values and characters
of its parts. Otherwise the message names the first one that is not set, in the order of the
texts and from left to right in each. -/
theorem expand_in_one_pass (env : Environment) (d : Data) :
    (∀ (s : String) ps, Parted s.toList ps ↔ ps = parts s) ∧
      (∀ d', env.expand d = .ok d' ↔
        (∀ s ∈ d.texts, ∀ name, .reference name ∈ parts s →
          (Pairs.fetch name env).isSome = true) ∧
        d'.skeleton = d.skeleton ∧
        d'.texts = d.texts.map fun s => String.ofList ((parts s).flatMap (Part.filled env))) ∧
      ∀ message, (∃ e, env.expand d = .error e ∧ e.message = message) ↔
        ∃ name, (d.texts.flatMap fun s => (parts s).filterMap Part.name?).find?
            (fun name => (Pairs.fetch name env).isNone) = some name ∧
          message = "Environment variable not set: " ++ name := by
  refine ⟨fun s ps => parted_iff, fun d' => ?_, fun message => ?_⟩
  · rw [expand_eq, needing_eq_ok_iff, Data.eq_mapTexts_iff]
    refine and_congr ?_ Iff.rfl
    simp only [namesInAll, namesIn, List.mem_flatMap, List.mem_filterMap]
    constructor
    · intro h s hs name hname
      exact h name ⟨s, hs, .reference name, hname, rfl⟩
    · rintro h name ⟨s, hs, part, hpart, hname⟩
      cases part with
      | plain c => cases hname
      | reference name' =>
        cases hname
        exact h s hs name hpart
  · constructor
    · rintro ⟨e, he, rfl⟩
      rw [expand_eq, needing_eq_error_iff] at he
      exact ⟨e.name, he, rfl⟩
    · rintro ⟨name, hfind, rfl⟩
      refine ⟨⟨name⟩, ?_, rfl⟩
      rw [expand_eq, needing_eq_error_iff]
      exact hfind

end Environment

end TemplateLookup
