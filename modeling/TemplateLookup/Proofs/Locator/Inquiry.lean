/-
# TemplateLookup.Proofs.Locator.Inquiry -- look-ups as questions about paths

A look-up learns about files by asking questions, each about one path. Here every
operation of a locator is written as an inquiry: a tree that asks a question and
goes on with the answer. Run in a world, the inquiry is the operation
(`run_resolving` and its companions), and `asked` lists the paths it asks about on
the way. Where an inquiry asks only about paths of some kind whatever the answers
are, so does every run of it (`Within.asked`).
-/

import TemplateLookup.Locator.Staleness

namespace TemplateLookup

/-! ## Questions -/

/-- What can be asked about a path. -/
inductive Question where
  | readable
  | content
  | openedTime
  | existence
  | time
  deriving DecidableEq, Repr

/-- The kind of answer to a question. -/
def Question.Answer : Question → Type
  | .readable => Bool
  | .content => Except SystemError Bytes
  | .openedTime => Except SystemError Number.Binary64
  | .existence => Except SystemError Bool
  | .time => Option Number.Binary64

/-- What a world answers. -/
def World.reply (w : World) (p : Path) : (q : Question) → q.Answer
  | .readable => w.isReadable p
  | .content => w.openedContent p
  | .openedTime => w.openedStamp p
  | .existence => w.exists? p
  | .time => w.stampAt? p

/-! ## Inquiries -/

/-- A result that depends on answers to questions. -/
inductive Inquiry (α : Type) where
  | done (a : α)
  | ask (q : Question) (p : Path) (next : q.Answer → Inquiry α)

namespace Inquiry

variable {α β : Type}

/-- An inquiry that goes on with the result of another one. -/
def bind (i : Inquiry α) (f : α → Inquiry β) : Inquiry β :=
  match i with
  | .done a => f a
  | .ask q p next => .ask q p fun answer => (next answer).bind f

/-- The result in a world. -/
def run (w : World) : Inquiry α → α
  | .done a => a
  | .ask q p next => (next (w.reply p q)).run w

/-- The paths that are asked about in a world, in order. -/
def asked (w : World) : Inquiry α → List Path
  | .done _ => []
  | .ask q p next => p :: (next (w.reply p q)).asked w

@[simp] theorem run_bind (w : World) (i : Inquiry α) (f : α → Inquiry β) :
    (i.bind f).run w = (f (i.run w)).run w := by
  induction i with
  | done a => rfl
  | ask q p next ih => exact ih (w.reply p q)

@[simp] theorem asked_bind (w : World) (i : Inquiry α) (f : α → Inquiry β) :
    (i.bind f).asked w = i.asked w ++ (f (i.run w)).asked w := by
  induction i with
  | done a => rfl
  | ask q p next ih => exact congrArg (p :: ·) (ih (w.reply p q))

/-- Every path that is asked about has a property, whatever the answers are. -/
def Within (P : Path → Prop) : Inquiry α → Prop
  | .done _ => True
  | .ask _ p next => P p ∧ ∀ answer, (next answer).Within P

theorem Within.mono {P Q : Path → Prop} {i : Inquiry α} (h : i.Within P)
    (hpq : ∀ p, P p → Q p) : i.Within Q := by
  induction i with
  | done a => trivial
  | ask q p next ih => exact ⟨hpq p h.1, fun answer => ih answer (h.2 answer)⟩

theorem Within.bind {P : Path → Prop} {i : Inquiry α} {f : α → Inquiry β} (h : i.Within P)
    (hf : ∀ a, (f a).Within P) : (i.bind f).Within P := by
  induction i with
  | done a => exact hf a
  | ask q p next ih => exact ⟨h.1, fun answer => ih answer (h.2 answer)⟩

theorem Within.asked {P : Path → Prop} {i : Inquiry α} (h : i.Within P) (w : World) :
    ∀ p ∈ i.asked w, P p := by
  induction i with
  | done a =>
    intro p hp
    cases hp
  | ask q p next ih =>
    intro p' hp'
    rcases List.mem_cons.mp hp' with rfl | hlater
    · exact h.1
    · exact ih (w.reply p q) (h.2 _) p' hlater

end Inquiry

/-! ## The operations of a locator -/

namespace Locator

/-- Trying the candidate of a root. -/
def trying (name location root : String) : Inquiry Trial :=
  let path := candidate root location
  .ask .readable path fun (readable : Bool) =>
    if readable then
      .ask .content path fun (content : Except SystemError Bytes) =>
        match content with
        | .error e => .done (.skipped (.unopened path.toString e.message))
        | .ok bytes =>
          .ask .openedTime path fun (stamp : Except SystemError Number.Binary64) =>
            match stamp with
            | .error e => .done (.skipped (.untimed path.toString e.message))
            | .ok stamp => .done (.opened ⟨name, root, path, stamp, bytes⟩)
    else .done .nothing

/-- Searching roots in order. -/
def searching (name location : String) : List String → Inquiry Found
  | [] => .done ⟨[], none⟩
  | root :: rest =>
    (trying name location root).bind fun trial =>
      match trial with
      | .nothing => searching name location rest
      | .skipped notice =>
        (searching name location rest).bind fun later =>
          .done ⟨notice :: later.notices, later.resource⟩
      | .opened resource => .done ⟨[], some resource⟩

/-- Looking for the first root whose candidate is readable. -/
def probing (location : String) : List String → Inquiry (Option String)
  | [] => .done none
  | root :: rest =>
    .ask .readable (candidate root location) fun (readable : Bool) =>
      if readable then .done (some root) else probing location rest

/-- Looking a template up. -/
def resolving (l : Locator) (table : Provenance) (name : Option String) : Inquiry Lookup :=
  match Name.accept name with
  | .error e => .done ⟨.error e, table, refusalNotices e⟩
  | .ok location =>
    (searching (name.getD "") location l.roots.names).bind fun found =>
      match found.resource with
      | some r =>
        .done ⟨.ok r, table.record (name.getD "") r.root,
          found.notices ++ [.found (name.getD "") r.root]⟩
      | none => .done ⟨.error (.notFound location), table, found.notices⟩

/-- Asking which root a look-up would use now. -/
def rooting (l : Locator) (name : Option String) :
    Inquiry (Except LookupError (Option String)) :=
  match Name.accept name with
  | .error e => .done (.error e)
  | .ok location => (probing location l.roots.names).bind fun root => .done (.ok root)

/-- Comparing the file that was loaded with the one that would be loaded now. -/
def comparing (location loaded current : String) (known : Number.Numeral) :
    Inquiry (Except SystemError Bool) :=
  let loadedFile := candidate loaded location
  .ask .existence loadedFile fun (existence : Except SystemError Bool) =>
    match existence with
    | .error e => .done (.error e)
    | .ok false => .done (.ok true)
    | .ok true =>
      if candidate current location ≠ loadedFile then .done (.ok true)
      else
        .ask .readable loadedFile fun (readable : Bool) =>
          if readable then
            .ask .time loadedFile fun (time : Option Number.Binary64) =>
              match time with
              | none => .done (.ok true)
              | some stamp => .done (.ok (!known.equals stamp))
          else .done (.ok true)

/-- Asking whether a template has to be loaded again. -/
def staling (l : Locator) (table : Provenance) (name : Option String)
    (known : Number.Numeral) : Inquiry (Except SystemError Bool) :=
  match Name.accept name with
  | .error _ => .done (.ok true)
  | .ok location =>
    (probing location l.roots.names).bind fun found =>
      match found with
      | none => .done (.ok true)
      | some current =>
        comparing location ((table.root? (name.getD "")).getD current) current known

/-- Asking for the time stamp of the file that a template was loaded from. -/
def dating (table : Provenance) (name : Option String) : Inquiry Number.Binary64 :=
  match name.bind table.root? with
  | none => .done unknownStamp
  | some root =>
    match Name.accept name with
    | .error _ => .done unknownStamp
    | .ok location =>
      .ask .readable (candidate root location) fun (readable : Bool) =>
        if readable then
          .ask .time (candidate root location) fun (time : Option Number.Binary64) =>
            .done (time.getD unknownStamp)
        else .done unknownStamp

/-! ## Inquiries are the operations -/

theorem run_trying (w : World) (name location root : String) :
    (trying name location root).run w = tryRoot w name location root := by
  rw [trying, tryRoot]
  show Inquiry.run w (if w.isReadable (candidate root location) then _ else _) = _
  cases w.isReadable (candidate root location) with
  | false => rfl
  | true =>
    show Inquiry.run w (match w.openedContent (candidate root location) with
      | .error _ => _ | .ok _ => _) = _
    cases w.openedContent (candidate root location) with
    | error e => rfl
    | ok content =>
      show Inquiry.run w (match w.openedStamp (candidate root location) with
        | .error _ => _ | .ok _ => _) = _
      cases w.openedStamp (candidate root location) <;> rfl

theorem run_searching (w : World) (name location : String) (roots : List String) :
    (searching name location roots).run w = searchRoots w name location roots := by
  induction roots with
  | nil => rfl
  | cons root rest ih =>
    rw [searching, Inquiry.run_bind, run_trying, searchRoots]
    cases tryRoot w name location root with
    | nothing => exact ih
    | skipped notice => simp only [Inquiry.run_bind, ih]; rfl
    | opened resource => rfl

theorem run_probing (w : World) (location : String) (roots : List String) :
    (probing location roots).run w = readableRoot w location roots := by
  induction roots with
  | nil => rfl
  | cons root rest ih =>
    rw [probing, readableRoot, List.find?_cons]
    show Inquiry.run w (if w.isReadable (candidate root location) then _ else _) = _
    cases w.isReadable (candidate root location) with
    | true => rfl
    | false => exact ih

theorem run_resolving (w : World) (l : Locator) (table : Provenance) (name : Option String) :
    (resolving l table name).run w = resolve w l table name := by
  rw [resolving, resolve]
  cases Name.accept name with
  | error e => rfl
  | ok location =>
    simp only [Inquiry.run_bind, run_searching, resolveAt]
    cases (searchRoots w (name.getD "") location l.roots.names).resource <;> rfl

theorem run_rooting (w : World) (l : Locator) (name : Option String) :
    (rooting l name).run w = currentRoot w l name := by
  rw [rooting, currentRoot]
  cases Name.accept name with
  | error e => rfl
  | ok location =>
    simp only [Inquiry.run_bind, run_probing]
    rfl

theorem run_comparing (w : World) (location loaded current : String) (known : Number.Numeral) :
    (comparing location loaded current known).run w =
      hasChanged w location loaded current known := by
  rw [comparing, hasChanged]
  show Inquiry.run w (match w.exists? (candidate loaded location) with
    | .error e => _ | .ok false => _ | .ok true => _) = _
  cases hexists : w.exists? (candidate loaded location) with
  | error e => rfl
  | ok found =>
    cases found with
    | false => rfl
    | true =>
      by_cases hsame : candidate current location = candidate loaded location
      · simp only [hsame, ne_eq, not_true_eq_false, if_false, false_or]
        show Inquiry.run w (if w.isReadable (candidate loaded location) then _ else _) = _
        cases w.isReadable (candidate loaded location) with
        | false => rfl
        | true =>
          show Inquiry.run w (match w.stampAt? (candidate loaded location) with
            | none => _ | some _ => _) = _
          cases w.stampAt? (candidate loaded location) <;> rfl
      · simp only [ne_eq, hsame, not_false_eq_true, if_true, true_or]
        rfl

theorem run_staling (w : World) (l : Locator) (table : Provenance) (name : Option String)
    (known : Number.Numeral) :
    (staling l table name known).run w = isStale w l table name known := by
  rw [staling, isStale]
  cases Name.accept name with
  | error e => rfl
  | ok location =>
    simp only [Inquiry.run_bind, run_probing]
    cases readableRoot w location l.roots.names with
    | none => rfl
    | some current => exact run_comparing ..

theorem run_dating (w : World) (table : Provenance) (name : Option String) :
    (dating table name).run w = lastModified w table name := by
  rw [dating, lastModified]
  cases name.bind table.root? with
  | none => rfl
  | some root =>
    cases Name.accept name with
    | error e => rfl
    | ok location =>
      show Inquiry.run w (if w.isReadable (candidate root location) then _ else _) = _
      simp only
      cases w.isReadable (candidate root location) <;> rfl

end Locator

end TemplateLookup
