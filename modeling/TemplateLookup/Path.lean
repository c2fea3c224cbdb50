/-
# TemplateLookup.Path -- lexical paths

A path is an anchor and a list of segments. Empty and `.` segments vanish when
a text is read as a path, so two texts name the same path exactly when they
agree in anchor and segments; `..` is a segment like any other. Exactly two
leading slashes are an anchor of their own, three or more are the same as one.
-/

import TemplateLookup.Text.Pieces

namespace TemplateLookup

/-- Where a path starts. -/
inductive Anchor where
  /-- At the working directory. -/
  | here
  /-- At the top directory. -/
  | root
  /-- At the top directory, written with two slashes. -/
  | doubleRoot
  deriving DecidableEq, Repr, Inhabited

/-- The slashes of an anchor. -/
def Anchor.slashes : Anchor → String
  | .here => ""
  | .root => "/"
  | .doubleRoot => "//"

/-- A path as its text determines it, without a look at any file. -/
structure Path where
  anchor : Anchor
  segments : List String
  deriving DecidableEq, Repr, Inhabited

namespace Path

/-! ## Reading -/

/-- The anchor that a text starts with. -/
def anchorOf : List Char → Anchor
  | '/' :: '/' :: '/' :: _ => .root
  | '/' :: '/' :: _ => .doubleRoot
  | '/' :: _ => .root
  | _ => .here

/-- Whether a piece between slashes is a segment. -/
def isSegment (piece : List Char) : Bool := piece ≠ [] && piece ≠ ['.']

/-- The segments of a text. -/
def segmentsOf (cs : List Char) : List String :=
  ((Text.pieces '/' cs).filter isSegment).map String.ofList

/-- The path of a text. -/
def ofString (s : String) : Path := ⟨anchorOf s.toList, segmentsOf s.toList⟩

/-! ## Writing -/

/-- The text of a path; the path without anchor and segments is a full stop. -/
def toString (p : Path) : String :=
  if p.anchor = .here ∧ p.segments = [] then "."
  else p.anchor.slashes ++ Text.joinWith "/" p.segments

/-! ## Combining -/

/-- The second path read from the first; an anchored one stands for itself. -/
def join (p q : Path) : Path :=
  if q.anchor = .here then ⟨p.anchor, p.segments ++ q.segments⟩ else q

/-- The path with one segment more. -/
def child (p : Path) (segment : String) : Path := ⟨p.anchor, p.segments ++ [segment]⟩

/-- The path with its last segment removed. -/
def parent (p : Path) : Path := ⟨p.anchor, p.segments.dropLast⟩

/-- Whether a path is anchored. -/
def isAbsolute (p : Path) : Bool := p.anchor ≠ .here

theorem join_of_relative (p q : Path) (h : q.anchor = .here) :
    p.join q = ⟨p.anchor, p.segments ++ q.segments⟩ := by
  simp [join, h]

/-- One `..` less for every segment before it: the segments of a path, cleared
of those `..` that have a segment to remove. An anchored path cannot climb
above its anchor. -/
def lexical (p : Path) : Path :=
  let kept := p.segments.foldl (fun (stack : List String) s =>
    if s = ".." then
      match stack with
      | [] => if p.isAbsolute then [] else [".."]
      | top :: below => if top = ".." then ".." :: stack else below
    else s :: stack) []
  ⟨p.anchor, kept.reverse⟩

end Path

end TemplateLookup
