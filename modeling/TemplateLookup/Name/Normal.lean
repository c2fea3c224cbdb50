/-
# TemplateLookup.Name.Normal -- template names in normal form

A name is brought into normal form by shortening its text. Backslashes become
slashes, a slash is put in front, and a trailing `.` or `..` is closed by a
slash like any directory. Then three loops run, each until its pattern is gone:
runs of slashes shrink, `/./` becomes `/`, and the first `/../` takes the
segment before it away. A `/../` with nothing before it climbs above the top,
and the name has no normal form.

Every step of a loop makes the text shorter, so the length of the text bounds
the number of steps.
-/

import TemplateLookup.Text.Pieces

namespace TemplateLookup.Name

/-! ## Searching a text -/

/-- Where a pattern first occurs. -/
def find (pattern : List Char) : List Char → Option Nat
  | [] => if pattern = [] then some 0 else none
  | c :: rest =>
    if pattern.isPrefixOf (c :: rest) then some 0 else (find pattern rest).map (· + 1)

/-- Where the last slash stands. -/
def lastSlash : List Char → Option Nat
  | [] => none
  | c :: rest =>
    match lastSlash rest with
    | some i => some (i + 1)
    | none => if c = '/' then some 0 else none

/-! ## One step of each loop -/

/-- Every other slash of a run removed, from left to right. -/
def halveSlashes : List Char → List Char
  | '/' :: '/' :: rest => '/' :: halveSlashes rest
  | c :: rest => c :: halveSlashes rest
  | [] => []

/-- Every `/./` made a slash, from left to right. -/
def dropDots : List Char → List Char
  | '/' :: '.' :: '/' :: rest => '/' :: dropDots rest
  | c :: rest => c :: dropDots rest
  | [] => []

/-- What the loop over `/../` finds at its head. -/
inductive Turn where
  /-- No `/../` is left. -/
  | settled
  /-- The first `/../` has no segment before it. -/
  | climbs
  /-- The text without the first `/../` and the segment before it. -/
  | again (text : List Char)
  deriving DecidableEq, Repr

/-- One turn of the loop over `/../`. -/
def turn (cs : List Char) : Turn :=
  match find "/../".toList cs with
  | none => .settled
  | some i =>
    match lastSlash (cs.take i) with
    | none => .climbs
    | some parent => .again (cs.take parent ++ cs.drop (i + 3))

/-! ## The loops -/

/-- Runs of slashes made single slashes. -/
def squeeze : Nat → List Char → List Char
  | 0, cs => cs
  | fuel + 1, cs =>
    match find "//".toList cs with
    | none => cs
    | some _ => squeeze fuel (halveSlashes cs)

/-- All `.` segments removed. -/
def undot : Nat → List Char → List Char
  | 0, cs => cs
  | fuel + 1, cs =>
    match find "/./".toList cs with
    | none => cs
    | some _ => undot fuel (dropDots cs)

/-- All `..` segments resolved, unless one climbs above the top. -/
def ascend : Nat → List Char → Option (List Char)
  | 0, cs => some cs
  | fuel + 1, cs =>
    match turn cs with
    | .settled => some cs
    | .climbs => none
    | .again rest => ascend fuel rest

/-! ## Normal form -/

/-- Backslashes made slashes. -/
def forward (cs : List Char) : List Char := cs.map fun c => if c = '\\' then '/' else c

/-- A slash in front, unless there is one. -/
def anchored : List Char → List Char
  | '/' :: rest => '/' :: rest
  | cs => '/' :: cs

/-- Whether a text ends with another. -/
def endsWith (ending cs : List Char) : Bool := ending.reverse.isPrefixOf cs.reverse

/-- A trailing `.` or `..` closed by a slash. -/
def closed (cs : List Char) : List Char :=
  if endsWith "/.".toList cs || endsWith "/..".toList cs then cs ++ ['/'] else cs

/-- The text on which the loop over `/../` starts. -/
def prepared (cs : List Char) : List Char :=
  let opened := closed (anchored cs)
  let single := squeeze opened.length opened
  undot single.length single

/-- The normal form of a name, if it has one. -/
def normalChars (cs : List Char) : Option (List Char) :=
  let slashed := forward cs
  if slashed = "/.".toList then some ['/']
  else
    let start := prepared slashed
    ascend start.length start

/-- The normal form of a name, if it has one. -/
def normal? (name : String) : Option String := (normalChars name.toList).map String.ofList

end TemplateLookup.Name
