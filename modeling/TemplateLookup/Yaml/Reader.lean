/-
# TemplateLookup.Yaml.Reader -- reading a configuration document

A document is written in blocks, where the column tells what belongs together,
or in flow, between brackets. A block list has its items behind dashes in one
column, a block mapping its keys in one column, each on the line of its colon; a
list may stand in the column of the key that it belongs to. A key that is
written twice keeps its first place and its last value. What is left empty is
null. Anchors, tags, explicit keys and texts kept line by line are not read.

Reading takes at least one character for each step into a part, so the length
of the text bounds the depth.
-/

import TemplateLookup.Data.Basic
import TemplateLookup.Pairs
import TemplateLookup.Yaml.Scalar

namespace TemplateLookup.Yaml

/-! ## In flow -/

/-- Whether a separating colon stands here, between brackets. -/
def atFlowColon (cur : Cursor) : Bool := cur.rest.head? = some ':'

/-- A document as the key of a mapping, for a cursor where it started. -/
def asKey (cur : Cursor) : Data → Except Flaw Scalar
  | .scalar s => .ok s
  | _ => .error (.compoundKey cur.line cur.column)

mutual

/-- A part between brackets, and the cursor behind it. -/
def flowNode : Nat → Cursor → Except Flaw (Data × Cursor)
  | 0, cur => .error cur.unexpected
  | fuel + 1, cur =>
    match cur.rest with
    | '[' :: _ => do
      let (items, next) ← flowItems fuel (cur.advance 1).skip
      .ok (.list items, next)
    | '{' :: _ => do
      let (entries, next) ← flowEntries fuel (cur.advance 1).skip []
      .ok (.mapping entries, next)
    | c :: _ =>
      if c = '"' ∨ c = '\'' then do
        let (cs, next) ← quotedText cur
        .ok (Data.text (String.ofList cs), next)
      else if startsPlain true cur.rest then
        let (cs, next) := plainText true 0 cur
        .ok (.scalar (Plain.scalar cs), next)
      else .error cur.unexpected
    | [] => .error cur.unexpected

/-- The items of a list up to its closing bracket. -/
def flowItems : Nat → Cursor → Except Flaw (List Data × Cursor)
  | 0, cur => .error cur.unexpected
  | fuel + 1, cur =>
    match cur.rest with
    | ']' :: _ => .ok ([], cur.advance 1)
    | _ => do
      let (item, next) ← flowNode fuel cur
      let after := next.skip
      let (whole, behind) ←
        if atFlowColon after then do
          let key ← asKey cur item
          let (value, final) ← flowValue fuel cur after
          Except.ok (Data.mapping [(key, value)], final)
        else Except.ok (item, after)
      match behind.rest with
      | ',' :: _ => do
        let (items, final) ← flowItems fuel (behind.advance 1).skip
        .ok (whole :: items, final)
      | ']' :: _ => .ok ([whole], behind.advance 1)
      | _ => .error behind.unexpected

/-- The value behind a colon between brackets; `key` is where its key started. -/
def flowValue : Nat → Cursor → Cursor → Except Flaw (Data × Cursor)
  | 0, _, cur => .error cur.unexpected
  | fuel + 1, key, cur =>
    if key.line ≠ cur.line then .error cur.unexpected
    else
      let next := (cur.advance 1).skip
      match next.rest with
      | [] => .error next.unexpected
      | c :: _ =>
        if c = ',' ∨ c = ']' ∨ c = '\x7d' then .ok (.null, next)
        else do
          let (value, behind) ← flowNode fuel next
          .ok (value, behind.skip)

/-- The entries of a mapping up to its closing brace, added to those before. -/
def flowEntries : Nat → Cursor → List (Scalar × Data) →
    Except Flaw (List (Scalar × Data) × Cursor)
  | 0, cur, _ => .error cur.unexpected
  | fuel + 1, cur, before =>
    match cur.rest with
    | '}' :: _ => .ok (before, cur.advance 1)
    | _ => do
      let (item, next) ← flowNode fuel cur
      let key ← asKey cur item
      let after := next.skip
      let (value, behind) ←
        if atFlowColon after then flowValue fuel cur after
        else Except.ok (Data.null, after)
      let entries := Pairs.store key value before
      match behind.rest with
      | ',' :: _ => flowEntries fuel (behind.advance 1).skip entries
      | '}' :: _ => .ok (entries, behind.advance 1)
      | _ => .error behind.unexpected

end

/-! ## In blocks -/

/-- Whether a dash with a gap behind it stands here. -/
def atDash (cur : Cursor) : Bool :=
  match cur.rest with
  | '-' :: rest => atGap rest
  | _ => false

/-- Whether a colon with a gap behind it stands here. -/
def atColon (cur : Cursor) : Bool :=
  match cur.rest with
  | ':' :: rest => atGap rest
  | _ => false

/-- The cursor after the spaces of a line. -/
def afterSpaces (cur : Cursor) : Cursor := cur.advance (cur.rest.takeWhile (· = ' ')).length

/-- A key at the cursor and the cursor behind its colon, if there is one. -/
def keyAt? (cur : Cursor) : Option (Scalar × Cursor) :=
  let found : Option (Scalar × Cursor) :=
    match cur.rest with
    | [] => none
    | c :: _ =>
      if c = '"' ∨ c = '\'' then
        match quotedText cur with
        | .ok (cs, next) => some (.text (String.ofList cs), next)
        | .error _ => none
      else if startsPlain false cur.rest then
        let (cs, next) := plainLine cur.rest.length cur
        some (Plain.scalar cs, next)
      else none
  found.bind fun (key, next) =>
    let after := afterSpaces next
    if atColon after && after.line = cur.line then some (key, after.advance 1) else none

/-- A value that is no block: in brackets, in quotes or plain. `indent` is the
least column of its further lines. -/
def inlineValue (indent : Nat) (cur : Cursor) : Except Flaw (Data × Cursor) :=
  match cur.rest with
  | [] => .error cur.unexpected
  | c :: _ =>
    if c = '[' ∨ c = '\x7b' then flowNode (2 * cur.rest.length + 2) cur
    else if c = '"' ∨ c = '\'' then do
      let (cs, next) ← quotedText cur
      .ok (Data.text (String.ofList cs), next)
    else if startsPlain false cur.rest then
      let (cs, next) := plainText false indent cur
      .ok (.scalar (Plain.scalar cs), next)
    else .error cur.unexpected

/-- What follows a part is further left, or at the end. -/
def isClosed (column : Nat) (cur : Cursor) : Bool :=
  cur.rest.isEmpty || cur.column < column

mutual

/-- A block, or a value that is none, at the cursor; further lines of a text
start at `indent` or behind it. -/
def block : Nat → Nat → Cursor → Except Flaw (Data × Cursor)
  | 0, _, cur => .error cur.unexpected
  | fuel + 1, indent, cur =>
    if atDash cur then do
      let (items, next) ← blockItems fuel cur.column cur
      .ok (.list items, next)
    else match keyAt? cur with
      | some _ => do
        let (entries, next) ← blockEntries fuel cur.column cur []
        .ok (.mapping entries, next)
      | none => do
        let (value, next) ← inlineValue indent cur
        .ok (value, next.skip)

/-- The items of a list whose dashes stand in a column. -/
def blockItems : Nat → Nat → Cursor → Except Flaw (List Data × Cursor)
  | 0, _, cur => .error cur.unexpected
  | fuel + 1, column, cur => do
    let inside := (cur.advance 1).skip
    let (item, next) ←
      if isClosed (column + 1) inside then Except.ok (Data.null, inside)
      else block fuel (column + 1) inside
    if next.rest.isEmpty ∨ next.column < column then .ok ([item], next)
    else if next.column = column then
      if atDash next then do
        let (items, final) ← blockItems fuel column next
        .ok (item :: items, final)
      else .ok ([item], next)
    else .error next.unexpected

/-- The entries of a mapping whose keys stand in a column, added to those before. -/
def blockEntries : Nat → Nat → Cursor → List (Scalar × Data) →
    Except Flaw (List (Scalar × Data) × Cursor)
  | 0, _, cur, _ => .error cur.unexpected
  | fuel + 1, column, cur, before =>
    match keyAt? cur with
    | none => .error cur.unexpected
    | some (key, behind) => do
      let (value, next) ← blockValue fuel column behind
      let entries := Pairs.store key value before
      if next.rest.isEmpty ∨ next.column < column then .ok (entries, next)
      else if next.column = column then blockEntries fuel column next entries
      else .error next.unexpected

/-- The value behind the colon of a key in a column. -/
def blockValue : Nat → Nat → Cursor → Except Flaw (Data × Cursor)
  | 0, _, cur => .error cur.unexpected
  | fuel + 1, column, cur =>
    let next := cur.skip
    if next.rest.isEmpty then .ok (.null, next)
    else if next.line = cur.line then do
      let (value, behind) ← inlineValue (column + 1) next
      .ok (value, behind.skip)
    else if next.column = column && atDash next then do
      let (items, behind) ← blockItems fuel column next
      .ok (.list items, behind)
    else if next.column ≤ column then .ok (.null, next)
    else block fuel (column + 1) next

end

/-! ## Whole documents -/

/-- The text after a mark of the byte order. -/
def unmarked : List Char → List Char
  | '\ufeff' :: rest => rest
  | cs => cs

/-- A document text with every line break made a line feed. -/
def withLineFeeds : List Char → List Char
  | [] => []
  | '\r' :: '\n' :: rest => '\n' :: withLineFeeds rest
  | '\r' :: rest => '\n' :: withLineFeeds rest
  | c :: rest => c :: withLineFeeds rest

/-- The cursor after a line of dashes that may open a document. -/
def opened (cur : Cursor) : Cursor :=
  match cur.rest with
  | '-' :: '-' :: '-' :: rest => if cur.column = 0 && atGap rest then (cur.advance 3).skip else cur
  | _ => cur

/-- The document in a text; an empty text holds null. -/
def read (s : String) : Except Flaw Data :=
  let cs := withLineFeeds s.toList
  if !cs.all isAllowed then .error .unprintable
  else
    let first := opened (Cursor.start (unmarked cs)).skip
    if first.rest.isEmpty then .ok .null
    else do
      let (d, behind) ← block (2 * cs.length + 2) 0 first
      if behind.rest.isEmpty then .ok d else .error behind.unexpected

end TemplateLookup.Yaml
