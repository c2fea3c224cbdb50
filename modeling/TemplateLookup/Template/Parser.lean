/-
# TemplateLookup.Template.Parser -- reading the tokens of a template

The tags are `if` with `elif` and `else`, `for` with `else`, and `include` of a
quoted name; a tag that opens a part is closed by `endif` or `endfor`. Every
reading step takes a token, so the number of tokens bounds the depth.
-/

import TemplateLookup.Template.Body
import TemplateLookup.Template.Lexer

namespace TemplateLookup.Template

namespace Parser

/-! ## Single tokens -/

/-- How the first token is called when another one is expected. -/
def gotten? : List Token → Option String
  | [] => none
  | t :: _ => some t.description

/-- The flaw of tokens where something else is expected. -/
def wanting (what : String) : List Token → Flaw
  | .flaw f :: _ => f
  | ts => .expected what (gotten? ts)

/-- The tokens after the end of a tag. -/
def afterTag : List Token → Except Flaw (List Token)
  | .endTag :: rest => .ok rest
  | ts => .error (wanting "end of statement block" ts)

/-- The tokens after the end of a print. -/
def afterPrint : List Token → Except Flaw (List Token)
  | .endPrint :: rest => .ok rest
  | ts => .error (wanting "end of print statement" ts)

/-- The tokens after a given name. -/
def afterName (name : String) : List Token → Except Flaw (List Token)
  | .name s :: rest => if s = name then .ok rest else .error (.expected name (some s))
  | ts => .error (wanting name ts)

/-! ## Expressions -/

/-- The value of a name that is a literal. -/
def literal? (name : String) : Option Data :=
  if name = "true" ∨ name = "True" then some (.bool true)
  else if name = "false" ∨ name = "False" then some (.bool false)
  else if name = "none" ∨ name = "None" then some .null
  else none

/-- The quoted texts at the head of tokens, joined, and the tokens behind them. -/
def texts : List Token → Wide × List Token
  | .text t :: rest =>
    let (more, after) := texts rest
    (t ++ more, after)
  | ts => ([], ts)

/-- An expression without signs. -/
def operand : List Token → Except Flaw (Expr × List Token)
  | .name s :: rest =>
    .ok (match literal? s with | some d => .literal (.defined d) | none => .variable s, rest)
  | .text t :: rest =>
    let (more, after) := texts rest
    .ok (.literal (.ofWide (t ++ more)), after)
  | .int n :: rest => .ok (.literal (.defined (.int n)), rest)
  | .real x :: rest => .ok (.literal (.defined (.real x)), rest)
  | .flaw f :: _ => .error f
  | ts => .error (.unexpected ((gotten? ts).getD "end of template"))

/-- The divisors behind an expression. -/
def quotients : Nat → Expr → List Token → Except Flaw (Expr × List Token)
  | fuel + 1, e, .sign "/" :: rest => do
    let (divisor, after) ← operand rest
    quotients fuel (.quotient e divisor) after
  | _, e, ts => .ok (e, ts)

/-- An expression. -/
def expression (ts : List Token) : Except Flaw (Expr × List Token) := do
  let (e, rest) ← operand ts
  quotients rest.length e rest

/-- An expression in a place that may not be empty. -/
def fullExpression (ts : List Token) : Except Flaw (Expr × List Token) :=
  match ts with
  | .endPrint :: _ => .error (.noExpression Token.endPrint.description)
  | .endTag :: _ => .error (.noExpression Token.endTag.description)
  | _ => expression ts

/-! ## Parts -/

/-- The tags that are looked for, innermost first, and the open tags. -/
structure Nesting where
  wanted : List (List String)
  tags : List String

/-- Whether the tag at the head of tokens is one of those looked for. -/
def isWanted (names : List String) : List Token → Bool
  | .name s :: _ => names.contains s
  | _ => false

/-- The variable of a loop. -/
def loopVariable : List Token → Except Flaw (String × List Token)
  | .name s :: rest =>
    if (literal? s).isSome then .error (.notAssignable s) else .ok (s, rest)
  | ts => .error (wanting "name" ts)

/-- The name that a quoted text stands for; one that holds halves is the name of
nothing. -/
def embeddedName (t : Wide) : String := t.toString?.getD ""

mutual

/-- The parts up to the end of the text, or up to a tag with one of the wanted
names, which stays at the head of the tokens. -/
def parts : Nat → Nesting → List String → List Token → Except Flaw (Body × List Token)
  | 0, _, _, _ => .ok (.done, [])
  | fuel + 1, nesting, names, ts =>
    match ts with
    | [] => .ok (.done, [])
    | .flaw f :: _ => .error f
    | .literal cs :: rest => do
      let (body, after) ← parts fuel nesting names rest
      .ok (.text (String.ofList cs) body, after)
    | .beginPrint :: rest => do
      let (e, behind) ← fullExpression rest
      let next ← afterPrint behind
      let (body, after) ← parts fuel nesting names next
      .ok (.print e body, after)
    | .beginTag :: rest =>
      if isWanted names rest then .ok (.done, rest)
      else do
        let (build, behind) ← statement fuel nesting rest
        let next ← afterTag behind
        let (body, after) ← parts fuel nesting names next
        .ok (build body, after)
    | t :: _ => .error (.unexpected t.description)

/-- A tag and the parts it opens, up to the end of its last tag; what follows is
put behind it. -/
def statement : Nat → Nesting → List Token → Except Flaw ((Body → Body) × List Token)
  | 0, _, ts => .error (wanting "name" ts)
  | fuel + 1, nesting, ts =>
    match ts with
    | .name "if" :: rest => do
      let inside : Nesting := { nesting with tags := "if" :: nesting.tags }
      let (condition, yes, no, behind) ← branches fuel inside rest
      .ok (.branch condition yes no, behind)
    | .name "for" :: rest =>
      loopParts fuel { nesting with tags := "for" :: nesting.tags } rest
    | .name "include" :: .text t :: rest => do
      let (more, behind) := texts rest
      .ok (.embed (embeddedName (t ++ more)), behind)
    | .name "include" :: rest => .error (wanting "string" rest)
    | .name s :: _ => .error (.unknownTag s nesting.wanted nesting.tags)
    | .flaw f :: _ => .error f
    | _ => .error .noTagName

/-- The parts between two tags, and the tokens from the name of the second on. -/
def between : Nat → Nesting → List String → List Token → Except Flaw (Body × List Token)
  | 0, _, _, ts => .error (wanting "end of statement block" ts)
  | fuel + 1, nesting, names, ts => do
    let start := match ts with
      | .sign ":" :: rest => rest
      | _ => ts
    let inside ← afterTag start
    let (body, behind) ← parts fuel { nesting with wanted := names :: nesting.wanted } names inside
    match behind with
    | [] => .error (.unfinished (names :: nesting.wanted) nesting.tags)
    | _ => .ok (body, behind)

/-- The condition and the two bodies of an `if` or `elif`. -/
def branches : Nat → Nesting → List Token → Except Flaw (Expr × Body × Body × List Token)
  | 0, _, ts => .error (wanting "name" ts)
  | fuel + 1, nesting, ts => do
    let (condition, rest) ← fullExpression ts
    let (yes, behind) ← between fuel nesting ["elif", "else", "endif"] rest
    match behind with
    | .name "elif" :: more => do
      let (other, first, second, final) ← branches fuel nesting more
      .ok (condition, yes, .branch other first second .done, final)
    | .name "else" :: more => do
      let (no, final) ← between fuel nesting ["endif"] more
      .ok (condition, yes, no, final.drop 1)
    | _ => .ok (condition, yes, .done, behind.drop 1)

/-- A loop behind its first name. -/
def loopParts : Nat → Nesting → List Token → Except Flaw ((Body → Body) × List Token)
  | 0, _, ts => .error (wanting "name" ts)
  | fuel + 1, nesting, ts => do
    let (name, rest) ← loopVariable ts
    let behindIn ← afterName "in" rest
    let (items, more) ← fullExpression behindIn
    let (each, behind) ← between fuel nesting ["endfor", "else"] more
    match behind with
    | .name "else" :: further => do
      let (otherwise, final) ← between fuel nesting ["endfor"] further
      .ok (.loop name items each otherwise, final.drop 1)
    | _ => .ok (.loop name items each .done, behind.drop 1)

end

end Parser

/-- The body of a template text. -/
def Body.parse (spacing : Spacing) (source : String) : Except Flaw Body :=
  let ts := tokens spacing source
  (Parser.parts (4 * ts.length + 4) ⟨[], []⟩ [] ts).map (·.1)

end TemplateLookup.Template
