/-
# TemplateLookup.Template.Flaw -- what is wrong with a template text

A flaw is why a text is no template. Mostly it breaks the syntax of templates;
it can also be a value that cannot be read. Those that break the syntax are found
while the text is cut into tokens or while the tokens are read, and the first one
ends the reading.
-/

import TemplateLookup.Text.Pieces
import TemplateLookup.Text.Quoted

namespace TemplateLookup.Template

/-- Why a text is not a template. -/
structure Flaw where
  message : String
  /-- The syntax is not at fault, but a value in it. -/
  ofValue : Bool
  deriving DecidableEq, Repr, Inhabited

namespace Flaw

/-- A flaw of the syntax. -/
def syntactic (message : String) : Flaw := ⟨message, false⟩

/-! ## Single texts -/

/-- No token starts with the character at a position. -/
def strayChar (c : Char) (position : Nat) : Flaw :=
  syntactic ("unexpected char " ++ Text.quoted (String.singleton c) ++ " at " ++ toString position)

/-- A bracket is closed that was not opened. -/
def unopened (c : Char) : Flaw := syntactic ("unexpected '" ++ String.singleton c ++ "'")

/-- A bracket is closed by the wrong character. -/
def mismatched (c wanted : Char) : Flaw :=
  syntactic
    ("unexpected '" ++ String.singleton c ++ "', expected '" ++ String.singleton wanted ++ "'")

def openComment : Flaw := syntactic "Missing end of comment tag"

/-- An escape in a quoted text is cut off or names no character. -/
def badEscape (reason : String) : Flaw := syntactic reason

def badName : Flaw := syntactic "Invalid character in identifier"

/-! ## Tokens -/

/-- Something else stands where a token is expected; nothing if the text ends. -/
def expected (what : String) : Option String → Flaw
  | none => syntactic ("unexpected end of template, expected " ++ Text.quoted what ++ ".")
  | some got =>
    syntactic ("expected token " ++ Text.quoted what ++ ", got " ++ Text.quoted got)

def noExpression (got : String) : Flaw :=
  syntactic ("Expected an expression, got " ++ Text.quoted got)

def unexpected (got : String) : Flaw := syntactic ("unexpected " ++ Text.quoted got)

def noTagName : Flaw := syntactic "tag name expected"

def notAssignable (name : String) : Flaw := syntactic ("can't assign to " ++ Text.quoted name)

/-! ## Tags -/

/-- Tags in quotes, with a word between them. -/
def alternatives (names : List String) : String :=
  Text.joinWith " or " (names.map Text.quoted)

/-- The sentence about the tags that are looked for. -/
def lookingFor (name : Option String) (wanted : List (List String)) : List String :=
  match wanted with
  | [] => []
  | inner :: _ =>
    match name with
    | some n =>
      if wanted.any (·.contains n) then
        ["You probably made a nesting mistake. Jinja is expecting this tag, but currently looking for "
          ++ alternatives inner ++ "."]
      else ["Jinja was looking for the following tags: " ++ alternatives inner ++ "."]
    | none => ["Jinja was looking for the following tags: " ++ alternatives inner ++ "."]

/-- The sentence about the innermost open tag. -/
def innermost (tags : List String) : List String :=
  match tags with
  | [] => []
  | tag :: _ =>
    ["The innermost block that needs to be closed is " ++ Text.quoted tag ++ "."]

/-- A tag is unknown here; the tags looked for, innermost first, and the open tags. -/
def unknownTag (name : String) (wanted : List (List String)) (tags : List String) : Flaw :=
  syntactic (Text.joinWith " " (("Encountered unknown tag " ++ Text.quoted name ++ ".") ::
    lookingFor (some name) wanted ++ innermost tags))

/-- The text ends inside a tag. -/
def unfinished (wanted : List (List String)) (tags : List String) : Flaw :=
  syntactic
    (Text.joinWith " " ("Unexpected end of template." :: lookingFor none wanted ++ innermost tags))

end Flaw

end TemplateLookup.Template
