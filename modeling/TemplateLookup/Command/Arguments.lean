/-
# TemplateLookup.Command.Arguments -- options and positional arguments

An argument that starts with a dash is an option, unless it is a dash alone. A
long option takes its value from behind an equals sign or from the next
argument, whatever that is; short options can be written together, and one that
takes a value takes the rest of its argument or else the next one. Two dashes
alone end the options. Options may stand between positional arguments, or else
end at the first of them.
-/

import TemplateLookup.Text.Pieces

namespace TemplateLookup.Command

/-- An option under its names. -/
structure OptionRule (κ : Type) where
  key : κ
  /-- The name behind two dashes. -/
  long : String
  /-- The letter behind one dash. -/
  short : Option Char
  takesValue : Bool

/-- The options that were given, with their values, and the other arguments. -/
structure Arguments (κ : Type) where
  options : List (κ × Option String)
  positional : List String

namespace Arguments

variable {κ : Type}

/-- One positional argument more in front. -/
def withPositional (s : String) (a : Arguments κ) : Arguments κ :=
  { a with positional := s :: a.positional }

/-- The option with a long name. -/
def longRule? (rules : List (OptionRule κ)) (name : String) : Option (OptionRule κ) :=
  rules.find? fun r => r.long = name

/-- The option with a letter. -/
def shortRule? (rules : List (OptionRule κ)) (c : Char) : Option (OptionRule κ) :=
  rules.find? fun r => r.short = some c

/-- The options that are written together behind one dash, and the arguments
left: an option with a value takes what is left of the letters, or the next
argument. -/
def letters (rules : List (OptionRule κ)) :
    List Char → List String → Option (List (κ × Option String) × List String)
  | [], rest => some ([], rest)
  | c :: more, rest =>
    match shortRule? rules c with
    | none => none
    | some rule =>
      if rule.takesValue then
        match more, rest with
        | _ :: _, _ => some ([(rule.key, some (String.ofList more))], rest)
        | [], value :: others => some ([(rule.key, some value)], others)
        | [], [] => none
      else
        (letters rules more rest).map fun (found, left) => ((rule.key, none) :: found, left)

/-- The long option of an argument, and the arguments left. -/
def long (rules : List (OptionRule κ)) (name : String) (attached : Option String)
    (rest : List String) : Option ((κ × Option String) × List String) :=
  match longRule? rules name with
  | none => none
  | some rule =>
    match rule.takesValue, attached, rest with
    | true, some value, _ => some ((rule.key, some value), rest)
    | true, none, value :: others => some ((rule.key, some value), others)
    | true, none, [] => none
    | false, none, _ => some ((rule.key, none), rest)
    | false, some _, _ => none

/-- The options of one argument, without its first dash, and the arguments left. -/
def optionsOf (rules : List (OptionRule κ)) (cs : List Char) (rest : List String) :
    Option (List (κ × Option String) × List String) :=
  match cs with
  | '-' :: body =>
    let (name, attached) := match Text.cutAt '=' body with
      | some (name, value) => (name, some (String.ofList value))
      | none => (body, none)
    (long rules (String.ofList name) attached rest).map fun (found, left) => ([found], left)
  | _ => letters rules cs rest

/-- Reads arguments; `fuel` bounds their number. -/
def readFrom (rules : List (OptionRule κ)) (mixed : Bool) :
    Nat → List String → Option (Arguments κ)
  | 0, rest => some ⟨[], rest⟩
  | _ + 1, [] => some ⟨[], []⟩
  | fuel + 1, arg :: rest =>
    match arg.toList with
    | ['-', '-'] => some ⟨[], rest⟩
    | '-' :: c :: cs =>
      match optionsOf rules (c :: cs) rest with
      | none => none
      | some (found, left) =>
        (readFrom rules mixed fuel left).map fun a => { a with options := found ++ a.options }
    | _ =>
      if mixed then (readFrom rules mixed fuel rest).map (withPositional arg)
      else some ⟨[], arg :: rest⟩

/-- Reads arguments; nothing if they do not follow the rules. -/
def read? (rules : List (OptionRule κ)) (mixed : Bool) (args : List String) :
    Option (Arguments κ) :=
  readFrom rules mixed args.length args

/-- Whether an option was given. -/
def has [DecidableEq κ] (a : Arguments κ) (key : κ) : Bool :=
  a.options.any fun (k, _) => k = key

/-- All values of an option, in order. -/
def values [DecidableEq κ] (a : Arguments κ) (key : κ) : List String :=
  a.options.filterMap fun (k, v) => if k = key then v else none

/-- The last value of an option. -/
def value? [DecidableEq κ] (a : Arguments κ) (key : κ) : Option String :=
  (a.values key).getLast?

end Arguments

end TemplateLookup.Command
