/-
# TemplateLookup.Proofs.Command.Asking -- what a command line asks for

A command line asks for a request, with a configuration and roots, when the reader of arguments
says so (`Asks`). What it does is then decided by the configuration: a refused one ends it, and an
accepted one makes it perform the request with the settings (`run_of_asks`). The reader that
follows the usual rules has a line for every request that can be written: an option of its own for
every value, and two dashes in front of the name, so that no name and no value is taken for
something else (`asks_resolve`, `asks_check`, `asks_render`, `asks_init`).
-/

import TemplateLookup.Command.Line
import TemplateLookup.Proofs.Text.Pieces
import TemplateLookup.Standard

namespace TemplateLookup.Command

/-! ## Reports in front -/

namespace Performance

variable (events : List Log.Event) (p : Performance)

@[simp] theorem output_after : (p.after events).output = p.output := rfl

end Performance

@[simp] theorem exitCode_after (events : List Log.Event) (p : Performance) :
    exitCode (p.after events) = exitCode p := rfl

/-! ## Requests -/

section

variable [ArgumentReader]

/-- A command line asks for something, with this configuration and these roots. -/
def Asks (line : List String) (config : Option String) (paths : List String)
    (request : Request) : Prop :=
  ∃ wishes command name args,
    ArgumentReader.globals? line = some (⟨config, paths, wishes, false⟩, command :: args) ∧
      Name.ofString? command = some name ∧ ArgumentReader.request? name args = some request

/-- The configuration that is given, if one is, can be a file. -/
def IsUsable (w : World) (config : Option String) : Prop :=
  config.any isCut = false ∧ (config.any fun given => !isConfigFile w given) = false

/-- What a line does that asks for something. -/
theorem run_of_asks [Template.Engine] [Encodings] [Yaml.Reader] {w : World} {env : Environment}
    {line : List String} {config : Option String} {paths : List String} {request : Request}
    (hconfig : IsUsable w config) (h : Asks line config paths request) :
    (run w env line).2 =
      match Settings.load w env (config.map Path.ofString) true with
      | .error e => settingsFailed w e
      | .ok loaded =>
        (request.perform w (withPaths loaded paths)).after
          (settingsNotices (withPaths loaded paths)) := by
  obtain ⟨wishes, command, name, args, hglobals, hname, hrequest⟩ := h
  obtain ⟨hwhole, hfile⟩ := hconfig
  have hcommand : (run w env line).2 =
      runCommand w env ⟨config, paths, wishes, false⟩ name args := by
    unfold run
    simp only [hglobals, hwhole, hfile, hname, Bool.false_eq_true, if_false]
  rw [hcommand]
  unfold runCommand
  cases Settings.load w env (config.map Path.ofString) true with
  | error e => rfl
  | ok loaded =>
    dsimp only
    rw [hrequest]

end

/-! ## Reading options -/

section

variable {κ : Type} {rules : List (OptionRule κ)} {rule : OptionRule κ} {mixed : Bool}

/-- Two dashes end the options. -/
theorem readFrom_dashes (fuel : Nat) (rest : List String) :
    Arguments.readFrom rules mixed (fuel + 1) ("--" :: rest) = some ⟨[], rest⟩ := rfl

variable (hrule : Arguments.longRule? rules rule.long = some rule)
  (hvalued : rule.takesValue = true) (hplain : '=' ∉ rule.long.toList) (hlong : rule.long ≠ "")

variable (rules rule mixed)

include hrule hvalued hplain hlong

/-- An option with the next argument as its value. -/
theorem readFrom_option (fuel : Nat) (value : String) (rest : List String) :
    Arguments.readFrom rules mixed (fuel + 1) (("--" ++ rule.long) :: value :: rest) =
      (Arguments.readFrom rules mixed fuel rest).map fun a =>
        { a with options := (rule.key, some value) :: a.options } := by
  have hcut : Text.cutAt '=' rule.long.toList = none := by
    rw [Option.eq_none_iff_forall_ne_some]
    rintro ⟨before, after⟩ hcut
    obtain ⟨-, hchars⟩ := Text.cutAt_eq_some_iff.mp hcut
    rw [hchars] at hplain
    exact hplain (List.mem_append_right before List.mem_cons_self)
  have hoptions : Arguments.optionsOf rules ('-' :: rule.long.toList) (value :: rest) =
      some ([(rule.key, some value)], rest) := by
    simp only [Arguments.optionsOf, hcut, Arguments.long, String.ofList_toList, hrule, hvalued,
      Option.map_some]
  have hchars : ("--" ++ rule.long).toList = '-' :: '-' :: rule.long.toList := by
    rw [String.toList_append]
    rfl
  -- an option is not the pair of dashes that ends them
  obtain ⟨c, cs, hcs⟩ : ∃ c cs, rule.long.toList = c :: cs :=
    List.exists_cons_of_ne_nil fun hnil => hlong (String.toList_eq_nil_iff.mp hnil)
  rw [hcs] at hoptions hchars
  simp only [Arguments.readFrom, hchars, hoptions]
  rfl

/-- An option with a value, written once for each of its values. -/
theorem readFrom_options (fuel : Nat) (values rest : List String) :
    Arguments.readFrom rules mixed (fuel + values.length)
        ((values.flatMap fun value => ["--" ++ rule.long, value]) ++ rest) =
      (Arguments.readFrom rules mixed fuel rest).map fun a =>
        { a with options := (values.map fun value => (rule.key, some value)) ++ a.options } := by
  induction values with
  | nil =>
    show Arguments.readFrom rules mixed fuel rest = _
    cases Arguments.readFrom rules mixed fuel rest <;> rfl
  | cons value more ih =>
    simp only [List.flatMap_cons, List.cons_append, List.nil_append, List.length_cons,
      ← Nat.add_assoc]
    rw [readFrom_option rules rule mixed hrule hvalued hplain hlong, ih, Option.map_map]
    rfl

end

namespace Arguments

variable {κ : Type} [DecidableEq κ] (key other : κ) (given : List String)
  (options : List (κ × Option String)) (positional : List String)

/-- An option was given these values. -/
theorem values_append :
    (⟨(given.map fun value => (key, some value)) ++ options, positional⟩ : Arguments κ).values other =
      (if key = other then given else []) ++ (⟨options, positional⟩ : Arguments κ).values other := by
  unfold values
  rw [List.filterMap_append]
  congr 1
  induction given with
  | nil => simp
  | cons value more ih =>
    rw [List.map_cons, List.filterMap_cons, ih]
    by_cases hkey : key = other
    · simp [hkey]
    · simp [hkey]

theorem has_append (hne : key ≠ other) :
    (⟨(given.map fun value => (key, some value)) ++ options, positional⟩ : Arguments κ).has other =
      (⟨options, positional⟩ : Arguments κ).has other := by
  simp [has, hne]

end Arguments

/-! ## Lines -/

/-- An option, written once for each of its values. -/
def written (name : String) (values : List String) : List String :=
  values.flatMap fun value => ["--" ++ name, value]

/-- The configuration and the roots, written out. -/
def globalLine (config : Option String) (paths : List String) : List String :=
  written "config" config.toList ++ written "path" paths

theorem readFrom_command {command : String} {name : Name}
    (h : Name.ofString? command = some name) (fuel : Nat) (args : List String) :
    Arguments.readFrom globalRules false (fuel + 1) (command :: args) =
      some ⟨[], command :: args⟩ := by
  unfold Name.ofString? at h
  split at h
  all_goals first | rfl | cases h

theorem length_written (name : String) (values : List String) :
    (written name values).length = values.length + values.length := by
  induction values with
  | nil => rfl
  | cons value more ih =>
    show (written name more).length + 2 = _
    rw [ih, List.length_cons]
    omega

/-- What is written out is read back. -/
theorem globals?_globalLine {command : String} {name : Name}
    (h : Name.ofString? command = some name) (config : Option String)
    (paths args : List String) :
    globals? (globalLine config paths ++ command :: args) =
      some (⟨config, paths, ⟨false, false, false⟩, false⟩, command :: args) := by
  have hlength : (globalLine config paths ++ command :: args).length =
      args.length + paths.length + config.toList.length + 1 + paths.length +
        config.toList.length := by
    simp only [globalLine, List.length_append, length_written, List.length_cons]
    omega
  have hconfig := readFrom_options globalRules ⟨.config, "config", some 'c', true⟩ false rfl rfl
    (by decide) (by decide)
  have hpath := readFrom_options globalRules ⟨.path, "path", some 'p', true⟩ false rfl rfl
    (by decide) (by decide)
  unfold globals? Arguments.read?
  rw [hlength, globalLine, List.append_assoc, written, written, hconfig, hpath,
    readFrom_command h]
  have hhas : ∀ key, key ≠ .config → key ≠ .path →
      (⟨(config.toList.map fun value => (.config, some value)) ++
        ((paths.map fun value => (.path, some value)) ++ []), command :: args⟩ :
          Arguments GlobalKey).has key = false := by
    intro key hconfig hpath
    rw [Arguments.has_append _ _ _ _ _ (Ne.symm hconfig),
      Arguments.has_append _ _ _ _ _ (Ne.symm hpath)]
    rfl
  simp only [Option.map_some, Arguments.value?, Arguments.values_append, if_true, reduceCtorEq,
    if_false, List.nil_append, hhas, ne_eq, not_false_eq_true]
  cases config <;> simp [Arguments.values]

section

variable (config : Option String) (paths : List String) (template : String)

theorem asks_of_args {command : String} {name : Name} {args : List String} {request : Request}
    (hname : Name.ofString? command = some name)
    (hrequest : Request.ofArgs? name args = some request) :
    Asks (globalLine config paths ++ command :: args) config paths request :=
  ⟨_, command, name, args, globals?_globalLine hname config paths args, hname, hrequest⟩

theorem asks_resolve :
    Asks (globalLine config paths ++ ["resolve", "--", template]) config paths
      (.resolve template false false) :=
  asks_of_args config paths rfl rfl

theorem asks_check {given : String} {since : Number.Binary64}
    (h : Number.read? given = some since) :
    Asks (globalLine config paths ++ ["check", "--since", given, "--", template]) config paths
      (.check template since false) := by
  apply asks_of_args config paths rfl
  show ((some given).bind Number.read?).map _ = _
  rw [Option.bind_some, h]
  rfl

theorem asks_render (vars : List String) :
    Asks (globalLine config paths ++ "render" :: (written "var" vars ++ ["--", template]))
      config paths (.render template vars none) := by
  apply asks_of_args config paths rfl
  have hvars := readFrom_options Name.render.rules ⟨.var, "var", none, true⟩ true rfl rfl
    (by decide) (by decide)
  have hlength : (written "var" vars ++ ["--", template]).length =
      vars.length + 1 + 1 + vars.length := by
    rw [List.length_append, length_written]
    simp only [List.length_cons, List.length_nil]
    omega
  unfold Request.ofArgs? Arguments.read?
  rw [hlength, written, hvars, readFrom_dashes]
  simp only [Option.map_some, Option.bind_some, Request.ofArguments?, Arguments.value?,
    Arguments.values_append, if_true, reduceCtorEq, if_false, List.nil_append]
  simp [Arguments.values]

theorem asks_init :
    Asks (globalLine config paths ++ ["init", "--force"]) config paths (.init true) :=
  asks_of_args config paths rfl rfl

end

end TemplateLookup.Command
