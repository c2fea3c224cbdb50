/-
# TemplateLookup.Proofs.Command.Repair -- when a configuration can be replaced

Every command loads the configuration first, also the one that writes a new one. So where the
hidden place holds a file, `init --force` replaces it only if it is accepted
(`Session.init_replaces_iff`): then the text to start with is in its place, and the next command
loads that. A file that is not accepted, for which a replacement would be wanted most, is kept, and
the command fails (`Session.unset_kept`). All this is for any reader of documents that reads the
text to start with as it is meant.
-/

import Mathlib.Data.List.Infix
import TemplateLookup.Proofs.Command.Asking
import TemplateLookup.Proofs.Session.Tree
import TemplateLookup.Proofs.Settings.Discovery
import TemplateLookup.Proofs.Settings.Initial
import TemplateLookup.Proofs.World.Placing
import TemplateLookup.Standard

namespace TemplateLookup

open Settings (hiddenPlace)

namespace Command

theorem hiddenConfig_eq : hiddenConfig = hiddenPlace := by decide

/-- The configuration to start with is written into the hidden place. -/
def replacing (w : World) : World.Edited :=
  w.writeFile hiddenConfig (Codec.encode Settings.initialText) w.now

theorem exitCode_writeInitial (w : World) :
    (exitCode (writeInitial w) = 0 ↔ (replacing w).refusal = none) ∧
      (exitCode (writeInitial w) ≠ 0 → exitCode (writeInitial w) = 1) ∧
      (writeInitial w).world = (replacing w).world := by
  cases hrefusal : (replacing w).refusal with
  | some e =>
    have hperformed : writeInitial w = .escape (replacing w).world (.system e) [] := by
      rw [replacing] at hrefusal ⊢
      simp only [writeInitial, hrefusal]
    rw [hperformed]
    exact ⟨iff_of_false Nat.one_ne_zero (Option.some_ne_none e), fun _ => rfl, rfl⟩
  | none =>
    have hperformed : writeInitial w = .finish (replacing w).world 0
        ("Created " ++ hiddenConfig.toString ++ "\n") [] := by
      rw [replacing] at hrefusal ⊢
      simp only [writeInitial, hrefusal]
    rw [hperformed]
    exact ⟨iff_of_true rfl rfl, fun h => absurd rfl h, rfl⟩

variable {w : World} {content : Bytes} {time : FileTime}

/-- `init --force` writes over a file in the hidden place. -/
theorem init_of_look (h : w.IsTree) {loc : Location}
    (hlook : w.look hiddenPlace = .ok (loc, .file content time)) : init w true = writeInitial w := by
  have hensured : w.ensureDirectory hiddenPath = ⟨w, none⟩ :=
    h.ensureDirectory_of_child Settings.isLeading_hiddenDirectory (by decide +kernel) hlook
  have hexists : w.exists? hiddenConfig = .ok true := by
    rw [hiddenConfig_eq, World.exists?, hlook]
  unfold init
  dsimp only
  rw [hensured]
  dsimp only
  rw [hexists]
  simp only [Bool.not_true, Bool.and_false, Bool.false_eq_true, if_false]

/-- A configuration that is refused ends the command, and nothing is changed. -/
theorem settingsFailed_spec (w : World) (e : ConfigError) :
    exitCode (settingsFailed w e) = 1 ∧ (settingsFailed w e).world = w := by
  unfold settingsFailed
  split <;> exact ⟨rfl, rfl⟩

section

variable [Encodings] [Yaml.Reader]

/-- The file in the hidden place can be read by its absolute path, and is accepted. -/
def IsAccepted (w : World) (env : Environment) : Prop :=
  ∃ bytes, w.readAt (w.absolute hiddenConfig) = .ok bytes ∧
    ∃ settings, Settings.ofBytes env bytes = .ok settings

/-- After the file was replaced, the text to start with is in its place, and it is loaded. -/
theorem load_replaced (hread : Yaml.Reader.read Settings.initialText = .ok Settings.initialDocument)
    (h : w.IsTree) (hfile : w.fileAt? hiddenConfig = some (content, time)) {env : Environment}
    (haccepted : IsAccepted w env) (hdone : (replacing w).refusal = none) :
    (replacing w).world.fileAt? hiddenConfig = some (Codec.encode Settings.initialText, w.now) ∧
      ∀ env', Settings.load (replacing w).world env' none true =
        .ok ⟨.text "file", ⟨["templates"]⟩, "utf-8", some (w.absolute hiddenConfig)⟩ := by
  obtain ⟨bytes, hbytes, -⟩ := haccepted
  rw [replacing] at hdone ⊢
  rw [hiddenConfig_eq] at hfile hbytes hdone ⊢
  obtain ⟨loc, hlook⟩ := World.fileAt?_eq_some_iff.mp hfile
  have hstored := World.entry?_of_look hlook
  have hrewritten :=
    World.rewritten_put hstored (Codec.encode Settings.initialText) w.now
  have habsolute := (Settings.content_of_readAt_hidden h hfile hbytes).2.trans hlook
  rw [World.writeFile_replaces hlook hdone]
  have hreplaced : World.fileAt? (w.put loc (.file (Codec.encode Settings.initialText) w.now))
      hiddenPlace = some (Codec.encode Settings.initialText, w.now) := by
    rw [World.fileAt?_rewritten hrewritten hlook, if_pos rfl]
  refine ⟨hreplaced, fun env' => ?_⟩
  -- the file is read by the same absolute path as before
  have hcontent : World.readAt (w.put loc (.file (Codec.encode Settings.initialText) w.now))
      (w.absolute hiddenPlace) = .ok (Codec.encode Settings.initialText) := by
    rw [World.readAt_rewritten hrewritten habsolute hbytes, if_pos rfl]
  have hsame : World.absolute (w.put loc (.file (Codec.encode Settings.initialText) w.now))
      hiddenPlace = w.absolute hiddenPlace := rfl
  rw [Settings.load_hidden (h.put_file hstored) hreplaced, Settings.ofFile, hsame, hcontent]
  dsimp only
  rw [Settings.ofBytes_initialText hread]
  rfl

/-- What `init --force` does to a file in the hidden place. -/
theorem run_init [Template.Engine] [ArgumentReader] (h : w.IsTree)
    (hfile : w.fileAt? hiddenConfig = some (content, time)) {line paths : List String}
    (hasks : Asks line none paths (.init true)) (env : Environment) :
    let performed := (run w env line).2
    (¬ IsAccepted w env → exitCode performed = 1 ∧ performed.world = w) ∧
      (IsAccepted w env → exitCode performed = exitCode (writeInitial w) ∧
        performed.world = (writeInitial w).world) := by
  intro performed
  have haccepted : (∃ loaded, Settings.load w env none true = .ok loaded) ↔ IsAccepted w env := by
    rw [IsAccepted, hiddenConfig_eq]
    exact Settings.load_hidden_accepted_iff h (hiddenConfig_eq ▸ hfile) env
  obtain ⟨loc, hlook⟩ := World.fileAt?_eq_some_iff.mp hfile
  have hrun : performed = _ := run_of_asks (w := w) ⟨rfl, rfl⟩ hasks
  rw [Option.map_none] at hrun
  rw [← haccepted]
  cases hload : Settings.load w env none true with
  | error e =>
    rw [hload] at hrun
    rw [hrun]
    exact ⟨fun _ => settingsFailed_spec w e, nofun⟩
  | ok loaded =>
    rw [hload] at hrun
    refine ⟨fun hnone => absurd ⟨loaded, rfl⟩ hnone, fun _ => ?_⟩
    have hperformed : performed =
        (init w true).after (settingsNotices (withPaths loaded paths)) := hrun
    rw [hperformed, init_of_look h (hiddenConfig_eq ▸ hlook)]
    exact ⟨rfl, rfl⟩

end

end Command

namespace Session

open Command

/-- **When a configuration is replaced.** After any steps of a session that started in a tree, the
hidden place holds a file. Then `init --force` exits with 0 exactly when this file can be read by
its absolute path and is an accepted configuration, and can be written. In this case the text to
start with is in its place, and the next command loads it, whatever its variables are. Otherwise
the code is 1; and where the file is not accepted, nothing is changed. -/
theorem init_replaces_iff [Template.Engine] [Encodings] [Yaml.Reader] [ArgumentReader]
    (hread : Yaml.Reader.read Settings.initialText = .ok Settings.initialDocument)
    {s : Session} (htree : s.world.IsTree) {steps : List Step}
    (hsteps : ∀ a ∈ steps, a.LinksText) {content : Bytes} {time : FileTime}
    (hfile : (s.after steps).world.fileAt? hiddenConfig = some (content, time))
    {line paths : List String} (hasks : Asks line none paths (.init true)) :
    let now := s.after steps
    let next := (now.step (.commandLine line)).session
    ∃ wishes performed, (now.step (.commandLine line)).answer = .performed wishes performed ∧
      (exitCode performed = 0 ↔
        IsAccepted now.world now.env ∧ (replacing now.world).refusal = none) ∧
      (exitCode performed = 0 →
        next.world.fileAt? hiddenConfig =
            some (Codec.encode Settings.initialText, now.world.now) ∧
          ∀ env', Settings.load next.world env' none true =
            .ok ⟨.text "file", ⟨["templates"]⟩, "utf-8", some (now.world.absolute hiddenConfig)⟩) ∧
      (exitCode performed ≠ 0 → exitCode performed = 1) ∧
      (¬ IsAccepted now.world now.env → next.world = now.world) := by
  intro now next
  have hworld : now.world.IsTree := isTree_after htree hsteps
  obtain ⟨hrefused, haccepted⟩ := run_init hworld hfile hasks now.env
  obtain ⟨hzero, hone, hleft⟩ := exitCode_writeInitial now.world
  refine ⟨(Command.run now.world now.env line).1, (Command.run now.world now.env line).2, rfl,
    ?_, ?_, ?_, ?_⟩
  · by_cases h : IsAccepted now.world now.env
    · rw [(haccepted h).1, hzero]
      exact (and_iff_right h).symm
    · rw [(hrefused h).1]
      exact iff_of_false Nat.one_ne_zero fun hboth => h hboth.1
  · intro hcode
    by_cases h : IsAccepted now.world now.env
    · have hnext : next.world = (replacing now.world).world := (haccepted h).2.trans hleft
      rw [(haccepted h).1] at hcode
      rw [hnext]
      exact load_replaced hread hworld hfile h (hzero.mp hcode)
    · rw [(hrefused h).1] at hcode
      exact absurd hcode Nat.one_ne_zero
  · intro hcode
    by_cases h : IsAccepted now.world now.env
    · rw [(haccepted h).1] at hcode ⊢
      exact hone hcode
    · exact (hrefused h).1
  · exact fun h => (hrefused h).2

/-- A configuration that refers to a variable. -/
def referring : Bytes := Codec.encode "path: [\"$\x7bNOPE\x7d\"]\n"

/-- The configuration is written below an empty working directory. -/
def stuck : List Step := [.write ".temploc/config.yaml" referring ⟨5, 0⟩]

/-- Where the variable is not set, the command fails, and the configuration stays. -/
theorem unset_kept :
    let now := (start (.empty ["w"]) []).after stuck
    let stepped := now.step (.commandLine ["init", "--force"])
    (∃ wishes performed, stepped.answer = .performed wishes performed ∧
        exitCode performed = 1) ∧
      stepped.session.world = now.world ∧
      now.world.fileAt? hiddenConfig = some (referring, ⟨5, 0⟩) := by
  intro now stepped
  have htree : (start (.empty ["w"]) []).world.IsTree := World.isTree_empty (by decide)
  have hsteps : ∀ a ∈ stuck, a.LinksText := by
    intro a ha
    cases List.mem_singleton.mp ha
    trivial
  have hfile : now.world.fileAt? hiddenConfig = some (referring, ⟨5, 0⟩) := by decide +kernel
  have hrefused : (Settings.ofBytes now.env referring).toBool = false := by decide +kernel
  have hcontent : now.world.readAt (now.world.absolute hiddenConfig) = .ok referring := by
    decide +kernel
  have hread : Yaml.Reader.read Settings.initialText = .ok Settings.initialDocument :=
    Settings.read_initialText
  obtain ⟨wishes, performed, hanswer, hzero, -, hone, hkept⟩ :=
    init_replaces_iff hread htree hsteps hfile (asks_init none [])
  have hunaccepted : ¬ IsAccepted now.world now.env := by
    rintro ⟨bytes, hbytes, settings, hsettings⟩
    cases hcontent.symm.trans hbytes
    rw [hsettings] at hrefused
    cases hrefused
  exact ⟨⟨wishes, performed, hanswer, hone fun hcode => hunaccepted (hzero.mp hcode).1⟩,
    hkept hunaccepted, hfile⟩

end Session

end TemplateLookup
