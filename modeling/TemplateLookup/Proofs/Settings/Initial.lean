/-
# TemplateLookup.Proofs.Settings.Initial -- the configuration to start with is accepted

The text that is written to start with holds three entries and no reference, and the reader of the
program finds these (`read_initialText`). So with any reader that does, a file with this text is an
accepted configuration whatever the variables are, of templates below a directory of the same name
(`ofBytes_initialText`).
-/

import TemplateLookup.Proofs.Codec.Utf8
import TemplateLookup.Proofs.Settings
import TemplateLookup.Settings.Discovery
import TemplateLookup.Settings.Initial
import TemplateLookup.Yaml.Reader

namespace TemplateLookup

/-- The document in the characters of a text. -/
def Yaml.readChars (chars : List Char) : Except Yaml.Flaw Data :=
  let cs := withLineFeeds chars
  if !cs.all isAllowed then .error .unprintable
  else
    let first := opened (Cursor.start (unmarked cs)).skip
    if first.rest.isEmpty then .ok .null
    else do
      let (d, behind) ← block (2 * cs.length + 2) 0 first
      if behind.rest.isEmpty then .ok d else .error behind.unexpected

theorem Yaml.read_eq (s : String) : Yaml.read s = Yaml.readChars s.toList := rfl

namespace Settings

/-- The document that the text to start with is. -/
def initialDocument : Data :=
  .record [("loader", .text "file"), ("path", .list [.text "templates"]),
    ("encoding", .text "utf-8")]

/-- Whether a reading is a document with these six texts in these places. -/
def isReading (texts : List String) : Except Yaml.Flaw Data → Bool
  | .ok (.mapping [(.text k₁, .text v₁), (.text k₂, .list [.text v₂]), (.text k₃, .text v₃)]) =>
    [k₁, v₁, k₂, v₂, k₃, v₃] = texts
  | _ => false

set_option maxRecDepth 4000 in
theorem isReading_initialText :
    isReading ["loader", "file", "path", "templates", "encoding", "utf-8"]
      (Yaml.readChars initialText.toList) = true := by
  -- the characters are written out first, piece by piece
  conv in initialText.toList =>
    unfold initialText
    repeat rw [String.toList_append]
    simp only [String.reduceToList, List.cons_append, List.nil_append]
  decide +kernel

theorem eq_of_isReading {reading : Except Yaml.Flaw Data}
    (h : isReading ["loader", "file", "path", "templates", "encoding", "utf-8"] reading = true) :
    reading = .ok initialDocument := by
  unfold isReading at h
  split at h
  · cases of_decide_eq_true h
    rfl
  · cases h

theorem read_initialText : Yaml.read initialText = .ok initialDocument := by
  rw [Yaml.read_eq]
  exact eq_of_isReading isReading_initialText

section

variable [Encodings]

theorem ofData_initialDocument (env : Environment) :
    ofData env (orEmpty initialDocument) = .ok ⟨.text "file", ⟨["templates"]⟩, "utf-8", none⟩ := by
  have hexpand : env.expand (orEmpty initialDocument) = .ok initialDocument := by rfl
  have hparts : ofParts (some (.text "file")) (some (.list [.text "templates"]))
      (some (.text "utf-8")) = .ok ⟨.text "file", ⟨["templates"]⟩, "utf-8", none⟩ :=
    ofParts_eq_ok_iff.mpr ⟨rfl, rfl, rfl, encodingOf_default, rfl⟩
  rw [ofData, hexpand]
  exact hparts

variable [Yaml.Reader]

/-- A file with the text to start with is accepted, if the reader finds its document. -/
theorem ofBytes_initialText (hread : Yaml.Reader.read initialText = .ok initialDocument)
    (env : Environment) :
    ofBytes env (Codec.encode initialText) =
      .ok ⟨.text "file", ⟨["templates"]⟩, "utf-8", none⟩ := by
  unfold ofBytes
  simp only [Codec.decodeStream_encode initialText, hread, ofData_initialDocument]

end

end Settings

end TemplateLookup
