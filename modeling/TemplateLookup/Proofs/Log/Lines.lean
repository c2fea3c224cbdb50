/-
# TemplateLookup.Proofs.Log.Lines -- records as lines of JSON

A record in JSON is printable ASCII, whatever its logger and its message hold, so it is one line
and cannot begin another one. Reading the line gives the document of the record back
(`read?_text`). So a log can be cut at its line breaks into as many lines as there are records,
and from each line the record is read that it was made of (`json_lines_lossless`). A channel
writes the records that it takes in this way, and nothing else (`written_eq_log`).
-/

import TemplateLookup.Log.Channel
import TemplateLookup.Proofs.Json.RoundTrip

namespace TemplateLookup.Log

/-! ## Single lines -/

/-- The names of a record in JSON, and the text of each. -/
def Record.fields (record : Record) (moment : Moment) : List (String × String) :=
  [("level", record.level.name), ("ts", moment.text), ("logger", record.logger),
    ("msg", record.message)]

namespace Format

theorem text_json (coloured : Bool) (record : Record) (moment : Moment) :
    text ⟨.json, coloured⟩ record moment =
      Json.line (.mapping (Json.textEntries (record.fields moment))) := rfl

theorem read?_text (coloured : Bool) (record : Record) (moment : Moment) :
    Json.read? (text ⟨.json, coloured⟩ record moment) = some (document record moment) := by
  rw [text_json]
  exact Json.read?_line_record (record.fields moment)

theorem text_printable {coloured : Bool} {record : Record} {moment : Moment} {c : Char}
    (h : c ∈ (text ⟨.json, coloured⟩ record moment).toList) :
    32 ≤ c.toNat ∧ c.toNat < 127 := by
  rw [text_json] at h
  exact Json.line_record_printable h

/-! ## Logs -/

/-- The log of records that are made one after the other, each at its own moment: each is written
on a line of its own. -/
def log (format : Format) (made : List (Record × Moment)) : String :=
  String.join (made.map fun e => format.text e.1 e.2 ++ "\n")

end Format

namespace Channel

/-- What a channel writes of records that are made one after the other. -/
def written (channel : Channel) (made : List (Record × Moment)) : String :=
  String.join (made.map fun e => channel.write e.2 e.1)

/-- A channel writes the records that it takes, and nothing else. -/
theorem written_eq_log (channel : Channel) (made : List (Record × Moment)) :
    channel.written made = channel.format.log (made.filter fun e => channel.takes e.1) := by
  induction made with
  | nil => rfl
  | cons e made ih =>
    rw [written] at ih ⊢
    rw [List.map_cons, String.join_cons, ih, write, List.filter_cons]
    by_cases h : channel.takes e.1 = true
    · rw [if_pos h, if_pos h, Format.log, Format.log, List.map_cons, String.join_cons]
    · rw [if_neg h, if_neg h, String.empty_append]

end Channel

/-- **Framed and lossless.** A log in JSON, of any records made at any moments, is cut at its line
breaks into one line for each record, with nothing left behind the last line. Every line is
printable ASCII, and reading it gives a mapping with four names, of which three tell the level,
the logger and the message of the record that the line was made of. What a channel in the mode
JSON writes is the log of those records that it takes. -/
theorem json_lines_lossless (coloured : Bool) (made : List (Record × Moment)) :
    (∃ lines : List String,
      Text.split '\n' (Format.log ⟨.json, coloured⟩ made) = lines ++ [""] ∧
        lines.length = made.length ∧
        (∀ line ∈ lines, ∀ c ∈ line.toList, 32 ≤ c.toNat ∧ c.toNat < 127) ∧
        lines.map Json.read? = made.map fun e =>
          some (.record [("level", .text e.1.level.name), ("ts", .text e.2.text),
            ("logger", .text e.1.logger), ("msg", .text e.1.message)])) ∧
      ∀ level : Level,
        let channel := Channel.setUp .json level coloured
        channel.written made =
          Format.log ⟨.json, coloured⟩ (made.filter fun e => channel.takes e.1) := by
  refine ⟨⟨made.map fun e => Format.text ⟨.json, coloured⟩ e.1 e.2, ?_, ?_, ?_, ?_⟩, ?_⟩
  · have hlines : ∀ line ∈ made.map fun e => Format.text ⟨.json, coloured⟩ e.1 e.2,
        '\n' ∉ line.toList := by
      intro line hline hbreak
      obtain ⟨e, -, rfl⟩ := List.mem_map.mp hline
      exact absurd (Format.text_printable hbreak).1 (by decide)
    rw [← Text.split_lines (rfl : "\n".toList = ['\n']) hlines, List.map_map]
    rfl
  · exact List.length_map _
  · intro line hline c hc
    obtain ⟨e, -, rfl⟩ := List.mem_map.mp hline
    exact Format.text_printable hc
  · rw [List.map_map]
    exact List.map_congr_left fun e _ => Format.read?_text coloured e.1 e.2
  · exact fun level => Channel.written_eq_log _ made

end TemplateLookup.Log
