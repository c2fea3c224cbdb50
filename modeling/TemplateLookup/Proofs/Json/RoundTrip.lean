/-
# TemplateLookup.Proofs.Json.RoundTrip -- what is written for data exchange is read back

Every character has an escape that is read as this character and nothing else, two surrogates
for the characters beyond U+FFFF (`stringRest?_escapedChar`). So a text between quotes is read
back whatever stands behind it (`stringRest?_flatMap`), and so is a mapping of texts on one line
(`read?_line_record`). What is written is printable ASCII (`line_record_printable`), so it holds
no line break.
-/

import TemplateLookup.Json.Printer
import TemplateLookup.Json.Reader
import TemplateLookup.Proofs.Text.Digit
import TemplateLookup.Proofs.Text.Pieces

namespace TemplateLookup.Json

/-! ## Units -/

theorem fourHex?_hexDigits {n : Nat} (h : n < 0x10000) (rest : List Char) :
    fourHex? (Text.hexDigits 4 n ++ rest) = some (n, rest) := by
  have hread : Text.hexNumber? (Text.hexDigits 4 n) = some n := Text.hexNumber?_hexDigits h
  simp only [Text.hexDigits, List.nil_append, List.cons_append] at hread ⊢
  rw [fourHex?, hread]
  rfl

/-- A unit that is no surrogate is a character. -/
theorem unitChar?_of_single {n : Nat} (h : n < 0x10000) (hlow : n < 0xD800 ∨ 0xE000 ≤ n)
    (rest : List Char) : unitChar? (Text.hexDigits 4 n ++ rest) = some (Char.ofNat n, rest) := by
  have hhigh : ¬ (0xD800 ≤ n ∧ n < 0xDC00) := by omega
  have hsecond : ¬ (0xDC00 ≤ n ∧ n < 0xE000) := by omega
  simp only [unitChar?, fourHex?_hexDigits h, Option.bind_eq_bind, Option.bind_some]
  rw [if_neg hhigh, if_neg hsecond]

/-- Two surrogates are a character. -/
theorem unitChar?_of_pair {n : Nat} (h : n < 0x100000) (rest : List Char) :
    unitChar? (Text.hexDigits 4 (0xD800 + n / 0x400) ++ (unitEscape (0xDC00 + n % 0x400) ++ rest)) =
      some (Char.ofNat (0x10000 + n), rest) := by
  have hhigh : 0xD800 ≤ 0xD800 + n / 0x400 ∧ 0xD800 + n / 0x400 < 0xDC00 := by omega
  have hlow : 0xDC00 ≤ 0xDC00 + n % 0x400 ∧ 0xDC00 + n % 0x400 < 0xE000 := by omega
  have hvalue : 0x10000 + (0xD800 + n / 0x400 - 0xD800) * 0x400 + (0xDC00 + n % 0x400 - 0xDC00) =
      0x10000 + n := by omega
  simp only [unitChar?, fourHex?_hexDigits (by omega : 0xD800 + n / 0x400 < 0x10000),
    Option.bind_eq_bind, Option.bind_some, unitEscape, List.cons_append]
  rw [if_pos hhigh]
  simp only [fourHex?_hexDigits (by omega : 0xDC00 + n % 0x400 < 0x10000), Option.bind_some]
  rw [if_pos hlow, hvalue]

/-! ## Characters -/

/-- The code point of a character is no surrogate and not too large. -/
theorem toNat_cases (c : Char) :
    c.toNat < 0xD800 ∨ 0xE000 ≤ c.toNat ∧ c.toNat < 0x110000 := by
  have hvalid := c.valid
  simp only [UInt32.isValidChar, Nat.isValidChar] at hvalid
  simp only [Char.toNat]
  omega

theorem stringRest?_unit (c : Char) (hsmall : c.toNat < 0x10000) (fuel : Nat) (rest : List Char) :
    stringRest? (fuel + 1) (unitEscape c.toNat ++ rest) =
      (stringRest? fuel rest).map fun (cs, after) => (c :: cs, after) := by
  have hunit := unitChar?_of_single hsmall (by have := toNat_cases c; omega) rest
  rw [Char.ofNat_toNat] at hunit
  simp only [unitEscape, List.cons_append, stringRest?, hunit, Option.bind_eq_bind,
    Option.bind_some]
  cases stringRest? fuel rest <;> rfl

theorem stringRest?_pair (c : Char) (hlarge : 0x10000 ≤ c.toNat) (fuel : Nat) (rest : List Char) :
    stringRest? (fuel + 1)
        (unitEscape (0xD800 + (c.toNat - 0x10000) / 0x400) ++
          unitEscape (0xDC00 + (c.toNat - 0x10000) % 0x400) ++ rest) =
      (stringRest? fuel rest).map fun (cs, after) => (c :: cs, after) := by
  have hpair := unitChar?_of_pair (n := c.toNat - 0x10000)
    (by have := toNat_cases c; omega) rest
  rw [Nat.add_sub_cancel' hlarge, Char.ofNat_toNat] at hpair
  rw [List.append_assoc]
  generalize unitEscape (0xDC00 + (c.toNat - 0x10000) % 0x400) ++ rest = behind at hpair ⊢
  simp only [unitEscape, List.cons_append, stringRest?, hpair, Option.bind_eq_bind,
    Option.bind_some]
  cases stringRest? fuel rest <;> rfl

/-- A character that needs no escape stands for itself. -/
theorem stringRest?_plain {c : Char} (hquote : c ≠ '"') (hslash : c ≠ '\\')
    (hprintable : 32 ≤ c.toNat) (fuel : Nat) (rest : List Char) :
    stringRest? (fuel + 1) (c :: rest) =
      (stringRest? fuel rest).map fun (cs, after) => (c :: cs, after) := by
  have hcontrol : ¬ (c = '\\' ∨ c.toNat < 32) := by
    rintro (h | h)
    · exact hslash h
    · omega
  rw [stringRest?, if_neg hcontrol]
  · exact hquote
  · exact fun _ h => absurd h hslash
  · exact fun _ _ h => absurd h hslash

/-- Reading the escape of a character gives the character. -/
theorem stringRest?_escapedChar (c : Char) (fuel : Nat) (rest : List Char) :
    stringRest? (fuel + 1) (escapedChar c ++ rest) =
      (stringRest? fuel rest).map fun (cs, after) => (c :: cs, after) := by
  have hletter : ∀ letter, letterEscape? letter = some c →
      stringRest? (fuel + 1) ('\\' :: letter :: rest) =
        (stringRest? fuel rest).map fun (cs, after) => (c :: cs, after) := by
    intro letter h
    have hother : letter ≠ 'u' := by
      rintro rfl
      cases h
    simp only [stringRest?, h]
    cases stringRest? fuel rest <;> rfl
  rw [escapedChar]
  split
  · rename_i h
    exact hletter '"' (congrArg some h.symm)
  rename_i hquote
  split
  · rename_i h
    exact hletter '\\' (congrArg some h.symm)
  rename_i hslash
  split
  · rename_i h
    exact hletter 'n' (congrArg some h.symm)
  split
  · rename_i h
    exact hletter 'r' (congrArg some h.symm)
  split
  · rename_i h
    exact hletter 't' (congrArg some h.symm)
  split
  · rename_i h
    exact hletter 'f' (congrArg some h.symm)
  split
  · rename_i h
    exact hletter 'b' (congrArg some h.symm)
  split
  · rename_i hprintable
    exact stringRest?_plain hquote hslash hprintable.1 fuel rest
  split
  · rename_i hsmall
    exact stringRest?_unit c hsmall fuel rest
  · rename_i hlarge
    exact stringRest?_pair c (Nat.not_lt.mp hlarge) fuel rest

theorem escapedChar_printable {c d : Char} (h : d ∈ escapedChar c) :
    32 ≤ d.toNat ∧ d.toNat < 127 := by
  have hunit : ∀ {n}, d ∈ unitEscape n → 32 ≤ d.toNat ∧ d.toNat < 127 := by
    intro n hd
    rcases List.mem_cons.mp hd with rfl | hd
    · decide
    · rcases List.mem_cons.mp hd with rfl | hd
      · decide
      · exact Text.hexDigits_printable hd
  have hpair : ∀ {a b : Char}, d ∈ [a, b] → d = a ∨ d = b := by
    intro a b hd
    simpa using hd
  rw [escapedChar] at h
  iterate 7
    split at h
    · rcases hpair h with rfl | rfl <;> decide
  split at h
  · rename_i hprintable
    rwa [List.mem_singleton.mp h]
  split at h
  · exact hunit h
  · rcases List.mem_append.mp h with hfirst | hsecond
    · exact hunit hfirst
    · exact hunit hsecond

theorem escapedChar_ne_nil (c : Char) : escapedChar c ≠ [] := by
  intro h
  have hread := stringRest?_escapedChar c 0 ['"']
  rw [h] at hread
  cases hread

/-! ## Texts -/

/-- A text is read up to its closing quote, whatever stands behind it. -/
theorem stringRest?_flatMap (cs : List Char) {fuel : Nat} (h : cs.length < fuel)
    (rest : List Char) :
    stringRest? fuel (cs.flatMap escapedChar ++ '"' :: rest) = some (cs, rest) := by
  induction cs generalizing fuel with
  | nil =>
    cases fuel with
    | zero => cases h
    | succ fuel => rfl
  | cons c cs ih =>
    cases fuel with
    | zero => cases h
    | succ fuel =>
      rw [List.flatMap_cons, List.append_assoc, stringRest?_escapedChar,
        ih (Nat.lt_of_succ_lt_succ h)]
      rfl

theorem length_le_length_flatMap (cs : List Char) :
    cs.length ≤ (cs.flatMap escapedChar).length := by
  induction cs with
  | nil => exact Nat.le_refl 0
  | cons c cs ih =>
    have hpos : 0 < (escapedChar c).length := List.length_pos_iff.mpr (escapedChar_ne_nil c)
    rw [List.flatMap_cons, List.length_append, List.length_cons]
    omega

theorem toList_string (s : String) :
    (string s).toList = '"' :: (s.toList.flatMap escapedChar ++ ['"']) := by
  rw [string, String.toList_ofList]
  rfl

theorem string_printable {s : String} {c : Char} (h : c ∈ (string s).toList) :
    32 ≤ c.toNat ∧ c.toNat < 127 := by
  rw [toList_string] at h
  rcases List.mem_cons.mp h with rfl | h
  · decide
  · rcases List.mem_append.mp h with hinside | hquote
    · obtain ⟨d, -, hd⟩ := List.mem_flatMap.mp hinside
      exact escapedChar_printable hd
    · rw [List.mem_singleton.mp hquote]
      decide

/-- The opening quote is followed by the text and what stands behind it. -/
theorem stringRest?_string (s : String) (rest : List Char) :
    ∃ inside, (string s).toList ++ rest = '"' :: inside ∧
      stringRest? (inside.length + 1) inside = some (s.toList, rest) := by
  refine ⟨s.toList.flatMap escapedChar ++ '"' :: rest, ?_, ?_⟩
  · rw [toList_string]
    simp
  · have hlength := length_le_length_flatMap s.toList
    refine stringRest?_flatMap s.toList ?_ rest
    rw [List.length_append]
    omega

theorem value?_string (fuel : Nat) (s : String) (rest : List Char) :
    value? (fuel + 1) ((string s).toList ++ rest) = some (.text s, rest) := by
  obtain ⟨inside, htext, hread⟩ := stringRest?_string s rest
  have hskip : skip ('"' :: inside) = '"' :: inside := rfl
  rw [htext, value?, hskip]
  simp only [hread, Option.map_some, String.ofList_toList]

/-! ## Mappings of texts -/

/-- The entries of a mapping in which every name has a text. -/
def textEntries (fields : List (String × String)) : List (Scalar × Data) :=
  fields.map fun field => (.text field.1, .text field.2)

/-- A text is read under its name; then a comma leads to more entries, or a brace ends them. -/
theorem entries?_field {fuel : Nat} {k v : String} {rest final : List Char}
    {es : List (Scalar × Data)}
    (h : (∃ further more, rest = ',' :: further ∧
        entries? (fuel + 1) further = some (more, final) ∧ es = (.text k, .text v) :: more) ∨
      rest = '}' :: final ∧ es = [(.text k, .text v)]) :
    entries? (fuel + 2) ((key (.text k) ++ ": " ++ line (.text v)).toList ++ rest) =
      some (es, final) := by
  have hvalue := value?_string fuel v rest
  obtain ⟨inside, htext, hread⟩ := stringRest?_string k (':' :: ' ' :: ((string v).toList ++ rest))
  have hwritten : (key (.text k) ++ ": " ++ line (.text v)).toList ++ rest = '"' :: inside := by
    rw [← htext]
    simp [key, line, scalar]
  have hquote : skip ('"' :: inside) = '"' :: inside := rfl
  have hcolon : ∀ cs, skip (':' :: cs) = ':' :: cs := fun _ => rfl
  have hcomma : ∀ cs, skip (',' :: cs) = ',' :: cs := fun _ => rfl
  have hbrace : ∀ cs, skip ('}' :: cs) = '}' :: cs := fun _ => rfl
  have hblank : ∀ fuel cs, value? fuel (' ' :: cs) = value? fuel cs := by
    intro fuel cs
    cases fuel <;> rfl
  rw [hwritten, entries?, hquote]
  simp only [hread, Option.bind_eq_bind, Option.bind_some, hcolon, hblank, hvalue,
    String.ofList_toList]
  rcases h with ⟨further, more, rfl, hmore, rfl⟩ | ⟨rfl, rfl⟩
  · simp only [hcomma, hmore, Option.bind_some]
  · simp only [hbrace]

/-- A comma leads to the next entry, with a blank before it. -/
theorem entries?_blank (fuel : Nat) (cs : List Char) :
    entries? fuel (' ' :: cs) = entries? fuel cs := by
  cases fuel <;> rfl

/-- The entries are read in their order, up to the closing brace. -/
theorem entries?_textEntries (fields : List (String × String)) (hne : fields ≠ []) {fuel : Nat}
    (h : fields.length < fuel) (rest : List Char) :
    entries? fuel
        ((Text.joinWith ", " (lineEntries (textEntries fields))).toList ++ '}' :: rest) =
      some (textEntries fields, rest) := by
  induction fields generalizing fuel with
  | nil => exact absurd rfl hne
  | cons field fields ih =>
    obtain ⟨k, v⟩ := field
    obtain ⟨fuel, rfl⟩ : ∃ n, fuel = n + 2 := by
      rw [List.length_cons] at h
      exact ⟨fuel - 2, by omega⟩
    cases fields with
    | nil => exact entries?_field (.inr ⟨rfl, rfl⟩)
    | cons next fields =>
      have hmore := ih (by simp) (Nat.lt_of_succ_lt_succ h)
      rw [← entries?_blank] at hmore
      have hwritten : Text.joinWith ", " (lineEntries (textEntries ((k, v) :: next :: fields))) =
          (key (.text k) ++ ": " ++ line (.text v)) ++ ", " ++
            Text.joinWith ", " (lineEntries (textEntries (next :: fields))) := rfl
      rw [hwritten, String.toList_append, String.toList_append, List.append_assoc,
        List.append_assoc]
      exact entries?_field (.inl ⟨_, _, rfl, hmore, rfl⟩)

theorem toList_line_textEntries (fields : List (String × String)) :
    (line (.mapping (textEntries fields))).toList =
      '{' :: ((Text.joinWith ", " (lineEntries (textEntries fields))).toList ++ ['}']) := by
  rw [line, String.toList_append, String.toList_append]
  rfl

theorem length_lineEntries (es : List (Scalar × Data)) : (lineEntries es).length = es.length := by
  induction es with
  | nil => rfl
  | cons entry es ih =>
    obtain ⟨k, d⟩ := entry
    rw [lineEntries, List.length_cons, List.length_cons, ih]

/-- The first name starts with a quote. -/
theorem exists_quote (field : String × String) (fields : List (String × String))
    (rest : List Char) :
    ∃ inside, (Text.joinWith ", " (lineEntries (textEntries (field :: fields)))).toList ++ rest =
      '"' :: inside := by
  have hname : ∀ behind : String, ∃ inside,
      (key (.text field.1) ++ behind).toList ++ rest = '"' :: inside := by
    intro behind
    rw [String.toList_append, key, toList_string]
    exact ⟨_, rfl⟩
  cases fields with
  | nil =>
    have hone : Text.joinWith ", " (lineEntries (textEntries [field])) =
        key (.text field.1) ++ (": " ++ line (.text field.2)) := by
      rw [← String.append_assoc]
      rfl
    rw [hone]
    exact hname _
  | cons next fields =>
    have hmore : Text.joinWith ", " (lineEntries (textEntries (field :: next :: fields))) =
        key (.text field.1) ++ (": " ++ line (.text field.2) ++ ", " ++
          Text.joinWith ", " (lineEntries (textEntries (next :: fields)))) := by
      simp only [← String.append_assoc]
      rfl
    rw [hmore]
    exact hname _

/-- **Reading back.** A mapping of texts that is written on one line is read from it. -/
theorem read?_line_record (fields : List (String × String)) :
    read? (line (.mapping (textEntries fields))) = some (.mapping (textEntries fields)) := by
  cases fields with
  | nil => rfl
  | cons field fields =>
    obtain ⟨inside, hinside⟩ := exists_quote field fields ['}']
    have hentries : entries? (inside.length + 2) ('"' :: inside) =
        some (textEntries (field :: fields), []) := by
      -- every entry takes at least one character
      have hlength := Text.length_le_joinWith (by decide : ", " ≠ "")
        (lineEntries (textEntries (field :: fields)))
      have htotal := congrArg List.length hinside
      rw [length_lineEntries, textEntries, List.length_map] at hlength
      rw [List.length_append, List.length_singleton, textEntries, List.length_cons] at htotal
      rw [← hinside]
      exact entries?_textEntries _ (by simp) (by omega) []
    have hopen : value? (inside.length + 3) ('{' :: '"' :: inside) =
        (entries? (inside.length + 2) ('"' :: inside)).map
          fun found => (.mapping found.1, found.2) := rfl
    have hend : skip [] = [] := rfl
    simp only [read?, toList_line_textEntries, hinside, List.length_cons, hopen, hentries,
      Option.bind_eq_bind, Option.map_some, Option.bind_some, hend, if_true]

/-- A line break, a quote and a character beyond U+FFFF are escaped. -/
example : line (.mapping (textEntries [("msg", "a\n\"😀")])) =
    "\x7b\"msg\": \"a\\n\\\"\\ud83d\\ude00\"\x7d" := by
  decide +kernel

/-- What is written is printable ASCII. -/
theorem line_record_printable {fields : List (String × String)} {c : Char}
    (h : c ∈ (line (.mapping (textEntries fields))).toList) :
    32 ≤ c.toNat ∧ c.toNat < 127 := by
  have hcomma : ∀ sign ∈ ", ".toList, 32 ≤ sign.toNat ∧ sign.toNat < 127 := by
    simp
  have hcolon : ∀ sign ∈ ": ".toList, 32 ≤ sign.toNat ∧ sign.toNat < 127 := by
    simp
  have hentry : ∀ es, ∀ text ∈ lineEntries (textEntries es), c ∈ text.toList →
      32 ≤ c.toNat ∧ c.toNat < 127 := by
    intro es
    induction es with
    | nil => exact fun text htext => absurd htext List.not_mem_nil
    | cons field es ih =>
      intro text htext hc
      rcases List.mem_cons.mp htext with rfl | htext
      · rw [String.toList_append, String.toList_append] at hc
        rcases List.mem_append.mp hc with hc | hvalue
        · rcases List.mem_append.mp hc with hname | hbetween
          · exact string_printable hname
          · exact hcolon c hbetween
        · exact string_printable hvalue
      · exact ih text htext hc
  rw [toList_line_textEntries] at h
  rcases List.mem_cons.mp h with rfl | h
  · decide
  · rcases List.mem_append.mp h with hinside | hbrace
    · rcases Text.mem_joinWith hinside with hbetween | ⟨text, htext, hc⟩
      · exact hcomma c hbetween
      · exact hentry fields text htext hc
    · rw [List.mem_singleton.mp hbrace]
      decide

end TemplateLookup.Json
