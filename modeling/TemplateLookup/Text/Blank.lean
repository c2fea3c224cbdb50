/-
# TemplateLookup.Text.Blank -- blank characters and trimming

The blank characters are the white space of Unicode together with the four
separator controls U+001C to U+001F. Zero-width characters (U+200B, U+FEFF,
U+180E) are not blank. Trimming removes blanks at both ends and nothing else,
so a trimmed text neither starts nor ends with a blank.
-/

namespace TemplateLookup.Text

/-! ## The class -/

/-- The blank characters. -/
def isBlank (c : Char) : Bool :=
  let n := c.toNat
  (9 ≤ n && n ≤ 13) || (28 ≤ n && n ≤ 32) || n == 0x85 || n == 0xA0 || n == 0x1680 ||
    (0x2000 ≤ n && n ≤ 0x200A) || n == 0x2028 || n == 0x2029 || n == 0x202F || n == 0x205F ||
    n == 0x3000

/-! ## Trimming -/

/-- The text without the blanks it starts with. -/
def trimLeft (cs : List Char) : List Char := cs.dropWhile isBlank

/-- The text without the blanks it ends with. -/
def trimRight (cs : List Char) : List Char := (cs.reverse.dropWhile isBlank).reverse

/-- The text without the blanks at either end. -/
def trimmed (cs : List Char) : List Char := trimRight (trimLeft cs)

/-- `trimmed` on strings. -/
def trim (s : String) : String := String.ofList (trimmed s.toList)

end TemplateLookup.Text
