/-
# TemplateLookup.Text.Quoted -- a text in quotes

A quoted text stands between single quotes, or between double quotes when it
holds a single quote and no double one. Inside, the backslash and the quote in
use are escaped by a backslash, tab, line feed and carriage return by a letter,
and every other unprintable character by its number in two, four or eight
hexadecimal digits.
-/

import TemplateLookup.Text.Digit
import TemplateLookup.Text.Printable

namespace TemplateLookup.Text

/-- The quote that surrounds a text. -/
def quoteFor (cs : List Char) : Char :=
  if cs.contains '\'' && !cs.contains '"' then '"' else '\''

/-- A character inside quotes. -/
def quotedChar (quote c : Char) : List Char :=
  if c = quote || c = '\\' then ['\\', c]
  else if c = '\t' then ['\\', 't']
  else if c = '\n' then ['\\', 'n']
  else if c = '\r' then ['\\', 'r']
  else if isPrintable c then [c]
  else if c.toNat < 0x100 then '\\' :: 'x' :: hexDigits 2 c.toNat
  else if c.toNat < 0x10000 then '\\' :: 'u' :: hexDigits 4 c.toNat
  else '\\' :: 'U' :: hexDigits 8 c.toNat

/-- A text in quotes. -/
def quotedChars (cs : List Char) : List Char :=
  let quote := quoteFor cs
  quote :: cs.flatMap (quotedChar quote) ++ [quote]

/-- `quotedChars` on strings. -/
def quoted (s : String) : String := String.ofList (quotedChars s.toList)

/-- A text with every character beyond ASCII escaped by its number. -/
def asciiOnly (s : String) : String :=
  String.ofList <| s.toList.flatMap fun c =>
    if c.toNat < 0x80 then [c]
    else if c.toNat < 0x100 then '\\' :: 'x' :: hexDigits 2 c.toNat
    else if c.toNat < 0x10000 then '\\' :: 'u' :: hexDigits 4 c.toNat
    else '\\' :: 'U' :: hexDigits 8 c.toNat

end TemplateLookup.Text
