/-
# TemplateLookup.Codec.Basic -- the encodings of template sources

An encoding is found by a name in which only letters, digits and full stops
count: case is ignored, and any run of other characters between them counts as
one separator. `decode` turns bytes into a text or says which bytes are at
fault and why. Some known encodings give no texts at all.
-/

import TemplateLookup.Codec.Utf16
import TemplateLookup.Encodings

namespace TemplateLookup

/-- The known encodings. -/
inductive Codec where
  | utf8
  /-- UTF-8 after an optional mark. -/
  | utf8Marked
  /-- UTF-16 whose byte order a mark may announce. -/
  | utf16
  | utf16Little
  | utf16Big
  | latin1
  | ascii
  | windows1252
  deriving DecidableEq, Repr, Inhabited

namespace Codec

/-! ## Names -/

/-- A name reduced to lower-case letters, digits and full stops, with one
underscore for each run of other characters between two of them. -/
def canonicalFrom : Bool → Bool → List Char → List Char
  | _, _, [] => []
  | started, gap, c :: rest =>
    if c.toNat < 0x80 ∧ (c.isAlphanum ∨ c = '.') then
      if gap ∧ started then '_' :: c.toLower :: canonicalFrom true false rest
      else c.toLower :: canonicalFrom true false rest
    else canonicalFrom started true rest

/-- The reduced form of a name. -/
def canonical (name : String) : String :=
  String.ofList (canonicalFrom false false name.toList)

/-- The reduced name of each encoding, and its other reduced names. -/
def names : List (Codec × String × List String) :=
  [(.utf8, "utf_8", ["utf8", "u8", "utf", "utf8_ucs2", "utf8_ucs4", "cp65001"]),
   (.utf8Marked, "utf_8_sig", []),
   (.utf16, "utf_16", ["utf16", "u16"]),
   (.utf16Little, "utf_16_le", ["utf_16le", "unicodelittleunmarked"]),
   (.utf16Big, "utf_16_be", ["utf_16be", "unicodebigunmarked"]),
   (.latin1, "latin_1", ["latin1", "latin", "l1", "8859", "cp819", "csisolatin1", "ibm819",
     "iso8859", "iso8859_1", "iso_8859_1", "iso_8859_1_1987", "iso_ir_100"]),
   (.ascii, "ascii", ["us_ascii", "us", "646", "ansi_x3.4_1968", "ansi_x3_4_1968",
     "ansi_x3.4_1986", "cp367", "csascii", "ibm367", "iso646_us", "iso_646.irv_1991",
     "iso_ir_6"]),
   (.windows1252, "cp1252", ["1252", "windows_1252"])]

/-- A reduced name with its full stops read as separators. -/
def undotted (name : String) : String :=
  String.ofList (name.toList.map fun c => if c = '.' then '_' else c)

/-- The encoding of a name; only in its other names a full stop can stand for a
separator. -/
def named? (name : String) : Option Codec :=
  let wanted := canonical name
  (names.find? fun (_, own, others) =>
    own = wanted || others.contains wanted || others.contains (undotted wanted)).map (·.1)

/-- The reduced names of the encodings between bytes and bytes. -/
def transformations : List String :=
  ["rot_13", "rot13", "hex_codec", "hex", "base64_codec", "base64", "base_64", "bz2_codec", "bz2",
   "zlib_codec", "zip", "zlib", "uu_codec", "uu", "quopri_codec", "quopri", "quotedprintable",
   "quoted_printable"]

/-- Whether a name is that of an encoding between bytes and bytes. -/
def isTransformation (name : String) : Bool :=
  let wanted := canonical name
  transformations.contains wanted || transformations.contains (undotted wanted)

/-! ## Decoding -/

/-- Bytes of which each is a character by itself. -/
def decodeSingle (flaw : Flaw) (table : UInt8 → Option Char) :
    Nat → Bytes → Except Refusal (List Char)
  | _, [] => .ok []
  | position, b :: rest =>
    match table b with
    | some c => (decodeSingle flaw table (position + 1) rest).map (c :: ·)
    | none => .error ⟨flaw, b, position, 1⟩

/-- The characters of bytes 0x80 to 0x9F of the Windows code page; zero marks
the bytes that have none. -/
def windowsHigh : List Nat :=
  [0x20AC, 0, 0x201A, 0x0192, 0x201E, 0x2026, 0x2020, 0x2021, 0x02C6, 0x2030, 0x0160, 0x2039,
   0x0152, 0, 0x017D, 0, 0, 0x2018, 0x2019, 0x201C, 0x201D, 0x2022, 0x2013, 0x2014, 0x02DC,
   0x2122, 0x0161, 0x203A, 0x0153, 0, 0x017E, 0x0178]

/-- The character of a byte of the Windows code page. -/
def windowsChar? (b : UInt8) : Option Char :=
  if b < 0x80 ∨ 0xA0 ≤ b then some (Char.ofNat b.toNat)
  else match windowsHigh[b.toNat - 0x80]? with
    | some 0 => none
    | some n => some (Char.ofNat n)
    | none => none

/-- Attaches the name of the encoding to a refusal. -/
def labelled (encoding : String) (r : Except Refusal (List Char)) :
    Except DecodeFailure String :=
  match r with
  | .ok cs => .ok (String.ofList cs)
  | .error refusal => .error (.undecodable (refusal.message encoding))

/-- The text of bytes in UTF-16 of a given order, from a position on. -/
def decodeOrdered (order : ByteOrder) (position : Nat) (bytes : Bytes) :
    Except DecodeFailure String :=
  labelled (match order with | .little => "utf-16-le" | .big => "utf-16-be")
    (decodeUnits order position bytes)

/-- The text of bytes in an encoding. -/
def decode (codec : Codec) (bytes : Bytes) : Except DecodeFailure String :=
  match codec with
  | .utf8 => labelled "utf-8" (decodeFrom bytes.length 0 bytes)
  | .utf8Marked =>
    let unmarked := match bytes with
      | 0xEF :: 0xBB :: 0xBF :: rest => rest
      | all => all
    labelled "utf-8" (decodeFrom unmarked.length 0 unmarked)
  | .utf16 =>
    let (order, mark) := markedOrder bytes
    decodeOrdered order mark (bytes.drop mark)
  | .utf16Little => decodeOrdered .little 0 bytes
  | .utf16Big => decodeOrdered .big 0 bytes
  | .latin1 => labelled "latin-1" (decodeSingle .undefinedByte (some ∘ Char.ofNat ∘ UInt8.toNat) 0 bytes)
  | .ascii =>
    labelled "ascii" (decodeSingle .beyondAscii
      (fun b => if b < 0x80 then some (Char.ofNat b.toNat) else none) 0 bytes)
  | .windows1252 => labelled "charmap" (decodeSingle .undefinedByte windowsChar? 0 bytes)

/-- The text of bytes in the encoding of a name. -/
def decodeNamed (name : String) (bytes : Bytes) : Except DecodeFailure String :=
  match named? name with
  | some codec => codec.decode bytes
  | none =>
    .error (.unsuited
      (if isTransformation name then
        "'" ++ name ++ "' is not a text encoding; use codecs.decode() to handle arbitrary codecs"
      else "unknown encoding: " ++ name))

end Codec

end TemplateLookup
