/-
# TemplateLookup.Encodings -- the encodings that are at hand

Which encodings there are, and what texts they give, is not for this library to
say: it asks for an encoding by name and takes the answer. An encoding can be
known and still give no text at all, because it is one between bytes and bytes.
UTF-8 is always known.
-/

import TemplateLookup.Codec.Utf8

namespace TemplateLookup

/-- Why bytes give no text, with the message about it. -/
inductive DecodeFailure where
  /-- The bytes are no text in the encoding. -/
  | undecodable (message : String)
  /-- The encoding refuses the bytes for a reason of its own. -/
  | invalid (message : String)
  /-- There is no encoding of texts under the name. -/
  | unsuited (message : String)
  deriving DecidableEq, Repr, Inhabited

/-- The message of bytes that give no text. -/
def DecodeFailure.message : DecodeFailure → String
  | .undecodable message => message
  | .invalid message => message
  | .unsuited message => message

/-- The encodings by name. -/
class Encodings where
  /-- Whether there is an encoding of a name. -/
  knows : String → Bool
  /-- The text of bytes in the encoding of a name. -/
  decode : String → Bytes → Except DecodeFailure String
  knows_utf8 : knows "utf-8" = true

end TemplateLookup
