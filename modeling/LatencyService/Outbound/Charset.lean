/-
The text of a body. Its charset is the one that the type of the content
declares, or else UTF-8; a byte-order mark at the front of the body counts for
more than either and is no part of the text. What does not belong to UTF-8
reads as replacement characters.

Which charset a type declares, which labels the charsets have and how the
octets of any but UTF-8 read is left to the library of the client. Whatever
library that is, it knows UTF-8 by the label that is taken where none is
declared.
-/

import LatencyService.Http.Message

namespace LatencyService

/-- A charset. -/
inductive Charset where
  | utf8
  | utf16 (isBigEndian : Bool)
  /-- Any other that a library knows. -/
  | other (name : String)
  deriving DecidableEq, Repr

namespace Charset

/-- The label of the charset that is taken where none is declared. -/
def defaultLabel : String := "utf-8"

end Charset

/-- What a library makes of the types of contents, of labels and of octets. -/
structure Charsets where
  /-- The label of a charset among the parameters of the type of a content. -/
  declared? : String → Option String
  /-- The charset that has a label. -/
  named? : String → Option Charset
  /-- The text of octets in a charset other than UTF-8. -/
  readOther : Charset → Octets → String
  named?_default : named? Charset.defaultLabel = some .utf8

namespace Charsets

/-- A library that knows no charset but UTF-8. -/
def utf8Only : Charsets where
  declared? _ := none
  named? label := if label = Charset.defaultLabel then some .utf8 else none
  readOther _ := Octets.toTextLossy
  named?_default := if_pos rfl

instance : Inhabited Charsets := ⟨utf8Only⟩

/-- The charset of a body whose content is declared to be of a type. -/
def charsetOf (charsets : Charsets) (contentType : Option String) : Charset :=
  let label := (contentType.bind charsets.declared?).getD Charset.defaultLabel
  (charsets.named? label).getD .utf8

/-- The text of octets in a charset. -/
def read (charsets : Charsets) : Charset → Octets → String
  | .utf8 => Octets.toTextLossy
  | charset => charsets.readOther charset

/-- The text of a body whose content is declared to be of a type. -/
def textOf (charsets : Charsets) (contentType : Option String) (body : Octets) : String :=
  match body with
  | 0xEF :: 0xBB :: 0xBF :: rest => charsets.read .utf8 rest
  | 0xFF :: 0xFE :: rest => charsets.read (.utf16 false) rest
  | 0xFE :: 0xFF :: rest => charsets.read (.utf16 true) rest
  | _ => charsets.read (charsets.charsetOf contentType) body

end Charsets

end LatencyService
