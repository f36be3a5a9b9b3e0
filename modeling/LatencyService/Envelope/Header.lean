/-
The header block that every call carries and every echoing answer returns. On
the wire it is a table of six fields, three required and three optional; a
required field that is missing or null reads as the empty text, so that its
absence shows up in the constraints and not as unreadable input. Optional
fields that are absent are not written.
-/

import LatencyService.Json.Printer
import LatencyService.Schema.Record
import LatencyService.Text.Blank

namespace LatencyService

/-- The header of a message. -/
structure Header where
  messageId : String := ""
  sourceChannel : String := ""
  transaction : String := ""
  returnCode : Option String := none
  returnText : Option String := none
  origin : Option String := none
  deriving DecidableEq, Repr, Inhabited

/-! ### Constraints -/

/-- A field of a message that is subject to a constraint. -/
inductive ConstrainedField where
  | messageId
  | sourceChannel
  | transaction
  | delay
  | rounds
  deriving DecidableEq, Repr

/-- The name of the field on the wire. -/
def ConstrainedField.wireName : ConstrainedField → String
  | messageId => "MSGID"
  | sourceChannel => "SOURCECHANNEL"
  | transaction => "TXNSEQ"
  | delay => "delay"
  | rounds => "forCount"

/-- A constraint that an envelope does not meet. -/
inductive Violation where
  | headerMissing
  | payloadMissing
  /-- The field holds nothing but blanks. -/
  | blank (field : ConstrainedField)
  /-- The field has too many characters. -/
  | tooLong (field : ConstrainedField)
  /-- The number is below zero. -/
  | negative (field : ConstrainedField)
  deriving DecidableEq, Repr

namespace Header

/-- The greatest number of characters in a required field. -/
def maxLength : Nat := 20

end Header

/-- The violation in words. -/
def Violation.message : Violation → String
  | headerMissing => "MWHEADER is null"
  | payloadMissing => "TRANRQ is null"
  | blank field => field.wireName ++ " is blank"
  | tooLong field =>
    field.wireName ++ " length must not exceed " ++ toString Header.maxLength
  | negative field => field.wireName ++ " must not be negative"

namespace Header

/-- The violations of a required field, at most one: a blank field is not also too long. The
length counts characters, blanks at the ends included. -/
def checkField (field : ConstrainedField) (value : String) : List Violation :=
  if Blank.isBlank value then [.blank field]
  else if value.length > maxLength then [.tooLong field]
  else []

/-- The violations of a header, in the order of its fields. The optional fields are free. -/
def violations (header : Header) : List Violation :=
  checkField .messageId header.messageId ++ checkField .sourceChannel header.sourceChannel ++
    checkField .transaction header.transaction

/-! ### The wire form -/

/-- The fields of a header as they are read: everything may be missing or null. -/
def fields : List (Field Header) :=
  [ .of "MSGID" .anywhere (Shape.text.orElse "") fun value header =>
      { header with messageId := value },
    .of "SOURCECHANNEL" .anywhere (Shape.text.orElse "") fun value header =>
      { header with sourceChannel := value },
    .of "TXNSEQ" .anywhere (Shape.text.orElse "") fun value header =>
      { header with transaction := value },
    .of "RETURNCODE" .anywhere Shape.text.optional fun value header =>
      { header with returnCode := value },
    .of "RETURNDESC" .anywhere Shape.text.optional fun value header =>
      { header with returnText := value },
    .of "O360SEQ" .anywhere Shape.text.optional fun value header =>
      { header with origin := value } ]

/-- How a header is read. -/
def shape : Shape Header := Shape.record "MwHeader" fields {}

/-- The entry of an optional field, if it is present. -/
def optionalEntry (key : String) (value : Option String) : List (String × String) :=
  (value.map fun text => (key, Json.quote text)).toList

/-- The entries of a header as they are written. -/
def entries (header : Header) : List (String × String) :=
  [("MSGID", Json.quote header.messageId), ("SOURCECHANNEL", Json.quote header.sourceChannel),
    ("TXNSEQ", Json.quote header.transaction)] ++
    optionalEntry "RETURNCODE" header.returnCode ++
    optionalEntry "RETURNDESC" header.returnText ++ optionalEntry "O360SEQ" header.origin

/-- A header as JSON text. -/
def render (header : Header) : String := Json.object header.entries

end Header

end LatencyService
