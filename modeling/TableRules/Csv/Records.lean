/-
  DELIMITED RECORDS: how bytes are cut into records and fields.

  The reader goes through the bytes once, in one of five MODES:

  * `record`  — between records, where line ends are skipped, so that empty lines give nothing;
  * `field`   — at the start of a field, the only place where a quote opens quoted text;
  * `plain`   — in a field outside quotes, where a quote is a character like any other;
  * `quoted`  — inside quotes, where delimiters and line ends are characters too;
  * `closed`  — after a quote inside quotes: a second one stands for a quote, anything that is
    neither delimiter nor line end goes on as plain text.

  A line feed or a carriage return ends a record.  What is open at the end of the input is
  closed there, a quoted field too.  A byte order mark at the very start is dropped.
-/

namespace TableRules.Csv

/-- A field as bytes. -/
abbrev RawField := List UInt8

/-- A record as bytes. -/
abbrev RawRecord := List RawField

/-- Where the reader is. -/
inductive Mode where
  | record
  | field
  | plain
  | quoted
  | closed
deriving DecidableEq

/-- The byte of a double quote. -/
def quoteByte : UInt8 := 0x22

/-- Does a byte end a line? -/
def isLineEnd (b : UInt8) : Bool := b == 0x0A || b == 0x0D

/-- What the reader has of the record that it is in: the fields that are complete and the
    bytes of the one that is not, both in reverse. -/
structure Open where
  fields : List RawField
  bytes : List UInt8

/-- Nothing of a record yet. -/
def Open.none : Open := ⟨[], []⟩

/-- One more byte of the field. -/
def Open.push (o : Open) (b : UInt8) : Open := ⟨o.fields, b :: o.bytes⟩

/-- The field is complete. -/
def Open.endField (o : Open) : Open := ⟨o.bytes.reverse :: o.fields, []⟩

/-- The record is complete. -/
def Open.toRecord (o : Open) : RawRecord := o.endField.fields.reverse

/-- What a byte does that is neither in quotes nor a quote that means something: it ends the
    field, or the record, or it is one more byte. -/
inductive Step where
  | endsField
  | endsRecord
  | isContent

/-- What a byte outside quotes does. -/
def stepOf (delimiter b : UInt8) : Step :=
  if b == delimiter then .endsField else if isLineEnd b then .endsRecord else .isContent

/-- The records from where the reader is. -/
def scan (delimiter : UInt8) : Mode → Open → List UInt8 → List RawRecord
  | .record, _, [] => []
  | _, o, [] => [o.toRecord]
  | mode, o, b :: bs =>
    let outside := fun (_ : Unit) => match stepOf delimiter b with
      | .endsField => scan delimiter .field o.endField bs
      | .endsRecord => o.toRecord :: scan delimiter .record .none bs
      | .isContent => scan delimiter .plain (o.push b) bs
    match mode with
    | .record =>
      if isLineEnd b then scan delimiter .record o bs
      else if b == quoteByte then scan delimiter .quoted o bs
      else outside ()
    | .field => if b == quoteByte then scan delimiter .quoted o bs else outside ()
    | .plain => outside ()
    | .quoted =>
      if b == quoteByte then scan delimiter .closed o bs else scan delimiter .quoted (o.push b) bs
    | .closed =>
      if b == quoteByte then scan delimiter .quoted (o.push b) bs else outside ()

/-- The input without a byte order mark at its start. -/
def dropByteOrderMark : List UInt8 → List UInt8
  | 0xEF :: 0xBB :: 0xBF :: bs => bs
  | bs => bs

/-- The records of an input. -/
def records (delimiter : UInt8) (input : List UInt8) : List RawRecord :=
  scan delimiter .record .none (dropByteOrderMark input)

end TableRules.Csv
