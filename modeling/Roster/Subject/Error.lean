import Roster.Token.Hex

/-! # Why a certificate's subject cannot be read -/

namespace Roster

inductive SubjectError where
  | endOfData
  | multiByteTag
  | missingLength
  | unsupportedLength
  | overrun (length : Nat)
  | unexpectedTag (what : String) (expected found : UInt8)
  | emptyIdentifier
  | arcOverflow
  | truncatedIdentifier
  | trailingInAttribute
  | emptyRelativeName
  | invalidText (kind : String)
  | noCertificate
  deriving DecidableEq, Repr

namespace SubjectError

def reason : SubjectError → String
  | .endOfData => "unexpected end of data"
  | .multiByteTag => "multi-byte tags are not supported"
  | .missingLength => "missing length"
  | .unsupportedLength => "unsupported length encoding"
  | .overrun length => s!"element of {length} bytes overruns its container"
  | .unexpectedTag what expected found =>
    let want := Hex.text [expected]
    let have_ := Hex.text [found]
    s!"expected {what} (tag 0x{want}), found tag 0x{have_}"
  | .emptyIdentifier => "empty object identifier"
  | .arcOverflow => "object identifier arc overflows"
  | .truncatedIdentifier => "truncated object identifier"
  | .trailingInAttribute => "trailing data in attribute"
  | .emptyRelativeName => "empty relative distinguished name"
  | .invalidText kind => s!"invalid {kind} value"
  | .noCertificate => "peer presented no certificate"

def message (e : SubjectError) : String := "cannot read certificate subject: " ++ e.reason

end SubjectError

end Roster
