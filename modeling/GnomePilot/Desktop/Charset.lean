import GnomePilot.Lib.CString

/-!
# Texts of the desktop and of the pilot

The desktop keeps texts in UTF-8, the pilot in a charset of its own.
-/

namespace GnomePilot

/-- `convert_ToPilotChar_WithCharset` and `convert_FromPilotChar_WithCharset` with the
charset of the pilot; either of them can fail. -/
structure Charset where
  convertToPilotChar : CString → Option CString
  convertFromPilotChar : CString → Option CString

namespace Charset

/-- `e_pilot_utf8_to_pchar` of a string: what cannot be converted stays as it is. -/
def utf8ToPchar (charset : Charset) (string : CString) : CString :=
  (charset.convertToPilotChar string).getD string

/-- `e_pilot_utf8_from_pchar` of a string -/
def utf8FromPchar (charset : Charset) (string : CString) : CString :=
  (charset.convertFromPilotChar string).getD string

/-- The text of the desktop comes back from the pilot. -/
def Keeps (charset : Charset) (string : CString) : Prop :=
  charset.utf8FromPchar (charset.utf8ToPchar string) = string

end Charset

end GnomePilot
