/-!
# Bytes

The contents of files and the output of programs are finite sequences of bytes.
Text becomes bytes by UTF-8, the only encoding this library writes.
-/

namespace BridgeSetup

/-- A finite sequence of bytes. -/
abbrev Bytes := List UInt8

namespace Bytes

/-- The UTF-8 encoding of a text. -/
def ofString (text : String) : Bytes :=
  text.toList.flatMap String.utf8EncodeChar

end Bytes

end BridgeSetup
