import BridgeSetup.Text.LowerCase
import BridgeSetup.Text.Quoted.Table

/-!
# Quoted text

The form in which diagnostics show a string: between double quotes, with a backslash
before double quotes and backslashes, short escapes for the common controls, and
`\u` with the code point in braces for every character that has no printed shape of its
own or would combine with the character before it.
-/

namespace BridgeSetup.Text

/-- The hexadecimal digits of a number, in lower case. -/
def hexadecimal (n : Nat) : List Char :=
  Nat.toDigits 16 n

/-- Whether a character appears in quoted text as it is. -/
def isPrintedAsIs (c : Char) : Bool :=
  if c.toNat < 0x80 then 0x20 ≤ c.toNat && c.toNat < 0x7F
  else !inRanges unprintableRanges c.toNat && !inRanges graphemeExtendRanges c.toNat

/-- A character as quoted text shows it. -/
def quotedChar (c : Char) : List Char :=
  match c with
  | '"' => ['\\', '"']
  | '\\' => ['\\', '\\']
  | '\n' => ['\\', 'n']
  | '\r' => ['\\', 'r']
  | '\t' => ['\\', 't']
  | '\x00' => ['\\', '0']
  | c =>
    if isPrintedAsIs c then [c]
    else ['\\', 'u', '\x7b'] ++ hexadecimal c.toNat ++ ['\x7d']

/-- A text between double quotes. -/
def quoted (text : String) : String :=
  String.ofList ('"' :: text.toList.flatMap quotedChar ++ ['"'])

end BridgeSetup.Text
