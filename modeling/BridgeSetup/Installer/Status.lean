import BridgeSetup.Text.Blank
import BridgeSetup.Text.Lines

/-!
# The installer's status line

The installer reports its status on a line of its output that starts with `statusTag`.
Other lines may stand before and after it; the last status line counts, and if its value
is not an integer of 32 bits there is no status.
-/

namespace BridgeSetup.Status

/-- What the line with the status starts with. -/
def statusTag : String := "JPY_STATUS="

/-- The greatest status. -/
def greatest : Int := 2147483647

/-- The least status. -/
def least : Int := -2147483648

/-- The number that decimal digits denote; there must be at least one. -/
def digits? : List Char → Option Nat
  | [] => none
  | chars =>
    if chars.all Char.isDigit then
      some (chars.foldl (fun value c => 10 * value + (c.toNat - '0'.toNat)) 0)
    else none

/-- The integer that a text denotes: digits, with an optional sign before them. -/
def integer? (chars : List Char) : Option Int :=
  match chars with
  | '-' :: rest => (digits? rest).map fun value => -Int.ofNat value
  | '+' :: rest => (digits? rest).map Int.ofNat
  | _ => (digits? chars).map Int.ofNat

/-- The status that a text denotes, an integer of 32 bits. -/
def parse (chars : List Char) : Option Int :=
  (integer? chars).filter fun value => least ≤ value && value ≤ greatest

/-- What follows the tag on a status line. -/
def value? (line : String) : Option (List Char) :=
  let chars := (Text.trim line).toList
  let tag := statusTag.toList
  if tag.isPrefixOf chars then some (chars.drop tag.length) else none

/-- The status that an output reports. -/
def ofOutput (output : String) : Option Int :=
  ((Text.lines output).reverse.findSome? value?).bind parse

/-- The last line of a text that is not blank, without white space around it. -/
def lastLine (text : String) : String :=
  (((Text.lines text).reverse.map Text.trim).find? (· ≠ "")).getD "no error output"

end BridgeSetup.Status
