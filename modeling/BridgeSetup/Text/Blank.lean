/-!
# White space

The characters with the Unicode property `White_Space`, and the removal of such
characters from the ends of a text.
-/

namespace BridgeSetup.Text

/-- The closed ranges of code points with the property `White_Space`. -/
def blankRanges : List (Nat × Nat) :=
  [(0x09, 0x0D), (0x20, 0x20), (0x85, 0x85), (0xA0, 0xA0), (0x1680, 0x1680),
   (0x2000, 0x200A), (0x2028, 0x2029), (0x202F, 0x202F), (0x205F, 0x205F), (0x3000, 0x3000)]

/-- Whether a character has the property `White_Space`. -/
def isBlank (c : Char) : Bool :=
  blankRanges.any fun (first, last) => first ≤ c.toNat && c.toNat ≤ last

/-- A list of characters without its leading white space. -/
def dropBlanks (chars : List Char) : List Char :=
  chars.dropWhile isBlank

/-- A list of characters without its trailing white space. -/
def dropFinalBlanks (chars : List Char) : List Char :=
  (dropBlanks chars.reverse).reverse

/-- A text without white space at its end. -/
def trimEnd (text : String) : String :=
  String.ofList (dropFinalBlanks text.toList)

/-- A text without white space at either end. -/
def trim (text : String) : String :=
  String.ofList (dropFinalBlanks (dropBlanks text.toList))

/-- Whether a text consists of white space only. -/
def isBlankText (text : String) : Bool :=
  text.toList.all isBlank

end BridgeSetup.Text
