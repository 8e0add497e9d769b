import BridgeSetup.Text.Bytes

/-!
# The bytes of an archive

Records of an archive are found by the signatures they start with, and hold numbers lowest
byte first. A stretch of bytes that does not lie within the archive is no stretch at all,
so a record that is cut off is never read in part.
-/

namespace BridgeSetup.Zip

/-- The bytes of an archive file. -/
abbrev Image := Array UInt8

/-- A stretch of an image that lies within it. -/
def slice? (image : Image) (start length : Nat) : Option Bytes :=
  if start + length ≤ image.size then some (image.extract start (start + length)).toList
  else none

/-- The number that a record holds at an offset in `width` bytes, lowest byte first. -/
def field (record : Bytes) (offset : Nat) : (width : Nat) → Nat
  | 0 => 0
  | width + 1 => (record.getD offset 0).toNat + 256 * field record (offset + 1) width

/-- The count of two bytes that stands for one that is written elsewhere. -/
def wideCount : Nat := 0xFFFF

/-- The number of four bytes that stands for one that is written elsewhere. -/
def wideNumber : Nat := 0xFFFFFFFF

/-- The length of a signature. -/
def signatureSize : Nat := 4

/-- Whether a signature stands at a place. -/
def signedAt (image : Image) (signature : Bytes) (place : Nat) : Bool :=
  slice? image place signatureSize = some signature

/-- The places from `start` on at which a signature stands that ends at `limit` at the
latest, the first place first. -/
def placesBetween (image : Image) (signature : Bytes) (start limit : Nat) : List Nat :=
  (List.range' start (limit + 1 - (start + signatureSize))).filter (signedAt image signature)

/-- The last place at which a signature stands that ends at `limit` at the latest. -/
def placeBefore (image : Image) (signature : Bytes) : (limit : Nat) → Option Nat
  | 0 => none
  | limit + 1 =>
    let place := limit + 1 - signatureSize
    if signatureSize ≤ limit + 1 && signedAt image signature place then some place
    else placeBefore image signature limit

end BridgeSetup.Zip
